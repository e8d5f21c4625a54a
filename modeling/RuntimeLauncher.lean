import RuntimeLauncher.Classpath
import RuntimeLauncher.Command
import RuntimeLauncher.Decimal.Binary
import RuntimeLauncher.Decimal.Shortest
import RuntimeLauncher.Discovery
import RuntimeLauncher.Failure
import RuntimeLauncher.Files.Document
import RuntimeLauncher.Files.Tree
import RuntimeLauncher.Files.View
import RuntimeLauncher.Launch.Basic
import RuntimeLauncher.Launch.Error
import RuntimeLauncher.Launch.Rehearsal
import RuntimeLauncher.Log
import RuntimeLauncher.Log.Directive
import RuntimeLauncher.Log.Filter
import RuntimeLauncher.Log.Pattern
import RuntimeLauncher.Machine.Basic
import RuntimeLauncher.Machine.Image
import RuntimeLauncher.Machine.Shell
import RuntimeLauncher.Machine.Shell.Syntax
import RuntimeLauncher.Main
import RuntimeLauncher.Path.Basic
import RuntimeLauncher.Path.Style
import RuntimeLauncher.Program.Basic
import RuntimeLauncher.Program.Ending
import RuntimeLauncher.Program.Host
import RuntimeLauncher.Program.Questions
import RuntimeLauncher.Proofs.Classpath
import RuntimeLauncher.Proofs.Classpath.Entry
import RuntimeLauncher.Proofs.Discovery
import RuntimeLauncher.Proofs.Files.Locate
import RuntimeLauncher.Proofs.Files.Walk
import RuntimeLauncher.Proofs.Launch.Outcome
import RuntimeLauncher.Proofs.Launch.Replacement
import RuntimeLauncher.Proofs.Log
import RuntimeLauncher.Proofs.Machine.Image
import RuntimeLauncher.Proofs.Path.Components
import RuntimeLauncher.Proofs.Path.Resolution
import RuntimeLauncher.Proofs.Path.Style
import RuntimeLauncher.Proofs.Settings.Leaf
import RuntimeLauncher.Proofs.Settings.Search
import RuntimeLauncher.Proofs.Store.Alike
import RuntimeLauncher.Proofs.Store.Descent
import RuntimeLauncher.Proofs.Store.History
import RuntimeLauncher.Proofs.Store.KeyPath
import RuntimeLauncher.Proofs.Store.Loading
import RuntimeLauncher.Proofs.Store.NormalForm
import RuntimeLauncher.Proofs.Store.Outline
import RuntimeLauncher.Proofs.Store.Session
import RuntimeLauncher.Proofs.Store.Sheet
import RuntimeLauncher.Proofs.Store.Sorted
import RuntimeLauncher.Proofs.Text.AsciiCase
import RuntimeLauncher.Proofs.Text.ByteOrder
import RuntimeLauncher.Proofs.Text.Pieces
import RuntimeLauncher.Proofs.Yaml.Reading
import RuntimeLauncher.Proofs.Yaml.Spoiled
import RuntimeLauncher.Settings.Basic
import RuntimeLauncher.Settings.File
import RuntimeLauncher.Settings.Layer
import RuntimeLauncher.Settings.Search
import RuntimeLauncher.Store.Basic
import RuntimeLauncher.Store.File
import RuntimeLauncher.Store.KeyPath
import RuntimeLauncher.Store.Run
import RuntimeLauncher.Store.Session
import RuntimeLauncher.Store.Sorted
import RuntimeLauncher.Text.Character
import RuntimeLauncher.Text.Octets
import RuntimeLauncher.Text.Pieces
import RuntimeLauncher.Text.Slice
import RuntimeLauncher.Text.Utf8
import RuntimeLauncher.Yaml.Decode
import RuntimeLauncher.Yaml.Error
import RuntimeLauncher.Yaml.Event
import RuntimeLauncher.Yaml.Mark
import RuntimeLauncher.Yaml.Node
import RuntimeLauncher.Yaml.Plain
import RuntimeLauncher.Yaml.Record
import RuntimeLauncher.Yaml.Token
import RuntimeLauncher.Yaml.Token.Lexer
import RuntimeLauncher.Yaml.Token.Property
import RuntimeLauncher.Yaml.Token.Scalar
import RuntimeLauncher.Yaml.Value
import RuntimeLauncher.Proofs.Store.Keeper
import RuntimeLauncher.Proofs.Store.Shared
import RuntimeLauncher.Proofs.Store.Account
import RuntimeLauncher.Proofs.Store.Snapshot
import RuntimeLauncher.Proofs.Launch.HandOver
import RuntimeLauncher.Proofs.Program.Stages
import RuntimeLauncher.Proofs.Discovery.Outcome
import RuntimeLauncher.Proofs.Discovery.Unrelated
import RuntimeLauncher.Proofs.Launch.Sequence
import RuntimeLauncher.Proofs.Files.Listing
import RuntimeLauncher.Proofs.Launch.Marker
import RuntimeLauncher.Proofs.Discovery.Respelling
import RuntimeLauncher.Proofs.Files.Regular
import RuntimeLauncher.Proofs.Launch.BestEffort
import RuntimeLauncher.Proofs.Path.Extension
import RuntimeLauncher.Proofs.Classpath.ReadBack
import RuntimeLauncher.Proofs.Classpath.Segments
import RuntimeLauncher.Proofs.Outcome
import RuntimeLauncher.Proofs.Classpath.Origin
import RuntimeLauncher.Proofs.Command
import RuntimeLauncher.Proofs.Settings.Overlay
import RuntimeLauncher.Proofs.Yaml.Edit
import RuntimeLauncher.Proofs.Settings.File
import RuntimeLauncher.Proofs.Settings.Edit
