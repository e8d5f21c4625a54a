import RuntimeLauncher.Yaml.Error
import RuntimeLauncher.Yaml.Event

/-!
# Nodes and documents

## Main Definitions

* `Node` — a node of a document with its parts
* `Document` — the first document of a text, as far as it could be read
* `Document.ofText` — reads a text

## Design Notes

A text may break off in the middle of a document. What stands before the break is kept, and every
collection that was still open holds the error that ended it, since a reader may find something
wrong with the first part before it gets there.

An alias holds a number. The number of an anchor is how many different names were anchored before
it, so an anchor that repeats a name can share its number with the next anchor, and the later of the
two then stands for both.
-/

namespace RuntimeLauncher.Yaml

/-- A node of a document. -/
inductive Node where
  | scalar (mark : Mark) (tag : Option Tag) (text : String) (style : ScalarStyle)
  | seq (mark : Mark) (tag : Option Tag) (items : List Node) (cut : Option Error)
  | map (mark : Mark) (tag : Option Tag) (entries : List (Node × Node)) (cut : Option Error)
  | alias (number : Nat)
  /-- The only node of a text without any. -/
  | void (mark : Mark)
  /-- The text breaks off before this node. -/
  | cut (e : Error)

/-- The first document of a text. -/
structure Document where
  root : Node
  /-- The nodes that aliases stand for. -/
  anchors : List (Nat × Node)
  /-- The number of events that make up the document. -/
  size : Nat
  /-- Why the document could not be read to its end. -/
  failure : Option Error
  /-- Something follows the document. -/
  more : Bool

namespace Document

/-- A collection that is not closed yet. -/
structure Frame where
  isMap : Bool
  mark : Mark
  tag : Option Tag
  /-- The position of its start among the events, if it is anchored. -/
  anchored : Option Nat
  /-- Its parts, last first. A mapping has keys and values in turn. -/
  parts : List Node

/-- A document on the way. -/
structure Builder where
  frames : List Frame
  root : Option Node
  /-- The number of each anchor's name. -/
  names : List (String × Nat)
  /-- The position of the node that last took a number, latest first. -/
  starts : List (Nat × Nat)
  /-- The anchored nodes by position. -/
  finished : List (Nat × Node)
  /-- How many events were read. -/
  count : Nat

/-- Keys with their values. A last key may lack its value where the text breaks off. -/
def pairUp (cut : Option Error) : List Node → List (Node × Node)
  | key :: value :: rest => (key, value) :: pairUp cut rest
  | [key] =>
    match cut with
    | some e => [(key, .cut e)]
    | none => []
  | [] => []

/-- The node of a collection, closed or broken off. -/
def Frame.node (frame : Frame) (cut : Option Error) : Node :=
  if frame.isMap then .map frame.mark frame.tag (pairUp cut frame.parts.reverse) cut
  else .seq frame.mark frame.tag frame.parts.reverse cut

namespace Builder

/-- Nothing is read. -/
def empty : Builder := ⟨[], none, [], [], [], 0⟩

/-- Counts an event. -/
def counted (builder : Builder) : Builder := { builder with count := builder.count + 1 }

/-- Gives a number to an anchor at the current position. -/
def anchor (builder : Builder) (name : Option String) : Builder :=
  match name with
  | none => builder
  | some name =>
    let number := builder.names.length
    { builder with
      names := builder.names.filter (fun known => known.1 != name) ++ [(name, number)]
      starts := (number, builder.count) :: builder.starts }

/-- Adds a finished node where it belongs. -/
def add (builder : Builder) (anchored : Option Nat) (node : Node) : Builder :=
  let builder :=
    match anchored with
    | some position => { builder with finished := (position, node) :: builder.finished }
    | none => builder
  match builder.frames with
  | [] => { builder with root := some node }
  | frame :: rest =>
    { builder with frames := { frame with parts := node :: frame.parts } :: rest }

/-- Opens a collection. -/
def openFrame (builder : Builder) (isMap : Bool) (mark : Mark) (name : Option String)
    (tag : Option Tag) : Builder :=
  let frame : Frame := ⟨isMap, mark, tag, name.map fun _ => builder.count, []⟩
  { (builder.anchor name).counted with frames := frame :: builder.frames }

/-- Closes the innermost collection. -/
def closeFrame (builder : Builder) (cut : Option Error) : Builder :=
  match builder.frames with
  | [] => builder
  | frame :: rest => { builder with frames := rest }.add frame.anchored (frame.node cut)

/-- Closes all collections where the text breaks off. -/
def closeAll (cut : Error) : Nat → Builder → Builder
  | 0, builder => builder
  | n + 1, builder => closeAll cut n (builder.closeFrame (some cut))

/-- The document that a builder holds. -/
def finish (builder : Builder) (failure : Option Error) (more : Bool) (stop : Mark) : Document :=
  let builder :=
    match failure with
    | some e => closeAll e builder.frames.length builder
    | none => builder
  let root :=
    match builder.root, failure with
    | some node, _ => node
    | none, some e => .cut e
    | none, none => .void stop
  let anchors := builder.starts.filterMap fun start =>
    (builder.finished.lookup start.2).map fun node => (start.1, node)
  ⟨root, anchors, max builder.count 1, failure, more⟩

/-- Reads events up to the end of the document. -/
def build (row : EventRow) : Builder → List (Event × Mark) → Document
  | builder, [] => builder.finish (row.failure.map .malformed) false row.stop
  | builder, (event, mark) :: rest =>
    match event with
    | .documentStart => build row builder rest
    | .documentEnd =>
      builder.finish none (!rest.isEmpty || row.failure.isSome) row.stop
    | .alias name =>
      match builder.names.lookup name with
      | none => builder.finish (some (.unknownAnchor mark)) false row.stop
      | some number => build row (builder.counted.add none (.alias number)) rest
    | .scalar name tag text style =>
      let position := name.map fun _ => builder.count
      build row ((builder.anchor name).counted.add position (.scalar mark tag text style)) rest
    | .sequenceStart name tag => build row (builder.openFrame false mark name tag) rest
    | .mappingStart name tag => build row (builder.openFrame true mark name tag) rest
    | .sequenceEnd => build row (builder.counted.closeFrame none) rest
    | .mappingEnd => build row (builder.counted.closeFrame none) rest

end Builder

/-- Reads the first document of a text. -/
def ofText (text : String) : Document :=
  let row := eventsOf text
  Builder.build row Builder.empty row.events

/-- The text holds one document and no more, whatever its nodes are. -/
def isWellFormed (document : Document) : Bool := document.failure.isNone && !document.more

end Document

end RuntimeLauncher.Yaml
