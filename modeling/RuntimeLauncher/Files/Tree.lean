import RuntimeLauncher.Files.View
import RuntimeLauncher.Text.Pieces

/-!
# File trees

A file tree is a file system as a value: directories, regular files and symbolic links at places
below one root.

## Main Definitions

* `FileTree` — nodes by place
* `FileTree.walk` — follows a path from a place, through links and parent steps
* `FileTree.stat`, `FileTree.list`, `FileTree.readText` — the questions of `Files`
* `FileTree.view` — a tree as `Files`, seen from a working directory

## Design Notes

A place is the list of names from the root, and the tree holds at most one node at each place, so a
parent step takes off the last name. The walk ends because every step uses up a name, or a link from
a fixed supply. Four rules bound a walk: a name has at most 255 bytes, a path fewer than 4096, at
most 40 links are followed, and a step through anything but a directory fails.
-/

namespace RuntimeLauncher

/-- The names that lead from the root to a place. -/
abbrev Place := List Octets

/-- What a file tree holds at a place. -/
inductive FileNode where
  | directory
  | file (content : Octets) (executable : Bool)
  | link (target : String)
deriving DecidableEq

/-- A file system as a value. The root is always a directory. -/
structure FileTree where
  nodes : List (Place × FileNode)

namespace FileTree

/-- The tree that holds only its root. -/
def empty : FileTree := ⟨[]⟩

/-- The node at a place. -/
def node? (tree : FileTree) (place : Place) : Option FileNode :=
  if place.isEmpty then some .directory else tree.nodes.lookup place

/-- Puts a node at a place, in the stead of one that stands there. -/
def setNode (tree : FileTree) (place : Place) (node : FileNode) : FileTree :=
  ⟨tree.nodes.filter (fun entry => entry.1 != place) ++ [(place, node)]⟩

/-- Takes away the node at a place and everything below it. -/
def dropNode (tree : FileTree) (place : Place) : FileTree :=
  ⟨tree.nodes.filter fun entry => !place.isPrefixOf entry.1⟩

/-! ### Following a path -/

/-- One step of a path. -/
inductive Step where
  | here
  | up
  | down (name : Octets)
deriving DecidableEq

/-- The longest name, in bytes. -/
def maxName : Nat := 255

/-- A path must be shorter than this, in bytes. -/
def maxPath : Nat := 4096

/-- How many links one walk follows. -/
def maxLinks : Nat := 40

/-- A name as a step. -/
def Step.ofName (name : List Char) : Step :=
  if name = ['.'] then .here
  else if name = ['.', '.'] then .up
  else .down (.text (String.ofList name))

/-- The steps of a path, with one step to stand still if it ends in a slash. -/
def stepsOf (path : List Char) : List Step :=
  let steps := (Text.pieces (· == '/') path).map Step.ofName
  if path.getLast? = some '/' then steps ++ [.here] else steps

/-- The steps of a path whose names need not be text. -/
def stepsOfBytes (path : List UInt8) : List Step :=
  match Octets.ofBytes path with
  | .text path => stepsOf path.toList
  | .raw bytes =>
    let names := bytes.splitOn 47
    (names.filter fun name => !name.isEmpty).map fun name =>
      match Octets.ofBytes name with
      | .text name => Step.ofName name.toList
      | .raw bytes => .down (.raw bytes)

/-- The node at a place, if it is a directory. -/
def isDirectory (tree : FileTree) (place : Place) : Bool :=
  tree.node? place = some .directory

/-- Follows steps from a place. With `last` the link at the very end is followed too. -/
def walk (tree : FileTree) (last : Bool) (links : Nat) (place : Place) (steps : List Step) :
    Except Failure Place :=
  match steps with
  | [] => .ok place
  | step :: rest =>
    if !tree.isDirectory place then .error .notDirectory
    else
      match step with
      | .here => tree.walk last links place rest
      | .up => tree.walk last links place.dropLast rest
      | .down name =>
        if name.size > maxName then .error .nameTooLong
        else
          match tree.node? (place ++ [name]) with
          | none => .error .notFound
          | some (.link target) =>
            if rest.isEmpty && !last then .ok (place ++ [name])
            else
              match links with
              | 0 => .error .tooManyLinks
              | links + 1 =>
                let start := if target.toList.head? = some '/' then [] else place
                tree.walk last links start (stepsOf target.toList ++ rest)
          | some _ => tree.walk last links (place ++ [name]) rest
termination_by (links, steps.length)

/-- The refusals that are made of a path's text before any walk. -/
def checkPath (path : String) : Except Failure Unit :=
  if path.toList.contains '\x00' then .error .nullInPath
  else if path.isEmpty then .error .notFound
  else if path.utf8ByteSize ≥ maxPath then .error .nameTooLong
  else .ok ()

/-- The place that a path leads to from a working directory. -/
def locate (tree : FileTree) (last : Bool) (cwd : Place) (path : String) :
    Except Failure Place := do
  checkPath path
  let start := if path.toList.head? = some '/' then [] else cwd
  tree.walk last maxLinks start (stepsOf path.toList)

/-! ### The questions -/

/-- The kind of a node. -/
def kindOf : FileNode → Files.Kind
  | .directory => .directory
  | .file _ _ => .file
  | .link _ => .link

/-- What stands at a path, at the end of all links. -/
def stat (tree : FileTree) (cwd : Place) (path : String) : Except Failure Files.Kind := do
  let place ← tree.locate true cwd path
  match tree.node? place with
  | some node => pure (kindOf node)
  | none => throw .notFound

/-- Orders listings by name. Names that are not text come last. -/
def nameLE : Files.Entry → Files.Entry → Bool
  | ⟨.text a, _⟩, ⟨.text b, _⟩ => a ≤ b
  | ⟨.text _, _⟩, ⟨.raw _, _⟩ => true
  | ⟨.raw _, _⟩, ⟨.text _, _⟩ => false
  | ⟨.raw a, _⟩, ⟨.raw b, _⟩ => decide (a ≤ b)

/-- The entries directly below a place. -/
def entriesAt (tree : FileTree) (place : Place) : List Files.Entry :=
  tree.nodes.filterMap fun entry =>
    match entry.1.getLast? with
    | some name => if entry.1 = place ++ [name] then some ⟨name, kindOf entry.2⟩ else none
    | none => none

/-- The entries of a directory in the order of their names. -/
def list (tree : FileTree) (cwd : Place) (path : String) :
    Except Failure (List Files.Entry) := do
  let place ← tree.locate true cwd path
  if tree.isDirectory place then pure ((tree.entriesAt place).mergeSort nameLE)
  else throw .notDirectory

/-- The text of a file. -/
def readText (tree : FileTree) (cwd : Place) (path : String) : Except Failure String := do
  let place ← tree.locate true cwd path
  match tree.node? place with
  | some (.file (.text text) _) => pure text
  | some (.file (.raw _) _) => throw .invalidUtf8
  | some .directory => throw .isDirectory
  | _ => throw .notFound

/-- A tree as seen from a working directory. -/
def view (tree : FileTree) (cwd : Place) : Files where
  stat := tree.stat cwd
  list := tree.list cwd
  readText := tree.readText cwd

/-- A place as an absolute path. A name that is not text shows as a question mark. -/
def placeText (place : Place) : String :=
  if place.isEmpty then "/"
  else String.join (place.map fun name => "/" ++ (name.text?.getD "?"))

/-! ### Changing a tree -/

/-- Makes the directories that a path names and that are not there yet. -/
def makeDirs (tree : FileTree) (place : Place) : List Step → Except Failure (FileTree × Place)
  | [] =>
    if tree.isDirectory place then .ok (tree, place) else .error .notDirectory
  | step :: rest =>
    match tree.walk true maxLinks place [step] with
    | .ok next => tree.makeDirs next rest
    | .error e =>
      match step with
      | .down name =>
        if e = .notFound && tree.node? (place ++ [name]) = none then
          (tree.setNode (place ++ [name]) .directory).makeDirs (place ++ [name]) rest
        else .error e
      | _ => .error e

/-- Puts a node at the end of the steps and makes the directories above it. A file goes to the end
of a link that stands there. -/
def put (tree : FileTree) (place : Place) (steps : List Step) (node : FileNode) :
    Except Failure FileTree := do
  let (tree, above) ← tree.makeDirs place steps.dropLast
  match steps.getLast?, node with
  | some (.down name), .directory =>
    let (tree, _) ← tree.makeDirs above [.down name]
    pure tree
  | some (.down name), node =>
    match tree.walk true maxLinks above [.down name], node with
    | .ok there, .file _ _ => pure (tree.setNode there node)
    | _, _ => pure (tree.setNode (above ++ [name]) node)
  | _, _ => pure tree

/-- Takes away what stands at the end of the steps, a link itself and not its target. -/
def remove (tree : FileTree) (place : Place) (steps : List Step) : Except Failure FileTree := do
  let there ← tree.walk false maxLinks place steps
  pure (tree.dropNode there)

end FileTree

end RuntimeLauncher
