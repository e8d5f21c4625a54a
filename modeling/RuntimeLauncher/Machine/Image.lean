import RuntimeLauncher.Command
import RuntimeLauncher.Files.Tree
import RuntimeLauncher.Launch.Error

/-!
# Process images

Handing a process over means that the system loads a program file into it. The file is found by its
name, checked, and recognised by its first bytes.

## Main Definitions

* `Image` — what runs after a process is handed over
* `Image.candidates` — the paths that are tried for a program's name
* `Image.load` — loads the file at a path, with interpreters in front of scripts
* `Image.replace` — hands the process over to a launch command

## Design Notes

A name with a slash is a path from the working directory. Any other name is looked up in the
directories of the search path, where a missing file sends the search on and a forbidden one is
remembered. A file that the system does not recognise as a program is given to the shell.

A script names its interpreter in its first line. Interpreters may be scripts themselves, up to a
fixed depth. Nothing is loaded for a name or an argument with a null character in it.
-/

namespace RuntimeLauncher

/-- What runs after a process is handed over: a file, and the arguments from the program's name
on. -/
structure Image where
  program : Place
  arguments : List String
deriving DecidableEq

namespace Image

/-! ### Recognising a file -/

/-- What the first bytes of a file say about it. -/
inductive Format where
  /-- Machine code. -/
  | native
  /-- A script with its interpreter and at most one argument for it. -/
  | script (interpreter : String) (argument : Option String)
  | unknown
deriving DecidableEq

/-- How many bytes of a file are looked at. -/
def headSize : Nat := 256

/-- A blank inside the first line of a script. -/
def isBlank (b : UInt8) : Bool := b == 32 || b == 9

/-- The end of an interpreter's path. -/
def endsPath (b : UInt8) : Bool := isBlank b || b == 0

/-- Bytes as text, if they are text. -/
def textOf? (bytes : List UInt8) : Option String := (Octets.ofBytes bytes).text?

/-- Takes blanks off the end. -/
def trimEnd (bytes : List UInt8) : List UInt8 := (bytes.reverse.dropWhile isBlank).reverse

/-- The name of an interpreter and its argument, if both are text. -/
def scriptOf (path : List UInt8) (argument : Option (List UInt8)) : Format :=
  match textOf? path, argument.map textOf? with
  | some path, none => .script path none
  | some path, some (some argument) => .script path (some argument)
  | _, _ => .unknown

/-- The format of a script whose first line ends among the first bytes. Blanks at its end do not
count, and neither does an argument without a character. -/
def formatOfLine (line : List UInt8) : Format :=
  let line := (trimEnd line).dropWhile isBlank
  let path := line.takeWhile fun b => !isBlank b
  let rest := (line.drop path.length).dropWhile isBlank
  if path.isEmpty then .unknown else scriptOf path (if rest.isEmpty then none else some rest)

/-- The format of a script whose first line does not end among the first bytes. The interpreter's
path must end there, or it could be cut off. After a path that ends in a blank there is always an
argument, even if it is empty. The last of the bytes never belongs to either. -/
def formatOfPart (part : List UInt8) : Format :=
  if !(part.dropWhile isBlank).any endsPath then .unknown
  else
    let part := (trimEnd part.dropLast).dropWhile isBlank
    let path := part.takeWhile fun b => !endsPath b
    let rest := part.drop path.length
    if part.isEmpty then .unknown
    else if (rest.head?.map isBlank).getD false then
      scriptOf path (some ((rest.dropWhile isBlank).takeWhile (· != 0)))
    else scriptOf path none

/-- The first bytes of a file, with null bytes after a short one. -/
def headOf (bytes : List UInt8) : List UInt8 :=
  let head := bytes.take headSize
  head ++ List.replicate (headSize - head.length) 0

/-- The format of a file by its first bytes. A line's end after a null byte is not looked for. -/
def formatOf (bytes : List UInt8) : Format :=
  match headOf bytes with
  | 0x7f :: 0x45 :: 0x4c :: 0x46 :: _ => .native
  | 0x23 :: 0x21 :: rest =>
    let line := rest.takeWhile fun b => b != 10 && b != 0
    if (rest.drop line.length).head? == some 10 then formatOfLine line else formatOfPart rest
  | _ => .unknown

/-! ### Loading -/

/-- The program file at a path. -/
def openProgram (tree : FileTree) (cwd : Place) (path : String) :
    Except Failure (Place × Octets) := do
  let place ← tree.locate true cwd path
  match tree.node? place with
  | some (.file content true) => pure (place, content)
  | none => throw .notFound
  | _ => throw .denied

/-- The program file of an interpreter. The empty name stands for the working directory, which is no
program. -/
def openInterpreter (tree : FileTree) (cwd : Place) (path : String) :
    Except Failure (Place × Octets) :=
  if path.isEmpty then .error .denied else openProgram tree cwd path

/-- The longest argument in bytes, with the null byte after it. -/
def maxArgument : Nat := 131072

/-- The most bytes in all arguments together. -/
def maxArguments : Nat := 2097152

/-- The arguments fit into a new process. -/
def argumentsFit (arguments : List String) : Bool :=
  arguments.all (fun argument => argument.utf8ByteSize + 1 ≤ maxArgument) &&
    (arguments.map fun argument => argument.utf8ByteSize + 9).foldr (· + ·) 0 ≤ maxArguments

/-- How many interpreters may stand in front of one another. -/
def maxInterpreters : Nat := 5

/-- Loads the file at a path, behind at most `depth` interpreters. -/
def loadWithin (tree : FileTree) (cwd : Place) : Nat → String → List String → Except Failure Image
  | depth, path, arguments => do
    let (place, content) ← openProgram tree cwd path
    if !argumentsFit arguments then throw .argumentsTooLong
    match formatOf content.bytes with
    | .native => pure ⟨place, arguments⟩
    | .unknown => throw .notExecutable
    | .script interpreter argument =>
      let _ ← openInterpreter tree cwd interpreter
      match depth with
      | 0 => throw .tooManyLinks
      | depth + 1 =>
        loadWithin tree cwd depth interpreter
          (interpreter :: argument.toList ++ path :: arguments.drop 1)

/-- Loads the file at a path. -/
def load (tree : FileTree) (cwd : Place) (path : String) (arguments : List String) :
    Except Failure Image :=
  loadWithin tree cwd maxInterpreters path arguments

/-- The shell that takes files of unknown format. -/
def shell : String := "/bin/sh"

/-- Loads the file at a path, or has the shell run it if its format is unknown. -/
def loadOrInterpret (tree : FileTree) (cwd : Place) (path : String) (arguments : List String) :
    Except Failure Image :=
  match load tree cwd path arguments with
  | .error e =>
    if e = .notExecutable then load tree cwd shell (shell :: path :: arguments.drop 1)
    else .error e
  | found => found

/-! ### Finding a program -/

/-- The directories that are searched where no search path is set. -/
def defaultSearchPath : String := "/bin:/usr/bin"

/-- The paths that are tried for a name. An empty directory stands for the working directory. -/
def candidates (searchPath : Option String) (name : String) : List String :=
  if name.toList.contains '/' then [name]
  else
    let dirs := Text.splitBy (· == ':') (searchPath.getD defaultSearchPath).toList
    dirs.map fun dir => if dir.isEmpty then name else String.ofList dir ++ "/" ++ name

/-- A failure that sends the search on to the next directory. -/
def isPassable (e : Failure) : Bool := e = .denied || e = .notFound || e = .notDirectory

/-- Tries paths one after another. `worst` is what the search fails with at its end. -/
def tryAll (tree : FileTree) (cwd : Place) (arguments : List String) :
    Failure → List String → Except Failure Image
  | worst, [] => .error worst
  | worst, path :: rest =>
    match loadOrInterpret tree cwd path arguments with
    | .ok image => .ok image
    | .error e =>
      if isPassable e then
        tryAll tree cwd arguments (if worst = .denied then worst else e) rest
      else .error e

/-- Loads the program of a name. The arguments start with the name. -/
def find (tree : FileTree) (cwd : Place) (searchPath : Option String) (name : String)
    (arguments : List String) : Except Failure Image :=
  if name.isEmpty then .error .notFound
  else if name.toList.contains '/' then loadOrInterpret tree cwd name arguments
  else if name.utf8ByteSize > FileTree.maxName then .error .nameTooLong
  else tryAll tree cwd arguments .notFound (candidates searchPath name)

/-- A text that can be handed to the system. -/
def isPassedOn (text : String) : Bool := !text.toList.contains '\x00'

/-- Hands the process over to a launch command. -/
def replace (tree : FileTree) (cwd : Place) (searchPath : Option String) (command : Command) :
    Except ExecError Image :=
  let arguments := command.runtime :: command.arguments
  let result :=
    if arguments.all isPassedOn then find tree cwd searchPath command.runtime arguments
    else .error .nullInArgument
  result.mapError fun failure => ⟨command.runtime, failure⟩

end Image

end RuntimeLauncher
