/-!
# The launch command

A command says which program is to run and with what. It has two written forms: the arguments that
the system gets, and a line for the user that shows what is about to run. Variables of the process
may be handed on to the runtime as properties.

## Main Definitions

* `Property`, `Property.argument` — a system property of the runtime
* `Environment`, `Environment.overrides` — the variables of a process, and the properties made of
  those that are set
* `Command` — a program with its properties, class path and main class
* `Command.arguments` — the arguments for the system
* `Command.commandLine`, `Command.parts`, `Command.echoLine` — the form for the user

## Design Notes

In the form for the user the program and the proxy's address stand in quotes, and all other parts
are written as they are. So a blank or a quote in one of those is shown but not told apart from one
that divides.
-/

namespace RuntimeLauncher

/-- A system property of the runtime. -/
structure Property where
  key : String
  value : String
deriving DecidableEq

/-- A property as one argument. -/
def Property.argument (property : Property) : String :=
  "-D" ++ property.key ++ "=" ++ property.value

/-! ### Variables handed on to the runtime -/

/-- The variables of a process. A variable that is not set, or is not text, has no value. -/
abbrev Environment := String → Option String

namespace Environment

/-- The environment that a list of variables makes. -/
def ofList (bindings : List (String × String)) : Environment := fun name => bindings.lookup name

/-- The properties for those of the keys that are set, in the order of the keys. -/
def overrides (environment : Environment) (keys : List String) : List Property :=
  keys.filterMap fun key => (environment key).map fun value => ⟨key, value⟩

end Environment

/-! ### Commands -/

/-- A program with everything that it is given. -/
structure Command where
  runtime : String
  proxy : Option Property
  overrides : List Property
  classpath : String
  mainClass : String
deriving DecidableEq

namespace Command

/-- The argument before the class path. -/
def classpathFlag : String := "-cp"

/-- All properties, the proxy first. -/
def properties (command : Command) : List Property := command.proxy.toList ++ command.overrides

/-- The properties as arguments. -/
def propertyArguments (command : Command) : List String :=
  command.properties.map Property.argument

/-- The arguments that the system gets. -/
def arguments (command : Command) : List String :=
  command.propertyArguments ++ [classpathFlag, command.classpath, command.mainClass]

/-! ### The form for the user -/

/-- A text in quotes. -/
def inQuotes (text : String) : String := "\"" ++ text ++ "\""

/-- The properties for the user, each after a blank. The proxy's address stands in quotes. -/
def flagText (command : Command) : String :=
  let proxy :=
    match command.proxy with
    | some property => " -D" ++ property.key ++ "=" ++ inQuotes property.value
    | none => ""
  proxy ++ String.join (command.overrides.map fun property => " " ++ property.argument)

/-- The program in quotes with its properties. -/
def commandLine (command : Command) : String := inQuotes command.runtime ++ command.flagText

/-- The four parts of the form for the user. -/
def parts (command : Command) : List String :=
  [command.commandLine, classpathFlag, command.classpath, command.mainClass]

/-- The line that shows the command to the user. -/
def echoLine (command : Command) : String := " ".intercalate command.parts

end Command

end RuntimeLauncher
