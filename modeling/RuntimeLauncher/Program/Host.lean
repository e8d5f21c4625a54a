import RuntimeLauncher.Command
import RuntimeLauncher.Log.Filter
import RuntimeLauncher.Path.Basic
import RuntimeLauncher.Settings.Search

/-!
# The host of the program

## Main Definitions

* `Host` — what the program finds around it
* `Host.configDir?`, `Host.settingsDirs`, `Host.storeFile?` — where it looks for files
* `Host.logFilter` — what the user wants to see of the log
-/

namespace RuntimeLauncher

/-- What the program finds around it. -/
structure Host where
  environment : Environment
  files : Files
  workDir : Except Failure String
  /-- The directory of the program's own file. -/
  exeDir : Option String
  /-- The home directory of the user's account. -/
  accountHome : Option String
  /-- The version with the mark of the build. -/
  version : String
  /-- The time as log lines show it. -/
  logTime : String
  /-- The time as crash reports show it. -/
  crashTime : String
  /-- The place in the program that crash reports name. -/
  crashSite : String
  /-- How writing to the error stream fails, if it does. -/
  brokenErrors : Option Failure

namespace Host

/-- The user's home directory. -/
def home? (host : Host) : Option String :=
  ((host.environment "HOME").filter fun home => !home.isEmpty).or host.accountHome

/-- The directory of all programs' settings. A relative path in the variable does not count. -/
def settingsRoot? (host : Host) : Option String :=
  let named := (host.environment "XDG_CONFIG_HOME").filter fun dir => Path.isAbsolute dir.toList
  named.or (host.home?.map fun home => Path.join home ".config")

/-- The directory of the launcher's settings. -/
def configDir? (host : Host) : Option String :=
  host.settingsRoot?.map fun root => Path.join root "jxta-launcher"

/-- The directories that are searched for settings, the user's first. -/
def settingsDirs (host : Host) : List String := host.configDir?.toList ++ host.exeDir.toList

/-- The file that holds the store. -/
def storeFile? (host : Host) (settings : Settings) : Option String :=
  settings.storeFile.or (host.configDir?.map fun dir => Path.join dir "store.yml")

/-- The directory of crash reports. -/
def crashDir (host : Host) : String :=
  host.configDir?.getD ((host.environment "TMPDIR").getD "/tmp")

/-- What the user wants to see of the log. -/
def logFilter (host : Host) : Except Text.Slip Log.Filter :=
  Log.Filter.ofVariable (host.environment "RUST_LOG")

end Host

end RuntimeLauncher
