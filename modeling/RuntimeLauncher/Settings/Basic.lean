import RuntimeLauncher.Path.Style
import RuntimeLauncher.Store.Basic

/-!
# Settings

Everything that a launch can be told: where the store names the runtime and the proxy, which
variables are handed on, what an intact installation looks like, and what goes on the class path.

## Main Definitions

* `RuntimeSettings`, `ProxySettings`, `Settings` — complete settings
* `Settings.default` — what holds where nothing is set

## Design Notes

The default paths are written with backslashes and brought into the style of the system. There is no
default store file: without one the launcher falls back on a place that depends on the user.
-/

namespace RuntimeLauncher

/-- Where the store names the runtime. -/
structure RuntimeSettings where
  hive : Hive
  key : String
  /-- The value that names the version in use. -/
  versionValue : String
  /-- The value of a version's key that names its directory. -/
  homeValue : String
  /-- The way from that directory to the program. -/
  binarySuffix : String
deriving DecidableEq

/-- Where the store names the proxy, and the property that hands it on. -/
structure ProxySettings where
  hive : Hive
  key : String
  value : String
  property : String
deriving DecidableEq

/-- Complete settings. -/
structure Settings where
  runtime : RuntimeSettings
  proxy : ProxySettings
  /-- The variables that are handed on as properties. -/
  overrideKeys : List String
  /-- Files of which one must be there. -/
  markers : List String
  /-- The directories that are searched for archives. -/
  classpathDirs : List String
  archiveExtension : String
  mainClass : String
  storeFile : Option String
  pathStyle : Path.Style
deriving DecidableEq

/-- The default place of the runtime. -/
def RuntimeSettings.default : RuntimeSettings where
  hive := .localMachine
  key := "Software\\JavaSoft\\Java Runtime Environment"
  versionValue := "CurrentVersion"
  homeValue := "JavaHome"
  binarySuffix := "/bin/java"

/-- The default place of the proxy. -/
def ProxySettings.default : ProxySettings where
  hive := .currentUser
  key := "Software\\Microsoft\\Windows\\CurrentVersion\\Internet Settings"
  value := "ProxyServer"
  property := "jxta.proxy"

namespace Settings

/-- The archive that marks an installation. -/
def markerArchive : String := "jxtashell.jar"

/-- The default markers in a style. -/
def defaultMarkers (style : Path.Style) : List String :=
  ["..\\dist", "..\\lib"].map fun dir => style.localize (dir ++ "\\" ++ markerArchive)

/-- The default directories of archives in a style. -/
def defaultClasspathDirs (style : Path.Style) : List String :=
  [".", ".\\lib", ".\\dist", "..\\lib", "..\\dist"].map style.localize

/-- What holds where nothing is set. -/
def default : Settings where
  runtime := .default
  proxy := .default
  overrideKeys := ["JXTA_HOME", "net.jxta.tls.principal", "net.jxta.tls.password"]
  markers := defaultMarkers .native
  classpathDirs := defaultClasspathDirs .native
  archiveExtension := "jar"
  mainClass := "net.jxta.impl.peergroup.Boot"
  storeFile := none
  pathStyle := .native

end Settings

end RuntimeLauncher
