import RuntimeLauncher.Settings.Basic
import RuntimeLauncher.Store.Session

/-!
# Discovery

The store names the runtime in two steps: a value of the runtime's key holds the version in use, and
a value of the key of that version holds the directory. The proxy is a single value.

## Main Definitions

* `LocateError` — the step that failed
* `locateRuntime` — the path of the runtime's program
* `resolveProxy` — the address of the proxy, if there is one

## Design Notes

Paths in errors are spelled as the settings and the store spell them. That no proxy is found is no
error, whatever the reason.
-/

namespace RuntimeLauncher

/-- Why the runtime was not found. -/
inductive LocateError where
  | openKey (path : String) (reason : Store.Error)
  | readValue (path : String) (reason : Store.Error)
deriving DecidableEq

/-- The wording of an error. -/
def LocateError.message : LocateError → String
  | .openKey path _ => "Error opening registry key '" ++ path ++ "'"
  | .readValue path _ => "Failed reading value of registry key: " ++ path

/-- The path of the runtime's program. -/
def locateRuntime (settings : RuntimeSettings) : Session (Except LocateError String) :=
  Session.withKey (fun store => store.open settings.hive settings.key)
    (fun e => pure (.error (.openKey settings.key e)))
    fun key =>
      match key.readString settings.versionValue with
      | .error e => pure (.error (.readValue (settings.key ++ "\\" ++ settings.versionValue) e))
      | .ok version =>
        let installPath := settings.key ++ "\\" ++ version
        Session.withKey (fun store => store.openSubkey key version)
          (fun e => pure (.error (.openKey installPath e)))
          fun install =>
            match install.readString settings.homeValue with
            | .error e => pure (.error (.readValue (installPath ++ "\\" ++ settings.homeValue) e))
            | .ok home => do
              Session.log <| Logged.debug "jxta_launcher::locator"
                ("Found Java " ++ version ++ " at " ++ home)
              pure (.ok (home ++ settings.binarySuffix))

/-- A note on the proxy. -/
def proxyNote (text : String) : Session Unit :=
  Session.log (Logged.debug "jxta_launcher::proxy" text)

/-- The address of the proxy. -/
def resolveProxy (settings : ProxySettings) : Session (Option String) :=
  Session.withKey (fun store => store.open settings.hive settings.key)
    (fun e => do
      proxyNote ("No proxy settings key: " ++ e.message)
      pure none)
    fun key =>
      match key.readString settings.value with
      | .ok address => do
        proxyNote ("Using proxy " ++ address)
        pure (some address)
      | .error e => do
        proxyNote ("No proxy configured: " ++ e.message)
        pure none

end RuntimeLauncher
