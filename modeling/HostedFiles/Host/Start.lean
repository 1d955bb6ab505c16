import HostedFiles.Host.Live
import HostedFiles.Log.Line

/-!
# Host/Start — starting the service

The settings are read and checked, logging is set up, the directory for uploads is made, and the
service begins to listen.  Each of these steps may be the last; what it says then is all that the
program says besides its log.
-/

namespace HostedFiles.Host

/-- Why the service does not start. -/
inductive StartError where
  /-- There are no valid settings. -/
  | settings (e : ConfigError)
  /-- The settings are not fit to run with. -/
  | unfit (e : ConfigError)
  | uploads (e : SettingsError)
  | listening (problem : String)
  deriving DecidableEq

namespace StartError

/-- The reason in words. -/
def message : StartError → String
  | settings e => e.message
  | unfit _ => "Configuration validation failed"
  | uploads e => e.message
  | listening problem => problem

/-- What led to it, from the outside in. -/
def causes : StartError → List String
  | settings _ | listening _ => []
  | unfit e => [e.message]
  | uploads e => e.causes

/-- The reason and what led to it in one line. -/
def chain (e : StartError) : String :=
  String.intercalate ": " (e.message :: e.causes)

/-- The lines of a text, each behind four spaces and with its end. -/
def indented (s : String) : String :=
  String.join ((Text.splitAll '\n' s.toList).map fun line =>
    "    " ++ String.ofList line ++ "\n")

/-- What the program says at its end. -/
def report (e : StartError) : String :=
  "Error: " ++ e.message ++ "\n" ++
    (if e.causes = [] then "" else "\nCaused by:\n" ++ String.join (e.causes.map indented))

end StartError

/-! ## Steps -/

/-- Whether settings are fit to run with, and what to warn of. -/
def fit (c : Config) : Except StartError (List Log.Event) :=
  c.check.mapError .unfit

/-- The service under given settings, once the directory for uploads is made. -/
def launch (c : Config) (e : Environment) (d : Disk) : Except StartError Live × Disk :=
  match prepareUploads c d with
  | (.ok (), d) =>
    (.ok { config := c, production := c.isProduction, environment := e, disk := d }, d)
  | (.error problem, d) => (.error (.uploads problem), d)

/-- What is said when a port cannot be had because someone else listens there. -/
def addressInUse : String := "Address already in use (os error 98)"

/-- The address that the service listens on. -/
def address (c : Config) : String :=
  "0.0.0.0:" ++ toString c.serverPort

/-- The name under which a filter of the log is set. -/
def filterName : String := "RUST_LOG"

/-- The names whose values a start looks at. -/
def settingNames : List String :=
  Config.names ++ [filterName]

/-- A start: the service or why there is none, its surroundings, and the lines of its log. -/
structure Start where
  result : Except StartError Live
  environment : Environment
  disk : Disk
  lines : List String

/-- Starts the service.  `listen` tells what is wrong with a port, if anything is. -/
def start (listen : Nat → Option String) (d : Disk) (e : Environment) : Start :=
  match initialSettings d e with
  | (.error problem, e) =>
    { result := .error (.settings problem), environment := e, disk := d, lines := [] }
  | (.ok c, e) =>
    match fit c with
    | .error problem => { result := .error problem, environment := e, disk := d, lines := [] }
    | .ok _ =>
      let production := c.isProduction
      let lines := Log.Event.lines (Log.Filter.ofSetting (e.get? filterName)) production
      let begun := [.loggingReady production, .configurationReady]
      match launch c e d with
      | (.error problem, d) =>
        { result := .error problem, environment := e, disk := d, lines := lines begun }
      | (.ok live, d) =>
        let events := begun ++ [.uploadsReady c.storagePath, .starting (address c)]
        let result := match listen c.serverPort with
          | some problem => .error (.listening problem)
          | none => .ok live
        { result, environment := e, disk := d, lines := lines events }

end HostedFiles.Host
