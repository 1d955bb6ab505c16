import HostedFiles.Host.Settings
import HostedFiles.Service.Routes

/-!
# Host/Live — the service while it runs

Requests are answered under the settings in force.  These are one value that is replaced as a whole,
and only by valid settings.  A reload reads them anew, checks them, warns if another port is asked
for than the one listened on, makes the directory for uploads if it has moved, and then replaces
them; where any of this fails the settings stay as they are.
-/

namespace HostedFiles.Host

/-- The running service: its settings, its surroundings, and whether production was asked for when
it started. -/
structure Live where
  config : Config
  production : Bool
  environment : Environment
  disk : Disk

namespace Live

/-! ## Requests -/

/-- The answer to a request. -/
def answer (live : Live) (r : Http.Request) (fresh : Fresh) : Answer :=
  Service.answer live.production live.config r fresh live.disk

/-- The service after a request: of all that it holds only the disk can have changed. -/
def afterRequest (live : Live) (r : Http.Request) (fresh : Fresh) : Live :=
  { live with disk := (live.answer r fresh).disk }

/-! ## Changes of settings -/

/-- What a change of settings leads to. -/
structure Change where
  live : Live
  result : Except SettingsError Unit
  events : List Log.Event

/-- The change that fails and leaves the settings as they are. -/
def fail (live : Live) (e : SettingsError) (events : List Log.Event) : Change :=
  { live, result := .error e, events }

/-- Puts valid settings in force. -/
def replace (live : Live) (next : Config) (events : List Log.Event) : Change :=
  match next.validate with
  | .ok () => { live := { live with config := next }, result := .ok (), events }
  | .error e => live.fail (.config e) events

/-- The warning that a reload deserves for the port it asks for. -/
def portWarning (current next : Config) : List Log.Event :=
  if next.serverPort = current.serverPort then []
  else [.portKept current.serverPort next.serverPort]

/-- Makes the directory for uploads if it has moved. -/
def moveUploads (current next : Config) (d : Disk) : Except SettingsError Unit × Disk :=
  if Path.same next.storagePath current.storagePath then (.ok (), d) else prepareUploads next d

/-- Puts new settings in force as a reload does. -/
def install (live : Live) (next : Config) : Change :=
  match next.check with
  | .error e => live.fail (.config e) []
  | .ok warnings =>
    let events := warnings ++ portWarning live.config next
    match moveUploads live.config next live.disk with
    | (.error e, d) => fail { live with disk := d } e events
    | (.ok (), d) => replace { live with disk := d } next events

/-- Reads the settings anew and puts them in force. -/
def reload (live : Live) : Change :=
  match renewedSettings live.disk live.environment with
  | (.error e, environment) => fail { live with environment } (.config e) []
  | (.ok next, environment) => install { live with environment } next

/-- Reads the settings anew and puts them in force if they are valid by themselves. -/
def reloadValid (live : Live) : Change :=
  match renewedSettings live.disk live.environment with
  | (.error e, environment) => fail { live with environment } (.config e) []
  | (.ok next, environment) => replace { live with environment } next []

/-- Takes in a settings file and puts the settings in force if they are valid by themselves. -/
def loadFile (live : Live) (path : String) : Change :=
  match settingsOfFile path live.disk live.environment with
  | (.error e, environment) => fail { live with environment } e []
  | (.ok next, environment) => replace { live with environment } next []

/-- What a hang-up signal does: a reload, whose failure is only worth a line. -/
def hangUp (live : Live) : Live × List Log.Event :=
  let change := live.reload
  match change.result with
  | .ok () => (change.live, change.events)
  | .error e => (change.live, change.events ++ [.reloadFailed e.message])

end Live

end HostedFiles.Host
