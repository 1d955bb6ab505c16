import HostedFiles.Config.Source
import HostedFiles.Environment.File
import HostedFiles.Store.Basic

/-!
# Host/Settings — where settings come from

Settings are read from the environment once a settings file has been taken into it.  At the start
the file only fills in what is missing; later it overrides, so that editing it has an effect.
-/

namespace HostedFiles.Host

/-- Why new settings are not taken. -/
inductive SettingsError where
  | config (e : ConfigError)
  /-- A settings file that was asked for could not be taken in. -/
  | file (path : String) (problem : EnvFile.Problem)
  /-- The directory for uploads could not be made. -/
  | uploads (path : String) (e : StoreError)
  deriving DecidableEq

namespace SettingsError

/-- The reason in words. -/
def message : SettingsError → String
  | config e => e.message
  | file path _ => "Failed to read env file " ++ path
  | uploads path _ => "Failed to prepare upload directory " ++ path

/-- What led to it, from the outside in. -/
def causes : SettingsError → List String
  | config _ => []
  | file _ problem => problem.causes
  | uploads _ e => [e.message]

end SettingsError

/-- The valid settings in an environment. -/
def ofEnvironment (e : Environment) : Except ConfigError Config :=
  Config.ofSource e.get?

/-- The settings at the start, and the environment with what the settings file filled in. -/
def initialSettings (d : Disk) (e : Environment) : Except ConfigError Config × Environment :=
  let e := EnvFile.loadDefault .fillIn d e
  (ofEnvironment e, e)

/-- The settings read anew, and the environment that the settings file has overridden. -/
def renewedSettings (d : Disk) (e : Environment) : Except ConfigError Config × Environment :=
  let e := EnvFile.loadDefault .override d e
  (ofEnvironment e, e)

/-- The settings that a file gives, and the environment it has overridden. -/
def settingsOfFile (path : String) (d : Disk) (e : Environment) :
    Except SettingsError Config × Environment :=
  match EnvFile.load .override path d e with
  | (.error problem, e) => (.error (.file path problem), e)
  | (.ok (), e) => ((ofEnvironment e).mapError .config, e)

/-- Makes the directory for uploads. -/
def prepareUploads (c : Config) (d : Disk) : Except SettingsError Unit × Disk :=
  match Store.prepare c.storagePath d with
  | (.ok (), d) => (.ok (), d)
  | (.error e, d) => (.error (.uploads c.storagePath e), d)

end HostedFiles.Host
