import HostedFiles.Encoding.Percent
import HostedFiles.Log
import HostedFiles.Text.Blank
import HostedFiles.Text.Lowercase
import HostedFiles.Text.Number
import HostedFiles.Time

/-!
# Config — the settings of the service

A configuration says where the service listens, where it keeps files, under which address they are
reached, who may upload, and how much.  `validate` finds the first fault that keeps it from being
used; `check` also keeps the mount path apart from the health route and warns of what is allowed but
unwise.
-/

namespace HostedFiles

/-- The settings of the service. -/
structure Config where
  /-- The port to listen on. -/
  serverPort : Nat
  environment : String
  /-- The directory for uploads. -/
  storagePath : String
  /-- The path under which files are uploaded and served, without a slash at its end. -/
  mountPath : String
  publicHost : String
  /-- The port in the public address; zero leaves it out. -/
  publicPort : Nat
  publicSsl : Bool
  /-- Whether an upload needs a credential. -/
  authenticate : Bool
  /-- Whether links are refused on unencrypted connections. -/
  requireSsl : Bool
  tokenSecret : String
  tokenIssuer : String
  tokenLifetime : Duration
  leastLifetime : Duration
  mostLifetime : Duration
  maxUploadBytes : Nat
  deriving DecidableEq

/-- Why a configuration is refused. -/
inductive ConfigError where
  | badPort
  | badPublicPort
  | noSecret
  | shortSecret
  | noIssuer
  | badBounds (least most : Duration)
  | noUploads
  | rootMount
  | badHost
  | healthMount (mountPath : String)
  deriving DecidableEq

namespace Config

open Text

/-- The least length of the secret, in bytes. -/
def minSecretBytes : Nat := 32

/-- The path of the health route. -/
def healthPath : String := "/health"

end Config

/-- The reason in words. -/
def ConfigError.message : ConfigError → String
  | badPort => "PORT must be a valid number"
  | badPublicPort => "FILEHOST_PORT must be a valid port number"
  | noSecret => "FILEHOST_TOKEN_SECRET must be set for upload credentials"
  | shortSecret =>
    "FILEHOST_TOKEN_SECRET must be at least " ++ toString Config.minSecretBytes ++
      " characters long"
  | noIssuer => "FILEHOST_TOKEN_ISSUER cannot be empty"
  | badBounds least most =>
    "Token TTL bounds are invalid: min " ++ toString least.seconds ++ "s, max " ++
      toString most.seconds ++ "s"
  | noUploads => "FILEHOST_MAX_UPLOAD_MB cannot be 0"
  | rootMount => "FILEHOST_URI cannot be the root path; choose a dedicated prefix such as /upload"
  | badHost => "FILEHOST_HOSTNAME must be a bare host name"
  | healthMount mountPath =>
    "FILEHOST_URI " ++ mountPath ++ " collides with the health endpoint"

namespace Config

/-! ## What follows from the settings -/

/-- Whether the service runs in production. -/
def isProduction (c : Config) : Bool :=
  let environment := Text.lowercase c.environment
  environment == "production" || environment == "prod"

/-- The public address of the service. -/
def publicUrl (c : Config) : String :=
  let scheme := if c.publicSsl then "https" else "http"
  let port := if 0 < c.publicPort then ":" ++ toString c.publicPort else ""
  scheme ++ "://" ++ c.publicHost ++ port ++ c.mountPath

/-- The public address of a file. -/
def fileUrl (c : Config) (filename : String) : String :=
  c.publicUrl ++ "/" ++ Percent.encode filename

/-- The lifetime a credential gets when `lifetime` is asked for. -/
def clampLifetime (c : Config) (lifetime : Duration) : Duration :=
  lifetime.clamp c.leastLifetime c.mostLifetime

/-! ## Faults -/

/-- The first fault of the settings by themselves. -/
def validate (c : Config) : Except ConfigError Unit :=
  if c.tokenSecret.utf8ByteSize < minSecretBytes then .error .shortSecret
  else if Text.isBlankText c.tokenIssuer then .error .noIssuer
  else if c.leastLifetime.nanoseconds = 0 ∨
      c.mostLifetime.nanoseconds < c.leastLifetime.nanoseconds then
    .error (.badBounds c.leastLifetime c.mostLifetime)
  else if c.maxUploadBytes = 0 then .error .noUploads
  else if c.mountPath = "/" then .error .rootMount
  else if c.publicHost.toList.contains '/' || c.publicHost.toList.contains ' ' then .error .badHost
  else .ok ()

/-- Whether the mount path is the health route or lies under it. -/
def meetsHealth (c : Config) : Bool :=
  c.mountPath == healthPath || (Text.after? (healthPath ++ "/").toList c.mountPath.toList).isSome

/-- What is allowed but unwise. -/
def warnings (c : Config) : List Log.Event :=
  (if c.isProduction then
    (if c.authenticate then [] else [.uploadsOpen]) ++
      (if c.publicSsl then [] else [.publicUrlPlain c.publicUrl])
  else []) ++
    (if c.requireSsl ∧ ¬ c.publicSsl then [.linksEncryptedOnly] else [])

/-- The first fault that keeps the service from running with the settings, or what to warn of. -/
def check (c : Config) : Except ConfigError (List Log.Event) := do
  c.validate
  if c.meetsHealth then .error (.healthMount c.mountPath) else .ok c.warnings

/-- **Settings that pass every check are valid.** -/
theorem validate_eq_ok_of_check {c : Config} {events : List Log.Event}
    (h : c.check = .ok events) : c.validate = .ok () := by
  cases hv : c.validate with
  | ok _ => rfl
  | error e => rw [check, hv] at h; cases h

end Config

end HostedFiles
