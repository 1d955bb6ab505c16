import HostedFiles.Config.Basic

/-!
# Config/Source — settings from named values

Each setting has a name and, but for the secret, a default; a value of blanks counts as missing.  A
port that is no number is a fault, while a number of seconds or megabytes or a switch that cannot be
read falls back to its default.
-/

namespace HostedFiles.Config

open Text

/-- A way to look values up by name. -/
abbrev Source := String → Option String

namespace Source

/-- The value under a name, unless it is blank. -/
def value? (source : Source) (name : String) : Option String :=
  (source name).filter fun value => !isBlankText value

/-- The text under a name. -/
def textOr (source : Source) (name default : String) : String :=
  (source.value? name).getD default

/-- The number under a name; what cannot be read counts as missing. -/
def numberOr (source : Source) (name : String) (default : Nat) : Nat :=
  ((source.value? name).bind fun value =>
    readNumber? maxUnsigned (trim isBlank value.toList)).getD default

/-- The port under a name; what cannot be read is a fault. -/
def portOr (source : Source) (name : String) (fault : ConfigError) (default : Nat) :
    Except ConfigError Nat :=
  match source.value? name with
  | some value =>
    match readNumber? maxPort (trim isBlank value.toList) with
    | some port => .ok port
    | none => .error fault
  | none => .ok default

/-- The switch that a word stands for. -/
def switch? (value : String) : Option Bool :=
  let word := lowercase (trimBlank value)
  if ["1", "true", "yes", "on"].contains word then some true
  else if ["0", "false", "no", "off"].contains word then some false
  else none

/-- The switch under a name; what cannot be read counts as missing. -/
def switchOr (source : Source) (name : String) (default : Bool) : Bool :=
  ((source.value? name).bind switch?).getD default

end Source

/-- The path without blanks around it and slashes at its end, and with one in front. -/
def normalizeMountPath (raw : String) : String :=
  match trimEnd (· == '/') (trim isBlank raw.toList) with
  | [] => "/"
  | '/' :: rest => String.ofList ('/' :: rest)
  | path => String.ofList ('/' :: path)

/-- The bytes in mebibytes, as far as sixty four binary digits hold them. -/
def bytesIn (mebibytes : Nat) : Nat :=
  mebibytes * 1048576 % (maxUnsigned + 1)

/-- The names of all settings. -/
def names : List String :=
  ["PORT", "FILEHOST_PORT", "FILEHOST_TOKEN_SECRET", "ENVIRONMENT", "APP_ENV",
   "FILEHOST_UPLOAD_PATH", "FILEHOST_URI", "FILEHOST_HOSTNAME", "FILEHOST_SSL",
   "FILEHOST_AUTHENTICATE", "FILEHOST_REQUIRE_SSL", "FILEHOST_TOKEN_ISSUER",
   "FILEHOST_TOKEN_TTL_SECS", "FILEHOST_TOKEN_TTL_MIN_SECS", "FILEHOST_TOKEN_TTL_MAX_SECS",
   "FILEHOST_MAX_UPLOAD_MB"]

/-- The settings that a source holds, valid or not. -/
def read (source : Source) : Except ConfigError Config := do
  let serverPort ← source.portOr "PORT" .badPort 8080
  let publicPort ← source.portOr "FILEHOST_PORT" .badPublicPort 0
  let tokenSecret ← match source.value? "FILEHOST_TOKEN_SECRET" with
    | some secret => .ok secret
    | none => .error .noSecret
  return {
    serverPort
    environment :=
      ((source.value? "ENVIRONMENT").or (source.value? "APP_ENV")).getD "development"
    storagePath := source.textOr "FILEHOST_UPLOAD_PATH" "data/uploads"
    mountPath := normalizeMountPath (source.textOr "FILEHOST_URI" "/upload")
    publicHost := source.textOr "FILEHOST_HOSTNAME" "localhost"
    publicPort
    publicSsl := source.switchOr "FILEHOST_SSL" true
    authenticate := source.switchOr "FILEHOST_AUTHENTICATE" true
    requireSsl := source.switchOr "FILEHOST_REQUIRE_SSL" true
    tokenSecret
    tokenIssuer := source.textOr "FILEHOST_TOKEN_ISSUER" "filehost"
    tokenLifetime := .ofSeconds (source.numberOr "FILEHOST_TOKEN_TTL_SECS" 3600)
    leastLifetime := .ofSeconds (source.numberOr "FILEHOST_TOKEN_TTL_MIN_SECS" 60)
    mostLifetime := .ofSeconds (source.numberOr "FILEHOST_TOKEN_TTL_MAX_SECS" 86400)
    maxUploadBytes := bytesIn (source.numberOr "FILEHOST_MAX_UPLOAD_MB" 10) }

/-- The valid settings that a source holds. -/
def ofSource (source : Source) : Except ConfigError Config := do
  let c ← read source
  c.validate
  return c

/-- **Settings from a source are valid.** -/
theorem validate_of_ofSource {source : Source} {c : Config} (h : ofSource source = .ok c) :
    c.validate = .ok () := by
  cases hr : read source with
  | error e => rw [ofSource, hr] at h; cases h
  | ok d =>
    cases hv : d.validate with
    | error e =>
      have : ofSource source = .error e := by rw [ofSource, hr]; simp [bind, Except.bind, hv]
      rw [this] at h; cases h
    | ok u =>
      have : ofSource source = .ok d := by
        rw [ofSource, hr]; simp [bind, Except.bind, hv, pure, Except.pure]
      rw [this] at h
      cases h
      exact hv

end HostedFiles.Config
