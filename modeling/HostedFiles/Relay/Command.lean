import HostedFiles.Config.Signer
import HostedFiles.ContentType
import HostedFiles.Relay.Message

/-!
# Relay/Command — the command that hands out upload addresses

Who is logged in gets an address to upload to, with a credential in it where one is needed, or with
`info` a description of the service.  All replies are notices to the user.
-/

namespace HostedFiles.Relay

/-! ## Amounts

An amount is told in the largest unit that divides it, and the unit stands in the plural unless
there is one of it. -/

/-- A number of things. -/
def counted (n : Nat) (unit : String) : String :=
  if n = 1 then "1 " ++ unit else toString n ++ " " ++ unit ++ "s"

/-- A length of time, given in seconds. -/
def lengthInWords (seconds : Nat) : String :=
  if 3600 ≤ seconds ∧ seconds % 3600 = 0 then counted (seconds / 3600) "hour"
  else if 60 ≤ seconds ∧ seconds % 60 = 0 then counted (seconds / 60) "minute"
  else counted seconds "second"

/-- A size, given in bytes. -/
def sizeInWords (bytes : Nat) : String :=
  if 1048576 ≤ bytes ∧ bytes % 1048576 = 0 then toString (bytes / 1048576) ++ " MB"
  else counted bytes "byte"

/-! ## The command -/

/-- The name of the command. -/
def commandName : String := "FILEHOST"

/-- What came of a command. -/
structure Reply where
  succeeded : Bool
  notices : List String
  events : List Log.Event
  deriving DecidableEq

/-- The command refused with one notice. -/
def Reply.refusal (notice : String) : Reply :=
  { succeeded := false, notices := [notice], events := [] }

/-- The address that an account uploads to. -/
def uploadUrl (c : Config) (account : String) (now : Instant) : Except SignerError String :=
  if c.authenticate then do
    let signer ← c.signer
    return c.publicUrl ++ "?token=" ++ signer.issue account c.tokenLifetime now
  else .ok c.publicUrl

/-- How to upload to an address. -/
def uploadExample (url : String) : String :=
  "Upload with: curl -H \"Content-Type: image/png\" -H 'Content-Disposition: " ++
    "filename=\"picture.png\"' --data-binary @picture.png '" ++ url ++ "'"

/-- Hands out an address. -/
def handOut (c : Config) (account : String) (now : Instant) : Reply :=
  match uploadUrl c account now with
  | .error e =>
    { succeeded := false
      notices := ["Unable to issue an upload URL right now. Please try again later."]
      events := [.credentialNotIssued account e.message] }
  | .ok url =>
    let lifetime := (c.clampLifetime c.tokenLifetime).seconds
    { succeeded := true
      notices :=
        ["Your upload URL: " ++ url, uploadExample url] ++
          (if c.authenticate then
            ["This URL is valid for " ++ lengthInWords lifetime ++ ". Do not share it."]
          else []) ++
          ["Maximum upload size: " ++ sizeInWords c.maxUploadBytes ++ ". Send " ++ commandName ++
            " info for allowed types."]
      events := [] }

/-- Describes the service. -/
def describe (c : Config) : Reply :=
  { succeeded := true
    notices :=
      ["Upload endpoint: " ++ c.publicUrl,
       "Maximum upload size: " ++ sizeInWords c.maxUploadBytes,
       "Allowed types: " ++ ContentType.acceptedNames,
       "Authentication: " ++ (if c.authenticate then "required" else "not required"),
       "Links require an encrypted connection: " ++ (if c.requireSsl then "yes" else "no")]
    events := [] }

/-- Answers the command with its arguments. -/
def command (c : Config) (session : Session) (args : List String) (now : Instant) : Reply :=
  match session.account with
  | none =>
    .refusal ("You must be logged in to an account to use " ++ commandName ++
      ". Identify to your account and try again.")
  | some account =>
    match args with
    | [] => handOut c account now
    | [arg] =>
      if Text.sameIgnoringCase arg.toList "info".toList then describe c
      else .refusal ("Usage: " ++ commandName ++ " [info]")
    | _ => .refusal ("Usage: " ++ commandName ++ " [info]")

end HostedFiles.Relay
