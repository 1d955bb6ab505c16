import HostedFiles.Config.Signer
import HostedFiles.ContentType
import HostedFiles.Encoding.Form
import HostedFiles.Service.Answer
import HostedFiles.Service.Disposition
import HostedFiles.Store.Upload

/-!
# Service/Upload — taking a file in

Four checks look at the request before anything is written: its credential, its content type, the
file name it asks for, and the length it states.  The first one that fails decides the answer.  Then
the body is stored, and the answer names the address of the file.
-/

namespace HostedFiles

/-- What an upload takes from outside: the time, and two names that nothing else has. -/
structure Fresh where
  now : Instant
  /-- The name of a file for which none was asked. -/
  name : String
  /-- What sets an unfinished file apart. -/
  mark : String

namespace Service

open Http Text

/-- The methods that the upload address takes. -/
def allowedMethods : String := "OPTIONS, POST"

/-! ## Credentials -/

/-- The credential in a header. -/
def bearer? (value : String) : Option String :=
  match splitFirst? ' ' (trim isBlank value.toList) with
  | some (scheme, credential) =>
    if sameIgnoringCase scheme "bearer".toList then
      some (String.ofList (trim isBlank credential))
    else none
  | none => none

/-- The credential in a query.  A query that names two is not read. -/
def queryCredential? (query : String) : Option String :=
  match (Form.fields query.toList).filter fun field => field.1 == "token" with
  | [field] => some field.2
  | _ => none

/-- The credential that a request brings; the header goes before the query. -/
def credential? (r : Request) : Option String :=
  ((r.text? "authorization").bind bearer?).or (queryCredential? (r.query.getD ""))

/-- The account that a request's credential was issued to. -/
def authenticate (c : Config) (r : Request) (now : Instant) : Except Failure String :=
  match (credential? r).filter fun credential => credential ≠ "" with
  | none => .error (.unauthorized "An upload credential is required")
  | some credential =>
    match c.signer with
    | .error e => .error (.internal ("Token service unavailable: " ++ e.message))
    | .ok signer =>
      match signer.verify credential now with
      | some account => .ok account
      | none => .error (.unauthorized "The upload credential is invalid or has expired")

/-- Whether a request may upload. -/
def checkCredential (c : Config) (r : Request) (now : Instant) : Except Failure Unit :=
  if c.authenticate then (authenticate c r now).map fun _ => () else .ok ()

/-! ## Type, name and length -/

/-- The extension that the request's content type implies. -/
def extension (r : Request) : Except Failure String :=
  match ContentType.extension? ((r.text? "content-type").getD "") with
  | some extension => .ok extension
  | none => .error (.unsupportedMediaType "The uploaded content type is not accepted here")

/-- The file name that a request asks for, if it asks for one. -/
def requestedName (r : Request) : Except Failure (Option String) :=
  match r.header? "content-disposition" with
  | none => .ok none
  | some value =>
    match ofBytes? value with
    | some text => .ok (Disposition.find? text)
    | none => .error (.badRequest "Content-Disposition must be valid UTF-8")

/-- The failure of a request for an impossible name. -/
def invalidName : Failure := .badRequest "Invalid filename"

/-- A name with an extension: its own, or else the one given. -/
def withExtension (name extension : String) : String :=
  if name.toList.contains '.' then name else name ++ "." ++ extension

/-- The name under which an upload is stored: the requested one made safe, or the fresh one if none
was requested. -/
def uploadName (r : Request) (extension fresh : String) : Except Failure String := do
  let requested ← requestedName r
  match requested.map FileName.neutralize with
  | some name =>
    if name = "." ∨ name = ".." ∨ name = Store.partialName then .error invalidName
    else return withExtension (if name = "" then fresh else name) extension
  | none => return withExtension fresh extension

/-- The length that a request states, if it states a number. -/
def statedLength? (r : Request) : Option Nat :=
  (r.text? "content-length").bind fun value =>
    readNumber? maxUnsigned (trim isBlank value.toList)

/-- Whether the stated length, if any, is within the limit. -/
def checkLength (c : Config) (r : Request) : Except Failure Unit :=
  match statedLength? r with
  | some n =>
    if c.maxUploadBytes < n then .error (StoreError.tooLarge c.maxUploadBytes).failure else .ok ()
  | none => .ok ()

/-- The name of an upload that passes all checks which come before writing. -/
def checkUpload (c : Config) (r : Request) (fresh : Fresh) : Except Failure String := do
  checkCredential c r fresh.now
  let extension ← extension r
  let name ← uploadName r extension fresh.name
  checkLength c r
  return name

/-! ## Storing and answering -/

/-- Whether a text can stand in a header of a response. -/
def isHeaderValue (value : String) : Bool :=
  value.toList.all fun c => (32 ≤ c.toNat && c.toNat != 127) || c == '\t'

/-- The answer that names the address of a stored file. -/
def created (url : String) : Except Failure Response :=
  if isHeaderValue url then
    .ok ((Response.page .created "text/plain; charset=utf-8" url).withHeader "location" url)
  else .error (.internal "Invalid Location header: failed to parse header value")

/-- The failure of an upload that the store refused. -/
def storeFailure : StoreError → Failure
  | .invalidName _ => invalidName
  | e => e.failure

/-- Takes a file in. -/
def upload (c : Config) (r : Request) (fresh : Fresh) (d : Disk) : Answer :=
  match checkUpload c r fresh with
  | .error f => .ofFailure f d []
  | .ok name =>
    let outcome :=
      Store.store c.storagePath name fresh.mark r.chunks r.failure c.maxUploadBytes d
    match outcome.result with
    | .error e => .ofFailure (storeFailure e) outcome.disk outcome.events
    | .ok _ =>
      match created (c.fileUrl name) with
      | .ok response => { response, disk := outcome.disk, events := outcome.events }
      | .error f => .ofFailure f outcome.disk outcome.events

/-- Says how to upload. -/
def uploadOptions : Response :=
  { status := .ok
    headers :=
      [("allow", allowedMethods), ("access-control-allow-origin", "*"),
       ("access-control-allow-methods", "POST, OPTIONS"),
       ("access-control-allow-headers",
        "Content-Type, Content-Disposition, Content-Length, Authorization"),
       ("accept-post", ContentType.acceptedNames)]
    body := .whole ByteArray.empty }

/-- Answers a request to the upload address. -/
def atUpload (c : Config) (r : Request) (fresh : Fresh) (d : Disk) : Answer :=
  if r.method = "OPTIONS" then { response := uploadOptions, disk := d, events := [] }
  else if r.method = "POST" then upload c r fresh d
  else .ofFailure (.methodNotAllowed r.method allowedMethods) d []

end Service

end HostedFiles
