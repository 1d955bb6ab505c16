import HostedFiles.Service.Retrieve
import HostedFiles.Service.Upload

/-!
# Service/Routes — which part of the service answers

The health route has a path of its own.  The upload address and the files behind it are found by the
settings in force, so they move when the settings change.  Everything else is not there.
-/

namespace HostedFiles.Service

open Http

/-! ## Routes -/

/-- What a request is about. -/
inductive Route where
  | health
  | upload
  /-- The file that the rest of the path asks for. -/
  | file (rest : String)
  | none
  deriving DecidableEq

/-- Whether a request reads. -/
def isReading (method : String) : Bool :=
  method == "GET" || method == "HEAD"

/-- The part of a path behind the mount path and a slash. -/
def behindMount? (c : Config) (path : String) : Option String :=
  (Text.after? (c.mountPath.toList ++ ['/']) path.toList).map String.ofList

/-- What a request is about under given settings. -/
def route (c : Config) (method path : String) : Route :=
  if path = Config.healthPath then .health
  else if path = c.mountPath then .upload
  else match behindMount? c path with
    | some rest => if isReading method then .file rest else .none
    | none => .none

/-- The failure of a request for nothing that is there. -/
def urlMissing : Failure := .notFound "The requested URL was not found"

/-! ## Health -/

/-- The version of the service. -/
def version : String := "0.1.0"

/-- The answer of the health route. -/
def health (method : String) : Response :=
  if isReading method then
    .page .ok "application/json"
      ("\x7b\"status\":\"healthy\",\"version\":\"" ++ version ++ "\"\x7d")
  else
    { status := .methodNotAllowed, headers := [("allow", "GET,HEAD")],
      body := .whole ByteArray.empty }

/-! ## Headers on every answer -/

/-- What a page from here may do: show images of its own origin and be styled, and nothing else. -/
def contentPolicy : String :=
  "default-src 'none'; img-src 'self'; style-src 'unsafe-inline'; " ++
    "frame-ancestors 'none'; sandbox"

/-- The headers on every answer; in production also the demand for encryption. -/
def securityHeaders (production : Bool) : List (String × String) :=
  [("x-content-type-options", "nosniff"), ("x-frame-options", "DENY"),
   ("referrer-policy", "no-referrer"), ("content-security-policy", contentPolicy)] ++
    (if production then
      [("strict-transport-security", "max-age=31536000; includeSubDomains")]
    else [])

/-- The response as it is sent: with its length, without a body if only the head was asked for, and
with the headers that every answer has. -/
def sent (production : Bool) (method : String) (r : Response) : Response :=
  let sized := r.withLength
  let bodied := if method = "HEAD" then sized.withoutBody else sized
  (securityHeaders production).foldl (fun r h => r.withHeader h.1 h.2) bodied

/-! ## Answers -/

/-- The answer to a request before it is sent. -/
def respond (c : Config) (r : Request) (fresh : Fresh) (d : Disk) : Answer :=
  match route c r.method r.path with
  | .health => { response := health r.method, disk := d, events := [] }
  | .upload => atUpload c r fresh d
  | .file rest => retrieve c (r.method == "HEAD") rest d
  | .none => .ofFailure urlMissing d []

/-- The answer to a request under given settings.  Whether the service is in production was settled
when it started. -/
def answer (production : Bool) (c : Config) (r : Request) (fresh : Fresh) (d : Disk) : Answer :=
  let a := respond c r fresh d
  { a with response := sent production r.method a.response }

end HostedFiles.Service
