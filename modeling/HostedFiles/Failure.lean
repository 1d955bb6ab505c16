import HostedFiles.Http.Page
import HostedFiles.Log

/-!
# Failure — why a request is not answered as asked

Six kinds are the client's doing and are told to the client; three are internal, and of those the
client only learns that there was one.  An internal failure may carry the causes that led to it, the
nearest one first.
-/

namespace HostedFiles

/-- Why a request fails. -/
inductive Failure where
  | badRequest (message : String)
  | unauthorized (message : String)
  | notFound (message : String)
  | methodNotAllowed (method allowed : String)
  | payloadTooLarge (message : String)
  | unsupportedMediaType (message : String)
  | storage (message : String)
  | internal (message : String)
  | internalWithCauses (message : String) (causes : List String)
  deriving DecidableEq

namespace Failure

/-! ## What it says about itself -/

/-- The kind of a failure in one word, for the log. -/
def kind : Failure → String
  | badRequest _ => "BadRequest"
  | unauthorized _ => "Unauthorized"
  | notFound _ => "NotFound"
  | methodNotAllowed .. => "MethodNotAllowed"
  | payloadTooLarge _ => "PayloadTooLarge"
  | unsupportedMediaType _ => "UnsupportedMediaType"
  | storage _ => "Storage"
  | internal _ => "Internal"
  | internalWithCauses .. => "Internal"

/-- The failure in words, for the log. -/
def message : Failure → String
  | badRequest m => "Bad request: " ++ m
  | unauthorized m => "Unauthorized: " ++ m
  | notFound m => "Not found: " ++ m
  | methodNotAllowed method _ => "Method not allowed: " ++ method
  | payloadTooLarge m => "File too large: " ++ m
  | unsupportedMediaType m => "Unsupported media type: " ++ m
  | storage m => "Storage error: " ++ m
  | internal m => "Internal error: " ++ m
  | internalWithCauses .. => "Internal error with source"

/-- What led to a failure, the nearest cause first. -/
def causes : Failure → List String
  | internalWithCauses _ causes => causes
  | _ => []

/-- How many causes are told. -/
def maxCauses : Nat := 5

/-- Adds a line for each cause to a text that tells of `told` causes already.  A last line stands
for those beyond the fifth. -/
def addCauses (text : String) (told : Nat) : List String → String
  | [] => text
  | cause :: causes =>
    if told < maxCauses then addCauses (text ++ "\n  Caused by: " ++ cause) (told + 1) causes
    else text ++ "\n  ... (truncated)"

/-- The failure in words with the causes that led to it, a line each. -/
def detailed (f : Failure) : String :=
  addCauses f.message 0 f.causes

/-- Whether its details are kept from the client. -/
def isSensitive : Failure → Bool
  | storage _ | internal _ | internalWithCauses .. => true
  | _ => false

/-- The level at which it is logged. -/
def level : Failure → Log.Level
  | storage _ | internal _ | internalWithCauses .. => .error
  | _ => .debug

/-! ## What the client is told -/

/-- The status of the answer. -/
def status : Failure → Http.Status
  | badRequest _ => .badRequest
  | unauthorized _ => .unauthorized
  | notFound _ => .notFound
  | methodNotAllowed .. => .methodNotAllowed
  | payloadTooLarge _ => .payloadTooLarge
  | unsupportedMediaType _ => .unsupportedMediaType
  | storage _ | internal _ | internalWithCauses .. => .internalError

/-- The failure as a word for programs. -/
def code : Failure → String
  | badRequest _ => "BAD_REQUEST"
  | unauthorized _ => "UNAUTHORIZED"
  | notFound _ => "NOT_FOUND"
  | methodNotAllowed .. => "METHOD_NOT_ALLOWED"
  | payloadTooLarge _ => "PAYLOAD_TOO_LARGE"
  | unsupportedMediaType _ => "UNSUPPORTED_MEDIA_TYPE"
  | storage _ => "STORAGE_ERROR"
  | internal _ | internalWithCauses .. => "INTERNAL_ERROR"

/-- The failure in words, for the client. -/
def clientMessage : Failure → String
  | badRequest m | unauthorized m | notFound m | payloadTooLarge m | unsupportedMediaType m => m
  | methodNotAllowed _ allowed => "Only " ++ allowed ++ " requests are allowed here"
  | storage _ => "Failed to access storage"
  | internal _ | internalWithCauses .. => "Internal server error"

/-! ## Failures of the world around -/

/-- The failure that a problem with a file or a connection is. -/
def ofIo (problem : String) : Failure :=
  internal ("IO error: " ++ problem)

/-- The failure that a problem with its causes is, told by the last thing said of it. -/
def ofCauses (outermost : String) (inner : List String) : Failure :=
  internalWithCauses outermost (outermost :: inner)

/-- The line that a failure is worth: only internal ones are. -/
def events (f : Failure) : List Log.Event :=
  if f.level = .error then [.requestFailed f.message f.kind] else []

end Failure

end HostedFiles
