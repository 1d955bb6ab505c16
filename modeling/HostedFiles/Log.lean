/-!
# Log — what is worth a line

Each kind of event has its own constructor, so that which events arise can be stated.  Level,
message and fields of an event are functions of it.
-/

namespace HostedFiles.Log

/-- How urgent an event is. -/
inductive Level where
  | debug
  | info
  | warn
  | error
  deriving DecidableEq

namespace Level

/-- The word for a level. -/
def name : Level → String
  | debug => "DEBUG"
  | info => "INFO"
  | warn => "WARN"
  | error => "ERROR"

/-- How urgent a level is, from zero up. -/
def rank : Level → Nat
  | debug => 0
  | info => 1
  | warn => 2
  | error => 3

end Level

/-- What happened. -/
inductive Event where
  /-- A request ended with an internal failure. -/
  | requestFailed (failure kind : String)
  /-- A stored file could not be read to its end. -/
  | readFailed (filename problem : String)
  /-- What a refused upload had written could not be removed. -/
  | partialKept (path problem : String)
  /-- A peer did not get a companion message. -/
  | deliveryFailed (peer problem : String)
  /-- Nothing can run the delivery of companion messages. -/
  | fanOutSkipped
  /-- A link fits in no tag. -/
  | linkNotTagged (problem : String)
  /-- No credential could be made for an account. -/
  | credentialNotIssued (account problem : String)
  /-- Anyone can upload to a production service. -/
  | uploadsOpen
  /-- A production service is reached without encryption. -/
  | publicUrlPlain (publicUrl : String)
  /-- Links are only let through on encrypted connections, but lead to unencrypted ones. -/
  | linksEncryptedOnly
  /-- A reload asked for a port that only a restart could listen on. -/
  | portKept (current requested : Nat)
  /-- A reload failed and changed nothing. -/
  | reloadFailed (problem : String)
  /-- Logging is set up. -/
  | loggingReady (json : Bool)
  /-- The configuration is read and checked. -/
  | configurationReady
  /-- The directory for uploads is there. -/
  | uploadsReady (path : String)
  /-- The service is about to listen. -/
  | starting (address : String)
  deriving DecidableEq

namespace Event

/-- What is said where no runtime can carry out a delivery. -/
def noRuntime : String :=
  "there is no reactor running, must be called from the context of a Tokio 1.x runtime"

/-- The level of an event. -/
def level : Event → Level
  | requestFailed .. | readFailed .. | credentialNotIssued .. | reloadFailed .. => .error
  | partialKept .. | deliveryFailed .. | fanOutSkipped | linkNotTagged .. | uploadsOpen
  | publicUrlPlain .. | linksEncryptedOnly | portKept .. => .warn
  | configurationReady | uploadsReady .. | starting .. => .info
  | loggingReady .. => .debug

/-- The message of an event. -/
def message : Event → String
  | requestFailed .. => "Request failed"
  | readFailed .. => "Stored file read failed mid-stream"
  | partialKept .. => "Failed to remove partial upload"
  | deliveryFailed .. => "Companion delivery failed"
  | fanOutSkipped => "No runtime for companion fan-out, skipping"
  | linkNotTagged .. => "Hosted link not tagged"
  | credentialNotIssued .. => "Failed to issue upload credential"
  | uploadsOpen => "Uploads are unauthenticated in production - anyone can store files"
  | publicUrlPlain .. => "Public URL uses plain http in production"
  | linksEncryptedOnly =>
    "FILEHOST_REQUIRE_SSL is on but the public URL is http - links will only travel over TLS chat"
  | portKept .. => "PORT changes need a restart, keeping the current listener"
  | reloadFailed .. => "Configuration reload failed, keeping current configuration"
  | loggingReady .. => "Tracing initialized"
  | configurationReady => "Configuration loaded and validated successfully"
  | uploadsReady .. => "Upload directory ready"
  | starting .. => "Starting server"

/-- A field of an event: a text, or a truth value. -/
inductive Value where
  | text (value : String)
  | flag (value : Bool)
  deriving DecidableEq

/-- The fields of an event, in the order in which a line shows them. -/
def fields : Event → List (String × Value)
  | requestFailed failure kind => [("error", .text failure), ("error_type", .text kind)]
  | readFailed filename problem => [("filename", .text filename), ("error", .text problem)]
  | partialKept path problem => [("path", .text path), ("error", .text problem)]
  | deliveryFailed peer problem => [("peer", .text peer), ("error", .text problem)]
  | fanOutSkipped => [("error", .text noRuntime)]
  | linkNotTagged problem => [("error", .text problem)]
  | credentialNotIssued account problem =>
    [("account", .text account), ("error", .text problem)]
  | uploadsOpen | linksEncryptedOnly | configurationReady => []
  | publicUrlPlain publicUrl => [("public_url", .text publicUrl)]
  | portKept current requested =>
    [("current", .text (toString current)), ("requested", .text (toString requested))]
  | reloadFailed problem => [("error", .text problem)]
  | loggingReady json => [("json", .flag json)]
  | uploadsReady path => [("path", .text path)]
  | starting address => [("addr", .text address)]

end Event

end HostedFiles.Log
