import HostedFiles.Json.Text
import HostedFiles.Log.Filter

/-!
# Log/Line — an event as a line

A line is meant for readers or for programs.  For readers it holds the level, the message and the
fields; for programs it is an object that also names the part of the service.
-/

namespace HostedFiles.Log

namespace Event

/-- The part of the service that an event comes from. -/
def part : Event → String
  | requestFailed .. => "filehost_api::error"
  | readFailed .. => "filehost_api::handlers::retrieve"
  | partialKept .. => "filehost_storage::local"
  | deliveryFailed .. | fanOutSkipped => "filehost_relay::propagator"
  | linkNotTagged .. => "filehost_relay::relay"
  | credentialNotIssued .. => "filehost_relay::command"
  | uploadsOpen | publicUrlPlain .. | linksEncryptedOnly => "filehost_api::setup::validation"
  | portKept .. | reloadFailed .. | starting .. => "filehost_api::setup::server"
  | loggingReady .. => "filehost_api::telemetry::init"
  | configurationReady => "filehost_api::setup"
  | uploadsReady .. => "filehost_api::setup::storage"

/-- A value as a reader sees it. -/
def Value.shown : Value → String
  | text value => value
  | flag value => toString value

/-- The event as a line for readers. -/
def readable (e : Event) : String :=
  let level := e.level.name
  let indent := String.ofList (List.replicate (5 - level.length) ' ')
  indent ++ level ++ " " ++ e.message ++
    String.join (e.fields.map fun f => " " ++ f.1 ++ "=" ++ f.2.shown)

/-- A value as a program reads it. -/
def Value.written : Value → List Char
  | text value => Json.quote value
  | flag value => (toString value).toList

/-- A field as a program reads it. -/
def writtenField (name : String) (value : Value) : List Char :=
  Json.quote name ++ ':' :: value.written

/-- The fields of an event with its message, which comes first. -/
def allFields (e : Event) : List (String × Value) :=
  ("message", .text e.message) :: e.fields

/-- The event as an object for programs, without the time. -/
def written (e : Event) : String :=
  String.ofList
    ("\x7b\"level\":".toList ++ Json.quote e.level.name ++ ",\"fields\":\x7b".toList ++
      List.intercalate [','] (e.allFields.map fun f => writtenField f.1 f.2) ++
      "\x7d,\"target\":".toList ++ Json.quote e.part ++ ['\x7d'])

/-- Whether a filter shows an event. -/
def isShown (filter : Filter) (e : Event) : Bool :=
  filter.shows e.part (e.allFields.map (·.1)) e.level

/-- The lines that a filter shows of events. -/
def lines (filter : Filter) (json : Bool) (events : List Event) : List String :=
  (events.filter (isShown filter)).map fun e => if json then e.written else e.readable

end Event

end HostedFiles.Log
