import HostedFiles.Disk.Basic
import HostedFiles.Failure
import HostedFiles.Http.Message

/-!
# Service/Answer — what a request leads to

A response, what became of the disk, and what is worth a line.  A failure is answered by a page with
its message for the client; two kinds of failure add a header.
-/

namespace HostedFiles

/-- What credentials are asked for. -/
def realm : String := "filehost"

namespace Failure

/-- The header that a failure adds to its page. -/
def header? : Failure → Option (String × String)
  | unauthorized _ => some ("www-authenticate", "Bearer realm=\"" ++ realm ++ "\"")
  | methodNotAllowed _ allowed => some ("allow", allowed)
  | _ => none

/-- The page that reports a failure. -/
def response (f : Failure) : Http.Response :=
  let page := Http.Response.page f.status "text/html; charset=utf-8"
    (Http.errorPage f.status f.clientMessage)
  match f.header? with
  | some (name, value) => page.withHeader name value
  | none => page

end Failure

/-- What a request leads to. -/
structure Answer where
  response : Http.Response
  disk : Disk
  events : List Log.Event

namespace Answer

/-- A failure after `events`. -/
def ofFailure (f : Failure) (d : Disk) (events : List Log.Event) : Answer :=
  { response := f.response, disk := d, events := events ++ f.events }

end Answer

end HostedFiles
