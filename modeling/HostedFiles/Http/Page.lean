import HostedFiles.Http.Status

/-!
# Http/Page — the page that reports an error

A heading with the status, and one paragraph with the message as plain text.  Six characters could
end or begin markup; each is replaced by the name of its entity, so that the page shows the message
and nothing else.
-/

namespace HostedFiles.Entities

/-- One character as a page holds it. -/
def encodeChar (c : Char) : List Char :=
  if c = '&' then "&amp;".toList
  else if c = '<' then "&lt;".toList
  else if c = '>' then "&gt;".toList
  else if c = '"' then "&quot;".toList
  else if c = '\x27' then "&#x27;".toList
  else if c = '/' then "&#x2F;".toList
  else [c]

/-- A text as a page holds it. -/
def encode (s : String) : String :=
  String.ofList (s.toList.flatMap encodeChar)

end HostedFiles.Entities

namespace HostedFiles.Http

/-- The page that reports `message` with a status. -/
def errorPage (status : Status) (message : String) : String :=
  "<h1>" ++ toString status.code ++ " " ++ status.phrase ++ "</h1><p>" ++
    Entities.encode message ++ "</p>"

end HostedFiles.Http
