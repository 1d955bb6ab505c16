import HostedFiles.Break
import HostedFiles.Http.Status
import HostedFiles.Rows
import HostedFiles.Text.Utf8

/-!
# Http/Message — requests and responses

Header names are in small letters.  A header of a request is a row of bytes and counts as a text
only when each of them is a printable character or a tab.  The body of a request arrives in chunks,
and taking it in may break off; so may the body of a response.
-/

namespace HostedFiles.Http

/-! ## Requests -/

/-- A request, with its body as far as it is taken in. -/
structure Request where
  method : String
  path : String
  query : Option String
  headers : List (String × List UInt8)
  chunks : List ByteArray
  /-- What breaks taking it in off, if anything does. -/
  failure : Option Break

/-- A byte that a text in a header may hold. -/
def isHeaderTextByte (b : UInt8) : Bool :=
  b == 9 || (32 ≤ b && b < 127)

/-- The text of a header, when it is one. -/
def headerText? (value : List UInt8) : Option String :=
  if value.all isHeaderTextByte then
    some (String.ofList (value.map fun b => Char.ofNat b.toNat))
  else none

namespace Request

/-- The first header of a name. -/
def header? (r : Request) (name : String) : Option (List UInt8) :=
  r.headers.lookup name

/-- The text of the first header of a name. -/
def text? (r : Request) (name : String) : Option String :=
  (r.header? name).bind headerText?

end Request

/-! ## Responses -/

/-- The body of a response. -/
inductive Body where
  | whole (content : ByteArray)
  /-- A body that breaks off before its first byte. -/
  | broken (problem : String)

/-- A response. -/
structure Response where
  status : Status
  headers : List (String × String)
  body : Body

namespace Response

/-- The value of a header. -/
def header? (r : Response) (name : String) : Option String :=
  r.headers.lookup name

/-- The response with a header in place of all of its name. -/
def withHeader (r : Response) (name value : String) : Response :=
  { r with headers := Rows.put r.headers name value }

/-- **A header that was set is found, and other headers are as before.** -/
theorem header?_withHeader (r : Response) (name value other : String) :
    (r.withHeader name value).header? other =
      if other = name then some value else r.header? other := by
  simp [header?, withHeader, Rows.lookup_put]

/-- The response with its length stated, if the length is known and was not stated before. -/
def withLength (r : Response) : Response :=
  match r.header? "content-length", r.body with
  | none, .whole content => r.withHeader "content-length" (toString content.size)
  | _, _ => r

/-- The response without its body. -/
def withoutBody (r : Response) : Response :=
  { r with body := .whole ByteArray.empty }

/-- A page of text. -/
def page (status : Status) (contentType text : String) : Response :=
  { status, headers := [("content-type", contentType)], body := .whole text.toUTF8 }

end Response

end HostedFiles.Http
