import HostedFiles.FileName

/-!
# ContentType — types taken in and types given out

An upload is accepted when its content type, parameters and case apart, is one of a short list; each
accepted type implies an extension.  A stored file is served with the type of its own extension, and
as plain bytes when that is not known.
-/

namespace HostedFiles.ContentType

open Text

/-- The types accepted for upload, each with the extension it implies. -/
def accepted : List (String × String) :=
  [("application/pdf", "pdf"), ("image/gif", "gif"), ("image/jpeg", "jpg"), ("image/png", "png"),
   ("text/html", "html"), ("text/plain", "txt")]

/-- The accepted types in one line. -/
def acceptedNames : String :=
  String.intercalate ", " (accepted.map (·.1))

/-- The type each known extension is served with. -/
def served : List (String × String) :=
  [("txt", "text/plain"), ("html", "text/html"), ("htm", "text/html"), ("png", "image/png"),
   ("jpg", "image/jpeg"), ("jpeg", "image/jpeg"), ("gif", "image/gif"),
   ("pdf", "application/pdf")]

/-- The type of plain bytes. -/
def opaqueBytes : String := "application/octet-stream"

/-- The type without its parameters, in lower case. -/
def normalize (value : String) : String :=
  lowercase (trimBlank (String.ofList (upTo (· == ';') value.toList)))

/-- The extension that an accepted type implies. -/
def extension? (value : String) : Option String :=
  accepted.lookup (normalize value)

/-- The type that a file is served with. -/
def ofFileName (name : String) : String :=
  match FileName.extension? name with
  | some extension => (served.lookup extension).getD opaqueBytes
  | none => opaqueBytes

/-- **An accepted type is served again under the extension it implies.** -/
theorem lookup_served_of_mem_accepted :
    ∀ row ∈ accepted, served.lookup row.2 = some row.1 := by
  decide

end HostedFiles.ContentType
