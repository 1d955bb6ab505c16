import HostedFiles.Category
import HostedFiles.Json.Reader
import HostedFiles.Tag

/-!
# Metadata — what is announced about a linked file

The address, the file name when one is known, and the kind of file.  `written` is the record as one
line of text, and `ofText?` reads such a line back.
-/

namespace HostedFiles

/-- A record about a linked file. -/
structure Metadata where
  url : String
  filename : Option String
  category : Category
  deriving DecidableEq

namespace Metadata

/-- The key of the tag that carries a record. -/
def tagKey : String := "draft/filehost"

/-- The record of a link; without a file name its kind is unknown. -/
def ofLink (url : String) (filename : Option String) : Metadata :=
  { url, filename, category := (filename.map Category.ofFileName).getD .unknown }

/-! ## Writing -/

/-- The characters of a record in writing. -/
def writtenChars (m : Metadata) : List Char :=
  "\x7b\"url\":".toList ++ Json.quote m.url ++
    (match m.filename with
      | some name => ",\"filename\":".toList ++ Json.quote name
      | none => []) ++
    ",\"type\":".toList ++ Json.quote m.category.name ++ ['\x7d']

/-- The record in writing. -/
def written (m : Metadata) : String :=
  String.ofList m.writtenChars

/-- The tag that carries the record. -/
def tag (m : Metadata) : Except TagError Tag :=
  Tag.ofPair tagKey m.written

/-! ## Reading -/

/-- The record that a value stands for.  An object names the three fields, the file name only if it
has one; a list gives them in order. -/
def ofJson? : Json → Option Metadata
  | .object members =>
    if Json.namesAreTexts members then do
      let url ← (← (Json.member "url" members).once?).text?
      let filename ← match Json.member "filename" members with
        | .absent => some none
        | .once value => value.optionalText?
        | .repeated => none
      let category ← Category.ofName? (← (← (Json.member "type" members).once?).word?)
      return { url, filename, category }
    else none
  | .array [url, filename, category] => do
    let url ← url.text?
    let filename ← filename.optionalText?
    let category ← Category.ofName? (← category.word?)
    return { url, filename, category }
  | _ => none

/-- The record that a line of text stands for. -/
def ofText? (s : String) : Option Metadata :=
  (Json.ofText? s).bind ofJson?

end Metadata

end HostedFiles
