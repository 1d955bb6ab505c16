import HostedFiles.Text.Alphanumeric
import HostedFiles.Text.Quoted
import HostedFiles.Text.Split

/-!
# Tag — annotations of a chat message

A tag is a key and a value.  Its key follows a grammar and its value is bounded once escaped; both
are part of the type, so a tag that exists may be sent.  On the wire, semicolons, spaces,
backslashes and line ends of a value are escaped.
-/

namespace HostedFiles

/-! ## Keys and values -/

namespace Tag

open Text

/-- The longest escaped value, in bytes. -/
def maxValueBytes : Nat := 4094

/-- A character of the name part of a key. -/
def isNameChar (c : Char) : Bool :=
  isAsciiAlphanumeric c || c == '-'

/-- A character of the vendor part of a key. -/
def isVendorChar (c : Char) : Bool :=
  isAsciiAlphanumeric c || c == '-' || c == '.'

/-- The key without one plus sign in front. -/
def dropMark : List Char → List Char
  | '+' :: rest => rest
  | key => key

/-- Whether a text is a key: a name, perhaps behind a vendor and a slash, perhaps marked. -/
def isKey (key : String) : Bool :=
  match splitLast? '/' (dropMark key.toList) with
  | some (vendor, name) =>
    !vendor.isEmpty && vendor.all isVendorChar && !name.isEmpty && name.all isNameChar
  | none => !(dropMark key.toList).isEmpty && (dropMark key.toList).all isNameChar

/-- One character of a value as it is sent. -/
def escapeChar (c : Char) : List Char :=
  if c = ';' then ['\\', ':']
  else if c = ' ' then ['\\', 's']
  else if c = '\\' then ['\\', '\\']
  else if c = '\r' then ['\\', 'r']
  else if c = '\n' then ['\\', 'n']
  else [c]

/-- A value as it is sent. -/
def escape (value : String) : String :=
  String.ofList (value.toList.flatMap escapeChar)

/-- The size of a value as it is sent, in bytes. -/
def escapedSize (value : String) : Nat :=
  (escape value).utf8ByteSize

end Tag

/-! ## Tags -/

/-- A key and a value that may be sent. -/
structure Tag where
  key : String
  value : String
  key_valid : Tag.isKey key = true
  value_fits : Tag.escapedSize value ≤ Tag.maxValueBytes
  deriving DecidableEq

/-- Why a tag is refused. -/
inductive TagError where
  | invalidKey (key : String)
  | tooLarge (size : Nat)
  deriving DecidableEq

/-- The refusal in words. -/
def TagError.message : TagError → String
  | invalidKey key => "Invalid tag key: " ++ Text.quoted key
  | tooLarge size =>
    "Tag value is " ++ toString size ++ " bytes escaped, limit is " ++ toString Tag.maxValueBytes

namespace Tag

/-- The tag of a key and a value; the key is judged first. -/
def ofPair (key value : String) : Except TagError Tag :=
  if hkey : isKey key = true then
    if hvalue : escapedSize value ≤ maxValueBytes then .ok ⟨key, value, hkey, hvalue⟩
    else .error (.tooLarge (escapedSize value))
  else .error (.invalidKey key)

/-- The tag as it is sent. -/
def wire (tag : Tag) : String :=
  tag.key ++ "=" ++ escape tag.value

end Tag

/-! ## Messages that only carry tags -/

/-- A message without text, sent beside a chat message. -/
structure TagMessage where
  source : String
  target : String
  tags : List Tag
  deriving DecidableEq

namespace TagMessage

/-- The tags of the message as they are sent. -/
def wireTags (message : TagMessage) : String :=
  String.intercalate ";" (message.tags.map Tag.wire)

/-- The message as it is sent.  Without tags there is nothing before the source. -/
def wire (message : TagMessage) : String :=
  let line := ":" ++ message.source ++ " TAGMSG " ++ message.target
  if message.tags = [] then line else "@" ++ message.wireTags ++ " " ++ line

end TagMessage

end HostedFiles
