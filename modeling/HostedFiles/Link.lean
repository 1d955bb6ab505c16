import HostedFiles.Encoding.Percent
import HostedFiles.FileName
import HostedFiles.Text.Search

/-!
# Link — hosted files mentioned in a text

A link begins with the public address and a slash, and runs to the next blank or control character;
punctuation at its end belongs to the sentence around it.  Its path, without query and fragment,
must stand for a name a file could be stored under.  Only the shape is looked at: whether the file
exists is not asked.
-/

namespace HostedFiles

/-- A hosted file mentioned in a text. -/
structure Link where
  url : String
  /-- The name of the file the address leads to. -/
  filename : String
  deriving DecidableEq

namespace Link

open Text

/-- A character that ends a link. -/
def isStop (c : Char) : Bool :=
  isBlank c || isControl c

/-- A character that ends a sentence or a quotation rather than a link. -/
def isPunctuation (c : Char) : Bool :=
  ",.;:!?'\"()[]\x7b\x7d".toList.contains c

/-- Where the path of an address ends. -/
def endsPath (c : Char) : Bool :=
  c == '?' || c == '#'

/-- The file name that the part of a link behind the public address stands for. -/
def fileName? (path : List Char) : Option String :=
  (Percent.decode? (upTo endsPath path)).bind FileName.sanitize?

/-- The longest text in front of `s` that could be a link. -/
def candidate (s : List Char) : List Char :=
  trimEnd isPunctuation (upTo isStop s)

/-- The link in front of `s`, where an occurrence of `lead` begins. -/
def at? (lead s : List Char) : Option Link :=
  match after? lead (candidate s) with
  | some path =>
    (fileName? path).map fun filename => { url := String.ofList (candidate s), filename }
  | none => none

/-- What every link begins with. -/
def lead (publicUrl : String) : List Char :=
  publicUrl.toList ++ ['/']

/-- The first link of a text.  Occurrences of what links begin with do not overlap: one without a
link is passed over whole. -/
def first? (text publicUrl : String) : Option Link :=
  search? (lead publicUrl) (at? (lead publicUrl)) text.toList

/-- **The first link is the first one that is met place by place.** -/
theorem first?_eq_firstAt? (text publicUrl : String) :
    first? text publicUrl = firstAt? (lead publicUrl) (at? (lead publicUrl)) 0 text.toList :=
  search?_eq_firstAt? _ _ _

end Link

end HostedFiles
