import HostedFiles.Text.Blank
import HostedFiles.Text.Lowercase

/-!
# Service/Disposition — the file name in a header

A parameter `filename` stands at the beginning or behind a semicolon, and its value behind an equals
sign, between quotation marks or up to the next semicolon.  Blanks around these signs do not count.
-/

namespace HostedFiles.Disposition

open Text

/-- The name of the parameter. -/
def parameter : List Char := "filename".toList

/-- What follows the parameter's name, in any case of letters, in a text that begins with it. -/
def afterParameter? (s : List Char) : Option (List Char) :=
  if sameIgnoringCase (s.take parameter.length) parameter then some (s.drop parameter.length)
  else none

/-- Whether a parameter can begin behind this text, given from the nearest character outwards. -/
def mayBegin (before : List Char) : Bool :=
  match before.dropWhile isBlank with
  | [] => true
  | c :: _ => c == ';'

/-- The value behind the equals sign, when there is one. -/
def valueAfterEquals? (s : List Char) : Option (List Char) :=
  match trimStart isBlank s with
  | '=' :: rest => some (trimStart isBlank rest)
  | _ => none

/-- The file name that a value stands for; a quotation without end stands for none. -/
def fileName? : List Char → Option String
  | '"' :: rest => (splitFirst? '"' rest).map fun parts => String.ofList parts.1
  | value => some (String.ofList (trim isBlank (upTo (· == ';') value)))

/-- The file name in the rest of a header, given what stands before it from the nearest character
outwards. -/
def findAfter (before : List Char) : List Char → Option String
  | [] => none
  | c :: rest =>
    match afterParameter? (c :: rest) with
    | some tail =>
      if mayBegin before then
        match valueAfterEquals? tail with
        | some value => fileName? value
        | none => findAfter (c :: before) rest
      else findAfter (c :: before) rest
    | none => findAfter (c :: before) rest

/-- The file name in a header. -/
def find? (value : String) : Option String :=
  findAfter [] value.toList

end HostedFiles.Disposition
