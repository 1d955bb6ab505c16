import HostedFiles.Environment.Lines
import HostedFiles.Text.Alphanumeric

/-!
# Environment/Value — the value on a line of a settings file

Single quotation marks keep what is between them.  Elsewhere a backslash escapes, and a dollar sign
stands for the value of the name behind it: letters and digits, or anything between braces.  Blanks
end a value that is not quoted; only a comment may follow them.
-/

namespace HostedFiles.EnvFile

open Text

/-- What a value is in the middle of. -/
inductive Part where
  /-- Plain characters. -/
  | bare
  /-- Behind the blank that ends it. -/
  | ended
  /-- Behind a backslash; `quoted` tells whether between double quotation marks. -/
  | escape (quoted : Bool)
  /-- Between single quotation marks. -/
  | single
  /-- Between double quotation marks. -/
  | double
  /-- In a name behind a dollar sign, of which `back` was read, the last character first. -/
  | name (quoted : Bool) (back : List Char)
  /-- In a name between braces, of which `back` was read, the last character first. -/
  | braced (quoted : Bool) (back : List Char)
  deriving DecidableEq

/-- Plain characters, or those between double quotation marks. -/
def Part.text (quoted : Bool) : Part :=
  if quoted then double else bare

/-- The character that a backslash and `c` stand for. -/
def escaped? (c : Char) : Option Char :=
  if c = '\\' ∨ c = '\x27' ∨ c = '"' ∨ c = '$' ∨ c = ' ' then some c
  else if c = 'n' then some '\n'
  else none

/-- One more character: what it adds and where the value stands behind it; `none` where it may not
stand.  A number sign behind the end keeps the value there, and the rest is not looked at. -/
def Part.next (lookup : String → String) (part : Part) (c : Char) :
    Option (List Char × Part) :=
  match part with
  | ended => if c = ' ' ∨ c = '\t' then some ([], ended) else none
  | escape quoted => (escaped? c).map fun e => ([e], text quoted)
  | single => some (if c = '\x27' then ([], bare) else ([c], single))
  | name quoted back =>
    if isAlphanumeric c then some ([], name quoted (c :: back))
    else if c = '\x7b' ∧ back = [] then some ([], braced quoted [])
    else
      let value := (lookup (String.ofList back.reverse)).toList
      if c = '$' then some (value, name quoted []) else some (value ++ [c], text quoted)
  | braced quoted back =>
    if c = '\x7d' then some ((lookup (String.ofList back.reverse)).toList, text quoted)
    else some ([], braced quoted (c :: back))
  | double =>
    if c = '$' then some ([], name true [])
    else if c = '"' then some ([], bare)
    else if c = '\\' then some ([], escape true)
    else some ([c], double)
  | bare =>
    if c = '$' then some ([], name false [])
    else if c = '\x27' then some ([], single)
    else if c = '"' then some ([], double)
    else if c = '\\' then some ([], escape false)
    else if c = ' ' ∨ c = '\t' then some ([], ended)
    else some ([c], bare)

/-- What the end of the line adds to a value, or `none` where a value may not end. -/
def Part.close (lookup : String → String) : Part → Option (List Char)
  | bare | ended | escape false => some []
  | name false back => some (lookup (String.ofList back.reverse)).toList
  | _ => none

/-- How a value ends that cannot be read: at a character, or at the end of the line. -/
inductive Stop where
  | at (index : Nat)
  | atEnd
  deriving DecidableEq

/-- The rest of a value from its character number `index` on. -/
def valueFrom (lookup : String → String) (part : Part) (index : Nat) :
    List Char → Except Stop (List Char)
  | [] =>
    match part.close lookup with
    | some tail => .ok tail
    | none => .error .atEnd
  | c :: rest =>
    if part = .ended ∧ c = '#' then .ok []
    else match part.next lookup c with
      | none => .error (.at index)
      | some (added, next) => (valueFrom lookup next (index + 1) rest).map (added ++ ·)

/-- The value that a text is. -/
def value (lookup : String → String) (s : List Char) : Except Fault String :=
  match valueFrom lookup .bare 0 s with
  | .ok value => .ok (String.ofList value)
  | .error (.at index) => .error (.badLine (String.ofList s) index)
  | .error .atEnd => .error (.badLine (String.ofList s) (byteLength s - 1))

end HostedFiles.EnvFile
