import HostedFiles.Text.Blank
import HostedFiles.Text.Utf8

/-!
# Environment/Lines — the lines of a settings file

A line of the file may hold several lines of text: quotation marks keep it open, and so do a
backslash or a blank at its end.  A number sign behind one blank begins a comment.
-/

namespace HostedFiles.EnvFile

open Text

/-- Why a settings file cannot be read on. -/
inductive Fault where
  /-- A line, or a value, that breaks the rules, and how far it was read. -/
  | badLine (text : String) (index : Nat)
  | notText
  deriving DecidableEq

/-- The reason in words. -/
def Fault.message : Fault → String
  | badLine text index =>
    "Error parsing line: '" ++ text ++ "', error at line index: " ++ toString index
  | notText => "stream did not contain valid UTF-8"

/-! ## Lines of text -/

/-- The bytes cut behind every line feed. -/
def textLines : List UInt8 → List (List UInt8)
  | [] => []
  | b :: rest =>
    if b = 10 then [b] :: textLines rest
    else match textLines rest with
      | [] => [[b]]
      | line :: lines => (b :: line) :: lines

/-- The bytes without the mark that may stand in front of a text. -/
def dropMark : List UInt8 → List UInt8
  | 0xEF :: 0xBB :: 0xBF :: rest => rest
  | bytes => bytes

/-! ## Where a line stands -/

/-- What a line is in the middle of. -/
inductive State where
  /-- Nothing: it may end here. -/
  | complete
  /-- Behind a backslash. -/
  | escape
  /-- Between single quotation marks. -/
  | single
  /-- Behind a backslash between single quotation marks. -/
  | singleEscape
  /-- Between double quotation marks. -/
  | double
  /-- Behind a backslash between double quotation marks. -/
  | doubleEscape
  /-- Behind one blank. -/
  | blank
  deriving DecidableEq

/-- What a character outside quotation marks begins. -/
def State.opened (c : Char) : State :=
  if c = '\\' then escape
  else if c = '"' then double
  else if c = '\x27' then single
  else complete

/-- The state behind one more character, or `none` where a comment begins. -/
def State.next (state : State) (c : Char) : Option State :=
  match state with
  | blank => if c = '#' then none else some (opened c)
  | escape => some complete
  | complete =>
    if isBlank c ∧ c ≠ '\n' ∧ c ≠ '\r' then some blank else some (opened c)
  | double =>
    some (if c = '\\' then doubleEscape else if c = '"' then complete else double)
  | doubleEscape => some double
  | single =>
    some (if c = '\\' then singleEscape else if c = '\x27' then complete else single)
  | singleEscape => some single

/-- Where a line of text leads: to a state, or to a comment, given with what stands before it. -/
inductive Reach where
  | state (s : State)
  | comment (before : List Char)
  deriving DecidableEq

/-- Where a line of text leads from a state. -/
def reach (state : State) : List Char → Reach
  | [] => .state state
  | c :: rest =>
    match state.next c with
    | none => .comment []
    | some next =>
      match reach next rest with
      | .state s => .state s
      | .comment before => .comment (c :: before)

/-! ## Lines of the file -/

/-- The line without its line feed and a carriage return before that. -/
def dropLineEnd (line : List Char) : List Char :=
  match line.reverse with
  | '\n' :: '\r' :: rest => rest.reverse
  | '\n' :: rest => rest.reverse
  | _ => line

/-- How many bytes a text has. -/
def byteLength (s : List Char) : Nat :=
  (String.ofList s).utf8ByteSize

/-- The lines of the file that the texts make, when a line has been read up to a state; `before`
holds what was read of it from its last character to its first.  A line of text that is none is
given as `none`.  A line that goes on has quotation marks in it, so only its first text can make it
a comment. -/
def join (before : List Char) (state : State) :
    List (Option (List Char)) → List (Except Fault (List Char))
  | [] =>
    if state = .complete then []
    else [.error (.badLine (String.ofList before.reverse) (byteLength before.reverse))]
  | none :: _ => [.error .notText]
  | some text :: rest =>
    if before = [] ∧ (trimStart isBlank text).head? = some '#' then .ok [] :: join [] .complete rest
    else match reach state text with
      | .state .complete => .ok (before.reverse ++ dropLineEnd text) :: join [] .complete rest
      | .state s => join (text.reverse ++ before) s rest
      | .comment part => .ok (before.reverse ++ part) :: join [] .complete rest

/-- The lines of a file up to the first one that cannot be read. -/
def lines (content : List UInt8) : List (Except Fault (List Char)) :=
  join [] .complete ((textLines (dropMark content)).map fun line =>
    (ofBytes? line).map String.toList)

end HostedFiles.EnvFile
