import HostedFiles.Log
import HostedFiles.Log.Pattern
import HostedFiles.Text.Blank
import HostedFiles.Text.Lowercase
import HostedFiles.Text.Number
import HostedFiles.Text.Utf8

/-!
# Log/Directive — one part of a filter of the log

A directive shows events up to a verbosity: all of them, or those of the parts of the service whose
name begins in a given way.  It may also ask for a span around the event, and for a field of it,
perhaps with a value.  In full it is written `part[span{field=value}]=verbosity`, and everything may
be left out that leaves something.
-/

namespace HostedFiles.Log

open Text

/-! ## Verbosity -/

/-- How much is shown. -/
inductive Verbosity where
  | off
  | error
  | warn
  | info
  | debug
  | trace
  deriving DecidableEq

namespace Verbosity

/-- How much is shown, as a number from zero up. -/
def rank : Verbosity → Nat
  | off => 0
  | error => 1
  | warn => 2
  | info => 3
  | debug => 4
  | trace => 5

/-- All verbosities with their words. -/
def words : List (String × Verbosity) :=
  [("off", off), ("error", error), ("warn", warn), ("info", info), ("debug", debug),
   ("trace", trace)]

/-- The verbosity that a word or a number names. -/
def ofText? (s : List Char) : Option Verbosity :=
  match readNumber? maxUnsigned s with
  | some n => (words.map (·.2)).find? fun v => v.rank == n
  | none => words.lookup (String.ofList (asciiLowercase s))

/-- The verbosity that is set; where none is named everything is shown. -/
def ofSetting? (s : List Char) : Option Verbosity :=
  if s = [] then some trace else ofText? s

/-- The least verbosity that shows a level. -/
def ofLevel : Level → Verbosity
  | .error => error
  | .warn => warn
  | .info => info
  | .debug => debug

/-- Whether lines of a level are shown. -/
def shows (v : Verbosity) (level : Level) : Bool :=
  (ofLevel level).rank ≤ v.rank

end Verbosity

/-! ## Directives -/

/-- A field that a directive asks for, and the value it asks for if it does. -/
structure Field where
  name : List Char
  value : Option (List Char)
  deriving DecidableEq

/-- Whether a text is a number, perhaps with a point and an exponent, or one of the words for what
is no finite number. -/
def isNumber (s : List Char) : Bool :=
  let unsigned := match s with
    | '+' :: rest | '-' :: rest => rest
    | _ => s
  let whole := unsigned.takeWhile isAsciiDigit
  let (fraction, rest) := match unsigned.dropWhile isAsciiDigit with
    | '.' :: rest => (rest.takeWhile isAsciiDigit, rest.dropWhile isAsciiDigit)
    | rest => ([], rest)
  ["inf", "infinity", "nan"].contains (String.ofList (asciiLowercase unsigned)) ||
    whole ++ fraction != [] && match rest with
      | [] => true
      | e :: '+' :: digits | e :: '-' :: digits | e :: digits =>
        (e == 'e' || e == 'E') && digits != [] && digits.all isAsciiDigit

/-- The field that a text asks for: a name, perhaps with a number or a pattern behind an equals
sign.  What follows a second equals sign does not count. -/
def Field.ofText? (s : List Char) : Option Field :=
  if s = [] then none
  else match splitFirst? '=' s with
    | none => some ⟨s, none⟩
    | some (name, rest) =>
      let value := upTo (· == '=') rest
      if isNumber value || Pattern.isWellFormed value then
        some ⟨name, some value⟩
      else none

/-- What is shown up to which verbosity. -/
structure Directive where
  /-- How the name of a part begins. -/
  beginning : List Char := []
  /-- The span asked for. -/
  span : Option (List Char) := none
  field : Option Field := none
  verbosity : Verbosity := .trace
  deriving DecidableEq

namespace Directive

/-- Whether a directive concerns an event of a part with fields of given names.  No event happens in
a span, and values are only looked at in spans. -/
def concerns (directive : Directive) (part : String) (fields : List String) : Bool :=
  directive.span.isNone && (after? directive.beginning part.toList).isSome &&
    match directive.field with
    | none => true
    | some field => field.value.isNone && fields.contains (String.ofList field.name)

/-- Whether `later` wins over a directive before it where both concern an event: the longer
beginning wins, then the one that asks for a field, then the greater name of a field, then the later
one. -/
def winsOver (later earlier : Directive) : Bool :=
  if later.beginning.length ≠ earlier.beginning.length then
    decide (earlier.beginning.length < later.beginning.length)
  else match later.field, earlier.field with
    | none, some _ => false
    | some l, some e => !decide (l.name < e.name)
    | _, none => true

/-! ## Reading -/

/-- What a text is read in the middle of, with the place where that begins. -/
inductive Stage where
  | start
  /-- A verbosity or the beginning of a name. -/
  | word (begun : Nat)
  | span (begun : Nat)
  | field (begun : Nat)
  | fieldEnded
  | spanEnded
  | verbosity (begun : Nat)
  deriving DecidableEq

/-- A character that a directive may begin with. -/
def begins (c : Char) : Bool :=
  isAlphanumeric c || c == '-' || c == ':' || c == '_'

/-- The text between two places of a row of bytes. -/
def cut? (bytes : List UInt8) (first behind : Nat) : Option (List Char) :=
  (ofBytes? ((bytes.drop first).take (behind - first))).map String.toList

/-- The directive and the stage behind one more character, which stands at `place`. -/
def next (bytes : List UInt8) (place : Nat) (c : Char) (d : Directive) :
    Stage → Option (Directive × Stage)
  | .start =>
    if c = '[' then some (d, .span (place + 1))
    else if begins c then some (d, .word place)
    else none
  | .word begun =>
    if c = '=' then
      (cut? bytes begun place).map fun s => ({ d with beginning := s }, .verbosity (place + 1))
    else if c = '[' then
      (cut? bytes begun place).map fun s => ({ d with beginning := s }, .span (place + 1))
    else some (d, .word begun)
  | .span begun =>
    if c = ']' then
      (cut? bytes begun place).map fun s => ({ d with span := some s }, .spanEnded)
    else if c = '\x7b' then
      (cut? bytes begun place).map fun s =>
        ({ d with span := if s = [] then none else some s }, .field (place + 1))
    else some (d, .span begun)
  | .field begun =>
    if c = '\x7d' then
      ((cut? bytes begun place).bind Field.ofText?).map fun field =>
        ({ d with field := some field }, .fieldEnded)
    else some (d, .field begun)
  | .fieldEnded => if c = ']' then some (d, .spanEnded) else none
  | .spanEnded => if c = '=' then some (d, .verbosity (place + 1)) else none
  | .verbosity begun => some (d, .verbosity begun)

/-- The directive at the end of its text. -/
def close (bytes : List UInt8) (d : Directive) : Stage → Option Directive
  | .word begun =>
    (cut? bytes begun bytes.length).map fun s =>
      match Verbosity.ofSetting? s with
      | some verbosity => { d with verbosity }
      | none => { d with beginning := s }
  | .spanEnded => some d
  | .verbosity begun =>
    ((cut? bytes begun bytes.length).bind Verbosity.ofSetting?).map fun verbosity =>
      { d with verbosity }
  | .start | .span _ | .field _ | .fieldEnded => none

/-- Reads on from `place`. -/
def readFrom (bytes : List UInt8) (place : Nat) (d : Directive) (stage : Stage) :
    List Char → Option Directive
  | [] => d.close bytes stage
  | c :: rest => do
    let (d, stage) ← d.next bytes place c stage
    readFrom bytes (place + c.utf8Size) d stage rest

/-- The directive that a text is.  The places where its parts begin and end are found in the text
without the blanks around it, but the parts are cut out of the text as it stands, so that blanks in
front of a directive shift them and blanks behind it belong to its last part. -/
def ofText? (s : List Char) : Option Directive :=
  readFrom (bytes (String.ofList s)) 0 {} .start (trim isBlank s)

end Directive

end HostedFiles.Log
