import HostedFiles.Json.Basic
import HostedFiles.Json.Text

/-!
# Json/Reader — reading a value

`readValue` reads one value from the front of a row of characters and gaps and returns what follows
it.  Nesting is not limited: the count it takes is only there to show that it ends, and twice the
length of the input is always enough.  `Json.ofUnits?` reads a whole input, and allows nothing but
blanks around the value.
-/

namespace HostedFiles.Json

/-! ## Parts -/

/-- Space, tab, line feed and carriage return. -/
def isSpace (unit : Option Char) : Bool :=
  unit == some ' ' || unit == some '\t' || unit == some '\n' || unit == some '\r'

/-- The input without the blanks in front. -/
def skip (s : List (Option Char)) : List (Option Char) :=
  s.dropWhile isSpace

/-- What follows `word` in an input that begins with it. -/
def afterWord? : List Char → List (Option Char) → Option (List (Option Char))
  | [], s => some s
  | w :: word, some c :: s => if w = c then afterWord? word s else none
  | _ :: _, _ => none

/-- A text behind its opening mark. -/
def readText? (s : List (Option Char)) : Option (Except Fault String × List (Option Char)) :=
  (readMarks s).map fun r => ((join r.1).map String.ofList, r.2)

/-! ## Values -/

mutual

/-- The value in front, blanks allowed before it. -/
def readValue : Nat → List (Option Char) → Option (Json × List (Option Char))
  | 0, _ => none
  | fuel + 1, s =>
    match skip s with
    | some '"' :: rest => (readText? rest).map fun r => (.text r.1, r.2)
    | some '[' :: rest =>
      match skip rest with
      | some ']' :: rest => some (.array [], rest)
      | rest => (readItems fuel rest).map fun r => (.array r.1, r.2)
    | some '\x7b' :: rest =>
      match skip rest with
      | some '\x7d' :: rest => some (.object [], rest)
      | rest => (readMembers fuel rest).map fun r => (.object r.1, r.2)
    | some 'n' :: rest => (afterWord? "ull".toList rest).map fun rest => (.null, rest)
    | some 't' :: rest => (afterWord? "rue".toList rest).map fun rest => (.bool true, rest)
    | some 'f' :: rest => (afterWord? "alse".toList rest).map fun rest => (.bool false, rest)
    | rest => (Numeral.read? rest).map fun r => (.number r.1, r.2)

/-- The items of a list up to its end, at least one. -/
def readItems : Nat → List (Option Char) → Option (List Json × List (Option Char))
  | 0, _ => none
  | fuel + 1, s => do
    let (item, rest) ← readValue fuel s
    match skip rest with
    | some ',' :: rest => do
      let (items, rest) ← readItems fuel rest
      return (item :: items, rest)
    | some ']' :: rest => return ([item], rest)
    | _ => none

/-- The members of an object up to its end, at least one. -/
def readMembers :
    Nat → List (Option Char) → Option (List (Except Fault String × Json) × List (Option Char))
  | 0, _ => none
  | fuel + 1, s =>
    match skip s with
    | some '"' :: rest => do
      let (name, rest) ← readText? rest
      match skip rest with
      | some ':' :: rest => do
        let (value, rest) ← readValue fuel rest
        match skip rest with
        | some ',' :: rest => do
          let (members, rest) ← readMembers fuel rest
          return ((name, value) :: members, rest)
        | some '\x7d' :: rest => return ([(name, value)], rest)
        | _ => none
      | _ => none
    | _ => none

end

/-- The value that a whole input is. -/
def ofUnits? (s : List (Option Char)) : Option Json :=
  match readValue (2 * s.length + 1) s with
  | some (value, rest) => if skip rest = [] then some value else none
  | none => none

/-- The value that a row of bytes is. -/
def ofBytes? (l : List UInt8) : Option Json :=
  ofUnits? (Text.units l)

/-- The value that a text is. -/
def ofText? (s : String) : Option Json :=
  ofUnits? (s.toList.map some)

end HostedFiles.Json
