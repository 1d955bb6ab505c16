import HostedFiles.Log.Pattern.Sign
import HostedFiles.Text.Split

/-!
# Log/Pattern/Class — a choice of characters in brackets

A class lists characters, ranges, kinds of characters and classes inside it, perhaps on both sides
of signs for what they share, what only the first has or what only one has.  It is read with the
stack of the brackets that are open, and gives how deep it nests.
-/

namespace HostedFiles.Log.Pattern

open Text

/-! ## Depth

One part alone is as deep as it is; several together are a level of their own around the deepest of
them. -/

/-- The depth of parts side by side, from their depths. -/
def depthOfAll : List Nat → Nat
  | [] => 0
  | [d] => d
  | depths => depths.max?.getD 0 + 1

/-- **No part is deeper than all of them together.** -/
theorem le_depthOfAll {depths : List Nat} {d : Nat} (h : d ∈ depths) : d ≤ depthOfAll depths := by
  match depths, h with
  | [e], h => exact Nat.le_of_eq (List.mem_singleton.1 h)
  | e :: f :: depths, h => exact Nat.le_succ_of_le (List.le_max?_getD_of_mem h)

/-! ## Brackets -/

/-- A bracket that is open. -/
structure Bracket where
  /-- Nothing but minus signs is read, and they stand for themselves. -/
  fresh : Bool := true
  /-- The depth of what stands before the last sign that combines two sides. -/
  left : Option Nat := none
  /-- The depths of the members behind it. -/
  members : List Nat := []

namespace Bracket

/-- The bracket with one more member of a given depth. -/
def add (b : Bracket) (depth : Nat) : Bracket :=
  { b with fresh := false, members := depth :: b.members }

/-- How deep the content of a bracket nests. -/
def depth (b : Bracket) : Nat :=
  match b.left with
  | none => depthOfAll b.members
  | some left => max left (depthOfAll b.members) + 1

/-- The bracket behind a sign that combines what it holds with what follows. -/
def combine (b : Bracket) : Bracket :=
  { fresh := false, left := some b.depth }

end Bracket

/-! ## Members -/

/-- The names of kinds of characters. -/
def kindNames : List String :=
  ["alnum", "alpha", "ascii", "blank", "cntrl", "digit", "graph", "lower", "print", "punct",
   "space", "upper", "word", "xdigit"]

/-- Whether the characters outside a named kind are meant, and the rest.  The bracket before the
first colon is read. -/
def readKind? (s : List Char) : Option (Bool × List Char) :=
  (after? [':'] s).bind fun s =>
    let (others, s) := match s with
      | '^' :: rest => (true, rest)
      | _ => (false, s)
    (splitFirst? ':' s).bind fun (name, rest) =>
      if kindNames.contains (String.ofList name) then
        (after? [']'] rest).map fun rest => (others, rest)
      else none

/-- Whether a named kind may be a member of a class. -/
def isKindAllowed (o : Options) (others : Bool) : Bool :=
  if o.characters then !o.anyCase else !others

/-- The sign that a member or an end of a range begins with, and the rest. -/
def readMember? (o : Options) : List Char → Option (Sign × List Char)
  | '\\' :: rest => readEscape? o rest
  | c :: rest => some (.character c false, rest)
  | [] => none

/-- The rest behind one member or a range.  A minus sign makes a range unless the class ends behind
it or another one follows. -/
def afterMember? (o : Options) (s : List Char) : Option (List Char) :=
  (readMember? o s).bind fun (first, rest) =>
    let single := if first.isMember o then some (o.skip rest) else none
    match o.skip rest with
    | '-' :: more =>
      if o.peek? more = some ']' ∨ o.peek? more = some '-' then single
      else (readMember? o (o.skip more)).bind fun (last, rest) =>
        if first.isRange o last then some rest else none
    | _ => single

/-! ## Classes -/

/-- The rest of a class behind its opening bracket and the circumflex that may follow it.  In bytes
it has no opposite, since that would hold parts of characters. -/
def intoClass? (o : Options) (s : List Char) : Option (List Char) :=
  match o.skip s with
  | '^' :: rest => if o.characters then some rest else none
  | s => some s

/-- The depth of a class and the rest behind it, where `b` is its last open bracket and `outer` are
those around that one.  Nothing is read before the first member. -/
def readClass? (o : Options) :
    (fuel : Nat) → (outer : List Bracket) → (b : Bracket) → List Char → Option (Nat × List Char)
  | 0, _, _, _ => none
  | fuel + 1, outer, b, s =>
    let mark (fresh : Bool) (rest : List Char) :=
      if (Sign.character '-' false).isMember o then
        readClass? o fuel outer { b.add 0 with fresh } rest
      else none
    match o.skip s with
    | ']' :: rest =>
      if b.fresh && b.members.isEmpty then mark false rest
      else match outer with
        | [] => some (b.depth + 1, rest)
        | b' :: outer => readClass? o fuel outer (b'.add (b.depth + 1)) rest
    | '[' :: rest =>
      match readKind? rest with
      | some (others, rest) =>
        if isKindAllowed o others then readClass? o fuel outer (b.add 0) rest else none
      | none => (intoClass? o rest).bind fun rest => readClass? o fuel (b :: outer) {} rest
    | '&' :: '&' :: rest | '~' :: '~' :: rest => readClass? o fuel outer b.combine rest
    | '-' :: rest =>
      if b.fresh then mark true rest
      else match rest with
        | '-' :: rest => readClass? o fuel outer b.combine rest
        | _ => (afterMember? o ('-' :: rest)).bind fun rest =>
            readClass? o fuel outer (b.add 0) rest
    | s => (afterMember? o s).bind fun rest => readClass? o fuel outer (b.add 0) rest

end HostedFiles.Log.Pattern
