import HostedFiles.Json.Numeral

/-!
# Json/Basic — values of the notation

A value is kept as it was written, with the faults of its texts and numbers where they stand.  What
a field makes of it is asked here: its text, the word that a choice names, what an object says under
a name.  `fault?` looks at a value as a whole.

Main statement: a value without a fault has none where there is more room for nesting
(`fault?_eq_none_of_le`).
-/

namespace HostedFiles

/-- A value as it was written. -/
inductive Json where
  | null
  | bool (value : Bool)
  | number (value : Json.Numeral)
  | text (value : Except Json.Fault String)
  | array (items : List Json)
  | object (members : List (Except Json.Fault String × Json))

namespace Json

/-! ## Single values -/

/-- The text of a text value. -/
def text? : Json → Option String
  | .text (.ok value) => some value
  | _ => none

/-- The word that a choice names.  A choice is written as its word, or as an object that says
nothing under that word. -/
def word? : Json → Option String
  | .text (.ok value) => some value
  | .object [(.ok name, .null)] => some name
  | _ => none

/-- The text of a field that may be left open. -/
def optionalText? : Json → Option (Option String)
  | .null => some none
  | .text (.ok value) => some (some value)
  | _ => none

/-- Whether a value is nothing or a text. -/
def isTextOrNull (value : Json) : Bool :=
  value.optionalText?.isSome

/-- Whether a value is nothing or a list of texts. -/
def isTextsOrNull : Json → Bool
  | .null => true
  | .array items => items.all fun item => item.text?.isSome
  | _ => false

/-! ## Values as a whole -/

/-- How far the whole was read, when one part of it has a fault and `isLast` tells whether that part
is the last one. -/
def Fault.ofPart (isLast : Bool) (fault : Fault) : Fault :=
  if isLast then fault else .inside

mutual

/-- How far a value was read that has a fault anywhere, with room for `room` lists and objects
inside one another.  It has been read up to its end only if the first fault is the very last thing
in it. -/
def fault? (room : Nat) : Json → Option Fault
  | .text (.error fault) => some fault
  | .number value => value.fault?
  | .array items =>
    match room with
    | 0 => some .inside
    | room + 1 => faultOfItems room items
  | .object members =>
    match room with
    | 0 => some .inside
    | room + 1 => faultOfMembers room members
  | _ => none

/-- How far items were read of which one has a fault. -/
def faultOfItems (room : Nat) : List Json → Option Fault
  | [] => none
  | item :: items =>
    match item.fault? room with
    | some fault => some (fault.ofPart items.isEmpty)
    | none => faultOfItems room items

/-- How far members were read of which one has a fault, in its name or in its value. -/
def faultOfMembers (room : Nat) : List (Except Fault String × Json) → Option Fault
  | [] => none
  | (.error _, _) :: _ => some .inside
  | (.ok _, value) :: members =>
    match value.fault? room with
    | some fault => some (fault.ofPart members.isEmpty)
    | none => faultOfMembers room members

end

mutual

/-- **More room makes no fault.** -/
theorem fault?_eq_none_of_le {room more : Nat} (h : room ≤ more) :
    ∀ {value : Json}, value.fault? room = none → value.fault? more = none
  | .null, _ | .bool _, _ | .text (.ok _), _ => by simp [fault?]
  | .text (.error _), hv => by simp [fault?] at hv
  | .number _, hv => by simpa [fault?] using hv
  | .array items, hv => by
    match room, more, h with
    | 0, _, _ => simp [fault?] at hv
    | room + 1, more + 1, h =>
      simp only [fault?] at hv ⊢
      exact faultOfItems_eq_none_of_le (Nat.le_of_succ_le_succ h) hv
  | .object members, hv => by
    match room, more, h with
    | 0, _, _ => simp [fault?] at hv
    | room + 1, more + 1, h =>
      simp only [fault?] at hv ⊢
      exact faultOfMembers_eq_none_of_le (Nat.le_of_succ_le_succ h) hv

/-- More room makes no fault in items. -/
theorem faultOfItems_eq_none_of_le {room more : Nat} (h : room ≤ more) :
    ∀ {items : List Json}, faultOfItems room items = none → faultOfItems more items = none
  | [], _ => by simp [faultOfItems]
  | item :: items, hv => by
    simp only [faultOfItems] at hv ⊢
    split at hv
    · cases hv
    · next hitem =>
      rw [fault?_eq_none_of_le h hitem]
      exact faultOfItems_eq_none_of_le h hv

/-- More room makes no fault in members. -/
theorem faultOfMembers_eq_none_of_le {room more : Nat} (h : room ≤ more) :
    ∀ {members : List (Except Fault String × Json)},
      faultOfMembers room members = none → faultOfMembers more members = none
  | [], _ => by simp [faultOfMembers]
  | (.error _, _) :: _, hv => by simp [faultOfMembers] at hv
  | (.ok _, value) :: members, hv => by
    simp only [faultOfMembers] at hv ⊢
    split at hv
    · cases hv
    · next hvalue =>
      rw [fault?_eq_none_of_le h hvalue]
      exact faultOfMembers_eq_none_of_le h hv

end

/-! ## Members -/

/-- What an object says under a name, whatever else it says under it. -/
inductive Member where
  | absent
  | once (value : Json)
  | repeated

/-- Whether a member stands under `name`. -/
def isNamed (name : String) (m : Except Fault String × Json) : Bool :=
  match m.1 with
  | .ok n => n == name
  | .error _ => false

/-- What the members say under `name`. -/
def member (name : String) (members : List (Except Fault String × Json)) : Member :=
  match members.filter (isNamed name) with
  | [] => .absent
  | [m] => .once m.2
  | _ => .repeated

/-- Whether every name of the members is a text. -/
def namesAreTexts (members : List (Except Fault String × Json)) : Bool :=
  members.all fun m => m.1.isOk

namespace Member

/-- The value that stands once under a name. -/
def once? : Member → Option Json
  | .once value => some value
  | _ => none

/-- Whether a field is left out, or stands once with a value that `p` accepts. -/
def isOptional (p : Json → Bool) : Member → Bool
  | .absent => true
  | .once value => p value
  | .repeated => false

/-- Whether a field stands once, with a value that `p` accepts. -/
def isRequired (p : Json → Bool) : Member → Bool
  | .once value => p value
  | _ => false

end Member

end Json

end HostedFiles
