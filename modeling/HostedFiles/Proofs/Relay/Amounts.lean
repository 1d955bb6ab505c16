import HostedFiles.Relay.Command
import HostedFiles.Text.Split
import Mathlib.Logic.Function.Defs

/-!
# Proofs/Relay/Amounts — amounts in words are read back

A text tells an amount as digits, a space and a unit in the singular or the plural (`told?`), and
the amount is that many of the unit.  Whatever length of time or size is put in words, exactly that
amount is told (`told?_lengthInWords`, `told?_sizeInWords`), so two of them never have the same
words (`lengthInWords_injective`, `sizeInWords_injective`).  The unit is in the plural unless there
is one of it, save the abbreviation that large sizes are told in, which has no plural
(`told_exactly`).
-/

namespace HostedFiles.Relay

open Text

/-! ## Reading -/

/-- A unit that amounts are told in, and how much one of it is. -/
structure Measure where
  name : String
  worth : Nat
  deriving DecidableEq

/-- The units of time, in seconds. -/
def timeUnits : List Measure :=
  [⟨"hour", 3600⟩, ⟨"minute", 60⟩, ⟨"second", 1⟩]

/-- The units of size, in bytes. -/
def sizeUnits : List Measure :=
  [⟨"MB", 1048576⟩, ⟨"byte", 1⟩]

/-- What a text tells: a number of a unit, in the plural or not. -/
structure Told where
  number : Nat
  unit : Measure
  plural : Bool
  deriving DecidableEq

/-- The amount that is told. -/
def Told.amount (t : Told) : Nat :=
  t.number * t.unit.worth

/-- The unit that a word stands for, and whether the word is its plural. -/
def unit? (units : List Measure) (word : String) : Option (Measure × Bool) :=
  units.findSome? fun unit =>
    if word = unit.name then some (unit, false)
    else if word = unit.name ++ "s" then some (unit, true)
    else none

/-- The number that a row of digits stands for. -/
def number? (digits : List Char) : Option Nat :=
  if digits ≠ [] ∧ digits.all Char.isDigit then some (Nat.ofDigitChars 10 digits 0) else none

/-- What a text tells: digits, a space, and a word for a unit. -/
def told? (units : List Measure) (text : String) : Option Told := do
  let (digits, word) ← splitFirst? ' ' text.toList
  let number ← number? digits
  let (unit, plural) ← unit? units (String.ofList word)
  return { number, unit, plural }

variable {units : List Measure}

theorem number?_toDigits (n : Nat) : number? (Nat.toDigits 10 n) = some n := by
  have hdigits : (Nat.toDigits 10 n).all Char.isDigit = true :=
    List.all_eq_true.2 fun _ h => Nat.isDigit_of_mem_toDigits (by decide) (by decide) h
  rw [number?, if_pos ⟨Nat.toDigits_ne_nil, hdigits⟩, Nat.ofDigitChars_ten_toDigits]

/-- **A number in front of a word for a unit is read back.** -/
theorem told?_append (n : Nat) {word : String} {unit : Measure} {plural : Bool}
    (h : unit? units word = some (unit, plural)) :
    told? units (toString n ++ " " ++ word) = some ⟨n, unit, plural⟩ := by
  have hspace : ' ' ∉ Nat.toDigits 10 n := fun hmem =>
    absurd (Nat.isDigit_of_mem_toDigits (by decide) (by decide) hmem) (by decide)
  have htext : (toString n ++ " " ++ word).toList = Nat.toDigits 10 n ++ ' ' :: word.toList := by
    simp [String.toList_append, ← Nat.toList_repr]
  simp only [told?, htext, splitFirst?_append hspace, Option.bind_eq_bind, Option.bind_some,
    number?_toDigits, String.ofList_toList, h]
  rfl

/-- **A number of things is read back**, in the plural unless there is one of them. -/
theorem told?_counted (n : Nat) (unit : Measure)
    (hone : unit? units unit.name = some (unit, false))
    (hmany : unit? units (unit.name ++ "s") = some (unit, true)) :
    told? units (counted n unit.name) = some ⟨n, unit, n ≠ 1⟩ := by
  rw [counted]
  split
  next h =>
    subst h
    exact told?_append 1 hone
  next h =>
    rw [String.append_assoc, told?_append n hmany, decide_eq_true h]

/-! ## Lengths of time and sizes -/

/-- **A length of time is told exactly**, in the plural unless there is one of the unit. -/
theorem told?_lengthInWords (seconds : Nat) :
    ∃ t, told? timeUnits (lengthInWords seconds) = some t ∧ t.amount = seconds ∧
      (t.plural = true ↔ t.number ≠ 1) := by
  rw [lengthInWords]
  split
  next hhours =>
    refine ⟨_, told?_counted _ ⟨"hour", 3600⟩ (by decide) (by decide), ?_, decide_eq_true_iff⟩
    rw [Told.amount, Nat.div_mul_cancel (Nat.dvd_of_mod_eq_zero hhours.2)]
  next =>
  split
  next hminutes =>
    refine ⟨_, told?_counted _ ⟨"minute", 60⟩ (by decide) (by decide), ?_, decide_eq_true_iff⟩
    rw [Told.amount, Nat.div_mul_cancel (Nat.dvd_of_mod_eq_zero hminutes.2)]
  next =>
    exact ⟨_, told?_counted _ ⟨"second", 1⟩ (by decide) (by decide), Nat.mul_one _,
      decide_eq_true_iff⟩

/-- **A size is told exactly**; the abbreviation that large sizes are told in has no plural. -/
theorem told?_sizeInWords (bytes : Nat) :
    ∃ t, told? sizeUnits (sizeInWords bytes) = some t ∧ t.amount = bytes ∧
      (t.plural = true ↔ t.number ≠ 1 ∧ t.unit.name ≠ "MB") := by
  rw [sizeInWords]
  split
  next hlarge =>
    rw [show " MB" = " " ++ "MB" from rfl, ← String.append_assoc]
    have hword : unit? sizeUnits "MB" = some (⟨"MB", 1048576⟩, false) := by decide
    refine ⟨_, told?_append (bytes / 1048576) hword, ?_, by simp⟩
    rw [Told.amount, Nat.div_mul_cancel (Nat.dvd_of_mod_eq_zero hlarge.2)]
  next =>
    exact ⟨_, told?_counted _ ⟨"byte", 1⟩ (by decide) (by decide), Nat.mul_one _, by simp⟩

/-- Amounts that are told exactly are not told in the same words. -/
theorem injective_of_told? {words : Nat → String}
    (h : ∀ n, ∃ t, told? units (words n) = some t ∧ t.amount = n) : Function.Injective words := by
  intro a b hwords
  obtain ⟨t, ht, rfl⟩ := h a
  obtain ⟨u, hu, rfl⟩ := h b
  rw [hwords, hu] at ht
  rw [Option.some.inj ht]

/-- **Different lengths of time are told in different words.** -/
theorem lengthInWords_injective : Function.Injective lengthInWords :=
  injective_of_told? fun seconds => (told?_lengthInWords seconds).imp fun _ h => ⟨h.1, h.2.1⟩

/-- **Different sizes are told in different words.** -/
theorem sizeInWords_injective : Function.Injective sizeInWords :=
  injective_of_told? fun bytes => (told?_sizeInWords bytes).imp fun _ h => ⟨h.1, h.2.1⟩

/-- **Amounts are told exactly**: the words for a length of time and for a size say a number of a
unit that comes to just that length or size, in the plural unless the number is one or the unit is
an abbreviation.  So no two of them have the same words. -/
theorem told_exactly :
    (∀ seconds, ∃ t, told? timeUnits (lengthInWords seconds) = some t ∧ t.amount = seconds ∧
      (t.plural = true ↔ t.number ≠ 1)) ∧
    (∀ bytes, ∃ t, told? sizeUnits (sizeInWords bytes) = some t ∧ t.amount = bytes ∧
      (t.plural = true ↔ t.number ≠ 1 ∧ t.unit.name ≠ "MB")) ∧
    Function.Injective lengthInWords ∧ Function.Injective sizeInWords :=
  ⟨told?_lengthInWords, told?_sizeInWords, lengthInWords_injective, sizeInWords_injective⟩

/-- Two megabytes are told, and not in the plural. -/
theorem not_plural_abbreviation : sizeInWords 2097152 = "2 MB" ∧
    ¬ ∃ t, told? sizeUnits (sizeInWords 2097152) = some t ∧ t.amount = 2097152 ∧
      (t.plural = true ↔ t.number ≠ 1) := by
  have htwo : told? sizeUnits (sizeInWords 2097152) = some ⟨2, ⟨"MB", 1048576⟩, false⟩ := by
    decide
  refine ⟨by decide, ?_⟩
  rintro ⟨t, ht, -, hplural⟩
  rw [htwo] at ht
  obtain rfl := Option.some.inj ht
  exact Bool.false_ne_true (hplural.2 (by decide))

end HostedFiles.Relay
