import HostedFiles.Text.Alphanumeric

/-!
# Text/Number — whole numbers in decimal

`readNumber?` reads a number with an optional plus sign and at least one digit, no larger than a
limit: ports, seconds and lengths are read by it with their own limits.  It stops at the first digit
that goes beyond the limit.
-/

namespace HostedFiles.Text

/-- The value of a digit. -/
def digitValue (c : Char) : Nat :=
  c.toNat - '0'.toNat

/-- The number that a row of digits stands for. -/
def digitsValue (ds : List Char) : Nat :=
  ds.foldl (fun n c => n * 10 + digitValue c) 0

/-- The digits in front that can be added to the number `n` without going beyond `limit`: the number
they lead to, and the digits behind them. -/
def absorb (limit n : Nat) : List Char → Nat × List Char
  | [] => (n, [])
  | d :: rest =>
    if n * 10 + digitValue d ≤ limit then absorb limit (n * 10 + digitValue d) rest
    else (n, d :: rest)

/-- Absorbing stays within the limit. -/
theorem absorb_le {limit n : Nat} (h : n ≤ limit) (ds : List Char) :
    (absorb limit n ds).1 ≤ limit := by
  induction ds generalizing n with
  | nil => exact h
  | cons d rest ih =>
    unfold absorb
    split
    · next hd => exact ih hd
    · exact h

/-- What is absorbed whole is the number that all digits stand for. -/
theorem absorb_eq_foldl {limit n : Nat} {ds : List Char} (h : (absorb limit n ds).2 = []) :
    (absorb limit n ds).1 = ds.foldl (fun n c => n * 10 + digitValue c) n := by
  induction ds generalizing n with
  | nil => rfl
  | cons d rest ih =>
    unfold absorb at h ⊢
    split
    · next hd => exact ih (by simpa [hd] using h)
    · next hd => simp [hd] at h

/-- The text without one plus sign in front. -/
def dropPlus : List Char → List Char
  | '+' :: rest => rest
  | s => s

/-- The number that digits stand for, at least one and at most `limit`. -/
def readDigits? (limit : Nat) (ds : List Char) : Option Nat :=
  if ds ≠ [] ∧ ds.all isAsciiDigit then
    match absorb limit 0 ds with
    | (n, []) => some n
    | _ => none
  else none

/-- The number that the text is: an optional plus sign and digits, at most `limit`. -/
def readNumber? (limit : Nat) (s : List Char) : Option Nat :=
  readDigits? limit (dropPlus s)

/-- **A number that was read is the one written, and respects the limit.** -/
theorem eq_of_readDigits? {limit n : Nat} {ds : List Char} (h : readDigits? limit ds = some n) :
    n = digitsValue ds ∧ n ≤ limit := by
  simp only [readDigits?] at h
  split at h
  · split at h
    · next m hm =>
      obtain rfl := Option.some.inj h
      have hvalue := absorb_eq_foldl (congrArg Prod.snd hm)
      have hle := absorb_le (Nat.zero_le limit) ds
      rw [hm] at hvalue hle
      exact ⟨hvalue, hle⟩
    · cases h
  · cases h

/-- The largest number of sixteen binary digits. -/
def maxPort : Nat := 65535

/-- The largest number of sixty four binary digits. -/
def maxUnsigned : Nat := 18446744073709551615

end HostedFiles.Text
