import HostedFiles.Json.Text
import HostedFiles.Text.Number

/-!
# Json/Numeral — numbers as they are written

A number keeps the digits it was written with, since how large it may be depends on the field that
holds it.  A whole number is read from the digits by its field; any other number has to be one that
double precision can hold, and `fault?` tells how far it was read when it is none.

Main statement: a number with no more than fifty three binary digits is held as it is
(`rounded_eq_self`).
-/

namespace HostedFiles.Json

/-- A number as it is written. -/
structure Numeral where
  negative : Bool
  /-- The digits in front of the point. -/
  whole : List Char
  /-- The digits behind the point. -/
  fraction : List Char
  /-- Whether the exponent is negative, and its digits. -/
  exponent : Option (Bool × List Char)

namespace Numeral

/-! ## Reading -/

/-- The digits in front, and what follows them. -/
def readDigits : List (Option Char) → List Char × List (Option Char)
  | some c :: rest =>
    if '0' ≤ c ∧ c ≤ '9' then
      let more := readDigits rest
      (c :: more.1, more.2)
    else ([], some c :: rest)
  | s => ([], s)

/-- The digits before a point: one zero, or digits that do not begin with zero. -/
def readWhole? (s : List (Option Char)) : Option (List Char × List (Option Char)) :=
  match readDigits s with
  | ([], _) => none
  | (['0'], rest) => some (['0'], rest)
  | ('0' :: _, _) => none
  | digits => some digits

/-- The digits behind a point, none where there is no point. -/
def readFraction? : List (Option Char) → Option (List Char × List (Option Char))
  | some '.' :: rest =>
    match readDigits rest with
    | ([], _) => none
    | digits => some digits
  | s => some ([], s)

/-- The sign in front of an exponent: whether it is a minus sign, and what follows it. -/
def readSign : List (Option Char) → Bool × List (Option Char)
  | some '+' :: rest => (false, rest)
  | some '-' :: rest => (true, rest)
  | s => (false, s)

/-- The exponent, when there is one. -/
def readExponent? : List (Option Char) → Option (Option (Bool × List Char) × List (Option Char))
  | some c :: rest =>
    if c = 'e' ∨ c = 'E' then
      match readDigits (readSign rest).2 with
      | ([], _) => none
      | (digits, more) => some (some ((readSign rest).1, digits), more)
    else some (none, some c :: rest)
  | s => some (none, s)

/-- A number behind its sign. -/
def readBehind? (negative : Bool) (s : List (Option Char)) :
    Option (Numeral × List (Option Char)) := do
  let (whole, s) ← readWhole? s
  let (fraction, s) ← readFraction? s
  let (exponent, s) ← readExponent? s
  return ({ negative, whole, fraction, exponent }, s)

/-- A number. -/
def read? : List (Option Char) → Option (Numeral × List (Option Char))
  | some '-' :: rest => readBehind? true rest
  | s => readBehind? false s

/-! ## Double precision -/

/-- The number of at most fifty three binary digits, with zeros behind them, that is nearest to `n`;
of two that are equally near, the one whose last digit is zero. -/
def rounded (n : Nat) : Nat :=
  let unit := 1 <<< (n.log2 - 52)
  let low := n / unit
  let up := unit < 2 * (n % unit) ∨ unit = 2 * (n % unit) ∧ low % 2 = 1
  (if up then low + 1 else low) * unit

/-- **Fifty three binary digits are kept as they are.** -/
theorem rounded_eq_self {n : Nat} (h : n.log2 < 53) : rounded n = n := by
  simp [rounded, Nat.sub_eq_zero_of_le (Nat.le_of_lt_succ h), Nat.mod_one]

/-- The greatest power of ten that can be held. -/
def maxScale : Int := 308

/-- The most binary digits that a whole number can have which can be held. -/
def maxBinaryDigits : Nat := 1024

/-- Whether `n` times ten to the power of `scale` can be held.  Both are rounded before they are
multiplied, and their product again. -/
def isHeld (n : Nat) (scale : Int) : Bool :=
  n == 0 || scale < 0 ||
    (scale ≤ maxScale &&
      (rounded (rounded n * rounded (Nat.pow 10 scale.toNat))).log2 < maxBinaryDigits)

/-- The greatest exponent that is counted. -/
def maxExponent : Nat := 2147483647

/-- How far a number was read that cannot be held.  Of its digits as many count as sixty four binary
digits hold, and the others only move the point; an exponent too large to be counted ends the
reading at the digit that makes it so, unless the number is near to zero. -/
def fault? (n : Numeral) : Option Fault :=
  let whole := Text.absorb Text.maxUnsigned 0 n.whole
  let digits := Text.absorb Text.maxUnsigned whole.1 n.fraction
  let scale : Int := whole.2.length - (n.fraction.length - digits.2.length)
  let held (exponent : Int) : Option Fault :=
    if isHeld digits.1 (scale + exponent) then none else some .atEnd
  match n.exponent with
  | none => held 0
  | some (negative, ds) =>
    match Text.absorb maxExponent 0 ds with
    | (e, []) => held (if negative then -e else e)
    | (_, _ :: rest) =>
      if negative ∨ digits.1 = 0 then none
      else if rest = [] then some .atEnd
      else some .inside

end Numeral

end HostedFiles.Json
