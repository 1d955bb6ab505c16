import HostedFiles.Text.AlphanumericTable
import HostedFiles.Text.NumeralTable

/-!
# Text/Alphanumeric — letters and numbers

The ASCII class, and the class of all letters and numbers of Unicode that contains it.  Of the
latter the numbers that are no letters can be told apart.
-/

namespace HostedFiles.Text

/-- An ASCII digit. -/
def isAsciiDigit (c : Char) : Bool :=
  '0' ≤ c && c ≤ '9'

/-- An ASCII letter. -/
def isAsciiLetter (c : Char) : Bool :=
  ('a' ≤ c && c ≤ 'z') || ('A' ≤ c && c ≤ 'Z')

/-- An ASCII letter or digit. -/
def isAsciiAlphanumeric (c : Char) : Bool :=
  isAsciiLetter c || isAsciiDigit c

/-- A letter or number of any script. -/
def isAlphanumeric (c : Char) : Bool :=
  if isAscii c then isAsciiAlphanumeric c else lettersAndNumbers.contains c.toNat

/-- A letter of any script, or a mark or a number that counts as one. -/
def isAlphabetic (c : Char) : Bool :=
  if isAscii c then isAsciiLetter c
  else lettersAndNumbers.contains c.toNat && !numerals.contains c.toNat

/-- Letters are letters or numbers. -/
theorem isAlphanumeric_of_isAlphabetic {c : Char} (h : isAlphabetic c = true) :
    isAlphanumeric c = true := by
  unfold isAlphabetic at h
  unfold isAlphanumeric isAsciiAlphanumeric
  split at h <;> simp_all

end HostedFiles.Text
