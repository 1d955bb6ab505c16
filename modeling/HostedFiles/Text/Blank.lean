import HostedFiles.Text.Split

/-!
# Text/Blank — white space and control characters

White space is the Unicode property White_Space and control characters are the category Cc: twenty
five and sixty five code points, in no version more or fewer.
-/

namespace HostedFiles.Text

/-- A character with the Unicode property White_Space. -/
def isBlank (c : Char) : Bool :=
  let n := c.toNat
  (9 ≤ n && n ≤ 13) || n == 0x20 || n == 0x85 || n == 0xA0 || n == 0x1680 ||
    (0x2000 ≤ n && n ≤ 0x200A) || n == 0x2028 || n == 0x2029 || n == 0x202F || n == 0x205F ||
    n == 0x3000

/-- A control character: the first thirty two, delete, and the thirty two after it. -/
def isControl (c : Char) : Bool :=
  let n := c.toNat
  n < 0x20 || (0x7F ≤ n && n ≤ 0x9F)

/-- Blanks of the ASCII half are blanks here. -/
theorem isBlank_of_isWhitespace {c : Char} (h : c.isWhitespace = true) : isBlank c = true := by
  simp only [Char.isWhitespace, Bool.or_eq_true, decide_eq_true_eq] at h
  rcases h with ((rfl | rfl) | rfl) | rfl <;> decide

/-- The text without white space at either end. -/
def trimBlank (s : String) : String :=
  String.ofList (trim isBlank s.toList)

/-- A text of white space alone, the empty text included. -/
def isBlankText (s : String) : Bool :=
  s.toList.all isBlank

end HostedFiles.Text
