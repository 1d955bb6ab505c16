import HostedFiles.Text.CaseTable

/-!
# Text/Lowercase — full lower-casing

Each capital becomes its small letter.  Two rules look further than one character: a capital dotted
I becomes two characters, and a capital sigma that ends a word becomes the final sigma.
-/

namespace HostedFiles.Text

/-! ## One character -/

/-- The small letter of an ASCII capital; every other character itself. -/
def asciiLower (c : Char) : Char :=
  if 'A' ≤ c ∧ c ≤ 'Z' then Char.ofNat (c.toNat + 32) else c

/-- The small letter of a capital that has exactly one; every other character itself. -/
def smallLetter (c : Char) : Char :=
  if isAscii c then asciiLower c
  else match capitalRuns.find? fun r => decide (r.Holds c.toNat) with
    | some r => Char.ofNat (c.toNat + r.offset).toNat
    | none => c

/-- A letter of upper, lower or title case. -/
def isCased (c : Char) : Bool :=
  if isAscii c then ('a' ≤ c && c ≤ 'z') || ('A' ≤ c && c ≤ 'Z') else cased.contains c.toNat

/-- A character that the case of a word looks through, such as an apostrophe or an accent. -/
def isCaseIgnorable (c : Char) : Bool :=
  if isAscii c then c == '\x27' || c == '.' || c == ':' || c == '^' || c == '\x60'
  else caseIgnorable.contains c.toNat

/-! ## Texts -/

/-- Whether the nearest character that is not looked through has a case. -/
def meetsCased (s : List Char) : Bool :=
  match s.dropWhile isCaseIgnorable with
  | c :: _ => isCased c
  | [] => false

/-- A sigma ends its word when a letter stands before it and none after it. -/
def endsWord (before after : List Char) : Bool :=
  meetsCased before && !meetsCased after

/-- Lower-cases a text, given the characters in front of it from the nearest outwards. -/
def lowercaseAfter (before : List Char) : List Char → List Char
  | [] => []
  | c :: rest =>
    let small :=
      if c = '\u03A3' then [if endsWord before rest then '\u03C2' else '\u03C3']
      else if c = '\u0130' then ['i', '\u0307']
      else [smallLetter c]
    small ++ lowercaseAfter (c :: before) rest

/-- The text in lower case. -/
def lowercase (s : String) : String :=
  String.ofList (lowercaseAfter [] s.toList)

/-- The text with its ASCII capitals made small; each character keeps its place. -/
def asciiLowercase (s : List Char) : List Char :=
  s.map asciiLower

/-- Two texts that differ at most in the case of ASCII letters. -/
def sameIgnoringCase (s t : List Char) : Bool :=
  asciiLowercase s == asciiLowercase t

/-- Lower-casing ASCII letters keeps the length. -/
@[simp] theorem length_asciiLowercase (s : List Char) :
    (asciiLowercase s).length = s.length := by
  simp [asciiLowercase]

end HostedFiles.Text
