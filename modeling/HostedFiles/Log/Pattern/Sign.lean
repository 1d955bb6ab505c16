import HostedFiles.Encoding.Percent
import HostedFiles.Text.Blank

/-!
# Log/Pattern/Sign — the smallest parts of a pattern

A pattern is a text of signs: characters that stand for themselves, escapes behind a backslash, and
signs for any character or for a place in the text.  Options that are switched on and off inside the
pattern decide whether blanks between the signs count, and which signs are understood: the tables
that tell the letters, digits and cases of all scripts are not at hand, so a sign that needs one is
refused, and so is a sign that could match a part of a character.
-/

namespace HostedFiles.Log.Pattern

open Text

/-! ## Options -/

/-- The options on which it depends what is well formed. -/
structure Options where
  /-- Blanks and remarks between the signs do not count. -/
  spaced : Bool := false
  /-- Letters match in either case. -/
  anyCase : Bool := false
  /-- The text is read as characters and not as bytes. -/
  characters : Bool := true
  deriving DecidableEq

/-- What is left of a text without the blanks and remarks in front.  A remark reaches from a number
sign to the end of the line; `inside` tells whether the text begins in one. -/
def afterSpace : (inside : Bool) → List Char → List Char
  | _, [] => []
  | true, c :: rest => afterSpace (c != '\n') rest
  | false, c :: rest =>
    if isBlank c then afterSpace false rest
    else if c = '#' then afterSpace true rest
    else c :: rest

namespace Options

/-- What is left of a text without what does not count in front. -/
def skip (o : Options) (s : List Char) : List Char :=
  if o.spaced then afterSpace false s else s

/-- The next character that counts.  Here a remark is no longer than its number sign and the blanks
behind it. -/
def peek? (o : Options) (s : List Char) : Option Char :=
  if o.spaced then
    match s.dropWhile isBlank with
    | '#' :: rest => (rest.dropWhile isBlank).head?
    | rest => rest.head?
  else s.head?

end Options

/-! ## Signs -/

/-- What a sign stands for. -/
inductive Sign where
  /-- One character, which may be written as the number of a byte. -/
  | character (c : Char) (byte : Bool)
  /-- Any character. -/
  | any
  /-- A digit, a blank or a letter, or any character that is none. -/
  | kind (others : Bool)
  /-- An end of the text or of a line. -/
  | bound
  /-- A place at the end of a word, or none such. -/
  | wordBound
  deriving DecidableEq

namespace Sign

/-- Whether a sign may stand on its own. -/
def isAllowed (o : Options) : Sign → Bool
  | character c byte => if o.characters then !o.anyCase else !byte || isAscii c
  | any => o.characters
  | kind others => !o.characters && !others
  | bound => true
  | wordBound => !o.characters

/-- Whether a sign may be a member of a class. -/
def isMember (o : Options) : Sign → Bool
  | character c _ => if o.characters then !o.anyCase else isAscii c
  | kind others => !o.characters && !others
  | any | bound | wordBound => false

/-- Whether the characters from one sign to another are a member of a class. -/
def isRange (o : Options) : Sign → Sign → Bool
  | character first byte, character last byte' =>
    first ≤ last && isMember o (character first byte) && isMember o (character last byte')
  | _, _ => false

end Sign

/-! ## Reading signs -/

/-- The number whose `count` further digits of base sixteen follow those of `n`, and the rest. -/
def readHex? (o : Options) : (count n : Nat) → List Char → Option (Nat × List Char)
  | 0, n, s => some (n, s)
  | count + 1, n, s =>
    match o.skip s with
    | c :: rest => (Percent.hexValue? c).bind fun d => readHex? o count (n * 16 + d) rest
    | [] => none

/-- The character whose number is written with `count` digits, and the rest. -/
def readNumbered? (o : Options) (count : Nat) (s : List Char) : Option (Sign × List Char) :=
  (readHex? o count 0 s).bind fun r =>
    if r.1.isValidChar then some (.character (Char.ofNat r.1) (count == 2), r.2) else none

/-- Letters that have a meaning behind a backslash. -/
def letterSigns : List (Char × Sign) :=
  [('a', .character '\x07' false), ('f', .character '\x0C' false), ('n', .character '\n' false),
   ('r', .character '\r' false), ('t', .character '\t' false), ('v', .character '\x0B' false),
   ('d', .kind false), ('s', .kind false), ('w', .kind false),
   ('D', .kind true), ('S', .kind true), ('W', .kind true),
   ('A', .bound), ('z', .bound),
   ('b', .wordBound), ('B', .wordBound), ('<', .wordBound), ('>', .wordBound)]

/-- The sign behind a backslash, and the rest.  A mark of the ASCII half stands for itself. -/
def readEscape? (o : Options) : List Char → Option (Sign × List Char)
  | 'x' :: rest => readNumbered? o 2 rest
  | 'u' :: rest => readNumbered? o 4 rest
  | 'U' :: rest => readNumbered? o 8 rest
  | c :: rest =>
    match letterSigns.lookup c with
    | some sign => some (sign, rest)
    | none =>
      if isAscii c && !isAsciiAlphanumeric c then some (.character c false, rest) else none
  | [] => none

/-- The sign that a text begins with, and the rest. -/
def readSign? (o : Options) : List Char → Option (Sign × List Char)
  | '\\' :: rest => readEscape? o rest
  | '.' :: rest => some (.any, rest)
  | '^' :: rest | '$' :: rest => some (.bound, rest)
  | c :: rest => some (.character c false, rest)
  | [] => none

end HostedFiles.Log.Pattern
