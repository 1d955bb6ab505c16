import HostedFiles.Encoding.Percent

/-!
# Json/Text — texts between quotation marks

`quote` writes a text: quotation marks, backslashes and the first thirty two characters are escaped,
the rest stands for itself.  `readMarks` reads what follows an opening mark up to the closing one,
and `join` puts characters together from what it read.  Reading what was written gives the text
again (`readMarks_quote`, `join_map_char`).
-/

namespace HostedFiles.Json

/-! ## Values that stand for nothing

A text may hold half of a character, and a number may be larger than any that can be kept.  Such a
value does no harm where nobody looks at it.  Where it is looked at and then given up, all depends
on how far it was read: up to its end, so that what follows can still be read, or not so far. -/

/-- How far a value was read that stands for nothing. -/
inductive Fault where
  /-- Up to its end. -/
  | atEnd
  /-- Not up to its end. -/
  | inside
  deriving DecidableEq

/-! ## Writing -/

/-- A small digit of base sixteen. -/
def smallHexDigit (n : Nat) : Char :=
  if n < 10 then Char.ofNat (48 + n) else Char.ofNat (87 + n)

/-- One character as it stands between quotation marks. -/
def escape (c : Char) : List Char :=
  if c = '"' then ['\\', '"']
  else if c = '\\' then ['\\', '\\']
  else if c = '\x08' then ['\\', 'b']
  else if c = '\x0C' then ['\\', 'f']
  else if c = '\n' then ['\\', 'n']
  else if c = '\r' then ['\\', 'r']
  else if c = '\t' then ['\\', 't']
  else if c.toNat < 32 then
    ['\\', 'u', '0', '0', smallHexDigit (c.toNat / 16), smallHexDigit (c.toNat % 16)]
  else [c]

/-- A text between quotation marks. -/
def quote (s : String) : List Char :=
  '"' :: s.toList.flatMap escape ++ ['"']

/-! ## Reading -/

/-- What stands at one place of a written text. -/
inductive Mark where
  /-- A character, written as itself or by an escape. -/
  | char (c : Char)
  /-- Half of a character, written by its number. -/
  | surrogate (n : Nat)
  /-- Bytes that are no character. -/
  | gap
  deriving DecidableEq

/-- The number of four digits of base sixteen. -/
def fourDigits? (a b c d : Char) : Option Nat := do
  let a ← Percent.hexValue? a
  let b ← Percent.hexValue? b
  let c ← Percent.hexValue? c
  let d ← Percent.hexValue? d
  return ((a * 16 + b) * 16 + c) * 16 + d

/-- What a character number below two to the sixteenth stands for. -/
def Mark.ofNumber (n : Nat) : Mark :=
  if 0xD800 ≤ n ∧ n < 0xE000 then .surrogate n else .char (Char.ofNat n)

/-- The character that a backslash and `c` stand for. -/
def escaped? (c : Char) : Option Char :=
  if c = '"' ∨ c = '\\' ∨ c = '/' then some c
  else if c = 'b' then some '\x08'
  else if c = 'f' then some '\x0C'
  else if c = 'n' then some '\n'
  else if c = 'r' then some '\r'
  else if c = 't' then some '\t'
  else none

/-- The marks up to the closing quotation mark, and what follows it. -/
def readMarks : List (Option Char) → Option (List Mark × List (Option Char))
  | [] => none
  | none :: rest => (readMarks rest).map fun r => (.gap :: r.1, r.2)
  | some '\\' :: some 'u' :: some a :: some b :: some c :: some d :: rest =>
    match fourDigits? a b c d with
    | some n => (readMarks rest).map fun r => (Mark.ofNumber n :: r.1, r.2)
    | none => none
  | some '\\' :: some e :: rest =>
    match escaped? e with
    | some c => (readMarks rest).map fun r => (.char c :: r.1, r.2)
    | none => none
  | some c :: rest =>
    if c = '"' then some ([], rest)
    else if c = '\\' ∨ c.toNat < 32 then none
    else (readMarks rest).map fun r => (.char c :: r.1, r.2)

/-- The characters of the marks.  Two halves that belong together make one character.  A half
without its partner ends the reading: behind the mark that follows a first half, which may be the
closing one, and behind a second half itself.  A gap is noticed at the end. -/
def join : List Mark → Except Fault (List Char)
  | [] => .ok []
  | .char c :: rest => (join rest).map (c :: ·)
  | .gap :: rest => (join rest).bind fun _ => .error .atEnd
  | [.surrogate h] => .error (if h < 0xDC00 then .atEnd else .inside)
  | .surrogate h :: .surrogate l :: rest =>
    if h < 0xDC00 ∧ 0xDC00 ≤ l then
      (join rest).map (Char.ofNat (0x10000 + (h - 0xD800) * 1024 + (l - 0xDC00)) :: ·)
    else .error .inside
  | .surrogate _ :: _ :: _ => .error .inside

/-! ## Reading undoes writing -/

/-- Characters alone are joined as they are. -/
@[simp] theorem join_map_char (s : List Char) : join (s.map Mark.char) = .ok s := by
  induction s with
  | nil => rfl
  | cons c s ih => simp [join, ih, Except.map]

/-- A written character is read back, whatever follows it. -/
theorem readMarks_escape (c : Char) (rest : List (Option Char)) :
    readMarks ((escape c).map some ++ rest) =
      (readMarks rest).map fun r => (Mark.char c :: r.1, r.2) := by
  by_cases hq : c = '"'
  · subst hq; rfl
  by_cases hb : c = '\\'
  · subst hb; rfl
  by_cases h8 : c = '\x08'
  · subst h8; rfl
  by_cases hf : c = '\x0C'
  · subst hf; rfl
  by_cases hn : c = '\n'
  · subst hn; rfl
  by_cases hr : c = '\r'
  · subst hr; rfl
  by_cases ht : c = '\t'
  · subst ht; rfl
  by_cases hlow : c.toNat < 32
  · have hdigits : ∀ n < 32,
        fourDigits? '0' '0' (smallHexDigit (n / 16)) (smallHexDigit (n % 16)) = some n := by decide
    have hmark : Mark.ofNumber c.toNat = .char c := by
      rw [Mark.ofNumber, if_neg (by omega), Char.ofNat_toNat]
    simp only [escape, hq, hb, h8, hf, hn, hr, ht, hlow, if_true, if_false, List.map_cons,
      List.map_nil, List.cons_append, List.nil_append]
    rw [readMarks, hdigits _ hlow]
    simp only [hmark]
  · simp only [escape, hq, hb, h8, hf, hn, hr, ht, hlow, if_false, List.map_cons, List.map_nil,
      List.cons_append, List.nil_append]
    rw [readMarks]
    · simp [hq, hb, hlow]
    · intro a b c' d rest' h; simp_all
    · intro e rest' h; simp_all

/-- **A written text is read back up to its closing mark**, whatever follows it. -/
theorem readMarks_quote (s : List Char) (rest : List (Option Char)) :
    readMarks ((s.flatMap escape).map some ++ some '"' :: rest) =
      some (s.map Mark.char, rest) := by
  induction s with
  | nil => rfl
  | cons c s ih =>
    rw [List.flatMap_cons, List.map_append, List.append_assoc, readMarks_escape, ih]
    rfl

end HostedFiles.Json
