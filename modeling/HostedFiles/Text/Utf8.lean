/-!
# Text/Utf8 — texts as bytes

`bytes` writes a text and `ofBytes?` reads it back, refusing bytes that are no text.  `units` reads
any bytes at all: where a character cannot be completed it reports one gap, and `lossy` fills each
gap with the replacement character.  On the bytes of a text both give that text.  The number of
bytes is the size of a text.
-/

namespace HostedFiles.Text

/-! ## Strict reading -/

/-- The bytes of a text. -/
def bytes (s : String) : List UInt8 :=
  s.toList.flatMap String.utf8EncodeChar

/-- The text that the bytes are, when they are one. -/
def ofBytes? (l : List UInt8) : Option String :=
  String.fromUTF8? l.toByteArray

/-- The bytes of a text are the ones it is stored as. -/
theorem toByteArray_bytes (s : String) : (bytes s).toByteArray = s.toByteArray := by
  rw [bytes, ← List.utf8Encode, String.utf8Encode_toList]

/-- **Reading undoes writing.** -/
@[simp] theorem ofBytes?_bytes (s : String) : ofBytes? (bytes s) = some s := by
  rw [ofBytes?, toByteArray_bytes, String.fromUTF8?, dif_pos s.isValidUTF8]
  rfl

/-! ## Reading what may be no text -/

/-- A character of which some bytes are read: its value so far, how many bytes it still needs, and
the range in which the next one must lie. -/
structure Begun where
  value : Nat
  needed : Nat
  least : Nat := 0x80
  greatest : Nat := 0xBF

/-- What a byte at the start of a character gives: finished units, and the character it begins. -/
def begin (b : Nat) : List (Option Char) × Option Begun :=
  if b < 0x80 then ([some (Char.ofNat b)], none)
  else if 0xC2 ≤ b ∧ b ≤ 0xDF then ([], some { value := b - 0xC0, needed := 1 })
  else if b = 0xE0 then ([], some { value := 0, needed := 2, least := 0xA0 })
  else if b = 0xED then ([], some { value := 0xD, needed := 2, greatest := 0x9F })
  else if 0xE1 ≤ b ∧ b ≤ 0xEF then ([], some { value := b - 0xE0, needed := 2 })
  else if b = 0xF0 then ([], some { value := 0, needed := 3, least := 0x90 })
  else if b = 0xF4 then ([], some { value := 4, needed := 3, greatest := 0x8F })
  else if 0xF1 ≤ b ∧ b ≤ 0xF3 then ([], some { value := b - 0xF0, needed := 3 })
  else ([none], none)

/-- What a byte inside a character gives.  A byte that cannot belong to it closes it with a gap and
starts afresh. -/
def Begun.next (part : Begun) (b : Nat) : List (Option Char) × Option Begun :=
  if part.least ≤ b ∧ b ≤ part.greatest then
    let value := part.value * 64 + (b - 0x80)
    if part.needed ≤ 1 then ([some (Char.ofNat value)], none)
    else ([], some { value, needed := part.needed - 1 })
  else
    let fresh := begin b
    (none :: fresh.1, fresh.2)

/-- The characters and gaps of bytes that follow an unfinished character. -/
def pieces : Option Begun → List UInt8 → List (Option Char)
  | none, [] => []
  | some _, [] => [none]
  | part, b :: rest =>
    let step := match part with
      | none => begin b.toNat
      | some p => p.next b.toNat
    step.1 ++ pieces step.2 rest

/-- The characters of the bytes, with a gap wherever a character cannot be completed. -/
def units (l : List UInt8) : List (Option Char) :=
  match ofBytes? l with
  | some s => s.toList.map some
  | none => pieces none l

/-- **The bytes of a text have no gaps.** -/
@[simp] theorem units_bytes (s : String) : units (bytes s) = s.toList.map some := by
  simp [units]

/-- The text of the bytes, with the replacement character in every gap. -/
def lossy (l : List UInt8) : String :=
  String.ofList ((units l).map fun unit => unit.getD '\uFFFD')

/-- **Filling gaps leaves a text as it is.** -/
@[simp] theorem lossy_bytes (s : String) : lossy (bytes s) = s := by
  simp [lossy, Function.comp_def]

/-! ## Sizes -/

/-- The size of a text is that of its first character and that of the rest. -/
theorem utf8ByteSize_ofList_cons (c : Char) (l : List Char) :
    (String.ofList (c :: l)).utf8ByteSize = c.utf8Size + (String.ofList l).utf8ByteSize := by
  rw [← List.singleton_append, String.ofList_append, String.utf8ByteSize_append]
  simp

/-- The size of a text of one character over and over. -/
theorem utf8ByteSize_replicate (n : Nat) (c : Char) :
    (String.ofList (List.replicate n c)).utf8ByteSize = n * c.utf8Size := by
  induction n with
  | zero => rw [Nat.zero_mul]; rfl
  | succ n ih =>
    rw [List.replicate_succ, utf8ByteSize_ofList_cons, ih, Nat.succ_mul, Nat.add_comm]

/-- No character takes more than four bytes. -/
theorem utf8ByteSize_le (s : String) : s.utf8ByteSize ≤ 4 * s.length := by
  have hlist : ∀ l : List Char, (String.ofList l).utf8ByteSize ≤ 4 * l.length := by
    intro l
    induction l with
    | nil => exact Nat.le_refl 0
    | cons c l ih =>
      have hc := c.utf8Size_le_four
      rw [utf8ByteSize_ofList_cons, List.length_cons]
      omega
  rw [← String.length_toList, ← String.ofList_toList (s := s), String.toList_ofList]
  exact hlist s.toList

end HostedFiles.Text
