import HostedFiles.Text.Alphanumeric
import HostedFiles.Text.Utf8

/-!
# Encoding/Percent — names inside addresses

Letters, digits, hyphen, low line, full stop and tilde stand for themselves; every other character
is written as its bytes, each as a percent sign and two digits of base sixteen.  Reading accepts
more than writing produces: a percent sign that no two digits follow stands for itself.
-/

namespace HostedFiles.Percent

open Text

/-! ## Digits -/

/-- A digit of base sixteen, capital letters. -/
def hexDigit (n : Nat) : Char :=
  if n < 10 then Char.ofNat (48 + n) else Char.ofNat (55 + n)

/-- The value of a digit of base sixteen, in either case. -/
def hexValue? (c : Char) : Option Nat :=
  if '0' ≤ c ∧ c ≤ '9' then some (c.toNat - 48)
  else if 'A' ≤ c ∧ c ≤ 'F' then some (c.toNat - 55)
  else if 'a' ≤ c ∧ c ≤ 'f' then some (c.toNat - 87)
  else none

/-- **A digit has the value it was written for.** -/
theorem hexValue?_hexDigit : ∀ n < 16, hexValue? (hexDigit n) = some n := by decide

/-! ## Writing -/

/-- A character that stands for itself. -/
def isUnreserved (c : Char) : Bool :=
  isAsciiAlphanumeric c || c == '-' || c == '_' || c == '.' || c == '~'

/-- A percent sign and the two digits of a byte. -/
def encodeByte (b : UInt8) : List Char :=
  ['%', hexDigit (b.toNat / 16), hexDigit (b.toNat % 16)]

/-- One character as it is written. -/
def encodeChar (c : Char) : List Char :=
  if isUnreserved c then [c] else (String.utf8EncodeChar c).flatMap encodeByte

/-- A text as it stands inside an address. -/
def encode (s : String) : String :=
  String.ofList (s.toList.flatMap encodeChar)

/-! ## Reading -/

/-- The bytes that a written text stands for. -/
def decodeBytes : List Char → List UInt8
  | '%' :: h :: l :: rest =>
    match hexValue? h, hexValue? l with
    | some x, some y => UInt8.ofNat (x * 16 + y) :: decodeBytes rest
    | _, _ => String.utf8EncodeChar '%' ++ decodeBytes (h :: l :: rest)
  | c :: rest => String.utf8EncodeChar c ++ decodeBytes rest
  | [] => []

/-- The text that a written text stands for, when its bytes are one. -/
def decode? (s : List Char) : Option String :=
  ofBytes? (decodeBytes s)

/-! ## Reading undoes writing -/

/-- One written byte is read back, whatever follows it. -/
theorem decodeBytes_encodeByte (b : UInt8) (rest : List Char) :
    decodeBytes (encodeByte b ++ rest) = b :: decodeBytes rest := by
  have hb : b.toNat < 256 := b.toNat_lt
  have hs : b.toNat / 16 * 16 + b.toNat % 16 = b.toNat := by omega
  simp only [encodeByte, List.cons_append, List.nil_append]
  rw [decodeBytes, hexValue?_hexDigit _ (by omega), hexValue?_hexDigit _ (by omega)]
  simp only [hs, UInt8.ofNat_toNat]

/-- A character other than the percent sign is read as its own bytes. -/
theorem decodeBytes_cons_of_ne {c : Char} (h : c ≠ '%') (rest : List Char) :
    decodeBytes (c :: rest) = String.utf8EncodeChar c ++ decodeBytes rest := by
  rcases rest with _ | ⟨_, _ | ⟨_, _⟩⟩ <;> simp [decodeBytes, h]

/-- Written bytes are read back, whatever follows them. -/
theorem decodeBytes_flatMap_encodeByte (l : List UInt8) (rest : List Char) :
    decodeBytes (l.flatMap encodeByte ++ rest) = l ++ decodeBytes rest := by
  induction l with
  | nil => rfl
  | cons b l ih => simp [List.append_assoc, decodeBytes_encodeByte, ih]

/-- A written character is read back as its bytes, whatever follows it. -/
theorem decodeBytes_encodeChar (c : Char) (rest : List Char) :
    decodeBytes (encodeChar c ++ rest) = String.utf8EncodeChar c ++ decodeBytes rest := by
  by_cases h : isUnreserved c = true
  · have hc : c ≠ '%' := by rintro rfl; exact absurd h (by decide)
    simp [encodeChar, h, decodeBytes_cons_of_ne hc]
  · rw [encodeChar, if_neg h, decodeBytes_flatMap_encodeByte]

/-- **Reading undoes writing.** -/
theorem decode?_encode (s : String) : decode? (encode s).toList = some s := by
  have hall : ∀ l : List Char, decodeBytes (l.flatMap encodeChar) =
      l.flatMap String.utf8EncodeChar := by
    intro l
    induction l with
    | nil => rfl
    | cons c l ih => simp [decodeBytes_encodeChar, ih]
  rw [decode?, encode, String.toList_ofList, hall]
  exact ofBytes?_bytes s

end HostedFiles.Percent
