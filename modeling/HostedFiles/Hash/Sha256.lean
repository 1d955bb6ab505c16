/-!
# Hash/Sha256 — the 256-bit secure hash

A message is padded to whole blocks of sixty four bytes and each block is mixed into eight words in
sixty four rounds.  A round reads its word from a window of sixteen: the window loses its first word
and gains one computed from four of the others.
-/

namespace HostedFiles.Sha256

/-! ## Words -/

/-- The eight words between blocks. -/
structure State where
  a : UInt32
  b : UInt32
  c : UInt32
  d : UInt32
  e : UInt32
  f : UInt32
  g : UInt32
  h : UInt32

/-- The fractional parts of the square roots of the first eight primes. -/
def start : State :=
  ⟨0x6a09e667, 0xbb67ae85, 0x3c6ef372, 0xa54ff53a, 0x510e527f, 0x9b05688c,
    0x1f83d9ab, 0x5be0cd19⟩

/-- The fractional parts of the cube roots of the first sixty four primes. -/
def roundKeys : List UInt32 :=
  [0x428a2f98, 0x71374491, 0xb5c0fbcf, 0xe9b5dba5, 0x3956c25b, 0x59f111f1,
    0x923f82a4, 0xab1c5ed5, 0xd807aa98, 0x12835b01, 0x243185be, 0x550c7dc3,
    0x72be5d74, 0x80deb1fe, 0x9bdc06a7, 0xc19bf174, 0xe49b69c1, 0xefbe4786,
    0x0fc19dc6, 0x240ca1cc, 0x2de92c6f, 0x4a7484aa, 0x5cb0a9dc, 0x76f988da,
    0x983e5152, 0xa831c66d, 0xb00327c8, 0xbf597fc7, 0xc6e00bf3, 0xd5a79147,
    0x06ca6351, 0x14292967, 0x27b70a85, 0x2e1b2138, 0x4d2c6dfc, 0x53380d13,
    0x650a7354, 0x766a0abb, 0x81c2c92e, 0x92722c85, 0xa2bfe8a1, 0xa81a664b,
    0xc24b8b70, 0xc76c51a3, 0xd192e819, 0xd6990624, 0xf40e3585, 0x106aa070,
    0x19a4c116, 0x1e376c08, 0x2748774c, 0x34b0bcb5, 0x391c0cb3, 0x4ed8aa4a,
    0x5b9cca4f, 0x682e6ff3, 0x748f82ee, 0x78a5636f, 0x84c87814, 0x8cc70208,
    0x90befffa, 0xa4506ceb, 0xbef9a3f7, 0xc67178f2]

/-- The word with its bits turned right by `n` places. -/
def turn (x : UInt32) (n : UInt32) : UInt32 :=
  (x >>> n) ||| (x <<< (32 - n))

/-- The word of four bytes, the first one highest. -/
def word (p q r s : UInt8) : UInt32 :=
  (p.toUInt32 <<< 24) ||| (q.toUInt32 <<< 16) ||| (r.toUInt32 <<< 8) ||| s.toUInt32

/-- The words of a row of bytes, four bytes a word. -/
def words : List UInt8 → List UInt32
  | p :: q :: r :: s :: rest => word p q r s :: words rest
  | _ => []

/-- The four bytes of a word, the highest first. -/
def wordBytes (x : UInt32) : List UInt8 :=
  [(x >>> 24).toUInt8, (x >>> 16).toUInt8, (x >>> 8).toUInt8, x.toUInt8]

/-! ## Rounds -/

/-- The word that joins a window of sixteen. -/
def nextWord (window : List UInt32) : UInt32 :=
  let x := window.getD 1 0
  let y := window.getD 14 0
  (turn y 17 ^^^ turn y 19 ^^^ (y >>> 10)) + window.getD 9 0 +
    (turn x 7 ^^^ turn x 18 ^^^ (x >>> 3)) + window.getD 0 0

/-- One round with its key and its word. -/
def State.round (s : State) (key w : UInt32) : State :=
  let t := s.h + (turn s.e 6 ^^^ turn s.e 11 ^^^ turn s.e 25) +
    ((s.e &&& s.f) ^^^ (~~~s.e &&& s.g)) + key + w
  let u := (turn s.a 2 ^^^ turn s.a 13 ^^^ turn s.a 22) +
    ((s.a &&& s.b) ^^^ (s.a &&& s.c) ^^^ (s.b &&& s.c))
  ⟨t + u, s.a, s.b, s.c, s.d + t, s.e, s.f, s.g⟩

/-- The rounds for the remaining keys, with the window they read. -/
def rounds : List UInt32 → List UInt32 → State → State
  | [], _, s => s
  | key :: keys, window, s =>
    rounds keys (window.tail ++ [nextWord window]) (s.round key (window.getD 0 0))

/-- The words after one more block of sixteen words. -/
def State.mix (s : State) (block : List UInt32) : State :=
  let t := rounds roundKeys block s
  ⟨s.a + t.a, s.b + t.b, s.c + t.c, s.d + t.d, s.e + t.e, s.f + t.f, s.g + t.g, s.h + t.h⟩

/-! ## Messages -/

/-- The eight bytes of a number, the highest first. -/
def lengthBytes (n : Nat) : List UInt8 :=
  [56, 48, 40, 32, 24, 16, 8, 0].map fun shift => UInt8.ofNat (n >>> shift)

/-- The message, a one bit, zeros, and its length in bits: whole blocks. -/
def pad (message : List UInt8) : List UInt8 :=
  let size := message.length
  message ++ 0x80 :: (List.replicate ((119 - size % 64) % 64) 0 ++ lengthBytes (size * 8))

/-- A padded message is a whole number of blocks. -/
theorem length_pad (message : List UInt8) : (pad message).length % 64 = 0 := by
  simp only [pad, lengthBytes, List.length_append, List.length_cons, List.length_replicate,
    List.length_map, List.length_nil]
  omega

/-- Mixes in `n` blocks. -/
def absorb : Nat → List UInt32 → State → State
  | 0, _, s => s
  | n + 1, ws, s => absorb n (ws.drop 16) (s.mix (ws.take 16))

/-- The thirty two bytes of the words. -/
def State.bytes (s : State) : List UInt8 :=
  [s.a, s.b, s.c, s.d, s.e, s.f, s.g, s.h].flatMap wordBytes

/-- The hash of a message. -/
def hash (message : List UInt8) : List UInt8 :=
  let padded := pad message
  (absorb (padded.length / 64) (words padded) start).bytes

/-- **A hash has thirty two bytes.** -/
@[simp] theorem length_hash (message : List UInt8) : (hash message).length = 32 := by
  simp [hash, State.bytes, wordBytes]

end HostedFiles.Sha256
