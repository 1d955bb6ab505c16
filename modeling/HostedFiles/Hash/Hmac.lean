import HostedFiles.Hash.Sha256

/-!
# Hash/Hmac — a hash that only the holder of a key can compute

The key fills one block, and is hashed first when it is longer.  The message is hashed behind one
disguise of the key, and that hash behind another.
-/

namespace HostedFiles.Hmac

/-- The key as one block of sixty four bytes. -/
def keyBlock (key : List UInt8) : List UInt8 :=
  let short := if key.length > 64 then Sha256.hash key else key
  short ++ List.replicate (64 - short.length) 0

/-- **The key fills one block.** -/
@[simp] theorem length_keyBlock (key : List UInt8) : (keyBlock key).length = 64 := by
  simp only [keyBlock, List.length_append, List.length_replicate]
  split
  · simp
  · omega

/-- The code of a message under a key. -/
def code (key message : List UInt8) : List UInt8 :=
  let block := keyBlock key
  let inner := Sha256.hash (block.map (· ^^^ 0x36) ++ message)
  Sha256.hash (block.map (· ^^^ 0x5C) ++ inner)

/-- A code has thirty two bytes. -/
@[simp] theorem length_code (key message : List UInt8) : (code key message).length = 32 := by
  simp [code]

-- The first of the published test vectors: twenty bytes of key, and the message "Hi There".
example : code (List.replicate 20 0x0b) [0x48, 0x69, 0x20, 0x54, 0x68, 0x65, 0x72, 0x65] =
    [0xb0, 0x34, 0x4c, 0x61, 0xd8, 0xdb, 0x38, 0x53, 0x5c, 0xa8, 0xaf, 0xce, 0xaf, 0x0b, 0xf1, 0x2b,
      0x88, 0x1d, 0xc2, 0x00, 0xc9, 0x83, 0x3d, 0xa7, 0x26, 0xe9, 0x37, 0x6c, 0x2e, 0x32, 0xcf,
      0xf7] := by decide +kernel

end HostedFiles.Hmac
