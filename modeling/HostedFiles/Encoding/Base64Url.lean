/-!
# Encoding/Base64Url — bytes as letters, digits, hyphens and low lines

Three bytes make four symbols of six bits; one or two bytes left over make two or three, and nothing
is added to fill the last group.  `decode?` is strict: unknown symbols, a lone symbol and set bits
beyond the last byte are refused, so every row of bytes has one written form.
-/

namespace HostedFiles.Base64Url

/-! ## Symbols -/

/-- The symbol of six bits. -/
def symbol (n : Nat) : Char :=
  if n < 26 then Char.ofNat (65 + n)
  else if n < 52 then Char.ofNat (71 + n)
  else if n < 62 then Char.ofNat (n - 4)
  else if n = 62 then '-'
  else '_'

/-- The six bits of a symbol. -/
def value? (c : Char) : Option Nat :=
  if 'A' ≤ c ∧ c ≤ 'Z' then some (c.toNat - 65)
  else if 'a' ≤ c ∧ c ≤ 'z' then some (c.toNat - 71)
  else if '0' ≤ c ∧ c ≤ '9' then some (c.toNat + 4)
  else if c = '-' then some 62
  else if c = '_' then some 63
  else none

/-- **A symbol has the value it was written for.** -/
theorem value?_symbol : ∀ n < 64, value? (symbol n) = some n := by decide

/-- **A symbol with a value is the one written for it.** -/
theorem symbol_of_value? {c : Char} {n : Nat} (h : value? c = some n) : n < 64 ∧ symbol n = c := by
  have hle : ∀ a b : Char, a ≤ b ↔ a.toNat ≤ b.toNat := fun a b => UInt32.le_iff_toNat_le
  have hsigns : 'A'.toNat = 65 ∧ 'Z'.toNat = 90 ∧ 'a'.toNat = 97 ∧ 'z'.toNat = 122 ∧
      '0'.toNat = 48 ∧ '9'.toNat = 57 := by decide
  simp only [value?, hle, hsigns] at h
  split at h
  next hrange =>
    obtain rfl := Option.some.inj h
    refine ⟨by omega, ?_⟩
    rw [symbol, if_pos (by omega), show 65 + (c.toNat - 65) = c.toNat by omega, Char.ofNat_toNat]
  split at h
  next hrange =>
    obtain rfl := Option.some.inj h
    refine ⟨by omega, ?_⟩
    rw [symbol, if_neg (by omega), if_pos (by omega),
      show 71 + (c.toNat - 71) = c.toNat by omega, Char.ofNat_toNat]
  split at h
  next hrange =>
    obtain rfl := Option.some.inj h
    refine ⟨by omega, ?_⟩
    rw [symbol, if_neg (by omega), if_neg (by omega), if_pos (by omega), Nat.add_sub_cancel,
      Char.ofNat_toNat]
  split at h
  next hsign =>
    obtain rfl := Option.some.inj h
    exact ⟨by decide, hsign ▸ rfl⟩
  split at h
  next hsign =>
    obtain rfl := Option.some.inj h
    exact ⟨by decide, hsign ▸ rfl⟩
  · cases h

/-! ## Groups -/

/-- The symbols of a row of bytes. -/
def encode : List UInt8 → List Char
  | a :: b :: c :: rest =>
    symbol (a.toNat / 4) :: symbol (a.toNat % 4 * 16 + b.toNat / 16) ::
      symbol (b.toNat % 16 * 4 + c.toNat / 64) :: symbol (c.toNat % 64) :: encode rest
  | [a, b] =>
    [symbol (a.toNat / 4), symbol (a.toNat % 4 * 16 + b.toNat / 16), symbol (b.toNat % 16 * 4)]
  | [a] => [symbol (a.toNat / 4), symbol (a.toNat % 4 * 16)]
  | [] => []

/-- The bytes that a row of symbols stands for. -/
def decode? : List Char → Option (List UInt8)
  | w :: x :: y :: z :: rest => do
    let w ← value? w
    let x ← value? x
    let y ← value? y
    let z ← value? z
    let more ← decode? rest
    return UInt8.ofNat (w * 4 + x / 16) :: UInt8.ofNat (x % 16 * 16 + y / 4) ::
      UInt8.ofNat (y % 4 * 64 + z) :: more
  | [w, x, y] => do
    let w ← value? w
    let x ← value? x
    let y ← value? y
    if y % 4 = 0 then
      return [UInt8.ofNat (w * 4 + x / 16), UInt8.ofNat (x % 16 * 16 + y / 4)]
    else none
  | [w, x] => do
    let w ← value? w
    let x ← value? x
    if x % 16 = 0 then return [UInt8.ofNat (w * 4 + x / 16)] else none
  | [_] => none
  | [] => some []

/-- **Reading undoes writing.** -/
@[simp] theorem decode?_encode (l : List UInt8) : decode? (encode l) = some l := by
  fun_induction encode l with
  | case1 a b c rest ih =>
    have ha := a.toNat_lt
    have hb := b.toNat_lt
    have hc := c.toNat_lt
    simp only [decode?, value?_symbol _ (show a.toNat / 4 < 64 by omega),
      value?_symbol _ (show a.toNat % 4 * 16 + b.toNat / 16 < 64 by omega),
      value?_symbol _ (show b.toNat % 16 * 4 + c.toNat / 64 < 64 by omega),
      value?_symbol _ (show c.toNat % 64 < 64 by omega), ih]
    simp only [Option.bind_eq_bind, Option.bind_some, Option.pure_def]
    simp only [show a.toNat / 4 * 4 + (a.toNat % 4 * 16 + b.toNat / 16) / 16 = a.toNat by omega,
      show (a.toNat % 4 * 16 + b.toNat / 16) % 16 * 16 + (b.toNat % 16 * 4 + c.toNat / 64) / 4 =
        b.toNat by omega,
      show (b.toNat % 16 * 4 + c.toNat / 64) % 4 * 64 + c.toNat % 64 = c.toNat by omega,
      UInt8.ofNat_toNat]
  | case2 a b =>
    have ha := a.toNat_lt
    have hb := b.toNat_lt
    simp only [decode?, value?_symbol _ (show a.toNat / 4 < 64 by omega),
      value?_symbol _ (show a.toNat % 4 * 16 + b.toNat / 16 < 64 by omega),
      value?_symbol _ (show b.toNat % 16 * 4 < 64 by omega)]
    simp only [Option.bind_eq_bind, Option.bind_some, Option.pure_def]
    simp only [show a.toNat / 4 * 4 + (a.toNat % 4 * 16 + b.toNat / 16) / 16 = a.toNat by omega,
      show (a.toNat % 4 * 16 + b.toNat / 16) % 16 * 16 + b.toNat % 16 * 4 / 4 = b.toNat by omega,
      UInt8.ofNat_toNat]
    simp [show b.toNat % 16 * 4 % 4 = 0 by omega]
  | case3 a =>
    have ha := a.toNat_lt
    simp only [decode?, value?_symbol _ (show a.toNat / 4 < 64 by omega),
      value?_symbol _ (show a.toNat % 4 * 16 < 64 by omega)]
    simp only [Option.bind_eq_bind, Option.bind_some, Option.pure_def]
    simp only [show a.toNat / 4 * 4 + a.toNat % 4 * 16 / 16 = a.toNat by omega, UInt8.ofNat_toNat]
    simp [show a.toNat % 4 * 16 % 16 = 0 by omega]
  | case4 => rfl

/-- **Only what was written can be read**: every row of bytes has one written form. -/
theorem eq_encode_of_decode? {t : List Char} {l : List UInt8} (h : decode? t = some l) :
    t = encode l := by
  fun_induction decode? t generalizing l with
  | case1 w x y z rest ih =>
    simp only [Option.bind_eq_bind, Option.bind_eq_some_iff, Option.pure_def,
      Option.some.injEq] at h
    obtain ⟨a, ha, b, hb, c, hc, d, hd, more, hmore, rfl⟩ := h
    obtain ⟨ha, rfl⟩ := symbol_of_value? ha
    obtain ⟨hb, rfl⟩ := symbol_of_value? hb
    obtain ⟨hc, rfl⟩ := symbol_of_value? hc
    obtain ⟨hd, rfl⟩ := symbol_of_value? hd
    rw [encode, ← ih hmore, UInt8.toNat_ofNat_of_lt' (show _ < 256 by omega),
      UInt8.toNat_ofNat_of_lt' (show _ < 256 by omega),
      UInt8.toNat_ofNat_of_lt' (show _ < 256 by omega), show (a * 4 + b / 16) / 4 = a by omega,
      show (a * 4 + b / 16) % 4 * 16 + (b % 16 * 16 + c / 4) / 16 = b by omega,
      show (b % 16 * 16 + c / 4) % 16 * 4 + (c % 4 * 64 + d) / 64 = c by omega,
      show (c % 4 * 64 + d) % 64 = d by omega]
  | case2 w x y =>
    simp only [Option.bind_eq_bind, Option.bind_eq_some_iff, Option.pure_def] at h
    obtain ⟨a, ha, b, hb, c, hc, h⟩ := h
    obtain ⟨ha, rfl⟩ := symbol_of_value? ha
    obtain ⟨hb, rfl⟩ := symbol_of_value? hb
    obtain ⟨hc, rfl⟩ := symbol_of_value? hc
    split at h
    · obtain rfl := Option.some.inj h
      rw [encode, UInt8.toNat_ofNat_of_lt' (show _ < 256 by omega),
        UInt8.toNat_ofNat_of_lt' (show _ < 256 by omega), show (a * 4 + b / 16) / 4 = a by omega,
        show (a * 4 + b / 16) % 4 * 16 + (b % 16 * 16 + c / 4) / 16 = b by omega,
        show (b % 16 * 16 + c / 4) % 16 * 4 = c by omega]
    · cases h
  | case3 w x =>
    simp only [Option.bind_eq_bind, Option.bind_eq_some_iff, Option.pure_def] at h
    obtain ⟨a, ha, b, hb, h⟩ := h
    obtain ⟨ha, rfl⟩ := symbol_of_value? ha
    obtain ⟨hb, rfl⟩ := symbol_of_value? hb
    split at h
    · obtain rfl := Option.some.inj h
      rw [encode, UInt8.toNat_ofNat_of_lt' (show _ < 256 by omega),
        show (a * 4 + b / 16) / 4 = a by omega, show (a * 4 + b / 16) % 4 * 16 = b by omega]
    · cases h
  | case4 => cases h
  | case5 =>
    obtain rfl := Option.some.inj h
    rfl

/-- **A row of symbols stands for bytes exactly when it is how they are written.** -/
theorem decode?_eq_some_iff {t : List Char} {l : List UInt8} :
    decode? t = some l ↔ t = encode l :=
  ⟨eq_encode_of_decode?, fun h => h ▸ decode?_encode l⟩

/-- No symbol is a full stop, so a full stop separates written rows. -/
theorem symbol_ne_dot : ∀ n < 64, symbol n ≠ '.' := by decide

end HostedFiles.Base64Url
