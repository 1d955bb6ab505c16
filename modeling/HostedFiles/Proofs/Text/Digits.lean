import HostedFiles.Text.Number

/-!
# Proofs/Text/Digits — numbers written in decimal

A written number is a row of digits that does not begin with a zero unless it is zero.  Reading the
digits gives the number again, under every limit that it respects (`readDigits?_toDigits`).
-/

namespace HostedFiles.Text

variable {limit n m : Nat} {ds : List Char}

/-- The number that a row of digits leads to from another one. -/
def digitsFrom (n : Nat) (ds : List Char) : Nat :=
  ds.foldl (fun n c => n * 10 + digitValue c) n

/-- Digits only make a number larger. -/
theorem le_digitsFrom (n : Nat) (ds : List Char) : n ≤ digitsFrom n ds := by
  induction ds generalizing n with
  | nil => exact Nat.le_refl n
  | cons d ds ih =>
    have hstep : n ≤ n * 10 + digitValue d := by omega
    exact Nat.le_trans hstep (ih _)

/-- **Digits that stay within the limit are all absorbed.** -/
theorem absorb_of_le (h : digitsFrom n ds ≤ limit) : absorb limit n ds = (digitsFrom n ds, []) := by
  induction ds generalizing n with
  | nil => rfl
  | cons d ds ih =>
    have hstep : n * 10 + digitValue d ≤ limit := Nat.le_trans (le_digitsFrom _ ds) h
    rw [absorb, if_pos hstep, ih h]
    rfl

/-- **What is read is the number of a row of digits** that respects the limit. -/
theorem readDigits?_eq_some_iff : readDigits? limit ds = some n ↔
    ds ≠ [] ∧ (∀ c ∈ ds, isAsciiDigit c = true) ∧ digitsValue ds = n ∧ n ≤ limit := by
  constructor
  · intro h
    obtain ⟨rfl, hle⟩ := eq_of_readDigits? h
    rw [readDigits?] at h
    split at h
    next hds => exact ⟨hds.1, List.all_eq_true.1 hds.2, rfl, hle⟩
    next => cases h
  · rintro ⟨hne, hall, rfl, hle⟩
    have habsorb : absorb limit 0 ds = (digitsValue ds, []) := absorb_of_le hle
    rw [readDigits?, if_pos ⟨hne, List.all_eq_true.2 hall⟩, habsorb]

/-- The digits of a number lead to it. -/
theorem digitsFrom_toDigits (n : Nat) : digitsFrom 0 (Nat.toDigits 10 n) = n := by
  have hvalue : Nat.ofDigitChars 10 (Nat.toDigits 10 n) 0 = n :=
    Nat.ofDigitChars_toDigits (by decide) (by decide)
  rw [Nat.ofDigitChars_eq_foldl] at hvalue
  rw [digitsFrom]
  simpa only [digitValue, Nat.mul_comm] using hvalue

/-- A written number has digits of the ASCII row alone. -/
theorem isAsciiDigit_of_mem_toDigits {c : Char} (h : c ∈ Nat.toDigits 10 n) :
    isAsciiDigit c = true :=
  Nat.isDigit_of_mem_toDigits (by decide) (by decide) h

/-- **A number is read back from its digits**, under every limit that it respects. -/
theorem readDigits?_toDigits (h : n ≤ limit) : readDigits? limit (Nat.toDigits 10 n) = some n :=
  readDigits?_eq_some_iff.2 ⟨Nat.toDigits_ne_nil, fun _ => isAsciiDigit_of_mem_toDigits,
    digitsFrom_toDigits n, h⟩

/-- **Only zero begins with the digit zero.** -/
theorem head?_toDigits (h : (Nat.toDigits 10 n).head? = some '0') : n = 0 := by
  induction n using Nat.strongRecOn with
  | _ n ih =>
    rw [Nat.toDigits_eq_if (by decide)] at h
    split at h
    next hlt =>
      have hzero : ∀ m < 10, m.digitChar = '0' → m = 0 := by decide
      exact hzero n hlt (Option.some.inj h)
    next hle =>
      obtain ⟨d, ds, hds⟩ := List.exists_cons_of_ne_nil (@Nat.toDigits_ne_nil (n / 10) 10)
      have hfront : n / 10 = 0 := by
        refine ih (n / 10) (by omega) ?_
        rw [hds] at h ⊢
        exact h
      omega

end HostedFiles.Text
