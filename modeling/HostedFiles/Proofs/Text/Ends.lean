import HostedFiles.Text.Split
import Mathlib.Data.List.DropRight

/-!
# Proofs/Text/Ends — where a text is cut off

`upTo` ends a text in front of its first stop (`upTo_append`), and `trimEnd` takes off the end what
may go (`trimEnd_append`, `trimEnd_append_of_all`) until the last character is one that stays
(`getLast?_trimEnd`).  Both are the only cuts of their kind (`upTo_eq_iff`, `trimEnd_eq_iff`).
-/

namespace HostedFiles.Text

variable {p stop : Char → Bool} {s t : List Char}

/-! ## In front of the first stop -/

/-- A text without stops is all in front of the first one. -/
theorem upTo_append (hs : ∀ c ∈ s, stop c = false) (ht : ∀ c ∈ t.head?, stop c = true) :
    upTo stop (s ++ t) = s := by
  have hnil : t.takeWhile (fun c => !stop c) = [] := by
    cases t with
    | nil => rfl
    | cons c t => rw [List.takeWhile_cons, ht c rfl]; rfl
  rw [upTo, List.takeWhile_append_of_pos fun c hc => by rw [hs c hc]; rfl, hnil, List.append_nil]

theorem upTo_eq_self (hs : ∀ c ∈ s, stop c = false) : upTo stop s = s := by
  have h := upTo_append (t := []) hs (by simp)
  rwa [List.append_nil] at h

/-- In front of the first stop there is none. -/
theorem stop_of_mem_upTo {c : Char} (h : c ∈ upTo stop s) : stop c = false := by
  simpa using List.mem_takeWhile_imp h

/-- **`upTo` cuts a text in two in front of its first stop.** -/
theorem upTo_eq_iff {front : List Char} : upTo stop s = front ↔
    ∃ rest, s = front ++ rest ∧ (∀ c ∈ front, stop c = false) ∧
      ∀ c ∈ rest.head?, stop c = true := by
  constructor
  · rintro rfl
    refine ⟨s.dropWhile fun c => !stop c, List.takeWhile_append_dropWhile.symm,
      fun c => stop_of_mem_upTo, fun c hc => ?_⟩
    have hhead := List.head?_dropWhile_not (fun c => !stop c) s
    rw [Option.mem_def.1 hc] at hhead
    simpa using hhead
  · rintro ⟨rest, rfl, hfront, hrest⟩
    exact upTo_append hfront hrest

/-! ## What may be taken off the end -/

theorem trimEnd_eq_rdropWhile (p : Char → Bool) (s : List Char) : trimEnd p s = s.rdropWhile p :=
  rfl

/-- A text that ends in a character that stays is kept. -/
theorem trimEnd_eq_self (h : ∀ c ∈ s.getLast?, p c = false) : trimEnd p s = s := by
  rw [trimEnd_eq_rdropWhile, List.rdropWhile_eq_self_iff]
  intro hne
  rw [h _ (List.getLast?_eq_some_getLast hne)]
  exact Bool.false_ne_true

theorem trimEnd_concat {c : Char} (h : p c = false) : trimEnd p (s ++ [c]) = s ++ [c] :=
  List.rdropWhile_concat_neg p s c (Bool.eq_false_iff.1 h)

/-- What may go is taken off. -/
theorem trimEnd_append_of_all (h : ∀ c ∈ t, p c = true) : trimEnd p (s ++ t) = trimEnd p s := by
  have hreverse : ∀ c ∈ t.reverse, p c = true := fun c hc => h c (List.mem_reverse.1 hc)
  rw [trimEnd, List.reverse_append, List.dropWhile_append_of_pos hreverse]
  rfl

/-- **Nothing is taken off in front of a character that stays.** -/
theorem trimEnd_append (h : ∀ c ∈ s.getLast?, p c = false) :
    trimEnd p (s ++ t) = s ++ trimEnd p t := by
  induction t using List.reverseRecOn with
  | nil => rw [List.append_nil, trimEnd_eq_self h]; exact (List.append_nil s).symm
  | append_singleton t c ih =>
    rw [← List.append_assoc]
    simp only [trimEnd_eq_rdropWhile] at ih ⊢
    by_cases hc : p c = true
    · rw [List.rdropWhile_concat_pos p _ c hc, List.rdropWhile_concat_pos p _ c hc, ih]
    · rw [List.rdropWhile_concat_neg p _ c hc, List.rdropWhile_concat_neg p _ c hc,
        List.append_assoc]

/-- What is left is from the text. -/
theorem mem_of_mem_trimEnd {c : Char} (h : c ∈ trimEnd p s) : c ∈ s := by
  obtain ⟨tail, htail, -⟩ := exists_append_trimEnd p s
  rw [htail]
  exact List.mem_append_left _ h

/-- **What is left ends in a character that stays.** -/
theorem getLast?_trimEnd : ∀ c ∈ (trimEnd p s).getLast?, p c = false := by
  intro c hc
  have hne : s.rdropWhile p ≠ [] := by
    intro hnil
    rw [trimEnd_eq_rdropWhile, hnil] at hc
    cases hc
  have hlast := List.rdropWhile_last_not p s hne
  rw [trimEnd_eq_rdropWhile, List.getLast?_eq_some_getLast hne] at hc
  rw [Option.some.inj hc] at hlast
  exact Bool.eq_false_iff.2 hlast

/-- **`trimEnd` takes off the end of a text what may go, and stops at what stays.** -/
theorem trimEnd_eq_iff {front : List Char} : trimEnd p s = front ↔
    ∃ tail, s = front ++ tail ∧ (∀ c ∈ tail, p c = true) ∧
      ∀ c ∈ front.getLast?, p c = false := by
  constructor
  · rintro rfl
    obtain ⟨tail, htail, hgo⟩ := exists_append_trimEnd p s
    exact ⟨tail, htail, hgo, getLast?_trimEnd⟩
  · rintro ⟨tail, rfl, htail, hfront⟩
    rw [trimEnd_append_of_all htail, trimEnd_eq_self hfront]

end HostedFiles.Text
