/-!
# Text/Split — cutting a text at a character

`splitFirst?` and `splitLast?` cut at one occurrence of a separator, `splitAll` at every one,
`after?` drops a given beginning, and the trimming functions drop what lies at an end.  The laws say
that a cut loses nothing: putting the separator back gives the text again.
-/

namespace HostedFiles.Text

/-! ## One cut -/

/-- The text before and after the first `sep`, when it occurs. -/
def splitFirst? (sep : Char) : List Char → Option (List Char × List Char)
  | [] => none
  | c :: rest =>
    if c = sep then some ([], rest)
    else (splitFirst? sep rest).map fun parts => (c :: parts.1, parts.2)

/-- The text before and after the last `sep`, when it occurs. -/
def splitLast? (sep : Char) : List Char → Option (List Char × List Char)
  | [] => none
  | c :: rest =>
    match splitLast? sep rest with
    | some parts => some (c :: parts.1, parts.2)
    | none => if c = sep then some ([], rest) else none

/-- **A cut at the first separator loses nothing**, and the first part is free of it. -/
theorem eq_of_splitFirst? {sep : Char} {s before rest : List Char}
    (h : splitFirst? sep s = some (before, rest)) : s = before ++ sep :: rest ∧ sep ∉ before := by
  induction s generalizing before with
  | nil => simp [splitFirst?] at h
  | cons c r ih =>
    by_cases hc : c = sep
    · simp only [splitFirst?, hc, if_true, Option.some.injEq, Prod.mk.injEq] at h
      obtain ⟨rfl, rfl⟩ := h
      simp [hc]
    · simp only [splitFirst?, hc, if_false, Option.map_eq_some_iff] at h
      obtain ⟨⟨a, b⟩, hab, h⟩ := h
      simp only [Prod.mk.injEq] at h
      obtain ⟨rfl, rfl⟩ := h
      obtain ⟨rfl, hn⟩ := ih hab
      exact ⟨rfl, by simp [hn, Ne.symm hc]⟩

/-- A text is cut at its first separator. -/
theorem splitFirst?_append {sep : Char} {before rest : List Char} (h : sep ∉ before) :
    splitFirst? sep (before ++ sep :: rest) = some (before, rest) := by
  induction before with
  | nil => simp [splitFirst?]
  | cons c r ih =>
    simp only [List.mem_cons, not_or] at h
    simp [splitFirst?, Ne.symm h.1, ih h.2]

/-- There is no cut exactly when the separator does not occur. -/
theorem splitFirst?_eq_none_iff {sep : Char} {s : List Char} :
    splitFirst? sep s = none ↔ sep ∉ s := by
  induction s with
  | nil => simp [splitFirst?]
  | cons c r ih =>
    by_cases hc : c = sep
    · simp [splitFirst?, hc]
    · simp [splitFirst?, hc, ih, Ne.symm hc]

/-- There is no last cut exactly when the separator does not occur. -/
theorem splitLast?_eq_none_iff {sep : Char} {s : List Char} :
    splitLast? sep s = none ↔ sep ∉ s := by
  induction s with
  | nil => simp [splitLast?]
  | cons c r ih =>
    cases hr : splitLast? sep r with
    | none =>
      by_cases hc : c = sep
      · simp [splitLast?, hr, hc]
      · simp [splitLast?, hr, hc, Ne.symm hc, ih.1 hr]
    | some p =>
      have : sep ∈ r := Decidable.not_not.1 fun hn => by simp [ih.2 hn] at hr
      simp [splitLast?, hr, this]

/-- **A cut at the last separator loses nothing**, and the last part is free of it. -/
theorem eq_of_splitLast? {sep : Char} {s before rest : List Char}
    (h : splitLast? sep s = some (before, rest)) : s = before ++ sep :: rest ∧ sep ∉ rest := by
  induction s generalizing before with
  | nil => simp [splitLast?] at h
  | cons c r ih =>
    cases hr : splitLast? sep r with
    | none =>
      by_cases hc : c = sep
      · simp only [splitLast?, hr, hc, if_true, Option.some.injEq, Prod.mk.injEq] at h
        obtain ⟨rfl, rfl⟩ := h
        exact ⟨by simp [hc], splitLast?_eq_none_iff.1 hr⟩
      · simp [splitLast?, hr, hc] at h
    | some p =>
      simp only [splitLast?, hr, Option.some.injEq, Prod.mk.injEq] at h
      obtain ⟨rfl, rfl⟩ := h
      obtain ⟨rfl, hn⟩ := ih hr
      exact ⟨rfl, hn⟩

/-- A text is cut at its last separator. -/
theorem splitLast?_append {sep : Char} {before rest : List Char} (h : sep ∉ rest) :
    splitLast? sep (before ++ sep :: rest) = some (before, rest) := by
  induction before with
  | nil => rw [List.nil_append, splitLast?, splitLast?_eq_none_iff.2 h, if_pos rfl]
  | cons c before ih => rw [List.cons_append, splitLast?, ih]

/-- The text up to the first character that `stop` names; all of it when none occurs. -/
def upTo (stop : Char → Bool) (s : List Char) : List Char :=
  s.takeWhile fun c => !stop c

/-! ## Every cut -/

/-- The pieces between all occurrences of `sep`; a text without `sep` is one piece. -/
def splitAll (sep : Char) : List Char → List (List Char)
  | [] => [[]]
  | c :: rest =>
    if c = sep then [] :: splitAll sep rest
    else match splitAll sep rest with
      | [] => [[c]]
      | piece :: pieces => (c :: piece) :: pieces

/-- There is always a first piece. -/
theorem splitAll_ne_nil (sep : Char) (s : List Char) : splitAll sep s ≠ [] := by
  cases s with
  | nil => simp [splitAll]
  | cons c r =>
    by_cases hc : c = sep
    · simp [splitAll, hc]
    · cases h : splitAll sep r <;> simp [splitAll, hc, h]

/-- A text without the separator is its only piece. -/
theorem splitAll_of_not_mem {sep : Char} {s : List Char} (h : sep ∉ s) : splitAll sep s = [s] := by
  induction s with
  | nil => rfl
  | cons c r ih =>
    simp only [List.mem_cons, not_or] at h
    simp [splitAll, Ne.symm h.1, ih h.2]

/-- **The first piece ends at the first separator.** -/
theorem splitAll_append {sep : Char} {piece rest : List Char} (h : sep ∉ piece) :
    splitAll sep (piece ++ sep :: rest) = piece :: splitAll sep rest := by
  induction piece with
  | nil => simp [splitAll]
  | cons c r ih =>
    simp only [List.mem_cons, not_or] at h
    simp [splitAll, Ne.symm h.1, ih h.2]

/-- **Pieces written with a separator between them are read back.** -/
theorem splitAll_intercalate {sep : Char} {pieces : List (List Char)} (hne : pieces ≠ [])
    (h : ∀ piece ∈ pieces, sep ∉ piece) : splitAll sep ([sep].intercalate pieces) = pieces := by
  induction pieces with
  | nil => exact absurd rfl hne
  | cons first rest ih =>
    cases rest with
    | nil =>
      rw [List.intercalate_singleton]
      exact splitAll_of_not_mem (h first List.mem_cons_self)
    | cons second rest =>
      rw [List.intercalate_cons_cons, List.append_assoc, List.singleton_append,
        splitAll_append (h first List.mem_cons_self),
        ih (List.cons_ne_nil _ _) fun piece hpiece => h piece (List.mem_cons_of_mem _ hpiece)]

/-! ## Beginnings and ends -/

/-- What follows `lead` in a text that begins with it. -/
def after? : List Char → List Char → Option (List Char)
  | [], s => some s
  | _ :: _, [] => none
  | l :: lead, c :: s => if l = c then after? lead s else none

/-- **`after?` undoes putting the beginning in front.** -/
theorem after?_eq_some_iff {lead s rest : List Char} :
    after? lead s = some rest ↔ s = lead ++ rest := by
  induction lead generalizing s with
  | nil => simp [after?]
  | cons l lead ih =>
    cases s with
    | nil => simp [after?]
    | cons c s =>
      by_cases h : l = c
      · simp [after?, h, ih]
      · simp [after?, h, Ne.symm h]

/-- Whether `part` occurs in a text. -/
def occurs (part : List Char) : List Char → Bool
  | [] => part.isEmpty
  | c :: s => (after? part (c :: s)).isSome || occurs part s

/-- **`occurs` finds a part wherever it stands.** -/
theorem occurs_iff {part s : List Char} :
    occurs part s = true ↔ ∃ before rest, s = before ++ part ++ rest := by
  induction s with
  | nil =>
    simp only [occurs, List.isEmpty_iff]
    constructor
    · rintro rfl; exact ⟨[], [], rfl⟩
    · rintro ⟨before, rest, h⟩
      simp only [List.nil_eq, List.append_eq_nil_iff] at h
      exact h.1.2
  | cons c s ih =>
    simp only [occurs, Bool.or_eq_true, ih, Option.isSome_iff_exists, after?_eq_some_iff]
    constructor
    · rintro (⟨rest, h⟩ | ⟨before, rest, rfl⟩)
      · exact ⟨[], rest, by simpa using h⟩
      · exact ⟨c :: before, rest, rfl⟩
    · rintro ⟨_ | ⟨b, before⟩, rest, h⟩
      · exact Or.inl ⟨rest, by simpa using h⟩
      · simp only [List.cons_append, List.cons.injEq] at h
        exact Or.inr ⟨before, rest, h.2⟩

/-- The text without the characters of `p` in front. -/
def trimStart (p : Char → Bool) (s : List Char) : List Char :=
  s.dropWhile p

/-- The text without the characters of `p` at its end. -/
def trimEnd (p : Char → Bool) (s : List Char) : List Char :=
  (s.reverse.dropWhile p).reverse

/-- The text without the characters of `p` at either end. -/
def trim (p : Char → Bool) (s : List Char) : List Char :=
  trimEnd p (trimStart p s)

/-- **What is cut off an end is made of the characters asked for.** -/
theorem exists_append_trimEnd (p : Char → Bool) (s : List Char) :
    ∃ tail, s = trimEnd p s ++ tail ∧ ∀ c ∈ tail, p c = true := by
  refine ⟨(s.reverse.takeWhile p).reverse, ?_, fun c hc => ?_⟩
  · rw [trimEnd, ← List.reverse_append, List.takeWhile_append_dropWhile, List.reverse_reverse]
  · have hall := List.all_takeWhile (p := p) (l := s.reverse)
    rw [List.all_eq_true] at hall
    exact hall c (by simpa using hc)

end HostedFiles.Text
