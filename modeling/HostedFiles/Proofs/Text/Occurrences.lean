import HostedFiles.Text.Search
import Mathlib.Logic.ExistsUnique
import Mathlib.Tactic.MkIffOfInductiveProp

/-!
# Proofs/Text/Occurrences — where a part of a text stands

A search passes over what no occurrence begins in (`firstAt?_append`), asks where the first one
begins and goes on behind it (`firstAt?_occurrence`), and finds nothing that does not stand in the
text (`exists_of_firstAt?`).  A part that avoids some characters lies in front of the first of them
(`exists_of_append_stop`).

`Successive` says which occurrences follow each other from the left without overlapping, with no
search in it: there is one such row in every text (`existsUnique_successive`), and a search gives
the first answer of that row (`firstAt?_of_successive`).
-/

namespace HostedFiles.Text

variable {α : Type} {part pre s : List Char} {ask : List Char → Option α}

/-! ## Parts of a text -/

/-- **One pass finds a part wherever it stands.** -/
theorem contains_iff : contains part s = true ↔ ∃ before rest, s = before ++ part ++ rest := by
  rw [contains_eq_occurs, occurs_iff]

/-- No occurrence of `part` begins in `pre` where `s` follows. -/
def NoneBegins (part pre s : List Char) : Prop :=
  ∀ before rest, pre ++ s = before ++ part ++ rest → pre.length ≤ before.length

theorem NoneBegins.tail {c : Char} (h : NoneBegins part (c :: pre) s) : NoneBegins part pre s := by
  intro before rest heq
  have hcons := h (c :: before) rest (by rw [List.cons_append, heq]; rfl)
  simpa using hcons

theorem noneBegins_nil : NoneBegins part [] s :=
  fun _ _ _ => Nat.zero_le _

/-- If the part does not begin a text, none begins at its first character. -/
theorem NoneBegins.cons {c : Char} (h : NoneBegins part pre s)
    (hc : ∀ rest, c :: (pre ++ s) ≠ part ++ rest) : NoneBegins part (c :: pre) s := by
  intro before rest heq
  cases before with
  | nil => exact absurd heq (hc rest)
  | cons d before => exact Nat.succ_le_succ (h before rest (List.cons.inj heq).2)

/-- **A part that begins in front of a stop ends in front of it**, if it holds no stop itself. -/
theorem exists_of_append_stop {stop : Char → Bool} {post before rest : List Char}
    (hpart : ∀ c ∈ part, stop c = false) (hpost : ∀ c ∈ post.head?, stop c = true)
    (h : s ++ post = before ++ part ++ rest) (hbefore : before.length ≤ s.length) :
    ∃ rest', s = before ++ part ++ rest' := by
  rcases List.append_eq_append_iff.1 h with ⟨behind, hpast, hbehind⟩ | ⟨rest', hs, -⟩
  · -- What of the part stands behind `s` would begin with a stop.
    have hmem : ∀ c ∈ behind, c ∈ part := by
      intro c hc
      rcases List.append_eq_append_iff.1 hpast with ⟨inside, -, hinside⟩ | ⟨more, hlong, hmore⟩
      · exact hinside ▸ List.mem_append_right _ hc
      · have hlength := congrArg List.length hlong
        rw [List.length_append] at hlength
        rw [List.length_eq_zero_iff.1 (show more.length = 0 by omega), List.nil_append] at hmore
        exact hmore ▸ hc
    cases behind with
    | nil => exact ⟨[], by rw [hpast, List.append_nil, List.append_nil]⟩
    | cons c behind =>
      have hstop : stop c = true := hpost c (by rw [hbehind]; rfl)
      rw [hpart c (hmem c List.mem_cons_self)] at hstop
      cases hstop
  · exact ⟨rest', hs⟩

/-- No occurrence begins in front of a stop if none does that ends there. -/
theorem NoneBegins.append_stop {stop : Char → Bool} {post : List Char} (h : NoneBegins part pre s)
    (hpart : ∀ c ∈ part, stop c = false) (hpost : ∀ c ∈ post.head?, stop c = true) :
    NoneBegins part pre (s ++ post) := by
  intro before rest heq
  rw [← List.append_assoc] at heq
  by_cases hlong : before.length ≤ (pre ++ s).length
  · obtain ⟨rest', hrest'⟩ := exists_of_append_stop hpart hpost heq hlong
    exact h before rest' hrest'
  · rw [List.length_append] at hlong
    omega

/-- No occurrence begins in a text that lacks one of its characters, in front of a stop. -/
theorem noneBegins_of_not_mem {stop : Char → Bool} {post : List Char} {c : Char}
    (hpart : ∀ c ∈ part, stop c = false) (hpost : ∀ c ∈ post.head?, stop c = true)
    (hc : c ∈ part) (hpre : c ∉ pre) : NoneBegins part pre post := by
  intro before rest heq
  refine Nat.le_of_not_lt fun hlt => ?_
  obtain ⟨rest', rfl⟩ := exists_of_append_stop hpart hpost heq (Nat.le_of_lt hlt)
  exact hpre (List.mem_append_left _ (List.mem_append_right _ hc))

/-- No occurrence begins in a text that lacks the character with which it would begin. -/
theorem noneBegins_of_head_not_mem {c : Char} (hpre : c ∉ pre) : NoneBegins (c :: part) pre s := by
  intro before rest heq
  refine Nat.le_of_not_lt fun hlt => hpre ?_
  rcases List.append_eq_append_iff.1 (heq.trans (List.append_assoc _ _ _)) with
    ⟨inside, hbefore, -⟩ | ⟨inside, hinside, hrest⟩
  · have hlength := congrArg List.length hbefore
    rw [List.length_append] at hlength
    omega
  · cases inside with
    | nil =>
      rw [hinside, List.append_nil] at hlt
      exact absurd hlt (Nat.lt_irrefl _)
    | cons d inside =>
      obtain rfl := (List.cons.inj hrest).1
      rw [hinside]
      simp

/-! ## What a search finds -/

/-- Characters to be passed over may as well be dropped. -/
theorem firstAt?_eq_drop (part : List Char) (ask : List Char → Option α) (n : Nat)
    (s : List Char) : firstAt? part ask n s = firstAt? part ask 0 (s.drop n) := by
  induction n generalizing s with
  | zero => rfl
  | succ n ih =>
    cases s with
    | nil => rfl
    | cons c s => rw [firstAt?, ih, List.drop_succ_cons]

/-- **A search passes over a text in which no occurrence begins.** -/
theorem firstAt?_append (h : NoneBegins part pre s) :
    firstAt? part ask 0 (pre ++ s) = firstAt? part ask 0 s := by
  induction pre with
  | nil => rfl
  | cons c pre ih =>
    have hnone : ¬ (after? part (c :: (pre ++ s))).isSome = true := by
      intro hsome
      obtain ⟨rest, hrest⟩ := Option.isSome_iff_exists.1 hsome
      have hle := h [] rest (after?_eq_some_iff.1 hrest)
      simp at hle
    rw [List.cons_append, firstAt?, if_neg hnone, ih h.tail]

/-- **At an occurrence a search asks**, and goes on behind it if there is no answer. -/
theorem firstAt?_occurrence (hpart : part ≠ []) (ask : List Char → Option α) (rest : List Char) :
    firstAt? part ask 0 (part ++ rest) = (ask (part ++ rest)).or (firstAt? part ask 0 rest) := by
  cases part with
  | nil => exact absurd rfl hpart
  | cons c part =>
    have hsome : (after? (c :: part) (c :: (part ++ rest))).isSome = true :=
      Option.isSome_iff_exists.2 ⟨rest, after?_eq_some_iff.2 rfl⟩
    rw [List.cons_append, firstAt?, if_pos hsome]
    cases ask (c :: (part ++ rest)) with
    | some answer => rfl
    | none =>
      simp only [Option.none_or]
      rw [firstAt?_eq_drop, List.length_cons, Nat.add_sub_cancel, List.drop_left]

/-- **What a search finds is the answer at an occurrence.** -/
theorem exists_of_firstAt? {n : Nat} {answer : α} (h : firstAt? part ask n s = some answer) :
    ∃ before rest, s = before ++ (part ++ rest) ∧ ask (part ++ rest) = some answer := by
  induction s generalizing n with
  | nil => simp [firstAt?] at h
  | cons c s ih =>
    have hlater : ∀ n, firstAt? part ask n s = some answer →
        ∃ before rest, c :: s = before ++ (part ++ rest) ∧ ask (part ++ rest) = some answer := by
      intro n hn
      obtain ⟨before, rest, rfl, hask⟩ := ih hn
      exact ⟨c :: before, rest, rfl, hask⟩
    cases n with
    | succ n => exact hlater n h
    | zero =>
      rw [firstAt?] at h
      split at h
      next hsome =>
        obtain ⟨rest, hrest⟩ := Option.isSome_iff_exists.1 hsome
        have hs := after?_eq_some_iff.1 hrest
        split at h
        next found hask =>
          obtain rfl := Option.some.inj h
          exact ⟨[], rest, hs, hs ▸ hask⟩
        next => exact hlater _ h
      next => exact hlater 0 h

/-! ## One occurrence after the other -/

/-- What stands from each occurrence of `part` on, where one is looked for from the left and the
next one behind it. -/
@[mk_iff]
inductive Successive (part : List Char) : List Char → List (List Char) → Prop
  /-- There is none. -/
  | done {s : List Char} (h : ∀ before rest, s ≠ before ++ part ++ rest) : Successive part s []
  /-- The leftmost one, and those behind it. -/
  | next {before rest : List Char} {starts : List (List Char)}
      (h : NoneBegins part before (part ++ rest)) (later : Successive part rest starts) :
      Successive part (before ++ (part ++ rest)) ((part ++ rest) :: starts)

/-- **A part that stands in a text has a leftmost occurrence.** -/
theorem exists_leftmost (h : ∃ before rest, s = before ++ part ++ rest) :
    ∃ before rest, s = before ++ (part ++ rest) ∧ NoneBegins part before (part ++ rest) := by
  induction s with
  | nil =>
    obtain ⟨before, rest, heq⟩ := h
    obtain rfl := (List.append_eq_nil_iff.1 (List.append_eq_nil_iff.1 heq.symm).1).2
    exact ⟨[], [], rfl, noneBegins_nil⟩
  | cons c s ih =>
    by_cases hfirst : ∃ rest, c :: s = part ++ rest
    · obtain ⟨rest, hrest⟩ := hfirst
      exact ⟨[], rest, hrest, noneBegins_nil⟩
    · obtain ⟨before, rest, heq⟩ := h
      cases before with
      | nil => exact absurd ⟨rest, heq⟩ hfirst
      | cons d before =>
        obtain ⟨before, rest, rfl, hnone⟩ := ih ⟨before, rest, (List.cons.inj heq).2⟩
        exact ⟨c :: before, rest, rfl, hnone.cons fun rest hrest => hfirst ⟨rest, hrest⟩⟩

/-- There is one leftmost occurrence. -/
theorem NoneBegins.eq_of_eq {before before' rest rest' : List Char}
    (h : NoneBegins part before (part ++ rest)) (h' : NoneBegins part before' (part ++ rest'))
    (heq : before ++ (part ++ rest) = before' ++ (part ++ rest')) :
    before = before' ∧ rest = rest' := by
  have hle := h before' rest' (heq.trans (List.append_assoc _ _ _).symm)
  have hge := h' before rest (heq.symm.trans (List.append_assoc _ _ _).symm)
  obtain ⟨hbefore, hrest⟩ := List.append_inj heq (Nat.le_antisymm hle hge)
  exact ⟨hbefore, List.append_cancel_left hrest⟩

theorem exists_successive (hpart : part ≠ []) (s : List Char) :
    ∃ starts, Successive part s starts := by
  induction hlength : s.length using Nat.strongRecOn generalizing s with
  | _ n ih =>
    by_cases h : ∃ before rest, s = before ++ part ++ rest
    · obtain ⟨before, rest, rfl, hnone⟩ := exists_leftmost h
      have hpos := List.length_pos_iff.2 hpart
      rw [List.length_append, List.length_append] at hlength
      obtain ⟨starts, hlater⟩ := ih rest.length (by omega) rest rfl
      exact ⟨_, .next hnone hlater⟩
    · exact ⟨[], .done fun before rest heq => h ⟨before, rest, heq⟩⟩

theorem Successive.eq {starts others : List (List Char)} (h : Successive part s starts)
    (h' : Successive part s others) : others = starts := by
  induction h generalizing others with
  | done hnone =>
    rcases (successive_iff ..).1 h' with ⟨-, rfl⟩ | ⟨before, rest, _, -, -, heq, -⟩
    · rfl
    · exact absurd (heq.trans (List.append_assoc _ _ _).symm) (hnone before rest)
  | @next before rest starts hnone _ ih =>
    rcases (successive_iff ..).1 h' with ⟨habsent, -⟩ | ⟨_, _, _, hnone', hlater, heq, rfl⟩
    · exact absurd (List.append_assoc _ _ _).symm (habsent before rest)
    · obtain ⟨-, rfl⟩ := hnone.eq_of_eq hnone' heq
      rw [ih hlater]

/-- **Every text has one row of successive occurrences.** -/
theorem existsUnique_successive (hpart : part ≠ []) (s : List Char) :
    ∃! starts, Successive part s starts := by
  obtain ⟨starts, hstarts⟩ := exists_successive hpart s
  exact ⟨starts, hstarts, fun _ hothers => hstarts.eq hothers⟩

/-- **A search gives the first answer at successive occurrences.** -/
theorem firstAt?_of_successive (hpart : part ≠ []) (ask : List Char → Option α)
    {starts : List (List Char)} (h : Successive part s starts) :
    firstAt? part ask 0 s = starts.findSome? ask := by
  induction h with
  | @done s hnone =>
    refine Option.eq_none_iff_forall_ne_some.2 fun answer hfound => ?_
    obtain ⟨before, rest, heq, -⟩ := exists_of_firstAt? hfound
    exact hnone before rest (heq.trans (List.append_assoc _ _ _).symm)
  | @next before rest starts hnone _ ih =>
    rw [firstAt?_append hnone, firstAt?_occurrence hpart, ih, List.findSome?_cons]
    cases ask (part ++ rest) <;> rfl

end HostedFiles.Text
