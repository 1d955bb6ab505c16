/-!
# Text/Ranges — sets of code points as ranges

A property of the Unicode character database is a set of code points; here it is a row of closed
ranges that rise, kept as a search tree so that a long text is judged quickly.  Looking a code point
up in the tree is looking through the row (`contains_ofList`).  ASCII is decided apart from the
tables, so a text of ASCII characters never reads one.
-/

namespace HostedFiles.Text

/-- Closed ranges in search order: what is left of a range lies below it, what is right above. -/
inductive RangeTree where
  | empty
  | node (left : RangeTree) (first last : Nat) (right : RangeTree)

/-- The range `r` is not empty and lies below `s`. -/
def LiesBelow (r s : Nat × Nat) : Prop :=
  r.1 ≤ r.2 ∧ r.2 < s.1

namespace RangeTree

/-- Whether `n` lies in one of the ranges. -/
def contains : RangeTree → Nat → Bool
  | empty, _ => false
  | node left first last right, n =>
    if n < first then left.contains n else n ≤ last || right.contains n

/-- The tree of ranges that rise: the one in the middle parts the others. -/
def ofList (ranges : List (Nat × Nat)) : RangeTree :=
  match h : ranges.drop (ranges.length / 2) with
  | [] => empty
  | r :: above => node (ofList (ranges.take (ranges.length / 2))) r.1 r.2 (ofList above)
termination_by ranges.length
decreasing_by
  all_goals
    have := congrArg List.length h
    simp only [List.length_drop, List.length_cons, List.length_take] at this ⊢
    omega

/-- **Looking a number up is looking through all ranges.** -/
theorem contains_ofList (ranges : List (Nat × Nat)) (h : ranges.Pairwise LiesBelow) (n : Nat) :
    (ofList ranges).contains n = true ↔ ∃ r ∈ ranges, r.1 ≤ n ∧ n ≤ r.2 := by
  fun_induction ofList ranges with
  | case1 ranges hdrop =>
    have hnil : ranges = [] := by
      have := congrArg List.length hdrop
      simp only [List.length_drop, List.length_nil] at this
      exact List.length_eq_zero_iff.1 (by omega)
    simp [contains, hnil]
  | case2 ranges r above hdrop ihl ihr =>
    have hsplit : ranges = ranges.take (ranges.length / 2) ++ r :: above := by
      rw [← hdrop, List.take_append_drop]
    generalize ranges.take (ranges.length / 2) = below at hsplit ihl
    subst hsplit
    obtain ⟨hbelow, hrest, hcross⟩ := List.pairwise_append.1 h
    obtain ⟨hr, habove⟩ := List.pairwise_cons.1 hrest
    simp only [contains, List.mem_append, List.mem_cons]
    split
    · next hn =>
      rw [ihl hbelow]
      refine ⟨fun ⟨s, hs, hin⟩ => ⟨s, .inl hs, hin⟩, ?_⟩
      rintro ⟨s, hs | rfl | hs, hin⟩
      · exact ⟨s, hs, hin⟩
      · omega
      · have := hr s hs
        unfold LiesBelow at this
        omega
    · next hn =>
      rw [Bool.or_eq_true, decide_eq_true_eq, ihr habove]
      constructor
      · rintro (hlast | ⟨s, hs, hin⟩)
        · exact ⟨r, .inr (.inl rfl), by omega, hlast⟩
        · exact ⟨s, .inr (.inr hs), hin⟩
      · rintro ⟨s, hs | rfl | hs, hin⟩
        · have := hcross s hs r (.head _)
          unfold LiesBelow at this
          omega
        · exact .inl hin.2
        · exact .inr ⟨s, hs, hin⟩

end RangeTree

/-- A character of the ASCII half. -/
def isAscii (c : Char) : Bool :=
  c.toNat < 128

end HostedFiles.Text
