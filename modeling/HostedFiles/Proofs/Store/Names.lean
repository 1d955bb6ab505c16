import HostedFiles.Proofs.Disk.Joining
import HostedFiles.Store.Basic

/-!
# Proofs/Store/Names — names that files are stored under

A stored file has a clean name that is not the one of the directory of unfinished uploads.
`filePath_of_isStored` and `filePath_of_not_isStored` say that the store takes these names and no
others, under every root.
-/

namespace HostedFiles

namespace FileName

variable {name : String}

/-- A name is clean when sanitizing leaves it as it is. -/
theorem sanitize?_eq_self_iff : sanitize? name = some name ↔
    (∀ c ∈ name.toList, isUnsafe c = false) ∧ isReserved name = false := by
  rw [sanitize?_eq_some_iff, neutralize_eq_self_iff]

/-- **What sanitizing gives is clean.** -/
theorem sanitize?_of_sanitize? {clean : String} (h : sanitize? name = some clean) :
    sanitize? clean = some clean := by
  obtain ⟨rfl, hreserved⟩ := sanitize?_eq_some_iff.1 h
  exact sanitize?_eq_self_iff.2 ⟨fun c hc => isUnsafe_of_mem_neutralize hc, hreserved⟩

/-- **A clean name is a name in a directory.** -/
theorem isName_of_sanitize? (h : sanitize? name = some name) : Path.IsName name := by
  obtain ⟨hsafe, hreserved⟩ := sanitize?_eq_self_iff.1 h
  simp only [isReserved, Bool.or_eq_false_iff, beq_eq_false_iff_ne] at hreserved
  exact
    { no_slash := fun hslash => absurd (hsafe '/' hslash) (by decide)
      ne_empty := hreserved.1.1
      ne_here := hreserved.1.2
      ne_above := hreserved.2 }

end FileName

namespace Store

variable {name : String}

/-- A clean name that is not the one of the directory of unfinished uploads. -/
structure IsStored (name : String) : Prop where
  clean : FileName.sanitize? name = some name
  ne_partial : name ≠ partialName

theorem IsStored.isName (h : IsStored name) : Path.IsName name :=
  FileName.isName_of_sanitize? h.clean

/-- The directory of unfinished uploads has a name. -/
theorem isName_partialName : Path.IsName partialName :=
  FileName.isName_of_sanitize? (by decide)

/-- **The store takes every such name, under every root**, and its file lies directly there. -/
theorem filePath_of_isStored (h : IsStored name) (root : String) :
    filePath root name = .ok (Path.join root name) := by
  obtain ⟨above, habove, hsame⟩ := Path.exists_parent?_join h.isName root
  rw [filePath]
  simp only [h.clean, ne_eq, not_true_eq_false, h.ne_partial, or_self, if_false, habove, hsame,
    if_true]

/-- **The store takes no other name.** -/
theorem filePath_of_not_isStored (h : ¬ IsStored name) (root : String) :
    filePath root name = .error (.invalidName name) := by
  rw [filePath]
  cases hclean : FileName.sanitize? name with
  | none => rfl
  | some clean =>
    have hbad : clean ≠ name ∨ clean = partialName := by
      by_cases hname : clean = name
      · subst hname
        exact .inr (Decidable.byContradiction fun hne => h ⟨hclean, hne⟩)
      · exact .inl hname
    simp only [if_pos hbad]

/-- A path of the store is that of a stored name, directly below the root. -/
theorem of_filePath {root path : String} (h : filePath root name = .ok path) :
    IsStored name ∧ path = Path.join root name := by
  by_cases hstored : IsStored name
  · rw [filePath_of_isStored hstored] at h
    cases h
    exact ⟨hstored, rfl⟩
  · rw [filePath_of_not_isStored hstored] at h
    cases h

end Store

end HostedFiles
