import HostedFiles.Disk.Path

/-!
# Proofs/Disk/Joining — a path that goes on by a name

Whatever a path looks like, a name joined to it becomes its last piece (`pieces_join`).  So the path
is walked by the steps of what stood before, and one step to the name (`steps_join`), and the path
above it has the components of what stood before (`exists_parent?_join`).
-/

namespace HostedFiles

namespace Text

/-- **Pieces are those before a separator and those behind it.** -/
theorem splitAll_append_sep (sep : Char) (s t : List Char) :
    splitAll sep (s ++ sep :: t) = splitAll sep s ++ splitAll sep t := by
  induction s with
  | nil => simp [splitAll]
  | cons c s ih =>
    by_cases hc : c = sep
    · simp [splitAll, hc, ih]
    · cases hs : splitAll sep s with
      | nil => exact absurd hs (splitAll_ne_nil sep s)
      | cons piece pieces => simp [splitAll, hc, ih, hs]

/-- No piece holds the separator. -/
theorem not_mem_of_mem_splitAll {sep : Char} {s piece : List Char} (h : piece ∈ splitAll sep s) :
    sep ∉ piece := by
  induction s generalizing piece with
  | nil => simp_all [splitAll]
  | cons c s ih =>
    by_cases hc : c = sep
    · simp only [splitAll, hc, if_true, List.mem_cons] at h
      rcases h with rfl | h
      · exact List.not_mem_nil
      · exact ih h
    · cases hs : splitAll sep s with
      | nil => exact absurd hs (splitAll_ne_nil sep s)
      | cons first pieces =>
        rw [hs] at ih
        simp only [splitAll, if_neg hc, hs, List.mem_cons] at h
        rcases h with rfl | h
        · intro hmem
          rcases List.mem_cons.1 hmem with heq | hmem
          · exact hc heq.symm
          · exact ih List.mem_cons_self hmem
        · exact ih (List.mem_cons_of_mem _ h)

end Text

namespace Path

open Text

/-! ## Names -/

/-- A text that is one piece of a path and stands for something in a directory. -/
structure IsName (name : String) : Prop where
  no_slash : '/' ∉ name.toList
  ne_empty : name ≠ ""
  ne_here : name ≠ "."
  ne_above : name ≠ ".."

variable {root name : String}

/-- A name is a row of characters that is not empty. -/
theorem IsName.toList_ne_nil (h : IsName name) : name.toList ≠ [] := by
  intro hnil
  exact h.ne_empty (String.toList_inj.1 (by rw [hnil]; rfl))

theorem IsName.toList_ne_here (h : IsName name) : name.toList ≠ ['.'] := by
  intro hhere
  exact h.ne_here (String.toList_inj.1 (by rw [hhere]; rfl))

theorem IsName.toList_ne_above (h : IsName name) : name.toList ≠ ['.', '.'] := by
  intro habove
  exact h.ne_above (String.toList_inj.1 (by rw [habove]; rfl))

/-- A name asks for a step to it. -/
theorem IsName.step? (h : IsName name) : step? name.toList = some (.name name) := by
  rw [Path.step?, if_neg h.toList_ne_nil, if_neg h.toList_ne_here, if_neg h.toList_ne_above,
    String.ofList_toList]

/-- A name counts as a piece of a path. -/
theorem IsName.isFiller (h : IsName name) : isFiller name.toList = false := by
  simp [Path.isFiller, h.toList_ne_nil, h.toList_ne_here]

/-! ## The pieces of a joined path -/

/-- The pieces of a path that stay in front when a name is joined to it. -/
def leading (root : String) : List (List Char) :=
  if root = "" then []
  else if root.toList.getLast? = some '/' then (pieces root).dropLast
  else pieces root

/-- A path with a slash at its end has an empty last piece. -/
theorem pieces_eq_dropLast_append (h : root.toList.getLast? = some '/') :
    pieces root = (pieces root).dropLast ++ [[]] := by
  obtain ⟨s, hs⟩ := List.getLast?_eq_some_iff.1 h
  have hp : pieces root = splitAll '/' s ++ [[]] := by
    rw [pieces, hs, splitAll_append_sep]
    rfl
  rw [hp, List.dropLast_concat]

/-- **A joined name is the last piece.** -/
theorem pieces_join (h : IsName name) :
    pieces (join root name) = leading root ++ [name.toList] := by
  rw [join, leading]
  split
  · exact splitAll_of_not_mem h.no_slash
  · split
    next hlast =>
      obtain ⟨s, hs⟩ := List.getLast?_eq_some_iff.1 hlast
      rw [pieces, pieces, String.toList_append, hs, List.append_assoc, List.singleton_append,
        splitAll_append_sep, splitAll_append_sep, splitAll_of_not_mem h.no_slash]
      simp [splitAll]
    next =>
      rw [pieces, pieces, String.toList_append, String.toList_append, List.append_assoc]
      exact (splitAll_append_sep _ _ _).trans (congrArg _ (splitAll_of_not_mem h.no_slash))

/-- The last character of a joined path is that of the name. -/
theorem getLast?_join (h : IsName name) : (join root name).toList.getLast? ≠ some '/' := by
  have hname : ∀ s : List Char, (s ++ name.toList).getLast? ≠ some '/' := by
    intro s hs
    rw [List.getLast?_append, List.getLast?_eq_some_getLast h.toList_ne_nil] at hs
    exact h.no_slash (Option.some.inj hs ▸ List.getLast_mem h.toList_ne_nil)
  rw [join]
  split
  · exact hname []
  · split
    · rw [String.toList_append]; exact hname _
    · rw [String.toList_append]; exact hname _

/-- The characters of a joined path. -/
theorem mem_join {x : Char} (h : x ∈ (join root name).toList) :
    x ∈ root.toList ∨ x = '/' ∨ x ∈ name.toList := by
  rw [join] at h
  split at h
  · exact .inr (.inr h)
  · split at h
    · rw [String.toList_append, List.mem_append] at h
      exact h.imp_right .inr
    · simpa [String.toList_append, or_assoc] using h

/-- A joined path is not empty. -/
theorem join_ne_empty (h : IsName name) (root : String) : join root name ≠ "" := by
  intro hnil
  have hpieces := @pieces_join root name h
  rw [hnil] at hpieces
  have hlast := congrArg List.getLast? hpieces
  rw [List.getLast?_concat] at hlast
  exact h.toList_ne_nil (Option.some.inj hlast).symm

/-- A joined path has no slashes at its end to drop. -/
theorem dropEndSlashes_join (h : IsName name) (root : String) :
    dropEndSlashes (join root name) = join root name := by
  have hlast : (join root name).toList.reverse.head? ≠ some '/' := by
    rw [List.head?_reverse]
    exact getLast?_join h
  have htrim : trimEnd (· == '/') (join root name).toList = (join root name).toList := by
    rw [trimEnd]
    cases hrev : (join root name).toList.reverse with
    | nil => rw [List.reverse_eq_nil_iff.1 hrev]; rfl
    | cons c s =>
      rw [hrev] at hlast
      have hc : (c == '/') = false := beq_eq_false_iff_ne.2 fun hc => hlast (by rw [hc]; rfl)
      rw [List.dropWhile_cons, hc, if_neg Bool.false_ne_true, ← hrev, List.reverse_reverse]
  rw [dropEndSlashes, htrim]
  split
  · rfl
  · exact String.ofList_toList

/-- **A joined path is walked by the steps before it and one to the name.** -/
theorem steps_join (h : IsName name) :
    steps (join root name) = (leading root).filterMap step? ++ [.name name] := by
  rw [steps, pieces_join h, if_neg (getLast?_join h), List.append_nil, List.filterMap_append]
  simp [h.step?]

/-- The steps of a path are those that stay in front of a name, but for a slash at its end. -/
theorem steps_eq (root : String) :
    steps root = (leading root).filterMap step? ++
      (if root.toList.getLast? = some '/' then [.here] else []) := by
  by_cases hroot : root = ""
  · subst hroot
    rfl
  rw [steps, leading, if_neg hroot]
  by_cases hlast : root.toList.getLast? = some '/'
  · rw [if_pos hlast, if_pos hlast]
    conv => lhs; rw [pieces_eq_dropLast_append hlast]
    rw [List.filterMap_append]
    simp [step?]
  · rw [if_neg hlast, if_neg hlast]

/-- A name joined to a path begins where the path begins. -/
theorem isAbsolute_join (h : IsName name) : isAbsolute (join root name) = isAbsolute root := by
  rw [join]
  split
  next hroot =>
    subst hroot
    cases hn : name.toList with
    | nil => exact absurd hn h.toList_ne_nil
    | cons c s =>
      have hc : c ≠ '/' := fun hc => h.no_slash (by rw [hn, hc]; exact List.mem_cons_self)
      simp [isAbsolute, hn, hc]
  next hroot =>
    have hne : root.toList ≠ [] := fun hnil => hroot (String.toList_inj.1 (by rw [hnil]; rfl))
    obtain ⟨c, s, hs⟩ := List.exists_cons_of_ne_nil hne
    split <;> simp [isAbsolute, hs]

/-! ## The path above a joined one

The path above is written from the pieces in front of the name, without those at their end that
count for nothing.  These have no components, so the components are those of the path itself. -/

/-- A piece that counts for nothing has no component. -/
theorem component?_of_isFiller {piece : List Char} (h : isFiller piece = true) :
    component? piece = none := by
  simp only [isFiller, Bool.or_eq_true, beq_iff_eq] at h
  rw [component?, if_pos h]

/-- **What counts for nothing can be dropped** without a change to the components. -/
theorem filterMap_dropFiller (rest : List (List Char)) :
    (dropFiller rest).filterMap component? = rest.filterMap component? := by
  have hsplit : rest = dropFiller rest ++ (rest.reverse.takeWhile isFiller).reverse := by
    rw [dropFiller, ← List.reverse_append, List.takeWhile_append_dropWhile, List.reverse_reverse]
  have hnone : (rest.reverse.takeWhile isFiller).reverse.filterMap component? = [] := by
    refine List.filterMap_eq_nil_iff.2 fun piece hpiece => component?_of_isFiller ?_
    have hall := List.all_takeWhile (p := isFiller) (l := rest.reverse)
    exact List.all_eq_true.1 hall piece (List.mem_reverse.1 hpiece)
  conv => rhs; rw [hsplit, List.filterMap_append, hnone, List.append_nil]

/-- A name behind other pieces is not dropped. -/
theorem dropFiller_append (h : IsName name) (rest : List (List Char)) :
    dropFiller (rest ++ [name.toList]) = rest ++ [name.toList] := by
  rw [dropFiller, List.reverse_append, List.reverse_singleton, List.singleton_append,
    List.dropWhile_cons, h.isFiller]
  simp

/-- **Pieces written with slashes between them are read back.** -/
theorem pieces_unsplit {first : List Char} {rest : List (List Char)}
    (h : ∀ piece ∈ first :: rest, '/' ∉ piece) :
    pieces (unsplit (first :: rest)) = first :: rest := by
  induction rest generalizing first with
  | nil =>
    rw [pieces, unsplit, String.toList_ofList]
    simpa using splitAll_of_not_mem (h first List.mem_cons_self)
  | cons second rest ih =>
    have hrest := ih fun piece hpiece => h piece (List.mem_cons_of_mem _ hpiece)
    rw [pieces, unsplit, String.toList_ofList] at hrest ⊢
    rw [List.intercalate_cons_cons, List.append_assoc, List.singleton_append,
      splitAll_append (h first List.mem_cons_self), hrest]

/-- Only the empty path has nothing but an empty piece. -/
theorem eq_empty_of_pieces (h : pieces root = [[]]) : root = "" := by
  rw [pieces] at h
  cases hs : root.toList with
  | nil => exact String.toList_inj.1 (by rw [hs]; rfl)
  | cons c s =>
    rw [hs, splitAll] at h
    split at h
    · exact absurd (List.cons.inj h).2 (splitAll_ne_nil _ _)
    · cases hsplit : splitAll '/' s <;> simp [hsplit] at h

/-- The components of a path that is not empty, read off the pieces in front of a name. -/
theorem exists_leading_eq_cons (h : root ≠ "") :
    ∃ first rest, leading root = first :: rest ∧
      components root = firstComponent first true ++ rest.filterMap component? := by
  have hfirst : ∀ (first : List Char) (others : Bool), first ≠ [] →
      firstComponent first others = firstComponent first true := by
    intro first others hne
    rw [firstComponent, firstComponent, if_neg hne, if_neg hne]
  rw [leading, if_neg h]
  by_cases hlast : root.toList.getLast? = some '/'
  · rw [if_pos hlast]
    have hp := pieces_eq_dropLast_append hlast
    cases hd : (pieces root).dropLast with
    | nil => exact absurd (eq_empty_of_pieces (by rw [hp, hd]; rfl)) h
    | cons first rest =>
      refine ⟨first, rest, rfl, ?_⟩
      rw [hd] at hp
      have hothers : (rest ++ [([] : List Char)]).isEmpty = false := by cases rest <;> rfl
      rw [components, hp]
      simp [component?, hothers]
  · rw [if_neg hlast]
    cases hp : pieces root with
    | nil => exact absurd hp (splitAll_ne_nil _ _)
    | cons first rest =>
      refine ⟨first, rest, rfl, ?_⟩
      rw [components, hp]
      cases rest with
      | cons => rfl
      | nil =>
        have hne : first ≠ [] := fun hnil => h (eq_empty_of_pieces (by rw [hp, hnil]))
        simp [hfirst first _ hne]

/-- Pieces that stay when what counts for nothing is dropped were there before. -/
theorem dropFiller_subset (rest : List (List Char)) : dropFiller rest ⊆ rest := by
  intro piece hpiece
  rw [dropFiller, List.mem_reverse] at hpiece
  exact List.mem_reverse.1 ((List.dropWhile_sublist _).subset hpiece)

/-- The path of pieces in front of a name has their components. -/
theorem components_unsplit {first : List Char} {rest : List (List Char)}
    (hslash : ∀ piece ∈ first :: rest, '/' ∉ piece) (hne : first = [] → dropFiller rest ≠ []) :
    components (unsplit (first :: dropFiller rest)) =
      firstComponent first true ++ rest.filterMap component? := by
  have hread : pieces (unsplit (first :: dropFiller rest)) = first :: dropFiller rest := by
    refine pieces_unsplit fun piece hpiece => hslash piece ?_
    rcases List.mem_cons.1 hpiece with rfl | hpiece
    · exact List.mem_cons_self
    · exact List.mem_cons_of_mem _ (dropFiller_subset rest hpiece)
  rw [components, hread]
  simp only [filterMap_dropFiller]
  by_cases hfirst : first = []
  · cases hd : dropFiller rest with
    | nil => exact absurd hd (hne hfirst)
    | cons => rfl
  · simp only [firstComponent, if_neg hfirst]

/-- **The path above a joined one is the path itself**, as far as components tell. -/
theorem exists_parent?_join (h : IsName name) (root : String) :
    ∃ above, parent? (join root name) = some above ∧ same above root = true := by
  by_cases hroot : root = ""
  · subst hroot
    refine ⟨"", ?_, rfl⟩
    rw [parent?, pieces_join h]
    exact if_neg h.toList_ne_nil
  obtain ⟨first, rest, hleading, hcomponents⟩ := exists_leading_eq_cons hroot
  have hslash : ∀ piece ∈ first :: rest, '/' ∉ piece := by
    intro piece hpiece
    rw [← hleading, leading, if_neg hroot] at hpiece
    split at hpiece
    · exact not_mem_of_mem_splitAll (List.dropLast_subset _ hpiece)
    · exact not_mem_of_mem_splitAll hpiece
  rw [parent?, pieces_join h, hleading, List.cons_append]
  simp only [dropFiller_append h]
  cases hkept : rest ++ [name.toList] with
  | nil => simp at hkept
  | cons second others =>
    have hlast : (second :: others).dropLast = rest := by rw [← hkept, List.dropLast_concat]
    simp only [hlast]
    by_cases hnone : first = [] ∧ dropFiller rest = []
    · refine ⟨"/", by rw [hnone.1, hnone.2], ?_⟩
      rw [same, hcomponents, ← filterMap_dropFiller, hnone.1, hnone.2]
      decide
    · have hne : first = [] → dropFiller rest ≠ [] := fun hfirst hd => hnone ⟨hfirst, hd⟩
      refine ⟨unsplit (first :: dropFiller rest), ?_, ?_⟩
      · split
        next hd => exact absurd hd (hne rfl)
        next => rfl
      · rw [same, beq_iff_eq, components_unsplit hslash hne, hcomponents]

/-- The first of the paths from the inside out is the path itself. -/
theorem exists_outward_eq_cons {path : String} (h : path ≠ "") :
    ∃ above, outward path = path :: above :=
  ⟨_, if_neg h⟩

end Path

end HostedFiles
