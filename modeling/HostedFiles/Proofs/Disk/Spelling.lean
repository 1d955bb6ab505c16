import HostedFiles.Proofs.Disk.Directories

/-!
# Proofs/Disk/Spelling — paths that are spelled otherwise

Two paths with the same components ask for the same moves up and down, and differ only in steps that
stay where they are (`moves_leading`).  Such steps lead nowhere else (`Leads.respell`), so the paths
lead to the same directory (`LeadsTo.respell`), however long they are.
-/

namespace HostedFiles

namespace Path

open Text

variable {path other name : String}

/-! ## Moves -/

/-- Whether a step leaves the place. -/
def Step.moves (step : Step) : Bool :=
  step != .here

/-- The move that a component asks for, if it asks for one. -/
def Component.move? : Component → Option Step
  | .root | .here => none
  | .above => some .up
  | .name n => some (.name n)

/-- A piece moves as its component does. -/
theorem moves_piece (piece : List Char) :
    (step? piece).filter Step.moves = (component? piece).bind Component.move? := by
  rw [step?, component?]
  by_cases hempty : piece = []
  · simp [hempty]
  by_cases hhere : piece = ['.']
  · simp [hhere, Step.moves]
  by_cases habove : piece = ['.', '.']
  · simp [habove, Step.moves, Component.move?]
  · simp [hempty, hhere, habove, Step.moves, Component.move?]

/-- Pieces move as their components do. -/
theorem moves_pieces (pieces : List (List Char)) :
    (pieces.filterMap step?).filter Step.moves =
      (pieces.filterMap component?).filterMap Component.move? := by
  rw [List.filter_filterMap, List.filterMap_filterMap]
  exact congrArg (List.filterMap · pieces) (funext moves_piece)

/-- The first piece moves as its component does. -/
theorem moves_firstPiece (piece : List Char) :
    (step? piece).toList.filter Step.moves =
      (firstComponent piece true).filterMap Component.move? := by
  rw [step?, firstComponent, component?]
  by_cases hempty : piece = []
  · simp [hempty, Component.move?]
  by_cases hhere : piece = ['.']
  · simp [hhere, Step.moves, Component.move?]
  by_cases habove : piece = ['.', '.']
  · simp [habove, Step.moves, Component.move?]
  · simp [hempty, hhere, habove, Step.moves, Component.move?]

/-- **The moves in front of a name are those of the components.** -/
theorem moves_leading (path : String) :
    ((leading path).filterMap step?).filter Step.moves =
      (components path).filterMap Component.move? := by
  by_cases hempty : path = ""
  · subst hempty
    rfl
  obtain ⟨first, rest, hleading, hcomponents⟩ := exists_leading_eq_cons hempty
  rw [hleading, hcomponents, List.filterMap_append, ← moves_firstPiece, ← moves_pieces,
    List.filterMap_cons]
  cases step? first with
  | none => simp
  | some step => cases hmoves : step.moves <;> simp [hmoves]

/-- What a piece says that is not the first one. -/
theorem component?_eq_name {piece : List Char} (h : component? piece = some (.name name)) :
    piece = name.toList := by
  rw [component?] at h
  split at h
  · cases h
  split at h
  · cases h
  · injection h with h
    injection h with h
    rw [← h, String.toList_ofList]

/-- A path begins at the root when a component says so. -/
theorem isAbsolute_iff : isAbsolute path = true ↔ Component.root ∈ components path := by
  have hrest : ∀ piece, component? piece ≠ some .root := by
    intro piece
    rw [component?]
    split
    · simp
    split <;> simp
  rw [isAbsolute, components, pieces]
  cases path.toList with
  | nil => simp [splitAll, firstComponent]
  | cons c s =>
    by_cases hc : c = '/'
    · cases hs : splitAll '/' s with
      | nil => exact absurd hs (splitAll_ne_nil _ _)
      | cons piece rest => simp [splitAll, hc, hs, firstComponent]
    · cases hs : splitAll '/' s with
      | nil => exact absurd hs (splitAll_ne_nil _ _)
      | cons piece rest =>
        have hfirst : Component.root ∉ firstComponent (c :: piece) (!rest.isEmpty) := by
          rw [firstComponent, if_neg (List.cons_ne_nil _ _)]
          split
          · simp
          · simpa using hrest (c :: piece)
        simp [splitAll, hc, hs, hfirst, hrest]

/-! ## Characters -/

/-- **A path is made of its pieces and slashes.** -/
theorem mem_toList_iff {x : Char} (hx : x ≠ '/') :
    x ∈ path.toList ↔ ∃ piece ∈ pieces path, x ∈ piece := by
  rw [pieces]
  induction path.toList with
  | nil => simp [splitAll]
  | cons c s ih =>
    by_cases hc : c = '/'
    · simp [splitAll, hc, hx, ih]
    · cases hs : splitAll '/' s with
      | nil => exact absurd hs (splitAll_ne_nil _ _)
      | cons piece rest =>
        rw [hs] at ih
        simp [splitAll, hc, hs, ih, or_assoc]

/-- A name is a component when a piece says so. -/
theorem name_mem_components_iff :
    .name name ∈ components path ↔ ∃ piece ∈ pieces path, component? piece = some (.name name) := by
  have hfirst : ∀ piece others, .name name ∈ firstComponent piece others ↔
      component? piece = some (.name name) := by
    intro piece others
    rw [firstComponent]
    by_cases hempty : piece = []
    · cases others <;> simp [hempty, component?]
    by_cases hhere : piece = ['.']
    · simp [hhere, component?]
    · simp [hempty, hhere]
  rw [components]
  cases hpieces : pieces path with
  | nil => simp
  | cons first rest => simp [hfirst]

/-- **Every character but slashes and full stops belongs to a name**, so the components tell which
there are. -/
theorem mem_toList_iff_components {x : Char} (hslash : x ≠ '/') (hstop : x ≠ '.') :
    x ∈ path.toList ↔ ∃ n, .name n ∈ components path ∧ x ∈ n.toList := by
  rw [mem_toList_iff hslash]
  constructor
  · rintro ⟨piece, hpiece, hx⟩
    refine ⟨String.ofList piece, name_mem_components_iff.2 ⟨piece, hpiece, ?_⟩, ?_⟩
    · rw [component?, if_neg, if_neg]
      · rintro rfl
        simp [hstop] at hx
      · rintro (rfl | rfl) <;> simp [hstop] at hx
    · rwa [String.toList_ofList]
  · rintro ⟨n, hn, hx⟩
    obtain ⟨piece, hpiece, hcomponent⟩ := name_mem_components_iff.1 hn
    exact ⟨piece, hpiece, component?_eq_name hcomponent ▸ hx⟩

/-- The characters of a path, but for slashes and full stops, do not depend on its spelling. -/
theorem mem_toList_respell {x : Char} (hslash : x ≠ '/') (hstop : x ≠ '.')
    (hsame : same other path = true) : x ∈ other.toList ↔ x ∈ path.toList := by
  rw [same, beq_iff_eq] at hsame
  rw [mem_toList_iff_components hslash hstop, mem_toList_iff_components hslash hstop, hsame]

/-! ## Joined names -/

/-- **A joined name is the last component.** -/
theorem components_join (h : IsName name) :
    components (join path name) = components path ++ [.name name] := by
  have hname : component? name.toList = some (.name name) := by
    rw [component?, if_neg, if_neg h.toList_ne_above, String.ofList_toList]
    exact not_or.2 ⟨h.toList_ne_nil, h.toList_ne_here⟩
  rw [components, pieces_join h]
  by_cases hempty : path = ""
  · subst hempty
    simp only [leading, if_pos, List.nil_append, firstComponent, if_neg h.toList_ne_nil,
      if_neg h.toList_ne_here, hname]
    rfl
  · obtain ⟨first, rest, hleading, hcomponents⟩ := exists_leading_eq_cons hempty
    have hothers : (rest ++ [name.toList]).isEmpty = false := by simp
    rw [hleading, hcomponents, List.cons_append]
    simp [hothers, hname]

/-- A name can be joined to either of two spellings. -/
theorem same_join (h : IsName name) (hsame : same other path = true) :
    same (join other name) (join path name) = true := by
  rw [same, beq_iff_eq] at hsame ⊢
  rw [components_join h, components_join h, hsame]

end Path

namespace Disk

open HostedFiles.Path (Step IsName)

variable {d : Disk} {n m : Nat} {p q : Place} {s t : List Step}

/-- Steps that stay lead nowhere else. -/
theorem Leads.append_here (h : d.Leads n p s m q) (ht : ∀ step ∈ t, ¬ step.moves = true) :
    d.Leads n p (t ++ s) m q := by
  induction t with
  | nil => exact h
  | cons step t ih =>
    have hstep : step = .here := by
      simpa [Step.moves] using ht step List.mem_cons_self
    rw [hstep]
    exact .here (ih fun step hstep => ht step (List.mem_cons_of_mem _ hstep))

/-- **Steps with the same moves lead to the same directory.** -/
theorem Leads.respell (h : d.Leads n p s m q) (ht : t.filter Step.moves = s.filter Step.moves) :
    d.Leads n p t m q := by
  have hmoves : ∀ name, Step.moves (.name name) = true := fun _ => rfl
  induction h generalizing t with
  | stay =>
    have hnone := List.filter_eq_nil_iff.1 ht
    rw [← List.append_nil t]
    exact Leads.append_here .stay hnone
  | here _ ih => exact ih ht
  | up _ ih =>
    rw [List.filter_cons_of_pos (by rfl)] at ht
    obtain ⟨before, after, rfl, hbefore, -, hafter⟩ := List.filter_eq_cons_iff.1 ht
    exact Leads.append_here (.up (ih hafter)) hbefore
  | down hlen hdir _ ih =>
    rw [List.filter_cons_of_pos (hmoves _)] at ht
    obtain ⟨before, after, rfl, hbefore, -, hafter⟩ := List.filter_eq_cons_iff.1 ht
    exact Leads.append_here (.down hlen hdir (ih hafter)) hbefore
  | link hlen hlink _ ih =>
    rw [List.filter_cons_of_pos (hmoves _)] at ht
    obtain ⟨before, after, rfl, hbefore, -, hafter⟩ := List.filter_eq_cons_iff.1 ht
    refine Leads.append_here (.link hlen hlink (ih ?_)) hbefore
    rw [List.filter_append, List.filter_append, hafter]

variable {path other name : String}

/-- **A path leads to the same directory however it is spelled.** -/
theorem LeadsTo.respell (h : d.LeadsTo path p) (hsame : Path.same other path = true) :
    d.LeadsTo other p := by
  rw [Path.same, beq_iff_eq] at hsame
  obtain ⟨m, hm⟩ := leadsTo_iff_leading.1 h
  refine leadsTo_iff_leading.2 ⟨m, ?_⟩
  have horigin : d.origin other = d.origin path := by
    rw [origin, origin]
    congr 1
    rw [Path.isAbsolute_iff, Path.isAbsolute_iff, hsame]
  rw [horigin]
  exact hm.respell (by rw [Path.moves_leading, Path.moves_leading, hsame])

end Disk

end HostedFiles
