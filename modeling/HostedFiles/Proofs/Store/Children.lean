import HostedFiles.Proofs.Disk.Spelling
import HostedFiles.Proofs.Store.Names

/-!
# Proofs/Store/Children — the names that the store takes

The store compares a sanitized name with the name, and the path above a joined path with the root.
Together that takes exactly the safe names (`isStored_iff_isSafe`), and no spelling of the root
changes it.  What is taken becomes a child of the root (`isChild_join`), under its own name and no
other, so that two names never share a path (`same_join_iff`).
-/

namespace HostedFiles

/-! ## Children of a directory -/

namespace Path

variable {root other name : String}

/-- The name that a path ends in, if it ends in one. -/
def fileName? (path : String) : Option String :=
  match (components path).getLast? with
  | some (.name n) => some n
  | _ => none

/-- A path leads directly below a directory, to exactly one name. -/
structure IsChild (dir name path : String) : Prop where
  /-- The path above it is the directory, as far as components tell. -/
  above : ∃ above, parent? path = some above ∧ same above dir = true
  fileName : fileName? path = some name
  /-- Nothing lies between the directory and the name. -/
  components : components path = components dir ++ [.name name]

/-- **A joined name makes a child**, whatever the directory looks like. -/
theorem isChild_join (h : IsName name) (root : String) : IsChild root name (join root name) where
  above := exists_parent?_join h root
  fileName := by rw [fileName?, components_join h, List.getLast?_concat]
  components := components_join h

/-- **Names joined to two spellings of a directory make the same path only if they are the same
name.** -/
theorem same_join_iff {first second : String} (hfirst : IsName first) (hsecond : IsName second)
    (hroot : same root other = true) :
    same (join root first) (join other second) = true ↔ first = second := by
  rw [same, beq_iff_eq] at hroot ⊢
  rw [components_join hfirst, components_join hsecond, hroot, List.append_cancel_left_eq,
    List.cons.injEq, Component.name.injEq]
  exact and_iff_left rfl

end Path

namespace Store

variable {name : String}

/-! ## Safe names -/

/-- A name under which a file can lie directly below a root: it is none of the names that stand for
directories there, and no character of it can lead elsewhere. -/
structure IsSafe (name : String) : Prop where
  ne_empty : name ≠ ""
  ne_here : name ≠ "."
  ne_above : name ≠ ".."
  ne_partial : name ≠ ".partial"
  no_slash : '/' ∉ name.toList
  no_backslash : '\\' ∉ name.toList
  no_control : ∀ c ∈ name.toList, Text.isControl c = false

/-- The characters that are left alone are neither slashes nor backslashes nor control
characters. -/
theorem forall_isUnsafe_eq_false_iff {s : List Char} :
    (∀ c ∈ s, FileName.isUnsafe c = false) ↔
      '/' ∉ s ∧ '\\' ∉ s ∧ ∀ c ∈ s, Text.isControl c = false := by
  simp only [FileName.isUnsafe, Bool.or_eq_false_iff, beq_eq_false_iff_ne]
  constructor
  · intro h
    exact ⟨fun hmem => (h _ hmem).1.1 rfl, fun hmem => (h _ hmem).1.2 rfl,
      fun c hmem => (h c hmem).2⟩
  · rintro ⟨hslash, hback, hcontrol⟩ c hmem
    refine ⟨⟨?_, ?_⟩, hcontrol c hmem⟩
    · rintro rfl
      exact hslash hmem
    · rintro rfl
      exact hback hmem

/-- **Files are stored under the safe names.** -/
theorem isStored_iff_isSafe : IsStored name ↔ IsSafe name := by
  have hclean : FileName.sanitize? name = some name ↔
      ('/' ∉ name.toList ∧ '\\' ∉ name.toList ∧ ∀ c ∈ name.toList, Text.isControl c = false) ∧
        (name ≠ "" ∧ name ≠ ".") ∧ name ≠ ".." := by
    rw [FileName.sanitize?_eq_self_iff, forall_isUnsafe_eq_false_iff, FileName.isReserved]
    simp only [Bool.or_eq_false_iff, beq_eq_false_iff_ne]
  constructor
  · intro h
    obtain ⟨⟨hslash, hback, hcontrol⟩, ⟨hempty, hhere⟩, habove⟩ := hclean.1 h.clean
    exact ⟨hempty, hhere, habove, h.ne_partial, hslash, hback, hcontrol⟩
  · intro h
    exact
      { clean := hclean.2
          ⟨⟨h.no_slash, h.no_backslash, h.no_control⟩, ⟨h.ne_empty, h.ne_here⟩, h.ne_above⟩
        ne_partial := h.ne_partial }

/-! ## The paths of the store -/

/-- What it means that the store takes the safe names under a root. -/
structure TakesSafeNames (root : String) : Prop where
  /-- A name is taken if and only if it is safe. -/
  taken : ∀ name, (∃ path, filePath root name = .ok path) ↔ IsSafe name
  /-- Any other name is refused for what it is. -/
  refused : ∀ name, ¬ IsSafe name → filePath root name = .error (.invalidName name)
  /-- What is taken lies directly below the root, under exactly its name. -/
  child : ∀ name path, filePath root name = .ok path → Path.IsChild root name path
  /-- Two names have two paths, also where the second root is another spelling of the first. -/
  apart : ∀ other first second p q, Path.same root other = true → filePath root first = .ok p →
    filePath other second = .ok q → (Path.same p q = true ↔ first = second)

/-- **The store takes exactly the safe names, under every root**: as children of the root, and each
as another one. -/
theorem takesSafeNames (root : String) : TakesSafeNames root where
  taken name := by
    rw [← isStored_iff_isSafe]
    exact ⟨fun ⟨_, hpath⟩ => (of_filePath hpath).1, fun h => ⟨_, filePath_of_isStored h root⟩⟩
  refused name h := filePath_of_not_isStored (fun hstored => h (isStored_iff_isSafe.1 hstored)) root
  child name path hpath := by
    obtain ⟨hstored, rfl⟩ := of_filePath hpath
    exact Path.isChild_join hstored.isName root
  apart other first second p q hroot hp hq := by
    obtain ⟨hfirst, rfl⟩ := of_filePath hp
    obtain ⟨hsecond, rfl⟩ := of_filePath hq
    exact Path.same_join_iff hfirst.isName hsecond.isName hroot

example : filePath "a//./" "..." = .ok "a//./..." := by rfl

end Store

end HostedFiles
