import HostedFiles.Text.Blank
import HostedFiles.Text.Lowercase

/-!
# FileName — names of hosted files

A name that a client sends may hold anything.  `neutralize` replaces what could lead out of a
directory, `sanitize?` also refuses the names that stand for directories, and `extension?` is what
follows the last full stop.
-/

namespace HostedFiles.FileName

open Text

/-- A character that may not stand in a stored name: a slash, a backslash or a control character. -/
def isUnsafe (c : Char) : Bool :=
  c == '/' || c == '\\' || isControl c

/-- A low line stands for each unsafe character. -/
def neutralizeChar (c : Char) : Char :=
  if isUnsafe c then '_' else c

/-- The name with its unsafe characters replaced. -/
def neutralize (name : String) : String :=
  String.ofList (name.toList.map neutralizeChar)

/-- The names that no file has: nothing, this directory, and the one above. -/
def isReserved (name : String) : Bool :=
  name == "" || name == "." || name == ".."

/-- The name a file may be stored under, if anything usable is left of `name`. -/
def sanitize? (name : String) : Option String :=
  let clean := neutralize name
  if isReserved clean then none else some clean

/-- What follows the last full stop, in lower case.  A name that begins or ends with its last full
stop has none. -/
def extension? (name : String) : Option String :=
  match splitLast? '.' name.toList with
  | some (stem, ending) =>
    if stem = [] ∨ ending = [] then none else some (lowercase (String.ofList ending))
  | none => none

/-! ## Laws -/

/-- A replaced character is safe. -/
theorem isUnsafe_neutralizeChar (c : Char) : isUnsafe (neutralizeChar c) = false := by
  by_cases h : isUnsafe c = true
  · simp [neutralizeChar, h]
    decide
  · simp [neutralizeChar, h]

/-- **A neutralized name holds no unsafe character.** -/
theorem isUnsafe_of_mem_neutralize {name : String} {c : Char} (h : c ∈ (neutralize name).toList) :
    isUnsafe c = false := by
  simp only [neutralize, String.toList_ofList, List.mem_map] at h
  obtain ⟨d, _, rfl⟩ := h
  exact isUnsafe_neutralizeChar d

/-- **A name of safe characters is left as it is**, and only such a name. -/
theorem neutralize_eq_self_iff {name : String} :
    neutralize name = name ↔ ∀ c ∈ name.toList, isUnsafe c = false := by
  refine ⟨fun h c hc => ?_, fun h => ?_⟩
  · rw [← h] at hc
    exact isUnsafe_of_mem_neutralize hc
  have hmap : name.toList.map neutralizeChar = name.toList := by
    refine (List.map_congr_left fun c hc => ?_).trans (List.map_id _)
    simp [neutralizeChar, h c hc]
  rw [neutralize, hmap, String.ofList_toList]

/-- A sanitized name is a neutralized one that is not reserved. -/
theorem sanitize?_eq_some_iff {name clean : String} :
    sanitize? name = some clean ↔ neutralize name = clean ∧ isReserved clean = false := by
  simp only [sanitize?]
  split
  · next h => exact ⟨fun h' => by simp at h', fun h' => by simp [← h'.1, h] at h'⟩
  · next h =>
    simp only [Option.some.injEq]
    exact ⟨fun h' => ⟨h', by simpa [← h'] using h⟩, fun h' => h'.1⟩

end HostedFiles.FileName
