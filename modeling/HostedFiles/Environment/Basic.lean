import HostedFiles.Rows
import HostedFiles.Text.Split

/-!
# Environment — named values of a process

Each name has at most one value.  Setting a name replaces its value.  A process holds its
environment as lines `name=value` and searches them by how they begin, so a name that itself has an
equals sign in it reaches into the value (`find?_of_get?`).
-/

namespace HostedFiles

/-- Names with their values. -/
structure Environment where
  values : List (String × String)
  deriving DecidableEq

namespace Environment

/-- The value of a name. -/
def get? (e : Environment) (name : String) : Option String :=
  e.values.lookup name

/-- What stands behind a text and an equals sign among the lines `name=value`. -/
def find? (e : Environment) (text : String) : Option String :=
  match Text.splitFirst? '=' text.toList with
  | none => e.get? text
  | some (name, start) =>
    (e.get? (String.ofList name)).bind fun value =>
      (Text.after? (start ++ ['=']) value.toList).map String.ofList

/-- The environment without a name. -/
def unset (e : Environment) (name : String) : Environment :=
  ⟨Rows.erase e.values name⟩

/-- The environment with a value under a name. -/
def set (e : Environment) (name value : String) : Environment :=
  ⟨Rows.put e.values name value⟩

/-- The environment with a value under a name that has none yet. -/
def setIfMissing (e : Environment) (name value : String) : Environment :=
  if (e.get? name).isSome then e else e.set name value

/-- A name that was unset has no value, and other names are as before. -/
theorem get?_unset (e : Environment) (name other : String) :
    (e.unset name).get? other = if other = name then none else e.get? other := by
  simp [get?, unset, Rows.lookup_erase]

/-- A text without an equals sign is looked up as a name. -/
theorem find?_eq_get? (e : Environment) {text : String} (h : '=' ∉ text.toList) :
    e.find? text = e.get? text := by
  simp [find?, Text.splitFirst?_eq_none_iff.2 h]

/-- **A text with an equals sign finds the rest of a value that begins with what is behind it.** -/
theorem find?_of_get? (e : Environment) {name : List Char} (start rest : List Char)
    (hname : '=' ∉ name) (h : e.get? (String.ofList name) =
      some (String.ofList (start ++ '=' :: rest))) :
    e.find? (String.ofList (name ++ '=' :: start)) = some (String.ofList rest) := by
  have hsplit : Text.splitFirst? '=' (name ++ '=' :: start) = some (name, start) :=
    Text.splitFirst?_append hname
  have hafter : Text.after? (start ++ ['=']) (start ++ '=' :: rest) = some rest :=
    Text.after?_eq_some_iff.2 (by simp)
  simp [find?, hsplit, h, hafter]

end Environment

end HostedFiles
