import HostedFiles.Log.Pattern.Class
import HostedFiles.Log.Pattern.Group

/-!
# Log/Pattern — whether a pattern is well formed

A directive may ask for a field whose value matches a regular expression.  No event outside a span
is ever matched against one, so all that counts here is whether the expression is well formed:
groups and classes are closed, signs of repetition have something to repeat, no two groups share a
name, every sign is understood, and nothing nests too deep.  A count in braces cannot occur, since a
brace ends the pattern.
-/

namespace HostedFiles.Log.Pattern

/-! ## Parts -/

/-- A part of a pattern. -/
structure Part where
  /-- How deep it nests. -/
  depth : Nat
  /-- A sign of repetition may follow it. -/
  repeatable : Bool

/-- A group that is open, or the whole pattern. -/
structure Body where
  /-- The options at the place that is reached. -/
  options : Options
  /-- The depths of the finished branches. -/
  branches : List Nat := []
  /-- The parts of the branch that is read, the last one first. -/
  parts : List Part := []

namespace Body

/-- The body with one more part. -/
def add (b : Body) (part : Part) : Body :=
  { b with parts := part :: b.parts }

/-- The depths of all branches. -/
def allBranches (b : Body) : List Nat :=
  depthOfAll (b.parts.map (·.depth)) :: b.branches

/-- The body after a stroke: another branch begins. -/
def branch (b : Body) : Body :=
  { b with branches := b.allBranches, parts := [] }

/-- How deep the content of a body nests. -/
def depth (b : Body) : Nat :=
  depthOfAll b.allBranches

/-- The body whose last part is repeated, if it can be. -/
def repeatLast? (b : Body) : Option Body :=
  match b.parts with
  | ⟨depth, true⟩ :: parts => some { b with parts := ⟨depth + 1, true⟩ :: parts }
  | _ => none

end Body

/-! ## Patterns -/

/-- How deep the rest of a pattern nests, where `b` is the last open group, `outer` are those around
it and `names` have been given; nothing if the rest is not well formed. -/
def readDepth? : (fuel : Nat) → (names : List (List Char)) → (outer : List Body) → (b : Body) →
    List Char → Option Nat
  | 0, _, _, _, _ => none
  | fuel + 1, names, outer, b, s =>
    match b.options.skip s with
    | [] => if outer.isEmpty then some b.depth else none
    | '(' :: rest =>
      let enter (names : List (List Char)) (options : Options) (rest : List Char) :=
        readDepth? fuel names (b :: outer) { options } rest
      match readOpening? b.options rest with
      | some (.group, rest) => enter names b.options rest
      | some (.named name, rest) =>
        if names.contains name then none else enter (name :: names) b.options rest
      | some (.within options, rest) => enter names options rest
      | some (.setting options, rest) =>
        readDepth? fuel names outer { b.add ⟨0, false⟩ with options } rest
      | none => none
    | ')' :: rest =>
      match outer with
      | [] => none
      | b' :: outer => readDepth? fuel names outer (b'.add ⟨b.depth + 1, true⟩) rest
    | '|' :: rest => readDepth? fuel names outer b.branch rest
    | '*' :: rest | '+' :: rest | '?' :: rest =>
      b.repeatLast?.bind fun b =>
        match rest with
        | '?' :: rest => readDepth? fuel names outer b rest
        | _ => readDepth? fuel names outer b rest
    | '[' :: rest =>
      (intoClass? b.options rest).bind fun rest =>
        (readClass? b.options fuel [] {} rest).bind fun (depth, rest) =>
          readDepth? fuel names outer (b.add ⟨depth, true⟩) rest
    | '\x7b' :: _ => none
    | s =>
      (readSign? b.options s).bind fun (sign, rest) =>
        if sign.isAllowed b.options then readDepth? fuel names outer (b.add ⟨0, true⟩) rest
        else none

/-- How deep a pattern may nest. -/
def maxDepth : Nat := 250

/-- Whether a pattern is well formed. -/
def isWellFormed (s : List Char) : Bool :=
  (readDepth? (s.length + 1) [] [] { options := {} } s).any (· ≤ maxDepth)

end HostedFiles.Log.Pattern
