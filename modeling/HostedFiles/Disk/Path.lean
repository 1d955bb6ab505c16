import HostedFiles.Text.Split

/-!
# Disk/Path — paths as texts

A path is a row of pieces between slashes.  Two readings of it are needed.  As a sequence of
**components** it is compared and cut: doubled slashes, slashes at the end and full stops that are
not in front do not count.  As a sequence of **steps** it is walked on a disk, where also a full
stop and a slash at the end ask for a directory.
-/

namespace HostedFiles.Path

open Text

/-- The pieces of a path between its slashes. -/
def pieces (path : String) : List (List Char) :=
  splitAll '/' path.toList

/-- A path that begins at the root. -/
def isAbsolute (path : String) : Bool :=
  path.toList.head? == some '/'

/-! ## Components -/

/-- What a path says at one place. -/
inductive Component where
  | root
  /-- The directory a path begins in, when it says so. -/
  | here
  | above
  | name (n : String)
  deriving DecidableEq

/-- What a piece that is not the first one says. -/
def component? (piece : List Char) : Option Component :=
  if piece = [] ∨ piece = ['.'] then none
  else if piece = ['.', '.'] then some .above
  else some (.name (String.ofList piece))

/-- What the first piece says; `others` tells whether there are more. -/
def firstComponent (piece : List Char) (others : Bool) : List Component :=
  if piece = [] then (if others then [.root] else [])
  else if piece = ['.'] then [.here]
  else (component? piece).toList

/-- The components of a path. -/
def components (path : String) : List Component :=
  match pieces path with
  | [] => []
  | first :: rest => firstComponent first (!rest.isEmpty) ++ rest.filterMap component?

/-- Two paths with the same components. -/
def same (p q : String) : Bool :=
  components p == components q

/-- The path without slashes at its end; the root stays what it is. -/
def dropEndSlashes (path : String) : String :=
  match trimEnd (· == '/') path.toList with
  | [] => path
  | kept => String.ofList kept

/-! ## Going down and up -/

/-- The path of `name` in the directory `dir`. -/
def join (dir name : String) : String :=
  if dir = "" then name
  else if dir.toList.getLast? = some '/' then dir ++ name
  else dir ++ "/" ++ name

/-- The path that names lead along from the root. -/
def absolute (names : List String) : String :=
  "/" ++ "/".intercalate names

/-- Whether a piece that is not the first one counts for nothing. -/
def isFiller (piece : List Char) : Bool :=
  piece == [] || piece == ['.']

/-- The pieces without those at the end that count for nothing. -/
def dropFiller (rest : List (List Char)) : List (List Char) :=
  (rest.reverse.dropWhile isFiller).reverse

/-- Pieces with slashes between them. -/
def unsplit (pieces : List (List Char)) : String :=
  String.ofList (List.intercalate ['/'] pieces)

/-- The path without its last component, when it has one that is not the root. -/
def parent? (path : String) : Option String :=
  match pieces path with
  | [] => none
  | first :: rest =>
    match dropFiller rest with
    | [] => if first = [] then none else some ""
    | kept =>
      match first, dropFiller kept.dropLast with
      | [], [] => some "/"
      | first, above => some (unsplit (first :: above))

/-- The path and the paths above it, from the inside out, at most `n` of them. -/
def outwardFrom : Nat → String → List String
  | 0, _ => []
  | n + 1, path =>
    if path = "" then []
    else path :: match parent? path with
      | some above => outwardFrom n above
      | none => []

/-- The path and all paths above it, from the inside out. -/
def outward (path : String) : List String :=
  outwardFrom (path.length + 1) path

/-! ## Steps -/

/-- One move on a disk. -/
inductive Step where
  | here
  | up
  | name (n : String)
  deriving DecidableEq

/-- The move that a piece asks for. -/
def step? (piece : List Char) : Option Step :=
  if piece = [] then none
  else if piece = ['.'] then some .here
  else if piece = ['.', '.'] then some .up
  else some (.name (String.ofList piece))

/-- The moves that a path asks for.  A slash at the end asks to stand in a directory. -/
def steps (path : String) : List Step :=
  (pieces path).filterMap step? ++
    (if path.toList.getLast? = some '/' then [.here] else [])

end HostedFiles.Path
