import HostedFiles.Disk.Calls
import HostedFiles.Environment.Basic
import HostedFiles.Environment.Value

/-!
# Environment/File — settings files

A settings file holds a name and a value on each line.  Its lines are taken one by one, each seeing
what the lines before it set, up to the first line that breaks the rules.  A file either fills in
what is missing or overrides what is there.
-/

namespace HostedFiles.EnvFile

open Text

/-! ## One line -/

/-- The rest of a line, and how many bytes of it were read. -/
structure Cursor where
  rest : List Char
  read : Nat

namespace Cursor

/-- The cursor behind the characters in front that satisfy `p`. -/
def skip (c : Cursor) (p : Char → Bool) : Cursor :=
  ⟨c.rest.dropWhile p, c.read + byteLength (c.rest.takeWhile p)⟩

/-- The cursor behind an equals sign. -/
def equals? (c : Cursor) : Option Cursor :=
  match c.rest with
  | '=' :: rest => some ⟨rest, c.read + 1⟩
  | _ => none

end Cursor

/-- A character that a name begins with. -/
def beginsName (c : Char) : Bool :=
  isAsciiLetter c || c == '_'

/-- A character of a name. -/
def isNameChar (c : Char) : Bool :=
  isAsciiAlphanumeric c || c == '_' || c == '.'

/-- The name in front, and the cursor behind it and the blanks that follow. -/
def readName? (c : Cursor) : Option (List Char × Cursor) :=
  match c.rest with
  | first :: _ =>
    if beginsName first then
      some (c.rest.takeWhile isNameChar, (c.skip isNameChar).skip isBlank)
    else none
  | [] => none

/-- Whether nothing more is said on a line. -/
def saysNothing : List Char → Bool
  | [] => true
  | c :: _ => c == '#'

/-- The name on a line and the cursor behind the equals sign; a line may begin with `export`.  An
error tells how far the line was read. -/
def readTarget (c : Cursor) : Except Nat (List Char × Cursor) :=
  match readName? c with
  | none => .error c.read
  | some (name, behind) =>
    match behind.equals? with
    | some value => .ok (name, value)
    | none =>
      if name = "export".toList then
        match readName? behind with
        | none => .error behind.read
        | some (name, behind) =>
          match behind.equals? with
          | some value => .ok (name, value)
          | none => .error behind.read
      else .error behind.read

/-- What a line sets, if anything. -/
def readLine (lookup : String → String) (line : List Char) :
    Except Fault (Option (String × String)) :=
  let c := Cursor.skip ⟨trimEnd isBlank line, 0⟩ isBlank
  if saysNothing c.rest then .ok none
  else match readTarget c with
    | .error index => .error (.badLine (String.ofList line) index)
    | .ok (name, behind) =>
      let rest := (behind.skip isBlank).rest
      if saysNothing rest then .ok (some (String.ofList name, ""))
      else (value lookup rest).map fun value => some (String.ofList name, value)

/-! ## Whole files -/

/-- Whether what a file sets replaces what was set before. -/
inductive Mode where
  | fillIn
  | override
  deriving DecidableEq

/-- The environment with what a line sets. -/
def Mode.put (mode : Mode) (e : Environment) (name value : String) : Environment :=
  match mode with
  | fillIn => e.setIfMissing name value
  | override => e.set name value

/-- Takes lines one by one up to the first fault. -/
def applyLines (mode : Mode) :
    List (Except Fault (List Char)) → Environment → Except Fault Unit × Environment
  | [], e => (.ok (), e)
  | .error fault :: _, e => (.error fault, e)
  | .ok line :: rest, e =>
    match readLine (fun name => (e.find? name).getD "") line with
    | .error fault => (.error fault, e)
    | .ok none => applyLines mode rest e
    | .ok (some (name, value)) => applyLines mode rest (mode.put e name value)

/-- The environment with what a file sets. -/
def apply (mode : Mode) (content : List UInt8) (e : Environment) :
    Except Fault Unit × Environment :=
  applyLines mode (lines content) e

/-- Why a settings file could not be taken in. -/
inductive Problem where
  | disk (e : DiskError)
  | fault (f : Fault)
  deriving DecidableEq

/-- The reason in words, from the outside in.  What the system says is said twice. -/
def Problem.causes : Problem → List String
  | disk e => [e.message, e.message]
  | fault .notText => [Fault.notText.message, Fault.notText.message]
  | fault f => [f.message]

/-- Takes in the settings file at a path. -/
def load (mode : Mode) (path : String) (d : Disk) (e : Environment) :
    Except Problem Unit × Environment :=
  match d.read path with
  | .error problem => (.error (.disk problem), e)
  | .ok content =>
    match apply mode content.toList e with
    | (.error fault, e) => (.error (.fault fault), e)
    | (.ok (), e) => (.ok (), e)

/-! ## The file that is looked for -/

/-- The name of the settings file that is looked for. -/
def defaultName : String := ".env"

/-- The first settings file in directories.  What is no regular file is passed over; if the system
refuses to look at a path where something may stand, the search is over. -/
def findIn (d : Disk) : List String → Except DiskError String
  | [] => .error .missing
  | directory :: rest =>
    let path := Path.join directory defaultName
    match d.stat path with
    | .ok entry => if (Disk.fileSize? entry).isSome then .ok path else findIn d rest
    | .error .missing => findIn d rest
    | .error problem => .error problem

/-- The settings file of the working directory, or else of the nearest directory above it that has
one. -/
def find (d : Disk) : Except DiskError String :=
  match d.get? d.working with
  | some .directory => findIn d (Path.outward (Path.absolute d.working))
  | _ => .error .missing

/-- Takes in the settings file that is found, as far as that goes; that there is none or that it
breaks the rules is no fault. -/
def loadDefault (mode : Mode) (d : Disk) (e : Environment) : Environment :=
  match find d with
  | .ok path => (load mode path d e).2
  | .error _ => e

end HostedFiles.EnvFile
