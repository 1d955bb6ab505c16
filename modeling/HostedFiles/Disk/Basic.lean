import HostedFiles.Disk.Path
import HostedFiles.Disk.Tree

/-!
# Disk — directories, files and links

A disk tells what stands at each place.  `resolve` walks a path: it follows links inside the path
always, and a link at its end when asked to, up to a fixed number of them.  It ends at something
that exists or at a name that is free.
-/

namespace HostedFiles

/-- What stands at a place. -/
inductive Entry where
  | directory
  | file (content : ByteArray)
  /-- A link and the path it stands for. -/
  | link (target : String)
  /-- A file that is said to be empty and cannot be read. -/
  | unreadable
  /-- A file that is said to be empty, but whose content is made when it is read. -/
  | generated (content : ByteArray)
  /-- Neither a directory nor a file; reading it gives nothing. -/
  | device

/-- Whether a directory stands there. -/
def Entry.isDirectory : Entry → Bool
  | directory => true
  | _ => false

/-- What stands where, and the directory in which relative paths begin. -/
structure Disk where
  entries : Tree Entry
  working : Place

/-- Why the system refuses a call. -/
inductive DiskError where
  | nul
  | missing
  | unreadable
  | exists
  | notDirectory
  | isDirectory
  | nameTooLong
  | tooManyLinks
  deriving DecidableEq

/-- The refusal in words. -/
def DiskError.message : DiskError → String
  | nul => "file name contained an unexpected NUL byte"
  | missing => "No such file or directory (os error 2)"
  | unreadable => "Input/output error (os error 5)"
  | .exists => "File exists (os error 17)"
  | notDirectory => "Not a directory (os error 20)"
  | isDirectory => "Is a directory (os error 21)"
  | nameTooLong => "File name too long (os error 36)"
  | tooManyLinks => "Too many levels of symbolic links (os error 40)"

namespace Disk

/-! ## Places -/

/-- What stands at a place; the root is always a directory. -/
def get? (d : Disk) (p : Place) : Option Entry :=
  if p = [] then some .directory else d.entries.get? p

/-- The disk with nothing at a place. -/
def erase (d : Disk) (p : Place) : Disk :=
  { d with entries := d.entries.erase p }

/-- The disk with `entry` at a place. -/
def put (d : Disk) (p : Place) (entry : Entry) : Disk :=
  { d with entries := d.entries.put p entry }

/-- The disk with nothing at a place or below it. -/
def eraseTree (d : Disk) (p : Place) : Disk :=
  { d with entries := d.entries.prune p }

/-- **What was put at a place is there, and other places are as before.** -/
theorem get?_put (d : Disk) {p : Place} (hp : p ≠ []) (entry : Entry) (q : Place) :
    (d.put p entry).get? q = if q = p then some entry else d.get? q := by
  by_cases hq : q = []
  · simp [get?, hq, Ne.symm hp]
  · simp [get?, put, hq, Tree.get?_put]

/-- **What was erased is gone, and other places are as before.** -/
theorem get?_erase (d : Disk) {p : Place} (hp : p ≠ []) (q : Place) :
    (d.erase p).get? q = if q = p then none else d.get? q := by
  by_cases hq : q = []
  · simp [get?, hq, Ne.symm hp]
  · simp [get?, erase, hq, Tree.get?_erase]

/-- What was at a place or below it is gone with the tree, and other places are as before. -/
theorem get?_eraseTree (d : Disk) {p : Place} (hp : p ≠ []) (q : Place) :
    (d.eraseTree p).get? q = if p.isPrefixOf q then none else d.get? q := by
  by_cases hq : q = []
  · obtain ⟨n, p, rfl⟩ := List.exists_cons_of_ne_nil hp
    simp [get?, hq]
  · simp [get?, eraseTree, hq, Tree.get?_prune]

/-! ## Walking -/

/-- The longest name of an entry, in bytes. -/
def maxNameBytes : Nat := 255

/-- The length from which on a path is refused, in bytes. -/
def maxPathBytes : Nat := 4096

/-- How many links a walk follows. -/
def maxLinks : Nat := 40

/-- Where a walk ends: at something, or at a free name in a directory. -/
inductive Spot where
  | found (place : Place) (entry : Entry)
  | vacant (directory : Place) (name : String)

/-- Where a path begins. -/
def origin (d : Disk) (path : String) : Place :=
  if Path.isAbsolute path then [] else d.working

/-- A place on the way, with what stands there and below it. -/
structure Position (d : Disk) where
  /-- The names that lead to it, the last one first. -/
  back : List String
  branch : Tree Entry
  branch_eq : branch = d.entries.branch back.reverse

namespace Position

variable {d : Disk}

/-- The position at a place. -/
def ofPlace (d : Disk) (p : Place) : Position d where
  back := p.reverse
  branch := d.entries.branch p
  branch_eq := by rw [List.reverse_reverse]

/-- The place of a position. -/
def place (here : Position d) : Place :=
  here.back.reverse

/-- One name further down. -/
def child (here : Position d) (n : String) : Position d where
  back := n :: here.back
  branch := here.branch.child n
  branch_eq := by simp [here.branch_eq, Tree.branch_append]

/-- One directory up; above the root is the root. -/
def parent (here : Position d) : Position d :=
  ofPlace d here.back.tail.reverse

/-- A name further down is a place further down. -/
@[simp] theorem place_child (here : Position d) (n : String) :
    (here.child n).place = here.place ++ [n] := by
  simp [place, child]

/-- A directory up is a place with one name less. -/
@[simp] theorem place_parent (here : Position d) : here.parent.place = here.place.dropLast := by
  simp [place, parent, ofPlace]

/-- The position at a place is at this place. -/
@[simp] theorem place_ofPlace (p : Place) : (ofPlace d p).place = p := by
  simp [place, ofPlace]

/-- **What a position says about a child is what stands there on the disk.** -/
theorem value_child (here : Position d) (n : String) :
    (here.child n).branch.value = d.get? (here.place ++ [n]) := by
  simp [get?, Tree.get?, child, place, here.branch_eq, Tree.branch_append]

end Position

/-- Walks on from a position where `entry` stands.  `onLink` takes over at a link that is followed,
given the directory it stands in, its target, and the steps that remain. -/
def walkOn {d : Disk} (follow : Bool)
    (onLink : Position d → String → List Path.Step → Except DiskError Spot) :
    Position d → Entry → List Path.Step → Except DiskError Spot
  | here, entry, [] => .ok (.found here.place entry)
  | here, entry, step :: rest =>
    if entry.isDirectory then
      match step with
      | .here => walkOn follow onLink here .directory rest
      | .up => walkOn follow onLink here.parent .directory rest
      | .name n =>
        if maxNameBytes < n.utf8ByteSize then .error .nameTooLong
        else match (here.child n).branch.value with
          | none => if rest = [] then .ok (.vacant here.place n) else .error .missing
          | some (.link target) =>
            if rest = [] ∧ ¬ follow then .ok (.found (here.child n).place (.link target))
            else onLink here target rest
          | some next => walkOn follow onLink (here.child n) next rest
    else .error .notDirectory

/-- Walks from a directory and follows at most `n` links. -/
def walk (d : Disk) (follow : Bool) :
    Nat → Position d → List Path.Step → Except DiskError Spot
  | 0, here, steps => walkOn follow (fun _ _ _ => .error .tooManyLinks) here .directory steps
  | n + 1, here, steps =>
    walkOn follow
      (fun directory target rest =>
        walk d follow n (if Path.isAbsolute target then .ofPlace d [] else directory)
          (Path.steps target ++ rest))
      here .directory steps

/-- Why a path is no path at all. -/
def pathFault? (path : String) : Option DiskError :=
  if path.toList.contains '\x00' then some .nul
  else if path = "" then some .missing
  else if maxPathBytes ≤ path.utf8ByteSize then some .nameTooLong
  else none

/-- Where a path leads; `follow` tells whether a link at its end is followed. -/
def resolve (d : Disk) (follow : Bool) (path : String) : Except DiskError Spot :=
  match pathFault? path with
  | some e => .error e
  | none => d.walk follow maxLinks (.ofPlace d (d.origin path)) (Path.steps path)

end Disk

end HostedFiles
