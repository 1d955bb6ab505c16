import HostedFiles.Store.Basic
import HostedFiles.Text.Quoted

/-!
# Store/Retrieval — reading a file

A file is measured, then opened, then read to its end.  Measuring and opening look the path up
separately; what was opened does not change any more.  `StoredFile.between` takes the two looks at
two states of the disk, `Store.openFile` at one.
-/

namespace HostedFiles

/-- An opened file: what it measured, and what reading it gives. -/
structure StoredFile where
  name : String
  size : Nat
  content : Except DiskError ByteArray

namespace Store

/-- The size of the regular file at a path. -/
def measure (path name : String) (d : Disk) : Except StoreError Nat :=
  match d.stat path with
  | .ok entry =>
    match Disk.fileSize? entry with
    | some size => .ok size
    | none => .error (.notFound name)
  | .error .missing => .error (.notFound name)
  | .error e => .error (.io e.message)

/-- What stands at a path when it is opened. -/
def openAt (path name : String) (d : Disk) : Except StoreError Entry :=
  match d.stat path with
  | .ok entry => .ok entry
  | .error .missing => .error (.notFound name)
  | .error e =>
    .error (.downloadFailed ("Failed to open file " ++ path ++ ": " ++ e.message))

/-- The size of a stored file. -/
def size (root name : String) (d : Disk) : Except StoreError Nat := do
  measure (← filePath root name) name d

end Store

/-- A file measured on one disk and opened on another. -/
def StoredFile.between (root name : String) (measured opened : Disk) :
    Except StoreError StoredFile := do
  let path ← Store.filePath root name
  let size ← Store.measure path name measured
  let entry ← Store.openAt path name opened
  return { name, size, content := Disk.contentOf entry }

/-- A stored file as it is shown; its content is not. -/
def StoredFile.shown (f : StoredFile) : String :=
  "StoredFile \x7b filename: " ++ Text.quoted f.name ++ ", size: " ++ toString f.size ++ ", .. \x7d"

/-- A stored file, opened. -/
def Store.openFile (root name : String) (d : Disk) : Except StoreError StoredFile :=
  StoredFile.between root name d d

end HostedFiles
