import HostedFiles.Disk.Basic

/-!
# Disk/Calls — what is asked of a disk

Each call is one step that happens as a whole or not at all.  A file is written through the place
where it was created, and read from what stood at its path when it was opened.
-/

namespace HostedFiles.Disk

/-! ## Looking -/

/-- What stands at the end of a path, links followed. -/
def stat (d : Disk) (path : String) : Except DiskError Entry :=
  match d.resolve true path with
  | .ok (.found _ entry) => .ok entry
  | .ok (.vacant ..) => .error .missing
  | .error e => .error e

/-- Whether a path leads to a directory. -/
def isDirectory (d : Disk) (path : String) : Bool :=
  match d.stat path with
  | .ok .directory => true
  | _ => false

/-- The content of what was opened. -/
def contentOf : Entry → Except DiskError ByteArray
  | .file content | .generated content => .ok content
  | .directory => .error .isDirectory
  | .unreadable => .error .unreadable
  | .device | .link _ => .ok ByteArray.empty

/-- The content at the end of a path. -/
def read (d : Disk) (path : String) : Except DiskError ByteArray := do
  contentOf (← d.stat path)

/-- The stated size of a regular file, or nothing for what is none. -/
def fileSize? : Entry → Option Nat
  | .file content => some content.size
  | .unreadable | .generated _ => some 0
  | _ => none

/-! ## Directories -/

/-- Makes one directory.  Slashes at the end of its path do not count. -/
def makeDirectory (d : Disk) (path : String) : Except DiskError Disk :=
  match d.resolve false (Path.dropEndSlashes path) with
  | .ok (.found ..) => .error .exists
  | .ok (.vacant directory name) => .ok (d.put (directory ++ [name]) .directory)
  | .error e => .error e

/-- What it leads to when a path cannot be made a directory: nothing, if it is one already. -/
def orDirectory (d : Disk) (path : String) (e : DiskError) : Except DiskError Unit × Disk :=
  (if d.isDirectory path then .ok () else .error e, d)

/-- Makes the first of the paths, where each following path is the directory of the one before it,
and first those of them that are missing.  A directory that is there already will do. -/
def makeInside : List String → Disk → Except DiskError Unit × Disk
  | [], d => (.ok (), d)
  | path :: above, d =>
    match d.makeDirectory path with
    | .ok d => (.ok (), d)
    | .error .missing =>
      match makeInside above d with
      | (.error e, d) => (.error e, d)
      | (.ok (), d) =>
        match d.makeDirectory path with
        | .ok d => (.ok (), d)
        | .error e => d.orDirectory path e
    | .error e => d.orDirectory path e

/-- Makes a directory and those above it that are missing.  The empty path asks for none. -/
def makeDirectories (d : Disk) (path : String) : Except DiskError Unit × Disk :=
  if path = "" then (.ok (), d)
  else match pathFault? path with
    | some e => (.error e, d)
    | none => makeInside (Path.outward path) d

/-! ## Files -/

/-- Creates an empty file, or empties the one that is there, and says where it is. -/
def createFile (d : Disk) (path : String) : Except DiskError (Place × Disk) :=
  match d.resolve true path with
  | .ok (.found place (.file _)) => .ok (place, d.put place (.file ByteArray.empty))
  | .ok (.found _ .directory) => .error .isDirectory
  | .ok (.found place _) => .ok (place, d)
  | .ok (.vacant directory name) =>
    .ok (directory ++ [name], d.put (directory ++ [name]) (.file ByteArray.empty))
  | .error e => .error e

/-- Adds bytes to the file at a place. -/
def append (d : Disk) (place : Place) (bytes : ByteArray) : Disk :=
  match d.get? place with
  | some (.file content) => d.put place (.file (content ++ bytes))
  | _ => d

/-- Removes a file or a link. -/
def removeFile (d : Disk) (path : String) : Except DiskError Disk :=
  match d.resolve false path with
  | .ok (.found _ .directory) => .error .isDirectory
  | .ok (.found place _) => .ok (d.erase place)
  | .ok (.vacant ..) => .error .missing
  | .error e => .error e

/-- Moves a file to a path.  It takes the place of a file or link there, but not of a directory. -/
def rename (d : Disk) (source target : String) : Except DiskError Disk :=
  match d.resolve false source with
  | .ok (.found place entry) =>
    match d.resolve false target with
    | .ok (.found _ .directory) => .error .isDirectory
    | .ok (.found other _) => .ok ((d.erase place).put other entry)
    | .ok (.vacant directory name) => .ok ((d.erase place).put (directory ++ [name]) entry)
    | .error e => .error e
  | .ok (.vacant ..) => .error .missing
  | .error e => .error e

/-! ## Whole trees -/

/-- Writes a whole file; the directories above it are made as needed. -/
def writeFile (d : Disk) (path : String) (content : ByteArray) : Except DiskError Disk := do
  let d := match Path.parent? path with
    | some above => (d.makeDirectories above).2
    | none => d
  let (place, d) ← d.createFile path
  return d.append place content

/-- Makes a link; the directories above it are made as needed. -/
def makeLink (d : Disk) (path target : String) : Except DiskError Disk := do
  let d := match Path.parent? path with
    | some above => (d.makeDirectories above).2
    | none => d
  match ← d.resolve false path with
  | .found .. => .error .exists
  | .vacant directory name => .ok (d.put (directory ++ [name]) (.link target))

/-- Removes a file or link, or a directory with all it holds. -/
def removeTree (d : Disk) (path : String) : Except DiskError Disk := do
  match ← d.resolve false path with
  | .found place _ => .ok (d.eraseTree place)
  | .vacant .. => .error .missing

/-- The entries below a place with their paths from there; the path of a directory ends in a slash.
The order is that of the paths' characters. -/
def listing (d : Disk) (p : Place) : List (String × Entry) :=
  let paths := (d.entries.branch p).toList.filterMap fun e =>
    if e.1 = [] then none
    else
      let path := String.intercalate "/" e.1
      some (if e.2.isDirectory then path ++ "/" else path, e.2)
  paths.mergeSort fun a b => decide (a.1 ≤ b.1)

end HostedFiles.Disk
