import HostedFiles.Disk.Calls
import HostedFiles.Failure
import HostedFiles.FileName

/-!
# Store — files under a root directory

A stored file lies directly under the root and under its own name.  `filePath` gives its path, and
refuses every name that is not a clean name of a file or that belongs to the directory of unfinished
uploads.
-/

namespace HostedFiles

/-- Why the store cannot do what it is asked. -/
inductive StoreError where
  | uploadFailed (problem : String)
  | downloadFailed (problem : String)
  | notFound (name : String)
  | invalidName (name : String)
  | tooLarge (limit : Nat)
  | io (problem : String)
  | setup (problem : String)
  deriving DecidableEq

namespace StoreError

/-- The reason in words. -/
def message : StoreError → String
  | uploadFailed problem => "Upload failed: " ++ problem
  | downloadFailed problem => "Download failed: " ++ problem
  | notFound name => "File not found: " ++ name
  | invalidName name => "Invalid storage key: " ++ name
  | tooLarge limit => "Upload exceeds the limit of " ++ toString limit ++ " bytes"
  | io problem => "IO error: " ++ problem
  | setup problem => "Configuration error: " ++ problem

/-- The failure of a request for which the store has this reason.  A missing file and a large upload
are the client's doing. -/
def failure : StoreError → Failure
  | notFound name | invalidName name => .notFound ("File not found: " ++ name)
  | tooLarge limit => .payloadTooLarge (tooLarge limit).message
  | e => .storage e.message

end StoreError

namespace Store

/-- The directory under the root that holds unfinished uploads. -/
def partialName : String := ".partial"

/-- The path of the file `name` under a root. -/
def filePath (root name : String) : Except StoreError String :=
  match FileName.sanitize? name with
  | some clean =>
    if clean ≠ name ∨ clean = partialName then .error (.invalidName name)
    else
      let path := Path.join root clean
      match Path.parent? path with
      | some above => if Path.same above root then .ok path else .error (.invalidName name)
      | none => .error (.invalidName name)
  | none => .error (.invalidName name)

/-- The directory of unfinished uploads under a root. -/
def partialPath (root : String) : String :=
  Path.join root partialName

/-- Makes the root and the directory of unfinished uploads, as far as they are missing. -/
def prepare (root : String) (d : Disk) : Except StoreError Unit × Disk :=
  match d.makeDirectories (partialPath root) with
  | (.ok (), d) => (.ok (), d)
  | (.error e, d) =>
    (.error (.setup ("Failed to create storage directory " ++ root ++ ": " ++ e.message)), d)

end Store

end HostedFiles
