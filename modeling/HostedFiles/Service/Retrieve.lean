import HostedFiles.Config.Basic
import HostedFiles.ContentType
import HostedFiles.Service.Answer
import HostedFiles.Store.Retrieval

/-!
# Service/Retrieve — giving a file out

The path behind the upload address, decoded and made safe, names the file.  Every path that names no
stored file gets the same page.
-/

namespace HostedFiles.Service

open Http

/-- The failure of a request for a file that is not there. -/
def fileMissing : Failure := .notFound "The requested file was not found"

/-- The name of the file that a path behind the upload address asks for. -/
def resolvedName? (path : String) : Option String :=
  (Percent.decode? (Text.trimStart (· == '/') path.toList)).bind FileName.sanitize?

/-- The failure of a request for a file that the store does not give. -/
def retrievalFailure : StoreError → Failure
  | .notFound _ | .invalidName _ => fileMissing
  | e => e.failure

/-- The answer that gives a file out. -/
def fileResponse (name : String) (size : Nat) (body : Body) : Response :=
  { status := .ok
    headers :=
      [("content-type", ContentType.ofFileName name), ("content-length", toString size),
       ("x-content-type-options", "nosniff")]
    body }

/-- The body of an opened file, and what is worth a line if it cannot be read. -/
def fileBody (f : StoredFile) : Body × List Log.Event :=
  match f.content with
  | .ok content => (.whole content, [])
  | .error e =>
    let problem := (StoreError.io e.message).message
    (.broken problem, [.readFailed f.name problem])

/-- Answers a request for a file.  With `headOnly` the file is measured and not read. -/
def retrieve (c : Config) (headOnly : Bool) (path : String) (d : Disk) : Answer :=
  match resolvedName? path with
  | none => .ofFailure fileMissing d []
  | some name =>
    if headOnly then
      match Store.size c.storagePath name d with
      | .error e => .ofFailure (retrievalFailure e) d []
      | .ok size =>
        { response := fileResponse name size (.whole ByteArray.empty), disk := d, events := [] }
    else
      match Store.openFile c.storagePath name d with
      | .error e => .ofFailure (retrievalFailure e) d []
      | .ok f =>
        { response := fileResponse name f.size (fileBody f).1, disk := d, events := (fileBody f).2 }

end HostedFiles.Service
