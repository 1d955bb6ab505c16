/-!
# Break — where taking a body in ends early

A body is taken in chunk by chunk and written to a file.  That breaks off when no more chunks can be
read, when the next one cannot be written, and when what was written cannot be kept for good.
-/

namespace HostedFiles

/-- What breaks it off. -/
inductive Break where
  | body (problem : String)
  /-- Behind the chunks that were written, `part` is what was written of the next one. -/
  | write (part : ByteArray) (problem : String)
  | sync (problem : String)

namespace Break

/-- The reason in words, where the body is written to a path. -/
def message (path : String) : Break → String
  | body problem => "Failed to read body: " ++ problem
  | write _ problem => "Failed to write file " ++ path ++ ": " ++ problem
  | sync problem => "Failed to sync file " ++ path ++ ": " ++ problem

/-- Whether the whole body is written before. -/
def isLate : Break → Bool
  | sync _ => true
  | body _ | write .. => false

end Break

end HostedFiles
