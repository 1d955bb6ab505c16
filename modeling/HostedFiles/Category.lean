import HostedFiles.FileName

/-!
# Category — what kind of file a name announces

Six kinds, told apart by the extension alone.  A name without an extension is of unknown kind; an
extension that no table names makes a binary file.
-/

namespace HostedFiles

/-- A kind of file. -/
inductive Category where
  | image
  | text
  | document
  | archive
  | binary
  | unknown
  deriving DecidableEq

namespace Category

/-- All kinds. -/
def all : List Category :=
  [image, text, document, archive, binary, unknown]

/-- The word for a kind. -/
def name : Category → String
  | image => "image"
  | text => "text"
  | document => "document"
  | archive => "archive"
  | binary => "binary"
  | unknown => "unknown"

/-- The kind that a word names. -/
def ofName? (word : String) : Option Category :=
  all.find? fun category => category.name == word

/-- **Every kind is named by its word.** -/
@[simp] theorem ofName?_name (category : Category) : ofName? category.name = some category := by
  cases category <;> decide

/-- The extensions of each kind that has any. -/
def extensions : List (Category × List String) :=
  [(image, ["png", "jpg", "jpeg", "gif", "webp", "bmp", "svg", "ico", "tif", "tiff", "avif"]),
   (text, ["txt", "md", "log", "csv", "json", "xml", "html", "htm", "yaml", "yml", "ini"]),
   (document, ["pdf", "doc", "docx", "odt", "rtf", "xls", "xlsx", "ods", "ppt", "pptx", "odp",
     "epub"]),
   (archive, ["zip", "tar", "gz", "tgz", "bz2", "xz", "zst", "7z", "rar"])]

/-- The kind of a file with this extension. -/
def ofExtension (extension : String) : Category :=
  match extensions.find? fun row => row.2.contains extension with
  | some row => row.1
  | none => binary

/-- The kind of a file with this name. -/
def ofFileName (name : String) : Category :=
  match FileName.extension? name with
  | some extension => ofExtension extension
  | none => unknown

end Category

end HostedFiles
