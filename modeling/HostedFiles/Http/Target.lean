import HostedFiles.Text.Split

/-!
# Http/Target — the target of a request

A target is a path with perhaps a query behind a question mark; a fragment is dropped.  In front of
the path a scheme and an authority may stand.
-/

namespace HostedFiles.Http

open Text

/-- The path of a target, and its query if it has one. -/
structure Target where
  path : String
  query : Option String
  deriving DecidableEq

namespace Target

/-- What follows the first occurrence of `part`. -/
def afterFirst? (part : List Char) : List Char → Option (List Char)
  | [] => none
  | c :: s =>
    match after? part (c :: s) with
    | some rest => some rest
    | none => afterFirst? part s

/-- A character that ends an authority. -/
def endsAuthority (c : Char) : Bool :=
  c == '/' || c == '?'

/-- The target that begins with a path. -/
def ofPath (s : List Char) : Target :=
  match splitFirst? '?' s with
  | some (path, query) => { path := String.ofList path, query := some (String.ofList query) }
  | none => { path := String.ofList s, query := none }

/-- The target that a text names. -/
def ofText (text : String) : Target :=
  let s := upTo (· == '#') text.toList
  match s with
  | '/' :: _ => ofPath s
  | ['*'] => ofPath s
  | _ =>
    match afterFirst? "://".toList s with
    | some rest =>
      let target := ofPath (rest.dropWhile fun c => !endsAuthority c)
      { target with path := if target.path = "" then "/" else target.path }
    | none => { path := "", query := none }

end Target

end HostedFiles.Http
