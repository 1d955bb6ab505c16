import HostedFiles.Log.Pattern.Sign
import HostedFiles.Text.Alphanumeric
import HostedFiles.Text.Split

/-!
# Log/Pattern/Group — how a parenthesis begins

Behind an opening parenthesis a question mark gives the group a name, or switches options on and
off: for the group, or for all that follows up to the end of the group around it.
-/

namespace HostedFiles.Log.Pattern

open Text

/-- What an opening parenthesis begins. -/
inductive Opening where
  /-- A group. -/
  | group
  /-- A group with a name. -/
  | named (name : List Char)
  /-- A group in which options are set. -/
  | within (o : Options)
  /-- No group: options are set for what follows. -/
  | setting (o : Options)

/-- Whether a text may name a group. -/
def isName : List Char → Bool
  | [] => false
  | c :: rest =>
    (c == '_' || isAlphabetic c) &&
      rest.all fun c => c == '_' || c == '.' || c == '[' || c == ']' || isAlphanumeric c

/-- A name up to the angle bracket that closes it, and the rest. -/
def readName? (s : List Char) : Option (List Char × List Char) :=
  (splitFirst? '>' s).bind fun r => if isName r.1 then some r else none

/-- The letters of options, and the minus sign before those that are switched off. -/
def optionSigns : List Char :=
  ['i', 'm', 's', 'U', 'u', 'R', 'x', '-']

/-- Whether a text switches options: each at most once, and at least one behind a minus sign. -/
def areOptions (s : List Char) : Bool :=
  s.all optionSigns.contains && optionSigns.all (fun c => s.count c ≤ 1) && s.getLast? != some '-'

/-- The options after letters before a minus sign switch them on and letters behind it off. -/
def Options.switch (o : Options) (s : List Char) : Options :=
  let on := upTo (· == '-') s
  let value (letter : Char) (old : Bool) := if s.contains letter then on.contains letter else old
  { spaced := value 'x' o.spaced
    anyCase := value 'i' o.anyCase
    characters := value 'u' o.characters }

/-- What a parenthesis begins, and the rest.  The parenthesis is read. -/
def readOpening? (o : Options) (s : List Char) : Option (Opening × List Char) :=
  match o.skip s with
  | '?' :: 'P' :: '<' :: rest | '?' :: '<' :: rest =>
    (readName? rest).map fun r => (.named r.1, r.2)
  | '?' :: rest =>
    let letters := upTo (fun c => c == ':' || c == ')') rest
    if areOptions letters then
      match rest.drop letters.length with
      | ':' :: rest => some (.within (o.switch letters), rest)
      | ')' :: rest => if letters = [] then none else some (.setting (o.switch letters), rest)
      | _ => none
    else none
  | s => some (.group, s)

end HostedFiles.Log.Pattern
