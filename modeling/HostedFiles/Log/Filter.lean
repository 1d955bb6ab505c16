import HostedFiles.Log.Directive

/-!
# Log/Filter — which lines are shown

A filter is a row of directives.  Of those that concern an event the most exact one decides; an
event that none concerns is not shown.
-/

namespace HostedFiles.Log

open Text

/-- A row of directives. -/
structure Filter where
  directives : List Directive
  deriving DecidableEq

namespace Filter

/-- The filter where none is asked for. -/
def standard : Filter :=
  ⟨[{ beginning := "filehost".toList, verbosity := .debug },
    { beginning := "tower_http".toList, verbosity := .debug }]⟩

/-- The filter where nothing is asked for: errors alone. -/
def errorsOnly : Filter :=
  ⟨[{ verbosity := .error }]⟩

/-- The filter that a text describes. -/
def ofText? (text : String) : Option Filter :=
  match (splitAll ',' text.toList).filter (· ≠ []) with
  | [] => some errorsOnly
  | pieces => (pieces.mapM Directive.ofText?).map Filter.mk

/-- The filter of a setting that may be missing; one that makes no sense counts as missing. -/
def ofSetting (setting : Option String) : Filter :=
  (setting.bind ofText?).getD standard

/-- The one of two directives that decides. -/
def stronger (earlier : Option Directive) (later : Directive) : Option Directive :=
  match earlier with
  | some e => if later.winsOver e then some later else some e
  | none => some later

/-- Whether an event of a part and a level with fields of given names is shown. -/
def shows (filter : Filter) (part : String) (fields : List String) (level : Level) : Bool :=
  match (filter.directives.filter fun d => d.concerns part fields).foldl stronger none with
  | some directive => directive.verbosity.shows level
  | none => false

end Filter

end HostedFiles.Log
