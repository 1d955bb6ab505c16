import HostedFiles.Encoding.Percent
import HostedFiles.Text.Split

/-!
# Encoding/Form — fields of a query

A query is a row of fields between ampersands.  A field is cut at its first equals sign; in its name
and in its value a plus sign is a space and percent signs are read as in `Encoding/Percent`.  Bytes
that are no text leave replacement characters.
-/

namespace HostedFiles.Form

open Text

/-- A name or value as it is meant. -/
def decode (s : List Char) : String :=
  lossy (Percent.decodeBytes (s.map fun c => if c = '+' then ' ' else c))

/-- One field: what stands before its first equals sign, and what stands after it. -/
def field (s : List Char) : String × String :=
  match splitFirst? '=' s with
  | some (name, value) => (decode name, decode value)
  | none => (decode s, "")

/-- The fields of a query, in order.  Nothing between two ampersands is no field. -/
def fields (s : List Char) : List (String × String) :=
  ((splitAll '&' s).filter (· ≠ [])).map field

/-- **A text that no sign needs decoding in stands for itself.** -/
theorem decode_of_plain {s : List Char} (h : ∀ c ∈ s, c ≠ '%' ∧ c ≠ '+') :
    decode s = String.ofList s := by
  have hmap : s.map (fun c => if c = '+' then ' ' else c) = s :=
    (List.map_congr_left fun c hc => if_neg (h c hc).2).trans (List.map_id s)
  have hbytes : ∀ l : List Char, (∀ c ∈ l, c ≠ '%') →
      Percent.decodeBytes l = l.flatMap String.utf8EncodeChar := by
    intro l hl
    induction l with
    | nil => rfl
    | cons c l ih =>
      simp only [List.mem_cons, forall_eq_or_imp] at hl
      rw [Percent.decodeBytes_cons_of_ne hl.1, ih hl.2, List.flatMap_cons]
  have hb := hbytes s fun c hc => (h c hc).1
  rw [decode, hmap, hb]
  simpa [bytes] using lossy_bytes (String.ofList s)

end HostedFiles.Form
