import HostedFiles.Metadata
import HostedFiles.Proofs.Json.Written
import Mathlib.Tactic.SplitIfs

/-!
# Proofs/Tag/Records — a record is read back from what is written

A record is written as an object of two members or three, one for the file name if there is one
(`writtenChars_eq_writtenObject`), and its members say what the record says (`ofJson?_members`).  So
it is read back, whatever characters its texts hold, and a text belongs to one record at most
(`readBack_written`).
-/

namespace HostedFiles

/-! ## Characters of a written text -/

namespace Json

/-- A character is written without control characters of the ASCII half, save delete. -/
theorem toNat_of_mem_escape {c d : Char} (h : d ∈ escape c) : 32 ≤ d.toNat := by
  have hpair : ∀ sign, 32 ≤ sign.toNat → d ∈ ['\\', sign] → 32 ≤ d.toNat := by
    rintro sign hsign hmem
    rw [List.mem_cons, List.mem_singleton] at hmem
    rcases hmem with rfl | rfl
    · decide
    · exact hsign
  have hdigit : ∀ n < 16, 32 ≤ (smallHexDigit n).toNat := by decide
  rw [escape] at h
  split_ifs at h
  -- Seven characters have a sign of their own behind the backslash.
  iterate 7 exact hpair _ (by decide) h
  · simp only [List.mem_cons, List.not_mem_nil, or_false, or_self_left] at h
    rcases h with rfl | rfl | rfl | rfl | rfl
    · decide
    · decide
    · decide
    · exact hdigit _ (by omega)
    · exact hdigit _ (by omega)
  · obtain rfl := List.mem_singleton.1 h
    omega

/-- So is a text. -/
theorem toNat_of_mem_quote {s : String} {d : Char} (h : d ∈ quote s) : 32 ≤ d.toNat := by
  rw [quote, List.mem_append, List.mem_cons, List.mem_singleton, List.mem_flatMap] at h
  rcases h with (rfl | ⟨c, -, hd⟩) | rfl
  · decide
  · exact toNat_of_mem_escape hd
  · decide

/-- So is a field that holds a text. -/
theorem Field.toNat_of_mem_ofText {name value : String} {d : Char}
    (h : d ∈ (Field.ofText name value).chars) : 32 ≤ d.toNat := by
  rw [Field.chars, List.mem_append, List.mem_cons] at h
  rcases h with h | rfl | h
  · exact toNat_of_mem_quote h
  · decide
  · exact toNat_of_mem_quote h

/-- What is put between fields is no control character either. -/
theorem toNat_of_mem_writtenBehind {others : List Field} {d : Char}
    (hfields : ∀ f ∈ others, ∀ d ∈ f.chars, 32 ≤ d.toNat) (h : d ∈ writtenBehind others) :
    32 ≤ d.toNat := by
  induction others with
  | nil =>
    obtain rfl := List.mem_singleton.1 h
    decide
  | cons f others ih =>
    rw [writtenBehind, List.cons_append, List.mem_cons, List.mem_append] at h
    rcases h with rfl | h | h
    · decide
    · exact hfields f List.mem_cons_self d h
    · exact ih (fun g hg => hfields g (List.mem_cons_of_mem _ hg)) h

/-- Nor is what an object begins with. -/
theorem toNat_of_mem_writtenObject {first : Field} {others : List Field} {d : Char}
    (hfields : ∀ f ∈ first :: others, ∀ d ∈ f.chars, 32 ≤ d.toNat)
    (h : d ∈ writtenObject first others) : 32 ≤ d.toNat := by
  rw [writtenObject, List.cons_append, List.mem_cons, List.mem_append] at h
  rcases h with rfl | h | h
  · decide
  · exact hfields first List.mem_cons_self d h
  · exact toNat_of_mem_writtenBehind (fun g hg => hfields g (List.mem_cons_of_mem _ hg)) h

end Json

namespace Metadata

variable {m other : Metadata} {s : String}

/-! ## Records as objects -/

/-- The members that a record is read from. -/
def members (m : Metadata) : List (Except Json.Fault String × Json) :=
  (.ok "url", .text (.ok m.url)) ::
    (m.filename.toList.map (fun name => (.ok "filename", .text (.ok name))) ++
      [(.ok "type", .text (.ok m.category.name))])

/-- A record is written as an object of its fields. -/
theorem writtenChars_eq_writtenObject (m : Metadata) : m.writtenChars =
    Json.writtenObject (.ofText "url" m.url)
      (m.filename.toList.map (Json.Field.ofText "filename") ++
        [.ofText "type" m.category.name]) := by
  have hurl : "\x7b\"url\":".toList = '\x7b' :: (Json.quote "url" ++ [':']) := by decide
  have hfilename : ",\"filename\":".toList = ',' :: (Json.quote "filename" ++ [':']) := by decide
  have htype : ",\"type\":".toList = ',' :: (Json.quote "type" ++ [':']) := by decide
  unfold writtenChars Json.writtenObject
  rw [hurl, htype]
  cases m.filename with
  | none =>
    simp only [Option.toList_none, List.map_nil, Json.writtenBehind, Json.Field.chars,
      Json.Field.ofText, List.append_assoc, List.cons_append, List.nil_append]
  | some name =>
    rw [hfilename]
    simp only [Option.toList_some, List.map_cons, List.map_nil, Json.writtenBehind,
      Json.Field.chars, Json.Field.ofText, List.append_assoc, List.cons_append, List.nil_append]

/-- **What is written is an object with the members of the record**, in their order. -/
theorem json_written (m : Metadata) : Json.ofText? m.written = some (.object m.members) := by
  rw [written, writtenChars_eq_writtenObject, Json.ofText?_writtenObject]
  cases hname : m.filename <;> simp [members, hname, Json.Field.member, Json.Field.ofText]

/-- **The members of a record say what the record says.** -/
theorem ofJson?_members (m : Metadata) : ofJson? (.object m.members) = some m := by
  obtain ⟨url, filename, category⟩ := m
  have hname : (Json.text (.ok category.name)).word? = some category.name := rfl
  cases filename with
  | none =>
    change (Category.ofName? category.name).bind _ = _
    rw [Category.ofName?_name]
    rfl
  | some name =>
    change (Category.ofName? category.name).bind _ = _
    rw [Category.ofName?_name]
    rfl

/-! ## Reading and writing -/

theorem ofText?_written (m : Metadata) : ofText? m.written = some m := by
  rw [ofText?, json_written, Option.bind_some, ofJson?_members]

/-- A text of a record: the one that is written, or any that the record is read from. -/
def HasText (m : Metadata) (s : String) : Prop :=
  s = m.written ∨ ofText? s = some m

/-- The texts of a record are those that it is read from. -/
theorem hasText_iff : m.HasText s ↔ ofText? s = some m :=
  ⟨fun h => h.elim (fun hs => hs ▸ ofText?_written m) id, .inr⟩

/-- **A record is read back from what is written**, an object with the members of the record, and
from whatever text it was read: writing it and reading it again makes no difference.  So no text
belongs to two records. -/
theorem readBack_written (m : Metadata) :
    Json.ofText? m.written = some (.object m.members) ∧
      ofText? m.written = some m ∧
      (∀ s, ofText? s = some m → ofText? m.written = ofText? s) ∧
      ∀ s other, m.HasText s → other.HasText s → other = m := by
  refine ⟨json_written m, ofText?_written m, fun s hs => ?_, fun s other hm hother => ?_⟩
  · rw [hs, ofText?_written]
  · rw [hasText_iff] at hm hother
    exact Option.some.inj (hother.symm.trans hm)

end Metadata

namespace Sample

/-- A text that spells characters out, in another order than they are written in, and says more than
a record asks for. -/
def respelled : String :=
  " \x7b\"type\":\x7b\"text\":null\x7d, \"n\":[], \"filename\":\"\\u0001\\/\", " ++
    "\"url\":\"\\ud83d\\ude00\\u0022\"\x7d"

/-- The record that it stands for. -/
def smiling : Metadata where
  url := "😀\""
  filename := some "\x01/"
  category := .text

end Sample

open Sample in
/-- It is no longer the text that was read, and the record is the same. -/
theorem Metadata.readBack_respelled :
    ofText? respelled = some smiling ∧ smiling.written ≠ respelled ∧
      ofText? smiling.written = ofText? respelled ∧
      ∀ other : Metadata, other.HasText respelled → other = smiling := by
  have hread : ofText? respelled = some smiling := by decide +kernel
  obtain ⟨-, -, hagain, hone⟩ := readBack_written smiling
  refine ⟨hread, ?_, hagain _ hread, fun other => hone _ other (.inr hread)⟩
  decide

/-! ## Characters of a written record -/

/-- **Nothing below a space gets into a written record.** -/
theorem Metadata.toNat_of_mem_written {m : Metadata} {c : Char} (h : c ∈ m.written.toList) :
    32 ≤ c.toNat := by
  rw [written, String.toList_ofList, writtenChars_eq_writtenObject] at h
  refine Json.toNat_of_mem_writtenObject (fun f hf d hd => ?_) h
  rw [List.mem_cons, List.mem_append, List.mem_map, List.mem_singleton] at hf
  rcases hf with rfl | ⟨name, -, rfl⟩ | rfl <;> exact Json.Field.toNat_of_mem_ofText hd

end HostedFiles
