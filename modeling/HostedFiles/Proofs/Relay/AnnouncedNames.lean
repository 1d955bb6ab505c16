import HostedFiles.Proofs.Relay.Truthfulness
import HostedFiles.Proofs.Service.Uploads

/-!
# Proofs/Relay/AnnouncedNames — which announced files can be stored

The name in a link is a clean one, but a clean name is not yet one that files are stored under: the
directory of unfinished uploads has a clean name as well.  So a link leads to a file that can be
stored unless it names that directory (`isStored_filename_iff`), and a message that names it is
announced like any other.
-/

namespace HostedFiles

open Relay Service

variable {text publicUrl name : String} {link : Link}

/-! ## Names that nothing is stored under -/

/-- A name that is refused everywhere: the store has no path for it under any root, and no request
is accepted under it. -/
structure Refused (name : String) : Prop where
  store : ∀ root, Store.filePath root name = .error (.invalidName name)
  upload : ∀ c r fresh, Fresh.Proper fresh → checkUpload c r fresh ≠ .ok name

/-- **Refused are the names that the store takes no file under.** -/
theorem refused_iff : Refused name ↔ ¬ Store.IsStored name := by
  constructor
  · intro h hstored
    have hpath := Store.filePath_of_isStored hstored ""
    rw [h.store] at hpath
    cases hpath
  · exact fun h => ⟨Store.filePath_of_not_isStored h,
      fun c r fresh hproper hcheck => h (isStored_of_checkUpload hproper hcheck).1⟩

/-! ## Names in links -/

/-- The name in a link is clean. -/
theorem Link.sanitize?_filename (h : Link.first? text publicUrl = some link) :
    FileName.sanitize? link.filename = some link.filename := by
  obtain ⟨-, -, path, -, -, hname, -⟩ := Link.exists_of_first? h
  obtain ⟨decoded, -, hclean⟩ := Option.bind_eq_some_iff.1 hname
  exact FileName.sanitize?_of_sanitize? hclean

/-- **A link names a file that can be stored, or the directory of unfinished uploads.** -/
theorem Link.isStored_filename_iff (h : Link.first? text publicUrl = some link) :
    Store.IsStored link.filename ↔ link.filename ≠ Store.partialName :=
  ⟨fun hstored => hstored.ne_partial, fun hne => ⟨sanitize?_filename h, hne⟩⟩

namespace Relay

/-- **What is announced can be stored, unless it is the directory of unfinished uploads.**  Under
every root the store has a path for the name in a link, but for one name, which is refused
everywhere.  The record that a message is tagged with is that of the link, whatever its name. -/
theorem storable_of_first? (h : Link.first? text publicUrl = some link) :
    (∀ root, Store.filePath root link.filename = .ok (Path.join root link.filename) ↔
      link.filename ≠ ".partial") ∧
    (Refused link.filename ↔ link.filename = ".partial") ∧
    ∀ c session m companion, c.publicUrl = publicUrl → m.text = text →
      (handle c session m).verdict = .tagged companion →
      ∃ tag, companion.tags = [tag] ∧ tag.value = (recordOf link).written := by
  refine ⟨fun root => ?_, ?_, fun c session m companion hurl htext htagged => ?_⟩
  · rw [← Store.partialName, ← Link.isStored_filename_iff h]
    exact ⟨fun hpath => (Store.of_filePath hpath).1, fun hs => Store.filePath_of_isStored hs root⟩
  · rw [refused_iff, Link.isStored_filename_iff h, Store.partialName, not_not]
  · obtain ⟨other, tag, hother, -, hvalue, -, -, rfl⟩ := of_verdict_eq_tagged htagged
    rw [hurl, htext, h] at hother
    exact ⟨tag, rfl, Option.some.inj hother ▸ hvalue⟩

end Relay

/-! ## The directory of unfinished uploads -/

/-- A message with the address that the directory of unfinished uploads would have. -/
def Sample.unfinished : Message where
  source := "alice!a@h"
  target := "#chat"
  text := "https://files.test/upload/.partial"
  tags := []

open Sample in
/-- **A file that nobody can ever store is announced.** -/
theorem Relay.refused_of_unfinished :
    Link.first? unfinished.text settings.publicUrl =
        some { url := "https://files.test/upload/.partial", filename := ".partial" } ∧
      Refused ".partial" ∧
      ∃ companion tag, (handle settings user unfinished).verdict = .tagged companion ∧
        companion.tags = [tag] ∧ tag.value = (recordOf
          { url := "https://files.test/upload/.partial", filename := ".partial" }).written := by
  have hlink : Link.first? unfinished.text settings.publicUrl =
      some { url := "https://files.test/upload/.partial", filename := ".partial" } := by
    rfl
  obtain ⟨-, hrefused, hrecord⟩ := storable_of_first? hlink
  have hallowed : refuses settings user unfinished.text = false := by
    rw [Bool.eq_false_iff, Ne, refuses_iff]
    exact fun h => absurd h.2.2.1 (by decide)
  obtain ⟨companion, htagged⟩ :
      ∃ companion, (handle settings user unfinished).verdict = .tagged companion := by
    -- The record is so short that four bytes for each of its characters are few enough.
    refine exists_verdict_eq_tagged_iff.2 ⟨hallowed, _, hlink, (Text.utf8ByteSize_le _).trans ?_⟩
    rw [Tag.escape, Metadata.written, String.toList_ofList, ← String.length_toList,
      String.toList_ofList]
    decide
  obtain ⟨tag, htags, hvalue⟩ := hrecord settings user unfinished companion rfl rfl htagged
  exact ⟨hlink, hrefused.2 rfl, companion, tag, htagged, htags, hvalue⟩

end HostedFiles
