import HostedFiles.Proofs.Link.Candidates
import HostedFiles.Relay.Hub

/-!
# Proofs/Relay/Announcing — what becomes of a message

A message is handled in one of four ways (`handled`): it is refused, it has no link, its link is too
long to announce, or its link is announced.  What is promised about each verdict
(`accountedFor`) is read off these.
-/

namespace HostedFiles

/-! ## Tags of records -/

namespace Metadata

theorem isKey_tagKey : Tag.isKey tagKey = true := by decide

/-- The tag of a record, if its value fits. -/
theorem tag_of_le {record : Metadata} (h : Tag.escapedSize record.written ≤ Tag.maxValueBytes) :
    record.tag = .ok ⟨tagKey, record.written, isKey_tagKey, h⟩ := by
  rw [tag, Tag.ofPair, dif_pos isKey_tagKey, dif_pos h]

/-- A record whose value does not fit has no tag. -/
theorem tag_of_lt {record : Metadata} (h : Tag.maxValueBytes < Tag.escapedSize record.written) :
    record.tag = .error (.tooLarge (Tag.escapedSize record.written)) := by
  rw [tag, Tag.ofPair, dif_pos isKey_tagKey, dif_neg (Nat.not_le_of_lt h)]

end Metadata

namespace Relay

open Text

variable {c : Config} {session : Session} {m : Message}

/-! ## The policy -/

/-- **What is refused.** -/
theorem refuses_iff {text : String} : refuses c session text = true ↔
    c.requireSsl = true ∧ session.isLocal = true ∧ session.isSecure = false ∧
      ∃ before rest, text = before ++ c.publicUrl ++ rest := by
  have hoccurs : Text.contains c.publicUrl.toList text.toList = true ↔
      ∃ before rest, text = before ++ c.publicUrl ++ rest := by
    rw [contains_iff]
    constructor
    · rintro ⟨before, rest, h⟩
      refine ⟨String.ofList before, String.ofList rest, String.toList_inj.1 ?_⟩
      simpa using h
    · rintro ⟨before, rest, rfl⟩
      exact ⟨before.toList, rest.toList, by simp⟩
  simp only [refuses, Bool.and_eq_true, Bool.not_eq_true', hoccurs, and_assoc]

/-! ## The ways to handle a message -/

/-- The record of a link. -/
def recordOf (link : Link) : Metadata :=
  Metadata.ofLink link.url (some link.filename)

theorem announced?_eq (c : Config) (text : String) :
    announced? c text = (Link.first? text c.publicUrl).map recordOf := rfl

/-- The ways to handle a message, and what is asked of it for each. -/
inductive Handled (c : Config) (session : Session) (m : Message) : Handling → Prop where
  | refused (hrefused : refuses c session m.text = true) :
    Handled c session m
      { verdict := .denied, message := m, notices := [refusalNotice], events := [] }
  | unlinked (hallowed : refuses c session m.text = false)
      (hlink : Link.first? m.text c.publicUrl = none) :
    Handled c session m { verdict := .pass, message := m, notices := [], events := [] }
  | oversized (link : Link) (hallowed : refuses c session m.text = false)
      (hlink : Link.first? m.text c.publicUrl = some link)
      (hsize : Tag.maxValueBytes < Tag.escapedSize (recordOf link).written) :
    Handled c session m
      { verdict := .pass
        message := m
        notices := []
        events :=
          [.linkNotTagged
            (TagError.tooLarge (Tag.escapedSize (recordOf link).written)).message] }
  | announced (link : Link) (tag : Tag) (hallowed : refuses c session m.text = false)
      (hlink : Link.first? m.text c.publicUrl = some link) (hkey : tag.key = Metadata.tagKey)
      (hvalue : tag.value = (recordOf link).written) :
    Handled c session m
      { verdict := .tagged { source := m.source, target := m.target, tags := [tag] }
        message := m.setTag tag
        notices := []
        events := [] }

/-- **Every message is handled in one of these ways.** -/
theorem handled (c : Config) (session : Session) (m : Message) :
    Handled c session m (handle c session m) := by
  rw [handle]
  by_cases hrefused : refuses c session m.text = true
  · rw [if_pos hrefused]
    exact .refused hrefused
  have hallowed : refuses c session m.text = false := Bool.eq_false_iff.2 hrefused
  rw [if_neg hrefused, announced?_eq]
  cases hlink : Link.first? m.text c.publicUrl with
  | none => exact .unlinked hallowed hlink
  | some link =>
    simp only [Option.map_some]
    by_cases hsize : Tag.escapedSize (recordOf link).written ≤ Tag.maxValueBytes
    · rw [Metadata.tag_of_le hsize]
      exact .announced link _ hallowed hlink rfl rfl
    · rw [Metadata.tag_of_lt (Nat.lt_of_not_le hsize)]
      exact .oversized link hallowed hlink (Nat.lt_of_not_le hsize)

/-! ## Verdicts -/

/-- The message can be announced: it is not refused, and the record of its first link fits. -/
def Announceable (c : Config) (session : Session) (m : Message) : Prop :=
  refuses c session m.text = false ∧ ∃ link, Link.first? m.text c.publicUrl = some link ∧
    Tag.escapedSize (recordOf link).written ≤ Tag.maxValueBytes

/-- **A message is denied exactly when the policy refuses it.** -/
theorem verdict_eq_denied_iff :
    (handle c session m).verdict = .denied ↔ refuses c session m.text = true := by
  have hway := handled c session m
  generalize handle c session m = way at hway ⊢
  cases hway with
  | refused hrefused => exact iff_of_true rfl hrefused
  | unlinked hallowed => simp [hallowed]
  | oversized link hallowed => simp [hallowed]
  | announced link tag hallowed => simp [hallowed]

/-- **A message is tagged exactly when it can be announced.** -/
theorem exists_verdict_eq_tagged_iff :
    (∃ companion, (handle c session m).verdict = .tagged companion) ↔
      Announceable c session m := by
  have hway := handled c session m
  generalize handle c session m = way at hway ⊢
  cases hway with
  | refused hrefused =>
    refine iff_of_false (fun ⟨_, h⟩ => by cases h) fun h => ?_
    exact Bool.false_ne_true (h.1.symm.trans hrefused)
  | unlinked hallowed hlink =>
    refine iff_of_false (fun ⟨_, h⟩ => by cases h) fun ⟨_, link, hsome, _⟩ => ?_
    rw [hlink] at hsome
    cases hsome
  | oversized link hallowed hlink hsize =>
    refine iff_of_false (fun ⟨_, h⟩ => by cases h) fun ⟨_, other, hother, hfits⟩ => ?_
    rw [hlink] at hother
    obtain rfl := Option.some.inj hother
    exact Nat.not_le_of_lt hsize hfits
  | announced link tag hallowed hlink hkey hvalue =>
    exact iff_of_true ⟨_, rfl⟩ ⟨hallowed, link, hlink, hvalue ▸ tag.value_fits⟩

/-- A message that passes stays as it came, and the user is told nothing. -/
theorem of_verdict_eq_pass (h : (handle c session m).verdict = .pass) :
    (handle c session m).message = m ∧ (handle c session m).notices = [] := by
  have hway := handled c session m
  generalize handle c session m = way at hway h ⊢
  cases hway with
  | refused => cases h
  | unlinked => exact ⟨rfl, rfl⟩
  | oversized => exact ⟨rfl, rfl⟩
  | announced => cases h

/-- A message that is tagged gets the record of its first link, and the companion is that record
alone. -/
theorem of_verdict_eq_tagged {companion : TagMessage}
    (h : (handle c session m).verdict = .tagged companion) :
    ∃ link tag, Link.first? m.text c.publicUrl = some link ∧ tag.key = Metadata.tagKey ∧
      tag.value = (recordOf link).written ∧ (handle c session m).message = m.setTag tag ∧
      (handle c session m).notices = [] ∧
      companion = { source := m.source, target := m.target, tags := [tag] } := by
  have hway := handled c session m
  generalize handle c session m = way at hway h ⊢
  cases hway with
  | refused => cases h
  | unlinked => cases h
  | oversized => cases h
  | announced link tag _ hlink hkey hvalue =>
    exact ⟨link, tag, hlink, hkey, hvalue, rfl, rfl, (Verdict.tagged.inj h).symm⟩

namespace Hub

variable (hub : Hub) (runtime : Bool) (session : Session) (m : Message)

/-- Without a companion nothing is handed out. -/
theorem fanOut_send_eq_none
    (h : ∀ companion, (handle hub.config session m).verdict ≠ .tagged companion) :
    (hub.send runtime session m).fanOut = none := by
  rw [send]
  split
  · exact absurd ‹_› (h _)
  · rfl
  · rfl

end Hub

end Relay

end HostedFiles
