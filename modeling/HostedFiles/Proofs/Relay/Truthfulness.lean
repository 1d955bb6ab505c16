import HostedFiles.Proofs.Relay.Announcing
import HostedFiles.Proofs.Samples

/-!
# Proofs/Relay/Truthfulness — what the tags of a delivered message say

The records that a message carries should be that of the first link of its text and nothing else
(`Truthful`).  A message that is tagged is truthful whatever tags came with it, and so is one that
passes without a record.  A message that passes keeps the tags it came with, so a record that came
with it and has no link (`Stale`) goes on to everybody.
-/

namespace HostedFiles

/-! ## Tags that are set -/

namespace Relay.Message

/-- **The tags of a key that was set** are the one that was set. -/
theorem mem_tags_setTag {m : Message} {tag other : Tag} (hkey : other.key = tag.key) :
    other ∈ (m.setTag tag).tags ↔ other = tag := by
  rw [setTag, List.mem_append, List.mem_filter, List.mem_singleton]
  simp [hkey]

end Relay.Message

namespace Relay

variable {c : Config} {session : Session} {m : Message}

/-! ## Records and links -/

/-- A tag that holds a record. -/
def IsRecord (tag : Tag) : Prop :=
  tag.key = "draft/filehost"

/-- The first link of a text, if its record fits into a tag. -/
def Tellable (c : Config) (text : String) (link : Link) : Prop :=
  Link.first? text c.publicUrl = some link ∧ Tag.escapedSize (recordOf link).written ≤ 4094

/-- The records of a message are those of the first link of its text. -/
structure Truthful (c : Config) (m : Message) : Prop where
  carries_iff : (∃ tag ∈ m.tags, IsRecord tag) ↔ ∃ link, Tellable c m.text link
  value : ∀ tag ∈ m.tags, IsRecord tag → ∀ link, Tellable c m.text link →
    tag.value = (recordOf link).written

/-- A record came with the message, and its text has no link to go with it. -/
structure Stale (c : Config) (m : Message) : Prop where
  carries : ∃ tag ∈ m.tags, IsRecord tag
  untold : ∀ link, ¬ Tellable c m.text link

/-- A text has one first link. -/
theorem Tellable.unique {text : String} {link other : Link} (h : Tellable c text link)
    (h' : Tellable c text other) : other = link :=
  Option.some.inj (h'.1.symm.trans h.1)

/-- **A message without a link is truthful unless it is stale.** -/
theorem truthful_iff_of_untold (h : ∀ link, ¬ Tellable c m.text link) :
    Truthful c m ↔ ¬ Stale c m := by
  constructor
  · intro htruth hstale
    obtain ⟨link, hlink⟩ := htruth.carries_iff.1 hstale.carries
    exact h link hlink
  · intro hfresh
    have hiff : (∃ tag ∈ m.tags, IsRecord tag) ↔ ∃ link, Tellable c m.text link :=
      iff_of_false (fun hcarries => hfresh ⟨hcarries, h⟩) fun hlink => hlink.elim h
    exact ⟨hiff, fun _ _ _ link hlink => absurd hlink (h link)⟩

/-- **A message with the record of its link is truthful**, whatever tags it had before. -/
theorem truthful_setTag {link : Link} {tag : Tag} (hlink : Tellable c m.text link)
    (hkey : tag.key = Metadata.tagKey) (hvalue : tag.value = (recordOf link).written) :
    Truthful c (m.setTag tag) := by
  refine ⟨iff_of_true ⟨tag, ?_, hkey⟩ ⟨link, hlink⟩,
    fun other hother hrecord another hanother => ?_⟩
  · exact (Message.mem_tags_setTag rfl).2 rfl
  · have hsame : other = tag := (Message.mem_tags_setTag (hrecord.trans hkey.symm)).1 hother
    rw [hsame, hvalue, hlink.unique hanother]

end Relay

end HostedFiles

/-! ## A record that nobody checked -/

namespace HostedFiles.Sample

open Relay

/-- A user whose messages are not refused. -/
def user : Session where
  account := none
  source := "alice!a@h"
  isLocal := true
  isSecure := true

/-- A record of a file that nobody hosts. -/
def forgery : Tag where
  key := "draft/filehost"
  value := "forged"
  key_valid := by decide
  value_fits := by decide

/-- A message with the record, and without a link. -/
def forged : Message where
  source := "alice!a@h"
  target := "#chat"
  text := "hello"
  tags := [forgery]

/-- The text has no link. -/
theorem first?_forged : Link.first? forged.text settings.publicUrl = none := by rfl

theorem stale_forged : Stale settings forged where
  carries := ⟨forgery, List.mem_singleton_self _, rfl⟩
  untold link h := by
    have hsome := h.1
    rw [first?_forged] at hsome
    cases hsome

end HostedFiles.Sample

/-! ## Delivered messages -/

namespace HostedFiles.Relay

variable {c : Config} {session : Session} {m : Message}

/-- **A message that is delivered is truthful unless it came stale**; then it goes on as it came. -/
theorem truthful_iff_of_delivered (h : (handle c session m).verdict ≠ .denied) :
    (Truthful c (handle c session m).message ↔ ¬ Stale c m) ∧
      (Stale c m → (handle c session m).message = m) := by
  have hway := handled c session m
  generalize handle c session m = way at hway h ⊢
  cases hway with
  | refused => exact absurd rfl h
  | unlinked _ hlink =>
    refine ⟨truthful_iff_of_untold fun link htold => ?_, fun _ => rfl⟩
    exact absurd (hlink.symm.trans htold.1) (by simp)
  | oversized link _ hlink hsize =>
    refine ⟨truthful_iff_of_untold fun other htold => ?_, fun _ => rfl⟩
    obtain rfl := Option.some.inj (hlink.symm.trans htold.1)
    exact Nat.not_le_of_lt hsize htold.2
  | announced link tag _ hlink hkey hvalue =>
    have htold : Tellable c m.text link := ⟨hlink, hvalue ▸ tag.value_fits⟩
    refine ⟨iff_of_true (truthful_setTag htold hkey hvalue) ?_, ?_⟩
    · exact fun hstale => hstale.untold link htold
    · exact fun hstale => absurd htold (hstale.untold link)

open Sample in
/-- A message that came stale passes, and is not truthful. -/
theorem untruthful_forged : (handle settings user forged).verdict ≠ .denied ∧
    ¬ Truthful settings (handle settings user forged).message := by
  have hallowed : (handle settings user forged).verdict ≠ .denied := by
    rw [Ne, verdict_eq_denied_iff, refuses_iff]
    exact fun h => absurd h.2.2.1 (by decide)
  exact ⟨hallowed, fun htruth =>
    (truthful_iff_of_delivered hallowed).1.1 htruth stale_forged⟩

end HostedFiles.Relay
