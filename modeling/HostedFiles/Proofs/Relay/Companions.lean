import HostedFiles.Relay.Roster
import Mathlib.Data.List.Induction
import Mathlib.Data.List.Nodup

/-!
# Proofs/Relay/Companions — who gets a companion message

Peers come and go, and a roster keeps of each name the peer that connected last (`mem_peers_after`),
and only one (`nodup_ids_after`).  So a message that is handed out to the peers of a roster, in
whatever order they are taken, reaches each one that asked for such messages once and nobody else,
whatever becomes of the others (`FannedOut`).
-/

namespace HostedFiles.Relay

/-! ## Peers that come and go -/

namespace Roster

/-- What happens to a roster. -/
inductive Change where
  | connect (peer : Peer)
  | disconnect (id : String)

/-- The roster after a change. -/
def change (r : Roster) : Change → Roster
  | .connect peer => r.connect peer
  | .disconnect id => r.disconnect id

/-- The roster after changes, with nobody in it at first. -/
def after (changes : List Change) : Roster :=
  changes.foldl change empty

/-- Whether a change is one of the peer of a name. -/
def Change.concerns (id : String) : Change → Bool
  | connect peer => peer.id == id
  | disconnect other => other == id

/-- The peer that a change leaves connected. -/
def Change.peer? : Change → Option Peer
  | connect peer => some peer
  | disconnect _ => none

/-- Who is connected under a name: the peer of the last change that concerns it, if this one
connected it. -/
def connected? (changes : List Change) (id : String) : Option Peer :=
  (changes.reverse.find? (Change.concerns id)).bind Change.peer?

variable {changes : List Change} {peer : Peer} {id : String}

theorem after_append_singleton (changes : List Change) (c : Change) :
    after (changes ++ [c]) = (after changes).change c := by
  rw [after, List.foldl_append]
  rfl

theorem connected?_append_singleton (changes : List Change) (c : Change) (id : String) :
    connected? (changes ++ [c]) id =
      if c.concerns id then c.peer? else connected? changes id := by
  rw [connected?, List.reverse_append, List.reverse_singleton, List.singleton_append,
    List.find?_cons]
  cases c.concerns id <;> rfl

/-- The peer that is connected under a name has this name. -/
theorem id_of_connected? (h : connected? changes id = some peer) : peer.id = id := by
  obtain ⟨c, hc, hpeer⟩ := Option.bind_eq_some_iff.1 h
  have hconcerns := List.find?_some hc
  cases c with
  | connect other =>
    obtain rfl := Option.some.inj hpeer
    exact beq_iff_eq.1 hconcerns
  | disconnect other => cases hpeer

theorem mem_peers_disconnect {r : Roster} :
    peer ∈ (r.disconnect id).peers ↔ peer ∈ r.peers ∧ peer.id ≠ id := by
  rw [disconnect, List.mem_filter, bne_iff_ne]

/-- **A roster holds the peers that connected last** under their names. -/
theorem mem_peers_after :
    peer ∈ (after changes).peers ↔ connected? changes peer.id = some peer := by
  induction changes using List.reverseRecOn with
  | nil => exact ⟨fun h => (by cases h), fun h => (by cases h)⟩
  | append_singleton changes c ih =>
    rw [after_append_singleton, connected?_append_singleton]
    cases c with
    | connect other =>
      simp only [change, connect, List.mem_append, mem_peers_disconnect, List.mem_singleton, ih,
        Change.concerns, Change.peer?, beq_iff_eq]
      by_cases hid : other.id = peer.id
      · simp [hid, eq_comm]
      · have hne : peer ≠ other := by
          rintro rfl
          exact hid rfl
        simp [hid, hne, Ne.symm hid]
    | disconnect other =>
      simp only [change, mem_peers_disconnect, ih, Change.concerns, Change.peer?, beq_iff_eq]
      by_cases hid : other = peer.id
      · simp [hid]
      · simp [hid, Ne.symm hid]

/-- **No two peers of a roster have one name.** -/
theorem nodup_ids_after (changes : List Change) : ((after changes).peers.map Peer.id).Nodup := by
  have hdisconnect : ∀ (r : Roster) (id : String), (r.peers.map Peer.id).Nodup →
      ((r.disconnect id).peers.map Peer.id).Nodup :=
    fun r id h => h.sublist (List.filter_sublist.map Peer.id)
  induction changes using List.reverseRecOn with
  | nil => exact List.nodup_nil
  | append_singleton changes c ih =>
    rw [after_append_singleton]
    cases c with
    | connect peer =>
      rw [change, connect, List.map_append, List.map_singleton, ← List.concat_eq_append]
      refine List.Nodup.concat (fun hmem => ?_) (hdisconnect _ _ ih)
      obtain ⟨other, hother, hid⟩ := List.mem_map.1 hmem
      exact (mem_peers_disconnect.1 hother).2 hid
    | disconnect id => exact hdisconnect _ _ ih

/-- In a list without two peers of one name, a peer is the one of its name. -/
theorem filter_id_eq_singleton {peers : List Peer} (hnodup : (peers.map Peer.id).Nodup)
    (h : peer ∈ peers) : peers.filter (fun other => other.id == peer.id) = [peer] := by
  obtain ⟨front, rest, rfl⟩ := List.append_of_mem h
  rw [List.map_append, List.map_cons, List.nodup_middle, List.nodup_cons, List.mem_append,
    not_or] at hnodup
  have hnone : ∀ others : List Peer, peer.id ∉ others.map Peer.id →
      others.filter (fun other => other.id == peer.id) = [] := by
    intro others hothers
    refine List.filter_eq_nil_iff.2 fun other hother hid => hothers ?_
    exact List.mem_map.2 ⟨other, hother, beq_iff_eq.1 hid⟩
  have hown : (peer :: rest).filter (fun other => other.id == peer.id) =
      peer :: rest.filter fun other => other.id == peer.id :=
    List.filter_cons_of_pos (beq_self_eq_true peer.id)
  rw [List.filter_append, hnone front hnodup.1.1, List.nil_append, hown, hnone rest hnodup.1.2]

/-- **Of each name a roster holds the peer that connected last, once**, in whatever order the peers
are taken. -/
theorem filter_id_eq {snapshot : List Peer} (h : snapshot.Perm (after changes).peers)
    (id : String) :
    snapshot.filter (fun peer => peer.id == id) = (connected? changes id).toList := by
  cases hconnected : connected? changes id with
  | none =>
    refine List.filter_eq_nil_iff.2 fun peer hpeer hid => ?_
    have hsome := mem_peers_after.1 (h.mem_iff.1 hpeer)
    rw [beq_iff_eq.1 hid, hconnected] at hsome
    cases hsome
  | some peer =>
    obtain rfl := id_of_connected? hconnected
    refine filter_id_eq_singleton ?_ (h.mem_iff.2 (mem_peers_after.2 hconnected))
    exact (h.map Peer.id).nodup_iff.2 (nodup_ids_after changes)

end Roster

/-! ## A message that is handed out -/

/-- How a message fares that is handed out to the peers that are connected after some changes, given
in the order in which they are taken. -/
structure FannedOut (changes : List Roster.Change) (snapshot : List Peer) (companion : TagMessage)
    (out : FanOut) : Prop where
  /-- The peers are those that connected last under their names, one of each. -/
  peers : ∀ id, snapshot.filter (fun peer => peer.id == id) =
    (Roster.connected? changes id).toList
  /-- Each of them that asked for such messages is handed this one, once, and nobody else is. -/
  handed : ∀ id, out.handed.filter (fun h => h.1.id == id) =
    ((Roster.connected? changes id).filter Peer.isCapable).toList.map fun peer => (peer, companion)
  /-- The same peers would be handed it if other sendings failed. -/
  unaffected : ∀ sending : Peer → Except PeerError Unit,
    (fanOut (snapshot.map fun peer => { peer with sending := sending peer })
      companion).handed.map (fun h => (h.1.id, h.2)) = out.handed.map fun h => (h.1.id, h.2)
  delivered : out.report.delivered = out.handed.countP fun h => h.1.sending.isOk
  failed : out.report.failed = out.handed.countP fun h => !h.1.sending.isOk
  /-- There is one line for each that failed. -/
  events : out.events = out.handed.filterMap fun h =>
    match h.1.sending with
    | .ok () => none
    | .error e => some (.deliveryFailed h.1.id e.message)
  skipped : out.report.skipped = snapshot.countP fun peer => !peer.isCapable
  total : out.report.delivered + out.report.failed + out.report.skipped =
    (Roster.after changes).size

/-- A sending that fails is worth a line. -/
theorem Peer.isSome_failure? (peer : Peer) : peer.failure?.isSome = !peer.sending.isOk := by
  rw [failure?]
  cases peer.sending <;> rfl

section FanOut

variable (peers : List Peer) (companion : TagMessage)

/-- What is handed to the peers of a name. -/
theorem filter_handed (id : String) :
    (fanOut peers companion).handed.filter (fun h => h.1.id == id) =
      ((peers.filter fun peer => peer.id == id).filter Peer.isCapable).map fun peer =>
        (peer, companion) := by
  rw [fanOut, List.filter_map, List.filter_filter, List.filter_filter]
  simp only [Function.comp_def, Bool.and_comm]

theorem delivered_fanOut : (fanOut peers companion).report.delivered =
    (fanOut peers companion).handed.countP fun h => h.1.sending.isOk := by
  rw [fanOut, List.countP_map, List.countP_eq_length_filter]
  rfl

theorem failed_fanOut : (fanOut peers companion).report.failed =
    (fanOut peers companion).handed.countP fun h => !h.1.sending.isOk := by
  simp only [fanOut, List.length_filterMap_eq_countP, List.countP_map, Function.comp_def,
    Peer.isSome_failure?]

/-- **Every message that is handed out arrives or fails, and all other peers are skipped.** -/
theorem total_fanOut : (fanOut peers companion).report.delivered +
    (fanOut peers companion).report.failed + (fanOut peers companion).report.skipped =
      peers.length := by
  have hsent : (fanOut peers companion).report.delivered +
      (fanOut peers companion).report.failed = (peers.filter Peer.isCapable).length := by
    rw [delivered_fanOut, failed_fanOut]
    have hsplit := List.length_eq_countP_add_countP (l := (fanOut peers companion).handed)
      (p := fun h => h.1.sending.isOk)
    simp only [Bool.not_eq_true, Bool.decide_eq_false] at hsplit
    rw [← hsplit, fanOut, List.length_map]
  rw [hsent]
  have hsplit := List.length_eq_length_filter_add (l := peers) Peer.isCapable
  rw [hsplit]
  rfl

/-- **Who is handed a message does not depend on what becomes of it.** -/
theorem handed_sending (sending : Peer → Except PeerError Unit) :
    (fanOut (peers.map fun peer => { peer with sending := sending peer })
      companion).handed.map (fun h => (h.1.id, h.2)) =
        (fanOut peers companion).handed.map fun h => (h.1.id, h.2) := by
  simp only [fanOut, List.filter_map, List.map_map]
  rfl

end FanOut

end HostedFiles.Relay

/-! ## Four peers -/

namespace HostedFiles.Sample

open Relay

/-- A peer of a name, with what it asked for and what becomes of what is sent to it. -/
def peer (id : String) (capabilities : List String) (sending : Except PeerError Unit) : Peer :=
  { id, capabilities, sending }

/-- Bob connects twice, and asks for messages about files the second time; Dave is gone when he is
sent one, Carol asked for none, and Erin has left. -/
def comings : List Roster.Change :=
  [.connect (peer "bob" [] (.ok ())), .connect (peer "erin" ["draft/filehost"] (.ok ())),
   .connect (peer "dave" ["draft/filehost"] (.error .disconnected)),
   .connect (peer "carol" [] (.ok ())), .disconnect "erin",
   .connect (peer "bob" ["draft/filehost"] (.ok ()))]

/-- A message for them. -/
def companion : TagMessage where
  source := "alice!a@h"
  target := "#chat"
  tags := []

end HostedFiles.Sample

/-! ## Every connected peer -/

namespace HostedFiles.Relay

/-- **A message is handed to each connected peer that asked for such messages, once, and to nobody
else**, and what became of it is counted. -/
theorem fannedOut_after {changes : List Roster.Change} {snapshot : List Peer}
    (h : snapshot.Perm (Roster.after changes).peers) (companion : TagMessage) :
    FannedOut changes snapshot companion (fanOut snapshot companion) where
  peers := Roster.filter_id_eq h
  handed id := by
    rw [filter_handed, Roster.filter_id_eq h, Option.toList_filter]
  unaffected := handed_sending snapshot companion
  delivered := delivered_fanOut snapshot companion
  failed := failed_fanOut snapshot companion
  events := by
    rw [fanOut, List.filterMap_map]
    rfl
  skipped := by rw [fanOut, List.countP_eq_length_filter]
  total := by rw [total_fanOut, h.length_eq, Roster.size]

open Sample in
/-- Of four peers, taken in the order opposite to that in which they came, Bob is handed the message
as he connected last, and Erin is not. -/
theorem fannedOut_comings :
    (Roster.after comings).peers.reverse.Perm (Roster.after comings).peers ∧
    (fanOut (Roster.after comings).peers.reverse companion).handed.filter
        (fun h => h.1.id == "bob") =
      [(peer "bob" ["draft/filehost"] (.ok ()), companion)] ∧
    (fanOut (Roster.after comings).peers.reverse companion).handed.filter
        (fun h => h.1.id == "erin") = [] ∧
    (fanOut (Roster.after comings).peers.reverse companion).report = ⟨1, 1, 1⟩ := by
  have hperm := List.reverse_perm (Roster.after comings).peers
  have hout := fannedOut_after hperm companion
  exact ⟨hperm, hout.handed "bob", hout.handed "erin", by rfl⟩

end HostedFiles.Relay
