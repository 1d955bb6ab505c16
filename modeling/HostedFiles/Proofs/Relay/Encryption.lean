import HostedFiles.Proofs.Relay.Announcing
import Mathlib.Data.List.Induction

/-!
# Proofs/Relay/Encryption — links on connections that are not encrypted

Where encryption is asked for, nothing that could be announced is delivered for a local user without
it: what the scan of a text finds begins with the public address, and a text that holds that is
denied.  `covered_in_run` says so of every message of a run in which settings change, peers come and
go, and companions are handed out at any later time.
-/

namespace HostedFiles.Relay

variable {c : Config} {session : Session} {m : Message}

/-! ## One message -/

/-- The user is local and not encrypted, and the settings ask for encryption. -/
def IsExposed (c : Config) (session : Session) : Prop :=
  c.requireSsl = true ∧ session.isLocal = true ∧ session.isSecure = false

/-- **What could be announced is refused** for a user who is exposed. -/
theorem refuses_of_first? (h : IsExposed c session) {link : Link}
    (hlink : Link.first? m.text c.publicUrl = some link) : refuses c session m.text = true := by
  rw [refuses, h.1, h.2.1, h.2.2, Link.contains_of_first? hlink]
  rfl

/-- **No message of an exposed user is tagged.** -/
theorem verdict_ne_tagged (h : IsExposed c session) (companion : TagMessage) :
    (handle c session m).verdict ≠ .tagged companion := by
  intro htagged
  obtain ⟨hallowed, link, hlink, -⟩ := exists_verdict_eq_tagged_iff.1 ⟨companion, htagged⟩
  exact Bool.false_ne_true (hallowed.symm.trans (refuses_of_first? h hlink))

/-- **A message of an exposed user that is not denied does not hold the public address.** -/
theorem text_ne_of_exposed (h : IsExposed c session)
    (hallowed : (handle c session m).verdict ≠ .denied) (before rest : String) :
    (handle c session m).message.text ≠ before ++ c.publicUrl ++ rest := by
  intro htext
  have hmessage : (handle c session m).message = m := by
    cases hverdict : (handle c session m).verdict with
    | pass => exact (of_verdict_eq_pass hverdict).1
    | tagged companion => exact absurd hverdict (verdict_ne_tagged h companion)
    | denied => exact absurd hverdict hallowed
  rw [hmessage] at htext
  exact hallowed (verdict_eq_denied_iff.2
    (refuses_iff.2 ⟨h.1, h.2.1, h.2.2, before, rest, htext⟩))

/-- **Nobody else's message is denied.** -/
theorem verdict_ne_denied
    (h : c.requireSsl = false ∨ session.isLocal = false ∨ session.isSecure = true) :
    (handle c session m).verdict ≠ .denied := by
  intro hdenied
  obtain ⟨hssl, hlocal, hsecure, -⟩ := refuses_iff.1 (verdict_eq_denied_iff.1 hdenied)
  simp [hssl, hlocal, hsecure] at h

/-! ## Runs -/

/-- What happens at a hub. -/
inductive Act where
  | send (runtime : Bool) (session : Session) (m : Message)
  /-- Other settings are to be put in force. -/
  | replace (next : Config)
  | connect (peer : Peer)
  | disconnect (id : String)
  /-- One of the companions that wait is handed to the peers connected now. -/
  | handOut (place : Nat)

/-- A hub in the course of a run.  Companions go with the number of the act that sent them. -/
structure Scene where
  hub : Hub
  /-- How many acts there have been. -/
  turn : Nat
  waiting : List (Nat × TagMessage)
  /-- To whom a companion was handed. -/
  handed : List (Nat × Peer × TagMessage)

namespace Scene

/-- The scene after the companion of a message, if it has one, was left to wait. -/
def entrust (s : Scene) (runtime : Bool) : Verdict → Scene
  | .tagged companion =>
    if runtime then { s with waiting := s.waiting ++ [(s.turn, companion)] } else s
  | .pass | .denied => s

/-- The scene after one of the companions that wait was handed out. -/
def deliver (s : Scene) (place : Nat) : Scene :=
  match s.waiting[place]? with
  | some (turn, companion) =>
    { s with
      waiting := s.waiting.eraseIdx place
      handed := s.handed ++ (fanOut s.hub.roster.peers companion).handed.map fun h => (turn, h) }
  | none => s

/-- The hub after an act. -/
def nextHub (hub : Hub) : Act → Hub
  | .replace next =>
    match hub.replace next with
    | .ok hub => hub
    | .error _ => hub
  | .connect peer => { hub with roster := hub.roster.connect peer }
  | .disconnect id => { hub with roster := hub.roster.disconnect id }
  | .send _ _ _ | .handOut _ => hub

/-- What companions an act leaves to wait or hands out. -/
def work (s : Scene) : Act → Scene
  | .send runtime session m => s.entrust runtime (handle s.hub.config session m).verdict
  | .handOut place => s.deliver place
  | .replace _ | .connect _ | .disconnect _ => s

/-- The scene after an act. -/
def step (s : Scene) (act : Act) : Scene :=
  { s.work act with hub := nextHub s.hub act, turn := s.turn + 1 }

/-- The scene after acts at a hub for which no companion waits. -/
def run (hub : Hub) (acts : List Act) : Scene :=
  acts.foldl step { hub, turn := 0, waiting := [], handed := [] }

/-- A companion handed out at once goes to those to whom `Hub.send` hands it. -/
theorem handed_deliver_entrust (s : Scene) (companion : TagMessage) :
    ((s.entrust true (.tagged companion)).deliver s.waiting.length).handed =
      s.handed ++ (fanOut s.hub.roster.peers companion).handed.map fun h => (s.turn, h) := by
  simp [entrust, deliver]

theorem run_append_singleton (hub : Hub) (acts : List Act) (act : Act) :
    run hub (acts ++ [act]) = (run hub acts).step act := by
  rw [run, List.foldl_append]
  rfl

theorem turn_run (hub : Hub) (acts : List Act) : (run hub acts).turn = acts.length := by
  induction acts using List.reverseRecOn with
  | nil => rfl
  | append_singleton acts act ih =>
    rw [run_append_singleton, step, ih, List.length_append]
    rfl

end Scene

/-! ### The settings in force -/

/-- The settings that an act puts in force, if they are valid. -/
def Act.accepted? : Act → Option Config
  | .replace next => if next.validate = .ok () then some next else none
  | _ => none

/-- The settings in force after acts: those that were accepted last. -/
def inForce (c : Config) (acts : List Act) : Config :=
  (acts.filterMap Act.accepted?).getLast?.getD c

namespace Scene

variable {hub : Hub}

/-- An act puts in force what it has accepted. -/
theorem config_nextHub (hub : Hub) (act : Act) :
    (nextHub hub act).config = act.accepted?.getD hub.config := by
  cases act with
  | replace next =>
    simp only [nextHub, Hub.replace, Act.accepted?]
    cases hvalid : next.validate with
    | ok => rfl
    | error e => simp [Except.map]
  | send => rfl
  | connect => rfl
  | disconnect => rfl
  | handOut => rfl

/-- **The settings in force are those that were accepted last.** -/
theorem config_run (hub : Hub) (acts : List Act) :
    (run hub acts).hub.config = inForce hub.config acts := by
  induction acts using List.reverseRecOn with
  | nil => rfl
  | append_singleton acts act ih =>
    rw [run_append_singleton, step, config_nextHub, ih, inForce, inForce, List.filterMap_append]
    cases haccepted : act.accepted? with
    | none => simp [haccepted]
    | some next => simp [haccepted]

/-! ### Where companions come from -/

/-- The companion goes with the message that the act of this number sent. -/
def SentBy (hub : Hub) (acts : List Act) (turn : Nat) (companion : TagMessage) : Prop :=
  ∃ before after runtime session m, acts = before ++ .send runtime session m :: after ∧
    before.length = turn ∧
    (handle (run hub before).hub.config session m).verdict = .tagged companion

theorem SentBy.append {acts more : List Act} {turn : Nat} {companion : TagMessage}
    (h : SentBy hub acts turn companion) : SentBy hub (acts ++ more) turn companion := by
  obtain ⟨before, after, runtime, session, m, rfl, hturn, hverdict⟩ := h
  exact ⟨before, after ++ more, runtime, session, m, by simp, hturn, hverdict⟩

/-- What waits in a scene or was handed out there goes with a message sent before. -/
structure Traced (hub : Hub) (acts : List Act) (s : Scene) : Prop where
  waiting : ∀ w ∈ s.waiting, SentBy hub acts w.1 w.2
  handed : ∀ h ∈ s.handed, SentBy hub acts h.1 h.2.2

/-- A message leaves its own companion to wait. -/
theorem Traced.entrust {acts : List Act} (h : Traced hub acts (run hub acts)) (runtime : Bool)
    (session : Session) (m : Message) :
    Traced hub (acts ++ [.send runtime session m]) ((run hub acts).entrust runtime
      (handle (run hub acts).hub.config session m).verdict) := by
  have hkept : Traced hub (acts ++ [.send runtime session m]) (run hub acts) :=
    ⟨fun w hw => (h.waiting w hw).append, fun x hx => (h.handed x hx).append⟩
  cases hverdict : (handle (run hub acts).hub.config session m).verdict with
  | pass => exact hkept
  | denied => exact hkept
  | tagged companion =>
    rw [Scene.entrust]
    split
    · refine ⟨fun w hw => ?_, hkept.handed⟩
      rcases List.mem_append.1 hw with hw | hw
      · exact hkept.waiting w hw
      · obtain rfl := List.mem_singleton.1 hw
        exact ⟨acts, [], runtime, session, m, rfl, (turn_run hub acts).symm, hverdict⟩
    · exact hkept

/-- What is handed out has waited. -/
theorem Traced.deliver {acts : List Act} {s : Scene} (h : Traced hub acts s) (place : Nat) :
    Traced hub acts (s.deliver place) := by
  rw [Scene.deliver]
  split
  next turn companion hwaiting =>
    have hsent := h.waiting _ (List.mem_of_getElem? hwaiting)
    refine ⟨fun w hw => h.waiting w (List.mem_of_mem_eraseIdx hw), fun x hx => ?_⟩
    rcases List.mem_append.1 hx with hx | hx
    · exact h.handed x hx
    · simp only [fanOut, List.map_map, List.mem_map, Function.comp_apply] at hx
      obtain ⟨peer, -, rfl⟩ := hx
      exact hsent
  next => exact h

/-- **Every companion comes from a message that was tagged when it was sent.** -/
theorem traced_run (hub : Hub) (acts : List Act) : Traced hub acts (run hub acts) := by
  induction acts using List.reverseRecOn with
  | nil => exact ⟨fun w hw => (by cases hw), fun x hx => (by cases hx)⟩
  | append_singleton acts act ih =>
    have hkept : Traced hub (acts ++ [act]) (run hub acts) :=
      ⟨fun w hw => (ih.waiting w hw).append, fun x hx => (ih.handed x hx).append⟩
    have hwork : Traced hub (acts ++ [act]) ((run hub acts).work act) := by
      cases act with
      | send runtime session m => exact ih.entrust runtime session m
      | handOut place => exact hkept.deliver place
      | replace => exact hkept
      | connect => exact hkept
      | disconnect => exact hkept
    rw [run_append_singleton]
    exact ⟨hwork.waiting, hwork.handed⟩

end Scene

/-! ## What is promised of a run -/

/-- What is promised of a message that is sent after some acts and before others. -/
structure Covered (start : Hub) (before after : List Act) (runtime : Bool) (session : Session)
    (m : Message) (hub : Hub) (sending : Sending) : Prop where
  /-- It meets the settings that were accepted last. -/
  config : hub.config = inForce start.config before
  /-- If the user is exposed, what is delivered does not hold the public address. -/
  text : IsExposed hub.config session → sending.handling.verdict ≠ .denied →
    ∀ front rest, sending.handling.message.text ≠ front ++ hub.config.publicUrl ++ rest
  untagged : IsExposed hub.config session →
    ∀ companion, sending.handling.verdict ≠ .tagged companion
  /-- No peer receives a companion with it, at once or later. -/
  unreceived : IsExposed hub.config session → sending.fanOut = none ∧
    ∀ h ∈ (Scene.run start (before ++ .send runtime session m :: after)).handed,
      h.1 ≠ before.length
  /-- Nobody else is denied. -/
  allowed : hub.config.requireSsl = false ∨ session.isLocal = false ∨ session.isSecure = true →
    sending.handling.verdict ≠ .denied

/-- **The policy covers every message of every run.** -/
theorem covered_in_run (start : Hub) (before after : List Act) (runtime : Bool) (session : Session)
    (m : Message) :
    Covered start before after runtime session m (Scene.run start before).hub
      ((Scene.run start before).hub.send runtime session m) where
  config := Scene.config_run start before
  text h hallowed := by
    rw [Hub.send_handling] at hallowed ⊢
    exact text_ne_of_exposed h hallowed
  untagged h := by
    rw [Hub.send_handling]
    exact verdict_ne_tagged h
  unreceived h := by
    refine ⟨Hub.fanOut_send_eq_none _ _ _ _ (verdict_ne_tagged h), fun x hx hturn => ?_⟩
    obtain ⟨before', after', runtime', session', m', hacts, hlength, hverdict⟩ :=
      (Scene.traced_run start _).handed x hx
    obtain ⟨rfl, hsame⟩ := List.append_inj hacts (hturn.symm.trans hlength.symm)
    obtain ⟨rfl, rfl, rfl⟩ := Act.send.inj (List.cons.inj hsame).1
    exact verdict_ne_tagged h _ hverdict
  allowed h := by
    rw [Hub.send_handling]
    exact verdict_ne_denied h

end HostedFiles.Relay
