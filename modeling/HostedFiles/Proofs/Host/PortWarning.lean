import HostedFiles.Proofs.Host.InForce

/-!
# Proofs/Host/PortWarning — what a reload says of the port

The service listens on the port with which it was started, for as long as it runs.  A reload
compares the port that it reads with that of the settings in force, which are those of the last
reload that went well (`Scene.config_run`).  So its warning is true of the port listened on exactly
if these still ask for that port (`truthful_iff`): once another port was asked for, asking for it
again is passed over in silence, and going back is warned of.
-/

namespace HostedFiles

namespace Host

open Log (Event)

variable {s : Scene} {act : Act}

/-! ## The settings that reloads put in force -/

/-- The settings that an act puts in force, if it does. -/
def Scene.installs? (s : Scene) : Act → Option Config
  | .reload source e =>
    let change := s.live.reloadFrom source e
    match change.result with
    | .ok () => some change.live.config
    | .error _ => none
  | _ => none

/-- The settings that acts put in force one after the other. -/
def Scene.installed (s : Scene) : List Act → List Config
  | [] => []
  | act :: rest => (s.installs? act).toList ++ (s.after act).installed rest

/-- An act puts settings in force or leaves them as they are. -/
theorem Scene.config_after (s : Scene) (act : Act) :
    (s.after act).live.config = (s.installs? act).getD s.live.config := by
  cases act with
  | request r fresh => rfl
  | arrive r fresh => simp only [after]; split <;> rfl
  | turn i => simp only [after]; split <;> rfl
  | reload source e =>
    rw [live_reload]
    rcases (s.live.reloaded source e).all_or_nothing with ⟨⟨problem, herror⟩, hsame⟩ | ⟨hok, -, -⟩
    · simp only [installs?, herror, Option.getD_none, hsame]
    · simp only [installs?, hok, Option.getD_some]

/-- **The settings in force are those that were put in force last**, and at first those of the
start. -/
theorem Scene.config_run (s : Scene) (acts : List Act) :
    (s.run acts).live.config = (s.installed acts).getLastD s.live.config := by
  induction acts generalizing s with
  | nil => rfl
  | cons act rest ih =>
    rw [run_cons, ih, config_after, installed]
    cases s.installs? act with
    | none => rfl
    | some c => exact (List.getLastD_cons ..).symm

/-! ## The warning -/

/-- What a reload says of another port than that of the settings in force. -/
def portMessage : String := "PORT changes need a restart, keeping the current listener"

theorem message_eq_portMessage_iff {event : Event} :
    event.message = portMessage ↔ ∃ current requested, event = .portKept current requested := by
  constructor
  · intro h
    cases event with
    | portKept current requested => exact ⟨current, requested, rfl⟩
    | _ => simp [Event.message, portMessage] at h
  · rintro ⟨current, requested, rfl⟩
    rfl

/-- **Events tell the truth about the port** that is listened on, if another one was requested: they
warn exactly in that case, and name the port that is listened on. -/
structure Truthful (listening requested : Nat) (events : List Event) : Prop where
  warns_iff : (∃ event ∈ events, event.message = portMessage) ↔ requested ≠ listening
  current : ∀ event ∈ events, event.message = portMessage →
    event.fields.lookup "current" = some (.text (toString listening))

/-- Of the settings by themselves no such warning is given. -/
theorem message_ne_portMessage {c : Config} {event : Event} (h : event ∈ c.warnings) :
    event.message ≠ portMessage := by
  rw [Ne, message_eq_portMessage_iff]
  rintro ⟨current, requested, rfl⟩
  grind [Config.warnings]

/-- **The one warning of this kind names both ports**, and is given where they differ. -/
theorem warned_iff {current next : Config} {event : Event} :
    (event ∈ next.warnings ++ Live.portWarning current next ∧ event.message = portMessage) ↔
      next.serverPort ≠ current.serverPort ∧
        event = .portKept current.serverPort next.serverPort := by
  rw [List.mem_append, Live.portWarning]
  constructor
  · rintro ⟨hmem | hmem, hmessage⟩
    · exact absurd hmessage (message_ne_portMessage hmem)
    · split at hmem
      · cases hmem
      next hne => exact ⟨hne, List.mem_singleton.1 hmem⟩
  · rintro ⟨hne, rfl⟩
    rw [if_neg hne]
    exact ⟨.inr List.mem_cons_self, rfl⟩

/-- **A reload warns truly exactly if the settings in force ask for the port listened on.** -/
theorem truthful_portWarning_iff {listening : Nat} {current next : Config} :
    Truthful listening next.serverPort (next.warnings ++ Live.portWarning current next) ↔
      current.serverPort = listening := by
  constructor
  · intro htruthful
    -- Without a warning the port listened on must be the one requested, with one the one named.
    by_cases hsame : next.serverPort = current.serverPort
    · rw [← hsame]
      refine Decidable.not_not.1 fun hne => ?_
      obtain ⟨event, hmem, hmessage⟩ := htruthful.warns_iff.2 hne
      exact (warned_iff.1 ⟨hmem, hmessage⟩).1 hsame
    · obtain ⟨hmem, hmessage⟩ := warned_iff.2 ⟨hsame, rfl⟩
      have hcurrent := htruthful.current _ hmem hmessage
      have hdigits : Nat.toDigits 10 current.serverPort = Nat.toDigits 10 listening := by
        simpa [Event.fields, ← String.toList_inj] using hcurrent
      rw [← Nat.ofDigitChars_ten_toDigits (n := current.serverPort), hdigits,
        Nat.ofDigitChars_ten_toDigits]
  · rintro rfl
    constructor
    · constructor
      · rintro ⟨event, hmem, hmessage⟩
        exact (warned_iff.1 ⟨hmem, hmessage⟩).1
      · intro hne
        exact ⟨_, warned_iff.2 ⟨hne, rfl⟩⟩
    · intro event hmem hmessage
      obtain ⟨-, rfl⟩ := warned_iff.1 ⟨hmem, hmessage⟩
      rfl

/-! ## Reloads after a start -/

variable {source : Disk} {e : Environment} {live : Live} {next : Config}
  {warnings : List Event}

/-- **A reload of settings that pass every check warns of what is unwise in them, and of the port**,
whether or not they can be put in force. -/
theorem events_reloadFrom (hread : (renewedSettings source e).1 = .ok next)
    (hcheck : next.check = .ok warnings) :
    (live.reloadFrom source e).events = next.warnings ++ Live.portWarning live.config next := by
  obtain ⟨-, -, hgiven⟩ := Service.bind_eq_ok_iff.1 hcheck
  split at hgiven
  · cases hgiven
  cases hgiven
  rw [Live.reloadFrom]
  split
  next hpair =>
    rw [hpair] at hread
    cases hread
  next hpair =>
    rw [hpair] at hread
    cases hread
    simp only [Live.install, hcheck]
    split
    · rfl
    · rw [Live.replace, Config.validate_eq_ok_of_check hcheck]

/-- A service that was started listens on the port of its settings. -/
theorem listen_of_start {listen : Nat → Option String} {d : Disk}
    (h : (start listen d e).result = .ok live) : listen live.config.serverPort = none := by
  rw [start] at h
  split at h
  · cases h
  split at h
  · cases h
  simp only at h
  split at h
  · cases h
  next hlaunch =>
  split at h
  · cases h
  next hlisten =>
    cases h
    rwa [(Live.of_launch hlaunch).1]

/-- **What a reload says of the port, after any run, is true of the settings in force.**  Of the
port that has been listened on since the start it is true exactly if the reload that went well last
asked for that port, or none went well. -/
theorem truthful_iff {listen : Nat → Option String} {d : Disk} {env : Environment}
    (hstart : (start listen d env).result = .ok live) (acts : List Act)
    (hread : (renewedSettings source e).1 = .ok next) (hcheck : next.check = .ok warnings) :
    let port := live.config.serverPort
    let last := ((Scene.start live).installed acts).getLastD live.config
    let events := (((Scene.start live).run acts).live.reloadFrom source e).events
    listen port = none ∧
      (Truthful port next.serverPort events ↔ last.serverPort = port) ∧
      Truthful last.serverPort next.serverPort events := by
  intro port last events
  have hlast : ((Scene.start live).run acts).live.config = last := Scene.config_run _ acts
  have hevents : events = next.warnings ++ Live.portWarning last next := by
    rw [← hlast]
    exact events_reloadFrom hread hcheck
  rw [hevents]
  exact ⟨listen_of_start hstart, truthful_portWarning_iff, truthful_portWarning_iff.2 rfl⟩

end Host

namespace Sample

/-- The settings of the small service with another port. -/
def ported : Config :=
  { rooted "up" with serverPort := 9090 }

/-- An environment with them. -/
def portedEnvironment : Environment where
  values := ("PORT", "9090") :: (environment "up").values

end Sample

open Sample Host in
/-- **Another port that is asked for twice is warned of once.** -/
theorem Host.untruthful_ported :
    (start (fun _ => none) disk (environment "up")).result = .ok (running (rooted "up") disk) ∧
      (renewedSettings disk portedEnvironment).1 = .ok ported ∧ ported.check = .ok [] ∧
      ¬ Truthful 8080 9090 (((Scene.start (running (rooted "up") disk)).run
        [.reload disk portedEnvironment]).live.reloadFrom disk portedEnvironment).events := by
  have hstart : (start (fun _ => none) disk (environment "up")).result =
      .ok (running (rooted "up") disk) := by rfl
  have hread : (renewedSettings disk portedEnvironment).1 = .ok ported := by rfl
  have hcheck : ported.check = .ok [] := by rfl
  have hlast : ((Scene.start (running (rooted "up") disk)).installed
      [.reload disk portedEnvironment]).getLastD (running (rooted "up") disk).config =
        ported := by rfl
  obtain ⟨-, hiff, -⟩ := truthful_iff hstart [.reload disk portedEnvironment] hread hcheck
  refine ⟨hstart, hread, hcheck, fun htruthful => ?_⟩
  have hport := hiff.1 htruthful
  rw [hlast] at hport
  exact absurd hport (by decide)

end HostedFiles
