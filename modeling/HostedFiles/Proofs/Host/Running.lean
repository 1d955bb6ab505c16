import HostedFiles.Proofs.Host.Reloading
import HostedFiles.Proofs.Service.Keeping

/-!
# Proofs/Host/Running — a service between requests and reloads

Requests are answered and settings are read anew in any order, and uploads that are under way take
their steps in between, each under the settings with which it began (`Scene.run`).  Every act keeps
all directories (`Tidy.built_after`), so the directory of unfinished uploads stays there
(`Tidy.intact_run`) as long as no link goes that its path leads over (`Undisturbed`).
-/

namespace HostedFiles.Host

open HostedFiles.Path (Mentions)
open HostedFiles.Service (begun?)

/-! ## Runs -/

/-- A service with the uploads that are under way in it, each with where it stands. -/
structure Scene where
  live : Live
  underway : List (Upload × Upload.Phase)

/-- What happens to a service. -/
inductive Act where
  /-- A request is answered before anything else happens. -/
  | request (r : Http.Request) (fresh : Fresh)
  /-- A request comes whose upload is under way from now on. -/
  | arrive (r : Http.Request) (fresh : Fresh)
  /-- One of the uploads under way takes a step. -/
  | turn (i : Nat)
  /-- The settings are read anew, from the settings file of a disk and from an environment. -/
  | reload (source : Disk) (e : Environment)

@[simp]
theorem Live.disk_afterRequest (live : Live) (r : Http.Request) (fresh : Fresh) :
    (live.afterRequest r fresh).disk = (live.answer r fresh).disk := rfl

namespace Scene

/-- A service that has only been started. -/
def start (live : Live) : Scene where
  live := live
  underway := []

/-- The service after an act. -/
def after (s : Scene) : Act → Scene
  | .request r fresh => { s with live := s.live.afterRequest r fresh }
  | .arrive r fresh =>
    match begun? s.live.config r fresh with
    | some u => { s with underway := s.underway ++ [(u, .preparing)] }
    | none => s
  | .turn i =>
    match s.underway[i]? with
    | some (u, phase) =>
      let progress := u.step s.live.disk phase
      { live := { s.live with disk := progress.disk }
        underway := s.underway.set i (u, progress.phase) }
    | none => s
  | .reload source e => { s with live := (s.live.reloadFrom source e).live }

/-- The service after acts. -/
def run (s : Scene) (acts : List Act) : Scene :=
  acts.foldl after s

@[simp]
theorem run_nil (s : Scene) : s.run [] = s := rfl

@[simp]
theorem run_cons (s : Scene) (act : Act) (rest : List Act) :
    s.run (act :: rest) = (s.after act).run rest := rfl

@[simp]
theorem live_start (live : Live) : (start live).live = live := rfl

@[simp]
theorem live_request (s : Scene) (r : Http.Request) (fresh : Fresh) :
    (s.after (.request r fresh)).live = s.live.afterRequest r fresh := rfl

@[simp]
theorem live_reload (s : Scene) (source : Disk) (e : Environment) :
    (s.after (.reload source e)).live = (s.live.reloadFrom source e).live := rfl

end Scene

variable {s : Scene} {act : Act} {acts : List Act}

/-! ## The settings in force -/

/-- **Settings in force pass every check after an act if they did before.** -/
theorem Scene.check_after (act : Act) (h : ∃ warnings, s.live.config.check = .ok warnings) :
    ∃ warnings, (s.after act).live.config.check = .ok warnings := by
  cases act with
  | request r fresh => exact h
  | arrive r fresh => simp only [after]; split <;> exact h
  | turn i => simp only [after]; split <;> exact h
  | reload source e =>
    rcases (s.live.reloaded source e).all_or_nothing with ⟨-, hsame⟩ | ⟨-, -, hcheck⟩
    · simp only [after, hsame]
      exact h
    · exact hcheck

/-- Whether the service is in production is settled when it starts. -/
theorem Scene.production_after (s : Scene) (act : Act) :
    (s.after act).live.production = s.live.production := by
  cases act with
  | request r fresh => rfl
  | arrive r fresh => simp only [after]; split <;> rfl
  | turn i => simp only [after]; split <;> rfl
  | reload source e => exact (s.live.reloaded source e).production

/-- **Settings in force pass every check throughout a run.** -/
theorem Scene.check_run (acts : List Act) (h : ∃ warnings, s.live.config.check = .ok warnings) :
    ∃ warnings, (s.run acts).live.config.check = .ok warnings := by
  induction acts generalizing s with
  | nil => exact h
  | cons act rest ih => exact ih (check_after act h)

/-- A run does not change whether the service is in production. -/
theorem Scene.production_run (s : Scene) (acts : List Act) :
    (s.run acts).live.production = s.live.production := by
  induction acts generalizing s with
  | nil => rfl
  | cons act rest ih => exact (ih (s.after act)).trans (s.production_after act)

/-! ## Directories -/

/-- What an act takes from outside for an upload. -/
def Act.fresh? : Act → Option Fresh
  | request _ fresh | arrive _ fresh => some fresh
  | turn _ | reload .. => none

/-- The settings that an act reads, if it reads any. -/
def Act.settings? : Act → Option Config
  | reload source e => (renewedSettings source e).1.toOption
  | _ => none

/-- What an act takes from outside is among some marks, and the settings that it reads are among
some settings. -/
structure Act.Among (marks : List Fresh) (settings : List Config) (act : Act) : Prop where
  fresh : ∀ fresh, act.fresh? = some fresh → fresh ∈ marks
  settings : ∀ c, act.settings? = some c → c ∈ settings

/-- Marks that a service can use under any of some settings: they are as they should be, and no path
to unfinished uploads mentions the name of an unfinished file. -/
def Usable (marks : List Fresh) (settings : List Config) : Prop :=
  ∀ fresh ∈ marks, fresh.Proper ∧
    ∀ c ∈ settings, ¬ Mentions (Store.partialPath c.storagePath) (fresh.mark ++ ".part")

/-- A path to unfinished uploads under one of some settings mentions the name. -/
def MentionedBy (settings : List Config) (name : String) : Prop :=
  ∃ c ∈ settings, Mentions (Store.partialPath c.storagePath) name

/-- A service in which uploads have some marks and roots of some settings, and no directory bears
the name of an unfinished file. -/
structure Tidy (marks : List Fresh) (settings : List Config) (s : Scene) : Prop where
  config : s.live.config ∈ settings
  underway : ∀ x ∈ s.underway, (∃ fresh ∈ marks, x.1.mark = fresh.mark) ∧
    ∃ c ∈ settings, x.1.root = c.storagePath
  lacks : ∀ fresh ∈ marks, s.live.disk.Lacks (fresh.mark ++ ".part")

namespace Tidy

variable {marks : List Fresh} {settings : List Config}

/-- The settings in force are known after an act. -/
theorem config_after (h : Tidy marks settings s) (hact : act.Among marks settings) :
    (s.after act).live.config ∈ settings := by
  cases act with
  | request r fresh => exact h.config
  | arrive r fresh => simp only [Scene.after]; split <;> exact h.config
  | turn i => simp only [Scene.after]; split <;> exact h.config
  | reload source e =>
    rcases (s.live.reloaded source e).all_or_nothing with ⟨-, hsame⟩ | ⟨-, hread, -⟩
    · rw [Scene.live_reload, hsame]
      exact h.config
    · exact hact.settings _ (by rw [Act.settings?, hread]; rfl)

/-- The uploads under way have known marks and roots after an act. -/
theorem underway_after (h : Tidy marks settings s) (hact : act.Among marks settings) :
    ∀ x ∈ (s.after act).underway, (∃ fresh ∈ marks, x.1.mark = fresh.mark) ∧
      ∃ c ∈ settings, x.1.root = c.storagePath := by
  cases act with
  | request r fresh => exact h.underway
  | arrive r fresh =>
    simp only [Scene.after]
    split
    next u hbegun =>
      obtain ⟨hroot, hmark⟩ := Service.of_begun? hbegun
      intro x hx
      rcases List.mem_append.1 hx with hx | hx
      · exact h.underway x hx
      · rw [List.mem_singleton.1 hx]
        exact ⟨⟨fresh, hact.fresh fresh rfl, hmark⟩, _, h.config, hroot⟩
    next => exact h.underway
  | turn i =>
    simp only [Scene.after]
    split
    next u phase hget =>
      intro x hx
      rcases List.mem_or_eq_of_mem_set hx with hx | rfl
      · exact h.underway x hx
      · exact h.underway (u, phase) (List.mem_of_getElem? hget)
    next => exact h.underway
  | reload source e => exact h.underway

variable (husable : Usable marks settings) (h : Tidy marks settings s)

include husable h

/-- A step of an upload under way keeps all directories. -/
theorem built_step {u : Upload} {phase : Upload.Phase} (hmem : (u, phase) ∈ s.underway) :
    s.live.disk.Built (MentionedBy settings) (u.step s.live.disk phase).disk := by
  obtain ⟨⟨fresh, hfresh, hmark⟩, c, hc, hroot⟩ := h.underway _ hmem
  have hname : u.unfinishedName = fresh.mark ++ ".part" := by rw [Upload.unfinishedName, hmark]
  have hstep := Upload.built_step (u := u) (hname ▸ (husable fresh hfresh).1.isName_unfinished)
    (hname ▸ h.lacks fresh hfresh) phase
  exact hstep.mono fun name hmentions => ⟨c, hc, hroot ▸ hmentions⟩

/-- A request that is answered keeps all directories. -/
theorem built_request {r : Http.Request} {fresh : Fresh} (hfresh : fresh ∈ marks) :
    s.live.disk.Built (MentionedBy settings) (s.live.answer r fresh).disk := by
  obtain ⟨hproper, hunmentioned⟩ := husable fresh hfresh
  rw [Live.answer, Service.disk_answer hproper]
  cases hbegun : begun? s.live.config r fresh with
  | none => exact .refl _ _
  | some u =>
    obtain ⟨hroot, hmark⟩ := Service.of_begun? hbegun
    have hname : u.unfinishedName = fresh.mark ++ ".part" := by rw [Upload.unfinishedName, hmark]
    have hfinish := Upload.built_finish (u := u) (hname ▸ hproper.isName_unfinished)
      (hname ▸ hroot ▸ hunmentioned _ h.config) (hname ▸ h.lacks fresh hfresh) .preparing
    exact hfinish.mono fun name hmentions => ⟨_, h.config, hroot ▸ hmentions⟩

variable (hact : act.Among marks settings)

include hact

/-- **Every act keeps all directories**, and makes some on the way to unfinished uploads at most. -/
theorem built_after : s.live.disk.Built (MentionedBy settings) (s.after act).live.disk := by
  cases act with
  | request r fresh => exact h.built_request husable (hact.fresh fresh rfl)
  | arrive r fresh => simp only [Scene.after]; split <;> exact .refl _ _
  | turn i =>
    simp only [Scene.after]
    split
    next u phase hget => exact h.built_step husable (List.mem_of_getElem? hget)
    next => exact .refl _ _
  | reload source e =>
    refine (s.live.reloaded source e).grown.toBuilt.mono fun name hname => ?_
    obtain ⟨next, hread, hmentions⟩ := hname
    exact ⟨next, hact.settings next (by rw [Act.settings?, hread]; rfl), hmentions⟩

/-- **A service stays tidy.** -/
theorem after : Tidy marks settings (s.after act) where
  config := h.config_after hact
  underway := h.underway_after hact
  lacks := fun fresh hfresh => by
    refine (h.built_after husable hact).lacks (fun hmentioned => ?_) (h.lacks fresh hfresh)
    obtain ⟨c, hc, hmentions⟩ := hmentioned
    exact (husable fresh hfresh).2 c hc hmentions

/-- **An act leaves the directory of unfinished uploads there**, if no link goes that its path leads
over. -/
theorem intact_after (hintact : s.live.Intact)
    (hsevers : ¬ s.live.disk.Severs (s.after act).live.disk
      (Store.partialPath s.live.config.storagePath)) : (s.after act).live.Intact := by
  have hbuilt := h.built_after husable hact
  obtain ⟨q, hq⟩ := hintact.there
  have hthere := hq.of_not_severs hbuilt hsevers
  cases act with
  | request r fresh => exact ⟨hintact.no_nul, q, hthere⟩
  | arrive r fresh =>
    simp only [Scene.after]
    split <;> exact hintact
  | turn i =>
    simp only [Scene.after] at hthere ⊢
    split
    next u phase hget =>
      simp only [hget] at hthere
      exact ⟨hintact.no_nul, q, hthere⟩
    next => exact hintact
  | reload source e => exact (s.live.reloaded source e).intact hintact

end Tidy

/-- No act takes a link away that the path to unfinished uploads leads over, under the settings then
in force. -/
def Undisturbed (s : Scene) : List Act → Prop
  | [] => True
  | act :: rest =>
    ¬ s.live.disk.Severs (s.after act).live.disk (Store.partialPath s.live.config.storagePath) ∧
      Undisturbed (s.after act) rest

namespace Tidy

variable {marks : List Fresh} {settings : List Config} (husable : Usable marks settings)
  (h : Tidy marks settings s) (hacts : ∀ act ∈ acts, act.Among marks settings)

include husable h hacts

/-- **The directory of unfinished uploads is there throughout a run** that does not disturb it. -/
theorem intact_run (hintact : s.live.Intact) (hundisturbed : Undisturbed s acts) :
    (s.run acts).live.Intact := by
  induction acts generalizing s with
  | nil => exact hintact
  | cons act rest ih =>
    obtain ⟨hact, hrest⟩ := List.forall_mem_cons.1 hacts
    exact ih (h.after husable hact) hrest (h.intact_after husable hact hintact hundisturbed.1)
      hundisturbed.2

/-- **Where there are no links, no run disturbs**: none is made. -/
theorem undisturbed (hfree : s.live.disk.LinkFree) : Undisturbed s acts := by
  induction acts generalizing s with
  | nil => trivial
  | cons act rest ih =>
    obtain ⟨hact, hrest⟩ := List.forall_mem_cons.1 hacts
    exact ⟨Disk.not_severs fun r target hlink => absurd hlink (hfree r target),
      ih (h.after husable hact) hrest ((h.built_after husable hact).linkFree hfree)⟩

end Tidy

end HostedFiles.Host
