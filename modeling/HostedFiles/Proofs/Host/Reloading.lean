import HostedFiles.Host.Start
import HostedFiles.Proofs.Disk.Severing
import HostedFiles.Proofs.Disk.Spelling
import HostedFiles.Proofs.Store.Ready

/-!
# Proofs/Host/Reloading — what a reload leads to

A reload can go five ways (`Reloaded`): the settings cannot be read or are not fit, the directory
for uploads cannot be made, it is where it was, or it is made.  In the first three the settings
stay, in the others they are those that were read (`Reloaded.all_or_nothing`).  Nothing goes from
the disk on the way, and the directory of unfinished uploads stays one that is there
(`Reloaded.intact`).
-/

namespace HostedFiles.Host

open HostedFiles.Path (Mentions)

/-! ## Preparing -/

/-- Preparing takes nothing away. -/
theorem grown_prepareUploads {c : Config} {d e : Disk} {result : Except SettingsError Unit}
    (h : prepareUploads c d = (result, e)) :
    d.Grown (Mentions (Store.partialPath c.storagePath)) e := by
  have hmade := Disk.grown_makeDirectories d (Store.partialPath c.storagePath)
  rw [prepareUploads, Store.prepare] at h
  cases hpair : d.makeDirectories (Store.partialPath c.storagePath) with
  | mk made d' =>
    rw [hpair] at h hmade
    cases made with
    | ok _ => cases h; exact hmade
    | error _ => cases h; exact hmade

/-- **The directory of unfinished uploads is there once it is prepared**, and nothing is wrong with
its path. -/
theorem exists_leadsTo_of_prepareUploads {c : Config} {d e : Disk}
    (h : prepareUploads c d = (.ok (), e)) :
    Disk.pathFault? (Store.partialPath c.storagePath) = none ∧
      ∃ q, e.LeadsTo (Store.partialPath c.storagePath) q := by
  rw [prepareUploads] at h
  split at h
  next hprepare =>
    cases h
    rw [Store.prepare] at hprepare
    split at hprepare
    next hmade =>
      cases hprepare
      exact Disk.exists_leadsTo_of_makeDirectories Store.isName_partialName hmade
    next => cases hprepare
  next => cases h

/-- **Preparing what is there changes nothing**, and goes well unless the path is at fault. -/
theorem prepareUploads_of_leadsTo {c : Config} {d : Disk} {q : Place}
    (hsound : Disk.pathFault? (Store.partialPath c.storagePath) = none)
    (h : d.LeadsTo (Store.partialPath c.storagePath) q) : prepareUploads c d = (.ok (), d) := by
  have hmade : d.makeDirectories (Store.partialPath c.storagePath) = (.ok (), d) := by
    rw [Store.partialPath, Disk.makeDirectories_join h Store.isName_partialName,
      ← Store.partialPath, hsound]
  rw [prepareUploads, Store.prepare, hmade]

namespace Live

variable {live : Live} {read : Except ConfigError Config} {change : Change}

/-! ## Reloads -/

/-- A reload when the settings file is that of any disk, and the environment any: both may have been
edited since the settings were last read. -/
def reloadFrom (live : Live) (source : Disk) (e : Environment) : Change :=
  match renewedSettings source e with
  | (.error problem, environment) => fail { live with environment } (.config problem) []
  | (.ok next, environment) => install { live with environment } next

/-- A reload reads the settings from the disk and environment of the service. -/
theorem reload_eq (live : Live) : live.reload = live.reloadFrom live.disk live.environment := rfl

/-- The ways in which a reload goes, given the settings that it reads. -/
inductive Reloaded (live : Live) (read : Except ConfigError Config) : Change → Prop where
  | unread {problem environment} (hread : read = .error problem) :
      Reloaded live read ⟨{ live with environment }, .error (.config problem), []⟩
  | unfit {next problem environment} (hread : read = .ok next)
      (hcheck : next.check = .error problem) :
      Reloaded live read ⟨{ live with environment }, .error (.config problem), []⟩
  | unprepared {next warnings d problem environment events} (hread : read = .ok next)
      (hcheck : next.check = .ok warnings)
      (hsame : Path.same next.storagePath live.config.storagePath = false)
      (hprepare : prepareUploads next live.disk = (.error problem, d)) :
      Reloaded live read ⟨{ live with environment, disk := d }, .error problem, events⟩
  | unmoved {next warnings environment events} (hread : read = .ok next)
      (hcheck : next.check = .ok warnings)
      (hsame : Path.same next.storagePath live.config.storagePath = true) :
      Reloaded live read ⟨{ live with config := next, environment }, .ok (), events⟩
  | moved {next warnings d environment events} (hread : read = .ok next)
      (hcheck : next.check = .ok warnings)
      (hsame : Path.same next.storagePath live.config.storagePath = false)
      (hprepare : prepareUploads next live.disk = (.ok (), d)) :
      Reloaded live read ⟨{ live with config := next, environment, disk := d }, .ok (), events⟩

/-- **A reload goes one of these ways.** -/
theorem reloaded (live : Live) (source : Disk) (e : Environment) :
    Reloaded live (renewedSettings source e).1 (live.reloadFrom source e) := by
  rw [reloadFrom]
  cases renewedSettings source e with
  | mk settings environment =>
    cases settings with
    | error problem => exact .unread rfl
    | ok next =>
      simp only [install]
      cases hcheck : next.check with
      | error problem => exact .unfit rfl hcheck
      | ok warnings =>
        simp only [moveUploads]
        split
        next d hmove =>
          split at hmove
          · cases hmove
          next hsame => exact .unprepared rfl hcheck (Bool.eq_false_iff.2 hsame) hmove
        next d hmove =>
          rw [replace, Config.validate_eq_ok_of_check hcheck]
          split at hmove
          next hsame => cases hmove; exact .unmoved rfl hcheck hsame
          next hsame => exact .moved rfl hcheck (Bool.eq_false_iff.2 hsame) hmove

namespace Reloaded

variable (h : Reloaded live read change)

include h

/-- **A reload that fails leaves the settings as they are, and one that succeeds puts those that
were read in force**, all of them, and only if they pass every check. -/
theorem all_or_nothing :
    (∃ problem, change.result = .error problem) ∧ change.live.config = live.config ∨
      change.result = .ok () ∧ read = .ok change.live.config ∧
        ∃ warnings, change.live.config.check = .ok warnings := by
  cases h with
  | unread => exact .inl ⟨⟨_, rfl⟩, rfl⟩
  | unfit => exact .inl ⟨⟨_, rfl⟩, rfl⟩
  | unprepared => exact .inl ⟨⟨_, rfl⟩, rfl⟩
  | unmoved hread hcheck => exact .inr ⟨rfl, hread, _, hcheck⟩
  | moved hread hcheck => exact .inr ⟨rfl, hread, _, hcheck⟩

/-- Whether the service is in production stays settled. -/
theorem production : change.live.production = live.production := by
  cases h <;> rfl

/-- **Nothing goes from the disk**, and directories are made on the way to the unfinished uploads
under the settings that were read. -/
theorem grown : live.disk.Grown
    (fun name => ∃ next, read = .ok next ∧ Mentions (Store.partialPath next.storagePath) name)
    change.live.disk := by
  cases h with
  | unread => exact .refl _ _
  | unfit => exact .refl _ _
  | unprepared hread _ _ hprepare =>
    exact (grown_prepareUploads hprepare).mono fun name hname => ⟨_, hread, hname⟩
  | unmoved => exact .refl _ _
  | moved hread _ _ hprepare =>
    exact (grown_prepareUploads hprepare).mono fun name hname => ⟨_, hread, hname⟩

end Reloaded

/-- **What decides a reload**: the settings that were read are fit, and their directory is where it
was or can be made. -/
theorem Reloaded.of_check {next : Config} {warnings : List Log.Event} {d : Disk}
    (h : Reloaded live (.ok next) change) (hcheck : next.check = .ok warnings)
    (hmove : moveUploads live.config next live.disk = (.ok (), d)) :
    change.result = .ok () ∧ change.live.config = next ∧ change.live.disk = d := by
  rw [moveUploads] at hmove
  cases h with
  | unread hread => cases hread
  | unfit hread hproblem => cases hread; rw [hcheck] at hproblem; cases hproblem
  | unprepared hread _ hsame hprepare =>
    cases hread
    rw [hsame, if_neg Bool.false_ne_true, hprepare] at hmove
    cases hmove
  | unmoved hread _ hsame =>
    cases hread
    rw [if_pos hsame] at hmove
    cases hmove
    exact ⟨rfl, rfl, rfl⟩
  | moved hread _ hsame hprepare =>
    cases hread
    rw [hsame, if_neg Bool.false_ne_true, hprepare] at hmove
    cases hmove
    exact ⟨rfl, rfl, rfl⟩

/-! ## The directory of unfinished uploads -/

/-- The directory of unfinished uploads under the settings in force is there, and but for its length
its path can be used. -/
structure Intact (live : Live) : Prop where
  no_nul : '\x00' ∉ (Store.partialPath live.config.storagePath).toList
  there : ∃ q, live.disk.LeadsTo (Store.partialPath live.config.storagePath) q

namespace Intact

/-- Where a path can be used, nothing is at fault in it. -/
theorem pathFault? (h : live.Intact)
    (hlen : (Store.partialPath live.config.storagePath).utf8ByteSize < Disk.maxPathBytes) :
    Disk.pathFault? (Store.partialPath live.config.storagePath) = none :=
  Disk.pathFault?_eq_none h.no_nul (Path.join_ne_empty Store.isName_partialName _) hlen

/-- **It is a directory** as far as its path can be used. -/
theorem isDirectory (h : live.Intact)
    (hlen : (Store.partialPath live.config.storagePath).utf8ByteSize < Disk.maxPathBytes) :
    live.disk.isDirectory (Store.partialPath live.config.storagePath) = true :=
  Disk.isDirectory_iff.2 ⟨h.pathFault? hlen, h.there⟩

end Intact

/-- **A service that was started** has its settings, and what they say of production, and its
directories were made. -/
theorem of_launch {c : Config} {e : Environment} {d d₀ : Disk}
    (h : launch c e d = (.ok live, d₀)) :
    live.config = c ∧ live.production = c.isProduction ∧
      prepareUploads c d = (.ok (), live.disk) := by
  rw [launch] at h
  split at h
  next hprepare =>
    cases h
    exact ⟨rfl, rfl, hprepare⟩
  · cases h

/-- A service that was started with settings that are fit has settings that pass every check. -/
theorem check_of_launch {c : Config} {e : Environment} {d d₀ : Disk} {warnings : List Log.Event}
    (hfit : fit c = .ok warnings) (hlaunch : launch c e d = (.ok live, d₀)) :
    live.config.check = .ok warnings := by
  rw [(of_launch hlaunch).1]
  rw [fit] at hfit
  cases hcheck : c.check with
  | ok given => rw [hcheck] at hfit; cases hfit; rfl
  | error problem => rw [hcheck] at hfit; cases hfit

/-- **It is there as soon as the service is.** -/
theorem intact_of_launch {c : Config} {e : Environment} {d d₀ : Disk}
    (h : launch c e d = (.ok live, d₀)) : live.Intact := by
  obtain ⟨rfl, -, hprepare⟩ := of_launch h
  obtain ⟨hsound, hthere⟩ := exists_leadsTo_of_prepareUploads hprepare
  exact ⟨Disk.not_mem_of_pathFault? hsound, hthere⟩

/-- **A service is started without a change to the disk** where the directory is there. -/
theorem launch_of_leadsTo {c : Config} {d : Disk} {q : Place} (e : Environment)
    (hsound : Disk.pathFault? (Store.partialPath c.storagePath) = none)
    (h : d.LeadsTo (Store.partialPath c.storagePath) q) :
    launch c e d =
      (.ok { config := c, production := c.isProduction, environment := e, disk := d }, d) := by
  rw [launch, prepareUploads_of_leadsTo hsound h]

/-- **It is there after a reload if it was before.**  Where it has not moved it is not looked for,
and its path may be spelled otherwise than before. -/
theorem Reloaded.intact (h : Reloaded live read change) (hlive : live.Intact) :
    change.live.Intact := by
  obtain ⟨q, hq⟩ := hlive.there
  have hgrown := h.grown
  cases h with
  | unread => exact ⟨hlive.no_nul, q, hq⟩
  | unfit => exact ⟨hlive.no_nul, q, hq⟩
  | unprepared => exact ⟨hlive.no_nul, q, hgrown.leadsTo hq⟩
  | unmoved _ _ hsame =>
    have hjoined := Path.same_join Store.isName_partialName hsame
    refine ⟨fun hnul => hlive.no_nul ?_, q, hq.respell hjoined⟩
    exact (Path.mem_toList_respell (by decide) (by decide) hjoined).1 hnul
  | moved _ _ _ hprepare =>
    obtain ⟨hsound, hthere⟩ := exists_leadsTo_of_prepareUploads hprepare
    exact ⟨Disk.not_mem_of_pathFault? hsound, hthere⟩

end Live

end HostedFiles.Host
