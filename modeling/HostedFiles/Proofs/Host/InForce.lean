import HostedFiles.Proofs.Disk.Below
import HostedFiles.Proofs.Host.Running
import HostedFiles.Proofs.Service.Refinement

/-!
# Proofs/Host/InForce — the settings in force can be used

Whatever requests and reloads follow a start that goes well: the settings in force pass every
check, and the directory of unfinished uploads under them is there (`settings_in_force`).  The
latter has two exceptions (`unfinished_lost`): a file may take the place of a link that the way to
it leads over, and a path that is only spelled otherwise is not tried before it is put in force.
-/

/-! ## Services that read their settings -/

namespace HostedFiles.Sample

open Http Service Host
open HostedFiles.Path (IsName)

/-- The small service with another root. -/
def rooted (root : String) : Config :=
  { settings with storagePath := root }

/-- Its settings pass every check. -/
theorem check_rooted (root : String) : (rooted root).check = .ok [] :=
  show settings.check = .ok [] by rfl

theorem fit_rooted (root : String) : fit (rooted root) = .ok [] :=
  congrArg (Except.mapError _) (check_rooted root)

/-- An environment with its settings. -/
def environment (root : String) : Environment where
  values := [("ENVIRONMENT", "development"), ("FILEHOST_HOSTNAME", "files.test"),
    ("FILEHOST_AUTHENTICATE", "false"), ("FILEHOST_UPLOAD_PATH", root),
    ("FILEHOST_TOKEN_SECRET", "0123456789abcdef0123456789abcdef")]

/-- The settings are read from it where there is no settings file. -/
theorem renewedSettings_environment {d : Disk} {root : String} (h : Text.isBlankText root = false)
    (hfile : EnvFile.find d = .error .missing) :
    (renewedSettings d (environment root)).1 = .ok (rooted root) := by
  have hpath : Config.Source.textOr (environment root).get? "FILEHOST_UPLOAD_PATH" "data/uploads" =
      root := by
    have hget : (environment root).get? "FILEHOST_UPLOAD_PATH" = some root := by rfl
    rw [Config.Source.textOr, Config.Source.value?, hget, Option.filter_some, h]
    rfl
  have hmount : Config.Source.textOr (environment root).get? "FILEHOST_URI" "/upload" =
      "/upload" := by rfl
  have hslashes : Config.normalizeMountPath "/upload" = "/upload" := by decide
  have hlimit : Config.Source.numberOr (environment root).get? "FILEHOST_MAX_UPLOAD_MB" 10 =
      10 := by rfl
  have hread : Config.read (environment root).get? = .ok (rooted root) := by
    rw [Config.read, hpath, hmount, hslashes, hlimit]
    rfl
  have hvalid := Config.validate_eq_ok_of_check (check_rooted root)
  rw [renewedSettings, EnvFile.loadDefault, hfile]
  simp only [ofEnvironment, Config.ofSource, hread, bind, Except.bind, hvalid]
  rfl

/-- The service that is started with settings on a disk. -/
def running (c : Config) (d : Disk) : Live where
  config := c
  production := c.isProduction
  environment := environment c.storagePath
  disk := d

theorem launch_running {c : Config} {d : Disk} {q : Place}
    (h : d.LeadsTo (Store.partialPath c.storagePath) q)
    (hsound : Disk.pathFault? (Store.partialPath c.storagePath) = none) :
    launch c (environment c.storagePath) d = (.ok (running c d), d) :=
  Live.launch_of_leadsTo _ hsound h

/-- A request to upload a file with the name of the link. -/
def linking : Request :=
  { request with headers := [("content-type", Text.bytes "text/plain"),
      ("content-disposition", Text.bytes "filename=l.d")] }

/-- The disk is prepared. -/
theorem prepared_linked :
    Prepared (rooted "up/l.d") fresh linkedDisk ["up"] ["up", ".partial"] :=
  ⟨linkedDisk_root, linkedDisk_unfinished, proper, by decide +kernel⟩

/-- The file takes the place of the link. -/
theorem same_linking (production : Bool) :
    (answer production (rooted "up/l.d") linking fresh linkedDisk).disk.Same
      (linkedDisk.put ["up", "l.d"] (.file (body linking))) := by
  have hpasses : Passes (rooted "up/l.d") linking fresh "l.d" := ⟨⟨rfl, by rfl⟩, by rfl⟩
  have hverdict : verdict (rooted "up/l.d") linking fresh linkedDisk ["up"] "l.d" = .ok 2 := by rfl
  obtain ⟨-, hdisk⟩ := prepared_linked.answered hpasses production
  rwa [hverdict, left_asked_ok] at hdisk

/-- No way leads over the file. -/
theorem not_leadsTo_linking {live : Live} (hconfig : live.config = rooted "up/l.d")
    (hdisk : live.disk = linkedDisk) (q : Place) :
    ¬ (live.afterRequest linking fresh).disk.LeadsTo (Store.partialPath "up/l.d") q := by
  intro hq
  have hsame : (live.afterRequest linking fresh).disk.Same
      (linkedDisk.put ["up", "l.d"] (.file (body linking))) := by
    rw [Live.disk_afterRequest, Live.answer, hconfig, hdisk]
    exact same_linking live.production
  have hput : (linkedDisk.put ["up", "l.d"] (.file (body linking))).LeadsTo "up" ["up"] :=
    ⟨_, .down (by decide) rfl .stay⟩
  have hup := hput.congr hsame.working (fun r hr => (hsame.get? r).trans hr)
    fun r target hr => (hsame.get? r).trans hr
  have hfile := (hsame.get? (["up"] ++ ["l.d"])).trans
    ((Disk.get?_put linkedDisk (by simp) _ _).trans (if_pos rfl))
  have hname : IsName "l.d" := ⟨by decide, by decide, by decide, by decide⟩
  obtain ⟨p, -, hroot, -⟩ := hq.exists_of_join Store.isName_partialName
  have hjoin : "up/l.d" = Path.join "up" "l.d" := by decide
  rw [hjoin] at hroot
  have hdirectory := (Disk.LeadsTo.below hup hroot hname fun target hlink => by
    rw [hfile] at hlink
    cases hlink).2
  rw [hfile] at hdirectory
  cases hdirectory

/-- Slashes behind a name are another spelling of the name. -/
theorem same_slashed (n : Nat) : Path.same (slashed n) "u" = true := by
  have hnone : (List.replicate (n + 1) []).filterMap Path.component? = [] := by
    rw [List.filterMap_replicate]
    rfl
  rw [Path.same, Path.components, pieces_slashed]
  simp only [hnone]
  rfl

theorem isBlankText_slashed (n : Nat) : Text.isBlankText (slashed n) = false := by
  rw [Text.isBlankText, slashed, String.toList_ofList, List.all_cons]
  rfl

end HostedFiles.Sample

namespace HostedFiles.Host

/-! ## What is in force -/

/-- What acts take from outside is as it should be: no directory bears the name of an unfinished
file, and no path to unfinished uploads mentions it. -/
structure Fair (live : Live) (acts : List Act) : Prop where
  usable : Usable (acts.filterMap Act.fresh?) (live.config :: acts.filterMap Act.settings?)
  lacks : ∀ fresh ∈ acts.filterMap Act.fresh?, live.disk.Lacks (fresh.mark ++ ".part")

namespace Fair

variable {live : Live} {acts : List Act}

/-- What the acts take from outside, and the settings that are ever in force. -/
theorem among : ∀ act ∈ acts,
    act.Among (acts.filterMap Act.fresh?) (live.config :: acts.filterMap Act.settings?) :=
  fun act hact => ⟨fun _ h => List.mem_filterMap.2 ⟨act, hact, h⟩,
    fun _ h => List.mem_cons_of_mem _ (List.mem_filterMap.2 ⟨act, hact, h⟩)⟩

/-- A service that has only been started is tidy. -/
theorem tidy (h : Fair live acts) :
    Tidy (acts.filterMap Act.fresh?) (live.config :: acts.filterMap Act.settings?)
      (Scene.start live) :=
  ⟨List.mem_cons_self, nofun, h.lacks⟩

/-- **On a disk without links the way to the unfinished uploads is never disturbed.** -/
theorem undisturbed (h : Fair live acts) (hfree : live.disk.LinkFree) :
    Undisturbed (Scene.start live) acts :=
  h.tidy.undisturbed h.usable among hfree

end Fair

/-- **The settings in force can be used, whatever requests and reloads follow a start.**  They pass
every check.  The directory of unfinished uploads is there, unless a link went that the way to it
leads over or its path is too long to be used.  And a reload leaves them as they are or replaces
them as a whole by those that it reads. -/
theorem settings_in_force {c : Config} {e : Environment} {d d₀ : Disk} {live : Live}
    {warnings : List Log.Event} (hfit : fit c = .ok warnings)
    (hlaunch : launch c e d = (.ok live, d₀)) (acts : List Act) :
    let now := ((Scene.start live).run acts).live
    (∃ warnings, now.config.check = .ok warnings) ∧
      (Fair live acts → Undisturbed (Scene.start live) acts →
        (Store.partialPath now.config.storagePath).utf8ByteSize < Disk.maxPathBytes →
        now.disk.isDirectory (Store.partialPath now.config.storagePath) = true) ∧
      ∀ (source : Disk) (e : Environment),
        (∃ problem, (now.reloadFrom source e).result = .error problem) ∧
            (now.reloadFrom source e).live.config = now.config ∨
          (now.reloadFrom source e).result = .ok () ∧
            (renewedSettings source e).1 = .ok (now.reloadFrom source e).live.config := by
  intro now
  have hcheck := Scene.check_run (s := Scene.start live) acts
    ⟨warnings, Live.check_of_launch hfit hlaunch⟩
  refine ⟨hcheck, fun hfair hundisturbed hlen => ?_, fun source e => ?_⟩
  · have hintact := hfair.tidy.intact_run hfair.usable Fair.among (Live.intact_of_launch hlaunch)
      hundisturbed
    exact hintact.isDirectory hlen
  · exact (now.reloaded source e).all_or_nothing.imp_right fun h => ⟨h.1, h.2.1⟩

open Sample in
/-- The settings are read anew with another root. -/
theorem renewedSettings_moved : (renewedSettings disk (environment "down")).1 =
    .ok (rooted "down") :=
  renewedSettings_environment (by decide) (by rfl)

open Sample in
/-- They are put in force. -/
theorem config_moved :
    ((running (rooted "up") disk).reloadFrom disk (environment "down")).live.config =
      rooted "down" := by
  have hmove : Live.moveUploads (rooted "up") (rooted "down") disk =
      (.ok (), (disk.put ["down"] .directory).put ["down", ".partial"] .directory) := by rfl
  have hreloaded := (running (rooted "up") disk).reloaded disk (environment "down")
  rw [renewedSettings_moved] at hreloaded
  exact (hreloaded.of_check (check_rooted "down") hmove).2.1

open Sample in
/-- No directory bears the name of the unfinished file, and neither root mentions it. -/
theorem fair_moved : Fair (running (rooted "up") disk)
    [.reload disk (environment "down"), .request request Sample.fresh] := by
  refine ⟨fun f hf => ?_, fun f hf => ?_⟩
  · obtain rfl : Sample.fresh = f := by simpa [Act.fresh?] using hf
    refine ⟨proper, fun c hc => ?_⟩
    have hroot : c = rooted "up" ∨ c = rooted "down" := by
      simpa [Act.settings?, renewedSettings_moved, running, Except.toOption] using hc
    rcases hroot with rfl | rfl <;> decide
  · obtain rfl : Sample.fresh = f := by simpa [Act.fresh?] using hf
    intro r hr
    rcases (of_get?_disk hr).2 with rfl | rfl | rfl <;> decide

open Sample in
/-- A reload moves the root, and then a file is uploaded: the new root has its directory. -/
theorem in_force_moved : fit (rooted "up") = .ok [] ∧
    launch (rooted "up") (environment "up") disk = (.ok (running (rooted "up") disk), disk) ∧
      let now := ((Scene.start (running (rooted "up") disk)).run
        [.reload disk (environment "down"), .request request Sample.fresh]).live
      now.config = rooted "down" ∧ now.disk.isDirectory "down/.partial" = true := by
  have hlaunch := launch_running (c := rooted "up") disk_unfinished (by decide)
  refine ⟨fit_rooted "up", hlaunch, ?_⟩
  intro now
  have hroot : now.config = rooted "down" := by
    simp only [now, Scene.run_cons, Scene.run_nil, Scene.live_request, Live.afterRequest,
      Scene.live_reload, Scene.live_start, config_moved]
  have hthere := (settings_in_force (fit_rooted "up") hlaunch
    [.reload disk (environment "down"), .request request Sample.fresh]).2.1 fair_moved
    (fair_moved.undisturbed linkFree_disk)
  refine ⟨hroot, ?_⟩
  rw [hroot] at hthere
  exact hthere (by decide)

open Sample in
/-- A root that is only spelled otherwise is put in force, however long its path is. -/
theorem reload_slashed {n : Nat} (h : Disk.maxPathBytes ≤ n + 10) :
    let change := (running (rooted "u") deepDisk).reloadFrom deepDisk (environment (slashed n))
    change.result = .ok () ∧
      change.live.disk.isDirectory (Store.partialPath change.live.config.storagePath) = false := by
  have hreloaded := (running (rooted "u") deepDisk).reloaded deepDisk (environment (slashed n))
  rw [renewedSettings_environment (isBlankText_slashed n) (by rfl)] at hreloaded
  have hmove : Live.moveUploads (rooted "u") (rooted (slashed n)) deepDisk = (.ok (), deepDisk) :=
    if_pos (same_slashed n)
  obtain ⟨hresult, hconfig, -⟩ := hreloaded.of_check (check_rooted _) hmove
  refine ⟨hresult, Bool.eq_false_iff.2 fun hdirectory => ?_⟩
  have hfault := (Disk.isDirectory_iff.1 hdirectory).1
  rw [hconfig, rooted, Store.partialPath,
    pathFault?_join_slashed n _ Store.isName_partialName (by decide), if_pos] at hfault
  · cases hfault
  · exact Nat.le_trans h (Nat.le_of_eq (by rfl))

open Sample in
/-- **The directory of unfinished uploads is not there always.** -/
theorem unfinished_lost :
    (fit (rooted "up/l.d") = .ok [] ∧
      launch (rooted "up/l.d") (environment "up/l.d") linkedDisk =
        (.ok (running (rooted "up/l.d") linkedDisk), linkedDisk) ∧
      let now := ((Scene.start (running (rooted "up/l.d") linkedDisk)).run
        [.request linking Sample.fresh]).live
      now.disk.isDirectory (Store.partialPath now.config.storagePath) = false) ∧
    (fit (rooted "u") = .ok [] ∧
      launch (rooted "u") (environment "u") deepDisk =
        (.ok (running (rooted "u") deepDisk), deepDisk) ∧
      let change := (running (rooted "u") deepDisk).reloadFrom deepDisk (environment (slashed 4090))
      change.result = .ok () ∧
        change.live.disk.isDirectory (Store.partialPath change.live.config.storagePath) =
          false) := by
  have hdeep : deepDisk.LeadsTo (Store.partialPath "u") ["u", ".partial"] :=
    ⟨_, .down (by decide) rfl (.down (by decide) rfl .stay)⟩
  have hlinked := launch_running (c := rooted "up/l.d") prepared_linked.unfinished (by decide)
  refine ⟨⟨fit_rooted _, hlinked, ?_⟩,
    ⟨fit_rooted _, launch_running (c := rooted "u") hdeep (by decide), ?_⟩⟩
  · intro now
    have hnow : now = (running (rooted "up/l.d") linkedDisk).afterRequest linking Sample.fresh :=
      Scene.live_request (Scene.start _) _ _
    refine Bool.eq_false_iff.2 fun hdirectory => ?_
    obtain ⟨-, q, hq⟩ := Disk.isDirectory_iff.1 hdirectory
    rw [hnow] at hq
    exact not_leadsTo_linking rfl rfl q hq
  · exact reload_slashed (by decide)

end HostedFiles.Host
