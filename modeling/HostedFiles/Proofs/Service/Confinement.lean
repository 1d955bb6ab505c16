import HostedFiles.Proofs.Service.Retrievals
import HostedFiles.Proofs.Service.Uploads

/-!
# Proofs/Service/Confinement — requests stay among the files under the root

Two disks may differ wherever they like; if the same stands under each name directly under the root,
then every request is answered alike on both, and again the same stands under each name
(`answer_congr`).  On each of them a request can change what stands under one name that the store
takes, and nothing else (`exists_changed`).
-/

namespace HostedFiles.Service

open Http

variable {production : Bool} {c : Config} {r : Request} {fresh : Fresh} {d e : Disk} {p q : Place}

/-! ## What a service sees of a disk -/

/-- The files of a service are enclosed in the directory `p`: the root leads to it, the directory of
unfinished uploads stands in it, and no link does, which could lead out of it.  The name that the
unfinished file is to have is free. -/
structure Enclosed (c : Config) (fresh : Fresh) (d : Disk) (p : Place) : Prop where
  root : d.LeadsTo c.storagePath p
  unfinished : d.get? (p ++ [Store.partialName]) = some .directory
  no_link : ∀ name target, d.get? (p ++ [name]) ≠ some (.link target)
  unused : d.get? (p ++ [Store.partialName] ++ [fresh.mark ++ ".part"]) = none

/-- The same stands under each name in the directory `p` of one disk and in `q` of another. -/
def SameNames (d : Disk) (p : Place) (e : Disk) (q : Place) : Prop :=
  ∀ name, d.get? (p ++ [name]) = e.get? (q ++ [name])

namespace Enclosed

variable (h : Enclosed c fresh d p)

include h

/-- A disk with enclosed files is prepared for an upload. -/
theorem prepared (hproper : fresh.Proper) : Prepared c fresh d p (p ++ [Store.partialName]) where
  root := h.root
  unfinished := h.root.join Store.isName_partialName (by decide) h.unfinished
  proper := hproper
  unused := h.unused

/-- **Looking for a name shows what stands under it in the directory.** -/
theorem stat (he : Enclosed c fresh e q) (hsame : SameNames d p e q) {name : String}
    (hname : Store.IsStored name) :
    d.stat (Path.join c.storagePath name) = e.stat (Path.join c.storagePath name) := by
  rw [Disk.stat_join h.root hname.isName (h.no_link name),
    Disk.stat_join he.root hname.isName (he.no_link name), hsame name]

end Enclosed

/-! ## One run -/

/-- **A request changes what stands under the one name, and nothing else.** -/
theorem Prepared.get?_answer (h : Prepared c fresh d p q) {s : Place}
    (hs : s ≠ p ++ [writtenName c r fresh]) :
    (answer production c r fresh d).disk.get? s = d.get? s := by
  by_cases hpasses : ∃ name, Passes c r fresh name
  · obtain ⟨name, hpasses⟩ := hpasses
    rw [writtenName, hpasses.checked] at hs
    rw [(h.answered hpasses production).2.get?]
    cases verdict c r fresh d p name with
    | error e => rfl
    | ok n => rw [left_asked_ok, Disk.get?_put d (by simp), if_neg hs]
  · rw [(answer_of_not_passes (not_exists.1 hpasses)).1]

/-! ## Two runs -/

/-- **Two disks that a service sees the same of are answered alike**, and it sees the same of them
again. -/
theorem Enclosed.answer_congr (h : Enclosed c fresh d p) (he : Enclosed c fresh e q)
    (hproper : fresh.Proper) (hsame : SameNames d p e q) (production : Bool) (r : Request) :
    (answer production c r fresh d).response = (answer production c r fresh e).response ∧
      SameNames (answer production c r fresh d).disk p (answer production c r fresh e).disk q := by
  rw [answer, answer]
  simp only
  by_cases hupload : IsUpload c r
  · rw [respond_of_isUpload hupload, respond_of_isUpload hupload]
    cases hcheck : checkUpload c r fresh with
    | error f =>
      obtain ⟨hresponse, hdisk⟩ := upload_of_error (d := d) hcheck
      obtain ⟨hresponse', hdisk'⟩ := upload_of_error (d := e) hcheck
      rw [hresponse, hresponse', hdisk, hdisk']
      exact ⟨rfl, hsame⟩
    | ok name =>
      obtain ⟨hresponse, hdisk⟩ := (h.prepared hproper).upload hcheck
      obtain ⟨hresponse', hdisk'⟩ := (he.prepared hproper).upload hcheck
      -- Both verdicts look at what stands under the name, which is the same.
      have hverdict : verdict c r fresh d p name = verdict c r fresh e q name := by
        rw [verdict, verdict, hsame name]
      rw [hresponse, hresponse', hverdict]
      refine ⟨rfl, fun other => ?_⟩
      rw [hdisk.get?, hdisk'.get?, hverdict]
      cases verdict c r fresh e q name with
      | error _ => exact hsame other
      | ok n =>
        rw [left_asked_ok, left_asked_ok, Disk.get?_put d (by simp), Disk.get?_put e (by simp),
          hsame other]
        simp only [List.append_cancel_left_eq]
  · rw [(respond_of_not_isUpload hupload).1, (respond_of_not_isUpload hupload).1]
    refine ⟨congrArg _ ?_, hsame⟩
    rw [respond, respond]
    cases hroute : route c r.method r.path with
    | health => rfl
    | upload =>
      have hmethod : r.method ≠ "POST" := fun hmethod => hupload ⟨hmethod, hroute⟩
      simp only [atUpload, if_neg hmethod]
      split <;> rfl
    | file rest => exact retrieve_congr fun name hname => h.stat he hsame hname
    | none => rfl

end HostedFiles.Service

/-! ## Two disks of a small service -/

namespace HostedFiles.Sample

open Http Service

/-- Another disk for it: the root stands elsewhere, an upload was left unfinished, and there is a
file outside. -/
def elsewhere : Disk where
  entries := .ofList [(["srv"], .directory), (["srv", "up"], .directory),
    (["srv", "up", ".partial"], .directory),
    (["srv", "up", ".partial", "old.part"], .file ByteArray.empty),
    (["srv", "secret"], .file (Text.bytes "secret").toByteArray)]
  working := ["srv"]

theorem get?_elsewhere (name : String) :
    elsewhere.get? (["srv", "up"] ++ [name]) =
      if name = ".partial" then some .directory else none := by
  simp [elsewhere, Disk.get?, Tree.ofList, Tree.get?_put]

/-- The files are enclosed on both disks. -/
theorem enclosed : Enclosed settings fresh disk ["up"] ∧
    Enclosed settings fresh elsewhere ["srv", "up"] := by
  have hup : elsewhere.LeadsTo "up" ["srv", "up"] := ⟨_, .down (by decide) rfl .stay⟩
  have hdisk : Prepared settings fresh disk ["up"] ["up", ".partial"] := prepared rfl
  refine ⟨⟨hdisk.root, ?_, fun name target => ?_, hdisk.unused⟩,
    ⟨hup, ?_, fun name target => ?_, ?_⟩⟩
  · exact get?_disk ".partial"
  · rw [get?_disk]
    split <;> simp
  · exact get?_elsewhere ".partial"
  · rw [get?_elsewhere]
    split <;> simp
  · decide +kernel

end HostedFiles.Sample

/-! ## Confinement -/

namespace HostedFiles.Service

open Http

variable {production : Bool} {c : Config} {r : Request} {fresh : Fresh} {d e : Disk} {p q : Place}

/-- **No request reaches outside the files under the root**: it is answered alike on all disks on
which the same stands under each name there, the same stands under each name again, and one name
that the store takes is the only one under which anything changes. -/
theorem confined (h : Enclosed c fresh d p) (he : Enclosed c fresh e q) (hproper : fresh.Proper)
    (hsame : SameNames d p e q) :
    (answer production c r fresh d).response = (answer production c r fresh e).response ∧
      SameNames (answer production c r fresh d).disk p (answer production c r fresh e).disk q ∧
      ∃ name, Store.IsStored name ∧
        (∀ s, s ≠ p ++ [name] → (answer production c r fresh d).disk.get? s = d.get? s) ∧
        (∀ s, s ≠ q ++ [name] → (answer production c r fresh e).disk.get? s = e.get? s) := by
  obtain ⟨hresponse, hagain⟩ := h.answer_congr he hproper hsame production r
  exact ⟨hresponse, hagain, writtenName c r fresh, isStored_writtenName hproper,
    fun _ hs => (h.prepared hproper).get?_answer hs,
    fun _ hs => (he.prepared hproper).get?_answer hs⟩

open Sample in
/-- An upload is answered alike on two disks that differ outside the root and among the unfinished
uploads, and the file outside is as it was. -/
theorem confined_upload : settings.check = .ok [] ∧
    (answer false settings request Sample.fresh disk).response =
      (answer false settings request Sample.fresh elsewhere).response ∧
    (answer false settings request Sample.fresh elsewhere).disk.get? ["srv", "secret"] =
      elsewhere.get? ["srv", "secret"] := by
  have hsame : SameNames disk ["up"] elsewhere ["srv", "up"] :=
    fun name => (get?_disk name).trans (get?_elsewhere name).symm
  obtain ⟨hresponse, -, name, -, -, hkept⟩ :=
    @confined false settings request Sample.fresh disk elsewhere ["up"] ["srv", "up"]
      enclosed.1 enclosed.2 proper hsame
  exact ⟨by rfl, hresponse, hkept ["srv", "secret"] (by simp)⟩

end HostedFiles.Service
