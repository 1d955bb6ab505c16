import HostedFiles.Proofs.Samples
import HostedFiles.Proofs.Service.Names
import HostedFiles.Proofs.Service.Responses
import HostedFiles.Proofs.Service.Retrievals
import HostedFiles.Proofs.Store.Effects

/-!
# Proofs/Service/Uploads — what an upload is answered and what it leaves

Only an upload that passes the checks can change the disk or be answered as created
(`answer_of_not_passes`).  On a disk that is prepared for it, it is answered by the verdict of the
store and leaves what the verdict says (`Prepared.answered`).
-/

namespace HostedFiles.Service

open Http

variable {production : Bool} {c : Config} {r : Request} {fresh : Fresh} {d : Disk} {p q : Place}
  {name : String}

/-! ## Requests that are no uploads -/

/-- The request is to upload a file. -/
structure IsUpload (c : Config) (r : Request) : Prop where
  method : r.method = "POST"
  route : route c r.method r.path = .upload

/-- An upload is taken in. -/
theorem respond_of_isUpload (h : IsUpload c r) : respond c r fresh d = upload c r fresh d := by
  rw [respond, h.route]
  simp only
  rw [atUpload, h.method, if_neg (by decide), if_pos rfl]

/-- What is given out is not created. -/
theorem ok_ne_created : Status.ok ≠ .created := by decide

/-- A request for a file changes nothing and creates nothing. -/
theorem retrieve_unchanged (c : Config) (headOnly : Bool) (path : String) (d : Disk) :
    (retrieve c headOnly path d).disk = d ∧
      (retrieve c headOnly path d).response.status ≠ .created := by
  rcases retrieve_cases c headOnly path d with ⟨f, h⟩ | ⟨name, n, body, events, -, -, h⟩
  · rw [h]
    exact ⟨rfl, (Failure.status_response f).symm ▸ f.status_ne_created⟩
  · rw [h]
    exact ⟨rfl, ok_ne_created⟩

/-- **A request that is no upload changes nothing and creates nothing.** -/
theorem respond_of_not_isUpload (h : ¬ IsUpload c r) :
    (respond c r fresh d).disk = d ∧ (respond c r fresh d).response.status ≠ .created := by
  have hfailure : ∀ f : Failure, (Answer.ofFailure f d []).response.status ≠ .created :=
    fun f => (Failure.status_response f).symm ▸ f.status_ne_created
  rw [respond]
  cases hroute : route c r.method r.path with
  | health =>
    refine ⟨rfl, ?_⟩
    simp only [health]
    split
    · exact ok_ne_created
    · decide
  | upload =>
    have hmethod : r.method ≠ "POST" := fun hmethod => h ⟨hmethod, hroute⟩
    simp only [atUpload, if_neg hmethod]
    split
    · exact ⟨rfl, ok_ne_created⟩
    · exact ⟨rfl, hfailure _⟩
  | file rest => exact retrieve_unchanged c _ rest d
  | none => exact ⟨rfl, hfailure _⟩

/-! ## The checks before writing -/

/-- A chain of steps succeeds when each of them does. -/
theorem bind_eq_ok_iff {ε α β : Type} {x : Except ε α} {f : α → Except ε β} {b : β} :
    (x >>= f) = .ok b ↔ ∃ a, x = .ok a ∧ f a = .ok b := by
  cases x <;> simp [bind, Except.bind]

/-- **What passing the checks means**, check by check. -/
theorem checkUpload_eq_ok_iff : checkUpload c r fresh = .ok name ↔
    checkCredential c r fresh.now = .ok () ∧
      ∃ ext, extension r = .ok ext ∧ uploadName r ext fresh.name = .ok name ∧
        checkLength c r = .ok () := by
  simp only [checkUpload, bind_eq_ok_iff]
  constructor
  · rintro ⟨_, hcredential, ext, hext, other, hname, _, hlength, hother⟩
    injection hother with hother
    subst hother
    exact ⟨hcredential, ext, hext, hname, hlength⟩
  · rintro ⟨hcredential, ext, hext, hname, hlength⟩
    exact ⟨(), hcredential, ext, hext, name, hname, (), hlength, rfl⟩

/-- The content type of a request with an extension is accepted. -/
theorem extension_eq_ok {ext : String} (h : extension r = .ok ext) :
    ContentType.extension? ((r.text? "content-type").getD "") = some ext := by
  unfold extension at h
  split at h
  next other hvalue => rw [hvalue, Except.ok.inj h]
  next => cases h

/-- The name of an upload that passes the checks is one that the store takes. -/
theorem isStored_of_checkUpload (hproper : fresh.Proper) (h : checkUpload c r fresh = .ok name) :
    Store.IsStored name ∧ '.' ∈ name.toList := by
  obtain ⟨-, ext, hext, hname, -⟩ := checkUpload_eq_ok_iff.1 h
  exact isStored_uploadName hproper (extension_eq_ok hext) hname

/-- The name that a request writes under, if it writes. -/
def writtenName (c : Config) (r : Request) (fresh : Fresh) : String :=
  match checkUpload c r fresh with
  | .ok name => name
  | .error _ => fresh.name

/-- It is a name that the store takes. -/
theorem isStored_writtenName (hproper : fresh.Proper) : Store.IsStored (writtenName c r fresh) := by
  rw [writtenName]
  cases hcheck : checkUpload c r fresh with
  | error f => exact hproper.isStored
  | ok name => exact (isStored_of_checkUpload hproper hcheck).1

/-! ## Storing -/

/-- The whole body of a request. -/
def body (r : Request) : ByteArray :=
  Disk.joined ByteArray.empty r.chunks

/-- The upload of a request under a name. -/
def asked (c : Config) (r : Request) (fresh : Fresh) (name : String) : Upload where
  root := c.storagePath
  name
  path := Path.join c.storagePath name
  mark := fresh.mark
  chunks := r.chunks
  failure := r.failure
  limit := c.maxUploadBytes

/-- A stored upload leaves the body under the name. -/
theorem left_asked_ok (n : Nat) : (asked c r fresh name).left d p (.ok n) =
    d.put (p ++ [name]) (.file (body r)) := rfl

/-- What is answered to an upload that came to a result. -/
def reported (c : Config) (name : String) : Except StoreError Nat → Response
  | .error e => (storeFailure e).response
  | .ok _ =>
    match created (c.fileUrl name) with
    | .ok response => response
    | .error f => f.response

/-- Failures of a store are not told as something created. -/
theorem status_reported_error (e : StoreError) :
    (reported c name (.error e)).status ≠ .created := by
  rw [reported, Failure.status_response]
  exact Failure.status_ne_created _

/-- **A stored upload is told as created** when its address is fit for a header, and as an internal
error else. -/
theorem status_reported_ok (n : Nat) : (reported c name (.ok n)).status =
    if isHeaderValue c.publicUrl then .created else .internalError := by
  simp only [reported, created, isHeaderValue_fileUrl]
  by_cases hurl : isHeaderValue c.publicUrl = true
  · simp only [if_pos hurl]
    rfl
  · simp only [if_neg hurl]
    rfl

/-- A name that the store takes is written under. -/
theorem store_eq (h : Store.IsStored name) :
    Store.store c.storagePath name fresh.mark r.chunks r.failure c.maxUploadBytes d =
      (asked c r fresh name).finish d .preparing := by
  rw [Store.store, Store.filePath_of_isStored h]
  rfl

/-- An upload that a check refuses leaves the disk as it is. -/
theorem upload_of_error {f : Failure} (h : checkUpload c r fresh = .error f) :
    (upload c r fresh d).response = f.response ∧ (upload c r fresh d).disk = d := by
  rw [upload, h]
  exact ⟨rfl, rfl⟩

/-- **An upload that passes the checks is answered by what the store makes of it.** -/
theorem upload_of_ok (hproper : fresh.Proper) (h : checkUpload c r fresh = .ok name) :
    (upload c r fresh d).response =
        reported c name ((asked c r fresh name).ending d .preparing).1 ∧
      (upload c r fresh d).disk = ((asked c r fresh name).ending d .preparing).2 := by
  rw [upload, h, Upload.ending]
  simp only
  rw [store_eq (isStored_of_checkUpload hproper h).1]
  cases ((asked c r fresh name).finish d .preparing).result with
  | error e => exact ⟨rfl, rfl⟩
  | ok n =>
    rw [reported]
    cases created (c.fileUrl name) <;> exact ⟨rfl, rfl⟩

/-! ## On a disk that is prepared -/

/-- The disk is prepared for an upload: the root leads to `p`, the directory of unfinished uploads
is `q`, and what is taken from outside is as it should be, so that nothing stands in the way of the
unfinished file. -/
structure Prepared (c : Config) (fresh : Fresh) (d : Disk) (p q : Place) : Prop where
  root : d.LeadsTo c.storagePath p
  unfinished : d.LeadsTo (Store.partialPath c.storagePath) q
  proper : fresh.Proper
  unused : d.get? (q ++ [fresh.mark ++ ".part"]) = none

/-- What the store makes of an upload that it begins well. -/
def verdict (c : Config) (r : Request) (fresh : Fresh) (d : Disk) (p : Place) (name : String) :
    Except StoreError Nat :=
  (asked c r fresh name).verdict (d.get? (p ++ [name]))

namespace Prepared

variable (h : Prepared c fresh d p q)

include h

/-- An upload that passes the checks begins well. -/
theorem begins (hcheck : checkUpload c r fresh = .ok name) :
    (asked c r fresh name).Begins d p q where
  root := h.root
  unfinished := h.unfinished
  isName := h.proper.isName_unfinished
  short := h.proper.short_unfinished
  unused := h.unused
  stored := (isStored_of_checkUpload h.proper hcheck).1
  path := rfl

/-- It ends with its verdict. -/
theorem result_ending (hcheck : checkUpload c r fresh = .ok name) :
    ((asked c r fresh name).ending d .preparing).1 = verdict c r fresh d p name := by
  obtain ⟨left, hending, -⟩ := (h.begins hcheck).exists_ending
  exact congrArg Prod.fst hending

/-- The store comes to its verdict. -/
theorem result_store (hcheck : checkUpload c r fresh = .ok name) :
    (Store.store c.storagePath name fresh.mark r.chunks r.failure c.maxUploadBytes d).result =
      verdict c r fresh d p name := by
  rw [store_eq (isStored_of_checkUpload h.proper hcheck).1]
  exact h.result_ending hcheck

/-- **An upload that passes the checks is answered by the verdict**, and leaves its file in the
place or nothing. -/
theorem upload (hcheck : checkUpload c r fresh = .ok name) :
    (upload c r fresh d).response = reported c name (verdict c r fresh d p name) ∧
      (Service.upload c r fresh d).disk.Same
        ((asked c r fresh name).left d p (verdict c r fresh d p name)) := by
  obtain ⟨left, hending, hsame⟩ := (h.begins hcheck).exists_ending
  obtain ⟨hresponse, hdisk⟩ := upload_of_ok (d := d) h.proper hcheck
  rw [hresponse, hdisk, hending]
  exact ⟨rfl, hsame⟩

end Prepared

/-! ## What a request does -/

/-- The request is an upload that passes the checks, with this name. -/
structure Passes (c : Config) (r : Request) (fresh : Fresh) (name : String) : Prop where
  isUpload : IsUpload c r
  checked : checkUpload c r fresh = .ok name

/-- **A request that is no upload, or does not pass the checks, changes nothing and creates
nothing.** -/
theorem answer_of_not_passes (h : ∀ name, ¬ Passes c r fresh name) :
    (answer production c r fresh d).disk = d ∧
      (answer production c r fresh d).response.status ≠ .created := by
  rw [answer, status_sent]
  by_cases hupload : IsUpload c r
  · rw [respond_of_isUpload hupload]
    cases hcheck : checkUpload c r fresh with
    | error f =>
      obtain ⟨hresponse, hdisk⟩ := upload_of_error (d := d) hcheck
      rw [hresponse, Failure.status_response]
      exact ⟨hdisk, f.status_ne_created⟩
    | ok name => exact absurd ⟨hupload, hcheck⟩ (h name)
  · exact respond_of_not_isUpload hupload

/-- **One that passes the checks does as the verdict of the store says.** -/
theorem Prepared.answered (h : Prepared c fresh d p q) (hpasses : Passes c r fresh name)
    (production : Bool) :
    (answer production c r fresh d).response =
        sent production r.method (reported c name (verdict c r fresh d p name)) ∧
      (answer production c r fresh d).disk.Same
        ((asked c r fresh name).left d p (verdict c r fresh d p name)) := by
  obtain ⟨hresponse, hdisk⟩ := h.upload hpasses.checked
  rw [answer, respond_of_isUpload hpasses.isUpload, hresponse]
  exact ⟨rfl, hdisk⟩

end HostedFiles.Service

/-! ## The disk of the small service -/

namespace HostedFiles.Sample

open Http Service

theorem proper : fresh.Proper where
  name_length := rfl
  name_chars := by decide
  mark_length := rfl
  mark_chars := by decide

/-- The disk is prepared, under all settings with this root. -/
theorem prepared {c : Config} (hroot : c.storagePath = "up") :
    Prepared c fresh disk ["up"] ["up", ".partial"] := by
  constructor
  · rw [hroot]
    exact disk_root
  · rw [hroot]
    exact disk_unfinished
  · exact proper
  · decide +kernel

end HostedFiles.Sample
