import HostedFiles.Proofs.Service.Uploads

/-!
# Proofs/Service/StoredNames — every name of an upload can be stored

The name of an upload comes from a header, or is made up, and an extension may be added to it.
Whatever the header says, the outcome is a name that the store takes under every root
(`storable_uploadName`), so that no step of writing finds fault with it
(`Upload.Reaches.problem?_ne`).  A name that is fit to be stored from the start is kept as it is.
-/

namespace HostedFiles

/-! ## Phases of an upload -/

namespace Upload

variable {u : Upload} {phase : Phase}

/-- The phases that an upload can come to, whatever has become of the disk before each step. -/
inductive Reaches (u : Upload) : Phase → Prop where
  | start : u.Reaches .preparing
  | step {phase : Phase} (d : Disk) (h : u.Reaches phase) : u.Reaches (u.step d phase).phase

/-- The reason why a phase leads to no file, if there is one. -/
def Phase.problem? : Phase → Option StoreError
  | .discarding e | .withdrawing e | .done (.error e) => some e
  | _ => none

/-- **No step finds fault with the name.** -/
theorem problem?_step_ne (d : Disk) {name : String}
    (h : phase.problem? ≠ some (.invalidName name)) :
    (u.step d phase).phase.problem? ≠ some (.invalidName name) := by
  cases phase with
  | preparing => simp only [step]; split <;> simp [Phase.problem?]
  | creating => simp only [step]; split <;> simp [Phase.problem?]
  | writing place written rest =>
    cases rest with
    | nil => simp only [step]; split <;> simp [Phase.problem?]
    | cons chunk rest => simp only [step]; split <;> simp [Phase.problem?]
  | syncing written => simp only [step]; split <;> simp [Phase.problem?]
  | publishing written => simp only [step]; split <;> simp [Phase.problem?]
  | discarding e => simp only [step]; split <;> exact h
  | withdrawing e => simp only [step]; split <;> exact h
  | done result => exact h

/-- **No upload that was begun comes to a fault of its name.** -/
theorem Reaches.problem?_ne (h : u.Reaches phase) (name : String) :
    phase.problem? ≠ some (.invalidName name) := by
  induction h with
  | start => simp [Phase.problem?]
  | step d _ ih => exact problem?_step_ne d ih

/-- An upload comes to its result. -/
theorem Reaches.finish (h : u.Reaches phase) (d : Disk) :
    u.Reaches (.done (u.finish d phase).result) := by
  induction d, phase using finish.induct u with
  | case1 d phase result hresult =>
    cases phase with
    | done result => rwa [finish_done]
    | _ => cases hresult
  | case2 d phase hnone _ _ ih =>
    rw [finish_of_result?_eq_none u d hnone]
    exact ih (h.step d)

end Upload

namespace Service

open Http

variable {c : Config} {r : Request} {fresh : Fresh} {name : String}

/-! ## Names -/

/-- A name that an upload can be stored under. -/
structure Storable (name : String) : Prop where
  ne_empty : name ≠ ""
  has_stop : '.' ∈ name.toList
  safe : ∀ c ∈ name.toList, c ≠ '/' ∧ c ≠ '\\' ∧ Text.isControl c = false
  not_taken : name ≠ "." ∧ name ≠ ".." ∧ name ≠ ".partial"

/-- It is one that the store takes, with a full stop. -/
theorem storable_iff : Storable name ↔ Store.IsStored name ∧ '.' ∈ name.toList := by
  have hsafe : ∀ c, FileName.isUnsafe c = false ↔ c ≠ '/' ∧ c ≠ '\\' ∧ Text.isControl c = false :=
    fun c => by simp [FileName.isUnsafe, and_assoc]
  simp only [Store.isStored_iff, hsafe, Store.partialName]
  exact ⟨fun h => ⟨⟨h.safe, h.ne_empty, h.not_taken⟩, h.has_stop⟩,
    fun h => ⟨h.1.2.1, h.2, h.1.1, h.1.2.2⟩⟩

/-- **A name that is fit to be stored is kept as it is.** -/
theorem uploadName_of_storable {wanted extension generated : String}
    (hrequest : requestedName r = .ok (some wanted)) (h : Storable wanted) :
    uploadName r extension generated = .ok wanted := by
  obtain ⟨hstored, hstop⟩ := storable_iff.1 h
  obtain ⟨hsafe, hne, hpossible⟩ := Store.isStored_iff.1 hstored
  have hself : safeName (some wanted) = wanted := FileName.neutralize_eq_self_iff.2 hsafe
  refine uploadName_eq_ok_iff.2 ⟨some wanted, hrequest, ?_, ?_⟩
  · rwa [hself, IsImpossible, not_or, not_or]
  · rw [hself, if_neg hne, withExtension, if_pos (List.contains_iff_mem.2 hstop)]

/-! ## Uploads -/

/-- **The store never refuses the name of an upload.** -/
theorem result_store_ne (hproper : fresh.Proper) (hcheck : checkUpload c r fresh = .ok name)
    (d : Disk) (other : String) :
    (Store.store c.storagePath name fresh.mark r.chunks r.failure c.maxUploadBytes d).result ≠
      .error (.invalidName other) := by
  rw [store_eq (isStored_of_checkUpload hproper hcheck).1]
  intro hresult
  have hne := (Upload.Reaches.start.finish d).problem?_ne (u := asked c r fresh name) other
  rw [hresult] at hne
  exact hne rfl

/-- **Every name of an upload can be stored.**  Whatever a request asks for, the name it gets is
storable, the store has a path for it under every root, and neither the store as a whole nor any
step of writing finds fault with it; and a request that asks for a storable name gets that name. -/
theorem storable_uploadName (h : fresh.Proper) (r : Request) :
    (∀ type extension name, ContentType.extension? type = some extension →
      uploadName r extension fresh.name = .ok name →
      Storable name ∧ ∀ root, Store.filePath root name = .ok (Path.join root name)) ∧
    (∀ c name other, checkUpload c r fresh = .ok name →
      (∀ d, (Store.store c.storagePath name fresh.mark r.chunks r.failure c.maxUploadBytes
        d).result ≠ .error (.invalidName other)) ∧
      ∀ phase, (asked c r fresh name).Reaches phase →
        phase.problem? ≠ some (.invalidName other)) ∧
    ∀ extension wanted, requestedName r = .ok (some wanted) → Storable wanted →
      uploadName r extension fresh.name = .ok wanted := by
  refine ⟨fun type extension name htype hname => ?_, fun c name other hcheck => ?_,
    fun extension wanted => uploadName_of_storable⟩
  · have hstored := isStored_uploadName h htype hname
    exact ⟨storable_iff.2 hstored, Store.filePath_of_isStored hstored.1⟩
  · exact ⟨fun d => result_store_ne h hcheck d other, fun phase hphase => hphase.problem?_ne other⟩

open Sample in
/-- The request of the small service asks for a storable name and gets it. -/
theorem storable_uploadName_request : Storable "n.txt" ∧
    uploadName request "txt" Sample.fresh.name = .ok "n.txt" ∧
    ∀ d, (Store.store "up" "n.txt" Sample.fresh.mark request.chunks none 10485760 d).result ≠
      .error (.invalidName "n.txt") := by
  obtain ⟨hname, hstore, hkept⟩ := storable_uploadName proper request
  have hstorable := (hname "text/plain" "txt" "n.txt" (by decide) (by rfl)).1
  exact ⟨hstorable, hkept "txt" "n.txt" (by rfl) hstorable,
    (hstore settings "n.txt" "n.txt" (by rfl)).1⟩

end Service

end HostedFiles
