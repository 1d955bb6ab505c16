import HostedFiles.Proofs.Service.UploadStages

/-!
# Proofs/Service/InnerFailures — nothing is told of what goes wrong inside

What goes wrong inside (`Trouble`) becomes a failure of one of three kinds, whether it is stated as
one or comes from the store, from a file, or from a row of causes.  The answer to such a failure is
that of its kind without any details (`Failure.response_of_inner?`), so troubles of one kind are
answered by the same bytes.  These are the failures that are answered 500, and those that the log
shows as errors (`Failure.isSensitive_iff`).

How a request ends is told by `Service.Ends`, from which two things are read off.  What is answered
500 is answered by the page of a kind (`Service.exists_bare_of_internalError`), and a line about a
failed request tells one of the causes that there are (`Service.exists_cause_of_requestFailed`).
-/

namespace HostedFiles

namespace Failure

variable {f : Failure}

/-! ## Inner kinds -/

/-- The kinds of failure that are kept from the client. -/
inductive Inner where
  | storage
  | internal
  | internalWithCauses
  deriving DecidableEq

/-- The failure of a kind without any details. -/
def Inner.bare : Inner → Failure
  | storage => .storage ""
  | internal => .internal ""
  | internalWithCauses => .internalWithCauses "" []

/-- The inner kind of a failure, if it is kept from the client. -/
def inner? : Failure → Option Inner
  | storage _ => some .storage
  | internal _ => some .internal
  | internalWithCauses .. => some .internalWithCauses
  | badRequest _ | unauthorized _ | notFound _ | methodNotAllowed .. | payloadTooLarge _
  | unsupportedMediaType _ => none

/-- **The answer to an inner failure is that of its kind.** -/
theorem response_of_inner? {kind : Inner} (h : f.inner? = some kind) :
    f.response = kind.bare.response := by
  cases f <;> cases h <;> rfl

/-- **The inner failures are those kept from the client, those answered 500, and those that are
errors.** -/
theorem isSensitive_iff (f : Failure) :
    (f.isSensitive = true ↔ f.status = .internalError) ∧
      (f.isSensitive = true ↔ f.level = .error) ∧
      (f.isSensitive = true ↔ ∃ kind, f.inner? = some kind) := by
  cases f with
  | storage | internal | internalWithCauses =>
    exact ⟨iff_of_true rfl rfl, iff_of_true rfl rfl, iff_of_true rfl ⟨_, rfl⟩⟩
  | _ =>
    exact ⟨iff_of_false Bool.false_ne_true nofun, iff_of_false Bool.false_ne_true nofun,
      iff_of_false Bool.false_ne_true nofun⟩

/-- The line for a failure is one for an error. -/
theorem exists_error_iff (f : Failure) :
    (∃ event ∈ f.events, event.level = .error) ↔ f.level = .error := by
  rw [events]
  split
  next h => exact iff_of_true ⟨_, List.mem_singleton_self _, rfl⟩ h
  next h => exact iff_of_false (fun ⟨_, hmem, _⟩ => List.not_mem_nil hmem) h

end Failure

open Failure (Inner)

/-! ## Troubles -/

/-- Whether a reason of the store is the client's doing. -/
def StoreError.isTold : StoreError → Bool
  | notFound _ | invalidName _ | tooLarge _ => true
  | uploadFailed _ | downloadFailed _ | io _ | setup _ => false

/-- What goes wrong inside, as the service comes to know it. -/
inductive Trouble where
  /-- It is stated as a failure of the store. -/
  | storage (message : String)
  /-- It is stated as any other failure. -/
  | internal (message : String)
  | internalWithCauses (message : String) (reasons : List String)
  /-- The store has a reason that is not the client's doing. -/
  | store (e : StoreError) (untold : e.isTold = false)
  /-- A file or a connection has a problem. -/
  | io (problem : String)
  /-- A problem was met deep inside, and more was said of it on the way out. -/
  | causes (outermost : String) (inner : List String)

namespace Trouble

/-- The kind of failure that a trouble becomes. -/
def kind : Trouble → Inner
  | storage _ | store .. => .storage
  | internal _ | io _ => .internal
  | internalWithCauses .. | causes .. => .internalWithCauses

/-- The failure that a trouble becomes. -/
def failure : Trouble → Failure
  | storage message => .storage message
  | internal message => .internal message
  | internalWithCauses message reasons => .internalWithCauses message reasons
  | store e _ => e.failure
  | io problem => .ofIo problem
  | causes outermost inner => .ofCauses outermost inner

/-- **A trouble becomes a failure of its kind**: no way in from outside makes one that is told. -/
theorem inner?_failure (t : Trouble) : t.failure.inner? = some t.kind := by
  cases t with
  | store e untold =>
    cases e with
    | notFound | invalidName | tooLarge => cases untold
    | uploadFailed | downloadFailed | io | setup => rfl
  | storage | internal | internalWithCauses | io | causes => rfl

/-- Every inner failure is one of a trouble. -/
theorem exists_failure_eq_iff {f : Failure} :
    (∃ t : Trouble, t.failure = f) ↔ ∃ kind, f.inner? = some kind := by
  constructor
  · rintro ⟨t, rfl⟩
    exact ⟨_, t.inner?_failure⟩
  · rintro ⟨kind, h⟩
    cases f with
    | storage message => exact ⟨storage message, rfl⟩
    | internal message => exact ⟨internal message, rfl⟩
    | internalWithCauses message reasons => exact ⟨internalWithCauses message reasons, rfl⟩
    | _ => cases h

end Trouble

/-! ## Lines about failures -/

namespace Failure

variable {f : Failure} {message kind : String}

/-- A line is about a failure inside. -/
theorem of_mem_events (h : .requestFailed message kind ∈ f.events) :
    f.isSensitive = true ∧ message = f.message := by
  rw [events] at h
  split at h
  next herror =>
    exact ⟨f.isSensitive_iff.2.1.2 herror,
      (Log.Event.requestFailed.inj (List.mem_singleton.1 h)).1⟩
  next => cases h

end Failure

/-- No line is about a failure. -/
def Log.Quiet (events : List Event) : Prop :=
  ∀ message kind, .requestFailed message kind ∉ events

theorem Log.quiet_nil : Quiet [] :=
  fun _ _ => List.not_mem_nil

namespace Upload

variable {u : Upload} {d : Disk} {phase : Phase} {event : Log.Event}

/-- All that makes a step worth a line is an unfinished file that it cannot remove. -/
theorem exists_partialKept_of_mem_step (h : event ∈ (u.step d phase).events) :
    ∃ problem, event = .partialKept u.partialPath problem := by
  cases phase with
  | preparing => simp only [step] at h; split at h <;> cases h
  | creating => simp only [step] at h; split at h <;> cases h
  | writing place written rest =>
    cases rest with
    | nil => simp only [step] at h; split at h <;> cases h
    | cons chunk rest => simp only [step] at h; split at h <;> cases h
  | syncing written => simp only [step] at h; split at h <;> cases h
  | publishing written => simp only [step] at h; split at h <;> cases h
  | discarding e =>
    simp only [step] at h
    split at h
    · cases h
    · cases h
    · exact ⟨_, List.mem_singleton.1 h⟩
  | withdrawing e => simp only [step] at h; split at h <;> cases h
  | done result => cases h

/-- **All that makes an upload worth a line is its unfinished file.** -/
theorem exists_partialKept_of_mem_finish (h : event ∈ (u.finish d phase).events) :
    ∃ problem, event = .partialKept u.partialPath problem := by
  fun_induction finish u d phase with
  | case1 => cases h
  | case2 d phase hresult hlt progress outcome ih =>
    rcases List.mem_append.1 h with h | h
    · exact exists_partialKept_of_mem_step h
    · exact ih h

end Upload

/-- **Storing says nothing about a failure**: what it fails with is told by who asked for it. -/
theorem Store.quiet_store (root name mark : String) (chunks : List ByteArray)
    (failure : Option Break) (limit : Nat) (d : Disk) :
    Log.Quiet (store root name mark chunks failure limit d).events := by
  intro message kind h
  rw [store] at h
  split at h
  · cases h
  · obtain ⟨_, heq⟩ := Upload.exists_partialKept_of_mem_finish h
    cases heq

/-! ## Requests -/

namespace Service

open Http
open Log (Quiet)

variable {production : Bool} {c : Config} {r : Request} {fresh : Fresh} {d : Disk} {f : Failure}

/-- The failure of a request for want of a signer. -/
def unavailable (problem : String) : Failure :=
  .internal ("Token service unavailable: " ++ problem)

/-- The failure of an upload whose address fits in no header. -/
def unfitAddress : Failure :=
  .internal "Invalid Location header: failed to parse header value"

/-- Why a request can fail inside. -/
inductive Cause (c : Config) : Failure → Prop where
  | store (message : String) : Cause c (.storage message)
  | address : Cause c unfitAddress
  | signer {e : SignerError} (h : c.signer = .error e) : Cause c (unavailable e.message)

/-- If a failure is one inside, it has a cause. -/
def Explained (c : Config) (f : Failure) : Prop :=
  f.isSensitive = true → Cause c f

/-- A failure that is told needs none. -/
theorem Explained.of_told (h : f.isSensitive = false) : Explained c f :=
  fun hsensitive => absurd (h.symm.trans hsensitive) Bool.false_ne_true

/-! ### Checks before writing -/

/-- A chain of steps fails when one of them does. -/
theorem bind_eq_error_iff {ε α β : Type} {x : Except ε α} {f : α → Except ε β} {e : ε} :
    (x >>= f) = .error e ↔ x = .error e ∨ ∃ a, x = .ok a ∧ f a = .error e := by
  cases x <;> simp [bind, Except.bind]

/-- **A credential is refused for what it is, or for want of a signer.** -/
theorem of_authenticate_error {now : Instant} (h : authenticate c r now = .error f) :
    (∃ reason, f = .unauthorized reason) ∨
      ∃ e, c.signer = .error e ∧ f = unavailable e.message := by
  rw [authenticate] at h
  split at h
  · exact .inl ⟨_, (Except.error.inj h).symm⟩
  · cases hsigner : c.signer with
    | error e =>
      simp only [hsigner] at h
      exact .inr ⟨e, rfl, (Except.error.inj h).symm⟩
    | ok signer =>
      simp only [hsigner] at h
      split at h
      · cases h
      · exact .inl ⟨_, (Except.error.inj h).symm⟩

/-- A credential that is refused is asked for, unless there is no signer. -/
theorem explained_checkCredential {now : Instant} (h : checkCredential c r now = .error f) :
    Explained c f := by
  rw [checkCredential] at h
  split at h
  · cases hresult : authenticate c r now with
    | ok account => rw [hresult] at h; cases h
    | error g =>
      rw [hresult] at h
      cases h
      rcases of_authenticate_error hresult with ⟨_, rfl⟩ | ⟨e, hsigner, rfl⟩
      · exact .of_told rfl
      · exact fun _ => .signer hsigner
  · cases h

/-- It is told that a content type is not supported. -/
theorem told_of_extension (h : extension r = .error f) : f.isSensitive = false := by
  unfold extension at h
  split at h
  · cases h
  · rw [← Except.error.inj h]
    rfl

/-- It is told what is wrong with a name. -/
theorem told_of_uploadName {ext : String} (h : uploadName r ext fresh.name = .error f) :
    f.isSensitive = false := by
  cases hfailure : nameFailure? r with
  | none =>
    have hgiven : ∃ name, uploadName r ext fresh.name = .ok name := exists_uploadName hfailure
    obtain ⟨_, hok⟩ := hgiven
    rw [hok] at h
    cases h
  | some g =>
    rw [uploadName_of_nameFailure? hfailure] at h
    rw [← Except.error.inj h]
    refine Bool.eq_false_iff.2 fun hsensitive => ?_
    have hstatus := (status_of_nameFailure? hfailure).symm.trans (g.isSensitive_iff.1.1 hsensitive)
    cases hstatus

/-- It is told that a stated length is too large. -/
theorem told_of_checkLength (h : checkLength c r = .error f) : f.isSensitive = false := by
  rw [checkLength] at h
  split at h
  · split at h
    · rw [← Except.error.inj h]
      rfl
    · cases h
  · cases h

/-- **The checks before writing fail inside only for want of a signer.** -/
theorem explained_checkUpload (h : checkUpload c r fresh = .error f) : Explained c f := by
  simp only [checkUpload, bind_eq_error_iff] at h
  rcases h with hcredential | ⟨-, -, htype | ⟨ext, -, hname | ⟨name, -, hlength | ⟨-, -, hend⟩⟩⟩⟩
  · exact explained_checkCredential hcredential
  · exact .of_told (told_of_extension htype)
  · exact .of_told (told_of_uploadName hname)
  · exact .of_told (told_of_checkLength hlength)
  · cases hend

/-! ### Reasons of the store -/

/-- What the store has a reason for is told, or is a failure of the store. -/
theorem explained_failure (e : StoreError) : Explained c e.failure := by
  cases e with
  | notFound | invalidName | tooLarge => exact .of_told rfl
  | uploadFailed | downloadFailed | io | setup => exact fun _ => .store _

theorem explained_storeFailure (e : StoreError) : Explained c (storeFailure e) := by
  unfold storeFailure
  split
  · exact .of_told rfl
  · exact explained_failure _

theorem explained_retrievalFailure (e : StoreError) : Explained c (retrievalFailure e) := by
  unfold retrievalFailure
  split
  · exact .of_told rfl
  · exact .of_told rfl
  · exact explained_failure _

/-! ### Answers -/

/-- How a request ends: with a failure that is told or has a cause, or with another status.  No line
is about any other failure. -/
inductive Ends (c : Config) : Answer → Prop where
  | failed {f : Failure} {d : Disk} {events : List Log.Event} (hf : Explained c f)
      (hquiet : Quiet events) : Ends c (.ofFailure f d events)
  | served {a : Answer} (hstatus : a.response.status ≠ .internalError) (hquiet : Quiet a.events) :
      Ends c a

/-- **How an upload ends.** -/
theorem ends_upload (c : Config) (r : Request) (fresh : Fresh) (d : Disk) :
    Ends c (upload c r fresh d) := by
  rw [upload]
  cases hcheck : checkUpload c r fresh with
  | error f => exact .failed (explained_checkUpload hcheck) Log.quiet_nil
  | ok name =>
    have hquiet :=
      Store.quiet_store c.storagePath name fresh.mark r.chunks r.failure c.maxUploadBytes d
    simp only
    split
    next e _ => exact .failed (explained_storeFailure e) hquiet
    next =>
      cases hcreated : created (c.fileUrl name) with
      | error f =>
        refine .failed ?_ hquiet
        rw [created] at hcreated
        split at hcreated
        · cases hcreated
        · rw [← Except.error.inj hcreated]
          exact fun _ => .address
      | ok response =>
        refine .served ?_ hquiet
        rw [created] at hcreated
        split at hcreated
        · rw [← Except.ok.inj hcreated]
          exact (by decide : Status.created ≠ .internalError)
        · cases hcreated

/-- **How a request for a file ends.** -/
theorem ends_retrieve (c : Config) (headOnly : Bool) (path : String) (d : Disk) :
    Ends c (retrieve c headOnly path d) := by
  cases hname : resolvedName? path with
  | none =>
    rw [retrieve_of_none hname]
    exact .failed (.of_told rfl) Log.quiet_nil
  | some name =>
    cases hsize : Store.size c.storagePath name d with
    | error problem =>
      rw [retrieve_eq_ofFailure hname hsize]
      exact .failed (explained_retrievalFailure problem) Log.quiet_nil
    | ok n =>
      obtain ⟨entry, -, -, hanswer⟩ := retrieve_of_size hname hsize
      rw [hanswer]
      refine .served (by decide : Status.ok ≠ .internalError) fun message kind h => ?_
      simp only [givenOut, fileBody] at h
      split at h
      · cases h
      · split at h
        · cases h
        · cases List.mem_singleton.1 h

/-- **How any request ends.** -/
theorem ends_respond (c : Config) (r : Request) (fresh : Fresh) (d : Disk) :
    Ends c (respond c r fresh d) := by
  have hok : Status.ok ≠ .internalError := by decide
  rw [respond]
  split
  next =>
    refine .served ?_ Log.quiet_nil
    simp only [health]
    split
    · exact hok
    · decide
  next =>
    rw [atUpload]
    split
    · exact .served hok Log.quiet_nil
    split
    · exact ends_upload c r fresh d
    · exact .failed (.of_told rfl) Log.quiet_nil
  next => exact ends_retrieve c _ _ d
  next => exact .failed (.of_told rfl) Log.quiet_nil

/-- **A request that is answered 500 is answered by the page of a kind.** -/
theorem exists_bare_of_internalError
    (h : (answer production c r fresh d).response.status = .internalError) :
    ∃ kind : Inner, (answer production c r fresh d).response =
      sent production r.method kind.bare.response := by
  have hends := ends_respond c r fresh d
  simp only [answer, status_sent] at h ⊢
  generalize respond c r fresh d = a at h hends ⊢
  cases hends with
  | @failed f =>
    obtain ⟨kind, hkind⟩ := f.isSensitive_iff.2.2.1 (f.isSensitive_iff.1.2 (f.status_response ▸ h))
    exact ⟨kind, congrArg _ (Failure.response_of_inner? hkind)⟩
  | served hstatus => exact absurd h hstatus

/-- **A line about a failure tells one with a cause.** -/
theorem exists_cause_of_requestFailed {message kind : String}
    (h : .requestFailed message kind ∈ (answer production c r fresh d).events) :
    ∃ f, Cause c f ∧ message = f.message := by
  have hends := ends_respond c r fresh d
  have hrespond : .requestFailed message kind ∈ (respond c r fresh d).events := h
  generalize respond c r fresh d = a at hrespond hends
  cases hends with
  | failed hf hquiet =>
    rcases List.mem_append.1 hrespond with hmem | hmem
    · exact absurd hmem (hquiet message kind)
    · obtain ⟨hsensitive, hmessage⟩ := Failure.of_mem_events hmem
      exact ⟨_, hf hsensitive, hmessage⟩
  | served _ hquiet => exact absurd hrespond (hquiet message kind)

end Service

/-! ## Nothing is told -/

open Service in
/-- **Troubles of one kind are answered by the same bytes**, whatever their messages and causes are
and however they came about; failures kept from the client, failures answered 500, errors in the log
and troubles are the same failures; and any request answered 500 is answered by the page of a
kind. -/
theorem Trouble.answered_alike :
    (∀ t u : Trouble, t.kind = u.kind → t.failure.response = u.failure.response) ∧
    (∀ f : Failure, (f.isSensitive = true ↔ f.status.code = 500) ∧
      (f.isSensitive = true ↔ f.level = .error) ∧
      (f.isSensitive = true ↔ ∃ event ∈ f.events, event.level = .error) ∧
      (f.isSensitive = true ↔ ∃ t : Trouble, t.failure = f)) ∧
    ∀ production c r fresh d,
      (answer production c r fresh d).response.status = .internalError →
        ∃ kind : Inner, (answer production c r fresh d).response =
          sent production r.method kind.bare.response := by
  refine ⟨fun t u hkind => ?_, fun f => ?_, fun _ _ _ _ _ h => exists_bare_of_internalError h⟩
  · rw [Failure.response_of_inner? t.inner?_failure, Failure.response_of_inner? u.inner?_failure,
      hkind]
  · obtain ⟨hstatus, hlevel, hinner⟩ := f.isSensitive_iff
    refine ⟨hstatus.trans ⟨fun h => by rw [h]; rfl, fun h => ?_⟩, hlevel, ?_, ?_⟩
    · have hcode : ∀ s : Http.Status, s.code = 500 → s = .internalError := fun s hs => by
        cases s
        cases hs
        rfl
      exact hcode _ h
    · rw [hlevel, f.exists_error_iff]
    · rw [hinner, Trouble.exists_failure_eq_iff]

namespace Sample

/-- A disk on which a file is in the way of unfinished uploads. -/
def obstructed : Disk where
  entries := .ofList [(["up"], .directory), (["up", ".partial"], .file ByteArray.empty)]
  working := []

/-- Nothing can be uploaded to it. -/
theorem status_obstructed :
    (Service.answer false settings request fresh obstructed).response.status = .internalError := by
  decide +kernel

end Sample

open Sample in
/-- Neither a path that could not be written to is told nor one that could not be made, and who
uploads to a disk with a file in the way gets the page of a kind. -/
theorem Trouble.answered_alike_paths :
    (StoreError.uploadFailed "Failed to create file /srv/a/.partial/x.part: EIO").failure.response =
        (StoreError.setup "Failed to create storage directory /srv/b").failure.response ∧
      ∃ kind : Inner, (Service.answer false settings request fresh obstructed).response =
        Service.sent false "POST" kind.bare.response :=
  ⟨Trouble.answered_alike.1 (.store (.uploadFailed _) rfl) (.store (.setup _) rfl) rfl,
    Trouble.answered_alike.2.2 _ _ _ _ _ status_obstructed⟩

end HostedFiles
