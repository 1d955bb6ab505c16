import HostedFiles.Proofs.Service.Uploads

/-!
# Proofs/Service/UploadStages — what is looked at when a file is uploaded

Seven things can be wrong with an upload, and they are looked at in a fixed order (`Stage`).  Which
one is the first that is wrong does not depend on anything that is looked at later
(`Posted.firstFailing_congr`).  The checks before writing are those of the first four stages, check
by check.
-/

namespace HostedFiles

/-! ## Publishing as a check -/

/-- Whether the whole file can be begun, written and published. -/
def Upload.publishes (u : Upload) (d : Disk) : Bool :=
  match u.opened d with
  | .ok (place, begun) => (u.published (begun.appendAll place u.chunks)).isOk
  | .error _ => false

namespace Service

open Http

/-! ## Stages -/

/-- A request to upload a file, with what it takes from outside and the disk it meets. -/
structure Posted (c : Config) where
  request : Request
  fresh : Fresh
  disk : Disk
  method : request.method = "POST"
  path : request.path = c.mountPath
  proper : fresh.Proper

/-- Whether a request brings a credential that is accepted at an instant. -/
def isAccepted (c : Config) (r : Request) (now : Instant) : Bool :=
  match (credential? r).filter (· ≠ ""), c.signer with
  | some credential, .ok signer => (signer.verify credential now).isSome
  | _, _ => false

/-- Whether a credential is asked for and the request brings none that is accepted. -/
def lacksCredential (c : Config) (r : Request) (now : Instant) : Bool :=
  c.authenticate && !isAccepted c r now

/-- Why the request lacks a credential: it brings none, or not a good one. -/
def credentialFailure (r : Request) : Failure :=
  match (credential? r).filter (· ≠ "") with
  | none => .unauthorized "An upload credential is required"
  | some _ => .unauthorized "The upload credential is invalid or has expired"

/-- Why a request cannot have the name that it asks for, if it cannot. -/
def nameFailure? (r : Request) : Option Failure :=
  match r.header? "content-disposition" with
  | none => none
  | some value =>
    match Text.ofBytes? value with
    | none => some (.badRequest "Content-Disposition must be valid UTF-8")
    | some text =>
      if (Disposition.find? text).any fun name =>
          [".", "..", Store.partialName].contains (FileName.neutralize name) then
        some invalidName
      else none

/-- What is looked at when a file is uploaded. -/
inductive Stage where
  | credential
  | contentType
  | name
  | statedLength
  /-- Whether the store takes an unfinished file. -/
  | storage
  | body
  /-- Whether the body is complete and its file can take its place. -/
  | publishing
  deriving DecidableEq

namespace Stage

/-- The place of a stage in the order. -/
def number : Stage → Nat
  | credential => 1
  | contentType => 2
  | name => 3
  | statedLength => 4
  | storage => 5
  | body => 6
  | publishing => 7

/-- The stages before anything is written. -/
def checks : List Stage :=
  [credential, contentType, name, statedLength]

/-- The stages of writing. -/
def writes : List Stage :=
  [storage, body, publishing]

/-- All stages in order. -/
def all : List Stage :=
  checks ++ writes

/-- The status that a stage answers with. -/
def status : Stage → Status
  | credential => .unauthorized
  | contentType => .unsupportedMediaType
  | name => .badRequest
  | statedLength | body => .payloadTooLarge
  | storage | publishing => .internalError

/-- The order is that of the numbers. -/
theorem pairwise_all : all.Pairwise fun s t => s.number < t.number := by decide

end Stage

namespace Posted

variable {c : Config}

/-- The upload that is asked for. -/
def upload (x : Posted c) : Upload :=
  asked c x.request x.fresh (writtenName c x.request x.fresh)

/-- Whether a stage finds something wrong. -/
def fails (x : Posted c) : Stage → Bool
  | .credential => lacksCredential c x.request x.fresh.now
  | .contentType => (ContentType.extension? ((x.request.text? "content-type").getD "")).isNone
  | .name => (nameFailure? x.request).isSome
  | .statedLength => (statedLength? x.request).any (c.maxUploadBytes < ·)
  | .storage => !(x.upload.opened x.disk).isOk
  | .body => c.maxUploadBytes < Upload.total x.request.chunks
  | .publishing => x.request.failure.isSome || !x.upload.publishes x.disk

/-- The first stage that finds something wrong. -/
def firstFailing (x : Posted c) : Option Stage :=
  Stage.all.find? x.fails

/-- The failure that a stage answers with.  What is wrong with the store is not told. -/
def failure (x : Posted c) : Stage → Failure
  | .credential => credentialFailure x.request
  | .contentType => .unsupportedMediaType "The uploaded content type is not accepted here"
  | .name => (nameFailure? x.request).getD invalidName
  | .statedLength | .body => (StoreError.tooLarge c.maxUploadBytes).failure
  | .storage | .publishing => .storage ""

/-- What is answered. -/
def response (x : Posted c) (production : Bool) : Response :=
  (answer production c x.request x.fresh x.disk).response

/-- Two uploads show the same to a stage. -/
def SameAt (x y : Posted c) : Stage → Prop
  | .credential =>
    x.request.text? "authorization" = y.request.text? "authorization" ∧
      x.request.query = y.request.query ∧ x.fresh.now = y.fresh.now
  | .contentType => x.request.text? "content-type" = y.request.text? "content-type"
  | .name => x.request.header? "content-disposition" = y.request.header? "content-disposition"
  | .statedLength => x.request.text? "content-length" = y.request.text? "content-length"
  | .storage => (x.upload.opened x.disk).isOk = (y.upload.opened y.disk).isOk
  | .body => Upload.total x.request.chunks = Upload.total y.request.chunks
  | .publishing => x.fails .publishing = y.fails .publishing

/-! ## Nothing later counts -/

/-- Uploads that show the same to a stage fail alike at it. -/
theorem SameAt.fails_eq {x y : Posted c} {s : Stage} (h : x.SameAt y s) :
    x.fails s = y.fails s := by
  cases s with
  | credential =>
    obtain ⟨hheader, hquery, hnow⟩ := h
    simp only [fails, lacksCredential, isAccepted, credential?, hheader, hquery, hnow]
  | contentType => simp only [fails, show x.request.text? "content-type" = _ from h]
  | name => simp only [fails, nameFailure?, show x.request.header? "content-disposition" = _ from h]
  | statedLength =>
    simp only [fails, statedLength?, show x.request.text? "content-length" = _ from h]
  | storage => simp only [fails, show (x.upload.opened x.disk).isOk = _ from h]
  | body => simp only [fails, show Upload.total x.request.chunks = _ from h]
  | publishing => exact h

/-- They fail with the same failure. -/
theorem SameAt.failure_eq {x y : Posted c} {s : Stage} (h : x.SameAt y s) :
    x.failure s = y.failure s := by
  cases s with
  | credential =>
    obtain ⟨hheader, hquery, -⟩ := h
    simp only [failure, credentialFailure, credential?, hheader, hquery]
  | name =>
    simp only [failure, nameFailure?, show x.request.header? "content-disposition" = _ from h]
  | _ => rfl

/-- **What fails first does not depend on what is looked at later.** -/
theorem firstFailing_congr {x y : Posted c} {s : Stage} (h : x.firstFailing = some s)
    (hsame : ∀ t : Stage, t.number ≤ s.number → x.SameAt y t) : y.firstFailing = some s := by
  obtain ⟨hfails, before, after, hall, hbefore⟩ := List.find?_eq_some_iff_append.1 h
  refine List.find?_eq_some_iff_append.2 ⟨?_, before, after, hall, fun t ht => ?_⟩
  · rw [← (hsame s (Nat.le_refl _)).fails_eq, hfails]
  · have hpairwise := Stage.pairwise_all
    rw [hall, List.pairwise_append] at hpairwise
    have hlt := hpairwise.2.2 t ht s List.mem_cons_self
    rw [← (hsame t (Nat.le_of_lt hlt)).fails_eq]
    exact hbefore t ht

end Posted

/-! ## The stages before writing -/

variable {c : Config} {r : Request} {fresh : Fresh} {now : Instant} {signer : Signer}
  {name ext : String}

/-- Settings that pass every check describe a signer. -/
theorem exists_signer {events : List Log.Event} (h : c.check = .ok events) :
    ∃ signer, c.signer = .ok signer :=
  Config.exists_signer (Config.validate_eq_ok_of_check h)

/-- **A credential is checked as its stage says.** -/
theorem checkCredential_eq (h : c.signer = .ok signer) : checkCredential c r now =
    if lacksCredential c r now then .error (credentialFailure r) else .ok () := by
  rw [checkCredential, lacksCredential]
  cases c.authenticate with
  | false => rfl
  | true =>
    rw [if_pos rfl, authenticate, isAccepted, credentialFailure, h, Bool.true_and]
    cases (credential? r).filter (· ≠ "") with
    | none => rfl
    | some credential =>
      cases hverify : signer.verify credential now with
      | none => simp only [hverify]; rfl
      | some account => simp only [hverify]; rfl

/-- A request that lacks a credential does not pass, whatever the settings are. -/
theorem exists_checkCredential_error (h : lacksCredential c r now = true) :
    ∃ f, checkCredential c r now = .error f := by
  rw [lacksCredential, Bool.and_eq_true] at h
  obtain ⟨hauthenticate, haccepted⟩ := h
  rw [checkCredential, if_pos hauthenticate, authenticate]
  rw [isAccepted] at haccepted
  cases hcredential : (credential? r).filter (· ≠ "") with
  | none => exact ⟨_, rfl⟩
  | some credential =>
    cases hsigner : c.signer with
    | error e => exact ⟨_, rfl⟩
    | ok signer =>
      rw [hcredential, hsigner] at haccepted
      simp only at haccepted ⊢
      cases hverify : signer.verify credential now with
      | none => exact ⟨_, rfl⟩
      | some account => rw [hverify] at haccepted; cases haccepted

/-- Why a name is refused: what is asked for cannot be read, or is impossible. -/
theorem nameFailure?_eq (r : Request) : nameFailure? r =
    match requestedName r with
    | .error f => some f
    | .ok requested => if IsImpossible (safeName requested) then some invalidName else none := by
  have himpossible : ∀ name, [".", "..", Store.partialName].contains name = true ↔
      IsImpossible name := by simp [IsImpossible]
  rw [nameFailure?, requestedName]
  cases r.header? "content-disposition" with
  | none => rfl
  | some value =>
    simp only
    cases Text.ofBytes? value with
    | none => rfl
    | some text =>
      simp only
      cases Disposition.find? text with
      | none => rfl
      | some name => simp only [Option.any_some, himpossible]; rfl

/-- **A name is refused as its stage says.** -/
theorem uploadName_of_nameFailure? {f : Failure} (h : nameFailure? r = some f) :
    uploadName r ext fresh.name = .error f := by
  rw [nameFailure?_eq] at h
  rw [uploadName_eq]
  cases hrequest : requestedName r with
  | error g =>
    rw [hrequest] at h
    rw [← Option.some.inj h]
    rfl
  | ok requested =>
    rw [hrequest] at h
    simp only [Except.bind] at h ⊢
    split at h
    next himpossible => rw [if_pos himpossible, ← Option.some.inj h]
    next => cases h

/-- A name is refused as a bad request. -/
theorem status_of_nameFailure? {f : Failure} (h : nameFailure? r = some f) :
    f.status = .badRequest := by
  rw [nameFailure?] at h
  split at h
  · cases h
  split at h
  · rw [← Option.some.inj h]
    rfl
  split at h
  · rw [← Option.some.inj h]
    rfl
  · cases h

/-- A name that is not refused is given. -/
theorem exists_uploadName (h : nameFailure? r = none) :
    ∃ name, uploadName r ext fresh.name = .ok name := by
  rw [nameFailure?_eq] at h
  split at h
  next => cases h
  next requested hrequest =>
    split at h
    next => cases h
    next hpossible => exact ⟨_, uploadName_eq_ok_iff.2 ⟨requested, hrequest, hpossible, rfl⟩⟩

/-- **The stated length is checked as its stage says.** -/
theorem checkLength_eq : checkLength c r =
    if (statedLength? r).any (c.maxUploadBytes < ·) then
      .error (StoreError.tooLarge c.maxUploadBytes).failure
    else .ok () := by
  rw [checkLength]
  cases statedLength? r with
  | none => rfl
  | some n => simp only [Option.any_some, decide_eq_true_eq]

end Service

end HostedFiles
