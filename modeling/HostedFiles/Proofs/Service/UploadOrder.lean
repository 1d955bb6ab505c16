import HostedFiles.Proofs.Service.UploadStages

/-!
# Proofs/Service/UploadOrder — what decides about an upload

The first stage that finds something wrong decides the answer (`Posted.response_eq`): the checks
before writing stop there (`Posted.checkUpload_eq`), and so does the store
(`Posted.reported_ending`).
-/

namespace HostedFiles

namespace Service

open Http

variable {c : Config} {signer : Signer} {name : String}

/-! ## The stages of writing -/

/-- The store does not tell what is wrong when it cannot begin a file. -/
theorem reported_of_opened {u : Upload} {d : Disk} {e : StoreError}
    (h : u.opened d = .error e) : reported c name (.error e) = (Failure.storage "").response := by
  rw [Upload.opened] at h
  split at h
  · injection h with h
    rw [← h]
    rfl
  · split at h
    · cases h
    · injection h with h
      rw [← h]
      rfl

/-- Nor does it when it cannot publish one. -/
theorem reported_of_published {u : Upload} {d : Disk} {e : StoreError}
    (h : u.published d = .error e) :
    reported c name (.error e) = (Failure.storage "").response := by
  rw [Upload.published] at h
  split at h
  · cases h
  · injection h with h
    rw [← h]
    rfl

namespace Posted

variable (x : Posted c)

/-- A check does as a stage says: it gives the stage's failure if the stage fails, and goes through
if not. -/
structure Decides {α : Type} (s : Stage) (result : Except Failure α) : Prop where
  refused : x.fails s = true → result = .error (x.failure s)
  passed : x.fails s = false → ∃ a, result = .ok a

theorem decides_credential (h : c.signer = .ok signer) :
    x.Decides .credential (checkCredential c x.request x.fresh.now) := by
  rw [checkCredential_eq h]
  exact ⟨fun hfails => if_pos hfails, fun hpasses => ⟨(), if_neg (Bool.not_eq_true _ ▸ hpasses)⟩⟩

theorem decides_contentType : x.Decides .contentType (extension x.request) := by
  constructor
  · intro hfails
    rw [fails, Option.isNone_iff_eq_none] at hfails
    unfold extension
    rw [hfails, failure]
  · intro hpasses
    rw [fails, Option.isNone_eq_false_iff, Option.isSome_iff_exists] at hpasses
    obtain ⟨ext, hext⟩ := hpasses
    refine ⟨ext, ?_⟩
    unfold extension
    rw [hext]

theorem decides_name (ext : String) :
    x.Decides .name (uploadName x.request ext x.fresh.name) := by
  constructor
  · intro hfails
    rw [fails, Option.isSome_iff_exists] at hfails
    obtain ⟨f, hf⟩ := hfails
    rw [uploadName_of_nameFailure? hf, failure, hf]
    rfl
  · intro hpasses
    rw [fails, Option.isSome_eq_false_iff, Option.isNone_iff_eq_none] at hpasses
    exact exists_uploadName hpasses

theorem decides_statedLength : x.Decides .statedLength (checkLength c x.request) := by
  rw [checkLength_eq]
  exact ⟨fun hfails => if_pos hfails, fun hpasses => ⟨(), if_neg (Bool.not_eq_true _ ▸ hpasses)⟩⟩

/-- What comes of checks that stop at the first of the stages which fails. -/
def stop {α : Type} (stages : List Stage) (a : α) : Except Failure α :=
  match stages.find? x.fails with
  | some s => .error (x.failure s)
  | none => .ok a

/-- **A chain of checks stops at the first stage that fails**, if its first check does as a stage
says and the rest of it as the other stages say. -/
theorem Decides.bind_eq {x : Posted c} {α β : Type} {s : Stage} {others : List Stage}
    {result : Except Failure α} {rest : α → Except Failure β} {b : β} (h : x.Decides s result)
    (hrest : ∀ a, result = .ok a → rest a = x.stop others b) :
    (result >>= rest) = x.stop (s :: others) b := by
  rw [stop]
  cases hfails : x.fails s with
  | true =>
    rw [h.refused hfails, List.find?_cons_of_pos hfails]
    rfl
  | false =>
    obtain ⟨a, ha⟩ := h.passed hfails
    rw [List.find?_cons_of_neg (by simp [hfails]), ha]
    exact hrest a ha

/-- **The checks before writing are those of the first stages.** -/
theorem checkUpload_eq (h : c.signer = .ok signer) :
    checkUpload c x.request x.fresh = x.stop Stage.checks (writtenName c x.request x.fresh) := by
  rw [checkUpload, Stage.checks]
  refine (x.decides_credential h).bind_eq fun _ hcredential => ?_
  refine x.decides_contentType.bind_eq fun ext hext => ?_
  refine (x.decides_name ext).bind_eq fun name hname => ?_
  refine x.decides_statedLength.bind_eq fun _ hlength => ?_
  have hcheck : checkUpload c x.request x.fresh = .ok name :=
    checkUpload_eq_ok_iff.2 ⟨hcredential, ext, hext, hname, hlength⟩
  rw [writtenName, hcheck]
  rfl

/-- **What the store makes of an upload is told as the stages of writing say.** -/
theorem reported_ending : reported c name (x.upload.ending x.disk .preparing).1 =
    match Stage.writes.find? x.fails with
    | some s => (x.failure s).response
    | none => reported c name (.ok x.upload.size) := by
  obtain ⟨taken, hending⟩ := Upload.exists_ending_preparing x.upload x.disk
  rw [hending, Stage.writes]
  cases hopened : x.upload.opened x.disk with
  | error e =>
    have hstorage : x.fails .storage = true := by rw [fails, hopened]; rfl
    rw [List.find?_cons_of_pos hstorage]
    exact reported_of_opened hopened
  | ok begun =>
  obtain ⟨place, begun⟩ := begun
  have hstorage : x.fails .storage = false := by rw [fails, hopened]; rfl
  rw [List.find?_cons_of_neg (by simp [hstorage])]
  by_cases hlimit : x.upload.limit < x.upload.size
  · have hbody : x.fails .body = true := by rw [fails]; exact decide_eq_true hlimit
    simp only [if_pos hlimit]
    rw [List.find?_cons_of_pos hbody]
    rfl
  have hbody : x.fails .body = false := by rw [fails]; exact decide_eq_false hlimit
  simp only [if_neg hlimit]
  rw [List.find?_cons_of_neg (by simp [hbody])]
  cases hfailure : x.upload.failure with
  | some problem =>
    have hrequest : x.request.failure = some problem := hfailure
    have hpublishing : x.fails .publishing = true := by rw [fails, hrequest]; rfl
    rw [List.find?_cons_of_pos hpublishing]
    rfl
  | none =>
  have hrequest : x.request.failure = none := hfailure
  have hpublishing : x.fails .publishing =
      !(x.upload.published (begun.appendAll place x.upload.chunks)).isOk := by
    rw [fails, hrequest, Upload.publishes, hopened]
    rfl
  simp only
  cases hpublished : x.upload.published (begun.appendAll place x.upload.chunks) with
  | error e =>
    rw [hpublished] at hpublishing
    rw [List.find?_cons_of_pos hpublishing]
    exact reported_of_published hpublished
  | ok d =>
    rw [hpublished] at hpublishing
    rw [List.find?_cons_of_neg (by rw [hpublishing]; exact Bool.false_ne_true)]
    rfl

/-! ## The answer -/

/-- A request to the upload address is an upload, since the address is not the health route. -/
theorem isUpload {events : List Log.Event} (h : c.check = .ok events) : IsUpload c x.request := by
  have hmount : c.mountPath ≠ Config.healthPath := by
    intro hmount
    have hvalid := Config.validate_eq_ok_of_check h
    rw [Config.check, hvalid, Config.meetsHealth, hmount] at h
    cases h
  refine ⟨x.method, ?_⟩
  rw [route, x.path, if_neg hmount, if_pos rfl]

/-- **The first stage that finds something wrong decides the answer**, and if none does the store
has taken the file. -/
theorem response_eq {events : List Log.Event} (h : c.check = .ok events) (production : Bool) :
    x.response production = sent production "POST" (match x.firstFailing with
      | some s => (x.failure s).response
      | none => reported c (writtenName c x.request x.fresh) (.ok x.upload.size)) := by
  obtain ⟨signer, hsigner⟩ := exists_signer h
  have hcheck := x.checkUpload_eq hsigner
  rw [response, answer, x.method, respond_of_isUpload (x.isUpload h), firstFailing, Stage.all,
    List.find?_append]
  rw [stop] at hcheck
  cases hfirst : Stage.checks.find? x.fails with
  | some s =>
    rw [hfirst] at hcheck
    rw [(upload_of_error hcheck).1]
    rfl
  | none =>
    rw [hfirst] at hcheck
    rw [(upload_of_ok x.proper hcheck).1, Option.none_or]
    exact congrArg (sent production "POST") x.reported_ending

/-- The failure of a stage has the stage's status. -/
theorem status_failure {s : Stage} (h : x.fails s = true) : (x.failure s).status = s.status := by
  cases s with
  | credential =>
    rw [failure, credentialFailure]
    split <;> rfl
  | name =>
    rw [fails, Option.isSome_iff_exists] at h
    obtain ⟨f, hf⟩ := h
    rw [failure, hf]
    exact status_of_nameFailure? hf
  | _ => rfl

end Posted

end Service

/-! ## Two uploads to a small service -/

namespace Sample

open Http Service

/-- Settings under which a credential is asked for. -/
def guarded : Config :=
  { settings with authenticate := true }

/-- An upload without a credential. -/
def anonymous : Posted guarded where
  request := request
  fresh := fresh
  disk := disk
  method := rfl
  path := rfl
  proper := proper

/-- Settings that take a single byte. -/
def narrow : Config :=
  { settings with maxUploadBytes := 1 }

/-- An upload of more than that, to a disk on which a file is in the way of unfinished uploads. -/
def tooLong : Posted narrow where
  request := request
  fresh := fresh
  disk :=
    { entries := .ofList [(["up"], .directory), (["up", ".partial"], .file ByteArray.empty)]
      working := [] }
  method := rfl
  path := rfl
  proper := proper

theorem check_narrow : narrow.check = .ok [] := by rfl

theorem firstFailing_anonymous : anonymous.firstFailing = some .credential := by rfl

theorem firstFailing_tooLong : tooLong.firstFailing = some .storage := by rfl

end Sample

/-! ## The order -/

namespace Service

open Http

variable {c : Config}

/-- What it means that uploads are decided in the order of the stages. -/
structure DecidedInOrder (c : Config) (production : Bool) : Prop where
  /-- The first stage that finds something wrong gives the status. -/
  status : ∀ x : Posted c, (x.response production).status =
    match x.firstFailing with
    | some s => s.status
    | none => if isHeaderValue c.publicUrl then .created else .internalError
  /-- Without a good credential one is asked for. -/
  challenge : ∀ x : Posted c, x.firstFailing = some .credential →
    (x.response production).header? "www-authenticate" =
      some ("Bearer realm=\"" ++ realm ++ "\"")
  /-- Nothing that a later stage looks at counts. -/
  independent : ∀ (x y : Posted c) (s : Stage), x.firstFailing = some s →
    (∀ t : Stage, t.number ≤ s.number → x.SameAt y t) →
    x.response production = y.response production
  /-- A body that is too long is answered as one that says so. -/
  same_page : ∀ x y : Posted c, x.firstFailing = some .statedLength →
    y.firstFailing = some .body → x.response production = y.response production
  /-- Whatever the request is, without a good credential it changes nothing. -/
  guarded : ∀ (r : Request) (fresh : Fresh) (d : Disk),
    lacksCredential c r fresh.now = true → (answer production c r fresh d).disk = d

/-- **Uploads are decided in the order of the stages**, under all settings that pass the checks. -/
theorem decidedInOrder {events : List Log.Event} (h : c.check = .ok events) (production : Bool) :
    DecidedInOrder c production where
  status x := by
    rw [x.response_eq h, status_sent]
    cases hfirst : x.firstFailing with
    | none => exact status_reported_ok _
    | some s =>
      exact (Failure.status_response _).trans (x.status_failure (List.find?_some hfirst))
  challenge x hfirst := by
    rw [x.response_eq h, hfirst, header?_sent (by decide)]
    simp only [Posted.failure, credentialFailure]
    split <;> rfl
  independent x y s hfirst hsame := by
    rw [x.response_eq h, y.response_eq h, hfirst, Posted.firstFailing_congr hfirst hsame]
    simp only [(hsame s (Nat.le_refl _)).failure_eq]
  same_page x y hx hy := by
    rw [x.response_eq h, y.response_eq h, hx, hy]
    rfl
  guarded r fresh d hlacks := by
    obtain ⟨f, hf⟩ := exists_checkCredential_error hlacks
    refine (answer_of_not_passes fun name hpasses => ?_).1
    have hpassed := (checkUpload_eq_ok_iff.1 hpasses.checked).1
    rw [hf] at hpassed
    cases hpassed

open Sample in
/-- An upload without a credential is unauthorized, whatever else it is. -/
theorem unauthorized_of_anonymous : guarded.check = .ok [] ∧
    (anonymous.response false).status = .unauthorized := by
  have hcheck : guarded.check = .ok [] := by rfl
  have hstatus := (decidedInOrder hcheck false).status anonymous
  rw [firstFailing_anonymous] at hstatus
  exact ⟨hcheck, hstatus⟩

open Sample in
/-- **The store is asked before the body is measured**: a body that is too long for the settings,
with nothing wrong before it, is answered by an internal error if the store takes no file. -/
theorem storage_before_body : narrow.check = .ok [] ∧
    Stage.checks.find? tooLong.fails = none ∧ tooLong.fails .body = true ∧
    (tooLong.response false).status ≠ .payloadTooLarge ∧
    (tooLong.response false).status = .internalError := by
  have hstatus : (tooLong.response false).status = .internalError := by
    rw [tooLong.response_eq check_narrow, firstFailing_tooLong, status_sent]
    rfl
  refine ⟨check_narrow, by rfl, by rfl, ?_, hstatus⟩
  rw [hstatus]
  decide

end Service

end HostedFiles
