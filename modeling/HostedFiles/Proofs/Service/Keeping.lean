import HostedFiles.Proofs.Disk.Building
import HostedFiles.Proofs.Service.Uploads

/-!
# Proofs/Service/Keeping — requests take no directory away

An upload makes directories, and creates, moves and removes a file of its own.  Each of its steps
keeps every directory (`Upload.built_step`), so a whole upload does (`Upload.built_finish`), and a
request does to the disk what its upload does (`disk_answer`).  All that is asked is that no
directory bears the name of the unfinished file, since that would be moved.
-/

namespace HostedFiles

open HostedFiles.Path (IsName Mentions)

namespace Upload

variable {u : Upload} {d : Disk} {phase : Phase}

/-- **A step of an upload keeps every directory** and makes some on the way to the unfinished
uploads at most. -/
theorem built_step (hname : IsName u.unfinishedName) (hlacks : d.Lacks u.unfinishedName)
    (phase : Phase) : Disk.Built (Mentions (Store.partialPath u.root)) d (u.step d phase).disk := by
  cases phase with
  | preparing =>
    have hmade := (Disk.grown_makeDirectories d (Store.partialPath u.root)).toBuilt
    simp only [step]
    split
    next heq => rwa [heq] at hmade
    next heq => rwa [heq] at hmade
  | creating =>
    simp only [step]
    split
    next heq => exact Disk.built_createFile heq
    next => exact .refl _ d
  | writing place written rest =>
    cases rest with
    | nil =>
      simp only [step]
      split
      next broken _ =>
        cases broken with
        | write part problem => exact Disk.built_append _ d place part
        | body problem | sync problem => exact .refl _ d
      next => exact .refl _ d
    | cons chunk rest =>
      simp only [step]
      split
      · exact .refl _ d
      · exact Disk.built_append _ d place chunk
  | syncing written => simp only [step]; split <;> exact .refl _ d
  | publishing written =>
    simp only [step]
    split
    next heq => exact Disk.built_rename heq (hlacks.resolve_ne hname)
    next => exact .refl _ d
  | discarding e =>
    simp only [step]
    split
    next heq => exact Disk.built_removeFile heq
    next => exact .refl _ d
    next => exact .refl _ d
  | withdrawing e =>
    simp only [step]
    split
    next heq => exact Disk.built_removeFile heq
    next => exact .refl _ d
  | done result => exact .refl _ d

/-- **So does a whole upload.** -/
theorem built_finish (hname : IsName u.unfinishedName)
    (hmentions : ¬ Mentions (Store.partialPath u.root) u.unfinishedName)
    (hlacks : d.Lacks u.unfinishedName) (phase : Phase) :
    Disk.Built (Mentions (Store.partialPath u.root)) d (u.finish d phase).disk := by
  induction d, phase using finish.induct u with
  | case1 d phase result hresult =>
    rw [finish]
    split
    · exact .refl _ d
    next heq => rw [hresult] at heq; cases heq
  | case2 d phase hnone _ _ ih =>
    have hstep := built_step hname hlacks phase
    rw [finish_of_result?_eq_none u d hnone]
    exact hstep.trans (ih (hstep.lacks hmentions hlacks))

end Upload

namespace Service

variable {c : Config} {r : Http.Request} {fresh : Fresh} {d : Disk} {u : Upload}

/-- The upload that a request begins, if it begins one. -/
def begun? (c : Config) (r : Http.Request) (fresh : Fresh) : Option Upload :=
  if r.method = "POST" ∧ route c r.method r.path = .upload then
    match checkUpload c r fresh with
    | .ok name => some (asked c r fresh name)
    | .error _ => none
  else none

/-- An upload that was begun has the root of the settings, and a mark of its own. -/
theorem of_begun? (h : begun? c r fresh = some u) :
    u.root = c.storagePath ∧ u.mark = fresh.mark := by
  rw [begun?] at h
  split at h
  · split at h
    · cases h
      exact ⟨rfl, rfl⟩
    · cases h
  · cases h

/-- **A request does to the disk what its upload does.** -/
theorem disk_answer (hproper : fresh.Proper) (production : Bool) :
    (answer production c r fresh d).disk =
      match begun? c r fresh with
      | some u => (u.finish d .preparing).disk
      | none => d := by
  rw [begun?]
  by_cases hupload : r.method = "POST" ∧ route c r.method r.path = .upload
  · have hisUpload : IsUpload c r := ⟨hupload.1, hupload.2⟩
    rw [if_pos hupload, answer, respond_of_isUpload hisUpload]
    simp only
    cases hcheck : checkUpload c r fresh with
    | ok name => exact (upload_of_ok hproper hcheck).2
    | error f => exact (upload_of_error hcheck).2
  · rw [if_neg hupload]
    exact (respond_of_not_isUpload fun h => hupload ⟨h.method, h.route⟩).1

end Service

end HostedFiles
