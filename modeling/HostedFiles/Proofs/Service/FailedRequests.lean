import HostedFiles.Proofs.Service.Uploads

/-!
# Proofs/Service/FailedRequests — what a failed request leaves

A request that is not answered as created leaves the disk as it was, with one exception: an upload
that was stored and whose address is not fit for a header (`Stranded`).  Its file stays, and the
answer is a failure.
-/

namespace HostedFiles.Service

open Http

variable {production : Bool} {c : Config} {r : Request} {fresh : Fresh} {d : Disk} {p q : Place}

/-- The request is an upload that the store takes, and then its address is not fit for a header.  It
changes the disk unless the same file stood in its place before. -/
def Stranded (c : Config) (r : Request) (fresh : Fresh) (d : Disk) (p : Place) : Prop :=
  IsUpload c r ∧ isHeaderValue c.publicUrl = false ∧ ∃ name n,
    checkUpload c r fresh = .ok name ∧
    (Store.store c.storagePath name fresh.mark r.chunks r.failure c.maxUploadBytes d).result =
      .ok n ∧
    d.get? (p ++ [name]) ≠ some (.file (body r))

/-- A stranded upload leaves another file under its name. -/
theorem Prepared.get?_of_stranded (h : Prepared c fresh d p q) (hs : Stranded c r fresh d p)
    (production : Bool) :
    ∃ t, (answer production c r fresh d).disk.get? (p ++ t) ≠ d.get? (p ++ t) := by
  obtain ⟨hupload, -, name, n, hcheck, hresult, hother⟩ := hs
  have hdisk := (h.answered ⟨hupload, hcheck⟩ production).2
  rw [h.result_store hcheck] at hresult
  refine ⟨[name], fun heq => hother ?_⟩
  rw [← heq, hdisk.get?, hresult, left_asked_ok, Disk.get?_put d (by simp), if_pos rfl]

/-- **A failed request that is not stranded leaves the disk as it was.** -/
theorem Prepared.same_of_not_stranded (h : Prepared c fresh d p q)
    (hstatus : (answer production c r fresh d).response.status ≠ .created)
    (hs : ¬ Stranded c r fresh d p) : (answer production c r fresh d).disk.Same d := by
  by_cases hpasses : ∃ name, Passes c r fresh name
  · obtain ⟨name, hpasses⟩ := hpasses
    obtain ⟨hresponse, hdisk⟩ := h.answered hpasses production
    cases hverdict : verdict c r fresh d p name with
    | error e => rw [hverdict] at hdisk; exact hdisk
    | ok n =>
      rw [hresponse, status_sent, hverdict, status_reported_ok] at hstatus
      have hurl : isHeaderValue c.publicUrl = false := by
        cases hurl : isHeaderValue c.publicUrl with
        | false => rfl
        | true => exact absurd (if_pos hurl) hstatus
      -- The same file stands in its place, or the upload would be stranded.
      have hstood : d.get? (p ++ [name]) = some (.file (body r)) :=
        Classical.byContradiction fun hother => hs ⟨hpasses.isUpload, hurl, name, n,
          hpasses.checked, (h.result_store hpasses.checked).trans hverdict, hother⟩
      rw [hverdict, left_asked_ok] at hdisk
      refine hdisk.trans ⟨rfl, fun s => ?_⟩
      rw [Disk.get?_put d (by simp)]
      split
      next heq => rw [heq, hstood]
      next => rfl
  · rw [(answer_of_not_passes (not_exists.1 hpasses)).1]
    exact .refl d

end HostedFiles.Service

namespace HostedFiles.Sample

open Http Service

/-- Settings that pass every check, though a control character stands in their public address. -/
def unfit : Config :=
  { settings with publicHost := "files\x01.test" }

theorem check_unfit : unfit.check = .ok [] := by rfl

/-- The store takes the request. -/
theorem verdict_unfit : verdict unfit request fresh disk ["up"] "n.txt" = .ok 2 := by rfl

/-- **The request is stranded under them**: it is answered by an internal error, and its file stays.
-/
theorem stranded_request : Stranded unfit request fresh disk ["up"] ∧
    (answer false unfit request fresh disk).response.status = .internalError := by
  have hprepared : Prepared unfit fresh disk ["up"] ["up", ".partial"] := prepared rfl
  have hpasses : Passes unfit request fresh "n.txt" := ⟨⟨rfl, by rfl⟩, by rfl⟩
  have hurl : isHeaderValue unfit.publicUrl = false := by rfl
  have hfree : disk.get? (["up"] ++ ["n.txt"]) = none := by rfl
  refine ⟨⟨hpasses.isUpload, hurl, "n.txt", 2, hpasses.checked, ?_, hfree ▸ nofun⟩, ?_⟩
  · rw [hprepared.result_store hpasses.checked, verdict_unfit]
  · rw [(hprepared.answered hpasses false).1, status_sent, verdict_unfit, status_reported_ok, hurl]
    rfl

end HostedFiles.Sample

namespace HostedFiles.Service

open Http

variable {production : Bool} {c : Config} {r : Request} {fresh : Fresh} {d : Disk} {p q : Place}

/-- **A failed request leaves the tree below the root as it was, unless it is stranded**; one that
is not stranded leaves the whole disk as it was. -/
theorem unchanged_of_failed_iff (h : Prepared c fresh d p q)
    (hstatus : (answer production c r fresh d).response.status ≠ .created) :
    ((∀ t, (answer production c r fresh d).disk.get? (p ++ t) = d.get? (p ++ t)) ↔
        ¬ Stranded c r fresh d p) ∧
      (¬ Stranded c r fresh d p → (answer production c r fresh d).disk.Same d) := by
  refine ⟨⟨fun hkept hs => ?_, fun hs t => ?_⟩, h.same_of_not_stranded hstatus⟩
  · obtain ⟨t, ht⟩ := h.get?_of_stranded hs production
    exact ht (hkept t)
  · exact (h.same_of_not_stranded hstatus hs).get? (p ++ t)

open Sample in
/-- A stranded request fails, and the tree below the root is not what it was. -/
theorem changed_by_stranded : unfit.check = .ok [] ∧
    (answer false unfit request Sample.fresh disk).response.status ≠ .created ∧
    ¬ ∀ t, (answer false unfit request Sample.fresh disk).disk.get? (["up"] ++ t) =
      disk.get? (["up"] ++ t) := by
  obtain ⟨hstranded, hstatus⟩ := stranded_request
  have hfailed : (answer false unfit request Sample.fresh disk).response.status ≠ .created := by
    rw [hstatus]
    decide
  have hprepared : Prepared unfit Sample.fresh disk ["up"] ["up", ".partial"] := prepared rfl
  have hiff := (unchanged_of_failed_iff hprepared hfailed).1
  exact ⟨check_unfit, hfailed, fun hkept => hiff.1 hkept hstranded⟩

end HostedFiles.Service
