import HostedFiles.Proofs.Samples
import HostedFiles.Proofs.Store.Interleaving

/-!
# Proofs/Store/Concurrency — uploads that run at the same time do not mix

From the whole disk being known throughout (`Interleaving`) it is read off what the store promises
when many upload at once: nobody ever sees a part of a file or a mixture of two, and when all are
done nothing unfinished is left (`uploads_unmixed`).
-/

namespace HostedFiles.Store.Traffic

open HostedFiles.Upload (unfinishedPlace Phase)

variable {ι : Type} {t : Traffic ι} {d : Disk} {p : Place}

/-- What uploads at the same time leave of a disk, if they take their steps in the order of a
schedule. -/
structure Unmixed [DecidableEq ι] (t : Traffic ι) (d : Disk) (p : Place) (schedule : List ι) :
    Prop where
  /-- A name holds what it held at first, or the complete body of one call for it. -/
  complete : ∀ name, name ≠ partialName →
    (t.run d schedule).disk.get? (p ++ [name]) = d.get? (p ++ [name]) ∨
      ∃ i, (t.call i).name = name ∧ (t.upload i).size ≤ (t.call i).limit ∧
        (t.call i).failure = none ∧
        (t.run d schedule).disk.get? (p ++ [name]) = some (.file (t.upload i).content)
  /-- A name that no call is for is as it was. -/
  unasked : ∀ name, name ≠ partialName → (∀ i, (t.call i).name ≠ name) →
    (t.run d schedule).disk.get? (p ++ [name]) = d.get? (p ++ [name])
  /-- A name holds the body of the call that was the last to publish it. -/
  latest : ∀ name, name ≠ partialName →
    (t.run d schedule).disk.get? (p ++ [name]) = t.version d p (t.run d schedule) name
  /-- A call that came to a good end had its whole body published at some step. -/
  stored : ∀ i n, (t.run d schedule).phase i = .done (.ok n) → n = (t.upload i).size ∧
    ∃ before after, schedule = before ++ i :: after ∧
      (t.run d (before ++ [i])).disk.get? ((t.upload i).filePlace p) =
        some (.file (t.upload i).content)
  /-- When all calls are done, nothing is among the unfinished uploads that was not there before. -/
  cleared : Finished (t.run d schedule) → ∀ r, unfinishedPlace p <+: r → r ≠ unfinishedPlace p →
    (t.run d schedule).disk.get? r = none ∨ (t.run d schedule).disk.get? r = d.get? r

/-- The name that a call publishes under is not that of the directory of unfinished uploads. -/
theorem Consistent.name_ne_partialName {s : Scene ι} (h : t.Consistent d p s) {i : ι} {n : Nat}
    (hdone : s.phase i = .done (.ok n)) : (t.call i).name ≠ partialName := by
  rcases h.stored i with hname | ⟨e, herror⟩
  · exact hname.ne_partial
  · rw [herror] at hdone
    cases hdone

/-- **What a name should hold** is what it held at first, or the body of a call that published
it. -/
theorem version_eq_or (t : Traffic ι) (d : Disk) (p : Place) (s : Scene ι) (name : String) :
    t.version d p s name = d.get? (p ++ [name]) ∨ ∃ i ∈ s.published, (t.call i).name = name ∧
      t.version d p s name = some (.file (t.upload i).content) := by
  rw [version]
  cases hlatest : t.latest? s name with
  | none => exact .inl rfl
  | some i =>
    obtain ⟨hmem, hcall⟩ := mem_of_latest? hlatest
    exact .inr ⟨i, hmem, hcall, rfl⟩

/-- **When all calls are done, nothing of them is among the unfinished uploads.** -/
theorem Consistent.cleared {s : Scene ι} (h : t.Consistent d p s) (hfinished : Finished s)
    {r : Place} (hbelow : unfinishedPlace p <+: r) (hne : r ≠ unfinishedPlace p) :
    s.disk.get? r = none ∨ s.disk.get? r = d.get? r := by
  by_cases hown : ∃ i, r = (t.upload i).ownPlace p
  · obtain ⟨i, rfl⟩ := hown
    obtain ⟨result, hdone⟩ := hfinished i
    have hstands := h.stands i
    rw [hdone] at hstands
    exact hstands.elim .inr fun hnone => .inl hnone.1
  · refine .inr (h.elsewhere r hne (fun i hi => hown ⟨i, hi⟩) ?_)
    rintro name hname rfl
    obtain ⟨rest, hrest⟩ := hbelow
    rw [unfinishedPlace, List.append_assoc, List.append_cancel_left_eq] at hrest
    exact hname (List.cons.inj hrest).1.symm

/-- **Uploads at the same time do not mix**, whatever the calls are and in whatever order they take
their steps. -/
theorem uploads_unmixed [DecidableEq ι] (h : t.Opening d p) (schedule : List ι) :
    t.Unmixed d p schedule := by
  have hknown := h.consistent schedule
  constructor
  case complete =>
    intro name hname
    rw [hknown.file name hname]
    refine (version_eq_or t d p _ name).imp_right ?_
    rintro ⟨i, hmem, hcall, hversion⟩
    have hwhole := (hknown.published i hmem).1
    exact ⟨i, hcall, hwhole.size_le, hwhole.unbroken, hversion⟩
  case unasked =>
    intro name hname hunasked
    rw [hknown.file name hname]
    refine (version_eq_or t d p _ name).resolve_right ?_
    rintro ⟨i, -, hcall, -⟩
    exact hunasked i hcall
  case latest => exact hknown.file
  case stored =>
    intro i n hdone
    obtain ⟨hmem, hsize⟩ := hknown.reported i n hdone
    obtain ⟨before, after, heq, hlatest⟩ := exists_of_mem_published hmem
    refine ⟨hsize, before, after, heq, ?_⟩
    have hfile := (h.consistent (before ++ [i])).file _ (hknown.name_ne_partialName hdone)
    rw [version, hlatest] at hfile
    exact hfile
  case cleared => exact fun hfinished r hbelow hne => hknown.cleared hfinished hbelow hne

end HostedFiles.Store.Traffic

/-! ## Three calls at once -/

namespace HostedFiles.Sample

open HostedFiles.Store

/-- Two calls for one name, and a call that breaks off since the disk is full. -/
def rivals : Traffic (Fin 3) where
  root := "up"
  call i := match i with
    | 0 => ⟨"n.txt", "a", [(Text.bytes "he").toByteArray, (Text.bytes "llo").toByteArray], none, 9⟩
    | 1 => ⟨"n.txt", "b", [(Text.bytes "bye").toByteArray], none, 9⟩
    | 2 => ⟨"m.txt", "c", [(Text.bytes "x").toByteArray],
      some (.write (Text.bytes "y").toByteArray "No space left on device (os error 28)"), 9⟩

/-- The order in which they take turns. -/
def rivalTurns : List (Fin 3) :=
  (List.replicate 8 [1, 0, 2]).flatten

/-- Each of them has as many turns as it needs. -/
theorem finished_rivals : Traffic.Finished (rivals.run disk rivalTurns) :=
  Traffic.finished_of_turns (by decide)

theorem published_rivals : (rivals.run disk rivalTurns).published = [0, 1] := by rfl

/-- Nothing stands in the places of their unfinished files. -/
theorem ownPlace_free_rivals : ∀ i, disk.get? ((rivals.upload i).ownPlace ["up"]) = none
  | 0 | 1 | 2 => rfl

/-- The disk is fit for them. -/
theorem opening_rivals : rivals.Opening disk ["up"] where
  anchored := by
    refine disk_root.anchored fun name target h => ?_
    rw [get?_disk] at h
    split at h <;> cases h
  no_link target h := by
    rw [Upload.unfinishedPlace, get?_disk] at h
    split at h <;> cases h
  isName i := by constructor <;> revert i <;> decide
  distinct := by decide
  plain i entry h := by
    rw [ownPlace_free_rivals] at h
    cases h

end HostedFiles.Sample

namespace HostedFiles.Store.Traffic

open Sample in
/-- **Two calls for one name and a third one that fails**: the name holds the body of the call that
was published last, and nothing is left of the one that failed. -/
theorem unmixed_rivals : rivals.Opening disk ["up"] ∧ Finished (rivals.run disk rivalTurns) ∧
    (rivals.run disk rivalTurns).disk.get? ["up", "n.txt"] =
      some (.file (rivals.upload 0).content) ∧
    (rivals.run disk rivalTurns).disk.get? ["up", "m.txt"] = none ∧
    (rivals.run disk rivalTurns).disk.get? ["up", ".partial", "c.part"] = none := by
  have hunmixed := uploads_unmixed opening_rivals rivalTurns
  have hlatest : ∀ name, rivals.latest? (rivals.run disk rivalTurns) name =
      [0, 1].find? fun i => (rivals.call i).name == name := by
    intro name
    rw [latest?, published_rivals]
  refine ⟨opening_rivals, finished_rivals, ?_, ?_, ?_⟩
  · have hfile := hunmixed.latest "n.txt" (by decide)
    rw [version, hlatest] at hfile
    exact hfile
  · have hfile := hunmixed.latest "m.txt" (by decide)
    rw [version, hlatest] at hfile
    exact hfile
  · have hcleared := hunmixed.cleared finished_rivals ["up", ".partial", "c.part"]
      ⟨["c.part"], rfl⟩ (by decide)
    exact hcleared.elim id id

end HostedFiles.Store.Traffic
