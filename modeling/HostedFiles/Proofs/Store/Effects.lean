import HostedFiles.Proofs.Store.Writing

/-!
# Proofs/Store/Effects — what an upload does to a disk

An upload begins well where its root leads to a directory, the directory of unfinished uploads is
there, and nothing stands under its own name in it.  Then `Begins.exists_ending` gives both its
result, by a rule that looks at the disk in one place alone (`verdict`), and the disk it leaves: the
first one with the file in its place if the upload was stored, and the first one else.
-/

namespace HostedFiles

namespace Disk

open HostedFiles.Path (IsName join)

/-! ## Disks that show the same -/

/-- Two disks on which the same entries stand at all places. -/
structure Same (d e : Disk) : Prop where
  working : d.working = e.working
  get? : ∀ r, d.get? r = e.get? r

theorem Same.refl (d : Disk) : d.Same d := ⟨rfl, fun _ => rfl⟩

theorem Same.trans {d e f : Disk} (h : d.Same e) (h' : e.Same f) : d.Same f :=
  ⟨h.working.trans h'.working, fun r => (h.get? r).trans (h'.get? r)⟩

variable {d : Disk} {p q : Place} {entry other : Entry}

/-- A free place is not the root. -/
theorem ne_nil_of_get? (h : d.get? p = none) : p ≠ [] := by
  rintro rfl
  simp [Disk.get?] at h

/-- **What is put at a free place and erased leaves nothing behind.** -/
theorem same_erase_put (h : d.get? p = none) (entry : Entry) :
    ((d.put p entry).erase p).Same d := by
  have hp := ne_nil_of_get? h
  refine ⟨rfl, fun r => ?_⟩
  rw [get?_erase _ hp, get?_put _ hp]
  by_cases hr : r = p
  · rw [if_pos hr, hr, h]
  · rw [if_neg hr, if_neg hr]

/-- Disks that show the same still do with an entry put at a place. -/
theorem Same.put {e : Disk} (h : d.Same e) (hp : p ≠ []) (entry : Entry) :
    (d.put p entry).Same (e.put p entry) := by
  refine ⟨h.working, fun r => ?_⟩
  rw [get?_put _ hp, get?_put _ hp, h.get?]

/-- A path in which something is at fault stays so with a name joined to it. -/
theorem pathFault?_of_join {root name : String} (hne : root ≠ "")
    (h : pathFault? (join root name) = none) : pathFault? root = none := by
  have hpart : ∃ rest : String, join root name = root ++ rest := by
    rw [join, if_neg hne]
    split
    · exact ⟨name, rfl⟩
    · exact ⟨"/" ++ name, String.append_assoc⟩
  obtain ⟨rest, hrest⟩ := hpart
  rw [hrest, pathFault?] at h
  rw [pathFault?, if_neg hne]
  split at h
  · cases h
  next hnul =>
  rw [String.toList_append, List.contains_append, Bool.or_eq_true, not_or] at hnul
  split at h
  · cases h
  split at h
  · cases h
  next hlong =>
  rw [String.utf8ByteSize_append] at hlong
  rw [if_neg hnul.1, if_neg (by omega)]

end Disk

namespace Upload

open HostedFiles.Path (IsName join)

variable {u : Upload} {d : Disk} {p q : Place}

/-! ## Where an upload begins -/

/-- The name of the unfinished file. -/
def unfinishedName (u : Upload) : String := u.mark ++ ".part"

/-- The unfinished file has this name in the directory of unfinished uploads. -/
theorem partialPath_eq (u : Upload) :
    u.partialPath = join (Store.partialPath u.root) u.unfinishedName := rfl

/-- The upload begins well: the root leads to the directory `p` and takes the name, the directory of
unfinished uploads is `q`, and the name of the unfinished file is free in it. -/
structure Begins (u : Upload) (d : Disk) (p q : Place) : Prop where
  root : d.LeadsTo u.root p
  unfinished : d.LeadsTo (Store.partialPath u.root) q
  isName : IsName u.unfinishedName
  short : u.unfinishedName.utf8ByteSize ≤ Disk.maxNameBytes
  unused : d.get? (q ++ [u.unfinishedName]) = none
  stored : Store.IsStored u.name
  path : u.path = join u.root u.name

/-- **The rule by which an upload that begins well is stored or not**, given what stands under its
name. -/
def verdict (u : Upload) (standing : Option Entry) : Except StoreError Nat :=
  match Disk.pathFault? (Store.partialPath u.root) with
  | some e => .error (.io e.message)
  | none =>
    match Disk.pathFault? u.partialPath with
    | some e =>
      .error (.uploadFailed ("Failed to create file " ++ u.partialPath ++ ": " ++ e.message))
    | none =>
      if u.limit < u.size then .error (.tooLarge u.limit)
      else match u.failure with
        | some broken => .error (.uploadFailed (broken.message u.partialPath))
        | none =>
          match Disk.takeFault? u.path u.name standing with
          | some e =>
            .error (.uploadFailed ("Failed to publish file " ++ u.path ++ ": " ++ e.message))
          | none => .ok u.size

/-- **What was stored had a whole body, and could take the place of what stood there.** -/
theorem of_verdict_eq_ok {standing : Option Entry} {n : Nat} (h : u.verdict standing = .ok n) :
    u.failure = none ∧ Disk.takeFault? u.path u.name standing = none := by
  rw [verdict] at h
  split at h
  · cases h
  split at h
  · cases h
  split at h
  · cases h
  split at h
  · cases h
  next hfailure =>
  split at h
  · cases h
  next htake => exact ⟨hfailure, htake⟩

/-- The disk that an upload leaves: with its file in the place if it was stored. -/
def left (u : Upload) (d : Disk) (p : Place) : Except StoreError Nat → Disk
  | .ok _ => d.put (p ++ [u.name]) (.file u.content)
  | .error _ => d

/-- A path at fault keeps the disk from being cleared. -/
theorem cleared_of_fault {fault : DiskError} (h : Disk.pathFault? u.partialPath = some fault) :
    u.cleared d = d := by
  rw [cleared, Disk.removeFile, Disk.resolve, h]

/-- A file stands in the way no more than nothing does. -/
theorem takeFault?_file (path name : String) (content : ByteArray) :
    Disk.takeFault? path name (some (.file content)) = Disk.takeFault? path name none := rfl

namespace Begins

variable (h : u.Begins d p q)

include h

/-- The place of the unfinished file is free. -/
theorem ne_nil : q ++ [u.unfinishedName] ≠ [] :=
  Disk.ne_nil_of_get? h.unused

/-- The directory of unfinished uploads is there, so it is made without a change. -/
theorem makeDirectories : d.makeDirectories (Store.partialPath u.root) =
    (match Disk.pathFault? (Store.partialPath u.root) with
      | some fault => .error fault
      | none => .ok (), d) :=
  Disk.makeDirectories_join h.unfinished Store.isName_partialName

/-- The unfinished file is begun empty at its place, unless its path is at fault. -/
theorem createFile : d.createFile u.partialPath =
    match Disk.pathFault? u.partialPath with
    | some fault => .error fault
    | none => .ok (q ++ [u.unfinishedName],
        d.put (q ++ [u.unfinishedName]) (.file ByteArray.empty)) :=
  Disk.createFile_join h.unfinished h.isName h.short h.unused

/-- **Clearing takes the unfinished file away and nothing else.** -/
theorem cleared_put (hfault : Disk.pathFault? u.partialPath = none) (content : ByteArray) :
    (u.cleared (d.put (q ++ [u.unfinishedName]) (.file content))).Same d := by
  have hfile : (d.put (q ++ [u.unfinishedName]) (.file content)).get? (q ++ [u.unfinishedName]) =
      some (.file content) := by rw [Disk.get?_put _ h.ne_nil, if_pos rfl]
  rw [partialPath_eq] at hfault
  rw [cleared, partialPath_eq, Disk.removeFile_join (h.unfinished.put h.unused _) h.isName h.short
    hfile, hfault]
  exact Disk.same_erase_put h.unused _

/-- So it does where the upload breaks off while the file is written. -/
theorem cleared_brokenOff (hfault : Disk.pathFault? u.partialPath = none) (content : ByteArray)
    (broken : Break) :
    (u.cleared (brokenOff (d.put (q ++ [u.unfinishedName]) (.file content))
      (q ++ [u.unfinishedName]) broken)).Same d := by
  cases broken with
  | write part problem =>
    rw [brokenOff, Disk.append_put h.ne_nil]
    exact h.cleared_put hfault _
  | body problem | sync problem => exact h.cleared_put hfault _

/-- **Publishing moves the file to its place**, unless a directory stands there or the name or path
is at fault. -/
theorem published_put (hfault : Disk.pathFault? u.partialPath = none) (content : ByteArray) :
    u.published (d.put (q ++ [u.unfinishedName]) (.file content)) =
      match Disk.takeFault? u.path u.name (d.get? (p ++ [u.name])) with
      | some e =>
        .error (.uploadFailed ("Failed to publish file " ++ u.path ++ ": " ++ e.message))
      | none => .ok (((d.put (q ++ [u.unfinishedName]) (.file content)).erase
          (q ++ [u.unfinishedName])).put (p ++ [u.name]) (.file content)) := by
  have hget := Disk.get?_put d h.ne_nil (.file content)
  have hsource : (d.put (q ++ [u.unfinishedName]) (.file content)).resolve false u.partialPath =
      .ok (.found (q ++ [u.unfinishedName]) (.file content)) := by
    rw [partialPath_eq] at hfault
    rw [partialPath_eq, Disk.resolve_join (h.unfinished.put h.unused _) h.isName (by simp), hfault]
    simp only [Disk.look, if_neg (Nat.not_lt.2 h.short), hget, if_true]
  -- If the two places are one, the file itself stands under the name, which is no obstacle.
  have hstanding : Disk.takeFault? u.path u.name
      ((d.put (q ++ [u.unfinishedName]) (.file content)).get? (p ++ [u.name])) =
      Disk.takeFault? u.path u.name (d.get? (p ++ [u.name])) := by
    rw [hget]
    split
    next heq => rw [takeFault?_file, heq, h.unused]
    next => rfl
  rw [published, ← hstanding]
  rw [h.path, Disk.rename_join (h.root.put h.unused _) h.stored.isName hsource]
  cases Disk.takeFault? (join u.root u.name) u.name
    ((d.put (q ++ [u.unfinishedName]) (.file content)).get? (p ++ [u.name])) <;> rfl

/-- **An upload that begins well comes to its verdict, and leaves the first disk with its file in
the place if it was stored, and the first disk else.** -/
theorem exists_ending : ∃ d', u.ending d .preparing = (u.verdict (d.get? (p ++ [u.name])), d') ∧
    d'.Same (u.left d p (u.verdict (d.get? (p ++ [u.name])))) := by
  obtain ⟨taken, hending⟩ := exists_ending_preparing u d
  have hprepared : u.prepared d = d := by rw [prepared, h.makeDirectories]
  rw [hending, opened, hprepared, h.makeDirectories, verdict]
  cases hroot : Disk.pathFault? (Store.partialPath u.root) with
  | some fault =>
    cases hfile : Disk.pathFault? u.partialPath with
    | none =>
      have hne : Store.partialPath u.root ≠ "" := Path.join_ne_empty Store.isName_partialName _
      rw [Disk.pathFault?_of_join hne hfile] at hroot
      cases hroot
    | some => exact ⟨_, rfl, by rw [cleared_of_fault hfile]; exact .refl d⟩
  | none =>
    simp only [h.createFile]
    cases hfile : Disk.pathFault? u.partialPath with
    | some fault =>
      exact ⟨_, rfl, by rw [cleared_of_fault hfile]; exact .refl d⟩
    | none =>
      simp only [Disk.appendAll_put h.ne_nil]
      by_cases hlimit : u.limit < u.size
      · simp only [if_pos hlimit]
        exact ⟨_, rfl, h.cleared_put hfile _⟩
      · simp only [if_neg hlimit]
        cases u.failure with
        | some broken => exact ⟨_, rfl, h.cleared_brokenOff hfile _ broken⟩
        | none =>
          simp only [h.published_put hfile]
          cases Disk.takeFault? u.path u.name (d.get? (p ++ [u.name])) with
          | some fault => exact ⟨_, rfl, h.cleared_put hfile _⟩
          | none =>
            refine ⟨_, rfl, ?_⟩
            exact (Disk.same_erase_put h.unused _).put (by simp) _

end Begins

end Upload

end HostedFiles
