import HostedFiles.Proofs.Disk.Directories
import HostedFiles.Proofs.Store.Names
import HostedFiles.Service.Retrieve

/-!
# Proofs/Service/Retrievals — what is given out

A request for a file looks at the disk in one place, under the name that it asks for.  So two disks
on which the same stands there are answered alike (`retrieve_congr`); a file there is given out
(`retrieve_file`), and if nothing is there the answer says so (`retrieve_missing`).  Whatever stands
there, the request fails or gives a file out, and changes nothing (`retrieve_cases`).
-/

namespace HostedFiles

open Http

namespace Store

variable {root name : String} {d e : Disk} {content : ByteArray}

/-- Under a name that is stored the store measures what stands there. -/
theorem size_of_isStored (h : IsStored name) :
    size root name d = measure (Path.join root name) name d := by
  rw [size, filePath_of_isStored h]
  rfl

/-- Under another name there is nothing to measure. -/
theorem size_of_not_isStored (h : ¬ IsStored name) :
    size root name d = .error (.invalidName name) := by
  rw [size, filePath_of_not_isStored h]
  rfl

/-- **What has no size is not opened.** -/
theorem openFile_of_error {problem : StoreError} (h : size root name d = .error problem) :
    openFile root name d = .error problem := by
  rw [size] at h
  rw [openFile, StoredFile.between]
  cases hpath : filePath root name with
  | error _ =>
    rw [hpath] at h
    exact congrArg Except.error (Except.error.inj h)
  | ok path =>
    rw [hpath] at h
    have hmeasure : measure path name d = .error problem := h
    simp only [bind, Except.bind, hmeasure]

/-- What has a size stands under a name that is stored. -/
theorem isStored_of_size {n : Nat} (h : size root name d = .ok n) : IsStored name := by
  refine Classical.byContradiction fun hnot => ?_
  rw [size_of_not_isStored hnot] at h
  cases h

/-- **What has a size is opened with it**, and the size is the one that it states. -/
theorem openFile_of_size {n : Nat} (h : size root name d = .ok n) :
    ∃ entry, d.stat (Path.join root name) = .ok entry ∧ Disk.fileSize? entry = some n ∧
      openFile root name d = .ok { name, size := n, content := Disk.contentOf entry } := by
  have hname := isStored_of_size h
  rw [size_of_isStored hname, measure] at h
  cases hstat : d.stat (Path.join root name) with
  | error fault => rw [hstat] at h; cases fault <;> cases h
  | ok entry =>
    rw [hstat] at h
    cases hsize : Disk.fileSize? entry with
    | none => simp only [hsize] at h; cases h
    | some m =>
      simp only [hsize, Except.ok.injEq] at h
      subst h
      refine ⟨entry, rfl, hsize, ?_⟩
      rw [openFile, StoredFile.between, filePath_of_isStored hname]
      simp only [bind, Except.bind, measure, openAt, hstat, hsize]
      rfl

/-- The size of a file that stands under a name. -/
theorem size_file (h : IsStored name) (hstat : d.stat (Path.join root name) = .ok (.file content)) :
    size root name d = .ok content.size := by
  rw [size_of_isStored h, measure, hstat]
  rfl

/-- Nothing that stands under a name has no size. -/
theorem size_missing (h : IsStored name) (hstat : d.stat (Path.join root name) = .error .missing) :
    size root name d = .error (.notFound name) := by
  rw [size_of_isStored h, measure, hstat]

/-- Where the disk cannot look there is no size either. -/
theorem size_fault {fault : DiskError} (h : IsStored name)
    (hstat : d.stat (Path.join root name) = .error fault) (hne : fault ≠ .missing) :
    size root name d = .error (.io fault.message) := by
  rw [size_of_isStored h, measure, hstat]
  split
  next heq => cases heq
  next heq => exact absurd (Except.error.inj heq) hne
  next heq => rw [Except.error.inj heq]

/-- Only what stands under the name counts for the size. -/
theorem size_congr
    (h : IsStored name → d.stat (Path.join root name) = e.stat (Path.join root name)) :
    size root name d = size root name e := by
  by_cases hname : IsStored name
  · rw [size_of_isStored hname, size_of_isStored hname, measure, measure, h hname]
  · rw [size_of_not_isStored hname, size_of_not_isStored hname]

end Store

namespace Service

variable {c : Config} {path name : String} {headOnly : Bool} {d e : Disk} {content : ByteArray}

/-- A path that asks for no name finds no file. -/
theorem retrieve_of_none (hname : resolvedName? path = none) :
    retrieve c headOnly path d = .ofFailure fileMissing d [] := by
  rw [retrieve, hname]

/-- **Where there is no size, the answer says why.** -/
theorem retrieve_eq_ofFailure {problem : StoreError} (hname : resolvedName? path = some name)
    (hsize : Store.size c.storagePath name d = .error problem) :
    retrieve c headOnly path d = .ofFailure (retrievalFailure problem) d [] := by
  rw [retrieve, hname]
  cases headOnly with
  | true => simp only [if_true, hsize]
  | false => simp only [Bool.false_eq_true, if_false, Store.openFile_of_error hsize]

theorem retrieve_of_error {problem : StoreError} (hname : resolvedName? path = some name)
    (hsize : Store.size c.storagePath name d = .error problem) :
    (retrieve c headOnly path d).response = (retrievalFailure problem).response := by
  rw [retrieve_eq_ofFailure hname hsize]
  rfl

/-- The answer that gives out what stands under a name; the body is left out if only the head was
asked for. -/
def givenOut (name : String) (n : Nat) (entry : Entry) (headOnly : Bool) (d : Disk) : Answer :=
  let body := fileBody { name, size := n, content := Disk.contentOf entry }
  { response := fileResponse name n (if headOnly then .whole ByteArray.empty else body.1)
    disk := d
    events := if headOnly then [] else body.2 }

/-- **Where there is a size, what states it is given out**, with its type and its length. -/
theorem retrieve_of_size {n : Nat} (hname : resolvedName? path = some name)
    (hsize : Store.size c.storagePath name d = .ok n) :
    ∃ entry, d.stat (Path.join c.storagePath name) = .ok entry ∧ Disk.fileSize? entry = some n ∧
      ∀ headOnly, retrieve c headOnly path d = givenOut name n entry headOnly d := by
  obtain ⟨entry, hstat, hstated, hopen⟩ := Store.openFile_of_size hsize
  refine ⟨entry, hstat, hstated, fun headOnly => ?_⟩
  rw [retrieve, hname]
  cases headOnly with
  | true => simp only [if_true, hsize, givenOut]
  | false => simp only [Bool.false_eq_true, if_false, hopen, givenOut]

/-- **What a request for a file leads to**: a failure, or a file that has the name asked for and a
size.  Nothing changes by it. -/
theorem retrieve_cases (c : Config) (headOnly : Bool) (path : String) (d : Disk) :
    (∃ f, retrieve c headOnly path d = .ofFailure f d []) ∨
      ∃ name n body events, resolvedName? path = some name ∧
        Store.size c.storagePath name d = .ok n ∧
        retrieve c headOnly path d =
          { response := fileResponse name n body, disk := d, events } := by
  cases hname : resolvedName? path with
  | none => exact .inl ⟨fileMissing, retrieve_of_none hname⟩
  | some name =>
    cases hsize : Store.size c.storagePath name d with
    | error problem => exact .inl ⟨_, retrieve_eq_ofFailure hname hsize⟩
    | ok n =>
      obtain ⟨entry, -, -, hanswer⟩ := retrieve_of_size hname hsize
      exact .inr ⟨name, n, _, _, rfl, hsize, hanswer headOnly⟩

/-- **An answer depends on what stands under the name asked for, and on nothing else.** -/
theorem retrieve_congr (h : ∀ name, Store.IsStored name →
    d.stat (Path.join c.storagePath name) = e.stat (Path.join c.storagePath name)) :
    (retrieve c headOnly path d).response = (retrieve c headOnly path e).response := by
  cases hname : resolvedName? path with
  | none =>
    rw [retrieve_of_none hname, retrieve_of_none hname]
    rfl
  | some name =>
    have hcongr := Store.size_congr (h name)
    cases hsize : Store.size c.storagePath name d with
    | error problem =>
      rw [retrieve_of_error hname hsize, retrieve_of_error hname (hcongr ▸ hsize)]
    | ok n =>
      obtain ⟨entry, hstat, -, hanswer⟩ := retrieve_of_size hname hsize
      obtain ⟨other, hother, -, hanswer'⟩ := retrieve_of_size hname (hcongr.symm.trans hsize)
      rw [h name (Store.isStored_of_size hsize), hother] at hstat
      rw [hanswer, hanswer', Except.ok.inj hstat]
      rfl

/-- **A file is given out**, with its length, and with its content unless only the head was asked
for. -/
theorem retrieve_file (hname : resolvedName? path = some name) (h : Store.IsStored name)
    (hstat : d.stat (Path.join c.storagePath name) = .ok (.file content)) :
    (retrieve c headOnly path d).response = fileResponse name content.size
      (.whole (if headOnly then ByteArray.empty else content)) := by
  obtain ⟨entry, hentry, -, hanswer⟩ := retrieve_of_size hname (Store.size_file h hstat)
  obtain rfl := Except.ok.inj (hentry.symm.trans hstat)
  rw [hanswer]
  cases headOnly <;> rfl

/-- **Where nothing stands the answer is that the file is missing.** -/
theorem retrieve_missing (hname : resolvedName? path = some name) (h : Store.IsStored name)
    (hstat : d.stat (Path.join c.storagePath name) = .error .missing) :
    (retrieve c headOnly path d).response = fileMissing.response :=
  retrieve_of_error hname (Store.size_missing h hstat)

/-- So it is for a name that the store does not take. -/
theorem retrieve_of_not_isStored (hname : resolvedName? path = some name)
    (h : ¬ Store.IsStored name) :
    (retrieve c headOnly path d).response = fileMissing.response :=
  retrieve_of_error hname (Store.size_of_not_isStored h)

end Service

end HostedFiles
