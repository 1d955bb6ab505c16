import HostedFiles.Proofs.Store.Concurrency
import HostedFiles.Store.Retrieval

/-!
# Proofs/Store/Races — a retrieval while others upload

A retrieval looks at its path twice: to measure the file, and to open it.  Uploads may take any
steps between the two looks.  Each look meets a complete version of the file, but not always the
same one: what is told as the size is that of the version at the first look, and what is read is the
version at the second (`retrieval_between`).  The two agree if nobody publishes under the name
between the looks, and else only where the versions happen to be of one size.
-/

namespace HostedFiles

/-- **What a retrieval shows if it goes well**: the size of what stood at the path at the first
look, and the content of what stood there at the second. -/
theorem StoredFile.of_between {root name : String} {d e : Disk} {f : StoredFile}
    (h : StoredFile.between root name d e = .ok f) : Store.IsStored name ∧
      (∃ entry, d.stat (Path.join root name) = .ok entry ∧ Disk.fileSize? entry = some f.size) ∧
      ∃ entry, e.stat (Path.join root name) = .ok entry ∧ Disk.contentOf entry = f.content := by
  by_cases hname : Store.IsStored name
  · rw [between, Store.filePath_of_isStored hname] at h
    simp only [bind, Except.bind, Store.measure, Store.openAt] at h
    refine ⟨hname, ?_⟩
    cases hmeasured : d.stat (Path.join root name) with
    | error fault => rw [hmeasured] at h; cases fault <;> cases h
    | ok entry =>
      rw [hmeasured] at h
      cases hsize : Disk.fileSize? entry with
      | none => simp only [hsize] at h; cases h
      | some size =>
        simp only [hsize] at h
        cases hopened : e.stat (Path.join root name) with
        | error fault => rw [hopened] at h; cases fault <;> cases h
        | ok other =>
          rw [hopened] at h
          injection h with h
          subst h
          exact ⟨⟨entry, rfl, hsize⟩, other, rfl, rfl⟩
  · rw [between, Store.filePath_of_not_isStored hname] at h
    cases h

namespace Store.Traffic

variable {ι : Type} {t : Traffic ι} {d : Disk} {p : Place} {s : Scene ι} {name : String}

/-! ## One look -/

/-- **A name at which a file or nothing stood at first holds a file or nothing.** -/
theorem version_file
    (hfile : ∀ entry, d.get? (p ++ [name]) = some entry → ∃ content, entry = .file content)
    {entry : Entry} (h : t.version d p s name = some entry) : ∃ content, entry = .file content := by
  rw [version] at h
  split at h
  · exact ⟨_, (Option.some.inj h).symm⟩
  · exact hfile entry h

/-- **A look at a name that goes well meets a complete version of the file.** -/
theorem Consistent.exists_version (h : t.Consistent d p s) (hopening : t.Opening d p)
    (hname : IsStored name)
    (hfile : ∀ entry, d.get? (p ++ [name]) = some entry → ∃ content, entry = .file content)
    {entry : Entry} (hstat : s.disk.stat (Path.join t.root name) = .ok entry) :
    ∃ content, entry = .file content ∧ t.version d p s name = some (.file content) := by
  have hget := h.file name hname.ne_partial
  have hlink : ∀ target, s.disk.get? (p ++ [name]) ≠ some (.link target) := by
    intro target hlink
    obtain ⟨content, heq⟩ := version_file hfile (hget.symm.trans hlink)
    cases heq
  rw [Disk.stat_join (h.leadsTo hopening) hname.isName hlink, hget] at hstat
  split at hstat
  · cases hstat
  split at hstat
  · cases hstat
  split at hstat
  · cases hstat
  next found hversion =>
    obtain ⟨content, hcontent⟩ := version_file hfile hversion
    rw [Except.ok.inj hstat] at hversion hcontent
    exact ⟨content, hcontent, hcontent ▸ hversion⟩

/-! ## Two looks -/

/-- **A name keeps its version while nobody publishes under it.** -/
theorem version_of_published_append {s' : Scene ι} {more : List ι}
    (hmore : s'.published = more ++ s.published) (hothers : ∀ i ∈ more, (t.call i).name ≠ name) :
    t.version d p s' name = t.version d p s name := by
  have hnone : more.find? (fun i => (t.call i).name == name) = none := by
    simpa using hothers
  rw [version, version, latest?, latest?, hmore, List.find?_append, hnone, Option.none_or]

section Looks

variable [DecidableEq ι]

/-- Publishing only adds to those who have published. -/
theorem exists_published_append (d : Disk) (before between : List ι) :
    ∃ more, (t.run d (before ++ between)).published = more ++ (t.run d before).published := by
  induction between using List.reverseRecOn with
  | nil => exact ⟨[], by rw [List.append_nil, List.nil_append]⟩
  | append_singleton between i ih =>
    obtain ⟨more, hmore⟩ := ih
    rw [← List.append_assoc, run_append_singleton, step]
    simp only
    split
    · exact ⟨i :: more, by rw [hmore, List.cons_append]⟩
    · exact ⟨more, hmore⟩

/-- **A retrieval tells the size of the version it measured and gives the version it opened**; they
are the same one if nobody has published under the name in between. -/
theorem retrieval_between (h : t.Opening d p)
    (hfile : ∀ entry, d.get? (p ++ [name]) = some entry → ∃ content, entry = .file content)
    (before between : List ι) {f : StoredFile}
    (hopen : StoredFile.between t.root name (t.run d before).disk
      (t.run d (before ++ between)).disk = .ok f) :
    ∃ (measured opened : ByteArray) (more : List ι),
      t.version d p (t.run d before) name = some (.file measured) ∧
      t.version d p (t.run d (before ++ between)) name = some (.file opened) ∧
      f.size = measured.size ∧ f.content = .ok opened ∧
      (t.run d (before ++ between)).published = more ++ (t.run d before).published ∧
      ((∀ i ∈ more, (t.call i).name ≠ name) → measured = opened) := by
  obtain ⟨hname, ⟨seen, hseen, hsize⟩, found, hfound, hcontent⟩ := StoredFile.of_between hopen
  obtain ⟨measured, rfl, hmeasured⟩ := (h.consistent before).exists_version h hname hfile hseen
  obtain ⟨opened, rfl, hopened⟩ :=
    (h.consistent (before ++ between)).exists_version h hname hfile hfound
  obtain ⟨more, hmore⟩ := @exists_published_append _ t _ d before between
  refine ⟨measured, opened, more, hmeasured, hopened, (Option.some.inj hsize).symm, hcontent.symm,
    hmore, fun hothers => ?_⟩
  rw [version_of_published_append hmore hothers, hmeasured] at hopened
  exact Entry.file.inj (Option.some.inj hopened)

end Looks

/-! ## A torn retrieval -/

open Sample in
/-- **A retrieval during which the file is replaced**: it tells the size of the old version, three
bytes, and gives the five bytes of the new one. -/
theorem torn_between_rivals : rivals.Opening disk ["up"] ∧ ∃ f,
    StoredFile.between "up" "n.txt" (rivals.run disk (List.replicate 6 1)).disk
      (rivals.run disk (List.replicate 6 1 ++ List.replicate 7 0)).disk = .ok f ∧
    f.size = 3 ∧ f.content = .ok (rivals.upload 0).content ∧
    (rivals.upload 0).content.size = 5 := by
  have hfile : ∀ entry, disk.get? (["up"] ++ ["n.txt"]) = some entry →
      ∃ content, entry = .file content := by
    intro entry h
    rw [get?_disk] at h
    cases h
  have hopen : ∃ f, StoredFile.between "up" "n.txt" (rivals.run disk (List.replicate 6 1)).disk
      (rivals.run disk (List.replicate 6 1 ++ List.replicate 7 0)).disk = .ok f := ⟨_, rfl⟩
  obtain ⟨f, hopen⟩ := hopen
  obtain ⟨measured, opened, -, hmeasured, hopened, hsize, hcontent, -⟩ :=
    retrieval_between opening_rivals hfile (List.replicate 6 1) (List.replicate 7 0) hopen
  have hfirst : rivals.version disk ["up"] (rivals.run disk (List.replicate 6 1)) "n.txt" =
      some (.file (rivals.upload 1).content) := rfl
  have hsecond : rivals.version disk ["up"]
      (rivals.run disk (List.replicate 6 1 ++ List.replicate 7 0)) "n.txt" =
      some (.file (rivals.upload 0).content) := rfl
  have hmeasured' := Entry.file.inj (Option.some.inj (hmeasured.symm.trans hfirst))
  have hopened' := Entry.file.inj (Option.some.inj (hopened.symm.trans hsecond))
  refine ⟨opening_rivals, f, hopen, ?_, ?_, rfl⟩
  · rw [hsize, hmeasured']
    rfl
  · rw [hcontent, hopened']

end Store.Traffic

end HostedFiles
