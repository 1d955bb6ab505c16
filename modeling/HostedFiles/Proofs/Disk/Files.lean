import HostedFiles.Proofs.Disk.Directories

/-!
# Proofs/Disk/Files — a file of one's own

A file is made under a name that is free, grows, and is moved or removed.  While it grows the disk
is always the first one with some content put at its place (`appendAll_put`), and where paths lead
is not touched by it (`LeadsTo.put`); so what the calls do at the end is known from the disk at the
beginning.
-/

namespace HostedFiles

/-! ## Putting twice -/

/-- Erasing twice is erasing once. -/
theorem Rows.erase_erase {α β : Type} [BEq α] (rows : List (α × β)) (key : α) :
    erase (erase rows key) key = erase rows key := by
  simp [erase, List.filter_filter]

/-- A row that is put and erased was never there. -/
theorem Rows.erase_put {α β : Type} [BEq α] [LawfulBEq α] (rows : List (α × β)) (key : α)
    (value : β) : erase (put rows key value) key = erase rows key := by
  have hkey : ((key, value).1 != key) = false := by simp
  rw [put, erase, List.filter_cons, hkey]
  exact erase_erase rows key

namespace Tree

variable {α : Type}

/-- Of two children set under a name the second counts. -/
theorem setChild_setChild (t : Tree α) (n : String) (b c : Tree α) :
    (t.setChild n b).setChild n c = t.setChild n c := by
  have herase : Rows.erase (t.setChild n b).children n = Rows.erase t.children n := by
    rw [setChild, children]
    split
    · exact Rows.erase_erase _ _
    · exact Rows.erase_put _ _ _
  rw [setChild, herase, Rows.put, herase]
  rfl

/-- **Two changes at a place are one.** -/
theorem change_change (f g : Tree α → Tree α) (t : Tree α) (p : Place) :
    (t.change f p).change g p = t.change (fun b => g (f b)) p := by
  induction p generalizing t with
  | nil => rfl
  | cons n p ih => rw [change, change, change, child_setChild, if_pos rfl, ih, setChild_setChild]

end Tree

namespace Disk

open HostedFiles.Path (IsName join)

variable {d : Disk} {root name : String} {p : Place} {entry : Entry}

/-- **Of two entries put at a place the second counts.** -/
theorem put_put (d : Disk) (p : Place) (entry other : Entry) :
    (d.put p entry).put p other = d.put p other := by
  rw [put, put, put, Tree.put, Tree.put, Tree.change_change]
  rfl

/-- The disk with all chunks added to the file at a place. -/
def appendAll (d : Disk) (p : Place) (chunks : List ByteArray) : Disk :=
  chunks.foldl (fun d chunk => d.append p chunk) d

/-- Content with chunks behind it. -/
def joined (content : ByteArray) (chunks : List ByteArray) : ByteArray :=
  chunks.foldl (· ++ ·) content

/-- A file that bytes are added to holds them behind the others. -/
theorem append_put (hp : p ≠ []) (content bytes : ByteArray) :
    (d.put p (.file content)).append p bytes = d.put p (.file (content ++ bytes)) := by
  rw [append, get?_put d hp, if_pos rfl]
  exact put_put d p _ _

/-- **A file that chunks are added to holds them all**, and nothing else changes. -/
theorem appendAll_put (hp : p ≠ []) (content : ByteArray) (chunks : List ByteArray) :
    (d.put p (.file content)).appendAll p chunks = d.put p (.file (joined content chunks)) := by
  induction chunks generalizing content with
  | nil => rfl
  | cons chunk chunks ih =>
    rw [appendAll, List.foldl_cons, append_put hp, ← appendAll, ih]
    rfl

/-! ## Paths beside the file -/

/-- **Where a path leads is not touched by what is put at a free place.** -/
theorem LeadsTo.put (h : d.LeadsTo root p) {r : Place} (hr : d.get? r = none) (entry : Entry) :
    (d.put r entry).LeadsTo root p := by
  have hne : r ≠ [] := by
    rintro rfl
    simp [get?] at hr
  have hkeep : ∀ q entry', d.get? q = some entry' → (d.put r entry).get? q = some entry' := by
    intro q entry' hq
    rw [get?_put d hne, if_neg, hq]
    rintro rfl
    rw [hr] at hq
    cases hq
  exact h.congr rfl (fun q => hkeep q _) fun q target => hkeep q _

/-! ## Making directories -/

/-- **A path that was made a directory leads to it.** -/
theorem exists_leadsTo_of_makeDirectory {e : Disk} (hn : IsName name)
    (h : d.makeDirectory (join root name) = .ok e) : ∃ q, e.LeadsTo (join root name) q := by
  rw [makeDirectory, Path.dropEndSlashes_join hn] at h
  split at h
  · cases h
  next directory other hresolve =>
    obtain ⟨hfault, p, hroot⟩ := exists_leadsTo_of_resolve hn hresolve
    rw [resolve_join hroot hn (by simp), hfault] at hresolve
    obtain ⟨hlen, ⟨hget, hspot⟩ | ⟨entry, -, hspot⟩⟩ := spot_of_look hresolve
    · injection hspot with hdirectory hother
      subst hdirectory hother
      injection h with h
      subst h
      refine ⟨directory ++ [other], (hroot.put hget _).join hn hlen ?_⟩
      rw [get?_put d (by simp), if_pos rfl]
    · cases hspot
  · cases h

/-- **A path that was made a directory with those above it leads to it.** -/
theorem exists_leadsTo_of_makeDirectories {e : Disk} (hn : IsName name)
    (h : d.makeDirectories (join root name) = (.ok (), e)) :
    pathFault? (join root name) = none ∧ ∃ q, e.LeadsTo (join root name) q := by
  have hthere : ∀ d : Disk, ∀ fault, d.orDirectory (join root name) fault = (.ok (), e) →
      ∃ q, e.LeadsTo (join root name) q := by
    intro d fault hd
    rw [orDirectory, Prod.mk.injEq] at hd
    obtain ⟨hd, rfl⟩ := hd
    split at hd
    next hdir => exact (isDirectory_iff.1 hdir).2
    next => cases hd
  have hne := Path.join_ne_empty hn root
  rw [makeDirectories, if_neg hne] at h
  split at h
  · cases h
  next hfault =>
  refine ⟨hfault, ?_⟩
  obtain ⟨above, houtward⟩ := Path.exists_outward_eq_cons hne
  rw [houtward, makeInside] at h
  split at h
  next d' hmade =>
    injection h with _ h
    exact exists_leadsTo_of_makeDirectory hn (h ▸ hmade)
  next =>
    split at h
    · cases h
    next d' hinside =>
      split at h
      next hmade =>
        injection h with _ h
        exact exists_leadsTo_of_makeDirectory hn (h ▸ hmade)
      next => exact hthere _ _ h
  next => exact hthere _ _ h

/-! ## Making, moving and removing the file -/

/-- **A file is made under a free name**, unless its path is at fault. -/
theorem createFile_join (hroot : d.LeadsTo root p) (hn : IsName name)
    (hlen : name.utf8ByteSize ≤ maxNameBytes) (hfree : d.get? (p ++ [name]) = none) :
    d.createFile (join root name) =
      match pathFault? (join root name) with
      | some fault => .error fault
      | none => .ok (p ++ [name], d.put (p ++ [name]) (.file ByteArray.empty)) := by
  rw [createFile, resolve_join hroot hn (by simp [hfree])]
  cases pathFault? (join root name) with
  | some fault => rfl
  | none => simp only [look, if_neg (Nat.not_lt.2 hlen), hfree]

/-- **A file that stands under a name is removed**, unless its path is at fault. -/
theorem removeFile_join {content : ByteArray} (hroot : d.LeadsTo root p) (hn : IsName name)
    (hlen : name.utf8ByteSize ≤ maxNameBytes)
    (hfile : d.get? (p ++ [name]) = some (.file content)) :
    d.removeFile (join root name) =
      match pathFault? (join root name) with
      | some fault => .error fault
      | none => .ok (d.erase (p ++ [name])) := by
  rw [removeFile, resolve_join hroot hn (by simp)]
  cases pathFault? (join root name) with
  | some fault => rfl
  | none => simp only [look, if_neg (Nat.not_lt.2 hlen), hfile]

/-- Why a file cannot take the place of what stands under a name in a directory, if it cannot. -/
def takeFault? (path name : String) (standing : Option Entry) : Option DiskError :=
  (pathFault? path).or <|
    if maxNameBytes < name.utf8ByteSize then some .nameTooLong
    else if standing.any Entry.isDirectory then some .isDirectory
    else none

/-- **A file takes the place of anything but a directory**, where name and path are not at fault. -/
theorem takeFault?_eq_none_iff {path : String} {standing : Option Entry} :
    takeFault? path name standing = none ↔
      pathFault? path = none ∧ name.utf8ByteSize ≤ maxNameBytes ∧ standing ≠ some .directory := by
  rw [takeFault?, Option.or_eq_none_iff]
  refine and_congr_right fun _ => ?_
  by_cases hlen : maxNameBytes < name.utf8ByteSize
  · rw [if_pos hlen]
    exact iff_of_false nofun fun h => absurd h.1 (Nat.not_le.2 hlen)
  · rw [if_neg hlen]
    cases standing with
    | none => simp [Nat.not_lt.1 hlen]
    | some entry => cases entry <;> simp [Nat.not_lt.1 hlen, Entry.isDirectory]

/-- **A file is moved to a name unless a directory stands there** or the name or path is at fault.
-/
theorem rename_join {source : String} {place : Place} (hroot : d.LeadsTo root p) (hn : IsName name)
    (hsource : d.resolve false source = .ok (.found place entry)) :
    d.rename source (join root name) =
      match takeFault? (join root name) name (d.get? (p ++ [name])) with
      | some fault => .error fault
      | none => .ok ((d.erase place).put (p ++ [name]) entry) := by
  rw [rename, hsource, takeFault?]
  simp only
  rw [resolve_join hroot hn (by simp)]
  cases pathFault? (join root name) with
  | some fault => rfl
  | none =>
    rw [look, Option.none_or]
    by_cases hlen : maxNameBytes < name.utf8ByteSize
    · rw [if_pos hlen, if_pos hlen]
    · rw [if_neg hlen, if_neg hlen]
      cases hget : d.get? (p ++ [name]) with
      | none => rfl
      | some standing => cases standing <;> rfl

end Disk

end HostedFiles
