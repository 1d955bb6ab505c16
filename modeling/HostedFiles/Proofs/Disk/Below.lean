import HostedFiles.Proofs.Disk.Files

/-!
# Proofs/Disk/Below — files in a directory under a root

A path of the form root, directory, file can only be used for what stands in that directory, and
only if it is one (`look_of_resolve_below`): there is no other way for a call on it to go well.  So
each call on such a path either fails or changes a single place, whatever the disk looks like.

What stands directly in the root may be replaced while others use the root.  `Anchored` says that
the root is found all the same.
-/

namespace HostedFiles.Disk

open HostedFiles.Path (IsName join)

variable {d e : Disk} {root name file : String} {p q : Place} {follow : Bool}

/-! ## Roots that stay where they are -/

/-- `d.Anchored path p`: the path leads to `p`, and over no link that stands in `p` itself.  It does
so on every disk that has the directories of this one and its links outside of `p`. -/
def Anchored (d : Disk) (path : String) (p : Place) : Prop :=
  ∀ e : Disk, e.working = d.working →
    (∀ r, d.get? r = some .directory → e.get? r = some .directory) →
    (∀ r target, d.get? r = some (.link target) → r.dropLast ≠ p →
      e.get? r = some (.link target)) →
    e.LeadsTo path p

/-- It leads there on this disk. -/
theorem Anchored.leadsTo (h : d.Anchored root p) : d.LeadsTo root p :=
  h d rfl (fun _ hr => hr) fun _ _ hr _ => hr

/-- A path leads over no link in a directory that holds none. -/
theorem LeadsTo.anchored (h : d.LeadsTo root p)
    (hlink : ∀ name target, d.get? (p ++ [name]) ≠ some (.link target)) : d.Anchored root p := by
  intro e hworking hdir hkeep
  refine h.congr hworking hdir fun r target hr => hkeep r target hr ?_
  rintro rfl
  rcases List.eq_nil_or_concat r with rfl | ⟨r, name, rfl⟩
  · cases hr
  · rw [List.concat_eq_append] at hr hlink
    rw [List.dropLast_concat] at hlink
    exact hlink name target hr

/-! ## A directory under a root -/

/-- **What a name under a root leads to is the directory that stands there**, if it is no link. -/
theorem LeadsTo.below (hroot : d.LeadsTo root p) (h : d.LeadsTo (Path.join root name) q)
    (hn : IsName name) (hlink : ∀ target, d.get? (p ++ [name]) ≠ some (.link target)) :
    q = p ++ [name] ∧ d.get? (p ++ [name]) = some .directory := by
  obtain ⟨m, hm⟩ := leadsTo_iff_leading.1 hroot
  obtain ⟨k, hk⟩ := h
  have hwalk := walkFrom_of_leads hk
  rw [origin_join hn, Path.steps_join hn, walkFrom_append hm (.inr rfl), walkFrom_name] at hwalk
  split at hwalk
  · cases hwalk
  split at hwalk
  · cases hwalk
  next target hget => exact absurd hget (hlink target)
  next hget =>
    rw [walkFrom_nil] at hwalk
    injection hwalk with hwalk
    injection hwalk with hq
    exact ⟨hq.symm, hget⟩
  next entry _ hdir hget =>
    injection hwalk with hwalk
    injection hwalk with _ hentry
    exact absurd hentry hdir

/-- **Making a directory under a root makes nothing else**, and it makes it only where nothing
stands. -/
theorem makeDirectories_below (hroot : d.LeadsTo root p) (hn : IsName name) :
    (d.makeDirectories (join root name)).2 = d ∨
      d.get? (p ++ [name]) = none ∧
        (d.makeDirectories (join root name)).2 = d.put (p ++ [name]) .directory := by
  have hne := Path.join_ne_empty hn root
  rw [makeDirectories, if_neg hne]
  cases hfault : pathFault? (join root name) with
  | some fault => exact .inl rfl
  | none =>
    obtain ⟨above, houtward⟩ := Path.exists_outward_eq_cons hne
    have hresolve : d.resolve false (Path.dropEndSlashes (join root name)) = d.look p name := by
      rw [Path.dropEndSlashes_join hn, resolve_join hroot hn (by simp)]
      simp only [hfault]
    rw [houtward, makeInside, makeDirectory, hresolve, look]
    by_cases hlen : maxNameBytes < name.utf8ByteSize
    · rw [if_pos hlen]
      exact .inl rfl
    · rw [if_neg hlen]
      cases hget : d.get? (p ++ [name]) with
      | none => exact .inr ⟨rfl, rfl⟩
      | some entry => exact .inl rfl

/-! ## A file in a directory under a root -/

/-- A path that the system takes, with a name that it takes. -/
structure Taken (path name : String) : Prop where
  sound : pathFault? path = none
  short : name.utf8ByteSize ≤ maxNameBytes

section Below

variable (hroot : d.LeadsTo root p) (hn : IsName name) (hf : IsName file)
  (hlink : ∀ target, d.get? (p ++ [name]) ≠ some (.link target))

include hroot hn hf hlink

/-- **A call on a file under a directory under a root goes well only in this directory**, and is
decided by what stands there. -/
theorem spot_of_resolve_below {spot : Spot}
    (hown : follow = true → ∀ target, d.get? (p ++ [name] ++ [file]) ≠ some (.link target))
    (h : d.resolve follow (join (join root name) file) = .ok spot) :
    d.get? (p ++ [name]) = some .directory ∧ Taken (join (join root name) file) file ∧
      (d.get? (p ++ [name] ++ [file]) = none ∧ spot = .vacant (p ++ [name]) file ∨
        ∃ entry, d.get? (p ++ [name] ++ [file]) = some entry ∧
          spot = .found (p ++ [name] ++ [file]) entry) := by
  obtain ⟨hfault, q, hq⟩ := exists_leadsTo_of_resolve hf h
  obtain ⟨rfl, hdir⟩ := hroot.below hq hn hlink
  rw [resolve_join hq hf hown, hfault] at h
  obtain ⟨hshort, hspot⟩ := spot_of_look h
  exact ⟨hdir, ⟨hfault, hshort⟩, hspot⟩

/-- **A file is created empty in its place**, or not at all. -/
theorem createFile_below
    (hown : ∀ entry, d.get? (p ++ [name] ++ [file]) = some entry →
      entry = .directory ∨ ∃ content, entry = .file content) :
    (∃ fault, d.createFile (join (join root name) file) = .error fault) ∨
      d.createFile (join (join root name) file) =
          .ok (p ++ [name] ++ [file], d.put (p ++ [name] ++ [file]) (.file ByteArray.empty)) ∧
        d.get? (p ++ [name]) = some .directory ∧ Taken (join (join root name) file) file ∧
        d.get? (p ++ [name] ++ [file]) ≠ some .directory := by
  have hnolink : ∀ target, d.get? (p ++ [name] ++ [file]) ≠ some (.link target) := by
    intro target hget
    rcases hown _ hget with h | ⟨content, h⟩ <;> cases h
  cases hresolve : d.resolve true (join (join root name) file) with
  | error fault => exact .inl ⟨fault, by rw [createFile, hresolve]⟩
  | ok spot =>
    obtain ⟨hdir, htaken, hspot⟩ :=
      spot_of_resolve_below hroot hn hf hlink (fun _ => hnolink) hresolve
    rcases hspot with ⟨hget, rfl⟩ | ⟨entry, hget, rfl⟩
    · exact .inr ⟨by rw [createFile, hresolve], hdir, htaken, by rw [hget]; simp⟩
    · rcases hown entry hget with rfl | ⟨content, rfl⟩
      · exact .inl ⟨_, by rw [createFile, hresolve]⟩
      · exact .inr ⟨by rw [createFile, hresolve], hdir, htaken, by rw [hget]; simp⟩

/-- **A file that is removed was in its place**, and no file that can be reached is kept. -/
theorem removeFile_below (hshort : name.utf8ByteSize ≤ maxNameBytes) :
    (∃ fault, d.removeFile (join (join root name) file) = .error fault ∧
      ∀ content, d.get? (p ++ [name]) = some .directory → Taken (join (join root name) file) file →
        d.get? (p ++ [name] ++ [file]) ≠ some (.file content)) ∨
      d.removeFile (join (join root name) file) = .ok (d.erase (p ++ [name] ++ [file])) ∧
        d.get? (p ++ [name] ++ [file]) ≠ some .directory := by
  cases hresolve : d.resolve false (join (join root name) file) with
  | error fault =>
    refine .inl ⟨fault, by rw [removeFile, hresolve], fun content hdir htaken hfile => ?_⟩
    -- A file that can be reached is removed, so this one could not be.
    have hfound := removeFile_join (hroot.join hn hshort hdir) hf htaken.short hfile
    rw [removeFile, hresolve, htaken.sound] at hfound
    cases hfound
  | ok spot =>
    obtain ⟨-, -, hspot⟩ := spot_of_resolve_below hroot hn hf hlink (by simp) hresolve
    rcases hspot with ⟨hget, rfl⟩ | ⟨entry, hget, rfl⟩
    · exact .inl ⟨_, by rw [removeFile, hresolve], fun _ _ _ => by rw [hget]; simp⟩
    · cases entry with
      | directory => exact .inl ⟨_, by rw [removeFile, hresolve], fun _ _ _ => by rw [hget]; simp⟩
      | _ => exact .inr ⟨by rw [removeFile, hresolve], by rw [hget]; simp⟩

/-- **A file that is moved out of it was in its place**, and no directory stood where it went. -/
theorem rename_below {target : String} (ht : IsName target)
    (h : d.rename (join (join root name) file) (join root target) = .ok e) :
    ∃ entry, d.get? (p ++ [name] ++ [file]) = some entry ∧
      e = (d.erase (p ++ [name] ++ [file])).put (p ++ [target]) entry ∧
      d.get? (p ++ [target]) ≠ some .directory := by
  cases hresolve : d.resolve false (join (join root name) file) with
  | error fault => rw [rename, hresolve] at h; cases h
  | ok spot =>
    obtain ⟨-, -, hspot⟩ := spot_of_resolve_below hroot hn hf hlink (by simp) hresolve
    rcases hspot with ⟨-, rfl⟩ | ⟨entry, hget, rfl⟩
    · rw [rename, hresolve] at h
      cases h
    · rw [rename_join hroot ht hresolve] at h
      split at h
      · cases h
      next hfault =>
        exact ⟨entry, hget, (Except.ok.inj h).symm, (takeFault?_eq_none_iff.1 hfault).2.2⟩

end Below

end HostedFiles.Disk
