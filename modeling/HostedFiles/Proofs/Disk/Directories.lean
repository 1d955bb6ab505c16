import HostedFiles.Disk.Calls
import HostedFiles.Proofs.Disk.Joining
import HostedFiles.Proofs.Disk.Walking

/-!
# Proofs/Disk/Directories — what stands in the directory of a path

A path may lead to its directory in many ways; `LeadsTo` says to which one, however long the path
is.  From there a name joined to the path is looked up in this directory alone (`resolve_join`), so
each call on such a path is decided by what stands under the name.
-/

namespace HostedFiles.Disk

open HostedFiles.Path (IsName join)

variable {d e : Disk} {root name : String} {p q : Place} {follow : Bool}

/-! ## The directory of a path -/

/-- `d.LeadsTo path p`: the path leads to the directory `p`, every link followed.  The empty path
leads to the directory in which relative paths begin. -/
def LeadsTo (d : Disk) (path : String) (p : Place) : Prop :=
  ∃ m, d.Leads maxLinks (d.origin path) (Path.steps path) m p

/-- A path leads to one directory at most. -/
theorem LeadsTo.unique (hp : d.LeadsTo root p) (hq : d.LeadsTo root q) : p = q := by
  obtain ⟨_, hp⟩ := hp
  obtain ⟨_, hq⟩ := hq
  have heq := (walkFrom_of_leads hp).symm.trans (walkFrom_of_leads hq)
  injection heq with heq
  injection heq

/-- **A directory is what a path leads to**, unless the path itself is at fault. -/
theorem isDirectory_iff {path : String} :
    d.isDirectory path = true ↔ pathFault? path = none ∧ ∃ p, d.LeadsTo path p := by
  rw [isDirectory, stat, resolve]
  constructor
  · intro h
    cases hfault : pathFault? path with
    | some fault => simp [hfault] at h
    | none =>
      simp only [hfault] at h
      refine ⟨rfl, ?_⟩
      split at h
      next hstat =>
        split at hstat
        next place entry hwalk =>
          obtain rfl : entry = .directory := by injection hstat
          obtain ⟨m, hm⟩ := exists_leads_of_walkFrom_directory hwalk
          exact ⟨place, m, hm⟩
        next => cases hstat
        next => cases hstat
      next => cases h
  · rintro ⟨hfault, p, m, hm⟩
    have hwalk := walkFrom_of_leads hm
    rw [walkFrom] at hwalk
    simp only [hfault, hwalk]

/-- **A path leads to the same directory on a disk that has the same directories and links.** -/
theorem LeadsTo.congr (h : d.LeadsTo root p) (hworking : e.working = d.working)
    (hdir : ∀ r, d.get? r = some .directory → e.get? r = some .directory)
    (hlink : ∀ r target, d.get? r = some (.link target) → e.get? r = some (.link target)) :
    e.LeadsTo root p := by
  obtain ⟨m, hm⟩ := h
  refine ⟨m, ?_⟩
  rw [origin, hworking]
  exact hm.congr hdir hlink

/-! ## A name joined to a path -/

/-- A name joined to a path is walked to from where the path begins. -/
theorem origin_join (hn : IsName name) (root : String) :
    d.origin (join root name) = d.origin root := by
  rw [origin, origin, Path.isAbsolute_join hn]

/-- **A path leads where its pieces in front of a name lead.** -/
theorem leadsTo_iff_leading : d.LeadsTo root p ↔
    ∃ m, d.Leads maxLinks (d.origin root) ((Path.leading root).filterMap Path.step?) m p := by
  rw [LeadsTo, Path.steps_eq]
  split
  · constructor
    · rintro ⟨m, hm⟩
      obtain ⟨k, r, hk, hhere⟩ := exists_leads_of_walkFrom (walkFrom_of_leads hm) (by simp)
      rw [walkFrom_here, walkFrom_nil] at hhere
      obtain rfl : r = p := by injection hhere with hhere; injection hhere
      exact ⟨k, hk⟩
    · exact fun ⟨m, hm⟩ => ⟨m, hm.append (.here .stay)⟩
  · rw [List.append_nil]

/-- What stands under a name in a directory. -/
def look (d : Disk) (p : Place) (name : String) : Except DiskError Spot :=
  if maxNameBytes < name.utf8ByteSize then .error .nameTooLong
  else match d.get? (p ++ [name]) with
    | none => .ok (.vacant p name)
    | some entry => .ok (.found (p ++ [name]) entry)

/-- **What a look that goes well finds** is what stands there. -/
theorem spot_of_look {spot : Spot} (h : d.look p name = .ok spot) :
    name.utf8ByteSize ≤ maxNameBytes ∧
      (d.get? (p ++ [name]) = none ∧ spot = .vacant p name ∨
        ∃ entry, d.get? (p ++ [name]) = some entry ∧ spot = .found (p ++ [name]) entry) := by
  rw [look] at h
  split at h
  · cases h
  next hshort =>
    refine ⟨Nat.not_lt.1 hshort, ?_⟩
    cases hget : d.get? (p ++ [name]) with
    | none =>
      rw [hget] at h
      exact .inl ⟨rfl, (Except.ok.inj h).symm⟩
    | some entry =>
      rw [hget] at h
      exact .inr ⟨entry, rfl, (Except.ok.inj h).symm⟩

/-- **A name joined to a path is looked up in the directory that the path leads to.**  Only a link
under the name that is to be followed is not covered. -/
theorem resolve_join (hroot : d.LeadsTo root p) (hn : IsName name)
    (hlink : follow = true → ∀ target, d.get? (p ++ [name]) ≠ some (.link target)) :
    d.resolve follow (join root name) =
      match pathFault? (join root name) with
      | some fault => .error fault
      | none => d.look p name := by
  obtain ⟨m, hm⟩ := leadsTo_iff_leading.1 hroot
  have hwalk : d.walkFrom follow maxLinks (d.origin (join root name))
      (Path.steps (join root name)) = d.walkFrom follow m p [.name name] := by
    rw [origin_join hn, Path.steps_join hn]
    exact walkFrom_append hm (.inl (List.cons_ne_nil _ _))
  have hlook : d.walkFrom follow m p [.name name] = d.look p name := by
    rw [walkFrom_name, look]
    split
    · rfl
    · cases hget : d.get? (p ++ [name]) with
      | none => rfl
      | some entry =>
        cases entry with
        | directory => exact walkFrom_nil m _
        | link target =>
          have hf : follow = false := by
            cases follow with
            | false => rfl
            | true => exact absurd hget (hlink rfl target)
          simp [hf]
        | _ => rfl
  rw [resolve, ← hlook, ← hwalk]
  rfl

/-- **Where a call on a path with a name joined to it goes well, the path leads somewhere.** -/
theorem exists_leadsTo_of_resolve {spot : Spot} (hn : IsName name)
    (h : d.resolve follow (join root name) = .ok spot) :
    pathFault? (join root name) = none ∧ ∃ p, d.LeadsTo root p := by
  rw [resolve] at h
  split at h
  · cases h
  next hfault =>
  have hwalk : d.walkFrom follow maxLinks (d.origin root)
      ((Path.leading root).filterMap Path.step? ++ [.name name]) = .ok spot := by
    rw [← Path.steps_join hn, ← origin_join hn]
    exact h
  obtain ⟨m, p, hm, -⟩ := exists_leads_of_walkFrom hwalk (by simp)
  exact ⟨hfault, p, leadsTo_iff_leading.2 ⟨m, hm⟩⟩

/-- **A directory under a name is led to by the name joined to the path.** -/
theorem LeadsTo.join (hroot : d.LeadsTo root p) (hn : IsName name)
    (hlen : name.utf8ByteSize ≤ maxNameBytes) (hdir : d.get? (p ++ [name]) = some .directory) :
    d.LeadsTo (join root name) (p ++ [name]) := by
  obtain ⟨m, hm⟩ := leadsTo_iff_leading.1 hroot
  refine ⟨m, ?_⟩
  rw [origin_join hn, Path.steps_join hn]
  exact hm.append (.down hlen hdir .stay)

/-- **What leads to a directory by a name leads to one before it**, where a directory or a link
stands under the name. -/
theorem LeadsTo.exists_of_join (h : d.LeadsTo (Path.join root name) q) (hn : IsName name) :
    ∃ p entry, d.LeadsTo root p ∧ d.look p name = .ok (.found (p ++ [name]) entry) := by
  obtain ⟨m, hm⟩ := h
  rw [origin_join hn, Path.steps_join hn] at hm
  obtain ⟨k, p, hk, hwalk⟩ := exists_leads_of_walkFrom (walkFrom_of_leads hm) (by simp)
  rw [walkFrom_name] at hwalk
  split at hwalk
  · cases hwalk
  next hlen =>
  cases hget : d.get? (p ++ [name]) with
  | none => simp [hget] at hwalk
  | some entry =>
    refine ⟨p, entry, leadsTo_iff_leading.2 ⟨k, hk⟩, ?_⟩
    rw [look, if_neg hlen, hget]

/-- A path in which nothing is at fault is not too long. -/
theorem lt_of_pathFault? {path : String} (h : pathFault? path = none) :
    path.utf8ByteSize < maxPathBytes := by
  rw [pathFault?] at h
  split at h
  · cases h
  split at h
  · cases h
  split at h
  · cases h
  next hlen => exact Nat.not_le.1 hlen

/-- Nor does the character that ends a path stand in it. -/
theorem not_mem_of_pathFault? {path : String} (h : pathFault? path = none) :
    '\x00' ∉ path.toList := by
  intro hmem
  rw [pathFault?, if_pos (List.contains_iff_mem.2 hmem)] at h
  cases h

/-- Nothing else is at fault in a path that is not empty and not too long. -/
theorem pathFault?_eq_none {path : String} (hnul : '\x00' ∉ path.toList) (hne : path ≠ "")
    (hlen : path.utf8ByteSize < maxPathBytes) : pathFault? path = none := by
  rw [pathFault?, if_neg fun hmem => hnul (List.contains_iff_mem.1 hmem), if_neg hne,
    if_neg (Nat.not_le.2 hlen)]

/-! ## Calls on such a path -/

/-- Looking at a name that is no link. -/
theorem stat_join (hroot : d.LeadsTo root p) (hn : IsName name)
    (hlink : ∀ target, d.get? (p ++ [name]) ≠ some (.link target)) :
    d.stat (join root name) =
      match pathFault? (join root name) with
      | some fault => .error fault
      | none =>
        if maxNameBytes < name.utf8ByteSize then .error .nameTooLong
        else match d.get? (p ++ [name]) with
          | none => .error .missing
          | some entry => .ok entry := by
  rw [stat, resolve_join hroot hn fun _ => hlink]
  cases pathFault? (join root name) with
  | some fault => rfl
  | none =>
    by_cases hlen : maxNameBytes < name.utf8ByteSize
    · simp only [look, if_pos hlen]
    · simp only [look, if_neg hlen]
      cases d.get? (p ++ [name]) <;> rfl

/-- **A directory that is there already is made without a change.** -/
theorem makeDirectories_join (h : d.LeadsTo (join root name) q) (hn : IsName name) :
    d.makeDirectories (join root name) =
      (match pathFault? (join root name) with
        | some fault => .error fault
        | none => .ok (), d) := by
  obtain ⟨p, entry, hroot, hlook⟩ := h.exists_of_join hn
  have hne := Path.join_ne_empty hn root
  have hend := Path.dropEndSlashes_join hn root
  rw [makeDirectories, if_neg hne]
  cases hfault : pathFault? (join root name) with
  | some fault => rfl
  | none =>
    have hresolve : d.resolve false (join root name) = .ok (.found (p ++ [name]) entry) := by
      rw [resolve_join hroot hn (by simp), hfault]
      exact hlook
    have hthere : d.isDirectory (join root name) = true := isDirectory_iff.2 ⟨hfault, q, h⟩
    have hmake : d.makeDirectory (join root name) = .error .exists := by
      rw [makeDirectory, hend, hresolve]
    obtain ⟨above, houtward⟩ := Path.exists_outward_eq_cons hne
    rw [houtward, makeInside, hmake]
    simp only [orDirectory, hthere, if_true]

end HostedFiles.Disk
