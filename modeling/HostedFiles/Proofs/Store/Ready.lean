import HostedFiles.Proofs.Store.Effects

/-!
# Proofs/Store/Ready — a store and its files

A store is ready when its root and the directory of unfinished uploads are there, and nothing but
files stands beside that directory.  Then the store is a map from names to contents (`files`), a
look at a name shows the map (`Ready.stat`), and a file that is put under a name keeps the store
ready (`Ready.put`).
-/

namespace HostedFiles

/-! ## Maps from names to contents -/

/-- A map from names to contents. -/
abbrev FileMap : Type := String → Option ByteArray

/-- The map with a content under a name. -/
def FileMap.set (m : FileMap) (name : String) (content : ByteArray) : FileMap :=
  fun other => if other = name then some content else m other

namespace Store

open HostedFiles.Path (IsName join)

variable {root name other : String} {d e : Disk} {p : Place} {content : ByteArray}

/-- The files in a directory. -/
def files (d : Disk) (p : Place) : FileMap := fun name =>
  match d.get? (p ++ [name]) with
  | some (.file content) => some content
  | _ => none

/-- **A file that is put under a name is set in the map.** -/
theorem files_put (d : Disk) (p : Place) (name : String) (content : ByteArray) :
    files (d.put (p ++ [name]) (.file content)) p = (files d p).set name content := by
  funext other
  rw [files, FileMap.set, Disk.get?_put d (by simp)]
  by_cases hother : other = name
  · rw [if_pos hother, hother, if_pos rfl]
  · rw [if_neg hother, if_neg (by simpa using hother)]
    rfl

/-- Disks that show the same have the same files. -/
theorem files_same (h : d.Same e) (p : Place) : files d p = files e p := by
  funext name
  rw [files, files, h.get?]

/-! ## Ready stores -/

/-- A store whose root leads to `p`: its directories are there, and beside the directory of
unfinished uploads nothing but files with names that are not too long stands under the root. -/
structure Ready (root : String) (d : Disk) (p : Place) : Prop where
  sound : Disk.pathFault? (partialPath root) = none
  leadsTo : d.LeadsTo root p
  unfinished : ∃ q, d.LeadsTo (partialPath root) q
  regular : ∀ name entry, name ≠ partialName → d.get? (p ++ [name]) = some entry →
    (∃ content, entry = .file content) ∧ name.utf8ByteSize ≤ Disk.maxNameBytes

/-- **A store that was prepared is ready** as soon as nothing else stands under its root. -/
theorem ready_of_prepare (hprepare : prepare root e = (.ok (), d)) (hroot : d.LeadsTo root p)
    (hregular : ∀ name entry, name ≠ partialName → d.get? (p ++ [name]) = some entry →
      (∃ content, entry = .file content) ∧ name.utf8ByteSize ≤ Disk.maxNameBytes) :
    Ready root d p := by
  rw [prepare] at hprepare
  split at hprepare
  next d' hmade =>
    obtain ⟨hsound, hunfinished⟩ := Disk.exists_leadsTo_of_makeDirectories isName_partialName hmade
    injection hprepare with _ hd
    exact ⟨hsound, hroot, hd ▸ hunfinished, hregular⟩
  next => cases hprepare

/-- The character that ends a path is in no path of a stored file, unless it is in the root. -/
theorem nul_not_mem_join (hroot : '\x00' ∉ root.toList) (hname : IsStored name) :
    '\x00' ∉ (join root name).toList := by
  intro hmem
  rcases Path.mem_join hmem with hin | hslash | hin
  · exact hroot hin
  · cases hslash
  · exact absurd ((FileName.sanitize?_eq_self_iff.1 hname.clean).1 _ hin) (by decide)

/-- Below a root in which nothing is at fault no path is, if it is not too long. -/
theorem pathFault?_join (hsound : Disk.pathFault? (partialPath root) = none) (hname : IsStored name)
    (hlen : (join root name).utf8ByteSize < Disk.maxPathBytes) :
    Disk.pathFault? (join root name) = none := by
  have hroot : '\x00' ∉ root.toList := by
    intro hin
    have hne : root ≠ "" := by rintro rfl; simp at hin
    exact Disk.not_mem_of_pathFault? (Disk.pathFault?_of_join hne hsound) hin
  have hnul := nul_not_mem_join hroot hname
  exact Disk.pathFault?_eq_none hnul (Path.join_ne_empty hname.isName root) hlen

namespace Ready

/-- No file stands in the place of the directory of unfinished uploads. -/
theorem files_partialName (h : Ready root d p) : files d p partialName = none := by
  obtain ⟨q, hq⟩ := h.unfinished
  have hthere := Disk.isDirectory_iff.2 ⟨h.sound, q, hq⟩
  rw [files]
  split
  next content hfile =>
    have hshort : ¬ Disk.maxNameBytes < partialName.utf8ByteSize := by decide
    rw [Disk.isDirectory, partialPath,
      Disk.stat_join h.leadsTo isName_partialName (by simp [hfile]), hfile, ← partialPath,
      h.sound] at hthere
    simp only [if_neg hshort] at hthere
    cases hthere
  next => rfl

/-- **A look at a name shows the map.** -/
theorem stat (h : Ready root d p) (hname : IsStored name)
    (hlen : name.utf8ByteSize ≤ Disk.maxNameBytes)
    (hpath : (join root name).utf8ByteSize < Disk.maxPathBytes) :
    d.stat (join root name) =
      match files d p name with
      | some content => .ok (.file content)
      | none => .error .missing := by
  have hlink : ∀ target, d.get? (p ++ [name]) ≠ some (.link target) := by
    intro target hlink
    obtain ⟨⟨content, hfile⟩, -⟩ := h.regular name _ hname.ne_partial hlink
    cases hfile
  rw [Disk.stat_join h.leadsTo hname.isName hlink, pathFault?_join h.sound hname hpath, files]
  simp only [if_neg (Nat.not_lt.2 hlen)]
  cases hget : d.get? (p ++ [name]) with
  | none => rfl
  | some entry =>
    obtain ⟨⟨content, rfl⟩, -⟩ := h.regular name _ hname.ne_partial hget
    rfl

/-- A disk that shows the same is as ready. -/
theorem same (h : Ready root d p) (hsame : e.Same d) : Ready root e p := by
  have hleads : ∀ {path q}, d.LeadsTo path q → e.LeadsTo path q := fun hq =>
    hq.congr hsame.working (fun r hr => (hsame.get? r).trans hr)
      fun r target hr => (hsame.get? r).trans hr
  obtain ⟨q, hq⟩ := h.unfinished
  refine ⟨h.sound, hleads h.leadsTo, ⟨q, hleads hq⟩, fun other entry hother hentry => ?_⟩
  rw [hsame.get?] at hentry
  exact h.regular other entry hother hentry

/-- **A file that is put under a name keeps the store ready.** -/
theorem put (h : Ready root d p) (hname : IsStored name)
    (hlen : name.utf8ByteSize ≤ Disk.maxNameBytes) (content : ByteArray) :
    Ready root (d.put (p ++ [name]) (.file content)) p := by
  have hget := @Disk.get?_put d (p ++ [name]) (by simp) (.file content)
  -- Only a file can have stood there, so directories and links are as before.
  have hkeep : ∀ r entry, d.get? r = some entry → (∀ content, entry ≠ .file content) →
      (d.put (p ++ [name]) (.file content)).get? r = some entry := by
    intro r entry hr hfile
    rw [hget, if_neg, hr]
    rintro rfl
    obtain ⟨⟨other, hentry⟩, -⟩ := h.regular name entry hname.ne_partial hr
    exact hfile other hentry
  have hleads : ∀ {path q}, d.LeadsTo path q →
      (d.put (p ++ [name]) (.file content)).LeadsTo path q := fun hq =>
    hq.congr rfl (fun r hr => hkeep r _ hr nofun) fun r target hr => hkeep r _ hr nofun
  obtain ⟨q, hq⟩ := h.unfinished
  refine ⟨h.sound, hleads h.leadsTo, ⟨q, hleads hq⟩, fun other entry hother hentry => ?_⟩
  rw [hget] at hentry
  split at hentry
  next heq =>
    have hsame : other = name := by simpa using heq
    rw [hsame]
    exact ⟨⟨content, (Option.some.inj hentry).symm⟩, hlen⟩
  next => exact h.regular other entry hother hentry

end Ready

end Store

end HostedFiles
