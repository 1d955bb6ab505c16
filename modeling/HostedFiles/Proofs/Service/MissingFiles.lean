import HostedFiles.Proofs.Service.Refinement
import HostedFiles.Proofs.Service.Routing

/-!
# Proofs/Service/MissingFiles — what is said of a file that is not there

A request may name no file in many ways: its name cannot be read or is reserved, nothing stands
under the root by that name, or a directory does.  One page is the answer to all of them
(`retrieve_of_not_namesFile`).  A name or a path that is longer than the disk takes is no file's
either, but there the disk does not say that nothing is found: the request fails, and this is told
as a failure of the store (`retrieve_of_tooLong`).
-/

namespace HostedFiles

open Http

/-! ## Paths below a directory -/

namespace Store

variable {root name : String} {d : Disk} {p : Place}

/-- **Below a directory a path is at fault when it is too long**, and only then. -/
theorem pathFault?_join_eq (hroot : Disk.pathFault? root = none) (hname : IsStored name) :
    Disk.pathFault? (Path.join root name) =
      if Disk.maxPathBytes ≤ (Path.join root name).utf8ByteSize then some .nameTooLong
      else none := by
  have hnul : '\x00' ∉ (Path.join root name).toList :=
    nul_not_mem_join (Disk.not_mem_of_pathFault? hroot) hname
  rw [Disk.pathFault?, if_neg fun hmem => hnul (List.contains_iff_mem.1 hmem),
    if_neg (Path.join_ne_empty hname.isName root)]

/-- A name under which no file can stand: the name or its path is longer than the disk takes. -/
def IsOverlong (root name : String) : Prop :=
  Disk.maxNameBytes < name.utf8ByteSize ∨
    Disk.maxPathBytes ≤ (Path.join root name).utf8ByteSize

instance : Decidable (IsOverlong root name) := inferInstanceAs (Decidable (_ ∨ _))

/-- **What stands under a name below a directory without links**, if the name is not overlong. -/
theorem stat_below (hroot : Disk.pathFault? root = none) (hleads : d.LeadsTo root p)
    (hfree : d.LinkFree) (hname : IsStored name) : d.stat (Path.join root name) =
      if IsOverlong root name then .error .nameTooLong
      else match d.get? (p ++ [name]) with
        | none => .error .missing
        | some entry => .ok entry := by
  rw [Disk.stat_join hleads hname.isName fun target => hfree _ target,
    pathFault?_join_eq hroot hname]
  by_cases hpath : Disk.maxPathBytes ≤ (Path.join root name).utf8ByteSize
  · have hover : IsOverlong root name := .inr hpath
    rw [if_pos hpath, if_pos hover]
  rw [if_neg hpath]
  by_cases hlen : Disk.maxNameBytes < name.utf8ByteSize
  · have hover : IsOverlong root name := .inl hlen
    rw [if_pos hover]
    exact if_pos hlen
  · have hfits : ¬ IsOverlong root name := fun hover => hover.elim hlen hpath
    rw [if_neg hfits]
    exact if_neg hlen

/-- What is no regular file has no size. -/
theorem size_of_not_regular (hstored : IsStored name)
    (hstat : d.stat (Path.join root name) = match d.get? (p ++ [name]) with
      | none => .error .missing
      | some entry => .ok entry)
    (hregular : ∀ entry, d.get? (p ++ [name]) = some entry → Disk.fileSize? entry = none) :
    size root name d = .error (.notFound name) := by
  rw [size_of_isStored hstored, measure, hstat]
  cases hget : d.get? (p ++ [name]) with
  | none => rfl
  | some entry => simp only [hregular entry hget]

end Store

namespace Service

variable {production headOnly : Bool} {c : Config} {r : Request} {fresh : Fresh} {d : Disk}
  {rest : String}

/-! ## Requests that name no file -/

/-- A path asks for a regular file directly under the root. -/
def NamesFile (c : Config) (d : Disk) (rest : String) : Prop :=
  ∃ name p entry, resolvedName? rest = some name ∧ name ≠ Store.partialName ∧
    d.LeadsTo c.storagePath p ∧ d.get? (p ++ [name]) = some entry ∧
    (Disk.fileSize? entry).isSome = true

/-- A path asks for a name under which no file can stand. -/
def AsksTooLong (c : Config) (rest : String) : Prop :=
  ∃ name, resolvedName? rest = some name ∧ name ≠ Store.partialName ∧
    Store.IsOverlong c.storagePath name

/-- The same page is the answer when the store does not know the name, or has no file by it. -/
theorem retrieve_of_notFound {problem : StoreError} {name : String}
    (hname : resolvedName? rest = some name)
    (hsize : Store.size c.storagePath name d = .error problem)
    (hproblem : problem = .notFound name ∨ problem = .invalidName name) :
    retrieve c headOnly rest d = .ofFailure fileMissing d [] := by
  rw [retrieve_eq_ofFailure hname hsize]
  rcases hproblem with rfl | rfl <;> rfl

/-- **What names no file is missing**, if it is not too long. -/
theorem retrieve_of_not_namesFile (hroot : d.isDirectory c.storagePath = true)
    (hfree : d.LinkFree) (hnone : ¬ NamesFile c d rest) (hshort : ¬ AsksTooLong c rest) :
    retrieve c headOnly rest d = .ofFailure fileMissing d [] := by
  obtain ⟨hsound, p, hleads⟩ := Disk.isDirectory_iff.1 hroot
  cases hname : resolvedName? rest with
  | none => exact retrieve_of_none hname
  | some name =>
    by_cases hpartial : name = Store.partialName
    · have hnot : ¬ Store.IsStored name := fun hstored => hstored.ne_partial hpartial
      exact retrieve_of_notFound hname (Store.size_of_not_isStored hnot) (.inr rfl)
    · have hstored := isStored_of_resolvedName? hname hpartial
      have hfits : ¬ Store.IsOverlong c.storagePath name := fun hlong =>
        hshort ⟨name, hname, hpartial, hlong⟩
      have hstat := Store.stat_below hsound hleads hfree hstored
      rw [if_neg hfits] at hstat
      refine retrieve_of_notFound hname (Store.size_of_not_regular hstored hstat ?_) (.inl rfl)
      intro entry hget
      exact Option.not_isSome_iff_eq_none.1 fun hsome =>
        hnone ⟨name, p, entry, hname, hpartial, hleads, hget, hsome⟩

/-- **What is too long is a failure of the store.** -/
theorem retrieve_of_tooLong (hroot : d.isDirectory c.storagePath = true) (hfree : d.LinkFree)
    (hlong : AsksTooLong c rest) : ∃ problem, ∀ headOnly,
      retrieve c headOnly rest d = .ofFailure (.storage problem) d [] := by
  obtain ⟨hsound, p, hleads⟩ := Disk.isDirectory_iff.1 hroot
  obtain ⟨name, hname, hpartial, hover⟩ := hlong
  have hstored := isStored_of_resolvedName? hname hpartial
  have hstat : d.stat (Path.join c.storagePath name) = .error .nameTooLong := by
    rw [Store.stat_below hsound hleads hfree hstored, if_pos hover]
  have hsize := Store.size_fault hstored hstat (by decide)
  exact ⟨_, fun headOnly => retrieve_eq_ofFailure hname hsize⟩

/-! ## Their answers -/

/-- The answer to a request for a file that is not there: the one page that says so, and no line. -/
structure AnsweredMissing (production : Bool) (r : Request) (d : Disk) (a : Answer) : Prop where
  status : a.response.status = .notFound
  /-- Nothing of the request but its method counts for the page. -/
  page : a.response = sent production r.method fileMissing.response
  quiet : a.events = []
  disk : a.disk = d

/-- The answer to a request that failed: it tells the client no more, and is worth a line. -/
structure AnsweredFailed (a : Answer) : Prop where
  status : a.response.status = .internalError
  told : ∃ e ∈ a.events, e.level = .error

/-- **A path that names no file is answered by the one page for missing files, unless it is too
long**; then the request fails.  The health route is the only other exception, and lies behind no
mount path of settings that were read. -/
theorem answeredMissing_iff (production : Bool) (fresh : Fresh)
    (hroot : d.isDirectory c.storagePath = true) (hfree : d.LinkFree)
    (hreading : isReading r.method = true) (hpath : r.path = c.mountPath ++ "/" ++ rest)
    (hnone : ¬ NamesFile c d rest) :
    (AnsweredMissing production r d (answer production c r fresh d) ↔
      ¬ AsksTooLong c rest ∧ r.path ≠ Config.healthPath) ∧
    (AsksTooLong c rest → r.path ≠ Config.healthPath →
      AnsweredFailed (answer production c r fresh d)) ∧
    ∀ source given, Config.ofSource source = .ok given → c.mountPath = given.mountPath →
      r.path ≠ Config.healthPath := by
  have hfailed : AsksTooLong c rest → r.path ≠ Config.healthPath →
      AnsweredFailed (answer production c r fresh d) := by
    intro hlong hhealth
    obtain ⟨problem, hretrieve⟩ := retrieve_of_tooLong hroot hfree hlong
    rw [answer, Link.respond_behindMount fresh d hreading hpath hhealth, hretrieve]
    exact ⟨status_sent _, _, List.mem_singleton_self _, rfl⟩
  have hexcept : AnsweredMissing production r d (answer production c r fresh d) →
      ¬ AsksTooLong c rest ∧ r.path ≠ Config.healthPath := by
    intro h
    have hhealth : r.path ≠ Config.healthPath := by
      intro hhealth
      have hstatus := h.status
      rw [answer, respond, route, if_pos hhealth, status_sent, health, if_pos hreading] at hstatus
      cases hstatus
    refine ⟨fun hlong => ?_, hhealth⟩
    have hstatus := (hfailed hlong hhealth).status.symm.trans h.status
    cases hstatus
  refine ⟨⟨hexcept, fun h => ?_⟩, hfailed, fun source given hread hmount => ?_⟩
  · obtain ⟨hshort, hhealth⟩ := h
    rw [answer, Link.respond_behindMount fresh d hreading hpath hhealth,
      retrieve_of_not_namesFile hroot hfree hnone hshort]
    exact ⟨status_sent _, rfl, rfl, rfl⟩
  · rw [hpath]
    exact Config.behind_ne_healthPath (hmount ▸ Config.head?_mountPath hread) rest

end Service

/-! ## A name that is one byte too long -/

namespace Sample

/-- A name of one letter over and over. -/
def lettered (n : Nat) : String :=
  String.ofList (List.replicate n 'a')

variable {n : Nat}

theorem isStored_lettered (h : 8 < n) : Store.IsStored (lettered n) := by
  have hne : ∀ other : String, other.length ≤ 8 → lettered n ≠ other := by
    intro other hlength heq
    rw [← heq, lettered, String.length_ofList, List.length_replicate] at hlength
    omega
  refine Store.isStored_iff.2
    ⟨fun c hc => ?_, hne _ (by decide), hne _ (by decide), hne _ (by decide), hne _ (by decide)⟩
  rw [lettered, String.toList_ofList] at hc
  rw [List.eq_of_mem_replicate hc]
  decide

theorem isOverlong_lettered (root : String) (h : Disk.maxNameBytes < n) :
    Store.IsOverlong root (lettered n) := by
  refine .inl ?_
  rwa [lettered, Text.utf8ByteSize_replicate, show 'a'.utf8Size = 1 from by decide, Nat.mul_one]

end Sample

open Sample in
/-- **Anyone can make the service fail by asking for a long name**: no file has it, yet the answer
is not that of a missing file. -/
theorem Service.answeredFailed_lettered :
    let rest := Percent.encode (lettered 256)
    let r := asking (settings.mountPath ++ "/" ++ rest)
    let a := answer false settings r Sample.fresh disk
    settings.check = .ok [] ∧ ¬ NamesFile settings disk rest ∧ AnsweredFailed a ∧
      ¬ AnsweredMissing false r disk a := by
  intro rest r a
  have hroot : disk.isDirectory settings.storagePath = true := by rfl
  have hnone : ¬ NamesFile settings disk rest := by
    rintro ⟨name, p, entry, -, hpartial, hleads, hget, -⟩
    obtain rfl := hleads.unique ready.leadsTo
    rw [get?_disk, if_neg (show name ≠ ".partial" from hpartial)] at hget
    cases hget
  have hstored := isStored_lettered (n := 256) (by decide)
  have hlong : AsksTooLong settings rest :=
    ⟨_, resolvedName?_encode hstored, hstored.ne_partial, isOverlong_lettered _ (by decide)⟩
  have hhealth : r.path ≠ Config.healthPath := Config.behind_ne_healthPath rfl rest
  obtain ⟨hmissing, hfailed, -⟩ :=
    answeredMissing_iff (r := r) false Sample.fresh hroot linkFree_disk rfl rfl hnone
  exact ⟨by rfl, hnone, hfailed hlong hhealth, fun h => (hmissing.1 h).1 hlong⟩

end HostedFiles
