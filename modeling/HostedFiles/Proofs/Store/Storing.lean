import HostedFiles.Proofs.Disk.Severing
import HostedFiles.Proofs.Samples
import HostedFiles.Proofs.Store.Moves

/-!
# Proofs/Store/Storing — what becomes of chunks

The store is given a file in chunks.  What it makes of them depends on what they are together and
not on where one ends and the next begins (`storing`): more bytes than the limit allows are refused
first, then a body that breaks off, then a name that cannot be taken; anything else is stored as a
whole, and what is refused leaves nothing behind.
-/

namespace HostedFiles

open HostedFiles.Path (IsName join)

/-! ## Chunks together -/

namespace Upload

variable {chunks : List ByteArray} {limit : Nat}

/-- **Some of the chunks in front exceed a limit exactly if all of them do.** -/
theorem exists_prefix_lt_iff :
    (∃ taken, taken <+: chunks ∧ limit < total taken) ↔ limit < total chunks := by
  constructor
  · rintro ⟨taken, ⟨rest, rfl⟩, hlimit⟩
    rw [total_append]
    omega
  · intro hlimit
    exact ⟨chunks, List.prefix_rfl, hlimit⟩

/-- Content with chunks behind it is as long as they are together. -/
theorem size_joined (content : ByteArray) (chunks : List ByteArray) :
    (Disk.joined content chunks).size = content.size + total chunks := by
  induction chunks generalizing content with
  | nil => rfl
  | cons chunk chunks ih =>
    have hcons : Disk.joined content (chunk :: chunks) =
        Disk.joined (content ++ chunk) chunks := rfl
    rw [hcons, ih, ByteArray.size_append, total, Nat.add_assoc]

/-- Chunks that are the same together have the same size. -/
theorem total_eq_size (chunks : List ByteArray) :
    total chunks = (Disk.joined ByteArray.empty chunks).size := by
  rw [size_joined]
  exact (Nat.zero_add _).symm

/-- **An upload that begins well comes to its verdict**, and leaves the disk that goes with it. -/
theorem Begins.finish {u : Upload} {d : Disk} {p q : Place} (h : u.Begins d p q) :
    (u.finish d .preparing).result = u.verdict (d.get? (p ++ [u.name])) ∧
      (u.finish d .preparing).disk.Same (u.left d p (u.finish d .preparing).result) := by
  obtain ⟨d', hending, hsame⟩ := h.exists_ending
  have hresult : (u.finish d .preparing).result = u.verdict (d.get? (p ++ [u.name])) :=
    congrArg Prod.fst hending
  have hdisk : (u.finish d .preparing).disk = d' := congrArg Prod.snd hending
  refine ⟨hresult, ?_⟩
  rw [hdisk, hresult]
  exact hsame

end Upload

/-! ## A file in the place of what stood there -/

namespace Disk

variable {d e : Disk} {root name : String} {p : Place} {content : ByteArray}

theorem Same.symm (h : d.Same e) : e.Same d :=
  ⟨h.working.symm, fun r => (h.get? r).symm⟩

/-- Disks that show the same have the same ways. -/
theorem Same.leadsTo (h : d.Same e) (hroot : d.LeadsTo root p) : e.LeadsTo root p :=
  hroot.congr h.working.symm (fun r hr => (h.get? r).symm.trans hr)
    fun r _ hr => (h.get? r).symm.trans hr

variable (hsame : e.Same (d.put (p ++ [name]) (.file content)))

include hsame

theorem get?_of_same_put : e.get? (p ++ [name]) = some (.file content) := by
  rw [hsame.get?, get?_put d (by simp), if_pos rfl]

/-- A way that leads somewhere past the file led there past nothing. -/
theorem leadsTo_erase_of_same_put {o : Place} (ho : e.LeadsTo root o) :
    (d.erase (p ++ [name])).LeadsTo root o := by
  have hkeep : ∀ r entry, (∀ bytes, entry ≠ .file bytes) → e.get? r = some entry →
      (d.erase (p ++ [name])).get? r = some entry := by
    intro r entry hentry hr
    have hne : r ≠ p ++ [name] := by
      rintro rfl
      rw [get?_of_same_put hsame] at hr
      exact hentry content (Option.some.inj hr).symm
    rw [hsame.get?, get?_put d (by simp), if_neg hne] at hr
    rwa [get?_erase d (by simp), if_neg hne]
  exact ho.congr hsame.working.symm (fun r => hkeep r _ (by simp)) fun r _ =>
    hkeep r _ (by simp)

/-- **A path that still leads to the file led over nothing that is gone.** -/
theorem not_severs_of_same_put (hn : IsName name) {entry : Entry}
    (hstat : e.stat (join root name) = .ok entry) : ¬ d.Severs e root := by
  rintro ⟨r, target, hlink, hgone, hnone⟩
  -- Nothing else is gone than what the file took the place of.
  have hplace : r = p ++ [name] := by
    refine Decidable.byContradiction fun hne => hgone ?_
    rw [hsame.get?, get?_put d (by simp), if_neg hne, hlink]
  rw [stat] at hstat
  split at hstat
  next hresolve =>
    obtain ⟨-, o, ho⟩ := exists_leadsTo_of_resolve hn hresolve
    exact hnone ⟨o, hplace ▸ leadsTo_erase_of_same_put hsame ho⟩
  · cases hstat
  · cases hstat

/-- Where the path led over nothing that is gone, it leads where it led. -/
theorem leadsTo_of_same_put (hroot : d.LeadsTo root p)
    (hstanding : d.get? (p ++ [name]) ≠ some .directory) (hsevers : ¬ d.Severs e root) :
    e.LeadsTo root p := by
  have hbuilt : Built (fun _ => False) d (d.put (p ++ [name]) (.file content)) :=
    (Built.refl _ d).put hstanding (by simp) (by simp)
  have hkept : ¬ d.Severs (d.put (p ++ [name]) (.file content)) root := by
    rintro ⟨r, target, hlink, hgone, hnone⟩
    exact hsevers ⟨r, target, hlink, hsame.get? r ▸ hgone, hnone⟩
  exact hsame.symm.leadsTo (hroot.of_not_severs hbuilt hkept)

/-- **The path leads to the file that was put there, unless it led over what stood there
before.** -/
theorem stat_of_same_put_iff (hroot : d.LeadsTo root p) (hn : IsName name)
    (htake : takeFault? (join root name) name (d.get? (p ++ [name])) = none) :
    e.stat (join root name) = .ok (.file content) ↔ ¬ d.Severs e root := by
  constructor
  · exact not_severs_of_same_put hsame hn
  · intro hsevers
    obtain ⟨hpath, hlen, hstanding⟩ := takeFault?_eq_none_iff.1 htake
    have hleads := leadsTo_of_same_put hsame hroot hstanding hsevers
    have hfile := get?_of_same_put hsame
    rw [stat_join hleads hn (by simp [hfile]), hpath, hfile]
    exact if_neg (Nat.not_lt.2 hlen)

end Disk

namespace Store

open Upload (total)

variable {root name path mark : String} {chunks : List ByteArray} {failure : Option Break}
  {limit : Nat} {d : Disk} {p q : Place}

/-! ## Where a file is stored -/

/-- A mark that can set an unfinished file apart: with it the file has a name, and nothing has this
name where the unfinished uploads are. -/
structure FreshMark (root mark : String) (d : Disk) : Prop where
  isName : IsName (mark ++ ".part")
  no_nul : '\x00' ∉ (mark ++ ".part").toList
  short : (mark ++ ".part").utf8ByteSize ≤ Disk.maxNameBytes
  unused : ∀ q, d.LeadsTo (partialPath root) q → d.get? (q ++ [mark ++ ".part"]) = none

/-- The path of the unfinished file. -/
def unfinishedPath (root mark : String) : String :=
  join (partialPath root) (mark ++ ".part")

/-- **Where the directory of unfinished uploads is one, an upload begins well.** -/
theorem exists_begins (hstored : IsStored name) (hpartial : d.isDirectory (partialPath root) = true)
    (hmark : FreshMark root mark d) : ∃ p q, ∀ chunks failure limit,
      Upload.Begins ⟨root, name, join root name, mark, chunks, failure, limit⟩ d p q := by
  obtain ⟨-, q, hq⟩ := Disk.isDirectory_iff.1 hpartial
  obtain ⟨p, -, hp, -⟩ := hq.exists_of_join isName_partialName
  exact ⟨p, q, fun _ _ _ =>
    ⟨hp, hq, hmark.isName, hmark.short, hmark.unused q hq, hstored, rfl⟩⟩

/-- Nothing is at fault in the path of the unfinished file, if it is not too long. -/
theorem pathFault?_unfinishedPath (hpartial : d.isDirectory (partialPath root) = true)
    (hmark : FreshMark root mark d)
    (hlen : (unfinishedPath root mark).utf8ByteSize < Disk.maxPathBytes) :
    Disk.pathFault? (unfinishedPath root mark) = none := by
  refine Disk.pathFault?_eq_none (fun hnul => ?_) (Path.join_ne_empty hmark.isName _) hlen
  rcases Path.mem_join hnul with hroot | hslash | hname
  · exact Disk.not_mem_of_pathFault? (Disk.isDirectory_iff.1 hpartial).1 hroot
  · cases hslash
  · exact hmark.no_nul hname

/-! ## What storing comes to -/

/-- **The rule by which chunks are stored or not**: too many bytes come first, an upload that breaks
off next, and a name that cannot be taken last. -/
structure Decided (unfinished path name : String) (standing : Option Entry)
    (chunks : List ByteArray) (failure : Option Break) (limit : Nat)
    (result : Except StoreError Nat) : Prop where
  large : (∃ taken, taken <+: chunks ∧ limit < total taken) → result = .error (.tooLarge limit)
  broken : (∀ taken, taken <+: chunks → total taken ≤ limit) →
    ∀ broken, failure = some broken →
      result = .error (.uploadFailed (broken.message unfinished))
  refused : (∀ taken, taken <+: chunks → total taken ≤ limit) → failure = none →
    ∀ e, Disk.takeFault? path name standing = some e →
      result = .error (.uploadFailed ("Failed to publish file " ++ path ++ ": " ++ e.message))
  taken : (∀ taken, taken <+: chunks → total taken ≤ limit) → failure = none →
    Disk.takeFault? path name standing = none → result = .ok (total chunks)

/-- What storing leaves: the disk as it was, or with the whole file under the name. -/
structure Kept (root path name : String) (chunks : List ByteArray) (d : Disk) (p : Place)
    (outcome : Upload.Outcome) : Prop where
  refused : ∀ e, outcome.result = .error e → outcome.disk.Same d
  stored : ∀ n, outcome.result = .ok n →
    outcome.disk.Same (d.put (p ++ [name]) (.file (Disk.joined ByteArray.empty chunks)))
  /-- The path leads to the file unless the file took the place of a link that it leads over. -/
  found_iff : ∀ n, outcome.result = .ok n →
    (outcome.disk.stat path = .ok (.file (Disk.joined ByteArray.empty chunks)) ↔
      ¬ d.Severs outcome.disk root)

/-- The verdict follows the rule where the unfinished file can be begun. -/
theorem decided_verdict {u : Upload} (standing : Option Entry)
    (hroot : Disk.pathFault? (partialPath u.root) = none)
    (hfile : Disk.pathFault? u.partialPath = none) :
    Decided u.partialPath u.path u.name standing u.chunks u.failure u.limit
      (u.verdict standing) := by
  have hwithin : (∀ taken, taken <+: u.chunks → total taken ≤ u.limit) →
      ¬ u.limit < u.size := by
    intro hall hlimit
    exact absurd (hall u.chunks List.prefix_rfl) (Nat.not_le.2 hlimit)
  rw [Upload.verdict, hroot, hfile]
  constructor
  · intro hlarge
    exact if_pos (Upload.exists_prefix_lt_iff.1 hlarge)
  · intro hall broken hfailure
    simp only [if_neg (hwithin hall), hfailure]
  · intro hall hfailure e hfault
    simp only [if_neg (hwithin hall), hfailure, hfault]
  · intro hall hfailure hfault
    simp only [if_neg (hwithin hall), hfailure, hfault]
    rfl

/-- **An upload that begins well leaves all or nothing.** -/
theorem kept_finish {u : Upload} (h : u.Begins d p q) :
    Kept u.root u.path u.name u.chunks d p (u.finish d .preparing) := by
  obtain ⟨hresult, hsame⟩ := h.finish
  have hstored : ∀ n, (u.finish d .preparing).result = .ok n →
      (u.finish d .preparing).disk.Same (d.put (p ++ [u.name]) (.file u.content)) := by
    intro n hn
    rwa [hn] at hsame
  constructor
  · intro e he
    rwa [he] at hsame
  · exact hstored
  · intro n hn
    have htake := (Upload.of_verdict_eq_ok (hresult.symm.trans hn)).2
    rw [h.path] at htake ⊢
    exact Disk.stat_of_same_put_iff (hstored n hn) h.root h.stored.isName htake

/-- **Chunks that are the same together come to the same.** -/
theorem finish_rechunked {u : Upload} {others : List ByteArray} (h : u.Begins d p q)
    (hjoined : Disk.joined ByteArray.empty others = Disk.joined ByteArray.empty u.chunks) :
    let v := { u with chunks := others }
    (v.finish d .preparing).result = (u.finish d .preparing).result ∧
      (v.finish d .preparing).disk.Same (u.finish d .preparing).disk := by
  intro v
  have hv : v.Begins d p q :=
    ⟨h.root, h.unfinished, h.isName, h.short, h.unused, h.stored, h.path⟩
  have hsize : v.size = u.size := by
    rw [Upload.size, Upload.size, Upload.total_eq_size, hjoined, ← Upload.total_eq_size]
  have hverdict : v.verdict (d.get? (p ++ [u.name])) = u.verdict (d.get? (p ++ [u.name])) := by
    rw [Upload.verdict, hsize]
    rfl
  have hleft : ∀ result, v.left d p result = u.left d p result := by
    intro result
    cases result with
    | error e => rfl
    | ok n => exact congrArg (fun body => d.put (p ++ [u.name]) (.file body)) hjoined
  obtain ⟨hresult, hsame⟩ := h.finish
  obtain ⟨hresultv, hsamev⟩ := hv.finish
  have hresults := hresultv.trans (hverdict.trans hresult.symm)
  rw [hresults, hleft] at hsamev
  exact ⟨hresults, hsamev.trans hsame.symm⟩

/-- **What storing chunks comes to**, where the directory of unfinished uploads is one.  The result
is decided by the rule unless the path of the unfinished file is too long; the disk is left as it
was or with the whole file; and chunks that are the same together come to the same. -/
theorem storing (hkey : filePath root name = .ok path)
    (hpartial : d.isDirectory (partialPath root) = true) (hmark : FreshMark root mark d)
    (chunks : List ByteArray) (failure : Option Break) (limit : Nat) :
    let outcome := store root name mark chunks failure limit d
    ∃ p, d.LeadsTo root p ∧
      ((unfinishedPath root mark).utf8ByteSize < Disk.maxPathBytes →
        Decided (unfinishedPath root mark) path name (d.get? (p ++ [name])) chunks failure limit
          outcome.result) ∧
      Kept root path name chunks d p outcome ∧
      ∀ others, Disk.joined ByteArray.empty others = Disk.joined ByteArray.empty chunks →
        (store root name mark others failure limit d).result = outcome.result ∧
          (store root name mark others failure limit d).disk.Same outcome.disk := by
  intro outcome
  obtain ⟨hstored, rfl⟩ := of_filePath hkey
  obtain ⟨p, q, hbegins⟩ := exists_begins hstored hpartial hmark
  have hstore : ∀ chunks, store root name mark chunks failure limit d =
      Upload.finish ⟨root, name, join root name, mark, chunks, failure, limit⟩ d .preparing := by
    intro chunks
    rw [store, filePath_of_isStored hstored]
  have hbegun := hbegins chunks failure limit
  have houtcome : outcome = _ := hstore chunks
  refine ⟨p, hbegun.root, fun hlen => ?_, ?_, fun others hjoined => ?_⟩
  · have hdecided := decided_verdict
      (u := ⟨root, name, join root name, mark, chunks, failure, limit⟩) (d.get? (p ++ [name]))
      (Disk.isDirectory_iff.1 hpartial).1 (pathFault?_unfinishedPath hpartial hmark hlen)
    rw [houtcome, hbegun.finish.1]
    exact hdecided
  · rw [houtcome]
    exact kept_finish hbegun
  · rw [houtcome, hstore others]
    exact finish_rechunked hbegun hjoined

end Store

/-! ## Chunks on small disks -/

namespace Sample

open Store

/-- A short text in two chunks, the second of them behind an empty one. -/
def hello : List ByteArray :=
  [(Text.bytes "he").toByteArray, ByteArray.empty, (Text.bytes "llo").toByteArray]

/-- The mark of the small service is fresh on disks where nothing stands under it. -/
theorem freshMark {d : Disk} {root : String} {q : Place} (hq : d.LeadsTo (partialPath root) q)
    (hunused : d.get? (q ++ [fresh.mark ++ ".part"]) = none) : FreshMark root fresh.mark d where
  isName := ⟨by decide, by decide, by decide, by decide⟩
  no_nul := by decide
  short := by decide
  unused := fun other hother => hother.unique hq ▸ hunused

end Sample

namespace Store

open Sample in
/-- The text is stored where its length is the limit, and refused where that is one less. -/
theorem storing_hello : filePath "up" "n.txt" = .ok "up/n.txt" ∧
    disk.isDirectory (partialPath "up") = true ∧ FreshMark "up" Sample.fresh.mark disk ∧
    (store "up" "n.txt" Sample.fresh.mark hello none 5 disk).result = .ok 5 ∧
    (store "up" "n.txt" Sample.fresh.mark hello none 5 disk).disk.stat "up/n.txt" =
      .ok (.file (Disk.joined ByteArray.empty hello)) ∧
    (store "up" "n.txt" Sample.fresh.mark hello none 4 disk).result = .error (.tooLarge 4) := by
  have hkey : filePath "up" "n.txt" = .ok "up/n.txt" := by rfl
  have hpartial : disk.isDirectory (partialPath "up") = true :=
    Disk.isDirectory_iff.2 ⟨by decide, _, disk_unfinished⟩
  have hmark : FreshMark "up" Sample.fresh.mark disk :=
    freshMark disk_unfinished (by decide +kernel)
  have hlen : (unfinishedPath "up" Sample.fresh.mark).utf8ByteSize < Disk.maxPathBytes := by decide
  have hsize : Upload.total hello = 5 := by decide
  have hwithin : ∀ taken, taken <+: hello → Upload.total taken ≤ 5 := by
    intro taken htaken
    refine Nat.not_lt.1 fun hlimit => ?_
    have hlarge := Upload.exists_prefix_lt_iff.1 ⟨taken, htaken, hlimit⟩
    rw [hsize] at hlarge
    exact absurd hlarge (by decide)
  obtain ⟨p, hp, hdecided, hkept, -⟩ := storing hkey hpartial hmark hello none 5
  obtain ⟨o, -, hless, -⟩ := storing hkey hpartial hmark hello none 4
  obtain rfl := hp.unique disk_root
  have hresult : (store "up" "n.txt" Sample.fresh.mark hello none 5 disk).result = .ok 5 := by
    rw [(hdecided hlen).taken hwithin rfl (by decide +kernel), hsize]
  refine ⟨hkey, hpartial, hmark, hresult, ?_, ?_⟩
  · refine (hkept.found_iff 5 hresult).2 (Disk.not_severs fun r target hlink => ?_)
    exact absurd hlink (linkFree_disk r target)
  · refine (hless hlen).large (Upload.exists_prefix_lt_iff.2 ?_)
    rw [hsize]
    decide

/-- A joined path is as long as its parts together, or longer. -/
theorem le_utf8ByteSize_join (root name : String) :
    root.utf8ByteSize + name.utf8ByteSize ≤ (join root name).utf8ByteSize := by
  rw [join]
  split
  next hempty => simp [hempty]
  · split
    · exact Nat.le_of_eq String.utf8ByteSize_append.symm
    · rw [String.utf8ByteSize_append, String.utf8ByteSize_append]
      omega

/-- An unfinished file with a faulty path is not begun. -/
theorem verdict_of_fault {u : Upload} (standing : Option Entry) {fault : DiskError}
    (hroot : Disk.pathFault? (partialPath u.root) = none)
    (hfault : Disk.pathFault? u.partialPath = some fault) :
    u.verdict standing = .error
      (.uploadFailed ("Failed to create file " ++ u.partialPath ++ ": " ++ fault.message)) := by
  rw [Upload.verdict, hroot, hfault]

/-- **Where the path of the unfinished file is too long, nothing is read of the chunks.** -/
theorem exists_uploadFailed_of_long (hstored : IsStored name)
    (hpartial : d.isDirectory (partialPath root) = true) (hmark : FreshMark root mark d)
    (hlen : Disk.maxPathBytes ≤ (unfinishedPath root mark).utf8ByteSize) :
    ∃ problem, ∀ chunks failure limit,
      (store root name mark chunks failure limit d).result = .error (.uploadFailed problem) := by
  obtain ⟨p, q, hbegins⟩ := exists_begins hstored hpartial hmark
  obtain ⟨fault, hfault⟩ : ∃ fault, Disk.pathFault? (unfinishedPath root mark) = some fault := by
    cases hfault : Disk.pathFault? (unfinishedPath root mark) with
    | none => exact absurd (Disk.lt_of_pathFault? hfault) (Nat.not_lt.2 hlen)
    | some fault => exact ⟨fault, rfl⟩
  refine ⟨"Failed to create file " ++ unfinishedPath root mark ++ ": " ++ fault.message, ?_⟩
  intro chunks failure limit
  rw [store, filePath_of_isStored hstored]
  exact (hbegins chunks failure limit).finish.1.trans
    (verdict_of_fault _ (Disk.isDirectory_iff.1 hpartial).1 hfault)

open Sample in
/-- The path of the unfinished file is too long below a root with many slashes. -/
theorem deep_not_tooLarge :
    filePath (slashed 4069) "n.txt" = .ok (join (slashed 4069) "n.txt") ∧
      deepDisk.isDirectory (partialPath (slashed 4069)) = true ∧
      FreshMark (slashed 4069) Sample.fresh.mark deepDisk ∧
      (store (slashed 4069) "n.txt" Sample.fresh.mark hello none 3 deepDisk).result ≠
        .error (.tooLarge 3) := by
  have hstored : IsStored "n.txt" := ⟨by decide, by decide⟩
  have hsound : Disk.pathFault? (partialPath (slashed 4069)) = none :=
    pathFault?_join_slashed 4069 partialName isName_partialName (by decide)
  have hunfinished : deepDisk.LeadsTo (partialPath (slashed 4069)) ["u", ".partial"] :=
    (leadsTo_slashed 4069).join isName_partialName (by decide) (get?_deepDisk _)
  have hpartial := Disk.isDirectory_iff.2 ⟨hsound, _, hunfinished⟩
  have hmark : FreshMark (slashed 4069) Sample.fresh.mark deepDisk :=
    freshMark hunfinished (by decide +kernel)
  have hlen : Disk.maxPathBytes ≤
      (unfinishedPath (slashed 4069) Sample.fresh.mark).utf8ByteSize := by
    refine Nat.le_trans ?_ (le_utf8ByteSize_join _ _)
    rw [partialPath, utf8ByteSize_join_slashed]
    decide
  obtain ⟨problem, hproblem⟩ := exists_uploadFailed_of_long hstored hpartial hmark hlen
  refine ⟨filePath_of_isStored hstored _, hpartial, hmark, ?_⟩
  intro htooLarge
  cases (hproblem hello none 3).symm.trans htooLarge

open Sample in
/-- The file takes the place of a link that its own path leads over. -/
theorem linked_not_found :
    filePath "up/l.d" "l.d" = .ok "up/l.d/l.d" ∧
      linkedDisk.isDirectory (partialPath "up/l.d") = true ∧
      FreshMark "up/l.d" Sample.fresh.mark linkedDisk ∧
      (store "up/l.d" "l.d" Sample.fresh.mark hello none 5 linkedDisk).result = .ok 5 ∧
      (store "up/l.d" "l.d" Sample.fresh.mark hello none 5 linkedDisk).disk.stat "up/l.d/l.d" ≠
        .ok (.file (Disk.joined ByteArray.empty hello)) := by
  have hunused : linkedDisk.get? ["up", ".partial", Sample.fresh.mark ++ ".part"] = none := by
    decide +kernel
  have hmark := freshMark linkedDisk_unfinished hunused
  have hpartial : linkedDisk.isDirectory (partialPath "up/l.d") = true :=
    Disk.isDirectory_iff.2 ⟨by decide, _, linkedDisk_unfinished⟩
  have hbegins : Upload.Begins
      ⟨"up/l.d", "l.d", "up/l.d/l.d", Sample.fresh.mark, hello, none, 5⟩ linkedDisk ["up"]
        ["up", ".partial"] :=
    ⟨linkedDisk_root, linkedDisk_unfinished, hmark.isName, hmark.short, hunused,
      ⟨by decide, by decide⟩, by decide⟩
  have hresult : (store "up/l.d" "l.d" Sample.fresh.mark hello none 5 linkedDisk).result =
      .ok 5 := hbegins.finish.1.trans (by rfl)
  have hkept := kept_finish hbegins
  refine ⟨by rfl, hpartial, hmark, hresult, ?_⟩
  have hgone : (store "up/l.d" "l.d" Sample.fresh.mark hello none 5 linkedDisk).disk.get?
      ["up", "l.d"] = some (.file (Disk.joined ByteArray.empty hello)) :=
    Disk.get?_of_same_put (hkept.stored 5 hresult)
  refine fun hfound => (hkept.found_iff 5 hresult).1 hfound
    ⟨["up", "l.d"], ".", by rfl, fun hlink => ?_, fun hleads => ?_⟩
  · cases hgone.symm.trans hlink
  have hdirectory := Disk.isDirectory_iff.2 ⟨by decide, hleads⟩
  exact absurd hdirectory (by decide +kernel)

open Sample in
/-- **Not all chunks that are too many are refused as such, and not every file that is stored is
found.** -/
theorem not_stored :
    (filePath (slashed 4069) "n.txt" = .ok (join (slashed 4069) "n.txt") ∧
      deepDisk.isDirectory (partialPath (slashed 4069)) = true ∧
      FreshMark (slashed 4069) Sample.fresh.mark deepDisk ∧
      hello <+: hello ∧ 3 < Upload.total hello ∧
      (store (slashed 4069) "n.txt" Sample.fresh.mark hello none 3 deepDisk).result ≠
        .error (.tooLarge 3)) ∧
    filePath "up/l.d" "l.d" = .ok "up/l.d/l.d" ∧
      linkedDisk.isDirectory (partialPath "up/l.d") = true ∧
      FreshMark "up/l.d" Sample.fresh.mark linkedDisk ∧
      (store "up/l.d" "l.d" Sample.fresh.mark hello none 5 linkedDisk).result = .ok 5 ∧
      (store "up/l.d" "l.d" Sample.fresh.mark hello none 5 linkedDisk).disk.stat "up/l.d/l.d" ≠
        .ok (.file (Disk.joined ByteArray.empty hello)) := by
  obtain ⟨hkey, hpartial, hmark, hresult⟩ := deep_not_tooLarge
  exact ⟨⟨hkey, hpartial, hmark, List.prefix_rfl, by decide, hresult⟩, linked_not_found⟩

end Store

end HostedFiles
