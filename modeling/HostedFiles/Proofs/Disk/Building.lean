import HostedFiles.Proofs.Disk.Directories

/-!
# Proofs/Disk/Building — directories stay

No call takes a directory away, a directory is made only under a name that its path mentions, and
no link is made (`Built`).  Making directories takes nothing away at all (`Grown`).  A file that is
created, grows or is removed makes no directory, nor does one that is moved (`built_rename`).
-/

namespace HostedFiles

namespace Path

open Text

variable {path n : String}

/-! ## The names in a path -/

/-- A path mentions a name when one of its pieces is the name. -/
def Mentions (path name : String) : Prop :=
  name.toList ∈ pieces path

instance (path name : String) : Decidable (Mentions path name) :=
  inferInstanceAs (Decidable (name.toList ∈ pieces path))

/-- A step to a name is asked for by a piece. -/
theorem mentions_of_mem_steps (h : .name n ∈ steps path) : Mentions path n ∧ n ≠ "" := by
  have hpiece : ∃ piece ∈ pieces path, step? piece = some (.name n) := by
    rw [steps, List.mem_append] at h
    rcases h with h | h
    · exact List.mem_filterMap.1 h
    · split at h <;> simp at h
  obtain ⟨piece, hmem, hstep⟩ := hpiece
  rw [step?] at hstep
  split at hstep
  · cases hstep
  next hempty =>
  split at hstep
  · cases hstep
  split at hstep
  · cases hstep
  injection hstep with hstep
  injection hstep with hstep
  subst hstep
  refine ⟨by rwa [Mentions, String.toList_ofList], fun hnil => hempty ?_⟩
  rw [← String.toList_ofList (l := piece), hnil]
  rfl

/-- Slashes at the end mention nothing. -/
theorem Mentions.of_dropEndSlashes (h : Mentions (dropEndSlashes path) n) : Mentions path n := by
  rw [dropEndSlashes] at h
  split at h
  · exact h
  obtain ⟨tail, htail, hslashes⟩ := exists_append_trimEnd (· == '/') path.toList
  rw [Mentions, pieces, String.toList_ofList] at h
  rw [Mentions, pieces, htail]
  cases tail with
  | nil => rwa [List.append_nil]
  | cons c tail =>
    obtain rfl : c = '/' := by simpa using hslashes c List.mem_cons_self
    rw [splitAll_append_sep]
    exact List.mem_append_left _ h

/-- **The path above mentions nothing else.** -/
theorem Mentions.of_parent? {above : String} (h : Mentions above n) (hn : n ≠ "")
    (habove : parent? path = some above) : Mentions path n := by
  have hlist : n.toList ≠ [] := fun hnil => hn (String.toList_inj.1 (by rw [hnil]; rfl))
  rw [parent?] at habove
  split at habove
  · cases habove
  next first rest hpieces =>
  have hslash : ∀ piece ∈ first :: rest, '/' ∉ piece := by
    rw [← hpieces]
    exact fun piece hpiece => not_mem_of_mem_splitAll hpiece
  split at habove
  · split at habove
    · cases habove
    · cases habove
      exact absurd (List.mem_singleton.1 h) hlist
  next kept hkept =>
  split at habove
  · cases habove
    have hroot : n.toList ∈ [[], []] := h
    simp [hlist] at hroot
  · cases habove
    have hsubset : dropFiller (dropFiller rest).dropLast ⊆ rest := fun piece hpiece =>
      dropFiller_subset _ (List.dropLast_subset _ (dropFiller_subset _ hpiece))
    rw [Mentions, pieces_unsplit] at h
    · rw [Mentions, hpieces]
      exact List.cons_subset_cons _ hsubset h
    · exact fun piece hpiece => hslash piece (List.cons_subset_cons _ hsubset hpiece)

/-- **Nor do the paths above it.** -/
theorem Mentions.of_mem_outward {above : String} (h : Mentions above n) (hn : n ≠ "")
    (habove : above ∈ outward path) : Mentions path n := by
  have hfrom : ∀ k path, above ∈ outwardFrom k path → Mentions path n := by
    intro k
    induction k with
    | zero => intro path hmem; cases hmem
    | succ k ih =>
      intro path hmem
      rw [outwardFrom] at hmem
      split at hmem
      · cases hmem
      rcases List.mem_cons.1 hmem with rfl | hmem
      · exact h
      · split at hmem
        next parent hparent => exact (ih parent hmem).of_parent? hn hparent
        next => cases hmem
  exact hfrom _ _ habove

end Path

namespace Disk

open HostedFiles.Path (Step Mentions)

variable {d e f : Disk} {path : String} {p q r : Place} {n m : Nat} {follow : Bool}
  {P Q : String → Prop} {entry : Entry}

/-! ## What a walk ends at -/

/-- Where a walk ends, stands what it says, or nothing. -/
def Spot.Stands (d : Disk) : Spot → Prop
  | .found p entry => entry = .directory ∨ d.get? p = some entry
  | .vacant p name => d.get? (p ++ [name]) = none

/-- **A walk tells what stands at its end.** -/
theorem stands_of_walkFrom {s : List Step} {spot : Spot}
    (h : d.walkFrom follow n p s = .ok spot) : spot.Stands d := by
  induction n using Nat.strongRecOn generalizing p s with
  | _ n ihn =>
    induction s generalizing p with
    | nil =>
      rw [walkFrom_nil] at h
      cases h
      exact .inl rfl
    | cons step s ih =>
      cases step with
      | here => rw [walkFrom_here] at h; exact ih h
      | up => rw [walkFrom_up] at h; exact ih h
      | name name =>
        rw [walkFrom_name] at h
        split at h
        · cases h
        split at h
        next hget =>
          split at h
          · cases h
            exact hget
          · cases h
        next target hget =>
          split at h
          · cases h
            exact .inr hget
          · cases n with
            | zero => cases h
            | succ n => exact ihn n (Nat.lt_succ_self n) h
        next => exact ih h
        next entry _ _ hget =>
          split at h
          · cases h
            exact .inr hget
          · cases h

/-- A path tells what stands at its end. -/
theorem stands_of_resolve {spot : Spot} (h : d.resolve follow path = .ok spot) : spot.Stands d := by
  rw [resolve] at h
  split at h
  · cases h
  · exact stands_of_walkFrom h

/-- **A free name that a path leads to is its last step**, if a link at its end is not followed. -/
theorem name_mem_steps_of_resolve {name : String}
    (h : d.resolve false path = .ok (.vacant p name)) : .name name ∈ Path.steps path := by
  rw [resolve] at h
  split at h
  · cases h
  rcases List.eq_nil_or_concat (Path.steps path) with hnil | ⟨s, step, hsteps⟩
  · rw [hnil] at h
    cases (walkFrom_nil _ _).symm.trans h
  · rw [List.concat_eq_append] at hsteps
    rw [hsteps] at h ⊢
    obtain ⟨m, q, -, hwalk⟩ := exists_leads_of_walkFrom h (by simp)
    cases step with
    | here => rw [walkFrom_here, walkFrom_nil] at hwalk; cases hwalk
    | up => rw [walkFrom_up, walkFrom_nil] at hwalk; cases hwalk
    | name other =>
      rw [walkFrom_name] at hwalk
      split at hwalk
      · cases hwalk
      split at hwalk <;> simp at hwalk
      simp [hwalk.2]

/-! ## Directories that stay -/

/-- Nothing on the disk is a link. -/
def LinkFree (d : Disk) : Prop :=
  ∀ r target, d.get? r ≠ some (.link target)

/-- `Built P d e`: all directories of `d` are on `e`, the others on `e` have names for which `P`
holds, and `e` has no link unless `d` has one. -/
structure Built (P : String → Prop) (d e : Disk) : Prop where
  working : e.working = d.working
  kept : ∀ r, d.get? r = some .directory → e.get? r = some .directory
  named : ∀ r, e.get? r = some .directory →
    d.get? r = some .directory ∨ ∃ name, r.getLast? = some name ∧ P name
  linkFree : d.LinkFree → e.LinkFree

namespace Built

theorem refl (P : String → Prop) (d : Disk) : Built P d d :=
  ⟨rfl, fun _ h => h, fun _ h => .inl h, id⟩

theorem trans (h : Built P d e) (h' : Built P e f) : Built P d f :=
  ⟨h'.working.trans h.working, fun r hr => h'.kept r (h.kept r hr),
    fun r hr => (h'.named r hr).elim (h.named r) .inr, h'.linkFree ∘ h.linkFree⟩

theorem mono (h : Built P d e) (hPQ : ∀ name, P name → Q name) : Built Q d e :=
  ⟨h.working, h.kept, fun r hr =>
    (h.named r hr).imp_right fun ⟨name, hlast, hname⟩ => ⟨name, hlast, hPQ name hname⟩, h.linkFree⟩

/-- What is no directory takes the place of what is none. -/
theorem put (h : Built P d e) (hr : e.get? r ≠ some .directory) (hentry : entry ≠ .directory)
    (hlink : d.LinkFree → ∀ target, entry ≠ .link target) : Built P d (e.put r entry) := by
  have hne : r ≠ [] := by rintro rfl; exact hr rfl
  refine ⟨h.working, fun q hq => ?_, fun q hq => ?_, fun hfree q target hq => ?_⟩
  · rw [get?_put e hne, if_neg, h.kept q hq]
    rintro rfl
    exact hr (h.kept _ hq)
  · rw [get?_put e hne] at hq
    split at hq
    · exact absurd (Option.some.inj hq) hentry
    · exact h.named q hq
  · rw [get?_put e hne] at hq
    split at hq
    · exact hlink hfree target (Option.some.inj hq)
    · exact h.linkFree hfree q target hq

/-- What is no directory is taken away. -/
theorem erase (hr : d.get? r ≠ some .directory) : Built P d (d.erase r) := by
  have hne : r ≠ [] := by rintro rfl; exact hr rfl
  refine ⟨rfl, fun q hq => ?_, fun q hq => ?_, fun hfree q target hq => ?_⟩
  · rw [get?_erase d hne, if_neg, hq]
    rintro rfl
    exact hr hq
  · rw [get?_erase d hne] at hq
    split at hq
    · cases hq
    · exact .inl hq
  · rw [get?_erase d hne] at hq
    split at hq
    · cases hq
    · exact hfree q target hq

/-- What is no directory moves to a place where none stands. -/
theorem move (hthere : d.get? p = some entry) (hentry : entry ≠ .directory)
    (hq : d.get? q ≠ some .directory) : Built P d ((d.erase p).put q entry) := by
  have hp : p ≠ [] := by
    rintro rfl
    exact hentry (Option.some.inj hthere).symm
  have herase : Built P d (d.erase p) := .erase (by rw [hthere]; simpa using hentry)
  refine herase.put (fun hdir => ?_) hentry fun hfree target hlink => ?_
  · rw [get?_erase d hp] at hdir
    split at hdir
    · cases hdir
    · exact hq hdir
  · exact hfree p target (hlink ▸ hthere)

end Built

/-! ## Names of no directory -/

/-- No directory bears the name. -/
def Lacks (d : Disk) (name : String) : Prop :=
  ∀ r, d.get? r = some .directory → r.getLast? ≠ some name

/-- A name that none of the new directories has is lacked as before. -/
theorem Built.lacks {name : String} (h : Built P d e) (hname : ¬ P name) (hlacks : d.Lacks name) :
    e.Lacks name := by
  intro r hr hlast
  rcases h.named r hr with hbefore | ⟨other, hother, hnamed⟩
  · exact hlacks r hbefore hlast
  · rw [hlast] at hother
    exact hname (Option.some.inj hother ▸ hnamed)

/-- No path to the name leads to a directory. -/
theorem Lacks.resolve_ne {root name : String} (h : d.Lacks name) (hname : Path.IsName name)
    (p : Place) : d.resolve false (Path.join root name) ≠ .ok (.found p .directory) := by
  intro hresolve
  obtain ⟨hfault, q, hroot⟩ := exists_leadsTo_of_resolve hname hresolve
  rw [resolve_join hroot hname (by simp), hfault] at hresolve
  obtain ⟨-, ⟨-, hspot⟩ | ⟨entry, hget, hspot⟩⟩ := spot_of_look hresolve
  · cases hspot
  · cases hspot
    exact h _ hget (List.getLast?_concat ..)

/-! ## Making directories -/

/-- `Grown P d e`: everything on `d` is on `e`, and the other directories on `e` have names for
which `P` holds. -/
structure Grown (P : String → Prop) (d e : Disk) : Prop extends Built P d e where
  all_kept : ∀ r entry, d.get? r = some entry → e.get? r = some entry

namespace Grown

theorem refl (P : String → Prop) (d : Disk) : Grown P d d :=
  ⟨Built.refl P d, fun _ _ h => h⟩

theorem trans (h : Grown P d e) (h' : Grown P e f) : Grown P d f :=
  ⟨h.toBuilt.trans h'.toBuilt, fun r entry hr => h'.all_kept r entry (h.all_kept r entry hr)⟩

theorem mono (h : Grown P d e) (hPQ : ∀ name, P name → Q name) : Grown Q d e :=
  ⟨h.toBuilt.mono hPQ, h.all_kept⟩

/-- A path leads where it led before. -/
theorem leadsTo (h : Grown P d e) (hpath : d.LeadsTo path p) : e.LeadsTo path p :=
  hpath.congr h.working h.kept fun r _ => h.all_kept r _

/-- A directory is put where nothing stands. -/
theorem put {name : String} (hfree : d.get? (p ++ [name]) = none) (hname : P name) :
    Grown P d (d.put (p ++ [name]) .directory) := by
  have hget := @get?_put d (p ++ [name]) (by simp) .directory
  have hkept : ∀ r entry, d.get? r = some entry →
      (d.put (p ++ [name]) .directory).get? r = some entry := by
    intro r entry hr
    rw [hget, if_neg, hr]
    rintro rfl
    rw [hfree] at hr
    cases hr
  refine ⟨⟨rfl, fun r => hkept r _, fun r hr => ?_, fun hnone r target hr => ?_⟩, hkept⟩
  · rw [hget] at hr
    split at hr
    next heq => exact .inr ⟨name, by rw [heq]; simp, hname⟩
    next => exact .inl hr
  · rw [hget] at hr
    split at hr
    · cases hr
    · exact hnone r target hr

end Grown

/-- **A directory that is made stands where nothing stood**, under a name that its path mentions. -/
theorem grown_makeDirectory (h : d.makeDirectory path = .ok e) :
    Grown (fun name => Mentions path name ∧ name ≠ "") d e := by
  rw [makeDirectory] at h
  split at h
  · cases h
  next directory name hresolve =>
    cases h
    obtain ⟨hmentions, hname⟩ := Path.mentions_of_mem_steps (name_mem_steps_of_resolve hresolve)
    exact .put (stands_of_resolve hresolve) ⟨hmentions.of_dropEndSlashes, hname⟩
  · cases h

/-- Directories that are made inside each other stand where nothing stood. -/
theorem grown_makeInside (paths : List String) (d : Disk) :
    Grown (fun name => ∃ path ∈ paths, Mentions path name ∧ name ≠ "") d
      (makeInside paths d).2 := by
  induction paths generalizing d with
  | nil => exact .refl _ d
  | cons path above ih =>
    have hone : ∀ {d e : Disk}, d.makeDirectory path = .ok e →
        Grown (fun name => ∃ other ∈ path :: above, Mentions other name ∧ name ≠ "") d e :=
      fun h => (grown_makeDirectory h).mono fun name hname => ⟨path, List.mem_cons_self, hname⟩
    have habove : Grown (fun name => ∃ other ∈ path :: above, Mentions other name ∧ name ≠ "") d
        (makeInside above d).2 := (ih d).mono fun name ⟨other, hmem, hname⟩ =>
      ⟨other, List.mem_cons_of_mem _ hmem, hname⟩
    rw [makeInside]
    split
    next e hmade => exact hone hmade
    next =>
      split
      next hinside => exact hinside ▸ habove
      next e hinside =>
        have he : (makeInside above d).2 = e := congrArg Prod.snd hinside
        rw [he] at habove
        split
        next hmade => exact habove.trans (hone hmade)
        next => exact habove
    next => exact .refl _ d

/-- **Making directories takes nothing away**, and makes them under names that their path mentions.
-/
theorem grown_makeDirectories (d : Disk) (path : String) :
    Grown (Mentions path) d (d.makeDirectories path).2 := by
  rw [makeDirectories]
  split
  · exact .refl _ d
  split
  · exact .refl _ d
  · refine (grown_makeInside _ d).mono ?_
    rintro name ⟨above, hmem, hmentions, hname⟩
    exact hmentions.of_mem_outward hname hmem

/-! ## Files -/

/-- Creating a file makes no directory. -/
theorem built_createFile (h : d.createFile path = .ok (p, e)) : Built P d e := by
  rw [createFile] at h
  split at h
  next place content hresolve =>
    cases h
    have hfile := (stands_of_resolve hresolve).resolve_left nofun
    exact (Built.refl P d).put (by rw [hfile]; nofun) nofun nofun
  · cases h
  · cases h
    exact .refl P d
  next directory name hresolve =>
    cases h
    have hfree : d.get? (directory ++ [name]) = none := stands_of_resolve hresolve
    exact (Built.refl P d).put (by rw [hfree]; nofun) nofun nofun
  · cases h

/-- Nor does a file that grows. -/
theorem built_append (P : String → Prop) (d : Disk) (p : Place) (bytes : ByteArray) :
    Built P d (d.append p bytes) := by
  rw [append]
  split
  next hfile => exact (Built.refl P d).put (by rw [hfile]; nofun) nofun nofun
  next => exact .refl P d

/-- **Only what is no directory is removed.** -/
theorem built_removeFile (h : d.removeFile path = .ok e) : Built P d e := by
  rw [removeFile] at h
  split at h
  · cases h
  next place entry hnone hresolve =>
    cases h
    have hthere := (stands_of_resolve hresolve).resolve_left hnone
    exact .erase (by rw [hthere]; simpa using hnone)
  · cases h
  · cases h

/-- **Only what is no directory is moved over**, if no directory is moved. -/
theorem built_rename {source : String} (h : d.rename source path = .ok e)
    (hsource : ∀ p, d.resolve false source ≠ .ok (.found p .directory)) : Built P d e := by
  rw [rename] at h
  split at h
  next place entry hfrom =>
    have hentry : entry ≠ .directory := by
      rintro rfl
      exact hsource _ hfrom
    have hthere := (stands_of_resolve hfrom).resolve_left hentry
    split at h
    · cases h
    next other standing hnone hto =>
      cases h
      have hstands := (stands_of_resolve hto).resolve_left hnone
      exact .move hthere hentry (by rw [hstands]; simpa using hnone)
    next directory name hto =>
      cases h
      have hfree : d.get? (directory ++ [name]) = none := stands_of_resolve hto
      exact .move hthere hentry (by rw [hfree]; nofun)
    · cases h
  · cases h
  · cases h

end Disk

end HostedFiles
