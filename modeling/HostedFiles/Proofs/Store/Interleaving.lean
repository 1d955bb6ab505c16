import HostedFiles.Proofs.Store.Moves
import Mathlib.Data.List.Induction

/-!
# Proofs/Store/Interleaving — many uploads at once

Any number of uploads to one store take their steps in any order (`Traffic.run`).  After every step
the whole disk is known (`Consistent`): every name holds what the last upload published under it
holds, or what it held at first; every unfinished file stands where its upload stands; and all other
places are as they were.  One step keeps this (`Consistent.step`), so it holds throughout
(`Opening.consistent`).
-/

namespace HostedFiles.Store

open HostedFiles.Path (IsName)
open HostedFiles.Upload (unfinishedPlace Phase)

/-! ## Calls that take turns -/

/-- A call to store a file. -/
structure Call where
  name : String
  mark : String
  chunks : List ByteArray
  failure : Option Break
  limit : Nat

/-- The upload that a call is, under a root. -/
def Call.upload (c : Call) (root : String) : Upload where
  root := root
  name := c.name
  path := Path.join root c.name
  mark := c.mark
  chunks := c.chunks
  failure := c.failure
  limit := c.limit

/-- Where a call begins: at its end, if the store refuses its name. -/
def Call.start (c : Call) (root : String) : Phase :=
  match filePath root c.name with
  | .error e => .done (.error e)
  | .ok _ => .preparing

/-- **A call that takes all its steps alone is what the store does.** -/
theorem store_eq_finish (c : Call) (root : String) (d : Disk) :
    store root c.name c.mark c.chunks c.failure c.limit d =
      (c.upload root).finish d (c.start root) := by
  rw [store, Call.start]
  by_cases hname : IsStored c.name
  · rw [filePath_of_isStored hname]
    rfl
  · rw [filePath_of_not_isStored hname]
    exact (Upload.finish_done _ _ _).symm

/-- Calls to a store with one root. -/
structure Traffic (ι : Type) where
  root : String
  call : ι → Call

/-- A state while calls are under way. -/
structure Scene (ι : Type) where
  disk : Disk
  /-- Where each call stands. -/
  phase : ι → Phase
  /-- The calls whose file took its place, the last one first. -/
  published : List ι

namespace Traffic

variable {ι : Type} (t : Traffic ι)

/-- The upload that a call is. -/
def upload (i : ι) : Upload := (t.call i).upload t.root

/-- Before the first step. -/
def start (d : Disk) : Scene ι where
  disk := d
  phase i := (t.call i).start t.root
  published := []

/-- One of the calls takes a step. -/
def step [DecidableEq ι] (s : Scene ι) (i : ι) : Scene ι :=
  let progress := (t.upload i).step s.disk (s.phase i)
  { disk := progress.disk
    phase := fun j => if j = i then progress.phase else s.phase j
    published :=
      if (s.phase i).publishes progress.phase then i :: s.published else s.published }

/-- Calls take their steps in the order of a schedule. -/
def run [DecidableEq ι] (d : Disk) (schedule : List ι) : Scene ι :=
  schedule.foldl t.step (t.start d)

/-- The call that was the last to publish its file under a name. -/
def latest? (s : Scene ι) (name : String) : Option ι :=
  s.published.find? fun i => (t.call i).name == name

/-- What a name should hold: the body of the call that was the last to publish it, or else what it
held at first. -/
def version (d : Disk) (p : Place) (s : Scene ι) (name : String) : Option Entry :=
  match t.latest? s name with
  | some i => some (.file (t.upload i).content)
  | none => d.get? (p ++ [name])

/-! ## States that are consistent

What an upload finds on the disk depends on what the others have done: they may have made the
directory of unfinished uploads, and may have replaced what stands in the root.  So the state says
of each place of the disk what stands there, and each call only asks for its own places. -/

/-- What is asked of the disk and the calls at first: the root is `p` and stays so, the directory of
unfinished uploads is no link, and the calls have marks of their own, under which nothing stands but
perhaps files and directories. -/
structure Opening (d : Disk) (p : Place) : Prop where
  anchored : d.Anchored t.root p
  no_link : ∀ target, d.get? (unfinishedPlace p) ≠ some (.link target)
  isName : ∀ i, IsName (t.upload i).unfinishedName
  distinct : ∀ i j, (t.call i).mark = (t.call j).mark → i = j
  plain : ∀ i entry, d.get? ((t.upload i).ownPlace p) = some entry →
    entry = .directory ∨ ∃ content, entry = .file content

/-- **The whole disk is known**: a state in which each place holds what it should. -/
structure Consistent (d : Disk) (p : Place) (s : Scene ι) : Prop where
  working : s.disk.working = d.working
  unfinished : s.disk.get? (unfinishedPlace p) = d.get? (unfinishedPlace p) ∨
    d.get? (unfinishedPlace p) = none ∧ s.disk.get? (unfinishedPlace p) = some .directory
  stands : ∀ i, (t.upload i).Stands s.disk p (d.get? ((t.upload i).ownPlace p)) (s.phase i)
  file : ∀ name, name ≠ partialName → s.disk.get? (p ++ [name]) = t.version d p s name
  published : ∀ i ∈ s.published,
    (t.upload i).Whole ∧ d.get? ((t.upload i).filePlace p) ≠ some .directory
  reported : ∀ i n, s.phase i = .done (.ok n) → i ∈ s.published ∧ n = (t.upload i).size
  stored : ∀ i, IsStored (t.call i).name ∨ ∃ e, s.phase i = .done (.error e)
  elsewhere : ∀ r, r ≠ unfinishedPlace p → (∀ i, r ≠ (t.upload i).ownPlace p) →
    (∀ name, name ≠ partialName → r ≠ p ++ [name]) → s.disk.get? r = d.get? r

variable {t} {d : Disk} {p : Place} {s : Scene ι}

/-- Before the first step everything is as it was. -/
theorem consistent_start (d : Disk) (p : Place) : t.Consistent d p (t.start d) where
  working := rfl
  unfinished := .inl rfl
  stands i := by
    simp only [start, Call.start]
    cases filePath t.root (t.call i).name with
    | error e => exact .inl rfl
    | ok path => rfl
  file _ _ := rfl
  published _ h := nomatch h
  reported i n h := by
    simp only [start, Call.start] at h
    split at h <;> cases h
  stored i := by
    by_cases hname : IsStored (t.call i).name
    · exact .inl hname
    · refine .inr ⟨.invalidName (t.call i).name, ?_⟩
      simp only [start, Call.start, filePath_of_not_isStored hname]
  elsewhere _ _ _ _ := rfl

/-- The call that was the last to publish under a name is one that did. -/
theorem mem_of_latest? {name : String} {i : ι} (h : t.latest? s name = some i) :
    i ∈ s.published ∧ (t.call i).name = name :=
  ⟨List.mem_of_find?_eq_some h, by simpa using List.find?_some h⟩

/-- **Two calls do not share an unfinished file.** -/
theorem Opening.ownPlace_ne (h : t.Opening d p) {i j : ι} (hij : i ≠ j) :
    (t.upload i).ownPlace p ≠ (t.upload j).ownPlace p := by
  intro heq
  rw [Upload.ownPlace, Upload.ownPlace, List.append_cancel_left_eq] at heq
  have hmark := (List.cons.inj heq).1
  exact hij (h.distinct i j ((String.append_left_inj ".part").1 hmark))

namespace Consistent

variable (h : t.Consistent d p s)

include h

/-- A directory stays where it is. -/
theorem directory {r : Place} (hr : d.get? r = some .directory) :
    s.disk.get? r = some .directory := by
  by_cases hunfinished : r = unfinishedPlace p
  · subst hunfinished
    rcases h.unfinished with hsame | ⟨hnone, -⟩
    · exact hsame.trans hr
    · rw [hnone] at hr
      cases hr
  by_cases hown : ∃ i, r = (t.upload i).ownPlace p
  · obtain ⟨i, rfl⟩ := hown
    exact (h.stands i).directory hr
  by_cases hfile : ∃ name, name ≠ partialName ∧ r = p ++ [name]
  · obtain ⟨name, hname, rfl⟩ := hfile
    rw [h.file name hname, version]
    cases hlatest : t.latest? s name with
    | none => exact hr
    | some i =>
      obtain ⟨hmem, rfl⟩ := mem_of_latest? hlatest
      exact absurd hr (h.published i hmem).2
  · rw [h.elsewhere r hunfinished (fun i hi => hown ⟨i, hi⟩) fun name hname hi =>
      hfile ⟨name, hname, hi⟩, hr]

/-- **The root stays where it is.** -/
theorem leadsTo (hopening : t.Opening d p) : s.disk.LeadsTo t.root p := by
  refine hopening.anchored s.disk h.working (fun _ => h.directory) fun r target hr hout => ?_
  have hroot : ∀ name, r ≠ p ++ [name] := by
    rintro name rfl
    exact hout List.dropLast_concat
  rw [h.elsewhere r (hroot _) ?_ fun name _ => hroot name, hr]
  rintro i rfl
  -- A link on the way is no unfinished file, since none of these was a link at first.
  rcases hopening.plain i _ hr with heq | ⟨content, heq⟩ <;> cases heq

/-- **A step of a call does what a step of its upload does.** -/
theorem moves (hopening : t.Opening d p) (i : ι) :
    (t.upload i).Moves p (d.get? ((t.upload i).ownPlace p)) (s.phase i) s.disk
      ((t.upload i).step s.disk (s.phase i)).phase
      ((t.upload i).step s.disk (s.phase i)).disk := by
  rcases h.stored i with hname | ⟨e, hdone⟩
  · have hplaced : (t.upload i).Placed s.disk p (d.get? ((t.upload i).ownPlace p)) :=
      { root := h.leadsTo hopening
        no_link := by
          intro target hlink
          rcases h.unfinished with hsame | ⟨-, hdir⟩
          · exact hopening.no_link target (hsame.symm.trans hlink)
          · rw [hdir] at hlink
            cases hlink
        isName := hopening.isName i
        plain := hopening.plain i
        stored := hname
        path := rfl }
    exact hplaced.moves_step (h.stands i)
  · have hstands := h.stands i
    rw [hdone] at hstands ⊢
    exact Upload.moves_same hstands (by simp [Phase.result?])

end Consistent

variable [DecidableEq ι]

/-- Where calls stand after a step of one of them. -/
theorem phase_step (s : Scene ι) (i j : ι) : (t.step s i).phase j =
    if j = i then ((t.upload i).step s.disk (s.phase i)).phase else s.phase j := rfl

/-- Who has published a file after a step. -/
theorem mem_published_step {i j : ι} : j ∈ (t.step s i).published ↔
    j = i ∧ (s.phase i).publishes ((t.upload i).step s.disk (s.phase i)).phase = true ∨
      j ∈ s.published := by
  simp only [step]
  split
  next hpublishes => simp [hpublishes]
  next hpublishes => simp [hpublishes]

/-- The call that was the last to publish under a name, after a step. -/
theorem latest?_step (s : Scene ι) (i : ι) (name : String) : t.latest? (t.step s i) name =
    if (t.call i).name = name ∧
        (s.phase i).publishes ((t.upload i).step s.disk (s.phase i)).phase = true then some i
    else t.latest? s name := by
  simp only [latest?, step]
  by_cases hpublishes :
      (s.phase i).publishes ((t.upload i).step s.disk (s.phase i)).phase = true
  · by_cases hname : (t.call i).name = name
    · rw [if_pos hpublishes, if_pos ⟨hname, hpublishes⟩, List.find?_cons_of_pos (by simpa)]
    · rw [if_pos hpublishes, if_neg fun h => hname h.1, List.find?_cons_of_neg (by simpa)]
  · rw [if_neg hpublishes, if_neg fun h => hpublishes h.2]

namespace Consistent

variable (h : t.Consistent d p s)

include h

/-- Every call stands after a step where it should: the others are not touched by it. -/
theorem stands_step (hopening : t.Opening d p) (i j : ι) :
    (t.upload j).Stands (t.step s i).disk p (d.get? ((t.upload j).ownPlace p))
      ((t.step s i).phase j) := by
  have hmoves := h.moves hopening i
  rw [phase_step]
  by_cases hij : j = i
  · subst hij
    rw [if_pos rfl]
    exact hmoves.stands
  · rw [if_neg hij]
    refine (h.stands j).congr (hmoves.elsewhere _ ?_ (hopening.ownPlace_ne hij) ?_) fun hdir => ?_
    · exact Upload.ownPlace_ne_unfinishedPlace _ p
    · exact Upload.ownPlace_ne_append _ p _
    · exact hmoves.unfinished.elim (·.trans hdir) And.right

/-- Every name holds what it should: only a step that publishes changes one, the one it is for. -/
theorem file_step (hopening : t.Opening d p) (i : ι) {name : String} (hname : name ≠ partialName) :
    (t.step s i).disk.get? (p ++ [name]) = t.version d p (t.step s i) name := by
  have hmoves := h.moves hopening i
  have hfile := hmoves.file
  rw [version, latest?_step]
  by_cases hown : (t.call i).name = name
  · subst hown
    by_cases hpublishes : (s.phase i).publishes ((t.upload i).step s.disk (s.phase i)).phase = true
    · rw [if_pos hpublishes] at hfile
      rw [if_pos ⟨rfl, hpublishes⟩]
      exact hfile.2.2
    · rw [if_neg hpublishes] at hfile
      rw [if_neg fun h => hpublishes h.2]
      exact hfile.trans (h.file _ hname)
  · rw [if_neg fun h => hown h.1]
    refine (hmoves.elsewhere _ ?_ ?_ ?_).trans (h.file name hname)
    · exact Upload.append_ne_unfinishedPlace hname p
    · exact (Upload.ownPlace_ne_append _ p name).symm
    · intro heq
      rw [Upload.filePlace, List.append_cancel_left_eq] at heq
      exact hown (List.cons.inj heq).1.symm

/-- Whoever comes to a good end has published the file, in this step or before. -/
theorem reported_step (hopening : t.Opening d p) (i : ι) {j : ι} {n : Nat}
    (hj : (t.step s i).phase j = .done (.ok n)) :
    j ∈ (t.step s i).published ∧ n = (t.upload j).size := by
  rw [phase_step] at hj
  rw [mem_published_step]
  by_cases hij : j = i
  · subst hij
    rw [if_pos rfl] at hj
    cases hphase : s.phase j with
    | done result =>
      rw [hphase] at hj
      have hold := h.reported j n (hphase.trans hj)
      exact ⟨.inr hold.1, hold.2⟩
    | _ =>
      have hreported := (h.moves hopening j).reported n (by rw [hphase]; rfl) hj
      exact ⟨.inl ⟨rfl, hphase ▸ hreported.1⟩, hreported.2⟩
  · rw [if_neg hij] at hj
    exact (h.reported j n hj).imp_left .inr

/-- A call that was refused stays refused. -/
theorem stored_step (i j : ι) :
    IsStored (t.call j).name ∨ ∃ e, (t.step s i).phase j = .done (.error e) := by
  rcases h.stored j with hname | ⟨e, hdone⟩
  · exact .inl hname
  · refine .inr ⟨e, ?_⟩
    rw [phase_step]
    split
    next hij => rw [← hij, hdone]; rfl
    next => exact hdone

/-- **A step keeps the disk known.** -/
theorem step (hopening : t.Opening d p) (i : ι) : t.Consistent d p (t.step s i) where
  working := (h.moves hopening i).working.trans h.working
  unfinished := by
    rcases (h.moves hopening i).unfinished with hsame | ⟨hnone, hmade⟩
    · exact h.unfinished.imp hsame.trans fun hmade => ⟨hmade.1, hsame.trans hmade.2⟩
    · rcases h.unfinished with hsame | ⟨-, hdir⟩
      · exact .inr ⟨hsame.symm.trans hnone, hmade⟩
      · rw [hdir] at hnone
        cases hnone
  stands j := h.stands_step hopening i j
  file _ hname := h.file_step hopening i hname
  published j hj := by
    rcases mem_published_step.1 hj with ⟨rfl, hpublishes⟩ | hj
    · have hfile := (h.moves hopening j).file
      rw [if_pos hpublishes] at hfile
      exact ⟨hfile.1, fun hdir => hfile.2.1 (h.directory hdir)⟩
    · exact h.published j hj
  reported _ _ hj := h.reported_step hopening i hj
  stored j := h.stored_step i j
  elsewhere r hunfinished hown hfile := by
    refine ((h.moves hopening i).elsewhere r hunfinished (hown i) ?_).trans
      (h.elsewhere r hunfinished hown hfile)
    by_cases hname : (t.call i).name = partialName
    · intro heq
      refine hunfinished (heq.trans ?_)
      rw [Upload.filePlace, unfinishedPlace, ← hname]
      rfl
    · exact hfile _ hname

end Consistent

/-! ## Whole runs -/

/-- One more step. -/
theorem run_append_singleton (d : Disk) (schedule : List ι) (i : ι) :
    t.run d (schedule ++ [i]) = t.step (t.run d schedule) i := by
  rw [run, List.foldl_append]
  rfl

/-- **The disk is known throughout**, whatever the order of steps is. -/
theorem Opening.consistent (h : t.Opening d p) (schedule : List ι) :
    t.Consistent d p (t.run d schedule) := by
  rw [run]
  -- Only the state is consistent, not the schedule, so what is left of one may begin anywhere.
  suffices hall : ∀ s, t.Consistent d p s → t.Consistent d p (schedule.foldl t.step s) from
    hall _ (consistent_start d p)
  intro s hs
  induction schedule generalizing s with
  | nil => exact hs
  | cons i schedule ih => exact ih _ (hs.step h i)

/-- **Who has published a file did so at some step**, and was the last one then. -/
theorem exists_of_mem_published {d : Disk} {schedule : List ι} {i : ι}
    (h : i ∈ (t.run d schedule).published) : ∃ before after, schedule = before ++ i :: after ∧
      t.latest? (t.run d (before ++ [i])) (t.call i).name = some i := by
  -- The last step is taken off: whether it published decides which step is the one looked for.
  induction schedule using List.reverseRecOn with
  | nil => cases h
  | append_singleton schedule j ih =>
    rw [run_append_singleton, mem_published_step] at h
    rcases h with ⟨rfl, hpublishes⟩ | h
    · refine ⟨schedule, [], rfl, ?_⟩
      rw [run_append_singleton, latest?_step, if_pos ⟨rfl, hpublishes⟩]
    · obtain ⟨before, after, rfl, hlatest⟩ := ih h
      exact ⟨before, after ++ [j], by simp, hlatest⟩

/-! ## Runs that come to an end -/

/-- Every call is at its end. -/
def Finished (s : Scene ι) : Prop :=
  ∀ i, ∃ result, s.phase i = .done result

/-- A step brings an upload nearer to its end, if it is not there yet. -/
theorem remaining_step_le (u : Upload) (d : Disk) (phase : Phase) :
    (u.step d phase).phase.remaining u.chunks.length ≤ phase.remaining u.chunks.length - 1 := by
  cases hphase : phase.result? with
  | none => exact Nat.le_sub_one_of_lt (u.remaining_step_lt d hphase)
  | some result =>
    cases phase with
    | done result => exact Nat.le_refl 0
    | _ => cases hphase

/-- **Every turn of a call brings it nearer to its end**, whatever the others do. -/
theorem remaining_run_le (d : Disk) (schedule : List ι) (i : ι) :
    ((t.run d schedule).phase i).remaining (t.call i).chunks.length ≤
      (t.call i).chunks.length + 6 - schedule.count i := by
  induction schedule using List.reverseRecOn with
  | nil =>
    simp only [run, List.foldl_nil, start, Call.start, List.count_nil]
    cases filePath t.root (t.call i).name with
    | error e => exact Nat.zero_le _
    | ok path => exact Nat.le_refl _
  | append_singleton schedule j ih =>
    rw [run_append_singleton, phase_step, List.count_append, List.count_singleton]
    split
    next hij =>
      subst hij
      rw [beq_self_eq_true, if_pos rfl, ← Nat.sub_sub]
      exact Nat.le_trans (remaining_step_le _ _ _) (Nat.sub_le_sub_right ih 1)
    next hij =>
      rw [beq_false_of_ne (Ne.symm hij), if_neg Bool.false_ne_true]
      exact ih

/-- **Calls that have enough turns come to their end**, in whatever order they have them. -/
theorem finished_of_turns {schedule : List ι}
    (h : ∀ i, (t.call i).chunks.length + 6 ≤ schedule.count i) : Finished (t.run d schedule) := by
  intro i
  have hle := @remaining_run_le _ t _ d schedule i
  rw [Nat.sub_eq_zero_of_le (h i)] at hle
  cases hphase : (t.run d schedule).phase i with
  | done result => exact ⟨result, rfl⟩
  | _ => simp [hphase, Phase.remaining] at hle

end Traffic

end HostedFiles.Store
