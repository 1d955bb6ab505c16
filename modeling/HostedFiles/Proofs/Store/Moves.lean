import HostedFiles.Proofs.Disk.Below
import HostedFiles.Proofs.Store.Effects

/-!
# Proofs/Store/Moves — what one step of an upload does

Where an upload stands and what stands in the place of its unfinished file belong together
(`Stands`).  One step leads from such a state to another one, and changes the disk in three places
at most: the directory of unfinished uploads, which may be made, the place of the unfinished file,
and the place of the file, which changes exactly when the upload is published (`moves_step`).
Nothing is said about other uploads, so a step may be taken between any of theirs.
-/

namespace HostedFiles.Upload

open HostedFiles.Path (IsName)

variable {u : Upload} {p : Place} {d : Disk} {first : Option Entry} {phase : Phase}

/-! ## Places -/

/-- The place of the directory of unfinished uploads under a root at `p`. -/
def unfinishedPlace (p : Place) : Place := p ++ [Store.partialName]

/-- The place of the unfinished file. -/
def ownPlace (u : Upload) (p : Place) : Place := unfinishedPlace p ++ [u.unfinishedName]

/-- The place that the file is to take. -/
def filePlace (u : Upload) (p : Place) : Place := p ++ [u.name]

/-! ## Where an upload stands -/

/-- The unfinished file was begun: its path can be used, its directory is there, and no directory
stood in its way. -/
structure Begun (u : Upload) (d : Disk) (p : Place) (first : Option Entry) : Prop where
  taken : Disk.Taken u.partialPath u.unfinishedName
  unfinished : d.get? (unfinishedPlace p) = some .directory
  first_ne : first ≠ some .directory

/-- The body can be published: it is within the limit and the upload did not break off. -/
structure Whole (u : Upload) : Prop where
  size_le : u.size ≤ u.limit
  unbroken : u.failure = none

/-- What stands in the place of the unfinished file in a phase, if it was `first` before. -/
def Stands (u : Upload) (d : Disk) (p : Place) (first : Option Entry) : Phase → Prop
  | .preparing | .creating => d.get? (u.ownPlace p) = first
  | .writing place written rest =>
    place = u.ownPlace p ∧ u.Begun d p first ∧ ∃ taken, u.chunks = taken ++ rest ∧
      written = total taken ∧ written ≤ u.limit ∧
      d.get? (u.ownPlace p) = some (.file (Disk.joined ByteArray.empty taken))
  | .syncing written =>
    u.Begun d p first ∧ u.size ≤ u.limit ∧ written = u.size ∧
      d.get? (u.ownPlace p) = some (.file u.content)
  | .publishing written =>
    u.Begun d p first ∧ u.Whole ∧ written = u.size ∧
      d.get? (u.ownPlace p) = some (.file u.content)
  | .discarding _ | .withdrawing _ =>
    d.get? (u.ownPlace p) = first ∨
      u.Begun d p first ∧ ∃ content, d.get? (u.ownPlace p) = some (.file content)
  | .done _ =>
    d.get? (u.ownPlace p) = first ∨
      d.get? (u.ownPlace p) = none ∧ first ≠ some .directory

/-- Whether a step from one phase to another published the file. -/
def Phase.publishes : Phase → Phase → Bool
  | .publishing _, .done (.ok _) => true
  | _, _ => false

/-- **What one step of an upload does** to a phase and a disk. -/
structure Moves (u : Upload) (p : Place) (first : Option Entry) (phase : Phase) (d : Disk)
    (phase' : Phase) (d' : Disk) : Prop where
  working : d'.working = d.working
  /-- The directory of unfinished uploads is made at most. -/
  unfinished : d'.get? (unfinishedPlace p) = d.get? (unfinishedPlace p) ∨
    d.get? (unfinishedPlace p) = none ∧ d'.get? (unfinishedPlace p) = some .directory
  stands : u.Stands d' p first phase'
  /-- The file takes its place when it is published, and only then. -/
  file : if phase.publishes phase' then
      u.Whole ∧ d.get? (u.filePlace p) ≠ some .directory ∧
        d'.get? (u.filePlace p) = some (.file u.content)
    else d'.get? (u.filePlace p) = d.get? (u.filePlace p)
  elsewhere : ∀ r, r ≠ unfinishedPlace p → r ≠ u.ownPlace p → r ≠ u.filePlace p →
    d'.get? r = d.get? r
  /-- An upload that comes to a good end is published, and the size of its body is reported. -/
  reported : ∀ n, phase.result? = none → phase' = .done (.ok n) →
    phase.publishes phase' = true ∧ n = u.size

/-- An upload that may take its steps: its root leads to `p`, the directory of unfinished uploads
is no link, and in the place of its unfinished file nothing stood at first but a file or a
directory. -/
structure Placed (u : Upload) (d : Disk) (p : Place) (first : Option Entry) : Prop where
  root : d.LeadsTo u.root p
  no_link : ∀ target, d.get? (unfinishedPlace p) ≠ some (.link target)
  isName : IsName u.unfinishedName
  plain : ∀ entry, first = some entry → entry = .directory ∨ ∃ content, entry = .file content
  stored : Store.IsStored u.name
  path : u.path = Path.join u.root u.name

/-! ## Places are different -/

/-- No place is one of a name in it. -/
theorem append_singleton_ne (r : Place) (name : String) : r ++ [name] ≠ r := by
  intro h
  simpa using congrArg List.length h

theorem ownPlace_ne_unfinishedPlace (u : Upload) (p : Place) :
    u.ownPlace p ≠ unfinishedPlace p :=
  append_singleton_ne _ _

/-- A file in the directory of unfinished uploads does not stand in the root. -/
theorem ownPlace_ne_append (u : Upload) (p : Place) (name : String) :
    u.ownPlace p ≠ p ++ [name] := by
  intro h
  have hlength := congrArg List.length h
  simp [ownPlace, unfinishedPlace] at hlength

/-- A stored file does not stand in the place of the directory of unfinished uploads. -/
theorem append_ne_unfinishedPlace {name : String} (h : name ≠ Store.partialName) (p : Place) :
    p ++ [name] ≠ unfinishedPlace p := by
  intro heq
  rw [unfinishedPlace, List.append_cancel_left_eq] at heq
  exact h (List.cons.inj heq).1

theorem ownPlace_ne_nil (u : Upload) (p : Place) : u.ownPlace p ≠ [] := by
  simp [ownPlace]

/-! ## Bodies that grow -/

theorem total_append (taken rest : List ByteArray) :
    total (taken ++ rest) = total taken + total rest := by
  induction taken with
  | nil => rw [List.nil_append, total, Nat.zero_add]
  | cons chunk taken ih => rw [List.cons_append, total, total, ih, Nat.add_assoc]

/-- One more chunk is joined behind the others. -/
theorem joined_append (content : ByteArray) (taken : List ByteArray) (chunk : ByteArray) :
    Disk.joined content (taken ++ [chunk]) = Disk.joined content taken ++ chunk := by
  rw [Disk.joined, List.foldl_append]
  rfl

/-! ## What does not concern an upload -/

/-- What was begun stays begun while its directory stays. -/
theorem Begun.congr {e : Disk} (h : u.Begun d p first)
    (hdir : d.get? (unfinishedPlace p) = some .directory →
      e.get? (unfinishedPlace p) = some .directory) : u.Begun e p first :=
  ⟨h.taken, hdir h.unfinished, h.first_ne⟩

/-- **Where an upload stands depends on its own place**, and on the directory this is in. -/
theorem Stands.congr {e : Disk} (h : u.Stands d p first phase)
    (hown : e.get? (u.ownPlace p) = d.get? (u.ownPlace p))
    (hdir : d.get? (unfinishedPlace p) = some .directory →
      e.get? (unfinishedPlace p) = some .directory) : u.Stands e p first phase := by
  cases phase with
  | preparing | creating => exact hown.trans h
  | writing place written rest =>
    obtain ⟨hplace, hbegun, taken, hchunks, hwritten, hle, hget⟩ := h
    exact ⟨hplace, hbegun.congr hdir, taken, hchunks, hwritten, hle, hown.trans hget⟩
  | syncing written | publishing written =>
    obtain ⟨hbegun, hbody, hwritten, hget⟩ := h
    exact ⟨hbegun.congr hdir, hbody, hwritten, hown.trans hget⟩
  | discarding e | withdrawing e =>
    rcases h with h | ⟨hbegun, content, hget⟩
    · exact .inl (hown.trans h)
    · exact .inr ⟨hbegun.congr hdir, content, hown.trans hget⟩
  | done result =>
    rcases h with h | ⟨hget, hne⟩
    · exact .inl (hown.trans h)
    · exact .inr ⟨hown.trans hget, hne⟩

/-- **A directory stays in the place of the unfinished file** if it stood there at first. -/
theorem Stands.directory (h : u.Stands d p first phase) (hfirst : first = some .directory) :
    d.get? (u.ownPlace p) = some .directory := by
  cases phase with
  | preparing | creating => exact h.trans hfirst
  | writing place written rest => exact absurd hfirst h.2.1.first_ne
  | syncing written | publishing written => exact absurd hfirst h.1.first_ne
  | discarding e | withdrawing e =>
    exact h.elim (·.trans hfirst) fun h => absurd hfirst h.1.first_ne
  | done result => exact h.elim (·.trans hfirst) fun h => absurd hfirst h.2

/-! ## Step by step -/

/-- A step that changes the place of the unfinished file alone, and does not come to a good end. -/
theorem moves_own {phase' : Phase} {d' : Disk} (hstands : u.Stands d' p first phase')
    (hworking : d'.working = d.working) (hother : ∀ r, r ≠ u.ownPlace p → d'.get? r = d.get? r)
    (hdone : ∀ n, phase.result? = none → phase' ≠ .done (.ok n)) :
    u.Moves p first phase d phase' d' where
  working := hworking
  unfinished := .inl (hother _ (ownPlace_ne_unfinishedPlace u p).symm)
  stands := hstands
  file := by
    have hpublishes : phase.publishes phase' = false := by
      cases phase with
      | publishing written =>
        cases phase' with
        | done result =>
          cases result with
          | ok n => exact absurd rfl (hdone n rfl)
          | error e => rfl
        | _ => rfl
      | _ => rfl
    rw [hpublishes, if_neg Bool.false_ne_true]
    exact hother _ (ownPlace_ne_append u p u.name).symm
  elsewhere r _ hr _ := hother r hr
  reported n hphase heq := absurd heq (hdone n hphase)

/-- So does a step that changes nothing. -/
theorem moves_same {phase' : Phase} (hstands : u.Stands d p first phase')
    (hdone : ∀ n, phase.result? = none → phase' ≠ .done (.ok n)) :
    u.Moves p first phase d phase' d :=
  moves_own hstands rfl (fun _ _ => rfl) hdone

/-- And one that puts an entry in this place. -/
theorem moves_put {phase' : Phase} {entry : Entry}
    (hstands : u.Stands (d.put (u.ownPlace p) entry) p first phase')
    (hdone : ∀ n, phase.result? = none → phase' ≠ .done (.ok n)) :
    u.Moves p first phase d phase' (d.put (u.ownPlace p) entry) :=
  moves_own hstands rfl
    (fun r hr => by rw [Disk.get?_put _ (ownPlace_ne_nil u p), if_neg hr]) hdone

/-- What is in the file of an upload that breaks off is still to be cleared away. -/
theorem moves_brokenOff (broken : Break) {content : ByteArray} {e : StoreError}
    (hbegun : u.Begun d p first) (hget : d.get? (u.ownPlace p) = some (.file content)) :
    u.Moves p first phase d (.discarding e) (brokenOff d (u.ownPlace p) broken) := by
  cases broken with
  | write part problem =>
    rw [brokenOff, Disk.append, hget]
    refine moves_put (.inr ⟨hbegun.congr fun hdir => ?_, content ++ part, ?_⟩) (by simp)
    · rwa [Disk.get?_put _ (ownPlace_ne_nil u p), if_neg (ownPlace_ne_unfinishedPlace u p).symm]
    · rw [Disk.get?_put _ (ownPlace_ne_nil u p), if_pos rfl]
  | body problem | sync problem => exact moves_same (.inr ⟨hbegun, _, hget⟩) (by simp)

/-- A chunk is written if it is within the limit; behind the last one it is seen whether the upload
broke off. -/
theorem moves_writing {place : Place} {written : Nat} {rest : List ByteArray}
    (hstands : u.Stands d p first (.writing place written rest)) :
    u.Moves p first (.writing place written rest) d (u.step d (.writing place written rest)).phase
      (u.step d (.writing place written rest)).disk := by
  obtain ⟨rfl, hbegun, taken, hchunks, rfl, hle, hget⟩ := hstands
  cases rest with
  | nil =>
    rw [List.append_nil] at hchunks
    subst hchunks
    rw [step]
    cases u.failure.filter (!·.isLate) with
    | some broken => exact moves_brokenOff broken hbegun hget
    | none => exact moves_same ⟨hbegun, hle, rfl, hget⟩ (by simp)
  | cons chunk rest =>
    rw [step]
    by_cases hlimit : u.limit < total taken + chunk.size
    · simp only [if_pos hlimit]
      exact moves_same (.inr ⟨hbegun, _, hget⟩) (by simp)
    · simp only [if_neg hlimit]
      -- What stands there is what was joined so far, so the chunk makes it one longer.
      have happend : d.append (u.ownPlace p) chunk = d.put (u.ownPlace p)
          (.file (Disk.joined ByteArray.empty (taken ++ [chunk]))) := by
        rw [Disk.append, hget, joined_append]
      have hsize : total (taken ++ [chunk]) = total taken + chunk.size := by
        rw [total_append, total, total, Nat.add_zero]
      rw [happend]
      refine moves_put ⟨rfl, hbegun.congr fun hdir => ?_, taken ++ [chunk], ?_, hsize.symm,
        Nat.not_lt.1 hlimit, ?_⟩ (by simp)
      · rwa [Disk.get?_put _ (ownPlace_ne_nil u p), if_neg (ownPlace_ne_unfinishedPlace u p).symm]
      · rw [hchunks, List.append_assoc, List.singleton_append]
      · rw [Disk.get?_put _ (ownPlace_ne_nil u p), if_pos rfl]

/-- A file with the whole body is to be published, if it could be kept for good. -/
theorem moves_syncing {written : Nat} (hstands : u.Stands d p first (.syncing written)) :
    u.Moves p first (.syncing written) d (u.step d (.syncing written)).phase
      (u.step d (.syncing written)).disk := by
  obtain ⟨hbegun, hle, hwritten, hget⟩ := hstands
  rw [step]
  cases hfailure : u.failure with
  | some broken => exact moves_same (.inr ⟨hbegun, _, hget⟩) (by simp)
  | none => exact moves_same ⟨hbegun, ⟨hle, hfailure⟩, hwritten, hget⟩ (by simp)

/-- A failure is reported once it was tried to clear away what is left of it. -/
theorem step_discarding (u : Upload) (d : Disk) (e : StoreError) :
    (u.step d (.discarding e)).phase = .done (.error e) ∧
      (u.step d (.discarding e)).disk = u.cleared d := by
  rw [step, cleared]
  cases d.removeFile u.partialPath with
  | ok d => exact ⟨rfl, rfl⟩
  | error fault => cases fault <;> exact ⟨rfl, rfl⟩

theorem step_withdrawing (u : Upload) (d : Disk) (e : StoreError) :
    (u.step d (.withdrawing e)).phase = .done (.error e) ∧
      (u.step d (.withdrawing e)).disk = u.cleared d := by
  rw [step, cleared]
  cases d.removeFile u.partialPath with
  | ok d => exact ⟨rfl, rfl⟩
  | error fault => exact ⟨rfl, rfl⟩

namespace Placed

variable (h : u.Placed d p first)

include h

/-- The first step makes the directory of unfinished uploads at most. -/
theorem moves_made {phase' : Phase} {d' : Disk}
    (hmade : d' = d ∨ d.get? (unfinishedPlace p) = none ∧ d' = d.put (unfinishedPlace p) .directory)
    (hown : d.get? (u.ownPlace p) = first)
    (hnext : ∀ e : Disk, e.get? (u.ownPlace p) = first → u.Stands e p first phase')
    (hdone : ∀ n, phase' ≠ .done (.ok n)) : u.Moves p first .preparing d phase' d' := by
  rcases hmade with rfl | ⟨hnone, rfl⟩
  · exact moves_same (hnext _ hown) fun n _ => hdone n
  · have hget := Disk.get?_put d (Disk.ne_nil_of_get? hnone) .directory
    refine ⟨rfl, .inr ⟨hnone, (hget _).trans (if_pos rfl)⟩, hnext _ ?_, ?_, ?_, ?_⟩
    · exact (hget _).trans ((if_neg (ownPlace_ne_unfinishedPlace u p)).trans hown)
    · exact (hget _).trans (if_neg (append_ne_unfinishedPlace h.stored.ne_partial p))
    · exact fun r hr _ _ => (hget r).trans (if_neg hr)
    · exact fun n _ heq => absurd heq (hdone n)

/-- The directory of unfinished uploads is made, or is there already. -/
theorem moves_preparing (hstands : u.Stands d p first .preparing) :
    u.Moves p first .preparing d (u.step d .preparing).phase (u.step d .preparing).disk := by
  have hmade := Disk.makeDirectories_below h.root Store.isName_partialName
  rw [step, Store.partialPath]
  rcases hresult : d.makeDirectories (Path.join u.root Store.partialName) with ⟨made, d'⟩
  rw [hresult] at hmade
  cases made with
  | ok => exact h.moves_made hmade hstands (fun _ hs => hs) (by simp)
  | error e => exact h.moves_made hmade hstands (fun _ hs => .inl hs) (by simp)

/-- The unfinished file is created empty, unless the disk refuses it. -/
theorem moves_creating (hstands : u.Stands d p first .creating) :
    u.Moves p first .creating d (u.step d .creating).phase (u.step d .creating).disk := by
  have hown : ∀ entry, d.get? (u.ownPlace p) = some entry →
      entry = .directory ∨ ∃ content, entry = .file content :=
    fun entry hentry => h.plain entry (hstands.symm.trans hentry)
  rw [step]
  rcases Disk.createFile_below h.root Store.isName_partialName h.isName h.no_link hown with
    ⟨fault, hfault⟩ | ⟨hok, hdir, htaken, hne⟩
  · rw [partialPath_eq, Store.partialPath, hfault]
    exact moves_same (.inl hstands) (by simp)
  · rw [partialPath_eq, Store.partialPath, hok]
    refine moves_put ⟨rfl, ⟨htaken, ?_, fun hdir => hne (hstands.trans hdir)⟩, [], rfl, rfl,
      Nat.zero_le _, ?_⟩ (by simp)
    · rw [Disk.get?_put _ (ownPlace_ne_nil u p), if_neg (ownPlace_ne_unfinishedPlace u p).symm]
      exact hdir
    · rw [Disk.get?_put _ (ownPlace_ne_nil u p), if_pos rfl]
      rfl

/-- The file is published, unless the disk refuses it. -/
theorem moves_publishing {written : Nat} (hstands : u.Stands d p first (.publishing written)) :
    u.Moves p first (.publishing written) d (u.step d (.publishing written)).phase
      (u.step d (.publishing written)).disk := by
  obtain ⟨hbegun, hwhole, rfl, hget⟩ := hstands
  rw [step]
  cases hrename : d.rename u.partialPath u.path with
  | error fault => exact moves_same (.inr ⟨hbegun, _, hget⟩) (by simp)
  | ok d' =>
    rw [partialPath_eq, Store.partialPath, h.path] at hrename
    obtain ⟨entry, hentry, rfl, hne⟩ := Disk.rename_below h.root Store.isName_partialName h.isName
      h.no_link h.stored.isName hrename
    obtain rfl : entry = .file u.content := Option.some.inj (hentry.symm.trans hget)
    have hafter : ∀ r, ((d.erase (u.ownPlace p)).put (u.filePlace p) (.file u.content)).get? r =
        if r = u.filePlace p then some (.file u.content)
        else if r = u.ownPlace p then none else d.get? r := by
      intro r
      rw [Disk.get?_put _ (by simp [filePlace]), Disk.get?_erase _ (ownPlace_ne_nil u p)]
    have hplace := append_ne_unfinishedPlace h.stored.ne_partial p
    -- No two of the three places are one, so each sees its own change alone.
    refine ⟨rfl, .inl ?_, .inr ⟨?_, hbegun.first_ne⟩, ?_, fun r _ hown hfile => ?_, ?_⟩
    · exact (hafter _).trans
        ((if_neg hplace.symm).trans (if_neg (ownPlace_ne_unfinishedPlace u p).symm))
    · exact (hafter _).trans ((if_neg (ownPlace_ne_append u p u.name)).trans (if_pos rfl))
    · exact ⟨hwhole, hne, (hafter _).trans (if_pos rfl)⟩
    · exact (hafter r).trans ((if_neg hfile).trans (if_neg hown))
    · rintro n - heq
      injection heq with heq
      exact ⟨rfl, (Except.ok.inj heq).symm⟩

/-- What is left of a failure is cleared away. -/
theorem moves_cleared {e : StoreError} (hstands : u.Stands d p first (.discarding e)) :
    u.Moves p first phase d (.done (.error e)) (u.cleared d) := by
  rw [cleared]
  rcases Disk.removeFile_below h.root Store.isName_partialName h.isName h.no_link (by decide) with
    ⟨fault, hfault, hkept⟩ | ⟨hok, hne⟩
  · rw [partialPath_eq, Store.partialPath, hfault]
    refine moves_same (.inl (hstands.resolve_right ?_)) (by simp)
    rintro ⟨hbegun, content, hget⟩
    exact hkept content hbegun.unfinished hbegun.taken hget
  · rw [partialPath_eq, Store.partialPath, hok]
    have hget := Disk.get?_erase d (ownPlace_ne_nil u p)
    refine moves_own (.inr ⟨(hget _).trans (if_pos rfl), ?_⟩) rfl
      (fun r hr => (hget r).trans (if_neg hr)) (by simp)
    exact hstands.elim (fun hfirst hdir => hne (hfirst.trans hdir)) fun hbegun => hbegun.1.first_ne

/-- **One step of an upload leads on from where it stands**, and does nothing else. -/
theorem moves_step (hstands : u.Stands d p first phase) :
    u.Moves p first phase d (u.step d phase).phase (u.step d phase).disk := by
  cases phase with
  | preparing => exact h.moves_preparing hstands
  | creating => exact h.moves_creating hstands
  | writing place written rest => exact moves_writing hstands
  | syncing written => exact moves_syncing hstands
  | publishing written => exact h.moves_publishing hstands
  | discarding e =>
    rw [(step_discarding u d e).1, (step_discarding u d e).2]
    exact h.moves_cleared hstands
  | withdrawing e =>
    rw [(step_withdrawing u d e).1, (step_withdrawing u d e).2]
    exact h.moves_cleared hstands
  | done result => exact moves_same hstands (by simp [Phase.result?])

end Placed

end HostedFiles.Upload
