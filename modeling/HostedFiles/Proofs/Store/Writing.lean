import HostedFiles.Proofs.Disk.Files
import HostedFiles.Proofs.Store.Names
import HostedFiles.Store.Upload

/-!
# Proofs/Store/Writing — how an upload ends

An upload that runs alone ends in one of five ways: it cannot begin its file, its body is too long,
its body breaks off, its file cannot be published, or it is stored.  `exists_ending_preparing` says
which one, and on which disk, by the calls that it makes; the phases in between are gone from it.
-/

namespace HostedFiles.Upload

variable (u : Upload) {d : Disk} {place : Place}

/-! ## The parts of an upload -/

/-- The size of chunks together. -/
def total : List ByteArray → Nat
  | [] => 0
  | chunk :: rest => chunk.size + total rest

/-- The size of its body. -/
def size : Nat := total u.chunks

/-- Its body. -/
def content : ByteArray := Disk.joined ByteArray.empty u.chunks

/-- The disk once it has been tried to remove the unfinished file. -/
def cleared (d : Disk) : Disk :=
  match d.removeFile u.partialPath with
  | .ok d => d
  | .error _ => d

/-- The disk with the directory of unfinished uploads, as far as it can be made. -/
def prepared (d : Disk) : Disk :=
  (d.makeDirectories (Store.partialPath u.root)).2

/-- The unfinished file with its place, or why it cannot be begun. -/
def opened (d : Disk) : Except StoreError (Place × Disk) :=
  match (d.makeDirectories (Store.partialPath u.root)).1 with
  | .error e => .error (.io e.message)
  | .ok () =>
    match (u.prepared d).createFile u.partialPath with
    | .ok begun => .ok begun
    | .error e =>
      .error (.uploadFailed ("Failed to create file " ++ u.partialPath ++ ": " ++ e.message))

/-- The disk with the whole file in its place, or why it cannot be published. -/
def published (d : Disk) : Except StoreError Disk :=
  match d.rename u.partialPath u.path with
  | .ok d => .ok d
  | .error e =>
    .error (.uploadFailed ("Failed to publish file " ++ u.path ++ ": " ++ e.message))

/-- What an upload comes to from a phase on: its result and the disk. -/
def ending (d : Disk) (phase : Phase) : Except StoreError Nat × Disk :=
  ((u.finish d phase).result, (u.finish d phase).disk)

/-! ## Phase by phase -/

/-- An upload at its end has come to its result. -/
@[simp] theorem ending_done (result : Except StoreError Nat) :
    u.ending d (.done result) = (result, d) := by
  rw [ending, finish_done]

/-- An upload on its way comes to what it comes to after a step. -/
theorem ending_step {phase : Phase} (h : phase.result? = none) :
    u.ending d phase = u.ending (u.step d phase).disk (u.step d phase).phase := by
  rw [ending, finish_of_result?_eq_none u d h]
  rfl

/-- A failure is reported once the unfinished file is removed, if it can be. -/
@[simp] theorem ending_discarding (e : StoreError) :
    u.ending d (.discarding e) = (.error e, u.cleared d) := by
  rw [ending_step u rfl, step, cleared]
  split
  next hd => rw [ending_done, hd]
  next hd => rw [ending_done, hd]
  next hd => rw [ending_done, hd]

/-- So is a failure to publish. -/
@[simp] theorem ending_withdrawing (e : StoreError) :
    u.ending d (.withdrawing e) = (.error e, u.cleared d) := by
  rw [ending_step u rfl, step, cleared]
  cases d.removeFile u.partialPath with
  | ok d => exact ending_done u _
  | error problem => exact ending_done u _

/-- **A whole body is kept for good and published.** -/
theorem ending_written (written : Nat) :
    u.ending d (.writing place written []) =
      match u.failure with
      | some broken => (.error (.uploadFailed (broken.message u.partialPath)),
          u.cleared (brokenOff d place broken))
      | none =>
        match u.published d with
        | .ok d => (.ok written, d)
        | .error e => (.error e, u.cleared d) := by
  rw [ending_step u rfl, step]
  cases hfailure : u.failure with
  | some broken =>
    cases broken with
    | body problem | write part problem => exact ending_discarding u _
    | sync problem =>
      simp only [Option.filter, Break.isLate, Bool.not_true, Bool.false_eq_true, if_false]
      rw [ending_step u rfl, step, hfailure]
      exact ending_discarding u _
  | none =>
    simp only [Option.filter_none]
    rw [ending_step u rfl, step, hfailure]
    simp only
    rw [ending_step u rfl, step, published]
    cases d.rename u.partialPath u.path with
    | ok d => exact ending_done u _
    | error e => exact ending_withdrawing u _

/-- **Chunks within the limit are all written.** -/
theorem ending_writing_of_le {written : Nat} {rest : List ByteArray}
    (h : written + total rest ≤ u.limit) :
    u.ending d (.writing place written rest) =
      u.ending (d.appendAll place rest)
        (.writing place (written + total rest) []) := by
  induction rest generalizing d written with
  | nil => rfl
  | cons chunk rest ih =>
    rw [total, ← Nat.add_assoc] at h ⊢
    have hfits : ¬ u.limit < written + chunk.size := by omega
    rw [ending_step u rfl, step, if_neg hfits, ih h]
    rfl

/-- **Chunks beyond the limit end the upload**, after some that were written. -/
theorem exists_ending_writing {written : Nat} {rest : List ByteArray} (hle : written ≤ u.limit)
    (h : u.limit < written + total rest) :
    ∃ taken, u.ending d (.writing place written rest) =
      (.error (.tooLarge u.limit), u.cleared (d.appendAll place taken)) := by
  induction rest generalizing d written with
  | nil => exact absurd h (Nat.not_lt.2 hle)
  | cons chunk rest ih =>
    rw [total, ← Nat.add_assoc] at h
    rw [ending_step u rfl, step]
    by_cases hfits : u.limit < written + chunk.size
    · rw [if_pos hfits]
      exact ⟨[], ending_discarding u _⟩
    · rw [if_neg hfits]
      obtain ⟨taken, htaken⟩ := ih (Nat.not_lt.1 hfits) h
      exact ⟨chunk :: taken, htaken⟩

/-! ## The whole way -/

/-- **How an upload ends**, by the calls that it makes. -/
theorem exists_ending_preparing (d : Disk) : ∃ taken, u.ending d .preparing =
    match u.opened d with
    | .error e => (.error e, u.cleared (u.prepared d))
    | .ok (place, begun) =>
      if u.limit < u.size then
        (.error (.tooLarge u.limit), u.cleared (begun.appendAll place taken))
      else
        let whole := begun.appendAll place u.chunks
        match u.failure with
        | some broken => (.error (.uploadFailed (broken.message u.partialPath)),
            u.cleared (brokenOff whole place broken))
        | none =>
          match u.published whole with
          | .ok d => (.ok u.size, d)
          | .error e => (.error e, u.cleared whole) := by
  rw [ending_step u rfl, step, opened, prepared]
  obtain ⟨made, d'⟩ := d.makeDirectories (Store.partialPath u.root)
  cases made with
  | error e => exact ⟨[], ending_discarding u _⟩
  | ok =>
    simp only
    rw [ending_step u rfl, step]
    cases d'.createFile u.partialPath with
    | error e => exact ⟨[], ending_discarding u _⟩
    | ok begun =>
      obtain ⟨place, begun⟩ := begun
      simp only
      by_cases hlimit : u.limit < u.size
      · simp only [if_pos hlimit]
        refine exists_ending_writing u (Nat.zero_le _) ?_
        rwa [Nat.zero_add]
      · refine ⟨[], ?_⟩
        simp only [if_neg hlimit]
        rw [ending_writing_of_le u, ending_written, Nat.zero_add]
        · rfl
        · rw [Nat.zero_add]
          exact Nat.not_lt.1 hlimit

end HostedFiles.Upload
