import HostedFiles.Break
import HostedFiles.Store.Basic

/-!
# Store/Upload — writing a file

An upload is written under a name of its own among the unfinished ones and takes its place only when
it is complete.  It proceeds by steps, each of which touches the disk at most once, so that what
other uploads do between two steps can be stated.  `finish` takes the steps of one upload alone.
-/

namespace HostedFiles

/-- What is to be written. -/
structure Upload where
  root : String
  name : String
  /-- The path the file will have. -/
  path : String
  /-- What sets its unfinished file apart from all others. -/
  mark : String
  chunks : List ByteArray
  /-- What breaks the upload off behind these chunks, if anything does. -/
  failure : Option Break
  /-- The greatest size it may have. -/
  limit : Nat

namespace Upload

/-- Where an upload stands. -/
inductive Phase where
  /-- The directory of unfinished uploads is to be made. -/
  | preparing
  /-- Its own unfinished file is to be made. -/
  | creating
  /-- The rest of the chunks are to be written to the file at `place`. -/
  | writing (place : Place) (written : Nat) (rest : List ByteArray)
  /-- What was written is to be kept for good. -/
  | syncing (written : Nat)
  /-- The file is to take its place. -/
  | publishing (written : Nat)
  /-- The unfinished file is to be removed after a failure, and it matters if it cannot be. -/
  | discarding (e : StoreError)
  /-- The unfinished file is to be removed after a failure to publish it. -/
  | withdrawing (e : StoreError)
  | done (result : Except StoreError Nat)

/-- The path of the unfinished file. -/
def partialPath (u : Upload) : String :=
  Path.join (Store.partialPath u.root) (u.mark ++ ".part")

/-- The outcome of a step: the phase after it, the disk, and what is worth a line. -/
structure Progress where
  phase : Phase
  disk : Disk
  events : List Log.Event

/-- The disk on which an upload breaks off while its file at a place is written. -/
def brokenOff (d : Disk) (place : Place) : Break → Disk
  | .write part _ => d.append place part
  | .body _ | .sync _ => d

/-- One step. -/
def step (u : Upload) (d : Disk) : Phase → Progress
  | .preparing =>
    match d.makeDirectories (Store.partialPath u.root) with
    | (.ok (), d) => ⟨.creating, d, []⟩
    | (.error e, d) => ⟨.discarding (.io e.message), d, []⟩
  | .creating =>
    match d.createFile u.partialPath with
    | .ok (place, d) => ⟨.writing place 0 u.chunks, d, []⟩
    | .error e =>
      let problem := "Failed to create file " ++ u.partialPath ++ ": " ++ e.message
      ⟨.discarding (.uploadFailed problem), d, []⟩
  | .writing place written (chunk :: rest) =>
    let size := written + chunk.size
    if u.limit < size then ⟨.discarding (.tooLarge u.limit), d, []⟩
    else ⟨.writing place size rest, d.append place chunk, []⟩
  | .writing place written [] =>
    match u.failure.filter (!·.isLate) with
    | some broken =>
      ⟨.discarding (.uploadFailed (broken.message u.partialPath)), brokenOff d place broken, []⟩
    | none => ⟨.syncing written, d, []⟩
  | .syncing written =>
    match u.failure with
    | some broken => ⟨.discarding (.uploadFailed (broken.message u.partialPath)), d, []⟩
    | none => ⟨.publishing written, d, []⟩
  | .publishing written =>
    match d.rename u.partialPath u.path with
    | .ok d => ⟨.done (.ok written), d, []⟩
    | .error e =>
      let problem := "Failed to publish file " ++ u.path ++ ": " ++ e.message
      ⟨.withdrawing (.uploadFailed problem), d, []⟩
  | .discarding e =>
    match d.removeFile u.partialPath with
    | .ok d => ⟨.done (.error e), d, []⟩
    | .error .missing => ⟨.done (.error e), d, []⟩
    | .error problem =>
      ⟨.done (.error e), d, [.partialKept u.partialPath problem.message]⟩
  | .withdrawing e =>
    match d.removeFile u.partialPath with
    | .ok d => ⟨.done (.error e), d, []⟩
    | .error _ => ⟨.done (.error e), d, []⟩
  | .done result => ⟨.done result, d, []⟩

/-- How many steps a phase is away from the end, at most. -/
def Phase.remaining (chunks : Nat) : Phase → Nat
  | preparing => chunks + 6
  | creating => chunks + 5
  | writing _ _ rest => rest.length + 4
  | syncing _ => 3
  | publishing _ => 2
  | discarding _ | withdrawing _ => 1
  | done _ => 0

/-- The result of an upload that is at its end. -/
def Phase.result? : Phase → Option (Except StoreError Nat)
  | done result => some result
  | _ => none

/-- **Every step leads nearer to the end.** -/
theorem remaining_step_lt (u : Upload) (d : Disk) {phase : Phase} (h : phase.result? = none) :
    (u.step d phase).phase.remaining u.chunks.length < phase.remaining u.chunks.length := by
  cases phase with
  | preparing => simp only [step]; split <;> simp [Phase.remaining]
  | creating => simp only [step]; split <;> simp [Phase.remaining]
  | writing place written rest =>
    cases rest with
    | nil => simp only [step]; split <;> simp [Phase.remaining]
    | cons chunk rest => simp only [step]; split <;> simp [Phase.remaining]
  | syncing written => simp only [step]; split <;> simp [Phase.remaining]
  | publishing written => simp only [step]; split <;> simp [Phase.remaining]
  | discarding e => simp only [step]; split <;> simp [Phase.remaining]
  | withdrawing e => simp only [step]; split <;> simp [Phase.remaining]
  | done result => simp [Phase.result?] at h

/-- What comes of an upload: how much was written or why not, the disk, and what is worth a line. -/
structure Outcome where
  result : Except StoreError Nat
  disk : Disk
  events : List Log.Event

/-- Takes all remaining steps. -/
def finish (u : Upload) (d : Disk) (phase : Phase) : Outcome :=
  match h : phase.result? with
  | some result => ⟨result, d, []⟩
  | none =>
    have := remaining_step_lt u d h
    let progress := u.step d phase
    let outcome := u.finish progress.disk progress.phase
    { outcome with events := progress.events ++ outcome.events }
termination_by phase.remaining u.chunks.length

/-- An upload at its end has nothing left to do. -/
@[simp] theorem finish_done (u : Upload) (d : Disk) (result : Except StoreError Nat) :
    u.finish d (.done result) = ⟨result, d, []⟩ := by
  rw [finish]; rfl

/-- An upload on its way takes one step and then the rest. -/
theorem finish_of_result?_eq_none (u : Upload) (d : Disk) {phase : Phase}
    (h : phase.result? = none) :
    u.finish d phase =
      { u.finish (u.step d phase).disk (u.step d phase).phase with
        events := (u.step d phase).events ++
          (u.finish (u.step d phase).disk (u.step d phase).phase).events } := by
  rw [finish]
  split
  · next heq => simp [h] at heq
  · rfl

end Upload

namespace Store

/-- Writes a file of chunks under a name.  It is complete under that name, or the disk keeps nothing
of it. -/
def store (root name mark : String) (chunks : List ByteArray) (failure : Option Break)
    (limit : Nat) (d : Disk) : Upload.Outcome :=
  match filePath root name with
  | .error e => ⟨.error e, d, []⟩
  | .ok path =>
    Upload.finish { root, name, path, mark, chunks, failure, limit } d .preparing

end Store

end HostedFiles
