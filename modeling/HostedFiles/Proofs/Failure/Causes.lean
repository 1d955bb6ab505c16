import HostedFiles.Failure
import HostedFiles.Text.Split

/-!
# Proofs/Failure/Causes — a failure is told with its causes

A failure is told in lines: itself, then its first five causes from the nearest to the farthest,
then one line for the others if there are any (`lines`).  The causes are added to the text one by
one until five are told, and every step adds the line of its cause (`addCauses_eq_intercalate`).
The causes of a problem are what was said of it on its way out, the last thing said first
(`Problem.sources_wrapped`), and as long as nothing said has a line break in it, the lines are read
back from the text (`told_in_lines`).
-/

namespace HostedFiles

namespace Failure

/-! ## Lines -/

/-- The lines for causes when there is room for `room` of them. -/
def causeLines (room : Nat) (causes : List String) : List String :=
  (causes.take room).map ("  Caused by: " ++ ·) ++
    if room < causes.length then ["  ... (truncated)"] else []

/-- The lines that tell a failure. -/
def lines (f : Failure) : List String :=
  f.message :: causeLines 5 f.causes

theorem causeLines_nil (room : Nat) : causeLines room [] = [] := by
  simp [causeLines]

/-- With no room left, one line stands for all causes. -/
theorem causeLines_zero_cons (cause : String) (causes : List String) :
    causeLines 0 (cause :: causes) = ["  ... (truncated)"] := by
  simp [causeLines]

/-- With room left, the nearest cause has a line of its own. -/
theorem causeLines_succ_cons (room : Nat) (cause : String) (causes : List String) :
    causeLines (room + 1) (cause :: causes) =
      ("  Caused by: " ++ cause) :: causeLines room causes := by
  simp only [causeLines, List.take_succ_cons, List.map_cons, List.cons_append, List.length_cons,
    Nat.add_lt_add_iff_right]

/-- **Adding causes adds their lines**, for as many of them as there is room left. -/
theorem addCauses_eq_intercalate (text : String) {told : Nat} (h : told ≤ maxCauses)
    (causes : List String) : addCauses text told causes =
      "\n".intercalate (text :: causeLines (maxCauses - told) causes) := by
  -- On the causes that are left, whatever the text is that they are added to.
  induction causes generalizing text told with
  | nil => rw [addCauses, causeLines_nil, String.intercalate_singleton]
  | cons cause causes ih =>
    rw [addCauses]
    split
    next hroom =>
      have hline : text ++ "\n  Caused by: " ++ cause =
          text ++ "\n" ++ ("  Caused by: " ++ cause) := by
        rw [show "\n  Caused by: " = "\n" ++ "  Caused by: " from rfl]
        simp only [String.append_assoc]
      have hleft : maxCauses - told = maxCauses - (told + 1) + 1 := by omega
      rw [ih _ hroom, hleft, causeLines_succ_cons, hline, String.intercalate_cons_append,
        String.intercalate_cons_cons]
    next hfull =>
      rw [Nat.le_antisymm h (Nat.not_lt.1 hfull), Nat.sub_self, causeLines_zero_cons,
        String.intercalate_cons_cons, String.intercalate_singleton, String.append_assoc]
      rfl

theorem detailed_eq_intercalate (f : Failure) : f.detailed = "\n".intercalate f.lines :=
  addCauses_eq_intercalate f.message (Nat.zero_le _) f.causes

/-- What is told without line breaks makes lines without them. -/
theorem not_mem_of_mem_lines {f : Failure} {line : String}
    (h : ∀ text ∈ f.message :: f.causes.take 5, '\n' ∉ text.toList) (hline : line ∈ f.lines) :
    '\n' ∉ line.toList := by
  have hcause : '\n' ∉ "  Caused by: ".toList := by decide
  have hrest : '\n' ∉ "  ... (truncated)".toList := by decide
  rw [lines, causeLines, List.mem_cons, List.mem_append, List.mem_map] at hline
  rcases hline with rfl | ⟨cause, hmem, rfl⟩ | hline
  · exact h _ List.mem_cons_self
  · rw [String.toList_append, List.mem_append, not_or]
    exact ⟨hcause, h cause (List.mem_cons_of_mem _ hmem)⟩
  · split at hline
    · rwa [List.mem_singleton.1 hline]
    · cases hline

end Failure

/-! ## Problems -/

/-- What went wrong, and what was said of it on its way out. -/
inductive Problem where
  | met (text : String)
  | said (text : String) (inner : Problem)

namespace Problem

/-- The last thing that was said. -/
def text : Problem → String
  | met text => text
  | said text _ => text

/-- The problem that something more was said of. -/
def source? : Problem → Option Problem
  | met _ => none
  | said _ inner => some inner

/-- All that was said of a problem, the last thing first. -/
def sources : Problem → List String
  | met text => [text]
  | said text inner => text :: inner.sources

/-- The problem after more was said of it, one thing after the other. -/
def wrapped (p : Problem) (contexts : List String) : Problem :=
  contexts.foldl (fun inner text => said text inner) p

/-- The failure that a problem becomes. -/
def failure (p : Problem) : Failure :=
  .ofCauses p.text ((p.source?.map sources).getD [])

/-- **The causes of the failure are all that was said of the problem.** -/
theorem causes_failure (p : Problem) : p.failure.causes = p.sources := by
  cases p <;> rfl

/-- **What was said last is the nearest cause**, and what went wrong the farthest. -/
theorem sources_wrapped (p : Problem) (contexts : List String) :
    (p.wrapped contexts).sources = contexts.reverse ++ p.sources := by
  induction contexts generalizing p with
  | nil => rfl
  | cons text contexts ih =>
    rw [wrapped, List.foldl_cons, ← wrapped, ih, sources, List.reverse_cons, List.append_assoc,
      List.singleton_append]

end Problem

/-! ## The text -/

/-- **A failure is told with its first five causes, in their order**, a line for each of them and
one more line if there are others; without causes it is told alone.  The causes of a problem begin
with what was said of it last.  If no line break is told, the lines are read back from the text. -/
theorem Failure.told_in_lines (f : Failure) :
    f.detailed = "\n".intercalate (f.message ::
      ((f.causes.take (min f.causes.length 5)).map ("  Caused by: " ++ ·) ++
        if 5 < f.causes.length then ["  ... (truncated)"] else [])) ∧
    (f.causes = [] → f.detailed = f.message) ∧
    (∀ text contexts, f = ((Problem.met text).wrapped contexts).failure →
      f.causes = contexts.reverse ++ [text]) ∧
    ((∀ text ∈ f.message :: f.causes.take 5, '\n' ∉ text.toList) →
      Text.splitAll '\n' f.detailed.toList = f.lines.map String.toList) := by
  refine ⟨?_, fun hnone => ?_, ?_, fun hbreak => ?_⟩
  · rw [detailed_eq_intercalate, lines, causeLines, List.take_eq_take_min, Nat.min_comm]
  · rw [detailed, hnone, addCauses]
  · rintro text contexts rfl
    rw [Problem.causes_failure, Problem.sources_wrapped, Problem.sources]
  · rw [detailed_eq_intercalate, String.toList_intercalate]
    refine Text.splitAll_intercalate (List.cons_ne_nil _ _) fun piece hpiece => ?_
    obtain ⟨line, hline, rfl⟩ := List.mem_map.1 hpiece
    exact not_mem_of_mem_lines hbreak hline

/-- What went wrong is not told if five things were said of it on the way out. -/
theorem Failure.told_in_lines_six : ∃ f : Failure,
    f = ((Problem.met "no space").wrapped ["a", "b", "c", "d", "e"]).failure ∧
      f.causes = ["e", "d", "c", "b", "a", "no space"] ∧
      f.detailed = "Internal error with source\n  Caused by: e\n  Caused by: d\n  Caused by: c" ++
        "\n  Caused by: b\n  Caused by: a\n  ... (truncated)" ∧
      Text.splitAll '\n' f.detailed.toList = f.lines.map String.toList ∧
      (Failure.notFound "n.txt").detailed = "Not found: n.txt" := by
  obtain ⟨htext, -, hcauses, hlines⟩ :=
    told_in_lines ((Problem.met "no space").wrapped ["a", "b", "c", "d", "e"]).failure
  exact ⟨_, rfl, hcauses _ _ rfl, htext.trans (by decide), hlines (by decide),
    (told_in_lines (.notFound "n.txt")).2.1 rfl⟩

end HostedFiles
