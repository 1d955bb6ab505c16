import HostedFiles.Link
import HostedFiles.Proofs.Text.Ends
import HostedFiles.Proofs.Text.Occurrences

/-!
# Proofs/Link/Candidates — what a link of a text is like

A candidate holds no blank and no control character and does not end in punctuation.  A link is a
candidate whose path stands for a file name (`at?_eq_some_iff`), and the first link of a text stands
in it (`exists_of_first?`).
-/

namespace HostedFiles.Link

open Text

variable {s t : List Char} {text publicUrl : String} {link : Link}

/-! ## Candidates -/

theorem isPunctuation_of_getLast?_candidate :
    ∀ c ∈ (candidate s).getLast?, isPunctuation c = false :=
  getLast?_trimEnd

/-- **What stands in front of a stop is a candidate** once its punctuation is taken off. -/
theorem candidate_append (hs : ∀ c ∈ s, isStop c = false)
    (ht : ∀ c ∈ t.head?, isStop c = true) : candidate (s ++ t) = trimEnd isPunctuation s := by
  rw [candidate, upTo_append hs ht]

/-- A candidate begins the text. -/
theorem exists_append_candidate (s : List Char) : ∃ rest, s = candidate s ++ rest := by
  obtain ⟨tail, htail, -⟩ := exists_append_trimEnd isPunctuation (upTo isStop s)
  obtain ⟨rest, hrest⟩ := List.takeWhile_prefix (l := s) fun c => !isStop c
  refine ⟨tail ++ rest, ?_⟩
  rw [← List.append_assoc, candidate, ← htail]
  exact hrest.symm

/-! ## Links -/

theorem lead_ne_nil (publicUrl : String) : lead publicUrl ≠ [] :=
  List.append_ne_nil_of_right_ne_nil _ (List.cons_ne_nil _ _)

theorem ofList_lead_append (publicUrl : String) (path : List Char) :
    String.ofList (lead publicUrl ++ path) = publicUrl ++ "/" ++ String.ofList path := by
  rw [lead, String.ofList_append, String.ofList_append, String.ofList_toList]

/-- **A link is a candidate whose path stands for a file name.** -/
theorem at?_eq_some_iff {lead : List Char} : at? lead s = some link ↔
    ∃ path, candidate s = lead ++ path ∧ fileName? path = some link.filename ∧
      link.url = String.ofList (lead ++ path) := by
  rw [at?]
  cases hafter : after? lead (candidate s) with
  | none =>
    refine iff_of_false (by simp) ?_
    rintro ⟨path, hpath, -⟩
    rw [after?_eq_some_iff.2 hpath] at hafter
    cases hafter
  | some path =>
    rw [after?_eq_some_iff] at hafter
    simp only [Option.map_eq_some_iff, hafter]
    constructor
    · rintro ⟨filename, hname, rfl⟩
      exact ⟨path, rfl, hname, rfl⟩
    · rintro ⟨path', heq, hname, hurl⟩
      obtain rfl := List.append_cancel_left heq
      exact ⟨link.filename, hname, by rw [← hurl]⟩

/-- **The first link of a text stands in it.** -/
theorem exists_of_first? (h : first? text publicUrl = some link) :
    ∃ before rest path, text.toList = before ++ rest ∧ candidate rest = lead publicUrl ++ path ∧
      fileName? path = some link.filename ∧
      link.url = String.ofList (lead publicUrl ++ path) := by
  rw [first?_eq_firstAt?] at h
  obtain ⟨before, rest, htext, hat⟩ := exists_of_firstAt? h
  obtain ⟨path, hcandidate, hname, hurl⟩ := at?_eq_some_iff.1 hat
  exact ⟨before, _, path, htext, hcandidate, hname, hurl⟩

/-- **A text with a link holds the public address.** -/
theorem contains_of_first? (h : first? text publicUrl = some link) :
    Text.contains publicUrl.toList text.toList = true := by
  obtain ⟨before, rest, path, htext, hcandidate, -⟩ := exists_of_first? h
  obtain ⟨behind, hbehind⟩ := exists_append_candidate rest
  refine contains_iff.2 ⟨before, ['/'] ++ path ++ behind, ?_⟩
  rw [htext, hbehind, hcandidate, lead]
  simp only [List.append_assoc]

end HostedFiles.Link
