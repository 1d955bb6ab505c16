import HostedFiles.Http.Target
import HostedFiles.Link
import HostedFiles.Proofs.Text.Ends

/-!
# Proofs/Http/Targets — the path of a whole address

A target may be a whole address, with scheme and authority in front of the path.  Its path begins at
the first slash behind the authority and ends where a query or a fragment begins
(`path_ofText_of_slash`); an address whose authority is cut off by one of those has no path of its
own, and `/` stands for it (`path_ofText_of_endsPath`).
-/

namespace HostedFiles

namespace Text

variable {p q stop : Char → Bool} {s t : List Char}

/-- A text without stops in front of another one is kept. -/
theorem upTo_append_of_all (h : ∀ c ∈ s, stop c = false) : upTo stop (s ++ t) = s ++ upTo stop t :=
  List.takeWhile_append_of_pos fun c hc => by rw [h c hc]; rfl

/-- **Two cuts, one after the other, are one in front of the stops of both.** -/
theorem upTo_upTo : upTo p (upTo q s) = upTo (fun c => p c || q c) s := by
  rw [upTo, upTo, List.takeWhile_takeWhile, upTo]
  congr 1
  funext c
  rw [Bool.not_or, Bool.decide_and, Bool.decide_eq_true, Bool.decide_eq_true]

/-- Behind the first stop begins what is left out. -/
theorem exists_append_upTo (stop : Char → Bool) (s : List Char) :
    ∃ rest, s = upTo stop s ++ rest ∧ ∀ c ∈ rest.head?, stop c = true := by
  refine ⟨s.dropWhile fun c => !stop c, List.takeWhile_append_dropWhile.symm, ?_⟩
  intro c hc
  have hstop := List.head?_dropWhile_not (fun c => !stop c) s
  rw [hc] at hstop
  simpa using hstop

end Text

namespace Http.Target

open Text
open HostedFiles.Link (endsPath)

variable {authority path rest : List Char}

/-- A character that belongs to an authority. -/
def isAuthority (c : Char) : Bool :=
  c != '/' && !endsPath c

theorem endsPath_eq_or (c : Char) : endsPath c = (c == '?' || c == '#') := rfl

/-- Without a question mark and a number sign nothing ends a path. -/
theorem endsPath_of_not_mem (hquery : '?' ∉ rest) (hfragment : '#' ∉ rest) :
    ∀ c ∈ rest, endsPath c = false := by
  intro c hc
  rw [endsPath_eq_or, beq_eq_false_iff_ne.2 (ne_of_mem_of_not_mem hc hquery),
    beq_eq_false_iff_ne.2 (ne_of_mem_of_not_mem hc hfragment)]
  rfl

/-- What is in front of a question mark. -/
theorem path_ofPath (s : List Char) : (ofPath s).path = String.ofList (upTo (· == '?') s) := by
  rw [ofPath]
  cases hs : splitFirst? '?' s with
  | none =>
    have hnone := splitFirst?_eq_none_iff.1 hs
    rw [upTo_eq_self fun c hc => beq_eq_false_iff_ne.2 (ne_of_mem_of_not_mem hc hnone)]
  | some parts =>
    obtain ⟨rfl, hnone⟩ := eq_of_splitFirst? hs
    rw [upTo_append (fun c hc => beq_eq_false_iff_ne.2 (ne_of_mem_of_not_mem hc hnone))]
    rintro c ⟨⟩
    rfl

/-- The scheme of an address. -/
def scheme (encrypted : Bool) : String :=
  if encrypted then "https" else "http"

/-- **Behind the scheme, the path begins where the authority ends.** -/
theorem path_ofText (encrypted : Bool) (rest : List Char) :
    (ofText (scheme encrypted ++ "://" ++ String.ofList rest)).path =
      let path := String.ofList (upTo (· == '?')
        ((upTo (· == '#') rest).dropWhile fun c => !endsAuthority c))
      if path = "" then "/" else path := by
  have hfragment : '#' ∉ (scheme encrypted).toList ++ "://".toList := by
    cases encrypted <;> decide
  have hscheme : upTo (· == '#') (scheme encrypted ++ "://" ++ String.ofList rest).toList =
      (scheme encrypted).toList ++ "://".toList ++ upTo (· == '#') rest := by
    rw [String.toList_append, String.toList_append, String.toList_ofList (l := rest),
      upTo_append_of_all fun c hc => beq_eq_false_iff_ne.2 (ne_of_mem_of_not_mem hc hfragment)]
  rw [ofText, hscheme, ← path_ofPath]
  cases encrypted <;> rfl

/-- No character of an authority ends it. -/
theorem of_isAuthority {c : Char} (h : isAuthority c = true) :
    endsAuthority c = false ∧ (c == '#') = false := by
  simp only [isAuthority, endsPath_eq_or, Bool.and_eq_true, bne_iff_ne, ne_eq, Bool.not_eq_true',
    Bool.or_eq_false_iff, beq_eq_false_iff_ne] at h
  exact ⟨by simp [endsAuthority, h.1, h.2.1], beq_eq_false_iff_ne.2 h.2.2⟩

/-- An authority is passed over. -/
theorem dropWhile_authority (h : ∀ c ∈ authority, isAuthority c = true) (rest : List Char) :
    (upTo (· == '#') (authority ++ rest)).dropWhile (fun c => !endsAuthority c) =
      (upTo (· == '#') rest).dropWhile fun c => !endsAuthority c := by
  rw [upTo_append_of_all fun c hc => (of_isAuthority (h c hc)).2,
    List.dropWhile_append_of_pos fun c hc => by rw [(of_isAuthority (h c hc)).1]; rfl]

/-- **The path of an address is what stands between its authority and its query or fragment.** -/
theorem path_ofText_of_slash (encrypted : Bool) (h : ∀ c ∈ authority, isAuthority c = true) :
    (ofText (scheme encrypted ++ "://" ++ String.ofList (authority ++ '/' :: path))).path =
      String.ofList ('/' :: upTo endsPath path) := by
  have hdrop : (upTo (· == '#') ('/' :: path)).dropWhile (fun c => !endsAuthority c) =
      upTo (· == '#') ('/' :: path) := rfl
  have hcut : upTo endsPath ('/' :: path) = '/' :: upTo endsPath path := rfl
  rw [path_ofText, dropWhile_authority h, hdrop, upTo_upTo, ← funext endsPath_eq_or, hcut]
  exact if_neg fun hempty => by simpa using congrArg String.toList hempty

/-- An address whose authority is cut off has no path of its own. -/
theorem path_ofText_of_endsPath (encrypted : Bool) {mark : Char}
    (h : ∀ c ∈ authority, isAuthority c = true) (hmark : endsPath mark = true) :
    (ofText (scheme encrypted ++ "://" ++ String.ofList (authority ++ mark :: rest))).path =
      "/" := by
  have hnone : upTo (· == '?')
      ((upTo (· == '#') (mark :: rest)).dropWhile fun c => !endsAuthority c) = [] := by
    simp only [endsPath_eq_or, Bool.or_eq_true, beq_iff_eq] at hmark
    rcases hmark with rfl | rfl <;> rfl
  rw [path_ofText, dropWhile_authority h, hnone]
  rfl

end Http.Target

end HostedFiles
