import HostedFiles.Proofs.Link.Candidates

/-!
# Proofs/Link/Scanning — which link of a text is found

A link can be told without cutting anything: the text from it on is the address, the punctuation
behind the address, and a rest that the punctuation runs up to (`Layout`).  The first link of a text
is the one at the first of the successive occurrences of what links begin with that has one
(`first?_eq_some_iff`, `first?_eq_none_iff`), so it is an unbroken piece of the text and names a
file that may have such a name (`sound_of_first?`).
-/

namespace HostedFiles

namespace Link

open Text

variable {s : List Char} {text publicUrl : String} {link : Link}

/-! ## What a link is made of -/

/-- **A candidate is what is left of an unbroken piece of text without the punctuation at its
end.** -/
theorem candidate_eq_iff {front : List Char} : candidate s = front ↔
    ∃ marks rest, s = front ++ marks ++ rest ∧ (∀ c ∈ front ++ marks, isStop c = false) ∧
      (∀ c ∈ rest.head?, isStop c = true) ∧ (∀ c ∈ marks, isPunctuation c = true) ∧
      ∀ c ∈ front.getLast?, isPunctuation c = false := by
  rw [candidate, trimEnd_eq_iff]
  constructor
  · rintro ⟨marks, hcut, hmarks, hfront⟩
    obtain ⟨rest, hs, hfree, hrest⟩ := upTo_eq_iff.1 hcut
    exact ⟨marks, rest, hs, hfree, hrest, hmarks, hfront⟩
  · rintro ⟨marks, rest, hs, hfree, hrest, hmarks, hfront⟩
    exact ⟨marks, upTo_eq_iff.2 ⟨rest, hs, hfree, hrest⟩, hmarks, hfront⟩

/-- **A path stands for what its part in front of the query and the fragment is decoded to**, once
that is sanitized. -/
theorem fileName?_eq_some_iff {path : List Char} {filename : String} :
    fileName? path = some filename ↔ ∃ asked query decoded, path = asked ++ query ∧
      (∀ c ∈ asked, endsPath c = false) ∧ (∀ c ∈ query.head?, endsPath c = true) ∧
      Percent.decode? asked = some decoded ∧ FileName.sanitize? decoded = some filename := by
  rw [fileName?, Option.bind_eq_some_iff]
  constructor
  · rintro ⟨decoded, hdecoded, hname⟩
    obtain ⟨query, hpath, hasked, hquery⟩ := upTo_eq_iff.1 (rfl : upTo endsPath path = _)
    exact ⟨_, query, decoded, hpath, hasked, hquery, hdecoded, hname⟩
  · rintro ⟨asked, query, decoded, hpath, hasked, hquery, hdecoded, hname⟩
    rw [upTo_eq_iff.2 ⟨query, hpath, hasked, hquery⟩]
    exact ⟨decoded, hdecoded, hname⟩

/-- How a text that begins with a link is laid out.  Behind the public address and a slash stand the
name that is asked for, as it is written in addresses, and the query and the fragment; behind the
address stand the punctuation of the sentence and the rest of the text. -/
structure Layout (publicUrl : String) (s : List Char) (link : Link)
    (asked query marks rest : List Char) (decoded : String) : Prop where
  whole : s = lead publicUrl ++ (asked ++ query) ++ marks ++ rest
  /-- No blank and no control character stands in the address or in the punctuation. -/
  unbroken : ∀ c ∈ lead publicUrl ++ (asked ++ query) ++ marks, isStop c = false
  /-- One begins the rest, unless the text ends. -/
  stop : ∀ c ∈ rest.head?, isStop c = true
  /-- All of the punctuation is taken off. -/
  taken : ∀ c ∈ marks, isPunctuation c = true
  ending : ∀ c ∈ (lead publicUrl ++ (asked ++ query)).getLast?, isPunctuation c = false
  /-- The query or the fragment begins at the first sign of one. -/
  inName : ∀ c ∈ asked, endsPath c = false
  inQuery : ∀ c ∈ query.head?, endsPath c = true
  decodes : Percent.decode? asked = some decoded
  filename : FileName.sanitize? decoded = some link.filename
  url : link.url = String.ofList (lead publicUrl ++ (asked ++ query))

/-- A text begins with a link. -/
def BeginsWith (publicUrl : String) (s : List Char) (link : Link) : Prop :=
  ∃ asked query marks rest decoded, Layout publicUrl s link asked query marks rest decoded

/-- **At an occurrence the link is seen that the text begins with there.** -/
theorem at?_eq_some_iff_beginsWith : at? (lead publicUrl) s = some link ↔
    BeginsWith publicUrl s link := by
  rw [at?_eq_some_iff]
  constructor
  · rintro ⟨path, hcandidate, hname, hurl⟩
    obtain ⟨marks, rest, hs, hfree, hrest, hmarks, hend⟩ := candidate_eq_iff.1 hcandidate
    obtain ⟨asked, query, decoded, rfl, hasked, hquery, hdecoded, hname⟩ :=
      fileName?_eq_some_iff.1 hname
    exact ⟨asked, query, marks, rest, decoded, hs, hfree, hrest, hmarks, hend, hasked, hquery,
      hdecoded, hname, hurl⟩
  · rintro ⟨asked, query, marks, rest, decoded, h⟩
    refine ⟨asked ++ query, candidate_eq_iff.2 ?_, fileName?_eq_some_iff.2 ?_, h.url⟩
    · exact ⟨marks, rest, h.whole, h.unbroken, h.stop, h.taken, h.ending⟩
    · exact ⟨asked, query, decoded, rfl, h.inName, h.inQuery, h.decodes, h.filename⟩

theorem at?_eq_none_iff_beginsWith : at? (lead publicUrl) s = none ↔
    ∀ link, ¬ BeginsWith publicUrl s link := by
  rw [Option.eq_none_iff_forall_ne_some]
  exact forall_congr' fun link => not_congr at?_eq_some_iff_beginsWith

/-! ## The first of them -/

variable {starts : List (List Char)}

theorem first?_eq_findSome? (h : Successive (lead publicUrl) text.toList starts) :
    first? text publicUrl = starts.findSome? (at? (lead publicUrl)) := by
  rw [first?_eq_firstAt?, firstAt?_of_successive (lead_ne_nil publicUrl) _ h]

/-- **A link is found exactly at the first occurrence that has one.** -/
theorem first?_eq_some_iff (h : Successive (lead publicUrl) text.toList starts) :
    first? text publicUrl = some link ↔ ∃ before start after, starts = before ++ start :: after ∧
      BeginsWith publicUrl start link ∧
      ∀ other ∈ before, ∀ missed, ¬ BeginsWith publicUrl other missed := by
  rw [first?_eq_findSome? h, List.findSome?_eq_some_iff]
  simp only [at?_eq_some_iff_beginsWith, at?_eq_none_iff_beginsWith]

/-- **No link is found exactly if no occurrence has one.** -/
theorem first?_eq_none_iff (h : Successive (lead publicUrl) text.toList starts) :
    first? text publicUrl = none ↔
      ∀ start ∈ starts, ∀ missed, ¬ BeginsWith publicUrl start missed := by
  rw [first?_eq_findSome? h, List.findSome?_eq_none_iff]
  simp only [at?_eq_none_iff_beginsWith]

/-! ## What a link that was found is like -/

/-- What can be relied on of a link that was found in a text. -/
structure Sound (publicUrl text : String) (link : Link) : Prop where
  /-- The address is a piece of the text. -/
  piece : ∃ before after, text = before ++ link.url ++ after
  begins : ∃ path, link.url = publicUrl ++ "/" ++ path
  unbroken : ∀ c ∈ link.url.toList, isBlank c = false ∧ isControl c = false
  ending : ∀ c ∈ link.url.toList.getLast?, isPunctuation c = false
  /-- The name leads nowhere else and is not that of a directory. -/
  safe : ∀ c ∈ link.filename.toList, c ≠ '/' ∧ c ≠ '\\' ∧ isControl c = false
  usable : link.filename ≠ "" ∧ link.filename ≠ "." ∧ link.filename ≠ ".."

/-- **A link is a piece of the text that names a file.** -/
theorem sound_of_first? (h : first? text publicUrl = some link) : Sound publicUrl text link := by
  obtain ⟨before, s, path, htext, hcandidate, hname, hurl⟩ := exists_of_first? h
  obtain ⟨marks, rest, hs, hfree, -, -, hend⟩ := candidate_eq_iff.1 hcandidate
  obtain ⟨-, -, decoded, -, -, -, -, hclean⟩ := fileName?_eq_some_iff.1 hname
  obtain ⟨hneutral, hreserved⟩ := FileName.sanitize?_eq_some_iff.1 hclean
  refine ⟨⟨String.ofList before, String.ofList (marks ++ rest), ?_⟩,
    ⟨String.ofList path, hurl.trans (ofList_lead_append publicUrl path)⟩, ?_, ?_, ?_, ?_⟩
  · rw [hurl, ← String.ofList_append, ← String.ofList_append, List.append_assoc,
      ← List.append_assoc _ marks, ← hs, ← htext, String.ofList_toList]
  · intro c hc
    rw [hurl, String.toList_ofList] at hc
    exact Bool.or_eq_false_iff.1 (hfree c (List.mem_append_left _ hc))
  · rwa [hurl, String.toList_ofList]
  · intro c hc
    have hsafe := FileName.isUnsafe_of_mem_neutralize (hneutral ▸ hc)
    simpa [FileName.isUnsafe, and_assoc] using hsafe
  · simpa [FileName.isReserved, and_assoc] using hreserved

/-- **The first link of a text is the first one that stands in it.**  What links begin with occurs
in a text in one row of places, from the left and without overlapping.  The link found is the one at
the first of these places where the text begins with a link, none is found if there is no such
place, and what is found is sound. -/
theorem first?_leftmost (text publicUrl : String) :
    ∃ starts, (∀ others, Successive (lead publicUrl) text.toList others ↔ others = starts) ∧
      (∀ link, first? text publicUrl = some link ↔
        ∃ before start after, starts = before ++ start :: after ∧
          BeginsWith publicUrl start link ∧
          ∀ other ∈ before, ∀ missed, ¬ BeginsWith publicUrl other missed) ∧
      (first? text publicUrl = none ↔
        ∀ start ∈ starts, ∀ missed, ¬ BeginsWith publicUrl start missed) ∧
      ∀ link, first? text publicUrl = some link → Sound publicUrl text link := by
  obtain ⟨starts, hstarts⟩ := exists_successive (lead_ne_nil publicUrl) text.toList
  refine ⟨starts, fun others => ⟨hstarts.eq, fun heq => heq ▸ hstarts⟩, fun link => ?_, ?_, ?_⟩
  · exact first?_eq_some_iff hstarts
  · exact first?_eq_none_iff hstarts
  · exact fun link => sound_of_first?

end Link

/-- A text with three addresses of files: of the first one the name cannot be read, and the second
one stands in brackets. -/
def Sample.mentions : String :=
  "http://h/%ff, (http://h/a%20b?v=1), http://h/c"

/-- **What names no file is passed over**, and the sentence around a link is left out. -/
theorem Link.first?_leftmost_mentions :
    first? Sample.mentions "http://h" = some { url := "http://h/a%20b?v=1", filename := "a b" } ∧
      Sound "http://h" Sample.mentions { url := "http://h/a%20b?v=1", filename := "a b" } := by
  have hfound : first? Sample.mentions "http://h" =
      some { url := "http://h/a%20b?v=1", filename := "a b" } := by
    decide +kernel
  obtain ⟨-, -, -, -, hsound⟩ := first?_leftmost Sample.mentions "http://h"
  exact ⟨hfound, hsound _ hfound⟩

end HostedFiles
