import HostedFiles.Service.Answer

/-!
# Proofs/Http/ErrorPages — a message on a page is a message

What is written in the place of a message holds no character that ends or begins markup, and every
ampersand in it begins an entity (`Entities.shows_encode`).  Replacing the entities from the front
on gives the message again, also where the message looks like an entity itself: its own ampersands
were written as entities, and what was replaced is not looked at again.  So whatever a failure says
stands on its page as text, and the page tells what it says (`Failure.toldPlainly`).
-/

namespace HostedFiles

namespace Entities

variable {c : Char} {s rest : List Char}

/-! ## Entities -/

/-- The characters that are not written as they are, each with its entity. -/
def table : List (Char × List Char) :=
  [('&', "&amp;".toList), ('<', "&lt;".toList), ('>', "&gt;".toList), ('"', "&quot;".toList),
   ('\x27', "&#x27;".toList), ('/', "&#x2F;".toList)]

/-- **A character is written as its entity, or as it is if it has none.** -/
theorem encodeChar_cases (c : Char) :
    (∃ entity ∈ table, entity.1 = c ∧ encodeChar c = entity.2) ∨
      c ∉ table.map Prod.fst ∧ encodeChar c = [c] := by
  by_cases hmem : c ∈ table.map Prod.fst
  · left
    simp only [table, List.map_cons, List.map_nil, List.mem_cons, List.not_mem_nil,
      or_false] at hmem
    rcases hmem with rfl | rfl | rfl | rfl | rfl | rfl <;> decide
  · right
    refine ⟨hmem, ?_⟩
    simp only [table, List.map_cons, List.map_nil, List.mem_cons, List.not_mem_nil, or_false,
      not_or] at hmem
    obtain ⟨hand, hless, hgreater, hquote, hmark, hslash⟩ := hmem
    rw [encodeChar, if_neg hand, if_neg hless, if_neg hgreater, if_neg hquote, if_neg hmark,
      if_neg hslash]

/-- An entity is an ampersand, and others behind it. -/
theorem exists_entity_eq_cons :
    ∀ entity ∈ table, ∃ name, entity.2 = '&' :: name ∧ '&' ∉ name := by
  simp only [table, List.forall_mem_cons, List.not_mem_nil, false_imp_iff, implies_true, and_true]
  exact ⟨⟨_, rfl, by decide⟩, ⟨_, rfl, by decide⟩, ⟨_, rfl, by decide⟩, ⟨_, rfl, by decide⟩,
    ⟨_, rfl, by decide⟩, ⟨_, rfl, by decide⟩⟩

/-! ## Reading -/

/-- The character whose entity a text begins with, and what follows the entity. -/
def first? (s : List Char) : Option (Char × List Char) :=
  table.findSome? fun entity => (Text.after? entity.2 s).map fun rest => (entity.1, rest)

/-- A text that begins with an entity goes on behind it. -/
theorem exists_entity_of_first? (h : first? s = some (c, rest)) :
    ∃ entity ∈ table, entity.1 = c ∧ s = entity.2 ++ rest := by
  obtain ⟨entity, hentity, hafter⟩ := List.exists_of_findSome?_eq_some h
  obtain ⟨other, hother, hpair⟩ := Option.map_eq_some_iff.1 hafter
  cases hpair
  exact ⟨entity, hentity, rfl, Text.after?_eq_some_iff.1 hother⟩

/-- What follows an entity is shorter. -/
theorem length_lt_of_first? (h : first? s = some (c, rest)) : rest.length < s.length := by
  obtain ⟨entity, hentity, -, rfl⟩ := exists_entity_of_first? h
  obtain ⟨name, hname, -⟩ := exists_entity_eq_cons entity hentity
  rw [hname, List.cons_append, List.length_cons, List.length_append]
  omega

/-- **Each entity is found for what it is**: none of them begins with another. -/
theorem first?_entity : ∀ entity ∈ table, ∀ rest,
    first? (entity.2 ++ rest) = some (entity.1, rest) := by
  simp only [table, List.forall_mem_cons, List.not_mem_nil, false_imp_iff, implies_true, and_true]
  exact ⟨fun _ => rfl, fun _ => rfl, fun _ => rfl, fun _ => rfl, fun _ => rfl, fun _ => rfl⟩

/-- Only an ampersand begins one. -/
theorem first?_cons_of_ne (h : c ≠ '&') (s : List Char) : first? (c :: s) = none := by
  cases hfirst : first? (c :: s) with
  | none => rfl
  | some pair =>
    obtain ⟨entity, hentity, -, hs⟩ := exists_entity_of_first? hfirst
    obtain ⟨name, hname, -⟩ := exists_entity_eq_cons entity hentity
    rw [hname, List.cons_append] at hs
    exact absurd (List.cons.inj hs).1 h

/-- A text with every entity replaced by its character, from the front on. -/
def decodeChars : List Char → List Char
  | [] => []
  | c :: s =>
    match _ : first? (c :: s) with
    | some (char, rest) => char :: decodeChars rest
    | none => c :: decodeChars s
termination_by s => s.length
decreasing_by
  · exact length_lt_of_first? ‹_›
  · exact Nat.lt_succ_self _

/-- A text with its entities replaced. -/
def decode (s : String) : String :=
  String.ofList (decodeChars s.toList)

/-- A text that begins with an entity is read as its character and the rest. -/
theorem decodeChars_of_first? (h : first? s = some (c, rest)) :
    decodeChars s = c :: decodeChars rest := by
  cases s with
  | nil => cases h
  | cons b s =>
    rw [decodeChars]
    split
    next char other hfirst =>
      cases h.symm.trans hfirst
      rfl
    next hfirst => cases h.symm.trans hfirst

/-- A character that begins no entity is read as it is. -/
theorem decodeChars_cons_of_ne (h : c ≠ '&') (s : List Char) :
    decodeChars (c :: s) = c :: decodeChars s := by
  have hnone := first?_cons_of_ne h s
  rw [decodeChars]
  split
  next char other hfirst => cases hnone.symm.trans hfirst
  next => rfl

/-- **A written character is read back**, whatever follows it. -/
theorem decodeChars_encodeChar (c : Char) (rest : List Char) :
    decodeChars (encodeChar c ++ rest) = c :: decodeChars rest := by
  rcases encodeChar_cases c with ⟨entity, hentity, rfl, hwritten⟩ | ⟨hplain, hwritten⟩
  · rw [hwritten]
    exact decodeChars_of_first? (first?_entity entity hentity rest)
  · have hand : c ≠ '&' := by
      rintro rfl
      exact hplain (by decide)
    rw [hwritten, List.singleton_append, decodeChars_cons_of_ne hand]

/-- **A written text is read back.** -/
theorem decode_encode (s : String) : decode (encode s) = s := by
  have hall : ∀ l : List Char, decodeChars (l.flatMap encodeChar) = l := by
    intro l
    induction l with
    | nil => rw [List.flatMap_nil, decodeChars]
    | cons c l ih => rw [List.flatMap_cons, decodeChars_encodeChar, ih]
  rw [decode, encode, String.toList_ofList, hall, String.ofList_toList]

example : encode "&lt; & <" = "&amp;lt; &amp; &lt;" := by rfl

/-! ## What is written -/

/-- A character that could end or begin markup, or a value inside it. -/
def isMarkup (c : Char) : Bool :=
  c == '<' || c == '>' || c == '"' || c == '\x27' || c == '/'

/-- Nothing is written that could be markup. -/
theorem isMarkup_of_mem_encodeChar {b : Char} (h : b ∈ encodeChar c) : isMarkup b = false := by
  have hnames : ∀ entity ∈ table, entity.2.all (!isMarkup ·) = true := by decide
  rcases encodeChar_cases c with ⟨entity, hentity, -, hwritten⟩ | ⟨hplain, hwritten⟩
  · have hname := List.all_eq_true.1 (hnames entity hentity) b (hwritten ▸ h)
    rwa [Bool.not_eq_true'] at hname
  · have hmarked : ∀ b, isMarkup b = true → b ∈ table.map Prod.fst := by
      intro b hb
      simp only [isMarkup, Bool.or_eq_true, beq_iff_eq] at hb
      rcases hb with (((rfl | rfl) | rfl) | rfl) | rfl <;> decide
    rw [hwritten, List.mem_singleton] at h
    subst h
    exact Bool.eq_false_iff.2 fun hb => hplain (hmarked b hb)

/-- An ampersand that is written begins the entity it belongs to. -/
theorem eq_entity_of_encodeChar {before after : List Char}
    (h : encodeChar c = before ++ '&' :: after) :
    before = [] ∧ ∃ entity ∈ table, entity.2 = '&' :: after := by
  rcases encodeChar_cases c with ⟨entity, hentity, -, hwritten⟩ | ⟨hplain, hwritten⟩
  · obtain ⟨name, hname, hand⟩ := exists_entity_eq_cons entity hentity
    rw [hwritten] at h
    cases before with
    | nil => exact ⟨rfl, entity, hentity, h⟩
    | cons b before =>
      rw [hname, List.cons_append] at h
      refine absurd ?_ hand
      rw [(List.cons.inj h).2]
      exact List.mem_append_right _ List.mem_cons_self
  · refine absurd ?_ hplain
    have hmem : '&' ∈ [c] := by
      rw [← hwritten, h]
      exact List.mem_append_right _ List.mem_cons_self
    rw [← List.mem_singleton.1 hmem]
    decide

/-- **Every ampersand in a written text begins an entity.** -/
theorem exists_entity_of_ampersand {before after : List Char}
    (h : s.flatMap encodeChar = before ++ '&' :: after) :
    ∃ entity ∈ table, List.IsPrefix entity.2 ('&' :: after) := by
  induction s generalizing before with
  | nil => simp at h
  | cons c s ih =>
    rw [List.flatMap_cons] at h
    rcases List.append_eq_append_iff.1 h with ⟨front, rfl, hs⟩ | ⟨back, hwritten, hback⟩
    · exact ih hs
    · cases back with
      | nil => exact ih (show s.flatMap encodeChar = [] ++ '&' :: after from hback.symm)
      | cons b back =>
        rw [List.cons_append] at hback
        obtain ⟨rfl, rfl⟩ := List.cons.inj hback
        obtain ⟨-, entity, hentity, hname⟩ := eq_entity_of_encodeChar hwritten
        refine ⟨entity, hentity, s.flatMap encodeChar, ?_⟩
        rw [hname, List.cons_append]

/-- What it means that a text shows a message on a page. -/
structure Shows (message shown : String) : Prop where
  /-- Nothing in it is markup. -/
  no_markup : ∀ c ∈ shown.toList, isMarkup c = false
  /-- An ampersand begins one of the six entities. -/
  entities : ∀ before after, shown.toList = before ++ '&' :: after →
    ∃ entity ∈ table, List.IsPrefix entity.2 ('&' :: after)
  /-- With its entities replaced it is the message. -/
  read : decode shown = message

/-- **What is written for a message shows it.** -/
theorem shows_encode (message : String) : Shows message (encode message) where
  no_markup c hc := by
    rw [encode, String.toList_ofList, List.mem_flatMap] at hc
    obtain ⟨b, -, hc⟩ := hc
    exact isMarkup_of_mem_encodeChar hc
  entities before after h := by
    rw [encode, String.toList_ofList] at h
    exact exists_entity_of_ampersand h
  read := decode_encode message

/-- A text shows one message at most. -/
theorem Shows.unique {message other shown : String} (h : Shows message shown)
    (hother : Shows other shown) : message = other :=
  h.read.symm.trans hother.read

end Entities

/-! ## Pages -/

namespace Http

variable {status : Status}

/-- A page with a heading for a status, and a paragraph, as `errorPage` has them. -/
def framed (status : Status) (paragraph : String) : String :=
  "<h1>" ++ toString status.code ++ " " ++ status.phrase ++ "</h1><p>" ++ paragraph ++ "</p>"

/-- **A paragraph without markup adds none to its page.** -/
theorem filter_isMarkup_framed {paragraph : String}
    (h : ∀ c ∈ paragraph.toList, Entities.isMarkup c = false) :
    (framed status paragraph).toList.filter Entities.isMarkup =
      (framed status "").toList.filter Entities.isMarkup := by
  have hnone : paragraph.toList.filter Entities.isMarkup = [] :=
    List.filter_eq_nil_iff.2 fun c hc => by simp [h c hc]
  simp only [framed, String.toList_append, List.filter_append, hnone]
  rfl

/-- Two pages with one heading are the same if their paragraphs are. -/
theorem framed_inj {first second : String} :
    framed status first = framed status second ↔ first = second := by
  unfold framed
  rw [String.append_left_inj, String.append_right_inj]

end Http

/-! ## Failures on pages -/

namespace Failure

/-- What it means that a failure is told to the client as plain text. -/
structure ToldPlainly (f : Failure) : Prop where
  /-- The body is a page whose paragraph shows the message for the client. -/
  shown : ∃ paragraph, f.response.body = .whole (Http.framed f.status paragraph).toUTF8 ∧
    Entities.Shows f.clientMessage paragraph
  /-- Whatever the message, the markup of the page is that of its frame. -/
  markup : ∀ page : String, f.response.body = .whole page.toUTF8 →
    page.toList.filter Entities.isMarkup =
      (Http.framed f.status "").toList.filter Entities.isMarkup
  /-- Another message with the same status has another page. -/
  distinct : ∀ g : Failure, g.status = f.status →
    (g.response.body = f.response.body ↔ g.clientMessage = f.clientMessage)

/-- The page is the body, whatever header is added. -/
theorem body_response (f : Failure) : f.response.body =
    .whole (Http.framed f.status (Entities.encode f.clientMessage)).toUTF8 := by
  rw [response]
  split <;> rfl

/-- **Every failure is told as plain text**, whatever it says. -/
theorem toldPlainly (f : Failure) : f.ToldPlainly where
  shown := ⟨_, f.body_response, Entities.shows_encode _⟩
  markup page hpage := by
    rw [body_response, Http.Body.whole.injEq] at hpage
    rw [← String.toByteArray_inj.1 hpage]
    exact Http.filter_isMarkup_framed (Entities.shows_encode _).no_markup
  distinct g hstatus := by
    rw [body_response, body_response, hstatus, Http.Body.whole.injEq]
    refine ⟨fun hbody => ?_, fun hmessage => by rw [hmessage]⟩
    have hshown := Http.framed_inj.1 (String.toByteArray_inj.1 hbody)
    exact (Entities.shows_encode _).unique (hshown ▸ Entities.shows_encode _)

end Failure

end HostedFiles
