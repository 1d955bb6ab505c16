import HostedFiles.Config.Basic
import HostedFiles.Proofs.Link.Candidates
import HostedFiles.Proofs.Service.Names

/-!
# Proofs/Link/OwnLinks — the addresses of stored files, found in a text

The address of a stored file, set into a text, is found again, and its path leads back to the name
(`first?_address`): except for the full stops at the end of a name, which are written as they are
and taken for the end of a sentence.
-/

namespace HostedFiles

open Text

/-! ## Names and their ends -/

namespace FileName

/-- A name without the full stops at its end. -/
def stem (name : String) : String :=
  String.ofList (trimEnd (· == '.') name.toList)

variable {name : String}

theorem toList_stem (name : String) : (stem name).toList = trimEnd (· == '.') name.toList :=
  String.toList_ofList

/-- **A name that does not end in a full stop is its own stem**, and only such a name. -/
theorem stem_eq_self_iff : stem name = name ↔ name.toList.getLast? ≠ some '.' := by
  rw [← String.toList_inj, toList_stem]
  constructor
  · intro h hlast
    rw [← h] at hlast
    exact absurd (getLast?_trimEnd _ hlast) (by decide)
  · intro h
    refine trimEnd_eq_self fun c hc => beq_eq_false_iff_ne.2 ?_
    rintro rfl
    exact h hc

/-- Of the names that no file has, only the empty one is a stem. -/
theorem isReserved_stem : isReserved (stem name) = (stem name == "") := by
  have hne : ∀ other : String, other.toList.getLast? = some '.' → stem name ≠ other := by
    rintro other hother hstem
    rw [← hstem, toList_stem] at hother
    exact absurd (getLast?_trimEnd _ hother) (by decide)
  rw [isReserved, beq_eq_false_iff_ne.2 (hne "." rfl), beq_eq_false_iff_ne.2 (hne ".." rfl),
    Bool.or_false, Bool.or_false]

/-- The stem of a clean name is clean, if anything is left of it. -/
theorem sanitize?_stem (h : sanitize? name = some name) :
    sanitize? (stem name) = if stem name = "" then none else some (stem name) := by
  have hsafe : ∀ c ∈ (stem name).toList, isUnsafe c = false := by
    intro c hc
    rw [toList_stem] at hc
    exact (sanitize?_eq_self_iff.1 h).1 c (mem_of_mem_trimEnd hc)
  rw [sanitize?, neutralize_eq_self_iff.2 hsafe, isReserved_stem]
  simp only [beq_iff_eq]

end FileName

/-! ## How names are written -/

namespace Percent

variable {name : String}

/-- **Addresses of names hold characters that stand for themselves, and percent signs.** -/
theorem isUnreserved_of_mem_encode {c : Char} (h : c ∈ (encode name).toList) :
    isUnreserved c = true ∨ c = '%' := by
  have hdigit : ∀ n < 16, isUnreserved (hexDigit n) = true := by decide
  rw [encode, String.toList_ofList, List.mem_flatMap] at h
  obtain ⟨a, -, hc⟩ := h
  rw [encodeChar] at hc
  split at hc
  next hself => exact .inl (List.mem_singleton.1 hc ▸ hself)
  next =>
    obtain ⟨b, -, hc⟩ := List.mem_flatMap.1 hc
    have hb : b.toNat < 256 := b.toNat_lt
    simp only [encodeByte, List.mem_cons, List.not_mem_nil, or_false] at hc
    rcases hc with rfl | rfl | rfl
    · exact .inr rfl
    · exact .inl (hdigit _ (by omega))
    · exact .inl (hdigit _ (by omega))

/-- A character that stands for itself ends no link. -/
theorem isStop_of_isUnreserved {c : Char} (h : isUnreserved c = true) : Link.isStop c = false := by
  simp only [isUnreserved, Bool.or_eq_true, beq_iff_eq] at h
  rcases h with (((h | rfl) | rfl) | rfl) | rfl
  · have hn := toNat_of_isAsciiAlphanumeric h
    simp only [Link.isStop, isBlank, isControl, Bool.or_eq_false_iff, Bool.and_eq_false_iff,
      beq_eq_false_iff_ne, decide_eq_false_iff_not]
    omega
  all_goals decide

/-- Of the punctuation, the full stop alone stands for itself. -/
theorem eq_of_isPunctuation {c : Char} (h : Link.isPunctuation c = true)
    (hself : isUnreserved c = true ∨ c = '%') : c = '.' := by
  have hall : (",.;:!?'\"()[]\x7b\x7d".toList.all fun c =>
      !(isUnreserved c || c == '%') || c == '.') = true := by decide
  have hc := List.all_eq_true.1 hall c (List.contains_iff_mem.1 h)
  rcases hself with hself | rfl
  · simpa [hself] using hc
  · exact absurd hc (by decide)

theorem isStop_of_mem_encode {c : Char} (h : c ∈ (encode name).toList) :
    Link.isStop c = false := by
  rcases isUnreserved_of_mem_encode h with hself | rfl
  · exact isStop_of_isUnreserved hself
  · decide

theorem endsPath_of_mem_encode {c : Char} (h : c ∈ (encode name).toList) :
    Link.endsPath c = false := by
  refine Bool.eq_false_iff.2 fun hends => ?_
  simp only [Link.endsPath, Bool.or_eq_true, beq_iff_eq] at hends
  rcases hends with rfl | rfl <;>
    exact absurd (isUnreserved_of_mem_encode h) (by decide)

/-- A character other than the full stop is written without punctuation at its end. -/
theorem exists_encodeChar_eq {c : Char} (h : c ≠ '.') :
    ∃ front last, encodeChar c = front ++ [last] ∧ Link.isPunctuation last = false := by
  have hdigit : ∀ n < 16, Link.isPunctuation (hexDigit n) = false := by decide
  rw [encodeChar]
  split
  next hself =>
    refine ⟨[], c, rfl, Bool.eq_false_iff.2 fun hpunctuation => ?_⟩
    exact h (eq_of_isPunctuation hpunctuation (.inl hself))
  next =>
    rcases List.eq_nil_or_concat (String.utf8EncodeChar c) with hnil | ⟨bs, b, hbs⟩
    · exact absurd hnil String.utf8EncodeChar_ne_nil
    · have hb : b.toNat < 256 := b.toNat_lt
      refine ⟨bs.flatMap encodeByte ++ ['%', hexDigit (b.toNat / 16)], _, ?_,
        hdigit (b.toNat % 16) (by omega)⟩
      rw [hbs, List.concat_eq_append, List.flatMap_append, List.flatMap_singleton,
        List.append_assoc]
      rfl

/-- Written characters lose at their end what full stops there are. -/
theorem trimEnd_flatMap_encodeChar (l : List Char) :
    trimEnd Link.isPunctuation (l.flatMap encodeChar) =
      (trimEnd (· == '.') l).flatMap encodeChar := by
  induction l using List.reverseRecOn with
  | nil => rfl
  | append_singleton l c ih =>
    rw [List.flatMap_append, List.flatMap_singleton]
    by_cases hc : c = '.'
    · subst hc
      rw [trimEnd_append_of_all (t := encodeChar '.') (List.all_eq_true.1 (by decide)), ih,
        trimEnd_append_of_all (t := ['.']) (List.all_eq_true.1 (by decide))]
    · obtain ⟨front, last, hlast, hstays⟩ := exists_encodeChar_eq hc
      have hkept : trimEnd (· == '.') (l ++ [c]) = l ++ [c] :=
        trimEnd_concat (beq_eq_false_iff_ne.2 hc)
      rw [hkept, List.flatMap_append, List.flatMap_singleton, hlast, ← List.append_assoc,
        trimEnd_concat hstays]

/-- **Of a written name, the full stops at the end are what punctuation there is at its end.** -/
theorem trimEnd_encode (name : String) :
    trimEnd Link.isPunctuation (encode name).toList = (encode (FileName.stem name)).toList := by
  rw [encode, encode, String.toList_ofList, String.toList_ofList, FileName.toList_stem,
    trimEnd_flatMap_encodeChar]

end Percent

/-! ## Addresses in a text -/

namespace Link

/-- The address of a file behind a public address. -/
def address (publicUrl name : String) : String :=
  publicUrl ++ "/" ++ Percent.encode name

/-- The settings give a file this address. -/
theorem fileUrl_eq_address (c : Config) (name : String) :
    c.fileUrl name = address c.publicUrl name := rfl

variable {publicUrl name pre post root path : String}

theorem toList_address (publicUrl name : String) :
    (address publicUrl name).toList = lead publicUrl ++ (Percent.encode name).toList := by
  rw [address, lead, String.toList_append, String.toList_append]
  rfl

theorem isStop_of_mem_lead (hurl : ∀ c ∈ publicUrl.toList, isStop c = false) :
    ∀ c ∈ lead publicUrl, isStop c = false := by
  intro c hc
  rcases List.mem_append.1 hc with hc | hc
  · exact hurl c hc
  · obtain rfl := List.mem_singleton.1 hc
    decide

/-- What links begin with does not end in punctuation. -/
theorem isPunctuation_of_getLast?_lead :
    ∀ c ∈ (lead publicUrl).getLast?, isPunctuation c = false := by
  intro c hc
  rw [lead, List.getLast?_concat] at hc
  obtain rfl := Option.some.inj hc
  decide

/-- The path of an address stands for the name, if a file may have it. -/
theorem fileName?_encode (name : String) :
    fileName? (Percent.encode name).toList = FileName.sanitize? name := by
  rw [fileName?, upTo_eq_self fun c hc => Percent.endsPath_of_mem_encode hc,
    Percent.decode?_encode]
  rfl

/-- **In front of a stop, an address is a candidate but for the full stops at its end.** -/
theorem candidate_address (hurl : ∀ c ∈ publicUrl.toList, isStop c = false)
    (hpost : ∀ c ∈ post.toList.head?, isStop c = true) :
    candidate ((address publicUrl name).toList ++ post.toList) =
      lead publicUrl ++ (Percent.encode (FileName.stem name)).toList := by
  have hstop : ∀ c ∈ (address publicUrl name).toList, isStop c = false := by
    intro c hc
    rw [toList_address, List.mem_append] at hc
    exact hc.elim (isStop_of_mem_lead hurl c) Percent.isStop_of_mem_encode
  rw [candidate_append hstop hpost, toList_address, trimEnd_append isPunctuation_of_getLast?_lead,
    Percent.trimEnd_encode]

/-- What is found at the address of a stored file. -/
theorem at?_address (hurl : ∀ c ∈ publicUrl.toList, isStop c = false)
    (hname : FileName.sanitize? name = some name)
    (hpost : ∀ c ∈ post.toList.head?, isStop c = true) :
    at? (lead publicUrl) ((address publicUrl name).toList ++ post.toList) =
      if FileName.stem name = "" then none
      else some
        { url := address publicUrl (FileName.stem name), filename := FileName.stem name } := by
  rw [at?, candidate_address hurl hpost, after?_eq_some_iff.2 rfl]
  simp only [fileName?_encode, FileName.sanitize?_stem hname]
  split
  · rfl
  · rw [Option.map_some, ← toList_address, String.ofList_toList]

/-- A link with the address of a name is one of a name that does not end in a full stop. -/
theorem stem_of_first? {text : String} {link : Link} (h : first? text publicUrl = some link)
    (haddress : link.url = address publicUrl name) : FileName.stem name = name := by
  obtain ⟨_, rest, path, -, hcandidate, -, hurl⟩ := exists_of_first? h
  have hpath : candidate rest = lead publicUrl ++ (Percent.encode name).toList := by
    rw [hcandidate, ← toList_address, ← haddress, hurl, String.toList_ofList]
  have hkept : trimEnd isPunctuation (candidate rest) = candidate rest :=
    trimEnd_eq_self isPunctuation_of_getLast?_candidate
  rw [hpath, trimEnd_append isPunctuation_of_getLast?_lead, Percent.trimEnd_encode] at hkept
  have hdecode := congrArg Percent.decode? (List.append_cancel_left hkept)
  rw [Percent.decode?_encode, Percent.decode?_encode] at hdecode
  exact Option.some.inj hdecode

/-- No link begins inside a written name, which holds no slash. -/
theorem noneBegins_encode (hurl : ∀ c ∈ publicUrl.toList, isStop c = false)
    (hpost : ∀ c ∈ post.toList.head?, isStop c = true) :
    NoneBegins (lead publicUrl) (Percent.encode name).toList post.toList := by
  have hslash : '/' ∈ lead publicUrl := List.mem_append_right _ (List.mem_singleton.2 rfl)
  exact noneBegins_of_not_mem (isStop_of_mem_lead hurl) hpost hslash fun h =>
    (Service.mem_encode h).2.2 rfl

/-- The first link of a text with the address of a stored file, if none begins before that. -/
theorem first?_append_address (hurl : ∀ c ∈ publicUrl.toList, isStop c = false)
    (hname : FileName.sanitize? name = some name)
    (hpre : NoneBegins (lead publicUrl) pre.toList (address publicUrl name).toList)
    (hpost : ∀ c ∈ post.toList.head?, isStop c = true) :
    first? (pre ++ address publicUrl name ++ post) publicUrl =
      if FileName.stem name = "" then first? post publicUrl
      else some
        { url := address publicUrl (FileName.stem name), filename := FileName.stem name } := by
  have hat := at?_address hurl hname hpost
  rw [first?_eq_firstAt?, String.toList_append, String.toList_append, List.append_assoc,
    firstAt?_append (hpre.append_stop (isStop_of_mem_lead hurl) hpost)]
  rw [toList_address, List.append_assoc] at hat ⊢
  rw [firstAt?_occurrence (lead_ne_nil _), hat, firstAt?_append (noneBegins_encode hurl hpost),
    first?_eq_firstAt?]
  split <;> rfl

/-- **The address of a stored file is found in a text as the address of its stem**: it is the first
link if nothing that links begin with begins before it, and what follows it cannot belong to it.  So
the file is found under its own name exactly when that does not end in a full stop. -/
theorem first?_address (hurl : ∀ c ∈ publicUrl.toList, isStop c = false)
    (hname : Store.filePath root name = .ok path)
    (hpre : ∀ before rest, pre ++ address publicUrl name = before ++ (publicUrl ++ "/") ++ rest →
      pre.length ≤ before.length)
    (hpost : ∀ c ∈ post.toList.head?, isStop c = true) :
    first? (pre ++ address publicUrl name ++ post) publicUrl =
        (if FileName.stem name = "" then first? post publicUrl
        else some
          { url := address publicUrl (FileName.stem name), filename := FileName.stem name }) ∧
      (first? (pre ++ address publicUrl name ++ post) publicUrl =
          some { url := address publicUrl name, filename := name } ↔
        name.toList.getLast? ≠ some '.') := by
  have hstored : Store.IsStored name := by
    by_contra hnot
    rw [Store.filePath_of_not_isStored hnot] at hname
    cases hname
  have hbegins : NoneBegins (lead publicUrl) pre.toList (address publicUrl name).toList := by
    intro before rest h
    have hlength := hpre (String.ofList before) (String.ofList rest) (String.toList_inj.1 (by
      simpa [lead] using h))
    simpa only [String.length_ofList, String.length_toList] using hlength
  have hfirst := first?_append_address hurl hstored.clean hbegins hpost
  refine ⟨hfirst, fun hfound => ?_, fun hend => ?_⟩
  · exact FileName.stem_eq_self_iff.1 (stem_of_first? hfound rfl)
  · have hstem := FileName.stem_eq_self_iff.2 hend
    rw [hfirst, hstem, if_neg hstored.isName.ne_empty]

/-- **A file whose name ends in a full stop is found under another name.** -/
theorem first?_address_notes :
    Store.filePath "up" "notes." = .ok "up/notes." ∧
      address "https://host/files" "notes." = "https://host/files/notes." ∧
      first? ("see " ++ address "https://host/files" "notes." ++ " today") "https://host/files" =
        some { url := "https://host/files/notes", filename := "notes" } ∧
      first? ("see " ++ address "https://host/files" "notes." ++ " today") "https://host/files" ≠
        some { url := address "https://host/files" "notes.", filename := "notes." } := by
  have hname : Store.filePath "up" "notes." = .ok "up/notes." := by rfl
  have hurl : ∀ c ∈ "https://host/files".toList, isStop c = false := fun c hc =>
    Bool.eq_false_iff.2 (List.any_eq_false.1 (by decide) c hc)
  have hpre : ∀ before rest, "see " ++ address "https://host/files" "notes." =
      before ++ ("https://host/files" ++ "/") ++ rest → "see ".length ≤ before.length := by
    intro before rest h
    have hnone : NoneBegins "https://host/files/".toList "see ".toList
        (address "https://host/files" "notes.").toList :=
      noneBegins_of_head_not_mem (c := 'h') (by decide)
    have hlength := hnone before.toList rest.toList (by
      rw [← String.toList_append, h, String.toList_append, String.toList_append]
      rfl)
    simpa only [String.length_toList] using hlength
  have hpost : ∀ c ∈ " today".toList.head?, isStop c = true := by
    rintro c ⟨⟩
    rfl
  obtain ⟨hfound, hown⟩ := first?_address hurl hname hpre hpost
  refine ⟨hname, by rfl, ?_, fun h => hown.1 h (by rfl)⟩
  rw [hfound]
  rfl

end Link

end HostedFiles
