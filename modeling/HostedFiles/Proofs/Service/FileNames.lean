import HostedFiles.Proofs.Service.Parameters
import Mathlib.Data.Nat.Find

/-!
# Proofs/Service/FileNames — the file name among the parameters of a header

Until a quoted text hides a parameter, the name found is the value of the first parameter for file
names, and none if there is none; the first hidden one is taken for a parameter, and its value goes
on behind the quotation (`Disposition.find?_written`).  The proof goes along the header: the type,
the name of each parameter and its value are passed over one by one
(`Disposition.findAfter_params`).
-/

namespace HostedFiles.Disposition

open Text

variable {before rest s tail content lead v : List Char}

/-! ## Values -/

/-- What stands behind a parameter: nothing, or the semicolon of the next one. -/
def Follows (rest : List Char) : Prop :=
  rest = [] ∨ ∃ gap more, rest = gap ++ ';' :: more ∧ ∀ c ∈ gap, isBlank c = true

theorem follows_flatMap (params : List Parameter) : Follows (params.flatMap Parameter.written) := by
  cases params with
  | nil => exact .inl rfl
  | cons p params =>
    exact .inr ⟨_, _, p.written_append (params.flatMap Parameter.written), p.beforeMark.of_mem⟩

/-- No token goes on behind a parameter. -/
theorem Follows.isTokenChar_of_mem_head? (h : Follows rest) :
    ∀ c ∈ rest.head?, isTokenChar c = false := by
  rcases h with rfl | ⟨gap, more, rfl, hgap⟩
  · exact nofun
  · exact Disposition.isTokenChar_of_mem_head? hgap rfl

/-- No equals sign is next behind a parameter. -/
theorem Follows.valueAfterEquals?_eq_none (h : Follows rest) : valueAfterEquals? rest = none := by
  rcases h with rfl | ⟨gap, more, rfl, hgap⟩
  · rfl
  · rw [valueAfterEquals?, trimStart_append_cons hgap rfl]
    rfl

/-- A token ends in front of the next semicolon, but for blanks. -/
theorem Follows.upTo_token (h : Follows rest) (t : Token) :
    ∃ gap, upTo (· == ';') (t.chars ++ rest) = t.chars ++ gap ∧ ∀ c ∈ gap, isBlank c = true := by
  have hchars : ∀ c ∈ t.chars, (c == ';') = false := fun c hc =>
    beq_eq_false_iff_ne.2 (of_isTokenChar (t.of_mem c hc)).2.1
  rcases h with rfl | ⟨gap, more, rfl, hgap⟩
  · exact ⟨[], by rw [List.append_nil, upTo_eq_self hchars], nofun⟩
  · refine ⟨gap, ?_, hgap⟩
    rw [← List.append_assoc]
    refine upTo_append (fun c hc => ?_) (by rintro c ⟨⟩; rfl)
    rcases List.mem_append.1 hc with hc | hc
    · exact hchars c hc
    · refine beq_eq_false_iff_ne.2 ?_
      rintro rfl
      exact absurd (hgap _ hc) (by decide)

namespace Value

/-- No value begins in a blank. -/
theorem trimStart_written (v : Value) (rest : List Char) :
    trimStart isBlank (v.written ++ rest) = v.written ++ rest := by
  cases v with
  | quoted content plain => rfl
  | token t =>
    cases hchars : t.chars with
    | nil => exact absurd hchars t.ne_nil
    | cons c chars =>
      have hc := of_isTokenChar (t.of_mem c (hchars ▸ List.mem_cons_self))
      rw [written, hchars, trimStart, List.cons_append, List.dropWhile_cons, hc.1]
      rfl

/-- **A value is read as the text that it stands for.** -/
theorem fileName?_written (v : Value) (h : Follows rest) :
    fileName? (v.written ++ rest) = some v.text := by
  cases v with
  | quoted content plain =>
    have hwritten : (quoted content plain).written ++ rest = '"' :: (content ++ '"' :: rest) := by
      simp [written]
    rw [hwritten, fileName?, splitFirst?_append plain.1]
    rfl
  | token t =>
    obtain ⟨gap, hupTo, hgap⟩ := h.upTo_token t
    have hbare : fileName? (t.chars ++ rest) =
        some (String.ofList (trim isBlank (upTo (· == ';') (t.chars ++ rest)))) := by
      cases hchars : t.chars with
      | nil => exact absurd hchars t.ne_nil
      | cons c chars =>
        have hc := of_isTokenChar (t.of_mem c (hchars ▸ List.mem_cons_self))
        rw [List.cons_append, fileName?]
        exact fun rest heq => hc.2.2.2 (List.cons.inj heq).1
    have hlast : ∀ c ∈ t.chars.getLast?, isBlank c = false := fun c hc =>
      (of_isTokenChar (t.of_mem c (List.mem_of_getLast? hc))).1
    have hstart : trimStart isBlank (t.chars ++ gap) = t.chars ++ gap :=
      trimStart_written (.token t) gap
    rw [written, hbare, hupTo, trim, hstart, trimEnd_append_of_all hgap, trimEnd_eq_self hlast]
    rfl

end Value

/-! ## Quoted values -/

theorem valueAt?_eq_some_iff : valueAt? before s = some v ↔
    mayBegin before = true ∧ ∃ tail, BeginsWithName s tail ∧ v = trimStart isBlank tail := by
  constructor
  · intro h
    rw [valueAt?] at h
    split at h
    next hmay =>
      obtain ⟨t, ht, hvalue⟩ := Option.bind_eq_some_iff.1 h
      obtain ⟨word, rfl, hname⟩ := afterParameter?_eq_some_iff.1 ht
      obtain ⟨gap, tail, rfl, hgap, rfl⟩ := valueAfterEquals?_eq_some_iff.1 hvalue
      exact ⟨hmay, tail, ⟨word, gap, rfl, hname, hgap⟩, rfl⟩
    next => cases h
  · rintro ⟨hmay, tail, ⟨word, gap, rfl, hname, hgap⟩, rfl⟩
    rw [valueAt?, if_pos hmay, afterParameter?_eq_some_iff.2 ⟨word, rfl, hname⟩,
      Option.bind_some]
    exact valueAfterEquals?_eq_some_iff.2 ⟨gap, tail, rfl, hgap, rfl⟩

/-- A name with its equals sign does not reach over a quotation mark. -/
theorem BeginsWithName.of_append_quote (h : BeginsWithName (s ++ '"' :: rest) tail) :
    ∃ inner, BeginsWithName s inner := by
  obtain ⟨word, gap, hs, hname, hgap⟩ := h
  have hmark : '"' ∉ word ++ (gap ++ ['=']) := by
    simp only [List.mem_append, List.mem_singleton, not_or]
    refine ⟨fun hmem => ?_, fun hmem => absurd (hgap _ hmem) (by decide), by decide⟩
    exact (of_isTokenChar (isTokenChar_of_mem hname _ hmem)).2.2.2 rfl
  have hparts : s ++ '"' :: rest = (word ++ (gap ++ ['='])) ++ tail := by
    rw [hs]
    simp
  rcases List.append_eq_append_iff.1 hparts with ⟨more, hmore, hrest⟩ | ⟨inner, rfl, -⟩
  · cases more with
    | nil => exact ⟨[], word, gap, by simpa using hmore.symm, hname, hgap⟩
    | cons c more =>
      obtain ⟨rfl, -⟩ := List.cons.inj hrest
      exact absurd (hmore ▸ List.mem_append_right s List.mem_cons_self) hmark
  · exact ⟨inner, word, gap, by simp, hname, hgap⟩

theorem BeginsWithName.append (h : BeginsWithName s tail) (rest : List Char) :
    BeginsWithName (s ++ rest) (tail ++ rest) := by
  obtain ⟨word, gap, rfl, hname, hgap⟩ := h
  exact ⟨word, gap, by simp, hname, hgap⟩

/-- **A parameter that is found between quotation marks is a hidden one.** -/
theorem hidesAt_of_valueAt? {a b : List Char} {c : Char} (hbefore : mayBegin before = false)
    (hseg : '"' :: content ++ ['"'] = a ++ c :: b)
    (h : valueAt? (a.reverse ++ before) (c :: b ++ rest) = some v) :
    ∃ lead tail, a = '"' :: lead ∧ HidesAt content lead tail := by
  obtain ⟨hmay, tail, hbegins, -⟩ := valueAt?_eq_some_iff.1 h
  obtain ⟨front, gap, rfl, hgap⟩ := endsInMark_of_mayBegin hbefore hmay
  cases front with
  | nil => exact absurd (List.cons.inj hseg).1 (by decide)
  | cons d front =>
    obtain ⟨rfl, htail⟩ := List.cons.inj hseg
    have hlast : c :: b = (c :: b).dropLast ++ [(c :: b).getLast (List.cons_ne_nil c b)] :=
      (List.dropLast_append_getLast _).symm
    have hends : content ++ ['"'] = (front ++ ';' :: gap ++ (c :: b).dropLast) ++
        [(c :: b).getLast (List.cons_ne_nil c b)] := by
      rw [List.append_assoc, ← hlast]
      exact htail
    obtain ⟨hcontent, hquote⟩ := List.append_inj' hends rfl
    rw [hlast, ← hquote, List.append_assoc] at hbegins
    obtain ⟨inner, hinner⟩ := BeginsWithName.of_append_quote hbegins
    exact ⟨front ++ ';' :: gap, inner, rfl, ⟨front, gap, rfl, hgap⟩, _, hcontent, hinner⟩

/-- **The search passes over a value that hides no parameter.** -/
theorem findAfter_value (v : Value) (h : ¬ v.Hides) (hbefore : mayBegin before = false)
    (rest : List Char) :
    ∃ before', findAfter before (v.written ++ rest) = findAfter before' rest := by
  cases v with
  | token t =>
    exact ⟨_, findAfter_of_not_mem hbefore (fun hmem => (of_isTokenChar (t.of_mem _ hmem)).2.1 rfl)
      rest⟩
  | quoted content plain =>
    refine ⟨_, findAfter_append fun a c b hseg => Option.eq_none_iff_forall_ne_some.2 ?_⟩
    intro v hv
    obtain ⟨lead, tail, -, hhides⟩ := hidesAt_of_valueAt? hbefore hseg hv
    exact h ⟨lead, tail, hhides⟩

/-- **The search takes the first parameter that a quotation hides**, and reads on behind it. -/
theorem findAfter_quoted (h : HidesFirstAt content lead tail) (hbefore : mayBegin before = false)
    (rest : List Char) :
    findAfter before ('"' :: content ++ '"' :: rest) =
      fileName? (trimStart isBlank (tail ++ '"' :: rest)) := by
  obtain ⟨⟨hmark, s, rfl, hbegins⟩, hfirst⟩ := h
  have hparts : '"' :: (lead ++ s) ++ '"' :: rest = ('"' :: lead) ++ (s ++ '"' :: rest) := by simp
  rw [hparts, findAfter_append fun a c b hseg => Option.eq_none_iff_forall_ne_some.2 ?_]
  · have hmay : mayBegin (('"' :: lead).reverse ++ before) = true := by
      obtain ⟨front, gap, rfl, hgap⟩ := hmark
      exact mayBegin_reverse_append ⟨'"' :: front, gap, rfl, hgap⟩ before
    have hvalue : valueAt? (('"' :: lead).reverse ++ before) (s ++ '"' :: rest) =
        some (trimStart isBlank (tail ++ '"' :: rest)) :=
      valueAt?_eq_some_iff.2 ⟨hmay, _, hbegins.append _, rfl⟩
    cases s with
    | nil =>
      obtain ⟨word, gap, hnil, -⟩ := hbegins
      simp at hnil
    | cons c s => rw [List.cons_append, findAfter_cons, ← List.cons_append, hvalue]
  · -- A parameter in front of this one would be hidden earlier.
    intro v hv
    have hwhole : '"' :: (lead ++ s) ++ ['"'] = a ++ c :: (b ++ (s ++ ['"'])) := by
      rw [← List.cons_append, hseg]
      simp
    have hrest : c :: b ++ (s ++ '"' :: rest) = c :: (b ++ (s ++ ['"'])) ++ rest := by simp
    rw [hrest] at hv
    obtain ⟨lead', tail', rfl, hhides⟩ := hidesAt_of_valueAt? hbefore hwhole hv
    have hle := hfirst lead' tail' hhides
    have hlength := congrArg List.length hseg
    simp at hlength
    omega

/-! ## Parameters -/

theorem mayBegin_token (t : Token) (before : List Char) :
    mayBegin (t.chars.reverse ++ before) = false := by
  obtain ⟨front, c, hchars⟩ := (List.eq_nil_or_concat t.chars).resolve_left t.ne_nil
  have hc := of_isTokenChar (t.of_mem c (by rw [hchars]; simp))
  rw [hchars, List.concat_eq_append, List.reverse_append, List.reverse_singleton,
    List.singleton_append, List.cons_append, mayBegin_cons, hc.1, if_neg Bool.false_ne_true,
    beq_eq_false_iff_ne.2 hc.2.1]

/-- **The search passes over a token in front of which no parameter begins.** -/
theorem findAfter_token (t : Token) (h : valueAt? before (t.chars ++ rest) = none) :
    findAfter before (t.chars ++ rest) = findAfter (t.chars.reverse ++ before) rest := by
  refine findAfter_append fun a c b hchars => ?_
  by_cases ha : a = []
  · subst ha
    rw [hchars] at h
    exact h
  · have hpart : ∀ d ∈ a, isTokenChar d = true := fun d hd =>
      t.of_mem d (hchars ▸ List.mem_append_left _ hd)
    exact valueAt?_of_mayBegin_eq_false (mayBegin_token ⟨a, ha, List.all_eq_true.2 hpart⟩ before) _

/-- What is behind the name of a parameter is its value. -/
theorem valueAfterEquals?_behindName (p : Parameter) (rest : List Char) :
    valueAfterEquals? (p.behindName rest) = some (p.value.written ++ rest) := by
  refine valueAfterEquals?_eq_some_iff.2 ⟨_, _, rfl, p.beforeSign.of_mem, ?_⟩
  rw [trimStart, List.dropWhile_append_of_pos p.behindSign.of_mem]
  exact (p.value.trimStart_written rest).symm

/-- **The search comes to the name of a parameter**, and takes the value if it is the one for file
names. -/
theorem findAfter_written (p : Parameter) (before rest : List Char) :
    ∃ atName, findAfter before (p.written ++ rest) =
        findAfter atName (p.name.chars ++ p.behindName rest) ∧
      valueAt? atName (p.name.chars ++ p.behindName rest) =
        if p.isFileName then some (p.value.written ++ rest) else none := by
  have hmark : EndsInMark (p.beforeMark.chars ++ ';' :: p.behindMark.chars) :=
    ⟨_, _, rfl, p.behindMark.of_mem⟩
  have hpass := findAfter_separators
    (isTokenChar_of_mem_append (c := ';') p.beforeMark.of_mem rfl p.behindMark.of_mem) before
    (p.name.chars ++ p.behindName rest)
  refine ⟨(p.beforeMark.chars ++ ';' :: p.behindMark.chars).reverse ++ before, ?_, ?_⟩
  · rw [← hpass, Parameter.written_append, List.append_assoc]
    rfl
  · have hbehind : ∀ c ∈ (p.behindName rest).head?, isTokenChar c = false :=
      isTokenChar_of_mem_head? (c := '=') p.beforeSign.of_mem rfl
    rw [valueAt?, if_pos (mayBegin_reverse_append hmark before),
      bind_afterParameter?_token p.name hbehind, valueAfterEquals?_behindName]
    rfl

theorem findAfter_fileName (p : Parameter) (hname : p.isFileName = true) (before : List Char)
    (h : Follows rest) : findAfter before (p.written ++ rest) = some p.value.text := by
  obtain ⟨atName, hwritten, hvalue⟩ := findAfter_written p before rest
  rw [if_pos hname] at hvalue
  rw [hwritten]
  cases hchars : p.name.chars with
  | nil => exact absurd hchars p.name.ne_nil
  | cons c chars =>
    rw [hchars] at hvalue
    rw [List.cons_append, findAfter_cons, ← List.cons_append, hvalue]
    exact p.value.fileName?_written h

/-- The search comes to the value of any other parameter, where none can begin. -/
theorem findAfter_otherName (p : Parameter) (hname : p.isFileName = false)
    (before rest : List Char) : ∃ atValue, mayBegin atValue = false ∧
      findAfter before (p.written ++ rest) = findAfter atValue (p.value.written ++ rest) := by
  obtain ⟨atName, hwritten, hvalue⟩ := findAfter_written p before rest
  rw [if_neg (Bool.eq_false_iff.1 hname)] at hvalue
  have hmark : ';' ∉ p.beforeSign.chars ++ '=' :: p.behindSign.chars := by
    have hgap : ∀ gap : Gap, ';' ∉ gap.chars := fun gap hmem =>
      absurd (gap.of_mem _ hmem) (by decide)
    simp [hgap]
  have hbehind := mayBegin_token p.name atName
  refine ⟨_, mayBegin_of_not_mem hbehind hmark, ?_⟩
  rw [hwritten, findAfter_token p.name hvalue, ← findAfter_of_not_mem hbehind hmark,
    Parameter.behindName, List.append_assoc, List.cons_append]

/-- **The search passes over a parameter that neither is the one nor hides it.** -/
theorem findAfter_param (p : Parameter) (hname : p.isFileName = false) (hhides : ¬ p.value.Hides)
    (before rest : List Char) :
    ∃ behind, findAfter before (p.written ++ rest) = findAfter behind rest := by
  obtain ⟨atValue, hmay, hother⟩ := findAfter_otherName p hname before rest
  obtain ⟨behind, hvalue⟩ := findAfter_value p.value hhides hmay rest
  exact ⟨behind, hother.trans hvalue⟩

/-- So it does over a row of them. -/
theorem findAfter_params {front : List Parameter}
    (h : ∀ p ∈ front, p.isFileName = false ∧ ¬ p.value.Hides) (before rest : List Char) :
    ∃ behind, findAfter before (front.flatMap Parameter.written ++ rest) =
      findAfter behind rest := by
  induction front generalizing before with
  | nil => exact ⟨before, rfl⟩
  | cons p front ih =>
    obtain ⟨hname, hhides⟩ := h p List.mem_cons_self
    obtain ⟨next, hnext⟩ := findAfter_param p hname hhides before
      (front.flatMap Parameter.written ++ rest)
    obtain ⟨behind, hbehind⟩ := ih (fun q hq => h q (List.mem_cons_of_mem p hq)) next
    exact ⟨behind, by rw [List.flatMap_cons, List.append_assoc, hnext, hbehind]⟩

/-- **Where nothing is hidden the search takes the value of the first parameter for file names.** -/
theorem findAfter_flatMap {params : List Parameter}
    (h : ∀ p ∈ params.takeWhile (!·.isFileName), ¬ p.value.Hides) (before : List Char) :
    findAfter before (params.flatMap Parameter.written) =
      (params.find? (·.isFileName)).map (·.value.text) := by
  induction params generalizing before with
  | nil => rfl
  | cons p params ih =>
    rw [List.flatMap_cons]
    cases hname : p.isFileName with
    | true =>
      rw [findAfter_fileName p hname before (follows_flatMap params), List.find?_cons_of_pos hname]
      rfl
    | false =>
      rw [List.takeWhile_cons_of_pos (by rw [hname]; rfl), List.forall_mem_cons] at h
      obtain ⟨next, hnext⟩ := findAfter_param p hname h.1 before
        (params.flatMap Parameter.written)
      rw [hnext, ih h.2, List.find?_cons_of_neg (by rw [hname]; exact Bool.false_ne_true)]

/-- The search passes over the type. -/
theorem find?_eq_findAfter (type : Token) (params : List Parameter) :
    find? (written type params) =
      findAfter type.chars.reverse (params.flatMap Parameter.written) := by
  have hnone : valueAt? [] (type.chars ++ params.flatMap Parameter.written) = none := by
    have hfollows := follows_flatMap params
    rw [valueAt?, bind_afterParameter?_token type hfollows.isTokenChar_of_mem_head?,
      hfollows.valueAfterEquals?_eq_none, ite_self, ite_self]
  rw [find?, written, String.toList_ofList, findAfter_token type hnone, List.append_nil]

/-! ## Headers -/

/-- A text that hides parameters hides one first. -/
theorem exists_hidesFirstAt {content : List Char} (h : Hides content) :
    ∃ lead tail, HidesFirstAt content lead tail := by
  have hlength : ∃ n, ∃ lead tail, HidesAt content lead tail ∧ lead.length = n := by
    obtain ⟨lead, tail, hat⟩ := h
    exact ⟨lead.length, lead, tail, hat, rfl⟩
  classical
  obtain ⟨lead, tail, hat, hleast⟩ := Nat.find_spec hlength
  refine ⟨lead, tail, hat, fun lead' tail' hat' => ?_⟩
  rw [hleast]
  exact Nat.find_min' hlength ⟨lead', tail', hat', rfl⟩

/-- **What is found in a header**: as long as no parameter hides one, the value of the first
parameter for file names, or nothing if there is none; otherwise the value of the first hidden one
(`exists_hidesFirstAt`), which goes on behind the quotation. -/
theorem find?_written (type : Token) (params : List Parameter) :
    ((∀ p ∈ params.takeWhile (!·.isFileName), ¬ p.value.Hides) →
      find? (written type params) = (params.find? (·.isFileName)).map (·.value.text)) ∧
    ∀ front p after content plain lead tail, params = front ++ p :: after →
      (∀ q ∈ front, q.isFileName = false ∧ ¬ q.value.Hides) → p.isFileName = false →
      p.value = .quoted content plain → HidesFirstAt content lead tail →
      find? (written type params) =
        fileName? (trimStart isBlank (tail ++ '"' :: after.flatMap Parameter.written)) := by
  rw [find?_eq_findAfter]
  refine ⟨fun hhides => findAfter_flatMap hhides _, ?_⟩
  rintro front p after content plain lead tail rfl hfront hname hvalue hfirst
  obtain ⟨atParameter, hpassed⟩ := findAfter_params hfront type.chars.reverse
    (p.written ++ after.flatMap Parameter.written)
  obtain ⟨atValue, hmay, hother⟩ := findAfter_otherName p hname atParameter
    (after.flatMap Parameter.written)
  rw [List.flatMap_append, List.flatMap_cons, hpassed, hother, hvalue,
    ← findAfter_quoted hfirst hmay]
  simp [Value.written]

/-! ## A hidden file name -/

/-- A parameter as it is mostly written, with a blank behind the semicolon. -/
def Parameter.usual (name : Token) (value : Value) : Parameter where
  beforeMark := ⟨[], rfl⟩
  behindMark := ⟨[' '], by decide⟩
  name := name
  beforeSign := ⟨[], rfl⟩
  behindSign := ⟨[], rfl⟩
  value := value

/-- The type that uploads mostly name. -/
def attachment : Token := ⟨"attachment".toList, by decide, by decide⟩

/-- The parameters of `attachment; x="a;filename=b"; filename=c.txt`. -/
def hidingParams : List Parameter :=
  [.usual ⟨['x'], by decide, by decide⟩ (.quoted "a;filename=b".toList (by decide)),
   .usual ⟨parameter, by decide, by decide⟩ (.token ⟨"c.txt".toList, by decide, by decide⟩)]

theorem hidesFirstAt_sample : HidesFirstAt "a;filename=b".toList "a;".toList ['b'] := by
  refine ⟨⟨⟨['a'], [], rfl, nofun⟩, _, rfl, parameter, [], rfl, by decide, nofun⟩, ?_⟩
  rintro lead tail ⟨⟨front, gap, rfl, -⟩, s, hs, -⟩
  cases front with
  | nil => exact absurd (List.cons.inj hs).1 (by decide)
  | cons c front =>
    simp
    omega

/-- The first parameter for file names gives `c.txt`, but the quotation in front of it hides one
that gives `b` and the quotation mark; without the quotation nothing is hidden. -/
theorem find?_hiding :
    (hidingParams.find? (·.isFileName)).map (·.value.text) = some "c.txt" ∧
    find? "attachment; x=\"a;filename=b\"; filename=c.txt" = some "b\"" ∧
    find? "attachment; filename=c.txt" = some "c.txt" := by
  have hnone : hidingParams.tail.takeWhile (!·.isFileName) = [] := rfl
  exact ⟨by decide,
    (find?_written attachment hidingParams).2 [] _ _ _ _ _ _ rfl nofun (by decide) rfl
      hidesFirstAt_sample,
    (find?_written attachment hidingParams.tail).1 (hnone ▸ nofun)⟩

end HostedFiles.Disposition
