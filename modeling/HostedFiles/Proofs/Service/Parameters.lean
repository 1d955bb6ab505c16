import HostedFiles.Proofs.Service.Names
import HostedFiles.Proofs.Text.Ends

/-!
# Proofs/Service/Parameters — the parameters of a header

A header names a type and behind it parameters, whose values are tokens or stand between quotation
marks.  The file name is looked for without regard to quotation marks, so that a quoted text can
*hide* a parameter: it holds a semicolon, the parameter's name and an equals sign in this order.

The search takes one character after the other (`Disposition.findAfter_cons`).  It passes over texts
in which no parameter begins: over separators (`Disposition.findAfter_separators`), and over texts
without semicolons where none could begin before (`Disposition.findAfter_of_not_mem`).
-/

namespace HostedFiles.Disposition

open Text

/-! ## Headers as they are written -/

/-- The signs that may stand in a token beside letters and digits. -/
def tokenSigns : List Char :=
  "!#$%&\x27*+-.^_\x60|~".toList

/-- A character of a token. -/
def isTokenChar (c : Char) : Bool :=
  isAsciiAlphanumeric c || tokenSigns.contains c

/-- A token: at least one character, and no separators. -/
structure Token where
  chars : List Char
  ne_nil : chars ≠ []
  all : chars.all isTokenChar = true

theorem Token.of_mem (t : Token) : ∀ c ∈ t.chars, isTokenChar c = true :=
  List.all_eq_true.1 t.all

/-- Blanks, or none. -/
structure Gap where
  chars : List Char
  all : chars.all isBlank = true

theorem Gap.of_mem (gap : Gap) : ∀ c ∈ gap.chars, isBlank c = true :=
  List.all_eq_true.1 gap.all

/-- The value of a parameter: a token, or any text between quotation marks that holds neither these
nor a backslash. -/
inductive Value where
  | token (t : Token)
  | quoted (content : List Char) (plain : '"' ∉ content ∧ '\\' ∉ content)

namespace Value

/-- The text that a value stands for. -/
def text : Value → String
  | token t => String.ofList t.chars
  | quoted content _ => String.ofList content

/-- The value as it is written. -/
def written : Value → List Char
  | token t => t.chars
  | quoted content _ => '"' :: content ++ ['"']

end Value

/-- A parameter, with the blanks around its semicolon and its equals sign. -/
structure Parameter where
  beforeMark : Gap
  behindMark : Gap
  name : Token
  beforeSign : Gap
  behindSign : Gap
  value : Value

namespace Parameter

/-- Whether the parameter is the one for file names, in any case of letters. -/
def isFileName (p : Parameter) : Bool :=
  sameIgnoringCase p.name.chars parameter

/-- What is written behind the name of the parameter, with the rest of a header. -/
def behindName (p : Parameter) (rest : List Char) : List Char :=
  p.beforeSign.chars ++ '=' :: (p.behindSign.chars ++ (p.value.written ++ rest))

/-- The parameter as it is written behind another one or the type. -/
def written (p : Parameter) : List Char :=
  p.beforeMark.chars ++ ';' :: (p.behindMark.chars ++ (p.name.chars ++ p.behindName []))

theorem written_append (p : Parameter) (rest : List Char) : p.written ++ rest =
    p.beforeMark.chars ++ ';' :: (p.behindMark.chars ++ (p.name.chars ++ p.behindName rest)) := by
  simp [written, behindName]

end Parameter

/-- A header as it is written. -/
def written (type : Token) (params : List Parameter) : String :=
  String.ofList (type.chars ++ params.flatMap Parameter.written)

/-! ## Hidden parameters -/

/-- A text ends where a parameter may begin: in a semicolon, but for blanks. -/
def EndsInMark (lead : List Char) : Prop :=
  ∃ front gap, lead = front ++ ';' :: gap ∧ ∀ c ∈ gap, isBlank c = true

/-- A text begins with the name of the parameter and an equals sign, and goes on with `tail`. -/
def BeginsWithName (s tail : List Char) : Prop :=
  ∃ word gap, s = word ++ (gap ++ '=' :: tail) ∧ sameIgnoringCase word parameter = true ∧
    ∀ c ∈ gap, isBlank c = true

/-- Behind `lead` a text hides a parameter, whose value begins with `tail`. -/
structure HidesAt (content lead tail : List Char) : Prop where
  marked : EndsInMark lead
  named : ∃ s, content = lead ++ s ∧ BeginsWithName s tail

/-- A text hides a parameter. -/
def Hides (content : List Char) : Prop :=
  ∃ lead tail, HidesAt content lead tail

/-- The first parameter that a text hides is behind `lead`. -/
def HidesFirstAt (content lead tail : List Char) : Prop :=
  HidesAt content lead tail ∧
    ∀ lead' tail', HidesAt content lead' tail' → lead.length ≤ lead'.length

/-- Only a quoted value hides parameters. -/
def Value.Hides : Value → Prop
  | .token _ => False
  | .quoted content _ => Disposition.Hides content

/-! ## Characters -/

theorem of_isTokenChar {c : Char} (h : isTokenChar c = true) :
    isBlank c = false ∧ c ≠ ';' ∧ c ≠ '=' ∧ c ≠ '"' := by
  rw [isTokenChar, Bool.or_eq_true] at h
  rcases h with h | h
  · have hn := toNat_of_isAsciiAlphanumeric h
    refine ⟨?_, ?_, ?_, ?_⟩
    · simp only [isBlank, Bool.or_eq_false_iff, Bool.and_eq_false_iff, beq_eq_false_iff_ne,
        decide_eq_false_iff_not]
      omega
    all_goals
      rintro rfl
      revert hn
      decide
  · have hall : tokenSigns.all (fun c =>
        !isBlank c && c != ';' && c != '=' && c != '"') = true := by decide
    simpa [and_assoc] using List.all_eq_true.1 hall c (List.contains_iff_mem.1 h)

/-- A letter of the parameter's name, in either case, may stand in a token. -/
theorem isTokenChar_of_asciiLower_mem {c : Char} (h : asciiLower c ∈ parameter) :
    isTokenChar c = true := by
  rw [asciiLower] at h
  split at h
  next hcapital =>
    have hletter : isAsciiAlphanumeric c = true := by
      simp [isAsciiAlphanumeric, isAsciiLetter, hcapital.1, hcapital.2]
    rw [isTokenChar, hletter]
    rfl
  next =>
    have hall : parameter.all isTokenChar = true := by decide
    exact List.all_eq_true.1 hall c h

/-- So are all letters of a word that is this name. -/
theorem isTokenChar_of_mem {word : List Char} (h : sameIgnoringCase word parameter = true) :
    ∀ c ∈ word, isTokenChar c = true := by
  have hword : word.map asciiLower = parameter := by
    rw [sameIgnoringCase, beq_iff_eq] at h
    exact h.trans (by decide)
  intro c hc
  exact isTokenChar_of_asciiLower_mem (hword ▸ List.mem_map_of_mem hc)

theorem isTokenChar_of_isBlank {c : Char} (h : isBlank c = true) : isTokenChar c = false := by
  refine Bool.eq_false_iff.2 fun htoken => ?_
  rw [(of_isTokenChar htoken).1] at h
  cases h

/-- Blanks and a separator are no part of a token. -/
theorem isTokenChar_of_mem_append {gap behind : List Char} {c : Char}
    (hgap : ∀ d ∈ gap, isBlank d = true) (hc : isTokenChar c = false)
    (hbehind : ∀ d ∈ behind, isBlank d = true) :
    ∀ d ∈ gap ++ c :: behind, isTokenChar d = false := by
  intro d hd
  rcases List.mem_append.1 hd with hd | hd
  · exact isTokenChar_of_isBlank (hgap d hd)
  rcases List.mem_cons.1 hd with rfl | hd
  · exact hc
  · exact isTokenChar_of_isBlank (hbehind d hd)

/-- No token goes on where blanks or a separator begin. -/
theorem isTokenChar_of_mem_head? {gap rest : List Char} {c : Char}
    (hgap : ∀ d ∈ gap, isBlank d = true) (hc : isTokenChar c = false) :
    ∀ d ∈ (gap ++ c :: rest).head?, isTokenChar d = false := by
  intro d hd
  have hd : d ∈ (gap ++ [c]).head? := by
    cases gap <;> exact hd
  have hnil : ∀ d ∈ ([] : List Char), isBlank d = true := by simp
  exact isTokenChar_of_mem_append hgap hc hnil d (List.mem_of_head? hd)

/-- Behind blanks a text begins in its first other character. -/
theorem trimStart_append_cons {gap : List Char} {c : Char} (hgap : ∀ d ∈ gap, isBlank d = true)
    (hc : isBlank c = false) (rest : List Char) :
    trimStart isBlank (gap ++ c :: rest) = c :: rest := by
  rw [trimStart, List.dropWhile_append_of_pos hgap, List.dropWhile_cons, hc]
  rfl

/-! ## Where a parameter can begin -/

variable {before seg rest s tail lead v : List Char}

/-- A parameter can begin behind a semicolon, but for blanks. -/
theorem mayBegin_cons (c : Char) (before : List Char) :
    mayBegin (c :: before) = if isBlank c then mayBegin before else c == ';' := by
  rw [mayBegin, List.dropWhile_cons]
  cases isBlank c <;> rfl

theorem mayBegin_reverse_append (h : EndsInMark lead) (before : List Char) :
    mayBegin (lead.reverse ++ before) = true := by
  obtain ⟨front, gap, rfl, hgap⟩ := h
  have hdrop : ((front ++ ';' :: gap).reverse ++ before).dropWhile isBlank =
      ';' :: (front.reverse ++ before) := by
    rw [List.reverse_append, List.reverse_cons, List.append_assoc, List.append_assoc,
      List.dropWhile_append_of_pos fun c hc => hgap c (List.mem_reverse.1 hc)]
    rfl
  rw [mayBegin, hdrop]
  rfl

/-- **Where none could begin before, only a semicolon makes that one can.** -/
theorem endsInMark_of_mayBegin (hbefore : mayBegin before = false)
    (h : mayBegin (lead.reverse ++ before) = true) : EndsInMark lead := by
  induction lead using List.reverseRecOn with
  | nil => rw [List.reverse_nil, List.nil_append, hbefore] at h; cases h
  | append_singleton lead c ih =>
    rw [List.reverse_append, List.reverse_singleton, List.singleton_append, List.cons_append,
      mayBegin_cons] at h
    split at h
    next hblank =>
      obtain ⟨front, gap, rfl, hgap⟩ := ih h
      refine ⟨front, gap ++ [c], by simp, fun d hd => ?_⟩
      rcases List.mem_append.1 hd with hd | hd
      · exact hgap d hd
      · rwa [List.mem_singleton.1 hd]
    next => exact ⟨lead, [], by rw [beq_iff_eq.1 h], nofun⟩

theorem mayBegin_of_not_mem (hbefore : mayBegin before = false) (hseg : ';' ∉ seg) :
    mayBegin (seg.reverse ++ before) = false := by
  refine Bool.eq_false_iff.2 fun h => hseg ?_
  obtain ⟨front, gap, rfl, -⟩ := endsInMark_of_mayBegin hbefore h
  simp

/-! ## Parts of a parameter -/

/-- The name of the parameter is eight letters, whatever follows. -/
theorem afterParameter?_eq_some_iff : afterParameter? s = some tail ↔
    ∃ word, s = word ++ tail ∧ sameIgnoringCase word parameter = true := by
  constructor
  · intro h
    rw [afterParameter?] at h
    split at h
    next hsame =>
      obtain rfl := Option.some.inj h
      exact ⟨_, (List.take_append_drop _ s).symm, hsame⟩
    next => cases h
  · rintro ⟨word, rfl, hsame⟩
    have hlength : word.length = parameter.length := by
      have h := congrArg List.length (beq_iff_eq.1 hsame)
      rwa [length_asciiLowercase, length_asciiLowercase] at h
    rw [afterParameter?, ← hlength, List.take_left, List.drop_left, if_pos hsame]

/-- A value stands behind an equals sign. -/
theorem valueAfterEquals?_eq_some_iff : valueAfterEquals? s = some v ↔
    ∃ gap tail, s = gap ++ '=' :: tail ∧ (∀ c ∈ gap, isBlank c = true) ∧
      v = trimStart isBlank tail := by
  constructor
  · intro h
    have hs : s = s.takeWhile isBlank ++ trimStart isBlank s :=
      List.takeWhile_append_dropWhile.symm
    rw [valueAfterEquals?] at h
    split at h
    next rest hrest =>
      obtain rfl := Option.some.inj h
      exact ⟨_, rest, hrest ▸ hs, fun c hc => List.mem_takeWhile_imp hc, rfl⟩
    next => cases h
  · rintro ⟨gap, tail, rfl, hgap, rfl⟩
    rw [valueAfterEquals?, trimStart_append_cons hgap rfl]
    rfl

/-- The value of the parameter that begins in front of `s`, if one can begin there and does. -/
def valueAt? (before s : List Char) : Option (List Char) :=
  if mayBegin before then (afterParameter? s).bind valueAfterEquals? else none

theorem findAfter_cons (before : List Char) (c : Char) (rest : List Char) :
    findAfter before (c :: rest) = match valueAt? before (c :: rest) with
      | some value => fileName? value
      | none => findAfter (c :: before) rest := by
  rw [findAfter, valueAt?]
  cases afterParameter? (c :: rest) with
  | none => cases mayBegin before <;> rfl
  | some tail =>
    cases mayBegin before with
    | false => rfl
    | true => cases hvalue : valueAfterEquals? tail <;> simp [hvalue]

/-- **The search passes over a text in which no parameter begins.** -/
theorem findAfter_append (h : ∀ a c b, seg = a ++ c :: b →
    valueAt? (a.reverse ++ before) (c :: b ++ rest) = none) :
    findAfter before (seg ++ rest) = findAfter (seg.reverse ++ before) rest := by
  induction seg generalizing before with
  | nil => rfl
  | cons c seg ih =>
    have hfirst : valueAt? before (c :: (seg ++ rest)) = none := h [] c seg rfl
    rw [List.cons_append, findAfter_cons, hfirst, List.reverse_cons, List.append_assoc]
    exact ih fun a d b hseg => by
      have hlater := h (c :: a) d b (by rw [hseg]; rfl)
      rwa [List.reverse_cons, List.append_assoc] at hlater

theorem valueAt?_of_mayBegin_eq_false (h : mayBegin before = false) (s : List Char) :
    valueAt? before s = none := by
  rw [valueAt?, h]
  rfl

/-- No parameter begins in a separator. -/
theorem valueAt?_of_not_isTokenChar {c : Char} (h : isTokenChar c = false) (before s : List Char) :
    valueAt? before (c :: s) = none := by
  have hnone : afterParameter? (c :: s) = none := by
    refine Option.eq_none_iff_forall_ne_some.2 fun tail htail => ?_
    obtain ⟨word, hs, hsame⟩ := afterParameter?_eq_some_iff.1 htail
    cases word with
    | nil => exact absurd hsame (by decide)
    | cons d word =>
      obtain ⟨rfl, -⟩ := List.cons.inj hs
      rw [isTokenChar_of_mem hsame c List.mem_cons_self] at h
      cases h
  rw [valueAt?, hnone]
  exact ite_self none

/-- **The search passes over separators.** -/
theorem findAfter_separators (h : ∀ c ∈ seg, isTokenChar c = false) (before rest : List Char) :
    findAfter before (seg ++ rest) = findAfter (seg.reverse ++ before) rest := by
  refine findAfter_append fun a c b hseg => valueAt?_of_not_isTokenChar (h c ?_) _ _
  rw [hseg]
  simp

/-- **Where no parameter can begin the search goes on to the next semicolon.** -/
theorem findAfter_of_not_mem (hbefore : mayBegin before = false) (hseg : ';' ∉ seg)
    (rest : List Char) :
    findAfter before (seg ++ rest) = findAfter (seg.reverse ++ before) rest := by
  refine findAfter_append fun a c b heq => valueAt?_of_mayBegin_eq_false ?_ _
  exact mayBegin_of_not_mem hbefore fun hmem => hseg (heq ▸ List.mem_append_left _ hmem)

/-- **A token is the name of the parameter as a whole or not at all.** -/
theorem bind_afterParameter?_token (t : Token) (h : ∀ c ∈ rest.head?, isTokenChar c = false) :
    (afterParameter? (t.chars ++ rest)).bind valueAfterEquals? =
      if sameIgnoringCase t.chars parameter then valueAfterEquals? rest else none := by
  by_cases hsame : sameIgnoringCase t.chars parameter = true
  · rw [if_pos hsame, afterParameter?_eq_some_iff.2 ⟨_, rfl, hsame⟩, Option.bind_some]
  rw [if_neg hsame]
  refine Option.eq_none_iff_forall_ne_some.2 fun v hv => ?_
  obtain ⟨tail, htail, hvalue⟩ := Option.bind_eq_some_iff.1 hv
  obtain ⟨word, hword, hname⟩ := afterParameter?_eq_some_iff.1 htail
  obtain ⟨gap, value, rfl, hgap, -⟩ := valueAfterEquals?_eq_some_iff.1 hvalue
  rcases List.append_eq_append_iff.1 hword with ⟨more, rfl, hrest⟩ | ⟨more, hchars, hmore⟩
  · -- The token is shorter than the name, and the name would go on in a separator.
    cases more with
    | nil => exact hsame (by simpa using hname)
    | cons c more =>
      have hc := isTokenChar_of_mem hname c (by simp)
      rw [h c (by rw [hrest]; rfl)] at hc
      cases hc
  · -- The token is longer, and what is behind the name is no equals sign.
    cases more with
    | nil =>
      rw [List.append_nil] at hchars
      exact hsame (hchars ▸ hname)
    | cons c more =>
      have hc := of_isTokenChar (t.of_mem c (by rw [hchars]; simp))
      cases gap with
      | nil => exact hc.2.2.1 (List.cons.inj hmore).1.symm
      | cons d gap =>
        obtain ⟨rfl, -⟩ := List.cons.inj hmore
        rw [hgap d List.mem_cons_self] at hc
        cases hc.1

end HostedFiles.Disposition
