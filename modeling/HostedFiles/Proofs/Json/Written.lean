import HostedFiles.Json.Reader
import HostedFiles.Proofs.Text.Digits

/-!
# Proofs/Json/Written — objects that are written are read back

Texts and whole numbers are written as they are read (`reads_quote`, `reads_int`), and an object is
written field by field.  Main statement: an object of such fields is read back as the object with
these members (`ofUnits?_writtenObject`), from a text or from its bytes.
-/

namespace HostedFiles.Json

variable {name : String} {written : List Char} {value : Json}

/-! ## Numbers -/

namespace Numeral

/-- A whole number as it is written. -/
def ofInt (n : Int) : Numeral where
  negative := decide (n < 0)
  whole := Nat.toDigits 10 n.natAbs
  fraction := []
  exponent := none

/-- The characters of a whole number: a minus sign if it is negative, and digits. -/
theorem toList_toString (n : Int) :
    (toString n).toList = (if n < 0 then ['-'] else []) ++ Nat.toDigits 10 n.natAbs := by
  cases n with
  | ofNat m =>
    rw [if_neg (by simp)]
    exact Nat.toList_repr
  | negSucc m =>
    rw [if_pos (Int.negSucc_lt_zero m)]
    exact String.toList_append.trans (congrArg _ Nat.toList_repr)

/-- Digits are read up to where they end. -/
theorem readDigits_append {ds : List Char} {rest : List (Option Char)}
    (hds : ∀ c ∈ ds, Text.isAsciiDigit c = true) (hrest : readDigits rest = ([], rest)) :
    readDigits (ds.map some ++ rest) = (ds, rest) := by
  induction ds with
  | nil => exact hrest
  | cons d ds ih =>
    have hd : '0' ≤ d ∧ d ≤ '9' := by
      simpa [Text.isAsciiDigit] using hds d List.mem_cons_self
    rw [List.map_cons, List.cons_append, readDigits, if_pos hd,
      ih fun c hc => hds c (List.mem_cons_of_mem _ hc)]

/-- **The digits of a number are read as a whole part**, as only zero begins with a zero. -/
theorem readWhole?_toDigits (n : Nat) {rest : List (Option Char)}
    (hrest : readDigits rest = ([], rest)) :
    readWhole? ((Nat.toDigits 10 n).map some ++ rest) = some (Nat.toDigits 10 n, rest) := by
  rw [readWhole?, readDigits_append (fun _ => Text.isAsciiDigit_of_mem_toDigits) hrest]
  obtain ⟨d, ds, hds⟩ := List.exists_cons_of_ne_nil (@Nat.toDigits_ne_nil n 10)
  by_cases hd : d = '0'
  · have hzero : n = 0 := Text.head?_toDigits (by rw [hds, hd]; rfl)
    rw [hzero]
    rfl
  · rw [hds]
    split
    next h => cases h
    next h => exact absurd (List.cons.inj (Prod.mk.inj h).1).1 hd
    next h => exact absurd (List.cons.inj (Prod.mk.inj h).1).1 hd
    next => rfl

end Numeral

/-- What follows a value in an object: a comma, or the end of the object. -/
def Closes (rest : List (Option Char)) : Prop :=
  ∃ more, rest = some ',' :: more ∨ rest = some '\x7d' :: more

/-- Digits end where a value ends. -/
theorem Closes.readDigits {rest : List (Option Char)} (h : Closes rest) :
    Numeral.readDigits rest = ([], rest) := by
  obtain ⟨more, rfl | rfl⟩ := h <;> rfl

/-- A whole number behind its sign is read up to where it ends. -/
theorem readBehind?_toDigits (negative : Bool) (n : Nat) {rest : List (Option Char)}
    (h : Closes rest) :
    Numeral.readBehind? negative ((Nat.toDigits 10 n).map some ++ rest) =
      some (⟨negative, Nat.toDigits 10 n, [], none⟩, rest) := by
  rw [Numeral.readBehind?, Numeral.readWhole?_toDigits n h.readDigits]
  obtain ⟨more, rfl | rfl⟩ := h <;> rfl

/-- **A whole number is read up to where it ends.** -/
theorem read?_toString (n : Int) {rest : List (Option Char)} (h : Closes rest) :
    Numeral.read? ((toString n).toList.map some ++ rest) = some (.ofInt n, rest) := by
  rw [Numeral.toList_toString]
  by_cases hn : n < 0
  · rw [if_pos hn, List.singleton_append, List.map_cons, List.cons_append, Numeral.read?,
      readBehind?_toDigits true n.natAbs h, Numeral.ofInt, decide_eq_true hn]
  · have hbehind := readBehind?_toDigits false n.natAbs h
    obtain ⟨d, ds, hds⟩ := List.exists_cons_of_ne_nil (@Nat.toDigits_ne_nil n.natAbs 10)
    rw [if_neg hn, List.nil_append, Numeral.ofInt, decide_eq_false hn, ← hbehind, hds]
    have hd : d ≠ '-' := by
      rintro rfl
      have hdigit := @Text.isAsciiDigit_of_mem_toDigits n.natAbs '-' (by rw [hds]; exact .head _)
      exact absurd hdigit (by decide)
    rw [List.map_cons, List.cons_append, Numeral.read?]
    intro more hmore
    exact hd (Option.some.inj (List.cons.inj hmore).1)

/-! ## Values that are read as they are written -/

/-- A row of characters is read as a value wherever a value stands in an object. -/
def Reads (written : List Char) (value : Json) : Prop :=
  ∀ fuel rest, Closes rest → readValue (fuel + 1) (written.map some ++ rest) = some (value, rest)

/-- A text behind its opening mark is read back, whatever follows it. -/
theorem readText?_quote (s : String) (rest : List (Option Char)) :
    readText? ((s.toList.flatMap escape).map some ++ some '"' :: rest) = some (.ok s, rest) := by
  rw [readText?, readMarks_quote, Option.map_some, join_map_char]
  simp [Except.map]

/-- The characters of a written text. -/
theorem map_quote_append (s : String) (rest : List (Option Char)) :
    (quote s).map some ++ rest =
      some '"' :: ((s.toList.flatMap escape).map some ++ some '"' :: rest) := by
  simp [quote]

/-- **A text is read as it is written.** -/
theorem reads_quote (s : String) : Reads (quote s) (.text (.ok s)) := by
  intro fuel rest _
  rw [map_quote_append, readValue, skip, List.dropWhile_cons_of_neg (by decide)]
  simp only [readText?_quote, Option.map_some]

/-- What begins like a number is read as one. -/
theorem readValue_number {c : Char} (hc : c = '-' ∨ Text.isAsciiDigit c = true) (fuel : Nat)
    (rest : List (Option Char)) :
    readValue (fuel + 1) (some c :: rest) =
      (Numeral.read? (some c :: rest)).map fun r => (.number r.1, r.2) := by
  have hne : ∀ other, other ≠ '-' → Text.isAsciiDigit other = false →
      ∀ more, some c :: rest ≠ some other :: more := by
    rintro other hminus hdigit more heq
    obtain rfl : c = other := Option.some.inj (List.cons.inj heq).1
    rcases hc with rfl | hc
    · exact hminus rfl
    · exact Bool.false_ne_true (hdigit.symm.trans hc)
  have hspace : isSpace (some c) = false := by
    rcases hc with rfl | hc
    · rfl
    · simp only [isSpace, Bool.or_eq_false_iff, beq_eq_false_iff_ne, ne_eq, Option.some.injEq]
      refine ⟨⟨⟨?_, ?_⟩, ?_⟩, ?_⟩ <;> (rintro rfl; exact absurd hc (by decide))
  rw [readValue, skip, List.dropWhile_cons_of_neg (by simp [hspace])]
  split
  next heq => exact absurd heq (hne _ (by decide) (by decide) _)
  next heq => exact absurd heq (hne _ (by decide) (by decide) _)
  next heq => exact absurd heq (hne _ (by decide) (by decide) _)
  next heq => exact absurd heq (hne _ (by decide) (by decide) _)
  next heq => exact absurd heq (hne _ (by decide) (by decide) _)
  next heq => exact absurd heq (hne _ (by decide) (by decide) _)
  next => rfl

/-- **A whole number is read as it is written.** -/
theorem reads_int (n : Int) : Reads (toString n).toList (.number (.ofInt n)) := by
  intro fuel rest hrest
  have hread := read?_toString n hrest
  obtain ⟨c, cs, hcs, hc⟩ : ∃ c cs, (toString n).toList = c :: cs ∧
      (c = '-' ∨ Text.isAsciiDigit c = true) := by
    rw [Numeral.toList_toString]
    by_cases hn : n < 0
    · exact ⟨'-', _, by rw [if_pos hn]; rfl, .inl rfl⟩
    · obtain ⟨d, ds, hds⟩ := List.exists_cons_of_ne_nil (@Nat.toDigits_ne_nil n.natAbs 10)
      refine ⟨d, ds, by rw [if_neg hn, hds]; rfl, .inr ?_⟩
      exact @Text.isAsciiDigit_of_mem_toDigits n.natAbs d (by rw [hds]; exact .head _)
  rw [hcs] at hread ⊢
  rw [List.map_cons, List.cons_append] at hread ⊢
  rw [readValue_number hc, hread]
  rfl

/-! ## Objects -/

/-- A field of an object: its name, how its value is written, and the value. -/
structure Field where
  name : String
  written : List Char
  value : Json
  reads : Reads written value

/-- A field that holds a text. -/
def Field.ofText (name value : String) : Field :=
  ⟨name, quote value, .text (.ok value), reads_quote value⟩

/-- A field in writing. -/
def Field.chars (f : Field) : List Char :=
  quote f.name ++ ':' :: f.written

/-- What stands behind the first field: the others, and the end of the object. -/
def writtenBehind : List Field → List Char
  | [] => ['\x7d']
  | f :: others => ',' :: f.chars ++ writtenBehind others

/-- An object in writing. -/
def writtenObject (first : Field) (others : List Field) : List Char :=
  '\x7b' :: first.chars ++ writtenBehind others

/-- The member that a field is. -/
def Field.member (f : Field) : Except Fault String × Json :=
  (.ok f.name, f.value)

/-- A field in front of others ends where a value ends. -/
theorem closes_writtenBehind (others : List Field) (rest : List (Option Char)) :
    Closes ((writtenBehind others).map some ++ rest) := by
  cases others with
  | nil => exact ⟨_, .inr rfl⟩
  | cons => exact ⟨_, .inl rfl⟩

/-- A field is read up to where its value ends. -/
theorem readMembers_field (f : Field) (fuel : Nat) {rest : List (Option Char)} (h : Closes rest) :
    readMembers (fuel + 2) (f.chars.map some ++ rest) =
      match skip rest with
      | some ',' :: rest =>
        (readMembers (fuel + 1) rest).bind fun r => some (f.member :: r.1, r.2)
      | some '\x7d' :: rest => some ([f.member], rest)
      | _ => none := by
  have hcolon : ¬ isSpace (some ':') = true := by decide
  rw [Field.chars, List.map_append, List.append_assoc, map_quote_append, readMembers, skip,
    List.dropWhile_cons_of_neg (by decide)]
  simp only [readText?_quote, List.map_cons, List.cons_append, Option.bind_eq_bind,
    Option.bind_some, skip, List.dropWhile_cons_of_neg hcolon, f.reads fuel rest h]
  rfl

/-- **Fields are read back as members**, whatever follows the object. -/
theorem readMembers_chars (first : Field) (others : List Field) {fuel : Nat}
    (hfuel : others.length + 2 ≤ fuel) (rest : List (Option Char)) :
    readMembers fuel (first.chars.map some ++ ((writtenBehind others).map some ++ rest)) =
      some (first.member :: others.map Field.member, rest) := by
  induction others generalizing first fuel with
  | nil =>
    obtain ⟨fuel, rfl⟩ : ∃ k, fuel = k + 2 := ⟨fuel - 2, by omega⟩
    rw [readMembers_field first fuel (closes_writtenBehind [] rest)]
    rfl
  | cons second others ih =>
    obtain ⟨fuel, rfl⟩ : ∃ k, fuel = k + 2 := ⟨fuel - 2, by omega⟩
    have hcomma : ¬ isSpace (some ',') = true := by decide
    have hothers := @ih second (fuel + 1) (by rw [List.length_cons] at hfuel; omega)
    rw [readMembers_field first fuel (closes_writtenBehind (second :: others) rest)]
    simp only [writtenBehind, List.map_cons, List.map_append, List.cons_append, List.append_assoc,
      skip, List.dropWhile_cons_of_neg hcomma, hothers]
    rfl

/-- An object is at least as long as it has fields. -/
theorem length_le_writtenBehind (others : List Field) :
    others.length + 1 ≤ (writtenBehind others).length := by
  induction others with
  | nil => exact Nat.le_refl _
  | cons f others ih =>
    rw [writtenBehind, List.cons_append, List.length_cons, List.length_cons, List.length_append]
    omega

/-- An object is read back up to its end. -/
theorem readValue_writtenObject (first : Field) (others : List Field) {fuel : Nat}
    (hfuel : others.length + 2 ≤ fuel) :
    readValue (fuel + 1) ((writtenObject first others).map some) =
      some (.object (first.member :: others.map Field.member), []) := by
  have hmembers := readMembers_chars first others hfuel []
  obtain ⟨tail, htail⟩ : ∃ tail,
      first.chars.map some ++ (writtenBehind others).map some = some '"' :: tail :=
    ⟨_, by rw [Field.chars, quote]; rfl⟩
  have hquote : ¬ isSpace (some '"') = true := by decide
  rw [List.append_nil, htail] at hmembers
  rw [writtenObject, List.cons_append, List.map_cons, List.map_append, htail, readValue, skip,
    List.dropWhile_cons_of_neg (by decide)]
  simp only [skip, List.dropWhile_cons_of_neg hquote]
  -- What is read next is no closing brace, since a field begins with a quotation mark.
  change (readMembers fuel (some '"' :: tail)).map (fun r => (object r.1, r.2)) = _
  rw [hmembers]
  rfl

/-- **An object is read back from its characters.** -/
theorem ofUnits?_writtenObject (first : Field) (others : List Field) :
    ofUnits? ((writtenObject first others).map some) =
      some (.object (first.member :: others.map Field.member)) := by
  -- The fuel is the length of the text, and each field takes at least one character of it.
  have hlength := length_le_writtenBehind others
  rw [ofUnits?, readValue_writtenObject]
  · rfl
  · simp [writtenObject]
    omega

theorem ofText?_writtenObject (first : Field) (others : List Field) :
    ofText? (String.ofList (writtenObject first others)) =
      some (.object (first.member :: others.map Field.member)) := by
  rw [ofText?, String.toList_ofList, ofUnits?_writtenObject]

theorem ofBytes?_writtenObject (first : Field) (others : List Field) :
    ofBytes? (Text.bytes (String.ofList (writtenObject first others))) =
      some (.object (first.member :: others.map Field.member)) := by
  rw [ofBytes?, Text.units_bytes, String.toList_ofList, ofUnits?_writtenObject]

end HostedFiles.Json
