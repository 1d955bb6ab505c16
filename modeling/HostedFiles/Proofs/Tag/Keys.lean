import HostedFiles.Tag
import Mathlib.Computability.Language

/-!
# Proofs/Tag/Keys — the grammar of keys

A key is written from left to right: perhaps a mark, then perhaps a vendor and a slash, then a name
(`keys`).  It is checked the other way round: a mark is dropped, what is left is cut at its last
slash, and the characters of both pieces are looked at.  The cut gives back the parts that the key
was written with (`Parts.splitLast?_unmarked`), because no part holds a plus sign and no name holds
a slash.  So a key has its parts in one way only (`Parts.text_injective`), and a pair is refused for
its key if the grammar does not allow it (`judged_by_grammar`).
-/

namespace HostedFiles.Tag

open Text

variable {s : List Char} {key : String} {c : Char}

/-! ## The grammar -/

/-- A character of a name: an ASCII letter, an ASCII digit or a hyphen. -/
def InName (c : Char) : Prop :=
  c.isAlphanum = true ∨ c = '-'

/-- A character of a vendor: one of a name, or a full stop. -/
def InVendor (c : Char) : Prop :=
  InName c ∨ c = '.'

/-- The runs of a class of characters: one of them or more, and no others. -/
def run (p : Char → Prop) : Language Char :=
  {s | s ≠ [] ∧ ∀ c ∈ s, p c}

/-- What stands behind the mark of a key: perhaps a vendor and one slash, then a name. -/
def unmarkedKeys : Language Char :=
  (1 + run InVendor * {['/']}) * run InName

/-- **The grammar of keys**: perhaps one plus sign, then what stands behind it. -/
def keys : Language Char :=
  (1 + {['+']}) * unmarkedKeys

/-! ## Parts -/

/-- The parts of a key. -/
structure Parts where
  marked : Bool
  vendor : Option (List Char)
  name : List Char
  vendor_run : ∀ v ∈ vendor, v ∈ run InVendor
  name_run : name ∈ run InName

namespace Parts

/-- The key of these parts without its mark. -/
def unmarked (p : Parts) : List Char :=
  match p.vendor with
  | some vendor => vendor ++ '/' :: p.name
  | none => p.name

/-- The key of these parts. -/
def text (p : Parts) : List Char :=
  if p.marked then '+' :: p.unmarked else p.unmarked

theorem exists_unmarked_iff (marked : Bool) :
    (∃ p : Parts, p.marked = marked ∧ p.unmarked = s) ↔ s ∈ unmarkedKeys := by
  simp only [unmarkedKeys, add_mul, one_mul, mul_assoc, Language.mem_add, Language.mem_mul]
  constructor
  · rintro ⟨⟨-, vendor | vendor, name, hvendor, hname⟩, -, rfl⟩
    · exact .inl hname
    · exact .inr ⟨vendor, hvendor vendor rfl, _, ⟨['/'], rfl, name, hname, rfl⟩, rfl⟩
  · rintro (hname | ⟨vendor, hvendor, -, ⟨-, rfl, name, hname, rfl⟩, rfl⟩)
    · exact ⟨⟨marked, none, s, nofun, hname⟩, rfl, rfl⟩
    · exact ⟨⟨marked, some vendor, name, fun _ h => Option.some.inj h ▸ hvendor, hname⟩, rfl, rfl⟩

/-- **The keys of the grammar are those that have parts.** -/
theorem exists_text_iff : (∃ p : Parts, p.text = s) ↔ s ∈ keys := by
  simp only [keys, add_mul, one_mul, Language.mem_add, Language.mem_mul]
  constructor
  · rintro ⟨p, rfl⟩
    have hrest : p.unmarked ∈ unmarkedKeys := (exists_unmarked_iff p.marked).1 ⟨p, rfl, rfl⟩
    rw [text]
    split
    · exact .inr ⟨['+'], rfl, _, hrest, rfl⟩
    · exact .inl hrest
  · rintro (hrest | ⟨-, rfl, rest, hrest, rfl⟩)
    · obtain ⟨p, hmarked, rfl⟩ := (exists_unmarked_iff false).2 hrest
      exact ⟨p, by rw [text, hmarked, if_neg Bool.false_ne_true]⟩
    · obtain ⟨p, hmarked, rfl⟩ := (exists_unmarked_iff true).2 hrest
      exact ⟨p, by rw [text, hmarked, if_pos rfl, List.singleton_append]⟩

/-! ### The cut -/

theorem slash_not_mem_name (p : Parts) : '/' ∉ p.name := fun h =>
  absurd (p.name_run.2 _ h) (by unfold InName; decide)

/-- Behind the mark, a key is made of characters of vendors and a slash. -/
theorem mem_unmarked {p : Parts} (h : c ∈ p.unmarked) : InVendor c ∨ c = '/' := by
  rw [unmarked] at h
  split at h
  next vendor hvendor =>
    rcases List.mem_append.1 h with hfront | hback
    · exact .inl ((p.vendor_run vendor hvendor).2 c hfront)
    · rcases List.mem_cons.1 hback with hslash | hname
      · exact .inr hslash
      · exact .inl (.inl (p.name_run.2 c hname))
  next => exact .inl (.inl (p.name_run.2 c h))

theorem plus_not_mem_unmarked (p : Parts) : '+' ∉ p.unmarked := fun h =>
  absurd (mem_unmarked h) (by unfold InVendor InName; decide)

theorem mem_text {p : Parts} (h : c ∈ p.text) : InVendor c ∨ c = '/' ∨ c = '+' := by
  rw [text] at h
  split at h
  · rcases List.mem_cons.1 h with hmark | hrest
    · exact .inr (.inr hmark)
    · exact (mem_unmarked hrest).imp_right .inl
  · exact (mem_unmarked h).imp_right .inl

/-- Dropping the mark leaves what stands behind it, marked or not. -/
theorem dropMark_text (p : Parts) : dropMark p.text = p.unmarked := by
  rw [text]
  split
  next => rfl
  next =>
    rw [dropMark]
    rintro rest hrest
    exact absurd (hrest ▸ List.mem_cons_self) p.plus_not_mem_unmarked

/-- **The last slash stands between the vendor and the name.** -/
theorem splitLast?_unmarked (p : Parts) :
    splitLast? '/' p.unmarked = p.vendor.map fun vendor => (vendor, p.name) := by
  rw [unmarked]
  split
  next vendor hvendor => rw [splitLast?_append p.slash_not_mem_name, hvendor, Option.map_some]
  next hvendor =>
    rw [splitLast?_eq_none_iff.2 p.slash_not_mem_name, hvendor, Option.map_none]

/-- A key is marked if it begins with a plus sign. -/
theorem head?_text (p : Parts) : p.text.head? = some '+' ↔ p.marked = true := by
  rw [text]
  split
  next h => exact iff_of_true rfl h
  next h => exact iff_of_false (fun hhead => p.plus_not_mem_unmarked (List.mem_of_head? hhead)) h

/-- **A key has its parts in one way only.** -/
theorem text_injective : Function.Injective text := by
  intro p q h
  have hmarked : p.marked = q.marked := by
    rw [Bool.eq_iff_iff, ← head?_text, ← head?_text, h]
  have hunmarked : p.unmarked = q.unmarked := by rw [← dropMark_text, ← dropMark_text, h]
  have hcut := congrArg (splitLast? '/') hunmarked
  rw [splitLast?_unmarked, splitLast?_unmarked] at hcut
  obtain ⟨marked, vendor, name, _, _⟩ := p
  obtain ⟨_, vendor', name', _, _⟩ := q
  obtain rfl : marked = _ := hmarked
  -- There is a cut only with a vendor; without one the name is all that stands behind the mark.
  cases vendor with
  | none =>
    cases vendor' with
    | none => obtain rfl : name = name' := hunmarked; rfl
    | some _ => cases hcut
  | some _ =>
    cases vendor' with
    | none => cases hcut
    | some _ => cases hcut; rfl

end Parts

/-! ## The check -/

theorem isAsciiAlphanumeric_eq (c : Char) : isAsciiAlphanumeric c = c.isAlphanum := by
  have hupper : c.isUpper = ('A' ≤ c && c ≤ 'Z') := Bool.decide_and _ _
  have hletter : isAsciiLetter c = c.isAlpha := by
    change isAsciiLetter c = (c.isUpper || c.isLower)
    rw [hupper, Bool.or_comm]
    rfl
  rw [isAsciiAlphanumeric, hletter]
  rfl

theorem isNameChar_iff : isNameChar c = true ↔ InName c := by
  rw [isNameChar, isAsciiAlphanumeric_eq, Bool.or_eq_true, beq_iff_eq, InName]

theorem isVendorChar_iff : isVendorChar c = true ↔ InVendor c := by
  rw [isVendorChar, Bool.or_eq_true, ← isNameChar, isNameChar_iff, beq_iff_eq, InVendor]

/-- A part is checked character by character. -/
theorem mem_run_iff {p : Char → Prop} {check : Char → Bool} (h : ∀ {c}, check c = true ↔ p c) :
    s ∈ run p ↔ s.isEmpty = false ∧ s.all check = true := by
  rw [List.isEmpty_eq_false_iff, List.all_eq_true]
  exact and_congr_right fun _ => forall₂_congr fun _ _ => h.symm

/-- The key of some parts passes the check. -/
theorem isKey_of_text (p : Parts) (h : p.text = key.toList) : isKey key = true := by
  obtain ⟨hname, hnames⟩ := (mem_run_iff isNameChar_iff).1 p.name_run
  rw [isKey, ← h, p.dropMark_text, p.splitLast?_unmarked]
  cases hvendor : p.vendor with
  | none =>
    have hunmarked : p.unmarked = p.name := by rw [Parts.unmarked, hvendor]
    simp only [Option.map_none, hunmarked, hname, hnames, Bool.not_false, Bool.and_self]
  | some vendor =>
    obtain ⟨hfront, hfronts⟩ := (mem_run_iff isVendorChar_iff).1 (p.vendor_run vendor hvendor)
    simp only [Option.map_some, hfront, hfronts, hname, hnames, Bool.not_false, Bool.and_self]

/-- What passes the check stands behind a mark, if there is one. -/
theorem dropMark_mem_of_isKey (h : isKey key = true) : dropMark key.toList ∈ unmarkedKeys := by
  rw [← Parts.exists_unmarked_iff false]
  rw [isKey] at h
  split at h
  next vendor name hsplit =>
    simp only [Bool.and_eq_true, Bool.not_eq_true'] at h
    obtain ⟨⟨⟨hfront, hfronts⟩, hname⟩, hnames⟩ := h
    have hvendor := (mem_run_iff isVendorChar_iff).2 ⟨hfront, hfronts⟩
    exact ⟨⟨false, some vendor, name, fun _ hv => Option.some.inj hv ▸ hvendor,
      (mem_run_iff isNameChar_iff).2 ⟨hname, hnames⟩⟩, rfl, (eq_of_splitLast? hsplit).1.symm⟩
  next =>
    simp only [Bool.and_eq_true, Bool.not_eq_true'] at h
    exact ⟨⟨false, none, _, nofun, (mem_run_iff isNameChar_iff).2 h⟩, rfl, rfl⟩

/-- **A text passes the check if the grammar allows it.** -/
theorem isKey_iff : isKey key = true ↔ key.toList ∈ keys := by
  constructor
  · intro h
    have hrest := dropMark_mem_of_isKey h
    unfold dropMark at hrest
    split at hrest
    next rest hkey =>
      have hmark : ['+'] ∈ (1 + {['+']} : Language Char) := (Language.mem_add _ _ _).2 (.inr rfl)
      rw [hkey]
      exact Language.append_mem_mul hmark hrest
    next =>
      have hnone : [] ∈ (1 + {['+']} : Language Char) :=
        (Language.mem_add _ _ _).2 (.inl Language.nil_mem_one)
      exact Language.append_mem_mul hnone hrest
  · intro h
    obtain ⟨p, hp⟩ := Parts.exists_text_iff.2 h
    exact isKey_of_text p hp

/-- Two marks, two slashes, an empty part, and letters that are not ASCII are refused. -/
example : ["++k", "+", "x/y/z", "/name", "vendor/", "a.b", "é"].all (isKey · == false) = true := by
  decide

/-- A pair is refused for its key if the key does not pass the check. -/
theorem ofPair_eq_invalidKey_iff {value refused : String} :
    ofPair key value = .error (.invalidKey refused) ↔ refused = key ∧ isKey key = false := by
  unfold ofPair
  split_ifs with hkey hvalue <;> simp [hkey, eq_comm]

/-- **A pair is refused for its key exactly when the grammar does not allow the key**, whatever the
value is; the refusal names the key, and a key that is allowed has its parts in one way only. -/
theorem judged_by_grammar (key value : String) :
    ((∀ refused, ofPair key value ≠ .error (.invalidKey refused)) ↔ key.toList ∈ keys) ∧
    (∀ refused, ofPair key value = .error (.invalidKey refused) → refused = key) ∧
    (key.toList ∈ keys ↔ ∃! p : Parts, p.text = key.toList) := by
  refine ⟨?_, fun refused h => (ofPair_eq_invalidKey_iff.1 h).1, ?_⟩
  · have hpasses : (∀ refused, ofPair key value ≠ .error (.invalidKey refused)) ↔
        ¬ isKey key = false :=
      ⟨fun h hkey => h key (ofPair_eq_invalidKey_iff.2 ⟨rfl, hkey⟩),
        fun h _ hrefused => h (ofPair_eq_invalidKey_iff.1 hrefused).2⟩
    rw [hpasses, Bool.not_eq_false, isKey_iff]
  · rw [← Parts.exists_text_iff]
    refine ⟨fun ⟨p, hp⟩ => ⟨p, hp, fun q hq => Parts.text_injective (hq.trans hp.symm)⟩,
      ExistsUnique.exists⟩

end HostedFiles.Tag
