import HostedFiles.Text.Split

/-!
# Text/Search — looking for a text in a long one

`firstAt?` asks a question where a text occurs, place by place.  `search?` gives the same answer
(`search?_eq_firstAt?`) in time that grows with the length of the text alone: it compares only where
the next characters have the fingerprint of what is looked for.  A fingerprint reads characters as
digits of a number of sixty four binary digits, so that moving on by one character is taking the
first digit away and putting a last one behind.
-/

namespace HostedFiles.Text

variable {α : Type}

/-! ## Place by place -/

/-- The first answer where `part` occurs behind the next `passed` characters.  Occurrences do not
overlap: one without an answer is passed over whole. -/
def firstAt? (part : List Char) (ask : List Char → Option α) : Nat → List Char → Option α
  | _, [] => none
  | passed + 1, _ :: s => firstAt? part ask passed s
  | 0, c :: s =>
    if (after? part (c :: s)).isSome then
      match ask (c :: s) with
      | some answer => some answer
      | none => firstAt? part ask (part.length - 1) s
    else firstAt? part ask 0 s

/-! ## Fingerprints -/

/-- The number of different digits. -/
def radix : UInt64 := 1000003

/-- A character as a digit. -/
def digit (c : Char) : UInt64 :=
  c.val.toUInt64

/-- The characters as the digits of a number. -/
def fingerprint (s : List Char) : UInt64 :=
  s.foldl (fun print c => print * radix + digit c) 0

/-- What a digit in front of as many others counts for. -/
def weight (s : List Char) : UInt64 :=
  s.foldl (fun w _ => w * radix) 1

theorem foldl_weight (w : UInt64) (s : List Char) :
    s.foldl (fun w _ => w * radix) w = w * weight s := by
  induction s generalizing w with
  | nil => simp [weight]
  | cons c s ih =>
    rw [weight, List.foldl_cons, List.foldl_cons, ih, ih (1 * radix)]
    grind

theorem weight_cons (c : Char) (s : List Char) : weight (c :: s) = radix * weight s := by
  rw [weight, List.foldl_cons, foldl_weight, UInt64.one_mul]

/-- What a digit counts for depends on the number of those behind it alone. -/
theorem weight_congr {s t : List Char} (h : s.length = t.length) : weight s = weight t := by
  induction s generalizing t with
  | nil => rw [List.length_eq_zero_iff.1 h.symm]
  | cons c s ih =>
    cases t with
    | nil => simp at h
    | cons d t => rw [weight_cons, weight_cons, ih (by simpa using h)]

theorem foldl_fingerprint (print : UInt64) (s : List Char) :
    s.foldl (fun print c => print * radix + digit c) print = print * weight s + fingerprint s := by
  induction s generalizing print with
  | nil => simp [weight, fingerprint]
  | cons c s ih =>
    rw [fingerprint, List.foldl_cons, List.foldl_cons, ih, ih (0 * radix + digit c), weight_cons]
    grind

/-- A first digit counts for its weight. -/
theorem fingerprint_cons (c : Char) (s : List Char) :
    fingerprint (c :: s) = digit c * weight s + fingerprint s := by
  rw [fingerprint, List.foldl_cons, foldl_fingerprint, UInt64.zero_mul, UInt64.zero_add]

/-- A last digit counts once, and all others move up. -/
theorem fingerprint_concat (s : List Char) (d : Char) :
    fingerprint (s ++ [d]) = fingerprint s * radix + digit d := by
  rw [fingerprint, fingerprint, List.foldl_append, List.foldl_cons, List.foldl_nil]

/-- **Moving on takes the first digit away and puts a last one behind.** -/
theorem fingerprint_move (c d : Char) (s : List Char) :
    fingerprint (s ++ [d]) = (fingerprint (c :: s) - digit c * weight s) * radix + digit d := by
  rw [fingerprint_concat, fingerprint_cons]
  grind

/-! ## In one pass -/

/-- The first answer where `part` occurs behind the next `passed` characters of `s`: `wanted` is its
fingerprint, `top` the weight of its first digit, `print` the fingerprint of as many characters of
`s`, and `ahead` what is behind those. -/
def searchFrom (part : List Char) (ask : List Char → Option α) (wanted top : UInt64) :
    (passed : Nat) → (print : UInt64) → (s ahead : List Char) → Option α
  | _, _, [], _ => none
  | passed, print, c :: s, ahead =>
    let next := match ahead with
      | d :: _ => (print - digit c * top) * radix + digit d
      | [] => print
    match passed with
    | passed + 1 => searchFrom part ask wanted top passed next s ahead.tail
    | 0 =>
      if print == wanted && (after? part (c :: s)).isSome then
        match ask (c :: s) with
        | some answer => some answer
        | none => searchFrom part ask wanted top (part.length - 1) next s ahead.tail
      else searchFrom part ask wanted top 0 next s ahead.tail

/-- The first answer where `part` occurs in a text. -/
def search? (part : List Char) (ask : List Char → Option α) (s : List Char) : Option α :=
  match part with
  | [] => firstAt? [] ask 0 s
  | c :: rest =>
    searchFrom (c :: rest) ask (fingerprint (c :: rest)) (weight rest) 0
      (fingerprint (s.take (rest.length + 1))) s (s.drop (rest.length + 1))

/-- Whether `part` occurs in a text. -/
def contains (part s : List Char) : Bool :=
  part.isEmpty || (search? part (fun _ => some ()) s).isSome

/-! ## The two agree -/

/-- With the right fingerprint of the next characters, if there are enough, one pass finds what
comparing everywhere finds. -/
theorem searchFrom_eq_firstAt? {first : Char} {rest : List Char} {ask : List Char → Option α}
    {passed : Nat} {print : UInt64} {s : List Char}
    (h : rest.length < s.length → print = fingerprint (s.take (rest.length + 1))) :
    searchFrom (first :: rest) ask (fingerprint (first :: rest)) (weight rest) passed print s
      (s.drop (rest.length + 1)) = firstAt? (first :: rest) ask passed s := by
  induction s generalizing passed print with
  | nil => cases passed <;> rfl
  | cons c s ih =>
    have hnext : rest.length < s.length →
        (match (c :: s).drop (rest.length + 1) with
          | d :: _ => (print - digit c * weight rest) * radix + digit d
          | [] => print) = fingerprint (s.take (rest.length + 1)) := by
      intro hlong
      have hdrop : s.drop rest.length = s[rest.length] :: s.drop (rest.length + 1) :=
        List.drop_eq_getElem_cons hlong
      have hweight : weight rest = weight (s.take rest.length) :=
        weight_congr (by rw [List.length_take, Nat.min_eq_left (Nat.le_of_lt hlong)])
      rw [List.drop_succ_cons, hdrop, h (Nat.lt_succ_of_lt hlong), List.take_succ_cons, hweight]
      change _ = fingerprint _
      rw [← List.take_append_getElem hlong, fingerprint_move c]
    have htail : ((c :: s).drop (rest.length + 1)).tail = s.drop (rest.length + 1) := by
      simp [List.tail_drop]
    have hprint : (after? (first :: rest) (c :: s)).isSome = true →
        print = fingerprint (first :: rest) := by
      intro hsome
      obtain ⟨tail, htail⟩ := Option.isSome_iff_exists.1 hsome
      have hs := after?_eq_some_iff.1 htail
      have hlong : rest.length < (c :: s).length := by
        rw [hs, List.length_append, List.length_cons]
        omega
      rw [h hlong, hs]
      exact congrArg fingerprint (List.take_left' rfl)
    cases passed with
    | succ passed => simp only [searchFrom, firstAt?, htail, ih hnext]
    | zero =>
      simp only [searchFrom, firstAt?, htail, ih hnext, Bool.and_eq_true, beq_iff_eq]
      by_cases hsome : (after? (first :: rest) (c :: s)).isSome = true
      · simp only [hsome, hprint hsome, and_self]
      · simp [hsome]

/-- **Searching in one pass is asking place by place.** -/
theorem search?_eq_firstAt? (part : List Char) (ask : List Char → Option α) (s : List Char) :
    search? part ask s = firstAt? part ask 0 s := by
  cases part with
  | nil => rfl
  | cons first rest => exact searchFrom_eq_firstAt? fun _ => rfl

/-- **One pass finds a part wherever it stands.** -/
theorem contains_eq_occurs (part s : List Char) : contains part s = occurs part s := by
  cases part with
  | nil => cases s <;> simp [contains, occurs, after?]
  | cons first rest =>
    simp only [contains, search?_eq_firstAt?, List.isEmpty_cons, Bool.false_or]
    induction s with
    | nil => rfl
    | cons c s ih =>
      simp only [firstAt?, occurs]
      split
      · next h => simp [h]
      · next h => simp [h, ih]

end HostedFiles.Text
