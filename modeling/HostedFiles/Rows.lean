/-!
# Rows — values under keys

What stands on a disk, the values of an environment and the headers of a response are all rows of
keys with values, of which the first one of a key counts.  Putting a value under a key leaves no
other of that key behind, so looking it up finds what was put last (`lookup_put`).
-/

namespace HostedFiles.Rows

variable {α β : Type} [BEq α]

/-- The rows without those of a key. -/
def erase (rows : List (α × β)) (key : α) : List (α × β) :=
  rows.filter fun row => row.1 != key

/-- The rows with a value under a key, in place of all others under it. -/
def put (rows : List (α × β)) (key : α) (value : β) : List (α × β) :=
  (key, value) :: erase rows key

variable [LawfulBEq α]

/-- Rows chosen by their keys are found exactly under the keys chosen. -/
theorem lookup_filter_key (keep : α → Bool) (rows : List (α × β)) (key : α) :
    (rows.filter fun row => keep row.1).lookup key =
      if keep key then rows.lookup key else none := by
  induction rows with
  | nil => simp
  | cons row rows ih =>
    obtain ⟨k, value⟩ := row
    by_cases hk : key = k
    · subst hk
      cases hkeep : keep key <;> simp [hkeep, ih]
    · have hb : (key == k) = false := beq_eq_false_iff_ne.2 hk
      cases hkeep : keep k <;> simp [hkeep, List.lookup_cons, hb, ih]

/-- **Nothing is found under an erased key, and other keys are as before.** -/
theorem lookup_erase (rows : List (α × β)) (key other : α) :
    (erase rows key).lookup other = if other == key then none else rows.lookup other := by
  rw [erase, lookup_filter_key fun k => k != key]
  by_cases h : other = key <;> simp [h]

/-- **What was put under a key is found there, and other keys are as before.** -/
theorem lookup_put (rows : List (α × β)) (key other : α) (value : β) :
    (put rows key value).lookup other = if other == key then some value else rows.lookup other := by
  rw [put, List.lookup_cons]
  by_cases h : other = key
  · simp [h]
  · have hb : (other == key) = false := beq_eq_false_iff_ne.2 h
    simp [hb, lookup_erase]

end HostedFiles.Rows
