import HostedFiles.Rows

/-!
# Disk/Tree — values at places

A place is the names that lead to it from the root.  A tree holds at most one value at each place,
and a place can hold one whether or not the places above it do.  A walk that goes down name by name
takes the part of the tree below it along (`branch`), so that each of its steps looks among the
children of one node alone.

Main statement: a change at a place is seen at this place and below it, and nowhere else
(`get?_change`).
-/

namespace HostedFiles

/-- The names that lead to a place from the root. -/
abbrev Place := List String

/-- Values at places: perhaps one at the root, and below it what each name leads to. -/
inductive Tree (α : Type) where
  | node (value : Option α) (children : List (String × Tree α))

namespace Tree

variable {α : Type}

/-! ## Looking -/

/-- The tree without values. -/
def empty : Tree α :=
  node none []

/-- The value at the root. -/
def value : Tree α → Option α
  | node value _ => value

/-- What stands under each name. -/
def children : Tree α → List (String × Tree α)
  | node _ children => children

/-- What stands under a name. -/
def child (t : Tree α) (n : String) : Tree α :=
  (t.children.lookup n).getD empty

/-- What stands at a place and below it. -/
def branch (t : Tree α) : Place → Tree α
  | [] => t
  | n :: p => (t.child n).branch p

/-- The value at a place. -/
def get? (t : Tree α) (p : Place) : Option α :=
  (t.branch p).value

/-- Below the empty place is everything. -/
@[simp] theorem branch_nil (t : Tree α) : t.branch [] = t := rfl

/-- One name leads to a child. -/
@[simp] theorem branch_cons (t : Tree α) (n : String) (p : Place) :
    t.branch (n :: p) = (t.child n).branch p := rfl

/-- **What is below a place is reached in two parts.** -/
theorem branch_append (t : Tree α) (p q : Place) : t.branch (p ++ q) = (t.branch p).branch q := by
  induction p generalizing t with
  | nil => rfl
  | cons n p ih => exact ih (t.child n)

/-- There is nothing below nothing. -/
@[simp] theorem branch_empty (p : Place) : (empty : Tree α).branch p = empty := by
  induction p with
  | nil => rfl
  | cons n p ih => exact ih

/-- No place of the empty tree has a value. -/
@[simp] theorem get?_empty (p : Place) : (empty : Tree α).get? p = none :=
  congrArg value (branch_empty p)

/-- A value behind one name is a value of the child. -/
theorem get?_cons (t : Tree α) (n : String) (p : Place) :
    t.get? (n :: p) = (t.child n).get? p := rfl

/-! ## Changing -/

/-- Whether a tree is a bare root without a value. -/
def isEmpty : Tree α → Bool
  | node none [] => true
  | _ => false

/-- The tree with another value at the root, or none. -/
def setValue (t : Tree α) (value : Option α) : Tree α :=
  node value t.children

/-- The tree with another child under a name; an empty child is left out. -/
def setChild (t : Tree α) (n : String) (c : Tree α) : Tree α :=
  node t.value (if c.isEmpty then Rows.erase t.children n else Rows.put t.children n c)

/-- The tree with `f` done to what stands at a place and below it. -/
def change (f : Tree α → Tree α) : Tree α → Place → Tree α
  | t, [] => f t
  | t, n :: p => t.setChild n (change f (t.child n) p)

/-- The tree with a value at a place. -/
def put (t : Tree α) (p : Place) (value : α) : Tree α :=
  t.change (·.setValue (some value)) p

/-- The tree without a value at a place. -/
def erase (t : Tree α) (p : Place) : Tree α :=
  t.change (·.setValue none) p

/-- The tree without values at a place and below it. -/
def prune (t : Tree α) (p : Place) : Tree α :=
  t.change (fun _ => empty) p

/-- The tree of values given with their places; of two at one place the last counts. -/
def ofList (values : List (Place × α)) : Tree α :=
  values.foldl (fun t v => t.put v.1 v.2) empty

/-- An empty tree is the bare root. -/
theorem eq_empty_of_isEmpty {t : Tree α} (h : t.isEmpty = true) : t = empty := by
  unfold isEmpty at h
  split at h
  · rfl
  · cases h

/-- The child that was set is there, and other children are as before. -/
theorem child_setChild (t : Tree α) (n : String) (c : Tree α) (m : String) :
    (t.setChild n c).child m = if m = n then c else t.child m := by
  by_cases hm : m = n <;> by_cases hc : c.isEmpty = true <;>
    simp [setChild, child, children, hm, hc, Rows.lookup_erase, Rows.lookup_put]
  exact (eq_empty_of_isEmpty hc).symm

/-- **A change at a place is seen at this place and below it, and nowhere else.** -/
theorem get?_change (f : Tree α → Tree α) (t : Tree α) (p q : Place) :
    (t.change f p).get? q =
      if p.isPrefixOf q then (f (t.branch p)).get? (q.drop p.length)
      else t.get? q := by
  induction p generalizing t q with
  | nil => simp [change]
  | cons n p ih =>
    cases q with
    | nil => simp [change, setChild, get?, value]
    | cons m q =>
      rw [change, get?_cons, child_setChild]
      by_cases h : m = n
      · subst h
        simp [ih, get?_cons]
      · have hb : (n == m) = false := beq_eq_false_iff_ne.2 (Ne.symm h)
        simp [h, hb, get?_cons, List.isPrefixOf]

/-- With another value at the root, the places below are as before. -/
theorem get?_setValue (t : Tree α) (v : Option α) (p : Place) :
    (t.setValue v).get? p = if p = [] then v else t.get? p := by
  cases p with
  | nil => rfl
  | cons n p => simp only [get?_cons]; rfl

/-- A change of the value at a place is seen at this place alone. -/
theorem get?_change_setValue (t : Tree α) (v : Option α) (p q : Place) :
    (t.change (·.setValue v) p).get? q = if q = p then v else t.get? q := by
  rw [get?_change]
  by_cases h : p.isPrefixOf q = true
  · rw [if_pos h, get?_setValue]
    by_cases hq : q = p
    · subst hq; simp
    · obtain ⟨r, rfl⟩ := List.isPrefixOf_iff_prefix.1 h
      have hr : r ≠ [] := by rintro rfl; simp at hq
      simp [hr, get?, branch_append]
  · have hq : q ≠ p := by
      rintro rfl
      exact h (List.isPrefixOf_iff_prefix.2 (List.prefix_refl _))
    simp [h, hq]

/-- **What was put at a place is there, and other places are as before.** -/
theorem get?_put (t : Tree α) (p : Place) (v : α) (q : Place) :
    (t.put p v).get? q = if q = p then some v else t.get? q :=
  get?_change_setValue t (some v) p q

/-- **What was erased is gone, and other places are as before.** -/
theorem get?_erase (t : Tree α) (p q : Place) :
    (t.erase p).get? q = if q = p then none else t.get? q :=
  get?_change_setValue t none p q

/-- **What was at a place or below it is gone with the branch, and other places are as before.** -/
theorem get?_prune (t : Tree α) (p q : Place) :
    (t.prune p).get? q = if p.isPrefixOf q then none else t.get? q := by
  rw [prune, get?_change, get?_empty]

/-! ## All values -/

mutual

/-- All values with their places. -/
def toList : Tree α → List (Place × α)
  | node value children =>
    (value.toList.map fun v => ([], v)) ++ listOfChildren children

/-- All values of children with their places. -/
def listOfChildren : List (String × Tree α) → List (Place × α)
  | [] => []
  | (n, t) :: children => (t.toList.map fun v => (n :: v.1, v.2)) ++ listOfChildren children

end

end Tree

end HostedFiles
