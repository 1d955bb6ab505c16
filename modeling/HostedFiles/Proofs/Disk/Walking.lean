import HostedFiles.Disk.Basic

/-!
# Proofs/Disk/Walking — which directory steps lead to

A walk takes its steps one at a time and follows the links it meets.  `Leads` says of a row of steps
which directory it leads to, and how many links are left to follow.  Two theorems:

* `walkFrom_append` — a walk along steps that lead somewhere goes on from there, so a walk to a name
  in a directory is a look at what stands under that name.
* `Leads.congr` — where steps lead is decided by directories and links alone, so it stays as it is
  when a file comes, changes or goes.
-/

namespace HostedFiles.Disk

open HostedFiles.Path (Step)

variable {d e : Disk} {follow : Bool}

/-! ## One step of a walk

A position carries the part of the tree below it along, but it is determined by its place, so a walk
can be read as a walk from a place. -/

/-- The walk from the directory at a place, following at most `n` links. -/
def walkFrom (d : Disk) (follow : Bool) (n : Nat) (p : Place) (steps : List Step) :
    Except DiskError Spot :=
  d.walk follow n (.ofPlace d p) steps

/-- The walk that goes on at a link in the directory `p`; with no link left to follow it fails. -/
def walkLink (d : Disk) (follow : Bool) (p : Place) (target : String) (rest : List Step) :
    Nat → Except DiskError Spot
  | 0 => .error .tooManyLinks
  | n + 1 => d.walkFrom follow n (if Path.isAbsolute target then [] else p)
      (Path.steps target ++ rest)

/-- **A position is the one at its place.** -/
theorem ofPlace_place (here : Position d) : Position.ofPlace d here.place = here := by
  obtain ⟨back, branch, rfl⟩ := here
  simp [Position.ofPlace, Position.place]

/-- A walk with `n` links left takes over at a link by `walkLink`. -/
theorem walk_eq_walkOn (n : Nat) (here : Position d) (steps : List Step) :
    d.walk follow n here steps =
      walkOn follow (fun at' target rest => d.walkLink follow at'.place target rest n)
        here .directory steps := by
  cases n with
  | zero => rfl
  | succ n =>
    rw [walk]
    congr 1
    funext at' target rest
    rw [walkLink, walkFrom]
    split
    · rfl
    · rw [ofPlace_place]

/-- A walk without steps stays where it is. -/
@[simp] theorem walkFrom_nil (n : Nat) (p : Place) :
    d.walkFrom follow n p [] = .ok (.found p .directory) := by
  rw [walkFrom, walk_eq_walkOn, walkOn, Position.place_ofPlace]

/-- A step to where one stands changes nothing. -/
@[simp] theorem walkFrom_here (n : Nat) (p : Place) (rest : List Step) :
    d.walkFrom follow n p (.here :: rest) = d.walkFrom follow n p rest := by
  rw [walkFrom, walkFrom, walk_eq_walkOn, walk_eq_walkOn, walkOn, Entry.isDirectory, if_pos rfl]

/-- A step up goes on from the directory above. -/
@[simp] theorem walkFrom_up (n : Nat) (p : Place) (rest : List Step) :
    d.walkFrom follow n p (.up :: rest) = d.walkFrom follow n p.dropLast rest := by
  have hup : (Position.ofPlace d p).parent = .ofPlace d p.dropLast := by
    rw [← ofPlace_place (Position.parent _), Position.place_parent, Position.place_ofPlace]
  rw [walkFrom, walkFrom, walk_eq_walkOn, walk_eq_walkOn, walkOn, Entry.isDirectory, if_pos rfl,
    hup]

/-- **A step to a name is decided by what stands under it.** -/
theorem walkFrom_name (n : Nat) (p : Place) (name : String) (rest : List Step) :
    d.walkFrom follow n p (.name name :: rest) =
      if maxNameBytes < name.utf8ByteSize then .error .nameTooLong
      else match d.get? (p ++ [name]) with
        | none => if rest = [] then .ok (.vacant p name) else .error .missing
        | some (.link target) =>
          if rest = [] ∧ ¬ follow then .ok (.found (p ++ [name]) (.link target))
          else d.walkLink follow p target rest n
        | some .directory => d.walkFrom follow n (p ++ [name]) rest
        | some entry => if rest = [] then .ok (.found (p ++ [name]) entry)
          else .error .notDirectory := by
  have hchild : (Position.ofPlace d p).child name = .ofPlace d (p ++ [name]) := by
    rw [← ofPlace_place (Position.child _ _), Position.place_child, Position.place_ofPlace]
  rw [walkFrom, walk_eq_walkOn, walkOn, Entry.isDirectory, if_pos rfl, Position.value_child,
    Position.place_child, Position.place_ofPlace]
  split
  · rfl
  · cases d.get? (p ++ [name]) with
    | none => rfl
    | some entry =>
      cases entry with
      | link target => rfl
      | directory =>
        simp only [walkFrom]
        rw [hchild, walk_eq_walkOn]
      | _ =>
        cases rest with
        | nil => simp [walkOn]
        | cons step rest => simp [walkOn, Entry.isDirectory]

/-! ## Where steps lead -/

/-- `d.Leads n p steps m q`: from the directory `p`, with `n` links left to follow, the steps lead
to the directory `q`, every link followed, and leave `m` links. -/
inductive Leads (d : Disk) : Nat → Place → List Step → Nat → Place → Prop where
  | stay {n p} : Leads d n p [] n p
  | here {n p rest m q} (h : Leads d n p rest m q) : Leads d n p (.here :: rest) m q
  | up {n p rest m q} (h : Leads d n p.dropLast rest m q) : Leads d n p (.up :: rest) m q
  | down {n p name rest m q} (hlen : name.utf8ByteSize ≤ maxNameBytes)
      (hdir : d.get? (p ++ [name]) = some .directory) (h : Leads d n (p ++ [name]) rest m q) :
      Leads d n p (.name name :: rest) m q
  | link {n p name target rest m q} (hlen : name.utf8ByteSize ≤ maxNameBytes)
      (hlink : d.get? (p ++ [name]) = some (.link target))
      (h : Leads d n (if Path.isAbsolute target then [] else p) (Path.steps target ++ rest) m q) :
      Leads d (n + 1) p (.name name :: rest) m q

variable {n m : Nat} {p q : Place} {s t : List Step}

/-- **A walk along steps that lead to a directory goes on from there.**  Only a link at the very end
of a walk that does not follow it is not covered. -/
theorem walkFrom_append (h : d.Leads n p s m q) (ht : t ≠ [] ∨ follow = true) :
    d.walkFrom follow n p (s ++ t) = d.walkFrom follow m q t := by
  induction h with
  | stay => rfl
  | here _ ih => rw [List.cons_append, walkFrom_here, ih]
  | up _ ih => rw [List.cons_append, walkFrom_up, ih]
  | down hlen hdir _ ih =>
    rw [List.cons_append, walkFrom_name, if_neg (Nat.not_lt.2 hlen), hdir]
    exact ih
  | @link n p name target rest m q hlen hlink _ ih =>
    have hend : ¬ (rest ++ t = [] ∧ ¬ follow = true) := by
      rintro ⟨hnil, hf⟩
      exact ht.elim (fun ht => ht (List.append_eq_nil_iff.1 hnil).2) hf
    rw [List.cons_append, walkFrom_name, if_neg (Nat.not_lt.2 hlen), hlink]
    simp only [if_neg hend, walkLink]
    rw [← List.append_assoc, ih]

/-- Steps that lead to a directory end a walk there. -/
theorem walkFrom_of_leads (h : d.Leads n p s m q) :
    d.walkFrom true n p s = .ok (.found q .directory) := by
  have hwalk := walkFrom_append (t := []) h (.inr rfl)
  rwa [List.append_nil, walkFrom_nil] at hwalk

/-- **What a walk has behind it leads somewhere**: if a walk along `s` and then `t` ends well, then
`s` leads to a directory, and `t` is walked from there.  When `t` is empty the walk has to follow
links and to end at a directory. -/
theorem exists_leads_of_walkFrom {n : Nat} {p : Place} {s : List Step} {spot : Spot}
    (h : d.walkFrom follow n p (s ++ t) = .ok spot)
    (ht : t = [] → follow = true ∧ ∃ r, spot = .found r .directory) :
    ∃ m q, d.Leads n p s m q ∧ d.walkFrom follow m q t = .ok spot := by
  -- A step shortens the rest, and a link, which lengthens it, uses up one of those that are left.
  induction n using Nat.strongRecOn generalizing p s with
  | _ n ihn =>
    induction s generalizing p with
    | nil => exact ⟨n, p, .stay, h⟩
    | cons step s ih =>
      have hlast : s ++ t = [] → follow = true ∧ ∃ r, spot = .found r .directory :=
        fun hnil => ht (List.append_eq_nil_iff.1 hnil).2
      rw [List.cons_append] at h
      cases step with
      | here =>
        rw [walkFrom_here] at h
        obtain ⟨m, q, hs, hwalk⟩ := ih h
        exact ⟨m, q, .here hs, hwalk⟩
      | up =>
        rw [walkFrom_up] at h
        obtain ⟨m, q, hs, hwalk⟩ := ih h
        exact ⟨m, q, .up hs, hwalk⟩
      | name name =>
        rw [walkFrom_name] at h
        split at h
        · cases h
        next hlen =>
        have hlen := Nat.not_lt.1 hlen
        split at h
        next =>
          split at h
          next hnil => obtain ⟨-, r, rfl⟩ := hlast hnil; cases h
          next => cases h
        next target hlink =>
          rw [if_neg fun hend => hend.2 (hlast hend.1).1] at h
          cases n with
          | zero => cases h
          | succ n =>
            rw [walkLink, ← List.append_assoc] at h
            obtain ⟨m, q, hs, hwalk⟩ := ihn n (Nat.lt_succ_self n) h
            exact ⟨m, q, .link hlen hlink hs, hwalk⟩
        next hdir =>
          obtain ⟨m, q, hs, hwalk⟩ := ih h
          exact ⟨m, q, .down hlen hdir hs, hwalk⟩
        next entry _ hdir _ =>
          split at h
          next hnil =>
            obtain ⟨-, r, rfl⟩ := hlast hnil
            obtain rfl : entry = .directory := by injection h with h; injection h
            exact absurd rfl hdir
          next => cases h

/-- A walk that follows links and ends at a directory was led there. -/
theorem exists_leads_of_walkFrom_directory (h : d.walkFrom true n p s = .ok (.found q .directory)) :
    ∃ m, d.Leads n p s m q := by
  rw [← List.append_nil s] at h
  obtain ⟨m, r, hs, hwalk⟩ := exists_leads_of_walkFrom h fun _ => ⟨rfl, q, rfl⟩
  rw [walkFrom_nil] at hwalk
  obtain rfl : r = q := by injection hwalk with hwalk; injection hwalk
  exact ⟨m, hs⟩

/-- **Steps lead on from where others led to.** -/
theorem Leads.append {k : Nat} {r : Place} (hs : d.Leads n p s k r) (ht : d.Leads k r t m q) :
    d.Leads n p (s ++ t) m q := by
  induction hs with
  | stay => exact ht
  | here _ ih => exact .here (ih ht)
  | up _ ih => exact .up (ih ht)
  | down hlen hdir _ ih => exact .down hlen hdir (ih ht)
  | link hlen hlink _ ih =>
    refine .link hlen hlink ?_
    have h := ih ht
    rwa [List.append_assoc] at h

/-- **Where steps lead is decided by directories and links**: it is the same on a disk that has all
of them at their places. -/
theorem Leads.congr (h : d.Leads n p s m q)
    (hdir : ∀ r, d.get? r = some .directory → e.get? r = some .directory)
    (hlink : ∀ r target, d.get? r = some (.link target) → e.get? r = some (.link target)) :
    e.Leads n p s m q := by
  induction h with
  | stay => exact .stay
  | here _ ih => exact .here ih
  | up _ ih => exact .up ih
  | down hlen h _ ih => exact .down hlen (hdir _ h) ih
  | link hlen h _ ih => exact .link hlen (hlink _ _ h) ih

end HostedFiles.Disk
