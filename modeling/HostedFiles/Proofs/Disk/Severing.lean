import HostedFiles.Proofs.Disk.Building

/-!
# Proofs/Disk/Severing — links that a path leads over

A path goes on leading where it led while directories stay, unless a link goes that it leads over:
one without which it leads nowhere (`Severs`).  Other links may go, and what comes does not matter
(`LeadsTo.of_not_severs`).
-/

namespace HostedFiles.Disk

open HostedFiles.Path (Step)

variable {d e : Disk} {path : String} {p q r : Place} {n m : Nat} {s : List Step} {target : String}
  {P : String → Prop}

/-- `Severs d e path`: between `d` and `e` a link went without which the path leads nowhere. -/
def Severs (d e : Disk) (path : String) : Prop :=
  ∃ r target, d.get? r = some (.link target) ∧ e.get? r ≠ some (.link target) ∧
    ¬ ∃ q, (d.erase r).LeadsTo path q

/-- Where links stay, no path is severed. -/
theorem not_severs (h : ∀ r target, d.get? r = some (.link target) →
    e.get? r = some (.link target)) : ¬ Severs d e path :=
  fun ⟨r, target, hlink, hgone, _⟩ => hgone (h r target hlink)

/-- The root is no link. -/
theorem ne_nil_of_link (h : d.get? r = some (.link target)) : r ≠ [] := by
  rintro rfl
  cases h

/-- What stands on a disk from which a link was erased. -/
theorem get?_erase_link {entry : Entry} (h : d.get? r = some (.link target))
    (hq : (d.erase r).get? q = some entry) : q ≠ r ∧ d.get? q = some entry := by
  rw [get?_erase d (ne_nil_of_link h)] at hq
  split at hq
  · cases hq
  next hne => exact ⟨hne, hq⟩

/-- Without a link a way over a directory leads on from the directory. -/
theorem Leads.of_erase_down {name : String} {o : Place} (hr : d.get? r = some (.link target))
    (hthere : d.get? (p ++ [name]) = some .directory)
    (h : (d.erase r).Leads n p (.name name :: s) m o) :
    (d.erase r).Leads n (p ++ [name]) s m o := by
  cases h with
  | down _ _ hrest => exact hrest
  | link _ hother _ =>
    have hstill := (get?_erase_link hr hother).2
    rw [hthere] at hstill
    cases hstill

/-- Without a link a way over another one leads on as that one says. -/
theorem Leads.of_erase_link {name other : String} {o : Place}
    (hr : d.get? r = some (.link target)) (hthere : d.get? (p ++ [name]) = some (.link other))
    (h : (d.erase r).Leads (n + 1) p (.name name :: s) m o) :
    p ++ [name] ≠ r ∧ (d.erase r).Leads n (if Path.isAbsolute other then [] else p)
      (Path.steps other ++ s) m o := by
  cases h with
  | down _ hother _ =>
    have hstill := (get?_erase_link hr hother).2
    rw [hthere] at hstill
    cases hstill
  | link _ hother hrest =>
    obtain ⟨hne, hstill⟩ := get?_erase_link hr hother
    rw [hthere] at hstill
    cases hstill
    exact ⟨hne, hrest⟩

/-- **Steps lead where they led while directories stay**, if they lead somewhere without each link
that goes. -/
theorem Leads.of_links (h : d.Leads n p s m q)
    (hdir : ∀ r, d.get? r = some .directory → e.get? r = some .directory)
    (hlink : ∀ r target, d.get? r = some (.link target) → e.get? r = some (.link target) ∨
      ∃ k o, (d.erase r).Leads n p s k o) : e.Leads n p s m q := by
  induction h with
  | stay => exact .stay
  | here _ ih =>
    refine .here (ih fun r target hr => (hlink r target hr).imp_right ?_)
    rintro ⟨k, o, hleads⟩
    cases hleads with
    | here hrest => exact ⟨k, o, hrest⟩
  | up _ ih =>
    refine .up (ih fun r target hr => (hlink r target hr).imp_right ?_)
    rintro ⟨k, o, hleads⟩
    cases hleads with
    | up hrest => exact ⟨k, o, hrest⟩
  | down hlen hthere _ ih =>
    refine .down hlen (hdir _ hthere) (ih fun r target hr => (hlink r target hr).imp_right ?_)
    rintro ⟨k, o, hleads⟩
    exact ⟨k, o, hleads.of_erase_down hr hthere⟩
  | link hlen hthere _ ih =>
    -- Without the link itself the first step finds nothing.
    have hstays := (hlink _ _ hthere).resolve_right fun ⟨k, o, hleads⟩ =>
      (hleads.of_erase_link hthere hthere).1 rfl
    refine .link hlen hstays (ih fun r target hr => (hlink r target hr).imp_right ?_)
    rintro ⟨k, o, hleads⟩
    exact ⟨k, o, (hleads.of_erase_link hr hthere).2⟩

/-- **A path leads where it led while directories stay**, unless it is severed. -/
theorem LeadsTo.of_not_severs (h : d.LeadsTo path p) (hbuilt : Built P d e)
    (hsevers : ¬ Severs d e path) : e.LeadsTo path p := by
  obtain ⟨m, hm⟩ := h
  refine ⟨m, ?_⟩
  rw [origin, hbuilt.working]
  refine hm.of_links hbuilt.kept fun r target hr => ?_
  by_cases hstays : e.get? r = some (.link target)
  · exact .inl hstays
  · refine .inr (Classical.byContradiction fun hnone => hsevers ⟨r, target, hr, hstays, ?_⟩)
    rintro ⟨o, k, hk⟩
    exact hnone ⟨k, o, hk⟩

end HostedFiles.Disk
