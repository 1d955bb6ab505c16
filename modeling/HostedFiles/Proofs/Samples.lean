import HostedFiles.Proofs.Disk.Building
import HostedFiles.Proofs.Disk.Directories
import HostedFiles.Proofs.Store.Names
import HostedFiles.Service.Upload

/-!
# Proofs/Samples — a small service on small disks

What is proved of all disks, settings and requests is tried on these: a service that takes uploads
without a credential and one request to it, its disk, a disk whose root is spelled with many slashes
at its end, and a disk on which the way to the root leads over a link in the root.
-/

namespace HostedFiles.Sample

open Http

/-! ## The service -/

/-- Settings that pass every check. -/
def settings : Config where
  serverPort := 8080
  environment := "development"
  storagePath := "up"
  mountPath := "/upload"
  publicHost := "files.test"
  publicPort := 0
  publicSsl := true
  authenticate := false
  requireSsl := true
  tokenSecret := "0123456789abcdef0123456789abcdef"
  tokenIssuer := "filehost"
  tokenLifetime := .ofSeconds 3600
  leastLifetime := .ofSeconds 60
  mostLifetime := .ofSeconds 86400
  maxUploadBytes := 10485760

/-- What one request takes from outside. -/
def fresh : Fresh where
  now := ⟨0, 0⟩
  name := "abcdefghijklmnop"
  mark := "01234567-89ab-cdef-0123-456789abcdef"

/-- A request to upload a short text. -/
def request : Request where
  method := "POST"
  path := "/upload"
  query := none
  headers := [("content-type", Text.bytes "text/plain"),
    ("content-disposition", Text.bytes "filename=n.txt")]
  chunks := [(Text.bytes "hi").toByteArray]
  failure := none

/-! ## Its disk -/

/-- A disk with the root and the directory of unfinished uploads. -/
def disk : Disk where
  entries := .ofList [(["up"], .directory), (["up", ".partial"], .directory)]
  working := []

/-- Under the root stands the directory of unfinished uploads alone. -/
theorem get?_disk (name : String) :
    disk.get? (["up"] ++ [name]) = if name = ".partial" then some .directory else none := by
  simp [disk, Disk.get?, Tree.ofList, Tree.get?_put]

/-- On the disk are only directories, and few of them. -/
theorem of_get?_disk {r : Place} {entry : Entry} (h : disk.get? r = some entry) :
    entry = .directory ∧ (r = [] ∨ r = ["up"] ∨ r = ["up", ".partial"]) := by
  by_cases hr : r = []
  · subst hr
    cases h
    exact ⟨rfl, .inl rfl⟩
  simp only [disk, Disk.get?, if_neg hr, Tree.ofList, List.foldl_cons, List.foldl_nil,
    Tree.get?_put, Tree.get?_empty] at h
  split at h
  next heq => cases h; exact ⟨rfl, .inr (.inr heq)⟩
  split at h
  next heq => cases h; exact ⟨rfl, .inr (.inl heq)⟩
  · cases h

theorem linkFree_disk : disk.LinkFree := by
  intro r target hlink
  cases (of_get?_disk hlink).1

/-- The path of the root leads to it. -/
theorem disk_root : disk.LeadsTo "up" ["up"] :=
  ⟨_, .down (by decide) rfl .stay⟩

/-- The root has its directory of unfinished uploads. -/
theorem disk_unfinished : disk.LeadsTo (Store.partialPath "up") ["up", ".partial"] :=
  disk_root.join Store.isName_partialName (by decide) rfl

/-! ## A root with many slashes -/

/-- A path to the root with more than `n` slashes at its end. -/
def slashed (n : Nat) : String :=
  String.ofList ('u' :: List.replicate (n + 1) '/')

/-- A disk with the root, and a directory of unfinished uploads in it. -/
def deepDisk : Disk where
  entries := .ofList [(["u"], .directory), (["u", ".partial"], .directory)]
  working := []

theorem get?_deepDisk (name : String) :
    deepDisk.get? (["u"] ++ [name]) = if name = ".partial" then some .directory else none := by
  simp [deepDisk, Disk.get?, Tree.ofList, Tree.get?_put]

section Slashed

variable (n : Nat) (name : String)

/-- The path ends in a slash. -/
theorem getLast?_slashed : (slashed n).toList.getLast? = some '/' := by
  rw [slashed, String.toList_ofList, List.getLast?_cons, List.getLast?_replicate]
  rfl

theorem slashed_ne_empty : slashed n ≠ "" := by
  intro hempty
  have hlast := getLast?_slashed n
  rw [hempty] at hlast
  cases hlast

/-- The path is as long as it looks. -/
theorem utf8ByteSize_slashed : (slashed n).utf8ByteSize = n + 2 := by
  have hsigns : 'u'.utf8Size = 1 ∧ '/'.utf8Size = 1 := by decide
  rw [slashed, Text.utf8ByteSize_ofList_cons, Text.utf8ByteSize_replicate, hsigns.1, hsigns.2]
  omega

/-- So is a name joined to it. -/
theorem utf8ByteSize_join_slashed :
    (Path.join (slashed n) name).utf8ByteSize = n + 2 + name.utf8ByteSize := by
  rw [Path.join, if_neg (slashed_ne_empty n), if_pos (getLast?_slashed n),
    String.utf8ByteSize_append, utf8ByteSize_slashed]

/-- Only its length can be at fault in a path that is joined to it. -/
theorem pathFault?_join_slashed (hname : Path.IsName name) (hnul : '\x00' ∉ name.toList) :
    Disk.pathFault? (Path.join (slashed n) name) =
      if Disk.maxPathBytes ≤ n + 2 + name.utf8ByteSize then some .nameTooLong else none := by
  have hfree : '\x00' ∉ (Path.join (slashed n) name).toList := by
    intro hmem
    rcases Path.mem_join hmem with hpath | hslash | hin
    · rw [slashed, String.toList_ofList, List.mem_cons, List.mem_replicate] at hpath
      rcases hpath with hu | ⟨-, hslash⟩
      · cases hu
      · cases hslash
    · cases hslash
    · exact hnul hin
  rw [Disk.pathFault?, if_neg (fun h => hfree (List.contains_iff_mem.1 h)),
    if_neg (Path.join_ne_empty hname _), utf8ByteSize_join_slashed]

/-- Slashes have nothing between them. -/
theorem splitAll_slashes :
    Text.splitAll '/' (List.replicate n '/') = List.replicate (n + 1) [] := by
  induction n with
  | zero => rfl
  | succ n ih =>
    rw [List.replicate_succ, Text.splitAll, if_pos rfl, ih]
    rfl

/-- So a path with slashes at its end has one piece that counts. -/
theorem pieces_slashed : Path.pieces (slashed n) = ['u'] :: List.replicate (n + 1) [] := by
  rw [Path.pieces, slashed, String.toList_ofList, List.replicate_succ, ← splitAll_slashes]
  exact @Text.splitAll_append '/' ['u'] _ (by decide)

/-- The path leads to the root. -/
theorem leadsTo_slashed : deepDisk.LeadsTo (slashed n) ["u"] := by
  have hsteps : Path.steps (slashed n) = [.name "u", .here] := by
    rw [Path.steps, pieces_slashed, if_pos (getLast?_slashed n), List.filterMap_cons,
      List.filterMap_replicate]
    rfl
  have horigin : deepDisk.origin (slashed n) = [] := by
    rw [Disk.origin]
    split <;> rfl
  refine ⟨Disk.maxLinks, ?_⟩
  rw [hsteps, horigin]
  exact .down (by decide) rfl (.here .stay)

end Slashed

/-! ## A root behind a link -/

/-- A disk on which the way to the root leads over a link that stands in the root itself. -/
def linkedDisk : Disk where
  entries := .ofList [(["up"], .directory), (["up", "l.d"], .link "."),
    (["up", ".partial"], .directory)]
  working := []

/-- The way to the root leads over the link and stays there. -/
theorem linkedDisk_root : linkedDisk.LeadsTo "up/l.d" ["up"] :=
  ⟨_, .down (by decide) rfl (.link (by decide) rfl (.here .stay))⟩

theorem linkedDisk_unfinished :
    linkedDisk.LeadsTo (Store.partialPath "up/l.d") ["up", ".partial"] :=
  linkedDisk_root.join Store.isName_partialName (by decide) rfl

end HostedFiles.Sample
