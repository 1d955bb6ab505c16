import HostedFiles.Proofs.Service.Refinement

/-!
# Proofs/Service/HeadRequests — asking for the head alone

A file is measured when only its head is asked for, and measured, opened and read when it is asked
for as a whole.  Both requests look the file up in the same way, so their responses differ in
nothing but the body (`respond_headAlike`), whatever stands on the disk.  What is sent as the length
is the size that was measured; the body has it unless the file states another size than it has when
it is read (`IsMisstated`).
-/

namespace HostedFiles

open Http

/-! ## Sizes and bodies -/

namespace Entry

/-- A file that is said to be empty, and cannot be read or is not empty when it is. -/
def IsMisstated : Entry → Prop
  | unreadable => True
  | generated content => content.size ≠ 0
  | directory | file _ | link _ | device => False

instance : DecidablePred IsMisstated
  | unreadable => .isTrue trivial
  | generated content => inferInstanceAs (Decidable (content.size ≠ 0))
  | directory | file _ | link _ | device => .isFalse id

end Entry

/-- A body that arrives as a whole and has this many bytes. -/
def Http.Body.HasSize (b : Body) (n : Nat) : Prop :=
  ∃ content, b = .whole content ∧ content.size = n

/-- **What is read has the stated size unless that is misstated.** -/
theorem hasSize_fileBody_iff {name : String} {entry : Entry} {n : Nat}
    (h : Disk.fileSize? entry = some n) :
    (Service.fileBody { name, size := n, content := Disk.contentOf entry }).1.HasSize n ↔
      ¬ entry.IsMisstated := by
  cases entry with
  | file content =>
    exact iff_of_true ⟨content, rfl, Option.some.inj h⟩ fun hmisstated => hmisstated
  | unreadable =>
    exact iff_of_false (fun ⟨_, hwhole, _⟩ => by cases hwhole) fun hnot => hnot trivial
  | generated content =>
    obtain rfl := Option.some.inj h
    simp only [Entry.IsMisstated, ne_eq, Decidable.not_not]
    constructor
    · rintro ⟨_, hwhole, hsize⟩
      cases hwhole
      exact hsize
    · exact fun hsize => ⟨content, rfl, hsize⟩
  | directory => cases h
  | link target => cases h
  | device => cases h

/-! ## Responses that differ in the body -/

/-- Two responses with the same status and, once their length is stated, the same headers. -/
structure Http.Response.HeadAlike (r s : Response) : Prop where
  status : s.status = r.status
  headers : s.withLength.headers = r.withLength.headers

namespace Service

variable {production : Bool} {c : Config} {g h : Request} {fresh fresh' : Fresh} {d : Disk}
  {method path name : String} {r s : Response}

theorem headAlike_rfl : r.HeadAlike r := ⟨rfl, rfl⟩

/-- Files of one name and size are given out alike, whatever is read. -/
theorem headAlike_fileResponse (name : String) (n : Nat) (body other : Body) :
    (fileResponse name n body).HeadAlike (fileResponse name n other) := by
  have hstated : ∀ body, (fileResponse name n body).header? "content-length" =
      some (toString n) := fun _ => rfl
  refine ⟨rfl, ?_⟩
  rw [Response.withLength_eq_self (hstated body), Response.withLength_eq_self (hstated other)]
  rfl

/-- **Responses that are alike are sent alike**, whichever method asked for them. -/
theorem sent_headAlike (h : r.HeadAlike s) (production : Bool) (method other : String) :
    (sent production other s).status = (sent production method r).status ∧
      (sent production other s).headers = (sent production method r).headers := by
  rw [status_sent, status_sent, headers_sent, headers_sent, h.headers]
  exact ⟨h.status, rfl⟩

/-! ## The same path by both methods -/

/-- Both methods read, so they lead to the same part of the service. -/
theorem route_head (c : Config) (path : String) : route c "HEAD" path = route c "GET" path := rfl

/-- **A file is measured in the same way for both requests.** -/
theorem retrieve_headAlike (c : Config) (path : String) (d : Disk) :
    (retrieve c false path d).response.HeadAlike (retrieve c true path d).response := by
  cases hname : resolvedName? path with
  | none =>
    rw [retrieve_of_none hname, retrieve_of_none hname]
    exact headAlike_rfl
  | some name =>
    cases hsize : Store.size c.storagePath name d with
    | error problem =>
      rw [retrieve_of_error hname hsize, retrieve_of_error hname hsize]
      exact headAlike_rfl
    | ok n =>
      obtain ⟨entry, -, -, hanswer⟩ := retrieve_of_size hname hsize
      rw [hanswer, hanswer]
      exact headAlike_fileResponse name n _ _

/-- **A request for the head is answered like the one for the whole.** -/
theorem respond_headAlike (hget : g.method = "GET") (hhead : h.method = "HEAD")
    (hpath : h.path = g.path) :
    (respond c g fresh d).response.HeadAlike (respond c h fresh' d).response := by
  rw [respond, respond, hget, hhead, hpath, route_head]
  cases route c "GET" g.path with
  | health => exact headAlike_rfl
  | upload =>
    simp only [atUpload, hget, hhead]
    exact headAlike_rfl
  | file rest => exact retrieve_headAlike c rest d
  | none => exact headAlike_rfl

/-- A file that is given out has a name and a size. -/
theorem exists_size_of_status {headOnly : Bool}
    (hstatus : (retrieve c headOnly path d).response.status = .ok) :
    ∃ name n, resolvedName? path = some name ∧ Store.size c.storagePath name d = .ok n := by
  rcases retrieve_cases c headOnly path d with ⟨f, h⟩ | ⟨name, n, body, events, hname, hsize, -⟩
  · rw [h] at hstatus
    exact absurd hstatus f.status_response_ne_ok
  · exact ⟨name, n, hname, hsize⟩

/-- **Asking for the head gives what asking for the whole gives, without the body**: the same status
and the same headers, under all settings and on every disk.  The length of a file that is given out
is the size it states, and its body has this length exactly if the size is not misstated. -/
theorem head_like_get (production : Bool) (c : Config) (fresh fresh' : Fresh) (d : Disk)
    (hget : g.method = "GET") (hhead : h.method = "HEAD") (hpath : h.path = g.path) :
    let whole := (answer production c g fresh d).response
    let head := (answer production c h fresh' d).response
    head.status = whole.status ∧ head.headers = whole.headers ∧
      head.body = .whole ByteArray.empty ∧
      ∀ rest, route c g.method g.path = .file rest → whole.status = .ok →
        ∃ name entry n, resolvedName? rest = some name ∧
          d.stat (Path.join c.storagePath name) = .ok entry ∧ Disk.fileSize? entry = some n ∧
          whole.header? "content-length" = some (toString n) ∧
          (whole.body.HasSize n ↔ ¬ entry.IsMisstated) := by
  intro whole head
  obtain ⟨hstatus, hheaders⟩ :=
    sent_headAlike (respond_headAlike hget hhead hpath) production g.method h.method
  refine ⟨hstatus, hheaders, (body_sent _).trans (if_pos hhead), fun rest hroute hok => ?_⟩
  have hretrieve : (respond c g fresh d).response = (retrieve c false rest d).response := by
    rw [respond, hroute, hget]
    rfl
  have hwhole : whole = sent production g.method (retrieve c false rest d).response :=
    congrArg (sent production g.method) hretrieve
  rw [hwhole, status_sent] at hok
  obtain ⟨name, n, hname, hsize⟩ := exists_size_of_status hok
  obtain ⟨entry, hstat, hstated, hanswer⟩ := retrieve_of_size hname hsize
  refine ⟨name, entry, n, hname, hstat, hstated, ?_, ?_⟩
  · rw [hwhole, hanswer]
    exact contentLength_sent rfl
  · rw [hwhole, body_sent, hget, if_neg (by decide), hanswer]
    exact hasSize_fileBody_iff hstated

end Service

/-! ## A file that states another size -/

namespace Sample

/-- A disk on which a name leads out of the root, to a file that is made when it is read. -/
def madeDisk : Disk where
  entries := .ofList [(["up"], .directory), (["up", ".partial"], .directory),
    (["up", "n.txt"], .link "/proc/uid"), (["proc"], .directory),
    (["proc", "uid"], .generated (Text.bytes "65534").toByteArray)]
  working := []

theorem stat_madeDisk : madeDisk.stat "up/n.txt" =
    .ok (.generated (Text.bytes "65534").toByteArray) := by rfl

/-- A request for the head of a file. -/
def askingHead (path : String) : Request :=
  { asking path with method := "HEAD" }

end Sample

open Sample in
/-- **A file that is made when it is read is given out with a length that its body has not.** -/
theorem Service.longer_of_made :
    let whole := (answer false settings (asking "/upload/n.txt") Sample.fresh madeDisk).response
    let head := (answer false settings (askingHead "/upload/n.txt") Sample.fresh madeDisk).response
    whole.status = .ok ∧ whole.header? "content-length" = some "0" ∧ ¬ whole.body.HasSize 0 ∧
      head.status = .ok ∧ head.headers = whole.headers := by
  intro whole head
  have hok : whole.status = .ok := by rfl
  obtain ⟨hstatus, hheaders, -, hgiven⟩ := head_like_get (g := asking "/upload/n.txt")
    (h := askingHead "/upload/n.txt") false settings Sample.fresh Sample.fresh madeDisk rfl rfl rfl
  obtain ⟨name, entry, n, hname, hstat, hstated, hlength, hsize⟩ := hgiven "n.txt" (by rfl) hok
  obtain rfl : "n.txt" = name := Option.some.inj hname
  obtain rfl := Except.ok.inj (stat_madeDisk.symm.trans hstat)
  obtain rfl := Option.some.inj hstated
  exact ⟨hok, hlength, fun hexact => hsize.1 hexact (by decide), hstatus.trans hok, hheaders⟩

end HostedFiles
