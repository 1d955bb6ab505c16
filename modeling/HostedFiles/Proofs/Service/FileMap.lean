import HostedFiles.Proofs.Link.Lookup
import HostedFiles.Proofs.Service.FailedRequests
import HostedFiles.Proofs.Service.Retrievals
import HostedFiles.Proofs.Store.Ready

/-!
# Proofs/Service/FileMap — requests as steps of a map from names to contents

`MapStep` says what a request does to a map from names to contents and how it is answered.  A
service on a ready store takes such steps, and its store stays ready (`mapStep_answer`).  In a run
of such steps what was stored last under a name is given out (`MapRun.latest`).
-/

namespace HostedFiles.Service

open Http
open Store (Ready files IsStored)

variable {production : Bool} {c : Config} {r : Request} {a : Response} {fresh : Fresh} {d : Disk}
  {p q : Place} {name path : String} {m m' m'' : FileMap}

/-! ## The map -/

/-- A path asks for a name: behind the mount path stands what is read as the name, and the name and
its path on the disk are not too long. -/
structure AsksFor (c : Config) (path name : String) : Prop where
  behind : ∃ rest, path = c.mountPath ++ "/" ++ rest ∧ resolvedName? rest = some name
  not_health : path ≠ Config.healthPath
  name_short : name.utf8ByteSize ≤ Disk.maxNameBytes
  path_short : (Path.join c.storagePath name).utf8ByteSize < Disk.maxPathBytes

/-- A step of the map: how a request is answered, and the map after it. -/
structure MapStep (c : Config) (m : FileMap) (r : Request) (a : Response) (m' : FileMap) :
    Prop where
  /-- What is answered as created is set under the name in the address, which asks for it. -/
  stored : a.status = .created → r.method = "POST" ∧ r.failure = none ∧ ∃ name,
    a.header? "location" = some (c.publicUrl ++ "/" ++ Percent.encode name) ∧
    a.body = .whole (c.publicUrl ++ "/" ++ Percent.encode name).toUTF8 ∧
    AsksFor c (c.mountPath ++ "/" ++ Percent.encode name) name ∧
    m' = m.set name (body r)
  /-- Every other answer leaves the map as it is. -/
  kept : a.status ≠ .created → m' = m
  /-- What is asked for is given out as the map has it. -/
  given : isReading r.method = true → ∀ name, AsksFor c r.path name →
    match m name with
    | some content =>
      a.status = .ok ∧ a.header? "content-length" = some (toString content.size) ∧
        a.body = .whole (if r.method = "HEAD" then ByteArray.empty else content)
    | none => a.status = .notFound

/-- A run of the map over requests and their answers. -/
inductive MapRun (c : Config) : FileMap → List (Request × Response) → FileMap → Prop where
  | nil {m : FileMap} : MapRun c m [] m
  | cons {m m' m'' : FileMap} {r : Request} {a : Response} {log : List (Request × Response)}
      (step : MapStep c m r a m') (rest : MapRun c m' log m'') : MapRun c m ((r, a) :: log) m''

/-! ## The service takes steps of the map -/

/-- A path that asks for a name is routed to the file. -/
theorem AsksFor.exists_route (h : AsksFor c path name) {method : String}
    (hreading : isReading method = true) :
    ∃ rest, route c method path = .file rest ∧ resolvedName? rest = some name := by
  obtain ⟨rest, rfl, hname⟩ := h.behind
  exact ⟨rest, route_behind hreading h.not_health, hname⟩

/-- A name that is asked for is one that the store takes, or that of unfinished uploads. -/
theorem isStored_of_resolvedName? (h : resolvedName? path = some name)
    (hne : name ≠ Store.partialName) : IsStored name := by
  obtain ⟨wanted, -, hclean⟩ := Option.bind_eq_some_iff.1 h
  exact ⟨FileName.sanitize?_of_sanitize? hclean, hne⟩

/-- **What is asked for is given out as the store has it.** -/
theorem given_answer (h : Ready c.storagePath d p) (production : Bool) (fresh : Fresh)
    (hreading : isReading r.method = true) (hasks : AsksFor c r.path name) :
    match files d p name with
    | some content =>
      (answer production c r fresh d).response.status = .ok ∧
        (answer production c r fresh d).response.header? "content-length" =
          some (toString content.size) ∧
        (answer production c r fresh d).response.body =
          .whole (if r.method = "HEAD" then ByteArray.empty else content)
    | none => (answer production c r fresh d).response.status = .notFound := by
  obtain ⟨rest, hroute, hname⟩ := hasks.exists_route hreading
  have hresponse : (answer production c r fresh d).response =
      sent production r.method (retrieve c (r.method == "HEAD") rest d).response := by
    rw [answer, respond, hroute]
  rw [hresponse]
  by_cases hpartial : name = Store.partialName
  · have hnot : ¬ IsStored name := fun hstored => hstored.ne_partial hpartial
    have hnone : files d p name = none := hpartial ▸ h.files_partialName
    rw [hnone, status_sent, retrieve_of_not_isStored hname hnot]
    rfl
  have hstored := isStored_of_resolvedName? hname hpartial
  have hstat := h.stat hstored hasks.name_short hasks.path_short
  cases hfile : files d p name with
  | none =>
    rw [hfile] at hstat
    rw [status_sent, retrieve_missing hname hstored hstat]
    rfl
  | some content =>
    rw [hfile] at hstat
    rw [retrieve_file hname hstored hstat, body_sent]
    refine ⟨status_sent _, contentLength_sent rfl, ?_⟩
    split
    next => rfl
    next hhead => rw [fileResponse, if_neg (by simpa using hhead)]

/-- No file with a full stop in its name has the address of the health route. -/
theorem encode_ne_healthPath (hstop : '.' ∈ name.toList) :
    c.mountPath ++ "/" ++ Percent.encode name ≠ Config.healthPath := by
  intro hhealth
  -- A full stop stands for itself, and there is none in the path of the health route.
  have hmem : '.' ∈ (Percent.encode name).toList := by
    rw [Percent.encode, String.toList_ofList, List.mem_flatMap]
    exact ⟨'.', hstop, by decide⟩
  have hin : '.' ∈ Config.healthPath.toList := by
    rw [← hhealth, String.toList_append]
    exact List.mem_append_right _ hmem
  exact absurd hin (by decide)

/-- The address of a stored file asks for it. -/
theorem asksFor_encode (hstored : IsStored name) (hstop : '.' ∈ name.toList)
    (hname : name.utf8ByteSize ≤ Disk.maxNameBytes)
    (hpath : (Path.join c.storagePath name).utf8ByteSize < Disk.maxPathBytes) :
    AsksFor c (c.mountPath ++ "/" ++ Percent.encode name) name :=
  ⟨⟨_, rfl, resolvedName?_encode hstored⟩, encode_ne_healthPath hstop, hname, hpath⟩

/-- **What is answered as created was an upload that the store took**, with an address that is fit
for a header. -/
theorem of_created (hproper : fresh.Proper)
    (hstatus : (answer production c r fresh d).response.status = .created) :
    isHeaderValue c.publicUrl = true ∧ ∃ name n, Passes c r fresh name ∧
      ((asked c r fresh name).ending d .preparing).1 = .ok n := by
  by_cases hpasses : ∃ name, Passes c r fresh name
  · obtain ⟨name, hpasses⟩ := hpasses
    rw [answer, status_sent, respond_of_isUpload hpasses.isUpload,
      (upload_of_ok hproper hpasses.checked).1] at hstatus
    cases hresult : ((asked c r fresh name).ending d .preparing).1 with
    | error e =>
      rw [hresult] at hstatus
      exact absurd hstatus (status_reported_error e)
    | ok n =>
      rw [hresult, status_reported_ok] at hstatus
      refine ⟨?_, name, n, hpasses, hresult⟩
      cases hurl : isHeaderValue c.publicUrl with
      | true => rfl
      | false => rw [hurl] at hstatus; cases hstatus
  · exact absurd hstatus (answer_of_not_passes (not_exists.1 hpasses)).2

/-- The answer that names an address which is fit for a header. -/
theorem reported_ok (hurl : isHeaderValue c.publicUrl = true) (n : Nat) :
    reported c name (.ok n) = (Response.page .created "text/plain; charset=utf-8"
      (c.fileUrl name)).withHeader "location" (c.fileUrl name) := by
  simp only [reported, created, isHeaderValue_fileUrl, hurl, if_true]

/-- **A stored upload is answered with the address of its file**, in a header and as the body. -/
theorem Passes.address_answer (hpasses : Passes c r fresh name) (production : Bool)
    (hproper : fresh.Proper) (hurl : isHeaderValue c.publicUrl = true) {n : Nat}
    (hresult : ((asked c r fresh name).ending d .preparing).1 = .ok n) :
    (answer production c r fresh d).response.header? "location" = some (c.fileUrl name) ∧
      (answer production c r fresh d).response.body = .whole (c.fileUrl name).toUTF8 := by
  have hmethod : r.method ≠ "HEAD" := by rw [hpasses.isUpload.method]; decide
  rw [answer, respond_of_isUpload hpasses.isUpload, (upload_of_ok hproper hpasses.checked).1,
    hresult, reported_ok hurl]
  constructor
  · rw [header?_sent (by decide), Response.header?_withHeader, if_pos rfl]
  · rw [body_sent, if_neg hmethod]
    rfl

/-- **A request that is answered as created sets its body in the map.** -/
theorem Prepared.stored_answer (h : Prepared c fresh d p q)
    (hstatus : (answer production c r fresh d).response.status = .created) :
    r.method = "POST" ∧ r.failure = none ∧ ∃ name, IsStored name ∧
      (answer production c r fresh d).response.header? "location" = some (c.fileUrl name) ∧
      (answer production c r fresh d).response.body = .whole (c.fileUrl name).toUTF8 ∧
      AsksFor c (c.mountPath ++ "/" ++ Percent.encode name) name ∧
      (answer production c r fresh d).disk.Same (d.put (p ++ [name]) (.file (body r))) := by
  obtain ⟨hurl, name, n, hpasses, hresult⟩ := of_created h.proper hstatus
  obtain ⟨hlocation, hbody⟩ := hpasses.address_answer production h.proper hurl hresult
  obtain ⟨hstored, hstop⟩ := isStored_of_checkUpload h.proper hpasses.checked
  have hverdict := (h.result_ending hpasses.checked).symm.trans hresult
  obtain ⟨-, hdisk⟩ := h.answered hpasses production
  rw [hverdict, left_asked_ok] at hdisk
  obtain ⟨hfailure, htake⟩ := Upload.of_verdict_eq_ok hverdict
  obtain ⟨hpath, hname, -⟩ := Disk.takeFault?_eq_none_iff.1 htake
  exact ⟨hpasses.isUpload.method, hfailure, name, hstored, hlocation, hbody,
    asksFor_encode hstored hstop hname (Disk.lt_of_pathFault? hpath), hdisk⟩

/-- A request that is not answered as created leaves the map as it is, if addresses are fit for
headers. -/
theorem Prepared.kept_answer (h : Prepared c fresh d p q) (hurl : isHeaderValue c.publicUrl = true)
    (hstatus : (answer production c r fresh d).response.status ≠ .created) :
    (answer production c r fresh d).disk.Same d := by
  refine h.same_of_not_stranded hstatus fun hstranded => ?_
  exact Bool.false_ne_true (hstranded.2.1.symm.trans hurl)

/-- **A service on a ready store takes a step of the map**, and the store stays ready. -/
theorem mapStep_answer (hurl : isHeaderValue c.publicUrl = true) (h : Ready c.storagePath d p)
    (hprepared : Prepared c fresh d p q) (production : Bool) (r : Request) :
    MapStep c (files d p) r (answer production c r fresh d).response
        (files (answer production c r fresh d).disk p) ∧
      Ready c.storagePath (answer production c r fresh d).disk p := by
  by_cases hstatus : (answer production c r fresh d).response.status = .created
  · obtain ⟨hmethod, hfailure, name, hstored, hlocation, hbody, hasks, hsame⟩ :=
      hprepared.stored_answer hstatus
    refine ⟨⟨fun _ => ⟨hmethod, hfailure, name, hlocation, hbody, hasks, ?_⟩,
      fun hother => absurd hstatus hother,
      fun hreading _ hasks => given_answer h production fresh hreading hasks⟩, ?_⟩
    · rw [Store.files_same hsame, Store.files_put]
    · exact (h.put hstored hasks.name_short (body r)).same hsame
  · have hsame := hprepared.kept_answer hurl hstatus
    exact ⟨⟨fun hcreated => absurd hcreated hstatus, fun _ => Store.files_same hsame p,
      fun hreading _ hasks => given_answer h production fresh hreading hasks⟩, h.same hsame⟩

/-! ## Runs of the map -/

namespace MapRun

variable {log log' : List (Request × Response)}

/-- A run in two parts. -/
theorem exists_of_append (h : MapRun c m (log ++ log') m'') :
    ∃ m', MapRun c m log m' ∧ MapRun c m' log' m'' := by
  induction log generalizing m with
  | nil => exact ⟨m, .nil, h⟩
  | cons x log ih =>
    cases h with
    | cons step rest =>
      obtain ⟨m', hlog, hlog'⟩ := ih rest
      exact ⟨m', .cons step hlog, hlog'⟩

/-- **What stands under a name is kept until something is stored there.** -/
theorem kept (h : MapRun c m log m') (hnone : ∀ x ∈ log, x.2.status = .created →
    x.2.header? "location" ≠ some (c.fileUrl name)) : m' name = m name := by
  induction h with
  | nil => rfl
  | @cons m m₁ m₂ r a log step rest ih =>
    rw [ih fun x hx => hnone x (List.mem_cons_of_mem _ hx)]
    by_cases hstatus : a.status = .created
    · obtain ⟨-, -, other, hlocation, -, -, rfl⟩ := step.stored hstatus
      have hother : name ≠ other := by
        rintro rfl
        exact hnone (r, a) List.mem_cons_self hstatus hlocation
      rw [FileMap.set, if_neg hother]
    · rw [step.kept hstatus]

/-- **Once something stands under a name, whoever asks for it is given a file.** -/
theorem status_of_mem (h : MapRun c m log m') (hsome : (m name).isSome) {x : Request × Response}
    (hx : x ∈ log) (hreading : isReading x.1.method = true) (hasks : AsksFor c x.1.path name) :
    x.2.status = .ok := by
  induction h with
  | nil => cases hx
  | @cons m m₁ m₂ r a log step rest ih =>
    rcases List.mem_cons.1 hx with rfl | hx
    · obtain ⟨content, hcontent⟩ := Option.isSome_iff_exists.1 hsome
      have hgiven := step.given hreading name hasks
      rw [hcontent] at hgiven
      exact hgiven.1
    · refine ih ?_ hx
      by_cases hstatus : a.status = .created
      · obtain ⟨-, -, other, -, -, -, rfl⟩ := step.stored hstatus
        rw [FileMap.set]
        split
        · rfl
        · exact hsome
      · rwa [step.kept hstatus]

/-- **What was stored last under a name is given out** at its address. -/
theorem latest {before between after : List (Request × Response)} {g : Request} {b : Response}
    (h : MapRun c m (before ++ (r, a) :: between ++ (g, b) :: after) m')
    (hstatus : a.status = .created) (hlocation : a.header? "location" = some (c.fileUrl name))
    (hbetween : ∀ x ∈ between, x.2.status = .created →
      x.2.header? "location" ≠ some (c.fileUrl name))
    (hmethod : g.method = "GET") (hpath : g.path = c.mountPath ++ "/" ++ Percent.encode name) :
    b.status = .ok ∧ b.body = .whole (body r) := by
  obtain ⟨m₂, hfirst, hlast⟩ := h.exists_of_append
  obtain ⟨m₀, -, hfirst⟩ := hfirst.exists_of_append
  cases hfirst with
  | @cons _ m₁ _ _ _ _ step rest =>
    obtain ⟨-, -, other, hother, -, hasks, rfl⟩ := step.stored hstatus
    obtain rfl : other = name :=
      fileUrl_injective (Option.some.inj (hother.symm.trans hlocation))
    cases hlast with
    | cons step' _ =>
      have hgiven := step'.given (by rw [hmethod]; rfl) other (hpath ▸ hasks)
      rw [rest.kept hbetween, FileMap.set, if_pos rfl] at hgiven
      obtain ⟨hok, -, hbody⟩ := hgiven
      rw [hmethod, if_neg (by decide)] at hbody
      exact ⟨hok, hbody⟩

end MapRun

end HostedFiles.Service
