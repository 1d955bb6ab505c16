import HostedFiles.Proofs.Service.Refinement

/-!
# Proofs/Service/ServedTypes — the type that an upload is served with

A file is served with the type of its extension, so one without an extension of its own should get
that of its content type.  It does if the name that was asked for has no full stop
(`ContentType.ofFileName_append`).  But any full stop keeps the extension from being added, and a
name that begins or ends with its last full stop has no extension: such a file is served as plain
bytes (`served_type_of_bare`).
-/

namespace HostedFiles

/-! ## Types and extensions -/

namespace ContentType

open Text

variable {value extension base name : String}

/-- Extensions are in small letters and hold no full stop. -/
theorem of_mem_accepted : ∀ row ∈ accepted,
    row.2.toList ≠ [] ∧ '.' ∉ row.2.toList ∧ lowercase row.2 = row.2 := by
  decide

/-- **An extension that was added is found again.** -/
theorem fileExtension_append (hbase : base ≠ "") (h : extension? value = some extension) :
    FileName.extension? (base ++ "." ++ extension) = some extension := by
  obtain ⟨hne, hstop, hsmall⟩ := of_mem_accepted _ (mem_accepted h)
  have hchars : (base ++ "." ++ extension).toList = base.toList ++ '.' :: extension.toList := by
    simp
  have hempty : ¬ (base.toList = [] ∨ extension.toList = []) :=
    not_or.2 ⟨fun hnil => hbase (String.toList_eq_nil_iff.1 hnil), hne⟩
  rw [FileName.extension?, hchars, splitLast?_append hstop]
  simp only [if_neg hempty, String.ofList_toList]
  rw [hsmall]

/-- **With the extension that a type implies a file is served with this type.** -/
theorem ofFileName_append (hbase : base ≠ "") (h : extension? value = some extension) :
    ofFileName (base ++ "." ++ extension) = normalize value := by
  rw [ofFileName, fileExtension_append hbase h]
  simp only [lookup_served_of_mem_accepted _ (mem_accepted h), Option.getD_some]

/-- Without an extension it is served as plain bytes. -/
theorem ofFileName_of_none (h : FileName.extension? name = none) :
    ofFileName name = opaqueBytes := by
  rw [ofFileName, h]

/-- Plain bytes are no type that is accepted. -/
theorem opaqueBytes_ne_normalize (h : extension? value = some extension) :
    opaqueBytes ≠ normalize value := by
  have hall : ∀ row ∈ accepted, opaqueBytes ≠ row.1 := by decide
  have hne := hall _ (mem_accepted h)
  exact hne

end ContentType

namespace Service

open Http
open Store (Ready files)

variable {production : Bool} {c : Config} {r g : Request} {fresh : Fresh} {d : Disk} {p : Place}
  {name path : String}

/-! ## What is given out -/

/-- A file is given out with the type of its name. -/
theorem contentType_retrieve (hname : resolvedName? path = some name) (headOnly : Bool)
    (hok : (retrieve c headOnly path d).response.status = .ok) :
    (retrieve c headOnly path d).response.header? "content-type" =
      some (ContentType.ofFileName name) := by
  rcases retrieve_cases c headOnly path d with ⟨f, h⟩ | ⟨other, n, body, events, hother, -, h⟩
  · rw [h] at hok
    exact absurd hok f.status_response_ne_ok
  · obtain rfl := Option.some.inj (hname.symm.trans hother)
    rw [h]
    rfl

/-- **At the address of a file nothing is given out with another type than that of its name.** -/
theorem contentType_answer (hstored : Store.IsStored name) (hstop : '.' ∈ name.toList)
    (hreading : isReading g.method = true)
    (hpath : g.path = c.mountPath ++ "/" ++ Percent.encode name)
    (hok : (answer production c g fresh d).response.status = .ok) :
    (answer production c g fresh d).response.header? "content-type" =
      some (ContentType.ofFileName name) := by
  have hroute : route c g.method g.path = .file (Percent.encode name) := by
    rw [hpath]
    exact route_behind hreading (encode_ne_healthPath hstop)
  have hrespond : respond c g fresh d =
      retrieve c (g.method == "HEAD") (Percent.encode name) d := by
    rw [respond, hroute]
  rw [answer, status_sent, hrespond] at hok
  rw [answer, header?_sent (by decide), hrespond]
  exact contentType_retrieve (resolvedName?_encode hstored) _ hok

/-- **On a ready store a file is given out ever after it was uploaded.** -/
theorem status_of_mem_serve {turns : List (Request × Fresh)} (h : Ready c.storagePath d p)
    (hfresh : FreshThroughout production c ((r, fresh) :: turns) d)
    (hstatus : (answer production c r fresh d).response.status = .created)
    (hlocation : (answer production c r fresh d).response.header? "location" =
      some (c.fileUrl name)) {x : Request × Response}
    (hx : x ∈ (serve production c turns (answer production c r fresh d).disk).1)
    (hreading : isReading x.1.method = true)
    (hpath : x.1.path = c.mountPath ++ "/" ++ Percent.encode name) : x.2.status = .ok := by
  obtain ⟨⟨hproper, hunused⟩, hrest⟩ := hfresh
  obtain ⟨q, hq⟩ := h.unfinished
  have hprepared : Prepared c fresh d p q := ⟨h.leadsTo, hq, hproper, hunused q hq⟩
  obtain ⟨hurl, -⟩ := of_created hproper hstatus
  obtain ⟨-, -, other, -, hother, -, hasks, hsame⟩ := hprepared.stored_answer hstatus
  obtain rfl : other = name := fileUrl_injective (Option.some.inj (hother.symm.trans hlocation))
  obtain ⟨-, hready⟩ := mapStep_answer hurl h hprepared production r
  obtain ⟨hrun, -⟩ := mapRun_serve hurl hready hrest
  have hsome : (files (answer production c r fresh d).disk p other).isSome := by
    rw [Store.files_same hsame, Store.files_put, FileMap.set, if_pos rfl]
    rfl
  exact hrun.status_of_mem hsome hx hreading (hpath ▸ hasks)

/-! ## What is uploaded -/

/-- The type that a request states for its body. -/
def statedType (r : Request) : String :=
  ContentType.normalize ((r.text? "content-type").getD "")

/-- **A name without an extension and without a full stop gets the extension of its type; one with a
full stop is kept.** -/
theorem type_of_uploadName {requested : Option String} {extension : String}
    (hproper : fresh.Proper) (hrequest : requestedName r = .ok requested)
    (hbare : FileName.extension? (safeName requested) = none)
    (hext : Service.extension r = .ok extension)
    (hname : uploadName r extension fresh.name = .ok name) :
    if '.' ∈ (safeName requested).toList then
      name = safeName requested ∧ FileName.extension? name = none ∧
        ContentType.ofFileName name ≠ statedType r
    else FileName.extension? name = some extension ∧
      ContentType.ofFileName name = statedType r := by
  have haccepted := extension_eq_ok hext
  obtain ⟨other, hother, -, rfl⟩ := uploadName_eq_ok_iff.1 hname
  obtain rfl : other = requested := Except.ok.inj (hother.symm.trans hrequest)
  split
  next hstop =>
    have hne : safeName other ≠ "" := by
      intro hempty
      rw [hempty] at hstop
      cases hstop
    have hkept : withExtension (safeName other) extension = safeName other :=
      if_pos (List.contains_iff_mem.2 hstop)
    rw [if_neg hne, hkept]
    refine ⟨rfl, hbare, ?_⟩
    rw [ContentType.ofFileName_of_none hbare]
    exact ContentType.opaqueBytes_ne_normalize haccepted
  next hstop =>
    have hbase : ∃ base, (if safeName other = "" then fresh.name else safeName other) = base ∧
        base ≠ "" ∧ '.' ∉ base.toList := by
      refine ⟨_, rfl, ?_⟩
      split
      next => exact ⟨hproper.isStored.isName.ne_empty, hproper.stop_not_mem⟩
      next hne => exact ⟨hne, hstop⟩
    obtain ⟨base, hbase, hne, hfree⟩ := hbase
    have hadded : withExtension base extension = base ++ "." ++ extension :=
      if_neg fun hmem => hfree (List.contains_iff_mem.1 hmem)
    rw [hbase, hadded]
    exact ⟨ContentType.fileExtension_append hne haccepted,
      ContentType.ofFileName_append hne haccepted⟩

/-- **What becomes of an upload under a name without an extension.**  If a request whose name has
none is answered as created, the address in the answer is that of a file which is served with one
type ever after.  It is the type that was stated, under a name to which an extension was added,
unless the name that was asked for holds a full stop; then the file keeps this name and is served
with another type. -/
theorem served_type_of_bare {requested : Option String} (hproper : fresh.Proper)
    (hrequest : requestedName r = .ok requested)
    (hbare : FileName.extension? (safeName requested) = none)
    (hstatus : (answer production c r fresh d).response.status = .created) :
    ∃ name, (answer production c r fresh d).response.header? "location" = some (c.fileUrl name) ∧
      (if '.' ∈ (safeName requested).toList then
        name = safeName requested ∧ FileName.extension? name = none ∧
          ContentType.ofFileName name ≠ statedType r
      else (FileName.extension? name).isSome ∧ ContentType.ofFileName name = statedType r) ∧
      (∀ production' g fresh' e, isReading g.method = true →
        g.path = c.mountPath ++ "/" ++ Percent.encode name →
        (answer production' c g fresh' e).response.status = .ok →
        (answer production' c g fresh' e).response.header? "content-type" =
          some (ContentType.ofFileName name)) ∧
      ∀ p turns, Ready c.storagePath d p →
        FreshThroughout production c ((r, fresh) :: turns) d →
        ∀ x ∈ (serve production c turns (answer production c r fresh d).disk).1,
          isReading x.1.method = true → x.1.path = c.mountPath ++ "/" ++ Percent.encode name →
          x.2.status = .ok ∧
            x.2.header? "content-type" = some (ContentType.ofFileName name) := by
  obtain ⟨hurl, name, n, hpasses, hresult⟩ := of_created hproper hstatus
  obtain ⟨hlocation, -⟩ := hpasses.address_answer production hproper hurl hresult
  obtain ⟨hstored, hstop⟩ := isStored_of_checkUpload hproper hpasses.checked
  obtain ⟨-, extension, hext, hname, -⟩ := checkUpload_eq_ok_iff.1 hpasses.checked
  refine ⟨name, hlocation, ?_, fun production' g fresh' e hreading hpath hok =>
    contentType_answer hstored hstop hreading hpath hok, ?_⟩
  · have htype := type_of_uploadName hproper hrequest hbare hext hname
    split at htype
    next hin => rwa [if_pos hin]
    next hout => exact (if_neg hout).symm ▸ ⟨htype.1 ▸ rfl, htype.2⟩
  · intro p turns hready hfresh x hx hreading hpath
    have hok := status_of_mem_serve hready hfresh hstatus hlocation hx hreading hpath
    obtain ⟨fresh', e, hanswer⟩ := exists_answer_of_mem hx
    rw [hanswer] at hok
    rw [hanswer]
    exact ⟨hok, contentType_answer hstored hstop hreading hpath hok⟩

end Service

/-! ## A name that begins with a full stop -/

namespace Sample

open Http Service

/-- A request to upload a short text under a name that begins with its only full stop. -/
def dotted : Request :=
  { request with headers := [("content-type", Text.bytes "text/plain"),
      ("content-disposition", Text.bytes "filename=.bashrc")] }

end Sample

namespace Service

open Http Sample

/-- What was stated as plain text is given out as plain bytes. -/
theorem served_type_of_dotted : ∃ a b : Response,
    (serve false settings [(dotted, Sample.fresh), (asking "/upload/.bashrc", freshAgain)]
      disk).1 = [(dotted, a), (asking "/upload/.bashrc", b)] ∧
    a.status = .created ∧ a.header? "location" = some (settings.fileUrl ".bashrc") ∧
    b.status = .ok ∧ b.header? "content-type" = some "application/octet-stream" ∧
    statedType dotted = "text/plain" := by
  have hpasses : Passes settings dotted Sample.fresh ".bashrc" := ⟨⟨rfl, by rfl⟩, by rfl⟩
  have hverdict : verdict settings dotted Sample.fresh disk ["up"] ".bashrc" = .ok 2 := by rfl
  obtain ⟨hstatus, hlocation, -⟩ := answer_of_verdict hpasses hverdict
  have hrequest : requestedName dotted = .ok (some ".bashrc") := by rfl
  obtain ⟨name, hname, -, -, hserved⟩ := served_type_of_bare proper hrequest (by decide) hstatus
  obtain rfl : name = ".bashrc" := fileUrl_injective (Option.some.inj (hname.symm.trans hlocation))
  obtain ⟨hok, hbytes⟩ := hserved ["up"] _ ready
    (freshThroughout_of_verdict hpasses hverdict (asking "/upload/.bashrc") (by decide)) _
    List.mem_cons_self rfl rfl
  exact ⟨_, _, rfl, hstatus, hlocation, hok, hbytes, by decide⟩

end Service

end HostedFiles
