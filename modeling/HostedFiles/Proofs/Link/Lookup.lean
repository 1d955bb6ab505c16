import HostedFiles.Proofs.Link.Candidates
import HostedFiles.Proofs.Store.Names
import HostedFiles.Service.Routes

/-!
# Proofs/Link/Lookup — which file is looked up by a link

A link announces a file name, and a request for the link's address looks a file up.  The service
drops the slashes in front of what it is asked for, the scan of a text does not: it puts a low line
for each of them.  So the two agree exactly on the links whose path begins with no slash
(`lookedUp_of_first?`).
-/

namespace HostedFiles

/-! ## Bytes in front of others -/

namespace Text

/-- **Bytes are read as a text exactly when they are the bytes of it.** -/
theorem ofBytes?_eq_some_iff {l : List UInt8} {s : String} : ofBytes? l = some s ↔ bytes s = l := by
  refine ⟨fun h => ?_, fun h => h ▸ ofBytes?_bytes s⟩
  rw [ofBytes?, String.fromUTF8?] at h
  split at h
  next =>
    obtain rfl := Option.some.inj h
    exact List.toByteArray_inj.1 (toByteArray_bytes _)
  next => cases h

theorem isSome_ofBytes? {l : List UInt8} :
    (ofBytes? l).isSome = true ↔ l.toByteArray.IsValidUTF8 := by
  rw [ofBytes?, String.fromUTF8?]
  split
  next hvalid => exact iff_of_true rfl hvalid
  next hvalid => exact iff_of_false (by simp) hvalid

/-- **A character in front of bytes is read in front of their text**, if they are one. -/
theorem ofBytes?_utf8EncodeChar (c : Char) (l : List UInt8) :
    ofBytes? (String.utf8EncodeChar c ++ l) = (ofBytes? l).map (String.singleton c ++ ·) := by
  cases hl : ofBytes? l with
  | some s =>
    rw [Option.map_some, ofBytes?_eq_some_iff, ← ofBytes?_eq_some_iff.1 hl]
    simp [bytes]
  | none =>
    have hinvalid : ¬ l.toByteArray.IsValidUTF8 := by
      rw [← isSome_ofBytes?, hl]
      exact Bool.false_ne_true
    rw [Option.map_none, ← Option.not_isSome_iff_eq_none, isSome_ofBytes?,
      List.toByteArray_append, ← List.utf8Encode_singleton]
    rwa [ByteArray.isValidUTF8_utf8Encode_singleton_append_iff]

end Text

namespace Percent

/-- **What stands in front of a written text and holds no percent sign is read as it is.** -/
theorem decode?_append {front rest : List Char} (h : '%' ∉ front) :
    decode? (front ++ rest) = (decode? rest).map (String.ofList front ++ ·) := by
  induction front with
  | nil => simp
  | cons c front ih =>
    rw [List.mem_cons, not_or] at h
    rw [decode?, List.cons_append, decodeBytes_cons_of_ne (Ne.symm h.1),
      Text.ofBytes?_utf8EncodeChar, ← decode?, ih h.2, Option.map_map]
    congr 1
    funext s
    rw [Function.comp_apply, ← String.append_assoc, ← List.singleton_append (l := front),
      String.ofList_append, ← String.singleton_eq_ofList]

end Percent

namespace FileName

theorem neutralize_append (a b : String) :
    neutralize (a ++ b) = neutralize a ++ neutralize b := by
  rw [neutralize, String.toList_append, List.map_append, String.ofList_append]
  rfl

theorem length_neutralize (name : String) :
    (neutralize name).toList.length = name.toList.length := by
  rw [neutralize, String.toList_ofList, List.length_map]

/-- A name is made safe once and for all. -/
theorem sanitize?_neutralize (name : String) : sanitize? (neutralize name) = sanitize? name := by
  have hagain : neutralize (neutralize name) = neutralize name :=
    neutralize_eq_self_iff.2 fun _ => isUnsafe_of_mem_neutralize
  rw [sanitize?, hagain, ← sanitize?]

end FileName

/-! ## What stands behind the mount path -/

namespace Service

/-- **Behind the mount path stands the rest of a path that begins with it and a slash.** -/
theorem behindMount?_eq_some_iff {c : Config} {path rest : String} :
    behindMount? c path = some rest ↔ path = c.mountPath ++ "/" ++ rest := by
  rw [behindMount?, Option.map_eq_some_iff]
  constructor
  · rintro ⟨tail, htail, rfl⟩
    rw [← String.toList_inj, Text.after?_eq_some_iff.1 htail, String.toList_append,
      String.toList_append, String.toList_ofList (l := tail)]
    rfl
  · rintro rfl
    refine ⟨rest.toList, Text.after?_eq_some_iff.2 ?_, String.ofList_toList⟩
    rw [String.toList_append, String.toList_append]
    rfl

/-- A path behind the mount path is routed to the file, unless it is that of the health route. -/
theorem route_behind {c : Config} {method rest : String} (hreading : isReading method = true)
    (hhealth : c.mountPath ++ "/" ++ rest ≠ Config.healthPath) :
    route c method (c.mountPath ++ "/" ++ rest) = .file rest := by
  have hmount : c.mountPath ++ "/" ++ rest ≠ c.mountPath := by
    intro heq
    have hlength := congrArg String.length heq
    rw [String.length_append, String.length_append, show "/".length = 1 from rfl] at hlength
    omega
  rw [route, if_neg hhealth, if_neg hmount, behindMount?_eq_some_iff.2 rfl]
  exact if_pos hreading

end Service

/-! ## What is asked for -/

namespace Link

open Text

variable {text publicUrl : String} {link : Link} {path : List Char}

/-- The slashes in front of a path. -/
def leadingSlashes (path : List Char) : List Char :=
  path.takeWhile (· == '/')

theorem leadingSlashes_append_trimStart (path : List Char) :
    leadingSlashes path ++ trimStart (· == '/') path = path :=
  List.takeWhile_append_dropWhile

theorem leadingSlashes_eq_nil_iff : leadingSlashes path = [] ↔ path.head? ≠ some '/' := by
  cases path with
  | nil => simp [leadingSlashes]
  | cons c path =>
    rw [leadingSlashes, List.takeWhile_eq_nil_iff]
    simp

/-- **The service looks up what the link announces, less one character for each slash in front.** -/
theorem resolvedName?_eq {filename : String} (h : fileName? path = some filename) :
    Service.resolvedName? (String.ofList (upTo endsPath path)) =
      FileName.sanitize? (String.ofList
        (filename.toList.drop (leadingSlashes (upTo endsPath path)).length)) := by
  set asked := upTo endsPath path with hasked
  have hpercent : '%' ∉ leadingSlashes asked := fun hmem =>
    absurd (List.mem_takeWhile_imp hmem) (by decide)
  rw [fileName?, ← hasked, ← leadingSlashes_append_trimStart asked,
    Percent.decode?_append hpercent, Option.bind_eq_some_iff] at h
  obtain ⟨whole, hwhole, hname⟩ := h
  obtain ⟨decoded, hdecoded, rfl⟩ := Option.map_eq_some_iff.1 hwhole
  obtain ⟨rfl, -⟩ := FileName.sanitize?_eq_some_iff.1 hname
  have hfront : (leadingSlashes asked).length =
      (FileName.neutralize (String.ofList (leadingSlashes asked))).toList.length := by
    rw [FileName.length_neutralize, String.toList_ofList]
  rw [Service.resolvedName?, String.toList_ofList, hdecoded, Option.bind_some,
    FileName.neutralize_append, String.toList_append, hfront, List.drop_left,
    String.ofList_toList, FileName.sanitize?_neutralize]

/-- **It looks up the same name exactly when no slash is in front.** -/
theorem resolvedName?_eq_some_iff {filename : String} (h : fileName? path = some filename) :
    Service.resolvedName? (String.ofList (upTo endsPath path)) = some filename ↔
      (upTo endsPath path).head? ≠ some '/' := by
  rw [resolvedName?_eq h, ← leadingSlashes_eq_nil_iff]
  obtain ⟨decoded, -, hname⟩ := Option.bind_eq_some_iff.1 h
  have hclean := FileName.sanitize?_of_sanitize? hname
  constructor
  · intro hsame
    have hlength := congrArg (fun s => s.toList.length) (FileName.sanitize?_eq_some_iff.1 hsame).1
    simp only [FileName.length_neutralize, String.toList_ofList, List.length_drop] at hlength
    have hpos := List.length_pos_iff.2 (FileName.isName_of_sanitize? hclean).toList_ne_nil
    exact List.length_eq_zero_iff.1 (by omega)
  · intro hnil
    rw [hnil, List.length_nil, List.drop_zero, String.ofList_toList, hclean]

/-- How a link is looked up: `asked` is its path without query and fragment. -/
structure LookedUp (publicUrl : String) (link : Link) (path asked : String) : Prop where
  url : link.url = publicUrl ++ "/" ++ path
  asked_eq : asked = String.ofList (upTo endsPath path.toList)
  /-- The service looks up what is announced, less one character for each slash in front. -/
  resolved : Service.resolvedName? asked = FileName.sanitize? (String.ofList
    (link.filename.toList.drop (leadingSlashes asked.toList).length))
  /-- So it looks up what is announced exactly when there is none. -/
  same_iff : Service.resolvedName? asked = some link.filename ↔ asked.toList.head? ≠ some '/'
  /-- That is what a request for the path behind the mount path is answered from. -/
  answered : ∀ (c : Config) (r : Http.Request) (fresh : Fresh) (d : Disk),
    Service.isReading r.method = true → r.path = c.mountPath ++ "/" ++ asked →
    r.path ≠ Config.healthPath →
    Service.respond c r fresh d = Service.retrieve c (r.method == "HEAD") asked d

/-- A request for what stands behind the mount path is one for a file. -/
theorem respond_behindMount {c : Config} {r : Http.Request} {rest : String} (fresh : Fresh)
    (d : Disk) (hreading : Service.isReading r.method = true)
    (hpath : r.path = c.mountPath ++ "/" ++ rest) (hhealth : r.path ≠ Config.healthPath) :
    Service.respond c r fresh d = Service.retrieve c (r.method == "HEAD") rest d := by
  rw [Service.respond, hpath, Service.route_behind hreading (hpath ▸ hhealth)]

/-- **How the first link of a text is looked up.** -/
theorem lookedUp_of_first? (h : first? text publicUrl = some link) :
    ∃ path asked, LookedUp publicUrl link path asked := by
  obtain ⟨_, _, path, -, -, hname, hurl⟩ := exists_of_first? h
  refine ⟨String.ofList path, String.ofList (upTo endsPath path), ?_, ?_, ?_, ?_, ?_⟩
  · rw [hurl, ofList_lead_append]
  · rw [String.toList_ofList]
  · rw [String.toList_ofList]
    exact resolvedName?_eq hname
  · rw [String.toList_ofList]
    exact resolvedName?_eq_some_iff hname
  · intro c r fresh d hreading hpath hhealth
    exact respond_behindMount fresh d hreading hpath hhealth

/-- **A link with two slashes announces another file than a request for it looks up.** -/
theorem lookedUp_doubleSlash :
    first? "https://host/files//a.png" "https://host/files" =
        some { url := "https://host/files//a.png", filename := "_a.png" } ∧
      ∃ path asked, "https://host/files//a.png" = "https://host/files" ++ "/" ++ path ∧
        asked = String.ofList (upTo endsPath path.toList) ∧
        Service.resolvedName? asked = some "a.png" := by
  have hfound : first? "https://host/files//a.png" "https://host/files" =
      some { url := "https://host/files//a.png", filename := "_a.png" } := by rfl
  obtain ⟨path, asked, hlooked⟩ := lookedUp_of_first? hfound
  have hpath : path = "/a.png" := by
    refine (String.append_right_inj ("https://host/files" ++ "/")).1 ?_
    exact hlooked.url.symm
  subst hpath
  have hasked : asked = "/a.png" := hlooked.asked_eq
  refine ⟨hfound, "/a.png", asked, hlooked.url, hlooked.asked_eq, ?_⟩
  rw [hlooked.resolved, hasked]
  rfl

end Link

end HostedFiles
