import HostedFiles.Config.Source
import HostedFiles.Proofs.Http.Targets
import HostedFiles.Proofs.Link.Lookup
import HostedFiles.Proofs.Link.OwnLinks
import HostedFiles.Proofs.Service.Uploads
import HostedFiles.Proofs.Text.Digits

/-!
# Proofs/Service/Routing — which requests reach the files

Under settings that pass every check the health route, the upload address and the files behind it
have paths of their own, and no other path has to do with the disk (`dispatched_of_check`).
Addresses are not kept apart as well: a mount path may hold a question mark or a number sign, and
there the path of an address ends.  Behind `/health?x` the address of every file is one of the
health route (`healthy_of_veiled`).
-/

namespace HostedFiles

open Http (Request Target)
open HostedFiles.Link (endsPath)

/-! ## Mount paths -/

namespace Config

variable {c : Config} {source : Source} {events : List Log.Event}

/-- **A mount path begins with a slash.** -/
theorem head?_normalizeMountPath (raw : String) :
    (normalizeMountPath raw).toList.head? = some '/' := by
  rw [normalizeMountPath]
  split
  · rfl
  · rw [String.toList_ofList]
    rfl
  · rw [String.toList_ofList]
    rfl

/-- The mount path is made of what stands under its name. -/
theorem mountPath_of_ofSource (h : ofSource source = .ok c) :
    c.mountPath = normalizeMountPath (source.textOr "FILEHOST_URI" "/upload") := by
  obtain ⟨read, hread, hvalid⟩ := Service.bind_eq_ok_iff.1 h
  obtain ⟨-, -, hsame⟩ := Service.bind_eq_ok_iff.1 hvalid
  cases hsame
  obtain ⟨port, -, h⟩ := Service.bind_eq_ok_iff.1 hread
  obtain ⟨publicPort, -, h⟩ := Service.bind_eq_ok_iff.1 h
  split at h
  · cases h
    rfl
  · cases h

/-- So the one of settings that were read begins with a slash. -/
theorem head?_mountPath (h : ofSource source = .ok c) : c.mountPath.toList.head? = some '/' := by
  rw [mountPath_of_ofSource h]
  exact head?_normalizeMountPath _

/-- Settings that pass every check are not mounted at the health route. -/
theorem mountPath_ne_healthPath (h : c.check = .ok events) : c.mountPath ≠ healthPath := by
  intro hmount
  have hmeets : c.meetsHealth = true := by
    rw [meetsHealth, hmount]
    rfl
  obtain ⟨-, -, h⟩ := Service.bind_eq_ok_iff.1 h
  rw [if_pos hmeets] at h
  cases h

/-- **Nothing behind a mount path is the health route**, whose path has one slash. -/
theorem behind_ne_healthPath (hhead : c.mountPath.toList.head? = some '/') (rest : String) :
    c.mountPath ++ "/" ++ rest ≠ healthPath := by
  intro heq
  obtain ⟨mount, hmount⟩ := List.head?_eq_some_iff.1 hhead
  have hlist : '/' :: (mount ++ '/' :: rest.toList) = '/' :: "health".toList := by
    have h := congrArg String.toList heq
    rwa [String.toList_append, String.toList_append, hmount, List.append_assoc] at h
  have hslash : '/' ∈ "health".toList := by
    rw [← (List.cons.inj hlist).2]
    simp
  exact absurd hslash (by decide)

/-- No slash stands in the host of valid settings. -/
theorem not_mem_publicHost (hvalid : c.validate = .ok ()) : '/' ∉ c.publicHost.toList := by
  intro hmem
  have hhost : (c.publicHost.toList.contains '/' || c.publicHost.toList.contains ' ') = true := by
    rw [List.contains_iff_mem.2 hmem]
    rfl
  rw [validate, if_pos hhost] at hvalid
  split_ifs at hvalid

/-! ## The addresses of files -/

/-- What stands between the host and the mount path of an address. -/
def portText (c : Config) : String :=
  if 0 < c.publicPort then ":" ++ toString c.publicPort else ""

/-- A port belongs to an authority. -/
theorem isAuthority_of_mem_portText {ch : Char} (h : ch ∈ c.portText.toList) :
    Target.isAuthority ch = true := by
  rw [portText] at h
  split at h
  · rw [String.toList_append, List.mem_append] at h
    rcases h with h | h
    · obtain rfl := List.mem_singleton.1 h
      decide
    · have hdigit : Text.isAsciiDigit ch = true :=
        Text.isAsciiDigit_of_mem_toDigits (n := c.publicPort) (by simpa using h)
      simp only [Target.isAuthority, Target.endsPath_eq_or, Bool.and_eq_true, bne_iff_ne,
        Bool.not_eq_true', Bool.or_eq_false_iff, beq_eq_false_iff_ne]
      refine ⟨?_, ?_, ?_⟩ <;> rintro rfl <;> exact absurd hdigit (by decide)
  · cases h

/-- A host without anything that ends it belongs to the authority as a whole. -/
theorem isAuthority_of_mem (hslash : '/' ∉ c.publicHost.toList)
    (hhost : ∀ ch ∈ c.publicHost.toList, endsPath ch = false) {ch : Char}
    (h : ch ∈ c.publicHost.toList ++ c.portText.toList) : Target.isAuthority ch = true := by
  rcases List.mem_append.1 h with h | h
  · rw [Target.isAuthority, hhost ch h, bne_iff_ne.2 (ne_of_mem_of_not_mem h hslash)]
    rfl
  · exact isAuthority_of_mem_portText h

/-- The path of the address of a file. -/
def addressPath (c : Config) (name : String) : String :=
  (Target.ofText (c.fileUrl name)).path

/-- What begins with the public address, by its parts. -/
theorem publicUrl_append (c : Config) (behind : String) :
    c.publicUrl ++ behind = Target.scheme c.publicSsl ++ "://" ++ String.ofList
      (c.publicHost.toList ++ (c.portText.toList ++ (c.mountPath.toList ++ behind.toList))) := by
  simp only [String.ofList_append, String.ofList_toList, ← String.append_assoc]
  rfl

/-- **Behind a host that is one, the path begins with the mount path**, up to what ends a path. -/
theorem path_ofText_publicUrl_append (hslash : '/' ∉ c.publicHost.toList)
    (hhost : ∀ ch ∈ c.publicHost.toList, endsPath ch = false)
    (hhead : c.mountPath.toList.head? = some '/') (behind : String) :
    (Target.ofText (c.publicUrl ++ behind)).path =
      String.ofList (Text.upTo endsPath (c.mountPath.toList ++ behind.toList)) := by
  obtain ⟨mount, hmount⟩ := List.head?_eq_some_iff.1 hhead
  rw [publicUrl_append, ← List.append_assoc, hmount, List.cons_append,
    Target.path_ofText_of_slash _ fun _ => isAuthority_of_mem hslash hhost]
  rfl

theorem fileUrl_eq_append (c : Config) (name : String) :
    c.fileUrl name = c.publicUrl ++ ("/" ++ Percent.encode name) :=
  String.append_assoc ..

/-- So the path of the address of a file is the mount path and the name. -/
theorem addressPath_of_host (hslash : '/' ∉ c.publicHost.toList)
    (hhost : ∀ ch ∈ c.publicHost.toList, endsPath ch = false)
    (hhead : c.mountPath.toList.head? = some '/') (name : String) :
    c.addressPath name = String.ofList (Text.upTo endsPath
      (c.mountPath.toList ++ '/' :: (Percent.encode name).toList)) := by
  rw [addressPath, fileUrl_eq_append, path_ofText_publicUrl_append hslash hhost hhead,
    String.toList_append]
  rfl

/-- An address whose host is cut off has no path of its own. -/
theorem addressPath_of_endsPath {ch : Char} (hslash : '/' ∉ c.publicHost.toList)
    (hmem : ch ∈ c.publicHost.toList) (hends : endsPath ch = true) (name : String) :
    c.addressPath name = "/" := by
  obtain ⟨rest, hhost, hstop⟩ := Text.exists_append_upTo endsPath c.publicHost.toList
  have hfront : ∀ ch ∈ Text.upTo endsPath c.publicHost.toList, Target.isAuthority ch = true := by
    intro ch hch
    have hne : ch ≠ '/' := by
      rintro rfl
      rw [hhost] at hslash
      exact hslash (List.mem_append_left _ hch)
    rw [Target.isAuthority, Text.stop_of_mem_upTo hch, bne_iff_ne.2 hne]
    rfl
  cases rest with
  | nil =>
    rw [List.append_nil] at hhost
    rw [hhost] at hmem
    rw [Text.stop_of_mem_upTo hmem] at hends
    cases hends
  | cons mark rest =>
    rw [addressPath, fileUrl_eq_append, publicUrl_append, hhost, List.append_assoc,
      List.cons_append,
      Target.path_ofText_of_endsPath _ hfront (hstop mark rfl)]

/-- **The addresses of files are veiled** where what ends a path cuts the mount path off at the
health route. -/
structure Veiled (c : Config) : Prop where
  host : ∀ ch ∈ c.publicHost.toList, endsPath ch = false
  mount : ∃ mark rest, endsPath mark = true ∧
    c.mountPath = healthPath ++ String.ofList (mark :: rest)

/-- **Settings that pass every check keep the health route apart from what is behind the mount
path**: it stands in front of such a path only where the mount path goes on behind it. -/
theorem exists_mark_of_health (hcheck : c.check = .ok events)
    (hhead : c.mountPath.toList.head? = some '/') {name tail : List Char}
    (h : c.mountPath.toList ++ '/' :: name = healthPath.toList ++ tail) :
    ∃ mark rest, tail.head? = some mark ∧
      c.mountPath = healthPath ++ String.ofList (mark :: rest) := by
  -- The mount path ends in front of the end of the health route, or behind it.
  rcases List.append_eq_append_iff.1 h with ⟨more, hmore, hname⟩ | ⟨more, hmore, htail⟩
  · cases more with
    | nil =>
      rw [List.append_nil, String.toList_inj] at hmore
      exact absurd hmore.symm (mountPath_ne_healthPath hcheck)
    | cons ch more =>
      obtain rfl : '/' = ch := (List.cons.inj hname).1
      refine absurd ?_ (behind_ne_healthPath hhead (String.ofList more))
      rw [← String.toList_inj, hmore, String.toList_append, String.toList_append,
        String.toList_ofList (l := more), List.append_assoc]
      rfl
  · cases more with
    | nil =>
      rw [List.append_nil, String.toList_inj] at hmore
      exact absurd hmore (mountPath_ne_healthPath hcheck)
    | cons mark more =>
      refine ⟨mark, more, by rw [htail]; rfl, ?_⟩
      rw [← String.toList_inj, hmore, String.toList_append, String.toList_ofList]

/-- A path behind the mount path is cut off at the health route inside the mount path or nowhere:
the settings keep the two apart where nothing is cut off. -/
theorem upTo_mountPath_eq_iff (hcheck : c.check = .ok events)
    (hhead : c.mountPath.toList.head? = some '/') {name : List Char} :
    String.ofList (Text.upTo endsPath (c.mountPath.toList ++ '/' :: name)) = healthPath ↔
      ∃ mark rest, endsPath mark = true ∧
        c.mountPath = healthPath ++ String.ofList (mark :: rest) := by
  constructor
  · intro hhealth
    obtain ⟨tail, htail, hstop⟩ :=
      Text.exists_append_upTo endsPath (c.mountPath.toList ++ '/' :: name)
    have hcut := congrArg String.toList hhealth
    rw [String.toList_ofList] at hcut
    rw [hcut] at htail
    obtain ⟨mark, rest, hmark, hmount⟩ := exists_mark_of_health hcheck hhead htail
    exact ⟨mark, rest, hstop mark hmark, hmount⟩
  · rintro ⟨mark, rest, hmark, hmount⟩
    have hplain : ∀ ch ∈ healthPath.toList, endsPath ch = false :=
      Target.endsPath_of_not_mem (by decide) (by decide)
    rw [hmount, String.toList_append, String.toList_ofList, List.append_assoc,
      Text.upTo_append hplain, String.ofList_toList]
    rintro ch ⟨⟩
    exact hmark

/-- **The address of a file is one of the health route exactly when it is veiled.** -/
theorem addressPath_eq_healthPath_iff (hcheck : c.check = .ok events)
    (hhead : c.mountPath.toList.head? = some '/') (name : String) :
    c.addressPath name = healthPath ↔ c.Veiled := by
  have hslash := not_mem_publicHost (validate_eq_ok_of_check hcheck)
  constructor
  · intro hhealth
    have hhost : ∀ ch ∈ c.publicHost.toList, endsPath ch = false := by
      intro ch hmem
      refine Bool.eq_false_iff.2 fun hends => ?_
      rw [addressPath_of_endsPath hslash hmem hends] at hhealth
      exact absurd hhealth (by decide)
    refine ⟨hhost, ?_⟩
    rw [addressPath_of_host hslash hhost hhead] at hhealth
    exact (upTo_mountPath_eq_iff hcheck hhead).1 hhealth
  · rintro ⟨hhost, hmount⟩
    rw [addressPath_of_host hslash hhost hhead]
    exact (upTo_mountPath_eq_iff hcheck hhead).2 hmount

/-- Where nothing ends a path too early, the path of an address is the mount path and the name. -/
theorem addressPath_of_plain (hcheck : c.check = .ok events)
    (hhead : c.mountPath.toList.head? = some '/')
    (hhost : ∀ ch ∈ c.publicHost.toList, endsPath ch = false)
    (hmount : ∀ ch ∈ c.mountPath.toList, endsPath ch = false) (name : String) :
    c.addressPath name = c.mountPath ++ "/" ++ Percent.encode name := by
  have hplain : ∀ ch ∈ c.mountPath.toList ++ '/' :: (Percent.encode name).toList,
      endsPath ch = false := by
    simp only [List.mem_append, List.mem_cons]
    rintro ch (hmem | rfl | hmem)
    · exact hmount ch hmem
    · rfl
    · exact Percent.endsPath_of_mem_encode hmem
  have hslash := not_mem_publicHost (validate_eq_ok_of_check hcheck)
  rw [addressPath_of_host hslash hhost hhead, Text.upTo_eq_self hplain, ← String.toList_inj,
    String.toList_ofList, String.toList_append, String.toList_append, List.append_assoc]
  rfl

end Config

/-! ## Routes -/

namespace Service

open Config (healthPath)

variable {c : Config} {r : Request} {path rest : String} {production : Bool} {fresh : Fresh}
  {d : Disk}

/-- Paths that go on otherwise than with a slash are neither the mount path nor behind it. -/
theorem beside_mountPath {ch : Char} (hch : ch ≠ '/')
    (hpath : path = c.mountPath ++ String.singleton ch ++ rest) :
    path ≠ c.mountPath ∧ ∀ rest, path ≠ c.mountPath ++ "/" ++ rest := by
  have hlist : path.toList = c.mountPath.toList ++ ch :: rest.toList := by
    rw [hpath, String.toList_append, String.toList_append, String.toList_singleton,
      List.append_assoc]
    rfl
  constructor
  · rintro rfl
    exact absurd (List.self_eq_append_right.1 hlist) (List.cons_ne_nil _ _)
  · rintro other rfl
    rw [String.toList_append, String.toList_append, List.append_assoc] at hlist
    exact hch (List.cons.inj (List.append_cancel_left hlist)).1.symm

/-- An answer that the disk has no part in. -/
structure Detached (answer : Disk → Answer) : Prop where
  disk : ∀ d, (answer d).disk = d
  response : ∀ d d', (answer d).response = (answer d').response
  events : ∀ d d', (answer d).events = (answer d').events

/-- The health route answers by the method alone. -/
theorem answer_of_health (hpath : r.path = healthPath) : answer production c r fresh d =
    { response := sent production r.method (health r.method), disk := d, events := [] } := by
  rw [answer, respond, route, if_pos hpath]

theorem respond_of_mountPath (hclear : c.mountPath ≠ healthPath) (hpath : r.path = c.mountPath) :
    respond c r fresh d = atUpload c r fresh d := by
  rw [respond, route, if_neg (hpath ▸ hclear), if_pos hpath]

/-- **A request for nothing that is there** is told so. -/
theorem answer_of_elsewhere (hhealth : r.path ≠ healthPath) (hmount : r.path ≠ c.mountPath)
    (hfile : ∀ rest, r.path = c.mountPath ++ "/" ++ rest → isReading r.method = false) :
    answer production c r fresh d =
      { response := sent production r.method urlMissing.response, disk := d,
        events := urlMissing.events } := by
  have hroute : route c r.method r.path = .none := by
    rw [route, if_neg hhealth, if_neg hmount]
    cases hbehind : behindMount? c r.path with
    | none => rfl
    | some rest => simp only [hfile rest (behindMount?_eq_some_iff.1 hbehind), Bool.false_eq_true,
        if_false]
  rw [answer, respond, hroute]
  rfl

/-- How requests are answered from their path: the parts of the service and what is behind none. -/
structure Dispatched (c : Config) : Prop where
  /-- The health route answers its path. -/
  health : ∀ (production : Bool) (r : Request) (fresh : Fresh) (d : Disk), r.path = healthPath →
    answer production c r fresh d =
      { response := sent production r.method (Service.health r.method), disk := d, events := [] }
  /-- The mount path is the upload address. -/
  upload : ∀ (r : Request) (fresh : Fresh) (d : Disk), r.path = c.mountPath →
    respond c r fresh d = atUpload c r fresh d
  /-- What is read behind it is looked up by exactly the rest of the path. -/
  file : ∀ (r : Request) (fresh : Fresh) (d : Disk) (rest : String), isReading r.method = true →
    r.path = c.mountPath ++ "/" ++ rest →
    respond c r fresh d = retrieve c (r.method == "HEAD") rest d
  /-- The disk has no part in any other answer. -/
  other : ∀ (production : Bool) (r : Request) (fresh : Fresh), r.path ≠ c.mountPath →
    (∀ rest, r.path = c.mountPath ++ "/" ++ rest → isReading r.method = false) →
    Detached (answer production c r fresh)
  /-- So it has none in those to paths that go on behind the mount path without a slash. -/
  beside : ∀ (production : Bool) (r : Request) (fresh : Fresh) (ch : Char) (rest : String),
    ch ≠ '/' → r.path = c.mountPath ++ String.singleton ch ++ rest →
    Detached (answer production c r fresh)
  /-- The path of the health route is neither the mount path nor one behind it. -/
  apart : c.mountPath ≠ healthPath ∧ ∀ rest, c.mountPath ++ "/" ++ rest ≠ healthPath
  /-- The address of a file leads behind the mount path, if nothing in it ends a path. -/
  address : (∀ ch ∈ c.publicHost.toList ++ c.mountPath.toList, endsPath ch = false) →
    ∀ name, c.addressPath name = c.mountPath ++ "/" ++ Percent.encode name
  /-- It leads to the health route exactly when that is what such a character leaves. -/
  veiled : ∀ name, c.addressPath name = healthPath ↔ c.Veiled

/-- **Every request is answered by one part of the service**, under all settings that pass every
check and are mounted where settings that were read are. -/
theorem dispatched_of_check {source : Config.Source} {given : Config} {warnings : List Log.Event}
    (hgiven : Config.ofSource source = .ok given) (hmount : c.mountPath = given.mountPath)
    (hcheck : c.check = .ok warnings) : Dispatched c := by
  have hhead : c.mountPath.toList.head? = some '/' := by
    rw [hmount]
    exact Config.head?_mountPath hgiven
  have hclear := Config.mountPath_ne_healthPath hcheck
  have hbehind := Config.behind_ne_healthPath hhead
  have hother : ∀ (production : Bool) (r : Request) (fresh : Fresh), r.path ≠ c.mountPath →
      (∀ rest, r.path = c.mountPath ++ "/" ++ rest → isReading r.method = false) →
      Detached (answer production c r fresh) := by
    intro production r fresh hpath hfile
    by_cases hhealth : r.path = healthPath
    · constructor <;> intros <;> simp only [answer_of_health hhealth]
    · constructor <;> intros <;> simp only [answer_of_elsewhere hhealth hpath hfile]
  constructor
  · intro production r fresh d hpath
    exact answer_of_health hpath
  · intro r fresh d hpath
    exact respond_of_mountPath hclear hpath
  · intro r fresh d rest hreading hpath
    exact Link.respond_behindMount fresh d hreading hpath (hpath ▸ hbehind rest)
  · exact hother
  · intro production r fresh ch rest hch hpath
    obtain ⟨hne, hfile⟩ := beside_mountPath hch hpath
    exact hother production r fresh hne fun other hother => absurd hother (hfile other)
  · exact ⟨hclear, hbehind⟩
  · intro hplain name
    refine Config.addressPath_of_plain hcheck hhead (fun ch hmem => ?_) (fun ch hmem => ?_) name
    · exact hplain ch (List.mem_append_left _ hmem)
    · exact hplain ch (List.mem_append_right _ hmem)
  · exact Config.addressPath_eq_healthPath_iff hcheck hhead

end Service

/-! ## A service whose addresses are veiled -/

namespace Sample

open Http Service

/-- The small service behind a mount path that a question mark cuts off. -/
def veiledSettings : Config :=
  { settings with mountPath := "/health?x" }

/-- Its settings by name. -/
def veiledSource : Config.Source := fun name =>
  [("FILEHOST_HOSTNAME", "files.test"), ("FILEHOST_AUTHENTICATE", "false"),
    ("FILEHOST_UPLOAD_PATH", "up"), ("FILEHOST_URI", "/health?x"),
    ("FILEHOST_TOKEN_SECRET", "0123456789abcdef0123456789abcdef")].lookup name

theorem ofSource_veiled : Config.ofSource veiledSource = .ok veiledSettings := by rfl

theorem veiled_veiled : veiledSettings.Veiled where
  host := Target.endsPath_of_not_mem (by decide) (by decide)
  mount := ⟨'?', ['x'], by decide, by decide⟩

/-- A request to read what is behind the address of a file. -/
def reading (c : Config) (name : String) : Request :=
  { request with method := "GET", path := c.addressPath name, headers := [], chunks := [] }

end Sample

open Sample in
/-- **The settings pass every check, and the address of every file is answered by the health
route.** -/
theorem Service.healthy_of_veiled :
    Config.ofSource veiledSource = .ok veiledSettings ∧ veiledSettings.check = .ok [] ∧
      ∀ (name : String) (d : Disk),
        (answer false veiledSettings (reading veiledSettings name) Sample.fresh d).response =
          sent false "GET" (health "GET") := by
  have hcheck : veiledSettings.check = .ok [] := by rfl
  have hdispatched := dispatched_of_check ofSource_veiled rfl hcheck
  refine ⟨ofSource_veiled, hcheck, fun name d => ?_⟩
  have hpath : (reading veiledSettings name).path = Config.healthPath :=
    (hdispatched.veiled name).2 veiled_veiled
  rw [hdispatched.health false _ Sample.fresh d hpath]
  rfl

end HostedFiles
