import HostedFiles.Proofs.Service.Routing

/-!
# Proofs/Service/MountPaths — what settings make of a mount path

Blanks are taken off both ends of a setting, and then slashes off its end.  What is left begins with
a slash or gets one (`exists_lead`), and no slash is at its end; but where a blank was in front of
the slashes, it is at the end now, and taking off would go on (`normalizeMountPath_eq_self_iff`).
What is inside stays, whatever it is.  So mount paths of accepted settings are as they should be
exactly if the setting is free of blanks and of what ends a path (`mounted_of_ofSource`).
-/

namespace HostedFiles

open Text Http
open HostedFiles.Link (endsPath)

namespace Config

variable {c : Config} {source : Source} {raw path : String}

/-! ## What is kept of a setting -/

/-- What is kept of a setting: the text without blanks around it and slashes at its end. -/
def keptPath (raw : String) : List Char :=
  trimEnd (· == '/') (trim isBlank raw.toList)

/-- **At most a slash is put in front of what is kept**, and only if there is none. -/
theorem exists_lead (raw : String) : ∃ lead, (lead = [] ∨ lead = ['/']) ∧
    (normalizeMountPath raw).toList = lead ++ keptPath raw ∧
      (lead = [] ↔ (keptPath raw).head? = some '/') := by
  rw [normalizeMountPath, keptPath]
  split
  next hnil => exact ⟨['/'], .inr rfl, by rw [hnil]; rfl, by rw [hnil]; simp⟩
  next rest hslash =>
    exact ⟨[], .inl rfl, by rw [hslash, String.toList_ofList]; rfl, by rw [hslash]; simp⟩
  next kept hnil hslash =>
    refine ⟨['/'], .inr rfl, String.toList_ofList, iff_of_false (List.cons_ne_nil _ _) ?_⟩
    intro hhead
    obtain ⟨rest, hrest⟩ := List.head?_eq_some_iff.1 hhead
    exact hslash rest hrest

/-- **Apart from slashes, a mount path holds what the setting holds** between the blanks around
it. -/
theorem mem_normalizeMountPath_iff {ch : Char} (hch : ch ≠ '/') :
    ch ∈ (normalizeMountPath raw).toList ↔ ch ∈ trim isBlank raw.toList := by
  obtain ⟨lead, hlead, hpath, -⟩ := exists_lead raw
  obtain ⟨slashes, htrim, hslashes⟩ := exists_append_trimEnd (· == '/') (trim isBlank raw.toList)
  have hnotLead : ch ∉ lead := by
    rintro hmem
    rcases hlead with rfl | rfl
    · cases hmem
    · exact hch (List.mem_singleton.1 hmem)
  have hnotSlashes : ch ∉ slashes := fun hmem => hch (beq_iff_eq.1 (hslashes ch hmem))
  rw [hpath, htrim, List.mem_append, List.mem_append, or_iff_right hnotLead,
    or_iff_left hnotSlashes, keptPath]

/-- A property of slashes holds of a whole mount path exactly if it holds of the setting. -/
theorem forall_mem_normalizeMountPath_iff {P : Char → Prop} (hslash : P '/') :
    (∀ ch ∈ (normalizeMountPath raw).toList, P ch) ↔ ∀ ch ∈ trim isBlank raw.toList, P ch := by
  constructor
  · intro h ch hch
    by_cases hne : ch = '/'
    · exact hne ▸ hslash
    · exact h ch ((mem_normalizeMountPath_iff hne).2 hch)
  · intro h ch hch
    by_cases hne : ch = '/'
    · exact hne ▸ hslash
    · exact h ch ((mem_normalizeMountPath_iff hne).1 hch)

/-- What is kept does not end in a slash. -/
theorem getLast?_keptPath : ∀ ch ∈ (keptPath raw).getLast?, ch ≠ '/' := fun ch h =>
  beq_eq_false_iff_ne.1 (getLast?_trimEnd ch h)

/-- Something is kept unless the mount path is the root. -/
theorem keptPath_ne_nil (h : normalizeMountPath raw ≠ "/") : keptPath raw ≠ [] := by
  intro hnil
  obtain ⟨lead, hlead, hpath, hiff⟩ := exists_lead raw
  rcases hlead with rfl | rfl
  · rw [hnil] at hiff
    exact absurd (hiff.1 rfl) (by simp)
  · refine h (String.toList_inj.1 ?_)
    rw [hpath, hnil]
    rfl

/-- So a mount path ends as what is kept does. -/
theorem getLast?_normalizeMountPath (h : normalizeMountPath raw ≠ "/") :
    (normalizeMountPath raw).toList.getLast? = (keptPath raw).getLast? := by
  obtain ⟨lead, -, hpath, -⟩ := exists_lead raw
  rw [hpath, List.getLast?_append_of_ne_nil _ (keptPath_ne_nil h)]

/-! ## Normalizing again -/

/-- No blank is in front of a slash. -/
theorem trimStart_of_head? (hhead : path.toList.head? = some '/') :
    trimStart isBlank path.toList = path.toList := by
  obtain ⟨rest, hrest⟩ := List.head?_eq_some_iff.1 hhead
  rw [hrest, trimStart, List.dropWhile_cons_of_neg (by decide)]

/-- A path that begins with a slash can have blanks around it at its end alone. -/
theorem trim_eq_self_iff (hhead : path.toList.head? = some '/') :
    trim isBlank path.toList = path.toList ↔ ∀ ch ∈ path.toList.getLast?, isBlank ch = false := by
  rw [trim, trimStart_of_head? hhead]
  exact ⟨fun h => h ▸ getLast?_trimEnd, trimEnd_eq_self⟩

/-- What is taken off such a path is taken off its end, blanks first. -/
theorem exists_append_keptPath (hhead : path.toList.head? = some '/') :
    ∃ slashes blanks, path.toList = keptPath path ++ (slashes ++ blanks) ∧
      path.toList = trim isBlank path.toList ++ blanks := by
  obtain ⟨blanks, hblanks, -⟩ := exists_append_trimEnd isBlank path.toList
  obtain ⟨slashes, hslashes, -⟩ := exists_append_trimEnd (· == '/') (trim isBlank path.toList)
  have htrim : path.toList = trim isBlank path.toList ++ blanks := by
    rw [trim, trimStart_of_head? hhead]
    exact hblanks
  refine ⟨slashes, blanks, ?_, htrim⟩
  rw [keptPath, ← List.append_assoc, ← hslashes]
  exact htrim

/-- **A path is normal unless a blank is at its end**, if it begins with a slash and ends in
none. -/
theorem normalizeMountPath_eq_self_iff (hhead : path.toList.head? = some '/')
    (hlast : ∀ ch ∈ path.toList.getLast?, ch ≠ '/') :
    normalizeMountPath path = path ↔ trim isBlank path.toList = path.toList := by
  obtain ⟨lead, hlead, hpath, hiff⟩ := exists_lead path
  constructor
  · intro hnormal
    obtain ⟨slashes, blanks, hwhole, htrim⟩ := exists_append_keptPath hhead
    rw [hnormal] at hpath
    rcases hlead with rfl | rfl
    · -- Nothing is put in front, so nothing was taken off.
      rw [List.nil_append] at hpath
      rw [← hpath, List.self_eq_append_right, List.append_eq_nil_iff] at hwhole
      rw [hwhole.2, List.append_nil] at htrim
      exact htrim.symm
    · -- What is kept begins as the path does, with a slash, unless the path is a slash alone.
      cases hkept : keptPath path with
      | nil =>
        rw [hpath, hkept] at hlast
        exact absurd rfl (hlast '/' rfl)
      | cons ch kept =>
        rw [hwhole, hkept] at hhead
        rw [hkept] at hiff
        exact absurd (hiff.2 hhead) (List.cons_ne_nil _ _)
  · intro htrim
    have hkept : keptPath path = path.toList := by
      rw [keptPath, htrim]
      exact trimEnd_eq_self fun ch hch => beq_eq_false_iff_ne.2 (hlast ch hch)
    rw [hkept] at hpath hiff
    rw [hiff.2 hhead] at hpath
    exact String.toList_inj.1 hpath

/-- A setting leaves a blank at the end of the mount path: blanks around it are taken off first, and
slashes were between this one and the end. -/
def LeavesBlank (raw : String) : Prop :=
  ∃ front blank slashes, trim isBlank raw.toList = front ++ blank :: slashes ∧
    isBlank blank = true ∧ slashes ≠ [] ∧ ∀ ch ∈ slashes, ch = '/'

/-- **What is kept of such a setting ends in a blank**, and of no other one. -/
theorem leavesBlank_iff : LeavesBlank raw ↔ ∃ ch ∈ (keptPath raw).getLast?, isBlank ch = true := by
  constructor
  · rintro ⟨front, blank, slashes, htrim, hblank, -, hslashes⟩
    have hstays : (blank == '/') = false := by
      refine beq_eq_false_iff_ne.2 ?_
      rintro rfl
      exact absurd hblank (by decide)
    have hkept : keptPath raw = front ++ [blank] := by
      rw [keptPath, htrim, List.append_cons,
        trimEnd_append_of_all fun ch hch => beq_iff_eq.2 (hslashes ch hch)]
      exact trimEnd_concat hstays
    exact ⟨blank, by rw [hkept, List.getLast?_concat]; rfl, hblank⟩
  · rintro ⟨blank, hlast, hblank⟩
    obtain ⟨front, hfront⟩ := List.getLast?_eq_some_iff.1 (Option.mem_def.1 hlast)
    obtain ⟨slashes, htrim, hslashes⟩ :=
      exists_append_trimEnd (· == '/') (trim isBlank raw.toList)
    rw [← keptPath, hfront, List.append_assoc, List.singleton_append] at htrim
    refine ⟨front, blank, slashes, htrim, hblank, ?_, fun ch hch => beq_iff_eq.1 (hslashes ch hch)⟩
    rintro rfl
    have hend : isBlank blank = false := by
      refine getLast?_trimEnd (s := trimStart isBlank raw.toList) blank ?_
      rw [← trim, htrim, List.getLast?_concat]
      rfl
    exact Bool.false_ne_true (hend.symm.trans hblank)

/-! ## The public address -/

/-- The path of the public address. -/
def publicPath (c : Config) : String :=
  (Target.ofText c.publicUrl).path

/-- **Behind a host that is one, it is the mount path**, up to what ends a path. -/
theorem publicPath_of_host (hslash : '/' ∉ c.publicHost.toList)
    (hhost : ∀ ch ∈ c.publicHost.toList, endsPath ch = false)
    (hhead : c.mountPath.toList.head? = some '/') :
    c.publicPath = String.ofList (upTo endsPath c.mountPath.toList) := by
  have h := path_ofText_publicUrl_append hslash hhost hhead ""
  rwa [String.append_empty, String.toList_empty, List.append_nil] at h

/-- Files are uploaded to the mount path, if it is not that of the health route. -/
theorem route_eq_upload_iff {method : String} :
    Service.route c method path = .upload ↔ path ≠ healthPath ∧ path = c.mountPath := by
  by_cases hhealth : path = healthPath
  · rw [Service.route, if_pos hhealth]
    exact iff_of_false (fun h => by cases h) fun h => h.1 hhealth
  by_cases hmount : path = c.mountPath
  · rw [Service.route, if_neg hhealth, if_pos hmount]
    exact iff_of_true rfl ⟨hhealth, hmount⟩
  · rw [Service.route, if_neg hhealth, if_neg hmount]
    refine iff_of_false (fun h => ?_) fun h => hmount h.2
    cases hbehind : Service.behindMount? c path with
    | none => rw [hbehind] at h; cases h
    | some rest => cases hreads : Service.isReading method <;> simp [hbehind, hreads] at h

/-- **The public address is the upload address unless its path is cut off.** -/
theorem route_publicPath_iff (hslash : '/' ∉ c.publicHost.toList)
    (hhost : ∀ ch ∈ c.publicHost.toList, endsPath ch = false)
    (hhead : c.mountPath.toList.head? = some '/') (method : String) :
    Service.route c method c.publicPath = .upload ↔
      c.mountPath ≠ healthPath ∧ ∀ ch ∈ c.mountPath.toList, endsPath ch = false := by
  have hwhole : c.publicPath = c.mountPath ↔ ∀ ch ∈ c.mountPath.toList, endsPath ch = false := by
    rw [publicPath_of_host hslash hhost hhead, ← String.toList_inj, String.toList_ofList]
    exact ⟨fun h ch hch => stop_of_mem_upTo (h ▸ hch), upTo_eq_self⟩
  rw [route_eq_upload_iff, ← hwhole]
  exact ⟨fun h => ⟨h.2 ▸ h.1, h.2⟩, fun h => ⟨h.2 ▸ h.1, h.2⟩⟩

/-! ## Mount paths of settings that were read -/

/-- A mount path as it should be. -/
structure Canonical (path : String) : Prop where
  /-- A slash is in front, and something behind it. -/
  begins : ∃ first rest, path.toList = '/' :: first :: rest
  /-- No slash is at the end. -/
  ends : ∀ ch ∈ path.toList.getLast?, ch ≠ '/'
  /-- No blank is at either end. -/
  bare : trim isBlank path.toList = path.toList
  /-- Normalizing it makes no difference. -/
  normal : normalizeMountPath path = path
  /-- Nothing in it is a blank or ends a path. -/
  plain : ∀ ch ∈ path.toList, isBlank ch = false ∧ endsPath ch = false

/-- What becomes of a setting for the mount path. -/
structure Mounted (setting : String) (c : Config) : Prop where
  /-- A slash is in front, and something behind it. -/
  begins : ∃ first rest, c.mountPath.toList = '/' :: first :: rest
  /-- No slash is at the end. -/
  ends : ∀ ch ∈ c.mountPath.toList.getLast?, ch ≠ '/'
  /-- A blank is at an end exactly if the setting leaves one, -/
  bare : trim isBlank c.mountPath.toList = c.mountPath.toList ↔ ¬ LeavesBlank setting
  /-- and then alone normalizing would go on. -/
  normal : normalizeMountPath c.mountPath = c.mountPath ↔ ¬ LeavesBlank setting
  /-- Inside, all but slashes is as in the setting. -/
  holds : ∀ ch, ch ≠ '/' → (ch ∈ c.mountPath.toList ↔ ch ∈ trim isBlank setting.toList)
  /-- So the path is as it should be exactly if the setting is, between the blanks around it. -/
  canonical : Canonical c.mountPath ↔
    ∀ ch ∈ trim isBlank setting.toList, isBlank ch = false ∧ endsPath ch = false
  /-- The public address is the upload address exactly if nothing in the path ends one. -/
  reached : (∀ ch ∈ c.publicHost.toList, endsPath ch = false) → ∀ method,
    (Service.route c method c.publicPath = .upload ↔
      c.mountPath ≠ healthPath ∧ ∀ ch ∈ c.mountPath.toList, endsPath ch = false)

/-- Valid settings are not mounted at the root. -/
theorem mountPath_ne_root (hvalid : c.validate = .ok ()) : c.mountPath ≠ "/" := by
  intro hroot
  rw [validate, if_pos hroot] at hvalid
  split_ifs at hvalid

/-- **What becomes of the setting for the mount path**, whatever it is, when the settings are
accepted.  Blanks and what ends a path stay inside, and a blank may get to the end. -/
theorem mounted_of_ofSource (h : ofSource source = .ok c) :
    Mounted (source.textOr "FILEHOST_URI" "/upload") c := by
  have hvalid := validate_of_ofSource h
  have hhead := head?_mountPath h
  have hmount := mountPath_of_ofSource h
  have hroot := mountPath_ne_root hvalid
  generalize source.textOr "FILEHOST_URI" "/upload" = setting at hmount ⊢
  have hbegins : ∃ first rest, c.mountPath.toList = '/' :: first :: rest := by
    obtain ⟨rest, hrest⟩ := List.head?_eq_some_iff.1 hhead
    cases rest with
    | nil => exact absurd (String.toList_inj.1 hrest) hroot
    | cons first rest => exact ⟨first, rest, hrest⟩
  have hlast : c.mountPath.toList.getLast? = (keptPath setting).getLast? := by
    rw [hmount]
    exact getLast?_normalizeMountPath (hmount ▸ hroot)
  have hends : ∀ ch ∈ c.mountPath.toList.getLast?, ch ≠ '/' := by
    rw [hlast]
    exact getLast?_keptPath
  have hholds : ∀ ch, ch ≠ '/' →
      (ch ∈ c.mountPath.toList ↔ ch ∈ trim isBlank setting.toList) := by
    rw [hmount]
    exact fun ch => mem_normalizeMountPath_iff
  have hbare : trim isBlank c.mountPath.toList = c.mountPath.toList ↔ ¬ LeavesBlank setting := by
    rw [trim_eq_self_iff hhead, hlast, leavesBlank_iff]
    simp
  have hnormal : normalizeMountPath c.mountPath = c.mountPath ↔ ¬ LeavesBlank setting := by
    rw [normalizeMountPath_eq_self_iff hhead hends, hbare]
  have hplain : (∀ ch ∈ c.mountPath.toList, isBlank ch = false ∧ endsPath ch = false) ↔
      ∀ ch ∈ trim isBlank setting.toList, isBlank ch = false ∧ endsPath ch = false := by
    rw [hmount]
    exact forall_mem_normalizeMountPath_iff ⟨by decide, by decide⟩
  refine ⟨hbegins, hends, hbare, hnormal, hholds, ⟨fun h => hplain.1 h.plain, fun h => ?_⟩,
    fun hhost => route_publicPath_iff (not_mem_publicHost hvalid) hhost hhead⟩
  have hleaves : ¬ LeavesBlank setting := by
    rintro ⟨front, blank, slashes, htrim, hblank, -⟩
    have hnot := (h blank (by rw [htrim]; simp)).1
    exact Bool.false_ne_true (hnot.symm.trans hblank)
  exact ⟨hbegins, hends, hbare.2 hleaves, hnormal.2 hleaves, hplain.2 h⟩

end Config

/-! ## A mount path that is not as it should be -/

namespace Sample

/-- The small service behind a mount path with a question mark inside and a blank at the end. -/
def untidySettings : Config :=
  { settings with mountPath := "/a?b " }

/-- Its settings by name. -/
def untidySource : Config.Source := fun name =>
  [("FILEHOST_HOSTNAME", "files.test"), ("FILEHOST_AUTHENTICATE", "false"),
    ("FILEHOST_UPLOAD_PATH", "up"), ("FILEHOST_URI", "/a?b /"),
    ("FILEHOST_TOKEN_SECRET", "0123456789abcdef0123456789abcdef")].lookup name

end Sample

open Sample in
/-- **The settings pass every check**, normalizing would go on, and nobody can upload to the public
address. -/
theorem Config.mounted_untidy :
    ofSource untidySource = .ok untidySettings ∧ untidySettings.check = .ok [] ∧
      normalizeMountPath untidySettings.mountPath = "/a?b" ∧
      ¬ Canonical untidySettings.mountPath ∧
      ∀ method, Service.route untidySettings method untidySettings.publicPath ≠ .upload := by
  have hread : ofSource untidySource = .ok untidySettings := by rfl
  have hmounted := mounted_of_ofSource hread
  refine ⟨hread, by rfl, by decide, fun hcanonical => ?_, fun method hupload => ?_⟩
  · exact absurd hcanonical.normal (by decide)
  · have hhost : ∀ ch ∈ untidySettings.publicHost.toList, endsPath ch = false :=
      Target.endsPath_of_not_mem (by decide) (by decide)
    have hplain := ((hmounted.reached hhost method).1 hupload).2
    exact absurd (hplain '?' (by decide)) (by decide)

end HostedFiles
