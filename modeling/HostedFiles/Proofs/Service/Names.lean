import HostedFiles.Proofs.Store.Names
import HostedFiles.Service.Retrieve
import HostedFiles.Service.Upload

/-!
# Proofs/Service/Names — the name of an upload and its address

The name of an upload is one that the store takes (`isStored_uploadName`).  Its address is fit for a
header when the public address is (`isHeaderValue_fileUrl`), and the end of the address asks for the
same name again (`resolvedName?_encode`).
-/

namespace HostedFiles

/-! ## Characters -/

namespace Text

/-- Where ASCII letters and digits lie. -/
theorem toNat_of_isAsciiAlphanumeric {c : Char} (h : isAsciiAlphanumeric c = true) :
    (48 ≤ c.toNat ∧ c.toNat ≤ 57) ∨ (65 ≤ c.toNat ∧ c.toNat ≤ 90) ∨
      (97 ≤ c.toNat ∧ c.toNat ≤ 122) := by
  have hle : ∀ a b : Char, a ≤ b ↔ a.toNat ≤ b.toNat := fun a b => UInt32.le_iff_toNat_le
  simp only [isAsciiAlphanumeric, isAsciiLetter, isAsciiDigit, Bool.or_eq_true, Bool.and_eq_true,
    decide_eq_true_eq, hle] at h
  have hsigns : 'a'.toNat = 97 ∧ 'z'.toNat = 122 ∧ 'A'.toNat = 65 ∧ 'Z'.toNat = 90 ∧
      '0'.toNat = 48 ∧ '9'.toNat = 57 := by decide
  omega

end Text

namespace FileName

open Text

/-- A character that is visible in ASCII and no slash of either kind is safe. -/
theorem isUnsafe_eq_false {c : Char} (hlow : 32 ≤ c.toNat) (hhigh : c.toNat < 127)
    (hslash : c.toNat ≠ 47) (hback : c.toNat ≠ 92) : isUnsafe c = false := by
  have hne : c ≠ '/' ∧ c ≠ '\\' := ⟨fun h => hslash (h ▸ rfl), fun h => hback (h ▸ rfl)⟩
  simp only [isUnsafe, isControl, beq_eq_false_iff_ne.2 hne.1, beq_eq_false_iff_ne.2 hne.2,
    Bool.false_or, Bool.or_eq_false_iff, Bool.and_eq_false_iff, decide_eq_false_iff_not]
  omega

end FileName

/-- A type that implies an extension is in the list with it. -/
theorem ContentType.mem_accepted {value extension : String}
    (h : extension? value = some extension) : (normalize value, extension) ∈ accepted := by
  obtain ⟨before, after, hrows, -⟩ := List.lookup_eq_some_iff.1 h
  rw [hrows]
  simp

namespace Store

variable {name : String}

/-- The names that the store takes. -/
theorem isStored_iff : IsStored name ↔ (∀ c ∈ name.toList, FileName.isUnsafe c = false) ∧
    name ≠ "" ∧ name ≠ "." ∧ name ≠ ".." ∧ name ≠ partialName := by
  have hpair : IsStored name ↔ FileName.sanitize? name = some name ∧ name ≠ partialName :=
    ⟨fun h => ⟨h.clean, h.ne_partial⟩, fun h => ⟨h.1, h.2⟩⟩
  rw [hpair, FileName.sanitize?_eq_self_iff, FileName.isReserved]
  simp only [Bool.or_eq_false_iff, beq_eq_false_iff_ne, and_assoc]

end Store

open Http Text

/-! ## What is taken from outside -/

namespace Fresh

/-- A fresh name is sixteen letters or digits, and a mark thirty six letters, digits or hyphens. -/
structure Proper (fresh : Fresh) : Prop where
  name_length : fresh.name.length = 16
  name_chars : fresh.name.toList.all isAsciiAlphanumeric = true
  mark_length : fresh.mark.length = 36
  mark_chars : fresh.mark.toList.all (fun c => isAsciiAlphanumeric c || c == '-') = true

variable {fresh : Fresh} (h : fresh.Proper)

include h

/-- The mark gives an unfinished file a name. -/
theorem Proper.isName_unfinished : Path.IsName (fresh.mark ++ ".part") := by
  have hlength : (fresh.mark ++ ".part").length = 41 := by
    rw [String.length_append, h.mark_length]
    rfl
  refine ⟨fun hslash => ?_, ?_, ?_, ?_⟩
  · rw [String.toList_append, List.mem_append] at hslash
    rcases hslash with hslash | hslash
    · exact absurd (List.all_eq_true.1 h.mark_chars _ hslash) (by decide)
    · exact absurd hslash (by decide)
  all_goals
    intro heq
    rw [heq] at hlength
    exact absurd hlength (by decide)

/-- The name is short enough to stand in a directory. -/
theorem Proper.short_unfinished :
    (fresh.mark ++ ".part").utf8ByteSize ≤ Disk.maxNameBytes := by
  have hle := utf8ByteSize_le (fresh.mark ++ ".part")
  have hlength : (fresh.mark ++ ".part").length = 41 := by
    rw [String.length_append, h.mark_length]
    rfl
  rw [Disk.maxNameBytes]
  omega

/-- A fresh name has no full stop. -/
theorem Proper.stop_not_mem : '.' ∉ fresh.name.toList :=
  fun hmem => absurd (List.all_eq_true.1 h.name_chars _ hmem) (by decide)

/-- A fresh name is one that the store takes. -/
theorem Proper.isStored : Store.IsStored fresh.name := by
  refine Store.isStored_iff.2 ⟨fun c hc => ?_, ?_⟩
  · have hc := toNat_of_isAsciiAlphanumeric (List.all_eq_true.1 h.name_chars c hc)
    exact FileName.isUnsafe_eq_false (by omega) (by omega) (by omega) (by omega)
  · have hne : ∀ other : String, other.length ≠ 16 → fresh.name ≠ other :=
      fun other hother heq => hother (heq ▸ h.name_length)
    exact ⟨hne _ (by decide), hne _ (by decide), hne _ (by decide), hne _ (by decide)⟩

end Fresh

/-! ## The name of an upload -/

namespace Service

variable {c : Config} {r : Request} {fresh : Fresh} {name extension : String}

/-- The extensions that content types imply hold safe characters. -/
theorem isUnsafe_of_extension {value : String} (h : ContentType.extension? value = some extension) :
    ∀ c ∈ extension.toList, FileName.isUnsafe c = false := by
  have hall : ContentType.accepted.all (fun row =>
      row.2.toList.all fun c => !FileName.isUnsafe c) = true := by decide
  intro c hc
  have hsafe := List.all_eq_true.1 (List.all_eq_true.1 hall _ (ContentType.mem_accepted h)) c hc
  rwa [Bool.not_eq_true'] at hsafe

/-- **A name that the store takes stays one with an extension.** -/
theorem isStored_withExtension (h : Store.IsStored name)
    (hext : ∀ c ∈ extension.toList, FileName.isUnsafe c = false) :
    Store.IsStored (withExtension name extension) ∧
      '.' ∈ (withExtension name extension).toList := by
  rw [withExtension]
  split
  next hstop => exact ⟨h, List.contains_iff_mem.1 hstop⟩
  next hstop =>
  have hstop : '.' ∉ name.toList := fun hmem => hstop (List.contains_iff_mem.2 hmem)
  have hchars : (name ++ "." ++ extension).toList = name.toList ++ '.' :: extension.toList := by
    simp
  refine ⟨Store.isStored_iff.2 ⟨?_, ?_⟩, by simp⟩
  · intro c hc
    rw [hchars, List.mem_append, List.mem_cons] at hc
    rcases hc with hc | rfl | hc
    · exact (Store.isStored_iff.1 h).1 c hc
    · decide
    · exact hext c hc
  · -- The first character is that of the name, and no full stop.
    cases hname : name.toList with
    | nil => exact absurd hname h.isName.toList_ne_nil
    | cons first rest =>
      rw [hname, List.mem_cons, not_or] at hstop
      have hfirst : ∀ other : String, other.toList.head? ≠ some first →
          name ++ "." ++ extension ≠ other := by
        intro other hother heq
        refine hother ?_
        rw [← heq, hchars, hname]
        rfl
      have hne : some '.' ≠ some first := fun heq => hstop.1 (Option.some.inj heq)
      exact ⟨hfirst "" (by simp), hfirst "." hne, hfirst ".." hne, hfirst Store.partialName hne⟩

/-- The name that was asked for, made safe; nothing if none was. -/
def safeName (requested : Option String) : String :=
  (requested.map FileName.neutralize).getD ""

/-- It holds safe characters. -/
theorem isUnsafe_of_mem_safeName {requested : Option String} :
    ∀ c ∈ (safeName requested).toList, FileName.isUnsafe c = false := by
  cases requested with
  | none => exact nofun
  | some wanted => exact fun c hc => FileName.isUnsafe_of_mem_neutralize hc

/-- A name that is impossible for an upload, though made safe. -/
def IsImpossible (name : String) : Prop :=
  name = "." ∨ name = ".." ∨ name = Store.partialName

instance (name : String) : Decidable (IsImpossible name) :=
  inferInstanceAs (Decidable (_ ∨ _))

/-- **How an upload gets its name.** -/
theorem uploadName_eq (r : Request) (extension generated : String) :
    uploadName r extension generated = (requestedName r).bind fun requested =>
      if IsImpossible (safeName requested) then .error invalidName
      else .ok (withExtension
        (if safeName requested = "" then generated else safeName requested) extension) := by
  rw [uploadName]
  cases requestedName r with
  | error f => rfl
  | ok requested => cases requested <;> rfl

/-- It gets one unless the one that was asked for is impossible. -/
theorem uploadName_eq_ok_iff {generated : String} :
    uploadName r extension generated = .ok name ↔
      ∃ requested, requestedName r = .ok requested ∧ ¬ IsImpossible (safeName requested) ∧
        name = withExtension (if safeName requested = "" then generated else safeName requested)
          extension := by
  rw [uploadName_eq]
  cases requestedName r with
  | error f => simp [Except.bind]
  | ok requested =>
    simp only [Except.bind, Except.ok.injEq, exists_eq_left']
    split
    next himpossible => exact ⟨nofun, fun h => absurd himpossible h.1⟩
    next hpossible => exact ⟨fun h => ⟨hpossible, (Except.ok.inj h).symm⟩, fun h => h.2 ▸ rfl⟩

/-- **An upload is stored under a name that the store takes**, and that has a full stop. -/
theorem isStored_uploadName (h : fresh.Proper) {value : String}
    (hext : ContentType.extension? value = some extension)
    (hname : uploadName r extension fresh.name = .ok name) :
    Store.IsStored name ∧ '.' ∈ name.toList := by
  obtain ⟨requested, -, hpossible, rfl⟩ := uploadName_eq_ok_iff.1 hname
  refine isStored_withExtension ?_ (isUnsafe_of_extension hext)
  split
  next => exact h.isStored
  next hne =>
    rw [IsImpossible, not_or, not_or] at hpossible
    exact Store.isStored_iff.2 ⟨isUnsafe_of_mem_safeName, hne, hpossible⟩

/-! ## Its address -/

/-- An address is written in characters that are visible in ASCII, and no slash. -/
theorem mem_encode {c : Char} (h : c ∈ (Percent.encode name).toList) :
    32 ≤ c.toNat ∧ c.toNat < 127 ∧ c ≠ '/' := by
  have hdigit : ∀ n < 16, 32 ≤ (Percent.hexDigit n).toNat ∧ (Percent.hexDigit n).toNat < 127 ∧
      Percent.hexDigit n ≠ '/' := by decide
  rw [Percent.encode, String.toList_ofList, List.mem_flatMap] at h
  obtain ⟨a, -, hc⟩ := h
  rw [Percent.encodeChar] at hc
  split at hc
  next hself =>
    rw [List.mem_singleton] at hc
    subst hc
    simp only [Percent.isUnreserved, Bool.or_eq_true, beq_iff_eq] at hself
    rcases hself with (((hself | rfl) | rfl) | rfl) | rfl
    · have hn := toNat_of_isAsciiAlphanumeric hself
      refine ⟨by omega, by omega, fun heq => ?_⟩
      rw [heq, show '/'.toNat = 47 from rfl] at hn
      omega
    all_goals decide
  next =>
    obtain ⟨b, -, hc⟩ := List.mem_flatMap.1 hc
    have hb : b.toNat < 256 := b.toNat_lt
    simp only [Percent.encodeByte, List.mem_cons, List.not_mem_nil, or_false] at hc
    rcases hc with rfl | rfl | rfl
    · decide
    · exact hdigit _ (by omega)
    · exact hdigit _ (by omega)

/-- **The address of a file is fit for a header** exactly when the public address is. -/
theorem isHeaderValue_fileUrl (name : String) :
    isHeaderValue (c.fileUrl name) = isHeaderValue c.publicUrl := by
  have hname : (Percent.encode name).toList.all
      (fun c => (32 ≤ c.toNat && c.toNat != 127) || c == '\t') = true := by
    refine List.all_eq_true.2 fun c hc => ?_
    obtain ⟨hlow, hhigh, -⟩ := mem_encode hc
    simp only [Bool.or_eq_true, Bool.and_eq_true, decide_eq_true_eq, bne_iff_ne]
    exact .inl ⟨hlow, by omega⟩
  rw [isHeaderValue, isHeaderValue, Config.fileUrl, String.toList_append, String.toList_append,
    List.all_append, List.all_append, hname, Bool.and_true]
  exact Bool.and_true _

/-- Different names have different addresses. -/
theorem fileUrl_injective {other : String} (h : c.fileUrl name = c.fileUrl other) :
    name = other := by
  have hchars := congrArg String.toList h
  simp only [Config.fileUrl, String.toList_append, List.append_cancel_left_eq] at hchars
  have hdecode := congrArg Percent.decode? hchars
  rw [Percent.decode?_encode, Percent.decode?_encode] at hdecode
  exact Option.some.inj hdecode

/-- **The end of its address asks for the file** again. -/
theorem resolvedName?_encode (h : Store.IsStored name) :
    resolvedName? (Percent.encode name) = some name := by
  have hslash : Text.trimStart (· == '/') (Percent.encode name).toList =
      (Percent.encode name).toList := by
    rw [trimStart]
    cases hchars : (Percent.encode name).toList with
    | nil => rfl
    | cons first rest =>
      have hfirst := @mem_encode name first (by rw [hchars]; exact List.mem_cons_self)
      rw [List.dropWhile_cons, beq_eq_false_iff_ne.2 hfirst.2.2]
      rfl
  rw [resolvedName?, hslash, Percent.decode?_encode]
  exact h.clean

end Service

end HostedFiles
