import HostedFiles.Proofs.Credential.Validity
import Mathlib.Data.List.Forall2

/-!
# Proofs/Credential/Acceptance — which texts are accepted

A text is accepted exactly when it is made of three parts: a header that names the method of
signing, claims that hold, and the code of both under the secret, each of them in the one form in
which it is written (`Signer.accepted_iff`).  What a header and claims have to look like is said
here member by member, without the readers that look at them.  So nobody can change a signature
that is accepted, or make one without the secret's code.
-/

namespace HostedFiles

/-! ## Members of objects -/

namespace Json

variable {p : Json → Bool} {m : Member} {value : Json} {s : String}

/-- A field that may be left out is left out or is right. -/
theorem Member.isOptional_iff : m.isOptional p = true ↔
    m = .absent ∨ ∃ value, m = .once value ∧ p value = true := by
  cases m <;> simp [isOptional]

/-- A field that may not be left out stands once and is right. -/
theorem Member.isRequired_iff : m.isRequired p = true ↔
    ∃ value, m = .once value ∧ p value = true := by
  cases m <;> simp [isRequired]

theorem Member.once?_eq_some_iff : m.once? = some value ↔ m = .once value := by
  cases m <;> simp [once?]

theorem text?_eq_some_iff : value.text? = some s ↔ value = .text (.ok s) := by
  unfold text?
  split <;> simp_all

theorem namesAreTexts_iff {members : List (Except Fault String × Json)} :
    namesAreTexts members = true ↔ ∀ m ∈ members, ∃ name, m.1 = .ok name := by
  have hone : ∀ name : Except Fault String, name.isOk = true ↔ ∃ s, name = .ok s := by
    intro name
    cases name <;> simp [Except.isOk, Except.toBool]
  simp only [namesAreTexts, List.all_eq_true, hone]

end Json

/-! ## Headers -/

namespace Header

/-- A header that names the method of signing, and is right in every field that is known. -/
inductive Sound : Json → Prop where
  /-- By name: the method once, and every other field at most once. -/
  | named {members : List (Except Json.Fault String × Json)} {alg : Json}
      (names : ∀ m ∈ members, ∃ name, m.1 = .ok name)
      (once : Json.member "alg" members = .once alg) (signs : alg.word? = some "HS256")
      (known : ∀ field ∈ ("typ", Json.isTextOrNull) :: optionalFields,
        Json.member field.1 members = .absent ∨
          ∃ value, Json.member field.1 members = .once value ∧ field.2 value = true) :
      Sound (.object members)
  /-- By order: the type, the method, and all other fields. -/
  | listed {type alg : Json} {rest : List Json} (typed : type.isTextOrNull = true)
      (signs : alg.word? = some "HS256")
      (known : List.Forall₂ (fun field value => field.2 value = true) optionalFields rest) :
      Sound (.array (type :: alg :: rest))

/-- A value names the method if its word does. -/
theorem isMethod_iff {value : Json} : isMethod value = true ↔ value.word? = some "HS256" := by
  rw [isMethod, beq_iff_eq, method]

/-- **The headers that are accepted are the sound ones.** -/
theorem accepts_iff_sound {header : Json} : accepts header = true ↔ Sound header := by
  unfold accepts
  split
  next members =>
    simp only [Bool.and_eq_true, Json.namesAreTexts_iff, Json.Member.isRequired_iff, isMethod_iff,
      List.all_eq_true, Json.Member.isOptional_iff]
    constructor
    · rintro ⟨⟨⟨hnames, alg, honce, hsigns⟩, htype⟩, hrest⟩
      exact .named hnames honce hsigns (List.forall_mem_cons.2 ⟨htype, hrest⟩)
    · rintro ⟨hnames, honce, hsigns, hknown⟩
      obtain ⟨htype, hrest⟩ := List.forall_mem_cons.1 hknown
      exact ⟨⟨⟨hnames, _, honce, hsigns⟩, htype⟩, hrest⟩
  next type alg rest =>
    simp only [Bool.and_eq_true, isMethod_iff, beq_iff_eq, List.all_eq_true]
    constructor
    · rintro ⟨⟨⟨htype, hsigns⟩, hlength⟩, hrest⟩
      exact .listed htype hsigns (List.forall₂_iff_zip.2 ⟨hlength.symm, fun h => hrest _ h⟩)
    · rintro (_ | ⟨htype, hsigns, hknown⟩)
      obtain ⟨hlength, hrest⟩ := List.forall₂_iff_zip.1 hknown
      exact ⟨⟨⟨htype, hsigns⟩, hlength.symm⟩, fun pair hpair => hrest hpair⟩
  next hobject harray =>
    refine ⟨nofun, fun hsound => ?_⟩
    cases hsound with
    | named => exact absurd rfl (hobject _)
    | listed => exact absurd rfl (harray _ _ _)

end Header

/-! ## Claims -/

namespace Claims

variable {c : Claims} {value : Json} {n : Int}
  {members : List (Except Json.Fault String × Json)}

/-- A value is the time `n`: a row of digits alone, perhaps behind a minus sign, of a number in
range.  There is no negative zero. -/
inductive IsTime : Json → Int → Prop where
  | since {digits : List Char} (ne_nil : digits ≠ [])
      (all : ∀ ch ∈ digits, Text.isAsciiDigit ch = true)
      (most : (Text.digitsValue digits : Int) ≤ maxTime) :
      IsTime (.number ⟨false, digits, [], none⟩) (Text.digitsValue digits)
  | before {digits : List Char} (ne_nil : digits ≠ [])
      (all : ∀ ch ∈ digits, Text.isAsciiDigit ch = true)
      (negative : -(Text.digitsValue digits : Int) < 0)
      (least : minTime ≤ -(Text.digitsValue digits : Int)) :
      IsTime (.number ⟨true, digits, [], none⟩) (-(Text.digitsValue digits : Int))

/-- **The times that are read are those.** -/
theorem time?_eq_some_iff : time? value = some n ↔ IsTime value n := by
  have hleast : ((-minTime).toNat : Int) = -minTime := by decide
  have hmost : (maxTime.toNat : Int) = maxTime := by decide
  constructor
  · intro h
    unfold time? at h
    split at h
    next negative digits =>
      cases negative with
      | true =>
        obtain ⟨m, hm, h⟩ := Option.bind_eq_some_iff.1 h
        obtain ⟨hne, hall, rfl, hle⟩ := Text.readDigits?_eq_some_iff.1 hm
        split at h
        · cases h
        · obtain rfl := Option.some.inj h
          exact .before hne hall (by omega) (by omega)
      | false =>
        obtain ⟨m, hm, rfl⟩ := Option.map_eq_some_iff.1 h
        obtain ⟨hne, hall, rfl, hle⟩ := Text.readDigits?_eq_some_iff.1 hm
        exact .since hne hall (by omega)
    next => cases h
  · rintro (⟨hne, hall, hle⟩ | ⟨hne, hall, hnegative, hle⟩)
    · exact Option.map_eq_some_iff.2
        ⟨_, Text.readDigits?_eq_some_iff.2 ⟨hne, hall, rfl, by omega⟩, rfl⟩
    · refine Option.bind_eq_some_iff.2
        ⟨_, Text.readDigits?_eq_some_iff.2 ⟨hne, hall, rfl, by omega⟩, ?_⟩
      exact if_neg (by omega)

/-- The members of an object say the claims: each of the four once, and what else is known about
claims can be passed over. -/
structure SaidBy (c : Claims) (members : List (Except Json.Fault String × Json)) : Prop where
  names : ∀ m ∈ members, ∃ name, m.1 = .ok name
  account : Json.member "sub" members = .once (.text (.ok c.account))
  issuer : Json.member "iss" members = .once (.text (.ok c.issuer))
  issued : ∃ value, Json.member "iat" members = .once value ∧ IsTime value c.issued
  expires : ∃ value, Json.member "exp" members = .once value ∧ IsTime value c.expires
  notBefore : Json.member "nbf" members = .absent ∨
    ∃ value, Json.member "nbf" members = .once value ∧ acceptsNotBefore value = true
  audience : Json.member "aud" members = .absent ∨
    ∃ value, Json.member "aud" members = .once value ∧ acceptsAudience value = true

/-- **The claims that are read are those that an object says.** -/
theorem ofJson?_eq_some_iff :
    ofJson? value = some c ↔ ∃ members, value = .object members ∧ c.SaidBy members := by
  unfold ofJson?
  split
  next members =>
    simp only [Json.object.injEq, exists_eq_left']
    constructor
    · intro h
      split at h
      next hother =>
        simp only [Json.namesAreTexts_iff, Json.Member.isOptional_iff] at hother
        obtain ⟨hnames, hbefore, haudience⟩ := hother
        simp only [Option.bind_eq_bind, Option.bind_eq_some_iff, Option.pure_def,
          Json.Member.once?_eq_some_iff, Json.text?_eq_some_iff, time?_eq_some_iff,
          Option.some.injEq] at h
        obtain ⟨_, hsub, account, rfl, _, hiss, issuer, rfl, iat, hiat, issued, hissued, exp, hexp,
          expires, hexpires, rfl⟩ := h
        exact ⟨hnames, hsub, hiss, ⟨iat, hiat, hissued⟩, ⟨exp, hexp, hexpires⟩, hbefore, haudience⟩
      next => cases h
    · rintro ⟨hnames, hsub, hiss, ⟨iat, hiat, hissued⟩, ⟨exp, hexp, hexpires⟩, hbefore, haudience⟩
      rw [if_pos ⟨Json.namesAreTexts_iff.2 hnames, Json.Member.isOptional_iff.2 hbefore,
        Json.Member.isOptional_iff.2 haudience⟩]
      simp only [Option.bind_eq_bind, Option.bind_eq_some_iff, Option.pure_def,
        Json.Member.once?_eq_some_iff, Json.text?_eq_some_iff, time?_eq_some_iff,
        Option.some.injEq]
      exact ⟨_, hsub, _, rfl, _, hiss, _, rfl, iat, hiat, _, hissued, exp, hexp, _, hexpires, rfl⟩
  next hobject =>
    constructor
    · intro h
      cases h
    · rintro ⟨members, rfl, -⟩
      exact absurd rfl (hobject members)

end Claims

/-! ## Credentials -/

namespace Signer

variable {s : Signer} {credential account : String} {t : Instant}
  {header payload signature : List Char}

/-- The three parts of a text, which its last two full stops separate. -/
structure Parts (credential : String) (header payload signature : List Char) : Prop where
  text : credential.toList = header ++ '.' :: payload ++ '.' :: signature
  payload_whole : '.' ∉ payload
  signature_whole : '.' ∉ signature

/-- The third part that goes with the first two: the code of both under the secret, in writing. -/
def sealOf (s : Signer) (header payload : List Char) : List Char :=
  Base64Url.encode (Hmac.code s.secret (Text.bytes (String.ofList (header ++ '.' :: payload))))

/-- A part writes a header that is sound. -/
def WritesHeader (part : List Char) : Prop :=
  ∃ bytes value, part = Base64Url.encode bytes ∧ Json.ofBytes? bytes = some value ∧
    Header.Sound value

/-- A part writes the claims `c`. -/
def WritesClaims (part : List Char) (c : Claims) : Prop :=
  ∃ bytes members, part = Base64Url.encode bytes ∧ Json.ofBytes? bytes = some (.object members) ∧
    c.SaidBy members

/-- The last two full stops are where the text is cut twice. -/
theorem parts_iff : Parts credential header payload signature ↔
    ∃ signed, Text.splitLast? '.' credential.toList = some (signed, signature) ∧
      Text.splitLast? '.' signed = some (header, payload) := by
  constructor
  · rintro ⟨htext, hpayload, hsignature⟩
    refine ⟨header ++ '.' :: payload, ?_, Text.splitLast?_append hpayload⟩
    rw [htext, Text.splitLast?_append hsignature]
  · rintro ⟨signed, hsigned, hparts⟩
    obtain ⟨htext, hsignature⟩ := Text.eq_of_splitLast? hsigned
    obtain ⟨rfl, hpayload⟩ := Text.eq_of_splitLast? hparts
    exact ⟨htext, hpayload, hsignature⟩

/-- A text has its parts in one way. -/
theorem Parts.unique {header' payload' signature' : List Char}
    (h : Parts credential header payload signature)
    (h' : Parts credential header' payload' signature') :
    header = header' ∧ payload = payload' ∧ signature = signature' := by
  obtain ⟨signed, hsigned, hparts⟩ := parts_iff.1 h
  obtain ⟨signed', hsigned', hparts'⟩ := parts_iff.1 h'
  obtain ⟨rfl, rfl⟩ := Prod.mk.inj (Option.some.inj (hsigned.symm.trans hsigned'))
  obtain ⟨rfl, rfl⟩ := Prod.mk.inj (Option.some.inj (hparts.symm.trans hparts'))
  exact ⟨rfl, rfl, rfl⟩

/-- A text of three parts is one that is put together from them. -/
theorem Parts.eq_ofList (h : Parts credential header payload signature) :
    credential = String.ofList (header ++ '.' :: payload ++ '.' :: signature) := by
  rw [← h.text, String.ofList_toList]

/-- The seal is the signature that is asked for. -/
theorem sealOf_eq (s : Signer) (header payload : List Char) :
    s.sealOf header payload = s.signature (header ++ '.' :: payload) := by
  rw [sealOf, Text.bytes, String.toList_ofList]
  rfl

/-- What a part stands for is what it writes. -/
theorem partValue?_eq_some_iff {part : List Char} {value : Json} :
    partValue? part = some value ↔
      ∃ bytes, part = Base64Url.encode bytes ∧ Json.ofBytes? bytes = some value := by
  simp only [partValue?, Option.bind_eq_some_iff, Base64Url.decode?_eq_some_iff]

theorem any_accepts_iff {part : List Char} :
    (partValue? part).any Header.accepts = true ↔ WritesHeader part := by
  simp only [Option.any_eq_true, partValue?_eq_some_iff, Header.accepts_iff_sound]
  constructor
  · rintro ⟨value, ⟨bytes, hpart, hvalue⟩, hsound⟩
    exact ⟨bytes, value, hpart, hvalue, hsound⟩
  · rintro ⟨bytes, value, hpart, hvalue, hsound⟩
    exact ⟨value, ⟨bytes, hpart, hvalue⟩, hsound⟩

theorem bind_ofJson?_eq_some_iff {part : List Char} {c : Claims} :
    (partValue? part).bind Claims.ofJson? = some c ↔ WritesClaims part c := by
  simp only [Option.bind_eq_some_iff, partValue?_eq_some_iff, Claims.ofJson?_eq_some_iff]
  constructor
  · rintro ⟨value, ⟨bytes, hpart, hvalue⟩, members, rfl, hsaid⟩
    exact ⟨bytes, members, hpart, hvalue, hsaid⟩
  · rintro ⟨bytes, members, hpart, hvalue, hsaid⟩
    exact ⟨_, ⟨bytes, hpart, hvalue⟩, members, rfl, hsaid⟩

/-- **Claims are read from a text that is signed**: its third part is the seal of the others, the
first one writes a sound header, and the second one writes the claims. -/
theorem claims?_eq_some_iff {c : Claims} : s.claims? credential = some c ↔
    ∃ header payload signature, Parts credential header payload signature ∧
      signature = s.sealOf header payload ∧ WritesHeader header ∧ WritesClaims payload c := by
  simp only [claims?, Option.bind_eq_bind, Option.bind_eq_some_iff, Prod.exists]
  constructor
  · rintro ⟨signed, signature, hsigned, header, payload, hparts, h⟩
    split at h
    next hgood =>
      obtain ⟨hseal, hheader⟩ := hgood
      have hboth := Text.eq_of_splitLast? hparts
      refine ⟨header, payload, signature, parts_iff.2 ⟨signed, hsigned, hparts⟩, ?_,
        any_accepts_iff.1 hheader, bind_ofJson?_eq_some_iff.1 h⟩
      rw [sealOf_eq, ← hboth.1, hseal]
    next => cases h
  · rintro ⟨header, payload, signature, hparts, hseal, hheader, hclaims⟩
    obtain ⟨signed, hsigned, hsplit⟩ := parts_iff.1 hparts
    refine ⟨signed, signature, hsigned, header, payload, hsplit, ?_⟩
    have hsignature : signature = s.signature signed := by
      rw [hseal, sealOf_eq, ← (Text.eq_of_splitLast? hsplit).1]
    rw [if_pos ⟨hsignature, any_accepts_iff.2 hheader⟩]
    exact bind_ofJson?_eq_some_iff.2 hclaims

/-- **An account is given for claims that are read and hold.** -/
theorem verify_eq_some_iff : s.verify credential t = some account ↔
    ∃ c, s.claims? credential = some c ∧ s.holds c t = true ∧ c.account = account := by
  simp only [verify, Option.bind_eq_bind, Option.bind_eq_some_iff, Option.ite_none_right_eq_some,
    Option.some.injEq]

/-- The third part of a text that is accepted is the seal of the others. -/
theorem eq_sealOf_of_isSome (hparts : Parts credential header payload signature)
    (h : (s.verify credential t).isSome = true) : signature = s.sealOf header payload := by
  obtain ⟨account, haccount⟩ := Option.isSome_iff_exists.1 h
  obtain ⟨c, hclaims, -⟩ := verify_eq_some_iff.1 haccount
  obtain ⟨header', payload', signature', hparts', hseal, -⟩ := claims?_eq_some_iff.1 hclaims
  obtain ⟨rfl, rfl, rfl⟩ := hparts.unique hparts'
  exact hseal

/-- **A text is accepted exactly when it is signed and its claims hold**, and then it is the only
one that is accepted with its first two parts: whatever these say, the third is their code under
the secret. -/
theorem accepted_iff (s : Signer) :
    (∀ (credential account : String) (t : Instant), s.verify credential t = some account ↔
      ∃ header payload signature, Parts credential header payload signature ∧
        signature = s.sealOf header payload ∧ WritesHeader header ∧
        ∃ c : Claims, WritesClaims payload c ∧ c.account = account ∧ c.issuer = s.issuer ∧
          0 ≤ c.expires ∧ c.issued ≤ t.seconds ∧ t.seconds ≤ c.expires) ∧
    (∀ (credential other : String) (t t' : Instant) (header payload g g' : List Char),
      Parts credential header payload g → Parts other header payload g' →
      (s.verify credential t).isSome = true → (s.verify other t').isSome = true →
      credential = other) ∧
    (∀ (credential : String) (t : Instant) (header payload signature : List Char),
      Parts credential header payload signature → (s.verify credential t).isSome = true →
      signature = s.sealOf header payload) := by
  refine ⟨fun credential account t => ?_, fun credential other t t' header payload g g' h h' hsome
    hsome' => ?_, fun _ _ _ _ _ hparts hsome => eq_sealOf_of_isSome hparts hsome⟩
  · rw [verify_eq_some_iff]
    constructor
    · rintro ⟨c, hclaims, hholds, rfl⟩
      obtain ⟨header, payload, signature, hparts, hseal, hheader, hpayload⟩ :=
        claims?_eq_some_iff.1 hclaims
      exact ⟨header, payload, signature, hparts, hseal, hheader, c, hpayload, rfl,
        holds_iff.1 hholds⟩
    · rintro ⟨header, payload, signature, hparts, hseal, hheader, c, hpayload, rfl, hholds⟩
      exact ⟨c, claims?_eq_some_iff.2 ⟨header, payload, signature, hparts, hseal, hheader,
        hpayload⟩, holds_iff.2 hholds, rfl⟩
  · rw [h.eq_ofList, h'.eq_ofList, eq_sealOf_of_isSome h hsome, eq_sealOf_of_isSome h' hsome']

/-- What a signer issued is accepted, and with a sign that fills up its last part it is refused at
every instant. -/
theorem refused_of_filled :
    minuteSigner.verify (minuteSigner.issue "Zoë" (.ofSeconds 1) ⟨5, 0⟩) ⟨6, 0⟩ = some "Zoë" ∧
      ∀ t, minuteSigner.verify (minuteSigner.issue "Zoë" (.ofSeconds 1) ⟨5, 0⟩ ++ "=") t =
        none := by
  have hverify : minuteSigner.verify (minuteSigner.issue "Zoë" (.ofSeconds 1) ⟨5, 0⟩) ⟨6, 0⟩ =
      some "Zoë" := by
    rw [verify_issue_eq rfl (by decide), if_pos (by decide)]
  generalize minuteSigner.issue "Zoë" (.ofSeconds 1) ⟨5, 0⟩ = issued at hverify ⊢
  obtain ⟨hiff, honly, -⟩ := accepted_iff minuteSigner
  obtain ⟨header, payload, signature, hparts, -⟩ := (hiff _ _ _).1 hverify
  have hfilled : Parts (issued ++ "=") header payload (signature ++ ['=']) := by
    refine ⟨?_, hparts.payload_whole, ?_⟩
    · rw [String.toList_append, hparts.text, List.append_assoc]
      rfl
    · rw [List.mem_append, not_or]
      exact ⟨hparts.signature_whole, by decide⟩
  refine ⟨hverify, fun t => Option.not_isSome_iff_eq_none.1 fun hsome => ?_⟩
  have hsame := honly _ _ _ t _ _ _ _ hparts hfilled (by rw [hverify]; rfl) hsome
  have hlength := congrArg String.length hsame
  rw [String.length_append] at hlength
  have hsign : "=".length = 1 := rfl
  omega

end Signer

end HostedFiles
