import HostedFiles.Credential.Basic
import HostedFiles.Proofs.Json.Written

/-!
# Proofs/Credential/Validity — when an issued credential holds

What a credential says is read back from it as it was written (`Claims.ofJson?_written`), and its
signature is right for every signer with the same secret (`Signer.claims?_issue`).  So it holds for
the signers that issue under the same name, from the second it was issued in until its lifetime has
passed, and for nobody else (`Signer.verify_issue`).
-/

namespace HostedFiles

/-- Whether the second of an instant can be named, as that of every instant a clock shows can. -/
def Instant.Nameable (t : Instant) : Prop :=
  Claims.minTime ≤ t.seconds ∧ t.seconds ≤ Claims.maxTime

instance (t : Instant) : Decidable t.Nameable :=
  inferInstanceAs (Decidable (_ ∧ _))

/-! ## What is written in Base64 -/

namespace Base64Url

/-- **What is written consists of symbols.** -/
theorem exists_symbol_of_mem_encode {c : Char} {l : List UInt8} (h : c ∈ encode l) :
    ∃ n < 64, c = symbol n := by
  have hbyte : ∀ b : UInt8, b.toNat < 256 := fun b => b.toNat_lt
  fun_induction encode l with
  | case1 a b d rest ih =>
    have ha := hbyte a
    have hb := hbyte b
    have hd := hbyte d
    simp only [List.mem_cons] at h
    rcases h with rfl | rfl | rfl | rfl | h
    · exact ⟨_, by omega, rfl⟩
    · exact ⟨_, by omega, rfl⟩
    · exact ⟨_, by omega, rfl⟩
    · exact ⟨_, by omega, rfl⟩
    · exact ih h
  | case2 a b =>
    have ha := hbyte a
    have hb := hbyte b
    simp only [List.mem_cons, List.not_mem_nil, or_false] at h
    rcases h with rfl | rfl | rfl
    · exact ⟨_, by omega, rfl⟩
    · exact ⟨_, by omega, rfl⟩
    · exact ⟨_, by omega, rfl⟩
  | case3 a =>
    have ha := hbyte a
    simp only [List.mem_cons, List.not_mem_nil, or_false] at h
    rcases h with rfl | rfl
    · exact ⟨_, by omega, rfl⟩
    · exact ⟨_, by omega, rfl⟩
  | case4 => cases h

/-- What is written holds no full stop. -/
theorem dot_not_mem_encode (l : List UInt8) : '.' ∉ encode l := by
  intro h
  obtain ⟨n, hn, heq⟩ := exists_symbol_of_mem_encode h
  exact symbol_ne_dot n hn heq.symm

end Base64Url

/-! ## What a credential says -/

namespace Claims

variable {c : Claims}

/-- Both times can be named. -/
structure InRange (c : Claims) : Prop where
  least_issued : minTime ≤ c.issued
  issued_most : c.issued ≤ maxTime
  least_expires : minTime ≤ c.expires
  expires_most : c.expires ≤ maxTime

/-- **A time is read back**, if it can be named. -/
theorem time?_ofInt {n : Int} (hleast : minTime ≤ n) (hmost : n ≤ maxTime) :
    time? (.number (.ofInt n)) = some n := by
  rw [minTime] at hleast
  rw [maxTime] at hmost
  rw [Json.Numeral.ofInt, time?]
  by_cases hn : n < 0
  · rw [decide_eq_true hn, if_pos rfl, Text.readDigits?_toDigits (by rw [minTime]; omega)]
    rw [Option.bind_some, if_neg (by omega)]
    exact congrArg some (by omega)
  · rw [decide_eq_false hn, if_neg Bool.false_ne_true,
      Text.readDigits?_toDigits (by rw [maxTime]; omega)]
    exact congrArg some (by rw [Int.ofNat_eq_natCast]; omega)

/-- Every time that is clamped can be named. -/
theorem clampTime_bounds (n : Int) : minTime ≤ clampTime n ∧ clampTime n ≤ maxTime := by
  simp only [clampTime, minTime, maxTime]
  omega

/-- A time that is clamped lies behind 1970 if it did before. -/
theorem nonneg_clampTime {n : Int} : 0 ≤ clampTime n ↔ 0 ≤ n := by
  simp only [clampTime, minTime, maxTime]
  omega

/-- What can be named lies before a clamped time if it lay before the time itself. -/
theorem le_clampTime {n m : Int} (hn : 0 ≤ n) (hm : m ≤ maxTime) : m ≤ clampTime n ↔ m ≤ n := by
  simp only [clampTime, minTime, maxTime] at hm ⊢
  omega

/-- A field that holds a time. -/
def timeField (name : String) (time : Int) : Json.Field :=
  ⟨name, (toString time).toList, .number (.ofInt time), Json.reads_int time⟩

/-- The claims are written as an object of four fields. -/
theorem writtenChars_eq (c : Claims) : c.writtenChars =
    Json.writtenObject (.ofText "sub" c.account)
      [.ofText "iss" c.issuer, timeField "iat" c.issued, timeField "exp" c.expires] := by
  have hsub : "\x7b\"sub\":".toList = '\x7b' :: (Json.quote "sub" ++ [':']) := by
    simp [Json.quote, Json.escape]
  have hiss : ",\"iss\":".toList = ',' :: (Json.quote "iss" ++ [':']) := by
    simp [Json.quote, Json.escape]
  have hiat : ",\"iat\":".toList = ',' :: (Json.quote "iat" ++ [':']) := by
    simp [Json.quote, Json.escape]
  have hexp : ",\"exp\":".toList = ',' :: (Json.quote "exp" ++ [':']) := by
    simp [Json.quote, Json.escape]
  unfold writtenChars
  rw [hsub, hiss, hiat, hexp]
  unfold Json.writtenObject
  simp only [Json.writtenBehind, Json.Field.chars, Json.Field.ofText, timeField,
    List.append_assoc, List.cons_append, List.nil_append]

/-- The members that claims are read from. -/
def members (c : Claims) : List (Except Json.Fault String × Json) :=
  [(.ok "sub", .text (.ok c.account)), (.ok "iss", .text (.ok c.issuer)),
    (.ok "iat", .number (.ofInt c.issued)), (.ok "exp", .number (.ofInt c.expires))]

/-- **The claims are read back as they were written.** -/
theorem ofJson?_written (h : c.InRange) :
    (Json.ofBytes? (Text.bytes c.written)).bind ofJson? = some c := by
  have hread : Json.ofBytes? (Text.bytes c.written) = some (.object c.members) := by
    rw [written, writtenChars_eq, Json.ofBytes?_writtenObject]
    rfl
  have hnames : Json.namesAreTexts c.members = true := rfl
  have hsub : Json.member "sub" c.members = .once (.text (.ok c.account)) := rfl
  have hiss : Json.member "iss" c.members = .once (.text (.ok c.issuer)) := rfl
  have hiat : Json.member "iat" c.members = .once (.number (.ofInt c.issued)) := rfl
  have hexp : Json.member "exp" c.members = .once (.number (.ofInt c.expires)) := rfl
  have hnbf : Json.member "nbf" c.members = .absent := rfl
  have haud : Json.member "aud" c.members = .absent := rfl
  have hissued := time?_ofInt h.least_issued h.issued_most
  have hexpires := time?_ofInt h.least_expires h.expires_most
  rw [hread, Option.bind_some, ofJson?, hnames, hsub, hiss, hiat, hexp, hnbf, haud,
    if_pos ⟨rfl, rfl, rfl⟩]
  simp only [Json.Member.once?, Json.text?, Option.bind_eq_bind, Option.bind_some, hissued,
    hexpires]
  rfl

end Claims

namespace Signer

variable {A B : Signer} {account : String} {lifetime : Duration} {t₀ t : Instant}

/-! ## What a signer reads -/

/-- The value that a written part of a credential stands for. -/
theorem partValue?_encode (s : String) :
    partValue? (Base64Url.encode (Text.bytes s)) = Json.ofBytes? (Text.bytes s) := by
  rw [partValue?, Base64Url.decode?_encode, Option.bind_some]

/-- The header is written as an object of two fields. -/
theorem header_written_eq : Header.written.toList =
    Json.writtenObject (.ofText "typ" "JWT") [.ofText "alg" "HS256"] := by
  simp [Header.written, Json.writtenObject, Json.writtenBehind, Json.Field.chars,
    Json.Field.ofText, Json.quote, Json.escape]

/-- **The header in front of an issued credential is accepted.** -/
theorem accepts_written :
    (Json.ofBytes? (Text.bytes Header.written)).any Header.accepts = true := by
  rw [← String.ofList_toList (s := Header.written), header_written_eq, Json.ofBytes?_writtenObject]
  rfl

/-- The signature depends on the secret alone. -/
theorem signature_eq (h : A.secret = B.secret) (signed : List Char) :
    A.signature signed = B.signature signed := by
  rw [signature, signature, h]

/-- **A signer with the same secret reads what the credential says.** -/
theorem claims?_issue (hsecret : A.secret = B.secret)
    (hin : (A.claims account lifetime t₀).InRange) :
    B.claims? (A.issue account lifetime t₀) = some (A.claims account lifetime t₀) := by
  have hsigned : Text.splitLast? '.' (A.issue account lifetime t₀).toList =
      some (signedPart (A.claims account lifetime t₀),
        A.signature (signedPart (A.claims account lifetime t₀))) := by
    rw [issue, String.toList_ofList]
    exact Text.splitLast?_append (Base64Url.dot_not_mem_encode _)
  have hparts : Text.splitLast? '.' (signedPart (A.claims account lifetime t₀)) =
      some (Base64Url.encode (Text.bytes Header.written),
        Base64Url.encode (Text.bytes (A.claims account lifetime t₀).written)) :=
    Text.splitLast?_append (Base64Url.dot_not_mem_encode _)
  have hpayload := Claims.ofJson?_written hin
  rw [claims?, hsigned]
  simp only [Option.bind_eq_bind, Option.bind_some, hparts, partValue?_encode, accepts_written,
    signature_eq hsecret, and_self, if_true]
  exact hpayload

/-- What is issued at an instant that can be named says times that can be named. -/
theorem inRange_claims (h : t₀.Nameable) (account : String) (lifetime : Duration) :
    (A.claims account lifetime t₀).InRange where
  least_issued := h.1
  issued_most := h.2
  least_expires := (Claims.clampTime_bounds _).1
  expires_most := (Claims.clampTime_bounds _).2

/-! ## When a credential holds -/

/-- **A credential is verified by the times it says**, whoever of the same secret issued it. -/
theorem verify_issue_eq (hsecret : A.secret = B.secret) (h₀ : t₀.Nameable) :
    B.verify (A.issue account lifetime t₀) t =
      if B.holds (A.claims account lifetime t₀) t then some account else none := by
  rw [verify, claims?_issue hsecret (inRange_claims h₀ account lifetime)]
  rfl

/-- A lifetime of no more seconds than the greatest time has is added as it is. -/
theorem signedSeconds_of_le {d : Duration} (h : d.seconds ≤ Claims.maxTime) :
    signedSeconds d = d.seconds := by
  unfold Claims.maxTime at h
  exact Int.bmod_eq_of_le (by omega) (by omega)

/-- A longer lifetime is taken off. -/
theorem signedSeconds_neg {d : Duration} (hleast : Claims.maxTime < d.seconds)
    (hmost : d.seconds ≤ Text.maxUnsigned) : signedSeconds d < 0 := by
  unfold signedSeconds
  unfold Claims.maxTime at hleast
  unfold Text.maxUnsigned at hmost
  generalize d.seconds = n at hleast hmost ⊢
  have hmod : (n : Int) % (18446744073709551616 : Nat) = n :=
    Int.emod_eq_of_lt (by omega) (by omega)
  rw [Int.bmod_def, hmod, if_neg (by omega)]
  omega

/-- What makes a credential hold. -/
theorem holds_iff {s : Signer} {c : Claims} :
    s.holds c t = true ↔
      c.issuer = s.issuer ∧ 0 ≤ c.expires ∧ c.issued ≤ t.seconds ∧ t.seconds ≤ c.expires := by
  simp only [holds, Bool.and_eq_true, beq_iff_eq, decide_eq_true_eq, and_assoc]

/-- A credential expires when its lifetime, brought within the bounds, is over. -/
theorem expires_claims : (A.claims account lifetime t₀).expires =
    Claims.clampTime (t₀.seconds + signedSeconds (lifetime.clamp A.least A.most)) := by
  rw [claims, lifetime.within_eq_clamp A.ordered]

/-- **A credential holds for its lifetime**: from the second of its issue on, for signers of the
same name. -/
theorem holds_claims_iff (hlife : (lifetime.clamp A.least A.most).seconds ≤ Claims.maxTime)
    (hend : 0 ≤ t₀.seconds + (lifetime.clamp A.least A.most).seconds) (ht : t.Nameable) :
    B.holds (A.claims account lifetime t₀) t = true ↔
      A.issuer = B.issuer ∧ t₀.seconds ≤ t.seconds ∧
        t.seconds ≤ t₀.seconds + (lifetime.clamp A.least A.most).seconds := by
  have hexpires : (A.claims account lifetime t₀).expires =
      Claims.clampTime (t₀.seconds + (lifetime.clamp A.least A.most).seconds) := by
    rw [expires_claims, signedSeconds_of_le hlife]
  rw [holds_iff, hexpires, Claims.nonneg_clampTime, Claims.le_clampTime hend ht.2]
  exact and_congr_right fun _ => and_iff_right hend

/-- **A lifetime that does not fit is taken off the time of issue**: such a credential never
holds. -/
theorem not_holds_claims (hleast : Claims.maxTime < (lifetime.clamp A.least A.most).seconds)
    (hmost : (lifetime.clamp A.least A.most).seconds ≤ Text.maxUnsigned) (ht : t.Nameable) :
    B.holds (A.claims account lifetime t₀) t = false := by
  refine Bool.eq_false_iff.2 fun hholds => ?_
  obtain ⟨-, hend, hissued, hexpires⟩ := holds_iff.1 hholds
  rw [expires_claims] at hend hexpires
  have hafter := (Claims.le_clampTime (Claims.nonneg_clampTime.1 hend) ht.2).1 hexpires
  have hwrapped := signedSeconds_neg hleast hmost
  have hbefore : t₀.seconds ≤ t₀.seconds + signedSeconds (lifetime.clamp A.least A.most) :=
    Int.le_trans hissued hafter
  omega

/-- **A credential holds exactly for its lifetime**, in whole seconds and at both ends; it names the
account it was issued to, and signers of another name refuse it. -/
theorem verify_issue (A B : Signer) (hsecret : A.secret = B.secret) (account : String)
    (lifetime : Duration) (t₀ t : Instant) (h₀ : t₀.Nameable) (ht : t.Nameable)
    (hlife : (lifetime.clamp A.least A.most).seconds ≤ Claims.maxTime)
    (hend : 0 ≤ t₀.seconds + (lifetime.clamp A.least A.most).seconds) :
    B.verify (A.issue account lifetime t₀) t =
      if A.issuer = B.issuer ∧ t₀.seconds ≤ t.seconds ∧
          t.seconds ≤ t₀.seconds + (lifetime.clamp A.least A.most).seconds then some account
      else none := by
  rw [verify_issue_eq hsecret h₀]
  simp only [holds_claims_iff hlife hend ht]

/-- A signer whose credentials hold for a minute at most. -/
def minuteSigner : Signer where
  secret := [115]
  issuer := "files"
  least := .ofSeconds 1
  most := .ofSeconds 60
  secret_nonempty := by decide
  ordered := by decide

/-- A credential that was asked to hold for longer holds up to the sixtieth second, and no
longer. -/
theorem verify_issue_minute :
    minuteSigner.verify (minuteSigner.issue "Zoë \"z\"" (.ofSeconds 100) ⟨5, 900000000⟩) ⟨65, 7⟩ =
        some "Zoë \"z\"" ∧
      minuteSigner.verify (minuteSigner.issue "Zoë \"z\"" (.ofSeconds 100) ⟨5, 900000000⟩)
        (.ofSeconds 66) = none := by
  have hlife :
      (Duration.clamp (.ofSeconds 100) minuteSigner.least minuteSigner.most).seconds = 60 := rfl
  constructor
  · rw [verify_issue minuteSigner minuteSigner rfl _ _ _ _ (by decide) (by decide)
      (by rw [hlife]; decide) (by rw [hlife]; decide), hlife]
    exact if_pos (by decide)
  · rw [verify_issue minuteSigner minuteSigner rfl _ _ _ _ (by decide) (by decide)
      (by rw [hlife]; decide) (by rw [hlife]; decide), hlife]
    exact if_neg (by decide)

end Signer

end HostedFiles
