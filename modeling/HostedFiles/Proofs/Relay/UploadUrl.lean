import HostedFiles.Proofs.Credential.Validity
import HostedFiles.Proofs.Relay.Amounts
import HostedFiles.Proofs.Service.UploadOrder
import HostedFiles.Relay.Command

/-!
# Proofs/Relay/UploadUrl — how long a handed out address can be used

The credential in an address survives being read as a field of a query (`queryCredential?_issue`).
So an upload to the address is let in from the second the address was handed out in, for the
lifetime that is told with it — if that lifetime fits a signed number of sixty four binary digits.
A longer one is told all the same, and the address is never let in (`handedOut_of_check`).
-/

namespace HostedFiles

/-! ## The characters of a credential -/

/-- No symbol means anything else inside a query. -/
theorem Base64Url.symbol_plain : ∀ n < 64, symbol n ≠ '%' ∧ symbol n ≠ '+' ∧ symbol n ≠ '&' := by
  decide

namespace Signer

variable {A B : Signer} {account : String} {lifetime : Duration} {t₀ t : Instant}

/-- **A credential holds no character that means anything else inside a query.** -/
theorem plain_of_mem_issue {ch : Char} (h : ch ∈ (A.issue account lifetime t₀).toList) :
    ch ≠ '%' ∧ ch ≠ '+' ∧ ch ≠ '&' := by
  have hpart : ∀ l, ch ∈ Base64Url.encode l → ch ≠ '%' ∧ ch ≠ '+' ∧ ch ≠ '&' := by
    intro l hmem
    obtain ⟨n, hn, rfl⟩ := Base64Url.exists_symbol_of_mem_encode hmem
    exact Base64Url.symbol_plain n hn
  rw [issue, String.toList_ofList, signedPart, signature] at h
  simp only [List.mem_append, List.mem_cons] at h
  rcases h with (h | rfl | h) | rfl | h
  · exact hpart _ h
  · decide
  · exact hpart _ h
  · decide
  · exact hpart _ h

/-- A credential is not empty. -/
theorem issue_ne_empty : A.issue account lifetime t₀ ≠ "" := by
  intro h
  have hlist := congrArg String.toList h
  rw [issue, String.toList_ofList] at hlist
  exact absurd (List.append_eq_nil_iff.1 hlist).2 (List.cons_ne_nil _ _)

/-- **Whether a credential of one's own holds**: its lifetime has to fit. -/
theorem holds_own_claims_iff (account : String)
    (hmost : (lifetime.clamp A.least A.most).seconds ≤ Text.maxUnsigned)
    (hpos : 0 ≤ t₀.seconds) (ht : t.Nameable) :
    A.holds (A.claims account lifetime t₀) t = true ↔
      (lifetime.clamp A.least A.most).seconds ≤ Claims.maxTime ∧ t₀.seconds ≤ t.seconds ∧
        t.seconds ≤ t₀.seconds + (lifetime.clamp A.least A.most).seconds := by
  by_cases hlife : (lifetime.clamp A.least A.most).seconds ≤ Claims.maxTime
  · rw [holds_claims_iff hlife (by omega) ht]
    exact ⟨fun h => ⟨hlife, h.2⟩, fun h => ⟨rfl, h.2⟩⟩
  · -- The time of expiry lies before that of issue, so no instant is between them.
    rw [not_holds_claims (Int.not_le.1 hlife) hmost ht]
    exact ⟨fun h => absurd h Bool.false_ne_true, fun h => absurd h.1 hlife⟩

end Signer

/-- No span is longer than the greatest one, once it is clamped. -/
theorem Config.seconds_clampLifetime_le (c : Config) (d : Duration) :
    (c.clampLifetime d).seconds ≤ c.mostLifetime.seconds :=
  Nat.div_le_div_right (Nat.min_le_right _ _)

/-- **The signer of the settings clamps a lifetime as the settings do.** -/
theorem Config.clamp_of_signer {c : Config} {signer : Signer} (h : c.signer = .ok signer)
    (d : Duration) : d.clamp signer.least signer.most = c.clampLifetime d := by
  obtain ⟨-, -, hleast, hmost⟩ := Config.of_signer h
  rw [hleast, hmost, Config.clampLifetime]

/-- **Plain texts before and behind an equals sign are a name and a value**, as they are. -/
theorem Form.fields_of_plain {name value : List Char}
    (hname : ∀ ch ∈ name, ch ≠ '%' ∧ ch ≠ '+' ∧ ch ≠ '&') (hequals : '=' ∉ name)
    (hvalue : ∀ ch ∈ value, ch ≠ '%' ∧ ch ≠ '+' ∧ ch ≠ '&') :
    fields (name ++ '=' :: value) = [(String.ofList name, String.ofList value)] := by
  have hpieces : Text.splitAll '&' (name ++ '=' :: value) = [name ++ '=' :: value] := by
    refine Text.splitAll_of_not_mem fun hmem => ?_
    rcases List.mem_append.1 hmem with hmem | hmem
    · exact (hname _ hmem).2.2 rfl
    · rcases List.mem_cons.1 hmem with heq | hmem
      · cases heq
      · exact (hvalue _ hmem).2.2 rfl
  rw [fields, hpieces, List.filter_cons_of_pos (by simp), List.filter_nil, List.map_cons,
    List.map_nil, field, Text.splitFirst?_append hequals]
  simp only [decode_of_plain fun ch hch => ⟨(hname ch hch).1, (hname ch hch).2.1⟩,
    decode_of_plain fun ch hch => ⟨(hvalue ch hch).1, (hvalue ch hch).2.1⟩]

/-! ## Uploads to an address -/

namespace Service

open Http

variable {c : Config} {signer : Signer} {credential : String}

/-- **A plain text behind the name is the credential of a query.** -/
theorem queryCredential?_of_plain
    (h : ∀ ch ∈ credential.toList, ch ≠ '%' ∧ ch ≠ '+' ∧ ch ≠ '&') :
    queryCredential? ("token=" ++ credential) = some credential := by
  have hname : ∀ ch ∈ "token".toList, ch ≠ '%' ∧ ch ≠ '+' ∧ ch ≠ '&' := by simp
  have hcut : ("token=" ++ credential).toList = "token".toList ++ '=' :: credential.toList :=
    String.toList_append
  rw [queryCredential?, hcut, Form.fields_of_plain hname (by decide) h, String.ofList_toList,
    String.ofList_toList]
  rfl

/-- An upload that brings a credential in its query, and none in a header. -/
structure Posted.BringsInQuery (x : Posted c) (credential : String) : Prop where
  query : x.request.query = some ("token=" ++ credential)
  header : (x.request.text? "authorization").bind bearer? = none

/-- **A credential in the query is judged by the signer of the settings.** -/
theorem Posted.BringsInQuery.authenticate_eq {x : Posted c} (h : x.BringsInQuery credential)
    (hsigner : c.signer = .ok signer) (hempty : credential ≠ "")
    (hplain : ∀ ch ∈ credential.toList, ch ≠ '%' ∧ ch ≠ '+' ∧ ch ≠ '&') (now : Instant) :
    authenticate c x.request now = match signer.verify credential now with
      | some account => .ok account
      | none => .error (.unauthorized "The upload credential is invalid or has expired") := by
  have hcredential : credential? x.request = some credential := by
    rw [credential?, h.header, h.query, Option.none_or]
    exact queryCredential?_of_plain hplain
  have hkept : (some credential).filter (fun credential => credential ≠ "") = some credential := by
    rw [Option.filter_some, if_pos (by simpa using hempty)]
  cases hverify : signer.verify credential now <;>
    simp only [authenticate, hcredential, hkept, hsigner, hverify]

/-- **A credential that the signer of the settings issued is accepted for its lifetime**, if that
fits. -/
theorem Posted.BringsInQuery.authenticate_issue {x : Posted c} {account : String}
    {lifetime : Duration} {t₀ : Instant}
    (h : x.BringsInQuery (signer.issue account lifetime t₀)) (hsigner : c.signer = .ok signer)
    (hmost : c.mostLifetime.seconds ≤ Text.maxUnsigned) (h₀ : t₀.Nameable) (hpos : 0 ≤ t₀.seconds)
    (hnow : x.fresh.now.Nameable) :
    authenticate c x.request x.fresh.now =
      if (c.clampLifetime lifetime).seconds ≤ Claims.maxTime ∧
          t₀.seconds ≤ x.fresh.now.seconds ∧
          x.fresh.now.seconds ≤ t₀.seconds + (c.clampLifetime lifetime).seconds then .ok account
      else .error (.unauthorized "The upload credential is invalid or has expired") := by
  have hclamp := Config.clamp_of_signer hsigner lifetime
  have hbound : (lifetime.clamp signer.least signer.most).seconds ≤ Text.maxUnsigned := by
    rw [hclamp]
    exact Nat.le_trans (c.seconds_clampLifetime_le lifetime) hmost
  have hholds := Signer.holds_own_claims_iff account hbound hpos hnow
  rw [hclamp] at hholds
  rw [h.authenticate_eq hsigner Signer.issue_ne_empty (fun _ => Signer.plain_of_mem_issue),
    Signer.verify_issue_eq rfl h₀]
  by_cases hheld : signer.holds (signer.claims account lifetime t₀) x.fresh.now = true
  · rw [if_pos hheld, if_pos (hholds.1 hheld)]
  · rw [if_neg hheld, if_neg fun hwithin => hheld (hholds.2 hwithin)]

/-- No other stage asks for a credential. -/
theorem Stage.status_ne_unauthorized {s : Stage} (h : s ≠ .credential) :
    s.status ≠ .unauthorized := by
  cases s with
  | credential => exact absurd rfl h
  | _ => decide

/-- **The first stage fails for an upload that brings no credential that is accepted.** -/
theorem Posted.fails_credential_iff (hsigner : c.signer = .ok signer)
    (hauth : c.authenticate = true) (x : Posted c) : x.fails .credential = true ↔
      ∀ account, authenticate c x.request x.fresh.now ≠ .ok account := by
  have hdecides := x.decides_credential hsigner
  rw [checkCredential, if_pos hauth] at hdecides
  cases hresult : authenticate c x.request x.fresh.now with
  | ok account =>
    refine iff_of_false (fun hfails => ?_) fun hnone => hnone account rfl
    have hrefused := hdecides.refused hfails
    rw [hresult] at hrefused
    cases hrefused
  | error e =>
    refine iff_of_true (Bool.of_not_eq_false fun hfails => ?_) fun account => by simp
    obtain ⟨_, hpassed⟩ := hdecides.passed hfails
    rw [hresult] at hpassed
    cases hpassed

/-- **A credential is asked for exactly when the first stage fails.** -/
theorem Posted.status_eq_unauthorized_iff {events : List Log.Event} (hcheck : c.check = .ok events)
    (x : Posted c) (production : Bool) :
    (x.response production).status = .unauthorized ↔ x.fails .credential = true := by
  rw [x.response_eq hcheck, status_sent]
  constructor
  · intro hstatus
    cases hfirst : x.firstFailing with
    | none =>
      rw [hfirst] at hstatus
      have hcreated := (status_reported_ok _).symm.trans hstatus
      split at hcreated <;> cases hcreated
    | some s =>
      rw [hfirst] at hstatus
      have hfails : x.fails s = true := List.find?_some hfirst
      by_cases hs : s = .credential
      · exact hs ▸ hfails
      · exact absurd ((x.status_failure hfails).symm.trans
          ((Failure.status_response _).symm.trans hstatus)) (Stage.status_ne_unauthorized hs)
  · intro hfails
    have hfirst : x.firstFailing = some .credential := List.find?_cons_of_pos hfails
    rw [hfirst]
    exact (Failure.status_response _).trans (x.status_failure hfails)

end Service

/-! ## What is told with an address -/

namespace Text

variable {s t : String} {front other : List Char}

/-- A text begins with some characters. -/
def Begins (front : List Char) (s : String) : Prop :=
  front <+: s.toList

instance (front : List Char) (s : String) : Decidable (Begins front s) :=
  inferInstanceAs (Decidable (_ <+: _))

/-- A text goes on beginning so when more is written behind it. -/
theorem Begins.append (h : Begins front s) (t : String) : Begins front (s ++ t) := by
  rw [Begins, String.toList_append]
  exact h.trans (List.prefix_append _ _)

/-- **Texts that begin differently are different.** -/
theorem Begins.ne (hs : Begins front s) (ht : Begins other t)
    (hlength : front.length = other.length) (h : front ≠ other) : s ≠ t := by
  rintro rfl
  have hbegins := List.prefix_of_prefix_length_le hs ht (Nat.le_of_eq hlength)
  exact h (hbegins.eq_of_length hlength)

end Text

namespace Relay

open Text (Begins)

variable {c : Config} {account : String} {t₀ : Instant}

/-- How it is told for how many seconds an address can be used. -/
def validityNotice (seconds : Nat) : String :=
  "This URL is valid for " ++ lengthInWords seconds ++ ". Do not share it."

/-- **An address that is told to be valid for different lengths of time is told so in different
words.** -/
theorem validityNotice_injective {a b : Nat} (h : validityNotice a = validityNotice b) : a = b := by
  unfold validityNotice at h
  exact lengthInWords_injective ((String.append_right_inj _).1 ((String.append_left_inj _).1 h))

/-- What an address that was handed out can be used for. -/
structure HandedOut (c : Config) (account : String) (t₀ : Instant) (reply : Reply)
    (credential : String) (lifetime : Nat) : Prop where
  /-- The command succeeds. -/
  succeeded : reply.succeeded = true
  /-- The address is told first. -/
  told : reply.notices.head? =
    some ("Your upload URL: " ++ (c.publicUrl ++ "?token=" ++ credential))
  /-- One length of time is told with it. -/
  lasting : ∀ seconds, validityNotice seconds ∈ reply.notices ↔ seconds = lifetime
  /-- An upload to the address is one of the account, as long as was told. -/
  authenticated : ∀ x : Service.Posted c, x.BringsInQuery credential → x.fresh.now.Nameable →
    Service.authenticate c x.request x.fresh.now =
      if lifetime ≤ Claims.maxTime ∧ t₀.seconds ≤ x.fresh.now.seconds ∧
          x.fresh.now.seconds ≤ t₀.seconds + lifetime then .ok account
      else .error (.unauthorized "The upload credential is invalid or has expired")
  /-- At any other time it is answered that a credential is needed. -/
  answered : ∀ x : Service.Posted c, x.BringsInQuery credential → x.fresh.now.Nameable →
    ∀ production, (x.response production).status = .unauthorized ↔
      ¬ (lifetime ≤ Claims.maxTime ∧ t₀.seconds ≤ x.fresh.now.seconds ∧
        x.fresh.now.seconds ≤ t₀.seconds + lifetime)

/-- The notice of the size that can be uploaded. -/
def sizeNotice (bytes : Nat) : String :=
  "Maximum upload size: " ++ sizeInWords bytes ++ ". Send " ++ commandName ++
    " info for allowed types."

/-- The address is made by the signer of the settings. -/
theorem uploadUrl_eq {signer : Signer} (hauth : c.authenticate = true)
    (hsigner : c.signer = .ok signer) (account : String) (t₀ : Instant) :
    uploadUrl c account t₀ =
      .ok (c.publicUrl ++ "?token=" ++ signer.issue account c.tokenLifetime t₀) := by
  rw [uploadUrl, if_pos hauth, hsigner]
  rfl

/-- **What is told when an address was made.** -/
theorem command_of_url {session : Session} {url : String}
    (haccount : session.account = some account) (hauth : c.authenticate = true)
    (h : uploadUrl c account t₀ = .ok url) :
    command c session [] t₀ =
      { succeeded := true
        notices :=
          ["Your upload URL: " ++ url, uploadExample url,
            validityNotice (c.clampLifetime c.tokenLifetime).seconds, sizeNotice c.maxUploadBytes]
        events := [] } := by
  rw [command, haccount]
  simp only [handOut, h, if_pos hauth]
  rfl

/-- **Of what is told, one notice tells for how long.** -/
theorem validityNotice_mem_iff {url : String} {lifetime size seconds : Nat} :
    validityNotice seconds ∈ ["Your upload URL: " ++ url, uploadExample url,
      validityNotice lifetime, sizeNotice size] ↔ seconds = lifetime := by
  have hthis : Begins ['T'] (validityNotice seconds) := .append (.append (by decide) _) _
  have hyour : Begins ['Y'] ("Your upload URL: " ++ url) := .append (by decide) _
  have hupload : Begins ['U'] (uploadExample url) :=
    .append (.append (.append (by decide) _) _) _
  have hmaximum : Begins ['M'] (sizeNotice size) :=
    .append (.append (.append (.append (by decide) _) _) _) _
  have hurl := hthis.ne hyour rfl (by decide)
  have hexample := hthis.ne hupload rfl (by decide)
  have hsize := hthis.ne hmaximum rfl (by decide)
  simp only [List.mem_cons, List.not_mem_nil, or_false, hurl, hexample, hsize, false_or]
  exact ⟨validityNotice_injective, fun h => congrArg validityNotice h⟩

/-- **What the command hands out can be used as long as it is told**, under all settings that pass
the checks, unless it is told for longer than a signed number of seconds. -/
theorem handedOut_of_check {events : List Log.Event} (hcheck : c.check = .ok events)
    (hauth : c.authenticate = true) (hmost : c.mostLifetime.seconds ≤ Text.maxUnsigned)
    {session : Session} (haccount : session.account = some account) (h₀ : t₀.Nameable)
    (hpos : 0 ≤ t₀.seconds) :
    ∃ credential, HandedOut c account t₀ (command c session [] t₀) credential
      (c.clampLifetime c.tokenLifetime).seconds := by
  obtain ⟨signer, hsigner⟩ := Service.exists_signer hcheck
  have hcommand := command_of_url haccount hauth (uploadUrl_eq hauth hsigner account t₀)
  have hauthenticated (x : Service.Posted c)
      (hx : x.BringsInQuery (signer.issue account c.tokenLifetime t₀))
      (hnow : x.fresh.now.Nameable) := hx.authenticate_issue hsigner hmost h₀ hpos hnow
  refine ⟨_, ?_, ?_, ?_, hauthenticated, fun x hx hnow production => ?_⟩
  · rw [hcommand]
  · rw [hcommand]
    rfl
  · intro seconds
    rw [hcommand]
    exact validityNotice_mem_iff
  · rw [x.status_eq_unauthorized_iff hcheck, x.fails_credential_iff hsigner hauth,
      hauthenticated x hx hnow]
    split
    next hwithin => exact ⟨fun h => absurd rfl (h account), fun h => absurd hwithin h⟩
    next hwithin => exact ⟨fun _ => hwithin, fun _ _ h => by cases h⟩

end Relay

/-! ## An address that can never be used -/

namespace Sample

open Service

/-- Settings under which an address is told to be valid for longer than the greatest signed
number of seconds. -/
def boundless : Config :=
  { settings with
    authenticate := true
    tokenLifetime := .ofSeconds 9223372036854775808
    mostLifetime := .ofSeconds Text.maxUnsigned }

/-- A user who is logged in. -/
def alice : Relay.Session where
  account := some "alice"
  source := "alice!a@host"
  isLocal := true
  isSecure := true

/-- An upload to an address with a credential. -/
def addressed (credential : String) : Posted boundless where
  request := { request with query := some ("token=" ++ credential) }
  fresh := fresh
  disk := disk
  method := rfl
  path := rfl
  proper := proper

end Sample

namespace Relay

open Sample in
/-- **An address told to be valid for very long is refused in the second it is handed out in.** -/
theorem refused_of_boundless : boundless.check = .ok [] ∧ ∃ credential,
    (command boundless alice [] fresh.now).notices.head? =
        some ("Your upload URL: " ++ (boundless.publicUrl ++ "?token=" ++ credential)) ∧
      validityNotice 9223372036854775808 ∈ (command boundless alice [] fresh.now).notices ∧
      ((addressed credential).response false).status = .unauthorized := by
  have hcheck : boundless.check = .ok [] := by rfl
  have hlifetime :
      (boundless.clampLifetime boundless.tokenLifetime).seconds = 9223372036854775808 := by rfl
  have haccount : alice.account = some "alice" := rfl
  have hnow : fresh.now.Nameable := by decide
  obtain ⟨credential, hout⟩ :=
    handedOut_of_check hcheck rfl (by decide) haccount hnow (by decide)
  rw [hlifetime] at hout
  have hbrings : (addressed credential).BringsInQuery credential := ⟨rfl, rfl⟩
  refine ⟨hcheck, credential, hout.told, (hout.lasting _).2 rfl, ?_⟩
  exact (hout.answered (addressed credential) hbrings hnow false).2
    fun hwithin => absurd hwithin.1 (by decide)

end Relay

end HostedFiles
