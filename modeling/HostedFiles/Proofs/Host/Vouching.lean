import HostedFiles.Proofs.Host.InForce
import HostedFiles.Proofs.Relay.Encryption
import HostedFiles.Proofs.Relay.UploadUrl
import HostedFiles.Proofs.Service.InnerFailures

/-!
# Proofs/Host/Vouching — credentials can always be issued and checked

Valid settings describe a signer (`Config.exists_signer`), and it brings every lifetime within its
bounds as the settings tell it, although it compares where they take the greater and the lesser
(`Duration.within?_eq_clamp`).  So no request fails for want of a signer
(`Service.not_unavailable`), and no user is told that there is no address (`Relay.able`).

Settings in force are valid whatever is done to a service (`Live.validate_run`) or at a hub
(`Relay.Scene.validate_run`).  What that is good for is stated by `Vouches`.
-/

namespace HostedFiles

/-! ## Lifetimes -/

namespace Duration

/-- The span between two bounds that is nearest to `d`, found by comparing.  There is none where the
bounds contradict one another. -/
def within? (d least most : Duration) : Option Duration :=
  if most.nanoseconds < least.nanoseconds then none else some (d.within least most)

/-- **Bounds in order give the span that clamping makes.** -/
theorem within?_eq_clamp (d : Duration) {least most : Duration}
    (h : least.nanoseconds ≤ most.nanoseconds) :
    d.within? least most = some (d.clamp least most) := by
  rw [within?, if_neg (Nat.not_lt.2 h), within_eq_clamp d h]

end Duration

/-! ## Requests that fail inside -/

namespace Service

open Http
open Text (Begins)

variable {production : Bool} {c : Config} {signer : Signer} {r : Request} {fresh : Fresh}
  {d : Disk} {kind : String}

/-- **A credential is refused for what it is**, where there is a signer. -/
theorem exists_unauthorized (hsigner : c.signer = .ok signer) {now : Instant} {f : Failure}
    (h : authenticate c r now = .error f) : ∃ reason, f = .unauthorized reason := by
  rcases of_authenticate_error h with hreason | ⟨e, herror, -⟩
  · exact hreason
  · rw [hsigner] at herror
    cases herror

/-- **No request fails for want of a signer**, where there is one. -/
theorem not_unavailable (hsigner : c.signer = .ok signer) (problem : String) :
    .requestFailed (unavailable problem).message kind ∉ (answer production c r fresh d).events := by
  intro h
  obtain ⟨f, hcause, heq⟩ := exists_cause_of_requestFailed h
  cases hcause with
  | store reason =>
    have hinternal : Begins ['I'] (unavailable problem).message :=
      Begins.append (s := "Internal error: ") (by decide) _
    have hstorage : Begins ['S'] (Failure.storage reason).message := Begins.append (by decide) _
    exact hinternal.ne hstorage rfl (by decide) heq
  | address =>
    have hreason := (String.append_right_inj _).1 heq
    have hservice : Begins ['T'] ("Token service unavailable: " ++ problem) :=
      Begins.append (by decide) _
    have haddress : Begins ['I'] "Invalid Location header: failed to parse header value" := by
      decide
    exact hservice.ne haddress rfl (by decide) hreason
  | signer herror =>
    rw [hsigner] at herror
    cases herror

end Service

/-! ## What users are told -/

namespace Relay

open Text (Begins)

variable {c : Config} {signer : Signer} {session : Session} {account : String} {now : Instant}

/-- The notice that there is no address to be had. -/
def unableNotice : String := "Unable to issue an upload URL right now. Please try again later."

/-- It is no notice that begins otherwise. -/
theorem unableNotice_ne (front : List Char) {s : String} (h : Begins front s)
    (hfront : front.length = 2 ∧ front ≠ ['U', 'n']) : unableNotice ≠ s :=
  have hunable : Begins ['U', 'n'] unableNotice := by decide
  hunable.ne h hfront.1.symm hfront.2.symm

/-- There is an address for every account, where there is a signer. -/
theorem exists_uploadUrl (hsigner : c.signer = .ok signer) (account : String) (now : Instant) :
    ∃ url, uploadUrl c account now = .ok url := by
  rw [uploadUrl, hsigner]
  split
  · exact ⟨_, rfl⟩
  · exact ⟨_, rfl⟩

/-- None of the notices that come with an address says that there is none. -/
theorem able_handOut (hsigner : c.signer = .ok signer) :
    unableNotice ∉ (handOut c account now).notices ∧ (handOut c account now).events = [] := by
  obtain ⟨url, hurl⟩ := exists_uploadUrl hsigner account now
  have haddress : unableNotice ≠ "Your upload URL: " ++ url :=
    unableNotice_ne ['Y', 'o'] (.append (by decide) _) (by decide)
  have hexample : unableNotice ≠ uploadExample url :=
    unableNotice_ne ['U', 'p'] (.append (.append (.append (by decide) _) _) _) (by decide)
  have hvalidity : ∀ seconds, unableNotice ≠ validityNotice seconds := fun _ =>
    unableNotice_ne ['T', 'h'] (.append (.append (by decide) _) _) (by decide)
  have hsize : unableNotice ≠ sizeNotice c.maxUploadBytes :=
    unableNotice_ne ['M', 'a']
      (.append (.append (.append (.append (by decide) _) _) _) _) (by decide)
  rw [handOut, hurl]
  refine ⟨fun hmem => ?_, rfl⟩
  simp only [List.mem_append, List.mem_cons, List.not_mem_nil, or_false] at hmem
  rcases hmem with ((hmem | hmem) | hmem) | hmem
  · exact haddress hmem
  · exact hexample hmem
  · split at hmem
    · exact hvalidity _ (List.mem_singleton.1 hmem)
    · cases hmem
  · exact hsize hmem

/-- Nor does the description of the service. -/
theorem able_describe (c : Config) :
    unableNotice ∉ (describe c).notices ∧ (describe c).events = [] := by
  refine ⟨fun hmem => ?_, rfl⟩
  simp only [describe, List.mem_cons, List.not_mem_nil, or_false] at hmem
  rcases hmem with hmem | hmem | hmem | hmem | hmem
  · exact unableNotice_ne ['U', 'p'] (.append (by decide) _) (by decide) hmem
  · exact unableNotice_ne ['M', 'a'] (.append (by decide) _) (by decide) hmem
  · exact unableNotice_ne ['A', 'l'] (.append (by decide) _) (by decide) hmem
  · exact unableNotice_ne ['A', 'u'] (.append (by decide) _) (by decide) hmem
  · exact unableNotice_ne ['L', 'i'] (.append (by decide) _) (by decide) hmem

/-- Nor does a refusal of the command. -/
theorem able_refusal (front : List Char) {notice : String} (h : Begins front notice)
    (hfront : front.length = 2 ∧ front ≠ ['U', 'n']) :
    unableNotice ∉ (Reply.refusal notice).notices ∧ (Reply.refusal notice).events = [] :=
  ⟨fun hmem => unableNotice_ne front h hfront (List.mem_singleton.1 hmem), rfl⟩

/-- **No user is told that there is no address**, where there is a signer. -/
theorem able (hsigner : c.signer = .ok signer) (session : Session) (args : List String)
    (now : Instant) : unableNotice ∉ (command c session args now).notices ∧
      (command c session args now).events = [] := by
  rw [command]
  split
  · exact able_refusal ['Y', 'o'] (.append (.append (by decide) _) _) (by decide)
  · split
    · exact able_handOut hsigner
    · split
      · exact able_describe c
      · exact able_refusal ['U', 's'] (.append (.append (by decide) _) _) (by decide)
    · exact able_refusal ['U', 's'] (.append (.append (by decide) _) _) (by decide)

/-- **Who is logged in gets an address**, and is told the lifetime that its credential has. -/
theorem handedOut (hsigner : c.signer = .ok signer) (haccount : session.account = some account)
    (now : Instant) : (command c session [] now).succeeded = true ∧
      (c.authenticate = true → ∀ seconds,
        validityNotice seconds ∈ (command c session [] now).notices ↔
          seconds = (c.clampLifetime c.tokenLifetime).seconds) := by
  obtain ⟨url, hurl⟩ := exists_uploadUrl hsigner account now
  refine ⟨?_, fun hauth seconds => ?_⟩
  · rw [command, haccount]
    simp only [handOut, hurl]
  · rw [command_of_url haccount hauth hurl]
    exact validityNotice_mem_iff

end Relay

/-! ## Vouching -/

/-- Credentials can be issued and checked under settings, by a signer. -/
structure Vouches (c : Config) (signer : Signer) : Prop where
  made : c.signer = .ok signer
  secret : signer.secret = Text.bytes c.tokenSecret
  /-- Every lifetime is brought within the bounds of the signer as the settings tell it. -/
  within : ∀ lifetime : Duration,
    lifetime.within? signer.least signer.most = some (c.clampLifetime lifetime)
  /-- A credential can be issued to every account, for every lifetime and at every time, and it says
  what it was issued for. -/
  issued : ∀ account lifetime (now : Instant), now.Nameable →
    signer.claims? (signer.issue account lifetime now) = some
      { account
        issuer := c.tokenIssuer
        issued := now.seconds
        expires := Claims.clampTime
          (now.seconds + Signer.signedSeconds (c.clampLifetime lifetime)) }
  /-- A credential is refused for what it is. -/
  checked : ∀ r now f, Service.authenticate c r now = .error f →
    ∃ reason, f = .unauthorized reason
  /-- No request fails for want of a signer. -/
  available : ∀ production r fresh d problem kind,
    .requestFailed (Service.unavailable problem).message kind ∉
      (Service.answer production c r fresh d).events
  /-- No user is told that there is no address. -/
  able : ∀ session args now, Relay.unableNotice ∉ (Relay.command c session args now).notices ∧
    (Relay.command c session args now).events = []
  /-- Who is logged in gets an address, and is told the lifetime that its credential has. -/
  handedOut : ∀ (session : Relay.Session) account now, session.account = some account →
    (Relay.command c session [] now).succeeded = true ∧
      (c.authenticate = true → ∀ seconds,
        Relay.validityNotice seconds ∈ (Relay.command c session [] now).notices ↔
          seconds = (c.clampLifetime c.tokenLifetime).seconds)

/-- **A signer of the settings vouches for accounts.** -/
theorem Vouches.of_signer {c : Config} {signer : Signer} (h : c.signer = .ok signer) :
    Vouches c signer where
  made := h
  secret := (Config.of_signer h).1
  within lifetime := by
    rw [lifetime.within?_eq_clamp signer.ordered, Config.clamp_of_signer h]
  issued account lifetime now hnow := by
    rw [Signer.claims?_issue rfl (Signer.inRange_claims hnow account lifetime), Signer.claims,
      lifetime.within_eq_clamp signer.ordered, Config.clamp_of_signer h, (Config.of_signer h).2.1]
  checked _ _ _ := Service.exists_unauthorized h
  available _ _ _ _ problem _ := Service.not_unavailable h problem
  able := Relay.able h
  handedOut _ _ now haccount := Relay.handedOut h haccount now

/-- **Valid settings have a signer that vouches for accounts.** -/
theorem Config.exists_vouches {c : Config} (h : c.validate = .ok ()) :
    ∃ signer, Vouches c signer := by
  obtain ⟨signer, hsigner⟩ := exists_signer h
  exact ⟨signer, .of_signer hsigner⟩

/-! ## Settings in force -/

namespace Host

variable {live : Live}

/-- What can be done to a service that runs. -/
inductive Doing where
  | request (r : Http.Request) (fresh : Fresh)
  /-- Files and environment are changed from outside. -/
  | disturb (d : Disk) (e : Environment)
  /-- Settings are handed over. -/
  | replace (next : Config)
  | reload
  | reloadValid
  | loadFile (path : String)
  | hangUp

namespace Live

/-- The service after something was done to it. -/
def after (live : Live) : Doing → Live
  | .request r fresh => live.afterRequest r fresh
  | .disturb d e => { live with disk := d, environment := e }
  | .replace next => (live.replace next []).live
  | .reload => live.reload.live
  | .reloadValid => live.reloadValid.live
  | .loadFile path => (live.loadFile path).live
  | .hangUp => live.hangUp.1

/-- The service after several things were done to it. -/
def run (live : Live) (doings : List Doing) : Live :=
  doings.foldl after live

/-- Settings are handed over only if they are valid. -/
theorem validate_replace (h : live.config.validate = .ok ()) (next : Config)
    (events : List Log.Event) : (live.replace next events).live.config.validate = .ok () := by
  rw [replace]
  split
  next hnext => exact hnext
  next => exact h

/-- A reload puts valid settings in force or none. -/
theorem validate_reload (h : live.config.validate = .ok ()) :
    live.reload.live.config.validate = .ok () := by
  rw [reload_eq]
  rcases (live.reloaded live.disk live.environment).all_or_nothing with
    ⟨-, hsame⟩ | ⟨-, -, _, hcheck⟩
  · rw [hsame]
    exact h
  · exact Config.validate_eq_ok_of_check hcheck

/-- **Settings in force stay valid**, whatever is done to the service. -/
theorem validate_after (h : live.config.validate = .ok ()) (doing : Doing) :
    (live.after doing).config.validate = .ok () := by
  cases doing with
  | request r fresh => exact h
  | disturb d e => exact h
  | replace next => exact validate_replace h next []
  | reload => exact validate_reload h
  | reloadValid =>
    rw [after, reloadValid]
    split
    next => exact h
    next next environment _ =>
      have hlive : ({ live with environment } : Live).config.validate = .ok () := h
      exact validate_replace hlive next []
  | loadFile path =>
    rw [after, loadFile]
    split
    next => exact h
    next next environment _ =>
      have hlive : ({ live with environment } : Live).config.validate = .ok () := h
      exact validate_replace hlive next []
  | hangUp =>
    have hreload := validate_reload h
    simp only [after, hangUp]
    split
    · exact hreload
    · exact hreload

/-- **Settings in force are valid throughout a run.** -/
theorem validate_run (h : live.config.validate = .ok ()) (doings : List Doing) :
    (live.run doings).config.validate = .ok () := by
  induction doings generalizing live with
  | nil => exact h
  | cons doing rest ih => exact ih (validate_after h doing)

end Live

end Host

/-- **Settings in force at a hub are valid throughout a run.** -/
theorem Relay.Scene.validate_run {hub : Hub} (h : hub.config.validate = .ok ()) (acts : List Act) :
    (Scene.run hub acts).hub.config.validate = .ok () := by
  rw [config_run, inForce]
  cases hlast : (acts.filterMap Act.accepted?).getLast? with
  | none => exact h
  | some next =>
    obtain ⟨act, -, haccepted⟩ := List.mem_filterMap.1 (List.mem_of_getLast? hlast)
    cases act with
    | replace given =>
      simp only [Act.accepted?] at haccepted
      split at haccepted
      next hvalid => rwa [← Option.some.inj haccepted]
      next => cases haccepted
    | _ => cases haccepted

open Host in
/-- **Credentials can always be issued and checked**: under all valid settings, so under those that
are in force at any time in a service that was started, or at a hub that began with valid ones. -/
theorem vouches_in_force :
    (∀ c : Config, c.validate = .ok () → ∃ signer, Vouches c signer) ∧
    (∀ c e d d₀ live warnings, fit c = .ok warnings → launch c e d = (.ok live, d₀) →
      ∀ doings, ∃ signer, Vouches (live.run doings).config signer) ∧
    ∀ hub : Relay.Hub, hub.config.validate = .ok () →
      ∀ acts, ∃ signer, Vouches (Relay.Scene.run hub acts).hub.config signer := by
  refine ⟨fun c => Config.exists_vouches, fun c e d d₀ live warnings hfit hlaunch doings => ?_,
    fun hub hvalid acts => ?_⟩
  · have hcheck := Live.check_of_launch hfit hlaunch
    exact Config.exists_vouches (Live.validate_run (Config.validate_eq_ok_of_check hcheck) doings)
  · exact Config.exists_vouches (Relay.Scene.validate_run hvalid acts)

/-- Settings under which every credential holds for a single nanosecond, so to the end of the second
it is issued in. -/
def Sample.instantaneous : Config :=
  { settings with leastLifetime := ⟨1⟩, mostLifetime := ⟨1⟩ }

open Sample Host in
/-- The bounds may be the same and less than a second.  Another root may be read from a changed
environment.  And a hub may be handed settings under which addresses are told to be valid for longer
than the greatest signed number of seconds. -/
theorem vouches_moved : ∃ brief moved endless, Vouches instantaneous brief ∧
    Vouches (rooted "down") moved ∧ Vouches boundless endless := by
  have hbounds : instantaneous.validate = .ok () := by rfl
  obtain ⟨brief, hbrief⟩ := vouches_in_force.1 instantaneous hbounds
  have hlaunch := launch_running (c := rooted "up") disk_unfinished (by decide)
  obtain ⟨moved, hmoved⟩ := vouches_in_force.2.1 _ _ _ _ _ _ (fit_rooted "up") hlaunch
    [.disturb disk (environment "down"), .reload]
  have hroot : ((running (rooted "up") disk).run
      [.disturb disk (environment "down"), .reload]).config = rooted "down" := config_moved
  have hvalid : settings.validate = .ok () := by rfl
  obtain ⟨endless, hendless⟩ := vouches_in_force.2.2 { config := settings, roster := .empty } hvalid
    [.replace boundless]
  have hconfig : (Relay.Scene.run { config := settings, roster := .empty }
      [.replace boundless]).hub.config = boundless := by rfl
  exact ⟨brief, moved, endless, hbrief, hroot ▸ hmoved, hconfig ▸ hendless⟩

end HostedFiles
