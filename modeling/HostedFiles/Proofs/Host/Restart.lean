import HostedFiles.Proofs.Host.InForce
import Mathlib.Data.List.Forall2

/-!
# Proofs/Host/Restart — a reload is like a restart, but for one header

Everything that answers a request reads the settings in force, except for whether the service is in
production, which is settled when it starts and decides on one header (`sent_true`).  So after a
reload every request is answered as by a service that is started with the new settings, but for this
header (`reload_like_restart`).
-/

namespace HostedFiles

open Http

/-! ## The header that asks for encryption -/

namespace Service

variable {c : Config} {r : Request} {fresh : Fresh} {d : Disk}

/-- The header that asks for encryption from now on. -/
def transportHeader : String := "strict-transport-security"

/-- What it says. -/
def transportDemand : String := "max-age=31536000; includeSubDomains"

/-- **In production the header is set, and nothing else is different.** -/
theorem sent_true (method : String) (r : Response) :
    sent true method r = (sent false method r).withHeader transportHeader transportDemand := by
  have hheaders : securityHeaders true =
      securityHeaders false ++ [(transportHeader, transportDemand)] := by rfl
  rw [sent, sent, hheaders, List.foldl_append]
  rfl

/-- No failure sets it. -/
theorem header?_failure (f : Failure) : f.response.header? transportHeader = none := by
  cases f <;> rfl

/-- Nor does a file that is given out. -/
theorem header?_retrieve (c : Config) (headOnly : Bool) (path : String) (d : Disk) :
    (retrieve c headOnly path d).response.header? transportHeader = none := by
  rcases retrieve_cases c headOnly path d with ⟨f, h⟩ | ⟨name, n, body, events, -, -, h⟩
  · rw [h]
    exact header?_failure f
  · rw [h]
    rfl

/-- Nor does an upload. -/
theorem header?_upload (c : Config) (r : Request) (fresh : Fresh) (d : Disk) :
    (upload c r fresh d).response.header? transportHeader = none := by
  rw [upload]
  split
  · exact header?_failure _
  next name hcheck =>
  simp only
  split
  · exact header?_failure _
  · rw [created]
    split
    next hcreated =>
      split at hcreated
      · cases hcreated
        rfl
      · cases hcreated
    next => exact header?_failure _

/-- **No answer sets the header by itself.** -/
theorem header?_respond (c : Config) (r : Request) (fresh : Fresh) (d : Disk) :
    (respond c r fresh d).response.header? transportHeader = none := by
  rw [respond]
  split
  · simp only [health]
    split <;> rfl
  · rw [atUpload]
    split
    · rfl
    split
    · exact header?_upload c r fresh d
    · exact header?_failure _
  · exact header?_retrieve _ _ _ _
  · exact header?_failure _

/-! ## Answers that differ in it alone -/

end Service

/-- Two responses are alike but for the headers of a name. -/
structure Http.Response.AlikeBut (name : String) (a b : Response) : Prop where
  status : a.status = b.status
  body : a.body = b.body
  headers : Rows.erase a.headers name = Rows.erase b.headers name

namespace Service

variable {c : Config}

/-- What the header says, if the service was started in production. -/
def demand? (production : Bool) : Option String :=
  if production then some transportDemand else none

/-- It says which of the two. -/
theorem demand?_inj {p q : Bool} (h : demand? p = demand? q) : p = q := by
  cases p <;> cases q <;> simp [demand?] at h ⊢

/-- What is sent is alike, in production or not. -/
theorem alike_sent (p q : Bool) (method : String) (r : Response) :
    (sent p method r).AlikeBut transportHeader (sent q method r) := by
  have hset : (sent true method r).AlikeBut transportHeader (sent false method r) := by
    rw [sent_true]
    exact ⟨rfl, rfl, Rows.erase_put _ _ _⟩
  cases p <;> cases q
  · exact ⟨rfl, rfl, rfl⟩
  · exact ⟨hset.status.symm, hset.body.symm, hset.headers.symm⟩
  · exact hset
  · exact ⟨rfl, rfl, rfl⟩

/-- **The header says whether the service was started in production.** -/
theorem header?_answer (production : Bool) (c : Config) (r : Request) (fresh : Fresh) (d : Disk) :
    (answer production c r fresh d).response.header? transportHeader = demand? production := by
  have hplain : (sent false r.method (respond c r fresh d).response).header? transportHeader =
      none := by
    rw [sent, Response.header?_foldl (by decide)]
    split <;> exact (Response.header?_withLength (by decide) _).trans (header?_respond c r fresh d)
  cases production with
  | false => exact hplain
  | true =>
    rw [answer, sent_true, Response.header?_withHeader, if_pos rfl]
    rfl

/-- Two answers to the same request are alike but for the header, which says of each service whether
it was started in production. -/
structure Twins (p q : Bool) (x y : Request × Response) : Prop where
  request : x.1 = y.1
  alike : x.2.AlikeBut transportHeader y.2
  left : x.2.header? transportHeader = demand? p
  right : y.2.header? transportHeader = demand? q

/-- **Services with the same settings on the same disk answer alike but for the header**, and leave
the same disk. -/
theorem twins_serve (p q : Bool) (c : Config) (turns : List (Request × Fresh)) (d : Disk) :
    List.Forall₂ (Twins p q) (serve p c turns d).1 (serve q c turns d).1 ∧
      (serve p c turns d).2 = (serve q c turns d).2 := by
  induction turns generalizing d with
  | nil => exact ⟨.nil, rfl⟩
  | cons turn rest ih =>
    obtain ⟨r, fresh⟩ := turn
    obtain ⟨hlater, hdisk⟩ := ih (respond c r fresh d).disk
    have hfirst : Twins p q (r, (answer p c r fresh d).response)
        (r, (answer q c r fresh d).response) :=
      ⟨rfl, alike_sent p q _ _, header?_answer p c r fresh d, header?_answer q c r fresh d⟩
    exact ⟨.cons hfirst hlater, hdisk⟩

/-- **They answer in the same way only if both were started in production or neither.** -/
theorem serve_eq_iff (p q : Bool) (c : Config) (turns : List (Request × Fresh)) (d : Disk) :
    serve p c turns d = serve q c turns d ↔ turns = [] ∨ p = q := by
  constructor
  · intro h
    cases turns with
    | nil => exact .inl rfl
    | cons turn rest =>
      obtain ⟨r, fresh⟩ := turn
      have hfirst := congrArg (fun run => run.1.head?) h
      simp only [serve, List.head?_cons, Option.some.injEq, Prod.mk.injEq, true_and] at hfirst
      have hheader := congrArg (·.header? transportHeader) hfirst
      simp only [header?_answer] at hheader
      exact .inr (demand?_inj hheader)
  · rintro (rfl | rfl) <;> rfl

end Service

namespace Sample

/-- The settings of the small service in production. -/
def inProduction : Config :=
  { rooted "up" with environment := "production" }

end Sample

namespace Host

open Service

/-- **A service whose settings are read anew answers as one that is started with them, but for one
header.**  Whatever happened since the start, the reload leaves nothing to be prepared; from then on
both leave the same disk after the same requests, and their answers differ at most in the header
that asks for encryption.  There each says whether it was itself started in production, so they
differ as soon as the first settings and the last ones do not agree on this. -/
theorem reload_like_restart {c : Config} {e env anew : Environment} {d d₀ d₁ source : Disk}
    {live reloaded restarted : Live} {events : List Log.Event} {acts : List Act}
    (hlaunch : launch c e d = (.ok live, d₀))
    (hintact : ((Scene.start live).run acts).live.Intact)
    (hreload : ((Scene.start live).run acts).live.reloadFrom source env =
      ⟨reloaded, .ok (), events⟩)
    (hrestart : launch reloaded.config anew reloaded.disk = (.ok restarted, d₁))
    (turns : List (Request × Fresh)) :
    restarted.config = reloaded.config ∧ restarted.disk = reloaded.disk ∧
      (let late := serve reloaded.production reloaded.config turns reloaded.disk
      let first := serve restarted.production restarted.config turns restarted.disk
      late.2 = first.2 ∧
        List.Forall₂ (Twins c.isProduction reloaded.config.isProduction) late.1 first.1 ∧
        (late = first ↔ turns = [] ∨ c.isProduction = reloaded.config.isProduction)) := by
  have hreloaded := ((Scene.start live).run acts).live.reloaded source env
  rw [hreload] at hreloaded
  have hproduction : reloaded.production = c.isProduction :=
    hreloaded.production.trans ((Scene.production_run _ acts).trans (Live.of_launch hlaunch).2.1)
  -- The directory of unfinished uploads is there, so the restart finds nothing to do.
  obtain ⟨q, hq⟩ := (hreloaded.intact hintact).there
  have hsound := (exists_leadsTo_of_prepareUploads (Live.of_launch hrestart).2.2).1
  rw [Live.launch_of_leadsTo anew hsound hq] at hrestart
  cases hrestart
  refine ⟨rfl, rfl, ?_⟩
  simp only [hproduction]
  obtain ⟨htwins, hdisk⟩ := twins_serve c.isProduction reloaded.config.isProduction reloaded.config
    turns reloaded.disk
  exact ⟨hdisk, htwins, serve_eq_iff _ _ _ _ _⟩

open Sample in
/-- A service that was started in production is told by a reload that it is not: it goes on asking
for encryption, and a service that is started then does not. -/
theorem reload_unlike_restart : fit inProduction = .ok [.uploadsOpen] ∧
    launch inProduction (environment "up") disk = (.ok (running inProduction disk), disk) ∧
    ∃ reloaded events,
      (running inProduction disk).reloadFrom disk (environment "up") =
        ⟨reloaded, .ok (), events⟩ ∧
      launch reloaded.config (environment "up") reloaded.disk =
        (.ok (running (rooted "up") disk), disk) ∧
      serve reloaded.production reloaded.config [(asking "/health", Sample.fresh)]
          reloaded.disk ≠
        serve false (rooted "up") [(asking "/health", Sample.fresh)] disk := by
  have hlaunch := launch_running (c := inProduction) disk_unfinished (by decide)
  have hagain := launch_running (c := rooted "up") disk_unfinished (by decide)
  have hread : (renewedSettings disk (environment "up")).1 = .ok (rooted "up") :=
    renewedSettings_environment (by decide) (by rfl)
  have hreloaded := (running inProduction disk).reloaded disk (environment "up")
  rw [hread] at hreloaded
  obtain ⟨hresult, hconfig, hdisk⟩ := hreloaded.of_check (d := disk) (check_rooted "up") (by rfl)
  obtain ⟨reloaded, events, hreload⟩ : ∃ reloaded events,
      ((Scene.start (running inProduction disk)).run []).live.reloadFrom disk (environment "up") =
        ⟨reloaded, .ok (), events⟩ := ⟨_, _, congrArg (Live.Change.mk _ · _) hresult⟩
  have hlive : ((running inProduction disk).reloadFrom disk (environment "up")).live = reloaded :=
    congrArg Live.Change.live hreload
  rw [hlive] at hconfig hdisk
  have hrestart : launch reloaded.config (environment "up") reloaded.disk =
      (.ok (running (rooted "up") disk), disk) := by
    rw [hconfig, hdisk]
    exact hagain
  obtain ⟨-, -, -, -, hiff⟩ := reload_like_restart hlaunch (Live.intact_of_launch hlaunch) hreload
    hrestart [(asking "/health", Sample.fresh)]
  refine ⟨by rfl, hlaunch, reloaded, events, hreload, hrestart, fun heq => ?_⟩
  rcases hiff.1 heq with hnil | hproduction
  · cases hnil
  · rw [hconfig] at hproduction
    exact absurd hproduction (by decide)

end Host

end HostedFiles
