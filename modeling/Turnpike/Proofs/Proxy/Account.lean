/-
  The account of a request.

  How a request ends, what the client gets, and what is counted come about on separate paths: the
  body may be too long, a gate may answer or fail, or fail to replace the target, there may be no
  server, or none whose address can be asked for, and the exchange with a server may break, take too
  long or be answered.  On each of them the response, the counters and what the gates are told must
  agree.

  1. **Accounts** (`Account`).  What it is to agree, for one request, its outcome and the time it
     took: the frontend counts it once, in the class of the outcome; gates that have admitted it are
     told that outcome, each once; and at most one server counts it.

  2. **Three parts.**  A service that handles a request is taken through what the gates say
     (`target`), what a server makes of it (`deliver`), and what the gates are told in the end
     (`course`).  That handling is these three, one after the other, is `serve_eq`.

  3. **Gates.**  What they are called for is noted, so what is known of passages applies: before a
     request leaves they have been called in order, and then they are told in the reverse order
     (`course_snd`).

  4. **Servers** (`delivered`).  Only this part depends on the network and touches a pool, and only
     when there is a target.  To forward a request is to use the pool: whatever the exchange has
     come to, the endpoint was selected and is released, and has at most recorded the outcome
     (`forward_used`).

  5. **Handling** (`handle_accounts`).  A request is routed to a frontend in service, if to any, and
     its service gives account of it.  In particular a request is no more than traffic
     (`traffic_handle`), so that what is known of proxies under traffic holds of those that have
     handled requests.
-/
import Turnpike.Proofs.Gate.Plaza
import Turnpike.Proofs.Gate.Visit
import Turnpike.Proofs.Proxy.Traffic
import Turnpike.Proofs.Stats
import Turnpike.Proxy.Handle

namespace Turnpike.Proxy

open Turnpike.Balance Turnpike.Gate Turnpike.Http

/-! ## Gates of a service -/

section Plaza

variable {c : Chain Instance}

/-- Gates that have been called keep their labels. -/
theorem labels_closePlaza (p : Plaza) (c : Chain Instance) :
    (closePlaza p c).labels = c.labels := by
  have hentries : c.entries.map Entry.label = c.entries.zipIdx.map (·.1.label) := by
    conv_lhs => rw [← List.zipIdx_map_fst 0 c.entries]
    rw [List.map_map]
    rfl
  unfold Chain.labels closePlaza
  rw [hentries, List.map_map]
  rfl

/-- Gates that nobody has called stand as they stood. -/
theorem closePlaza_openPlaza (a : Ambient) (c : Chain Instance) :
    closePlaza (openPlaza a c) c = c := by
  have hentries : c.entries.zipIdx.map (fun x : Entry Instance × Nat =>
      { x.1 with gate := ((openPlaza a c).gate? x.2).getD x.1.gate }) = c.entries := by
    conv_rhs => rw [← List.zipIdx_map_fst 0 c.entries]
    refine List.map_congr_left fun x hx => ?_
    -- the gate of a number is the one that stands there
    have hget : c.entries[x.2]? = some x.1 := List.mem_zipIdx_iff_getElem?.mp hx
    have hgate : (openPlaza a c).gate? x.2 = some x.1.gate := by
      unfold Plaza.gate? openPlaza
      rw [List.getElem?_toArray, List.getElem?_map, hget, Option.map_some]
    rw [hgate, Option.getD_some]
  unfold closePlaza
  exact congrArg Chain.mk hentries

end Plaza

/-! ## The course of a request -/

section Course

variable (a : Ambient) (s : Service) (r : Request) (body : String)

/-- What a request does at the gates of a service, with what they are called for. -/
def visit : Pipeline Serial × (Plaza × List (Event Serial)) × Except Response Uri :=
  (Pipeline.enter (numbered s.chain) r).visit Plaza.hooks.noted (openPlaza a s.chain, []) r.uri

/-- The target to ask for, or the response to a request that is not let through. -/
def target : Except Response Uri :=
  if bodyFits s.spec.settings.maxBodyBytes r.headers body then (visit a s r).2.2
  else .error (tooLong s.spec.settings.maxBodyBytes)

/-- A request that has ended, after so many nanoseconds more. -/
def ended (t : Pipeline Serial) (o : Option Outcome) (nanos : Nat) : Pipeline Serial :=
  { t with request := { t.request with age := t.request.age + nanos }, outcome := o }

/-- The gates when the request has left, and all that they have been called for. -/
def course (o : Option Outcome) (nanos : Nat) : Plaza × List (Event Serial) :=
  if bodyFits s.spec.settings.maxBodyBytes r.headers body then
    (ended (visit a s r).1 o nanos).leave Plaza.hooks.noted (visit a s r).2.1
  else (openPlaza a s.chain, [])

/-- What has happened to the request before it has left. -/
def entered : List (Event Serial) :=
  if bodyFits s.spec.settings.maxBodyBytes r.headers body then (visit a s r).2.1.2 else []

/-- To pass the gates is to visit them. -/
theorem passGates_eq (p : Plaza) (t : Pipeline Serial) (u : Uri) :
    passGates p t u =
      ((t.visit Plaza.hooks p u).2.1, (t.visit Plaza.hooks p u).1, (t.visit Plaza.hooks p u).2.2) := by
  unfold passGates Pipeline.visit
  rcases t.process Plaza.hooks p with ⟨t, p, err | resp | resp⟩
  · rfl
  · dsimp only
    rcases t.retarget Plaza.hooks p u with ⟨p, err | v⟩
    · rfl
    · rfl
  · rfl

/-- To note what they are called for does not change that. -/
theorem passGates_visit :
    passGates (openPlaza a s.chain) (.enter (numbered s.chain) r) r.uri =
      ((visit a s r).2.1.1, (visit a s r).1, (visit a s r).2.2) := by
  obtain ⟨hpipeline, hplaza, htarget⟩ := Pipeline.visit_noted Plaza.hooks
    (.enter (numbered s.chain) r) (openPlaza a s.chain) [] r.uri
  rw [passGates_eq, ← hpipeline, ← hplaza, ← htarget]
  rfl

/-- When a request has ended, its gates are told how, after how long. -/
theorem settle_eq (p : Plaza) (t : Pipeline Serial) {o : Option Outcome} (nanos : Nat)
    (h : o = none → t.outcome = none) : settle p t o nanos = (ended t o nanos).leave Plaza.hooks p := by
  cases o with
  | none =>
    have hended : ended t none nanos =
        { t with request := { t.request with age := t.request.age + nanos } } := by
      unfold ended
      rw [← h rfl]
    rw [hended]
    rfl
  | some o => rfl

theorem kept_visit : Kept (numbered s.chain) r (visit a s r).1 (visit a s r).2.1.2 :=
  (Kept.enter (numbered s.chain) r).visit Plaza.hooks (openPlaza a s.chain) r.uri

/-- Before a request leaves, its gates have been called in order; and when it leaves, those that have
    admitted it are told how it has ended, each once, the last one first. -/
theorem course_snd (o : Option Outcome) (nanos : Nat) :
    Gate.Orderly ((numbered s.chain).entries.map (·.gate)) r (entered a s r body) ∧
      (course a s r body o nanos).2 = entered a s r body ++
        (admissions (entered a s r body)).reverse.map
          (.settled · { r with age := r.age + nanos } o) := by
  unfold course entered
  split
  case isTrue =>
    -- what happened at the gates tells who has admitted the request
    have k := kept_visit a s r
    have hrequest : (ended (visit a s r).1 o nanos).request = { r with age := r.age + nanos } := by
      unfold ended
      rw [k.request_eq]
    refine ⟨k.orderly, ?_⟩
    rw [Pipeline.leave_calls, hrequest, k.admissions_eq]
    rfl
  case isFalse => exact ⟨Gate.orderly_nil _ _, rfl⟩

end Course

/-! ## The exchange with a server -/

/-- The outcome that is counted agrees with the response. -/
def Fits (resp : Response) : Outcome → Prop
  | .status n => resp.status = n
  | .networkError => resp.status = 502 ∨ resp.status = 504

section Exchange

variable {pool : Pool} {s : Entity.FrontendSettings} {r : Request} {u : Uri} {body : String}
  {limit : Option Nat} {net : Network}

/-- Without endpoints, the answer is that there are no servers. -/
theorem forward_of_nil (h : pool.endpoints = []) :
    forward pool s r u body limit net =
      { pool := pool
        response := .failure 503 ("no servers available for backend " ++ pool.id)
        outcome := some (.status 503) } := by
  unfold forward
  rw [(Pool.select?_eq_none pool).mpr h]

/-- However an exchange ends, the outcome fits the response. -/
theorem fits_of_ending {e : Ending} {o : Outcome} (h : e.outcome? = some o) : Fits e.response o := by
  cases e with
  | answered resp => cases h; rfl
  | broken => cases h; exact .inl rfl
  | late => cases h; exact .inr rfl
  | abandoned => cases h

/-- Only an exchange that takes longer than the request may last is abandoned. -/
theorem reached_of_ending {reply : Reply} {readLimit : Option Nat}
    (h : (reply.ending readLimit limit).outcome? = none) :
    reached limit (reply.waited readLimit) = true := by
  unfold Reply.ending at h
  split at h
  case isTrue hreached => exact hreached
  case isFalse =>
    split at h
    case isTrue => cases h
    case isFalse =>
      split at h
      case h_1 => cases h
      case h_2 => cases h

/-- To forward a request to a pool that has endpoints is to use the pool: the endpoint whose turn it
    is records the outcome, unless there was no exchange with it, or it was abandoned. -/
theorem forward_used (h : pool.Distinct) (hne : pool.endpoints ≠ []) (s : Entity.FrontendSettings)
    (r : Request) (u : Uri) (body : String) (limit : Option Nat) (net : Network) :
    let f := forward pool s r u body limit net
    (∃ trip, f.pool = pool.used trip ∧ ∀ t, trip = some t → f.outcome = some t.1 ∧ f.nanos = t.2) ∧
      (∀ o, f.outcome = some o → Fits f.response o) ∧
      (f.outcome = none → reached limit f.nanos = true) := by
  dsimp only
  unfold forward
  split
  case h_1 hnone => exact absurd ((Pool.select?_eq_none pool).mp hnone) hne
  case h_2 p d hselect =>
    obtain ⟨e, he, rfl, rfl⟩ := Pool.select?_eq_some hselect
    split
    case h_1 =>
      -- the endpoint cannot be asked for the target
      refine ⟨⟨none, Pool.release_selected h he, nofun⟩, ?_, nofun⟩
      rintro o ⟨⟩
      exact .inl rfl
    case h_2 uri _ =>
      dsimp only
      refine ⟨?_, fun o => fits_of_ending, reached_of_ending⟩
      unfold afterExchange
      split
      -- the exchange has an outcome and it is recorded, or it was abandoned
      case h_1 o hout =>
        refine ⟨some (o, _), Pool.release_recorded h o _ he, ?_⟩
        rintro t ⟨⟩
        exact ⟨hout, rfl⟩
      case h_2 hout => exact ⟨none, Pool.release_selected h he, nofun⟩

end Exchange

/-! ## Parts of a proxy in their places -/

section Places

variable {p : Proxy}

/-- A pool is put back under the name of its backend. -/
theorem setPool_eq (h : p.skeleton.Tied) {b : String} {c : Cluster}
    (hc : p.backends.get? b = some c) (pool : Pool) :
    p.setPool c.serial pool =
      { p with backends := p.backends.insert b { c with pool := pool } } := by
  have hnum := h.clusters.of_mapValues
  unfold setPool
  rw [← hnum.mapValues_eq_insert hc fun c => { c with pool := pool }]
  rfl

/-- A service is put back under the name of its frontend. -/
theorem setService_eq (h : p.skeleton.Tied) {q : Proxy} (hq : q.frontends = p.frontends)
    {id : String} {s t : Service} (hs : p.frontends.get? id = some s) (ht : t.serial = s.serial) :
    q.setService t = { q with frontends := p.frontends.insert id t } := by
  have hnum := h.services.of_mapValues
  unfold setService
  rw [← hnum.mapValues_eq_insert hs fun _ => t, ht, hq]
  rfl

end Places

/-! ## A request is served -/

section Serve

variable {a : Ambient} {p : Proxy} {s : Service} {r : Request} {body : String} {net : Network}

/-- A request without an outcome has passed the gates, which have given it none. -/
theorem outcome_of_deliver (h : (p.deliver s r body net (visit a s r).2.2).2.2.1 = none) :
    (visit a s r).1.outcome = none := by
  cases htarget : (visit a s r).2.2 with
  | error resp =>
    rw [htarget] at h
    cases h
  | ok u => exact Pipeline.outcome_visit htarget

/-- What handling a request comes to: the gates are visited, a server may be asked, the gates are
    told, and the service records how the request has ended. -/
theorem serve_eq (a : Ambient) (p : Proxy) (s : Service) (r : Request) (body : String)
    (net : Network) :
    p.serve a s r body net =
      let d := p.deliver s r body net (target a s r body)
      let plaza := (course a s r body d.2.2.1 d.2.2.2).1
      { ambient := countRequest plaza.toAmbient r d.2.1 d.2.2.1
        proxy := d.1.setService (Service.record { s with chain := closePlaza plaza s.chain } d.2.2.1
          (r.age + d.2.2.2))
        response := d.2.1 } := by
  unfold serve target course
  cases hfits : bodyFits s.spec.settings.maxBodyBytes r.headers body with
  | false =>
    simp only [Bool.not_false, if_true, Bool.false_eq_true, if_false, deliver, closePlaza_openPlaza]
    rfl
  | true =>
    simp only [Bool.not_true, Bool.false_eq_true, if_false, if_true]
    rw [passGates_visit]
    rcases hd : p.deliver s r body net (visit a s r).2.2 with ⟨q, resp, o, nanos⟩
    dsimp only
    -- a request without an outcome was sent on, so no gate has answered it
    have hnone : o = none → (visit a s r).1.outcome = none := by
      rintro rfl
      exact outcome_of_deliver (congrArg (·.2.2.1) hd)
    rw [settle_eq _ _ nanos hnone, ← Pipeline.leave_noted]

end Serve

/-! ## Accounts -/

/-- The request is sent on to a server: its body is short enough, all gates admit it and agree to its
    target, and there is a server. -/
structure Selects (a : Ambient) (p : Proxy) (s : Service) (r : Request) (body : String) : Prop where
  short : bodyFits s.spec.settings.maxBodyBytes r.headers body = true
  passes : ∃ u,
    (Pipeline.enter (numbered s.chain) r).Passes Plaza.hooks (openPlaza a s.chain) r.uri u
  served : ∃ c, p.backends.get? s.spec.backendId = some c ∧ c.pool.endpoints ≠ []

/-- The service when a request has ended. -/
def Service.after (a : Ambient) (s : Service) (r : Request) (body : String) (o : Option Outcome)
    (nanos : Nat) : Service :=
  Service.record { s with chain := closePlaza (course a s r body o nanos).1 s.chain } o
    (r.age + nanos)

/-- A request was handled by a service, with this outcome after so many nanoseconds; there is no
    outcome when it was abandoned. -/
structure Account (a : Ambient) (p : Proxy) (s : Service) (r : Request) (body : String)
    (h : Handled) (o : Option Outcome) (nanos : Nat) : Prop where
  /-- The outcome agrees with the response. -/
  fits : ∀ x, o = some x → Fits h.response x
  abandoned : o = none → Selects a p s r body ∧ reached p.options.requestLimit nanos = true
  /-- The frontend goes on as it does after such a request, and the others stay as they are. -/
  frontends : h.proxy.frontends = p.frontends.insert s.spec.id (s.after a r body o nanos)
  /-- The frontend has counted the request, in the class of the outcome and in no other. -/
  counted : ∀ x, o = some x →
    (s.after a r body o nanos).stats.requests = s.stats.requests + 1 ∧
    ∀ c, (s.after a r body o nanos).stats.counter c =
      s.stats.counter c + if c = Stats.classOf x then 1 else 0
  /-- Gates have been asked in order, and those that have admitted the request have been told the
      outcome, each once. -/
  told : Gate.Orderly ((numbered s.chain).entries.map (·.gate)) r (entered a s r body) ∧
    (course a s r body o nanos).2 = entered a s r body ++
      (admissions (entered a s r body)).reverse.map
        (.settled · { r with age := r.age + nanos } o)
  /-- No server has been selected, and none has counted anything. -/
  spared : ¬ Selects a p s r body → h.proxy.backends = p.backends
  /-- One server has been selected, and it alone may have counted the outcome. -/
  used : Selects a p s r body → ∃ c trip, p.backends.get? s.spec.backendId = some c ∧
    (h.proxy.backends =
      p.backends.insert s.spec.backendId { c with pool := c.pool.used trip }) ∧
    ∀ t, trip = some t → o = some t.1 ∧ nanos = t.2
  rest : h.proxy = { p with backends := h.proxy.backends, frontends := h.proxy.frontends }
  ambient : h.ambient = countRequest (course a s r body o nanos).1.toAmbient r h.response o

section Accounts

variable {a : Ambient} {p : Proxy} {s : Service} {r : Request} {body : String} {net : Network}

/-- A request that is sent on has a target. -/
theorem target_of_selects (h : Selects a p s r body) : ∃ u, target a s r body = .ok u := by
  obtain ⟨u, hu⟩ := h.passes
  refine ⟨u, ?_⟩
  unfold target
  rw [if_pos h.short, visit, (Pipeline.visit_noted _ _ _ _ _).2.2]
  exact Pipeline.visit_eq_ok.mpr hu

/-- A request that has a target is short enough and passes the gates. -/
theorem passes_of_target {u : Uri} (h : target a s r body = .ok u) :
    bodyFits s.spec.settings.maxBodyBytes r.headers body = true ∧
      (Pipeline.enter (numbered s.chain) r).Passes Plaza.hooks (openPlaza a s.chain) r.uri u := by
  unfold target at h
  split at h
  case isTrue hshort =>
    rw [visit, (Pipeline.visit_noted _ _ _ _ _).2.2] at h
    exact ⟨hshort, Pipeline.visit_eq_ok.mp h⟩
  case isFalse => cases h

/-- What becomes of a request and of the pools, by what the gates say. -/
structure Delivered (a : Ambient) (p : Proxy) (s : Service) (r : Request) (body : String) (q : Proxy)
    (resp : Response) (o : Option Outcome) (nanos : Nat) : Prop where
  fits : ∀ x, o = some x → Fits resp x
  abandoned : o = none → Selects a p s r body ∧ reached p.options.requestLimit nanos = true
  spared : ¬ Selects a p s r body → q = p
  used : Selects a p s r body → ∃ c trip, p.backends.get? s.spec.backendId = some c ∧
    (q = { p with
      backends := p.backends.insert s.spec.backendId { c with pool := c.pool.used trip } }) ∧
    ∀ t, trip = some t → o = some t.1 ∧ nanos = t.2

/-- A request that is not sent on gets a response of the proxy's own, whose status is its outcome. -/
theorem delivered_unsent {resp : Response} (h : ¬ Selects a p s r body) :
    Delivered a p s r body p resp (some (.status resp.status)) 0 where
  fits := by
    rintro x ⟨⟩
    rfl
  abandoned := nofun
  spared := fun _ => rfl
  used := fun hselects => absurd hselects h

/-- Whatever the gates have said, the request and the pools come to what they should. -/
theorem delivered (hp : p.Regular) {id : String} (hs : p.frontends.get? id = some s) {q : Proxy}
    {resp : Response} {o : Option Outcome} {nanos : Nat}
    (h : p.deliver s r body net (target a s r body) = (q, resp, o, nanos)) :
    Delivered a p s r body q resp o nanos := by
  cases htarget : target a s r body with
  | error e =>
    rw [htarget] at h
    cases h
    refine delivered_unsent fun hselects => ?_
    obtain ⟨u, hu⟩ := target_of_selects hselects
    rw [htarget] at hu
    cases hu
  | ok u =>
    -- the request has a target, and the backend of its frontend is there
    obtain ⟨hshort, hpasses⟩ := passes_of_target htarget
    obtain ⟨c, hc, hcluster⟩ := (integrity_of_tied hp.tied).backed id s hs
    rw [htarget, deliver, hcluster] at h
    dsimp only at h
    rw [setPool_eq hp.tied hc] at h
    by_cases hne : c.pool.endpoints = []
    · -- there is no server, and the pool is put back as it was
      have hunserved : ¬ Selects a p s r body := by
        rintro ⟨-, -, c', hc', hne'⟩
        rw [hc] at hc'
        cases hc'
        exact hne' hne
      have hsame : p.backends.insert s.spec.backendId { c with pool := c.pool } = p.backends :=
        Dictionary.insert_of_get? hc
      rw [forward_of_nil hne, hsame] at h
      cases h
      exact delivered_unsent hunserved
    · have hselects : Selects a p s r body := ⟨hshort, ⟨u, hpasses⟩, c, hc, hne⟩
      obtain ⟨⟨trip, hpool, htrip⟩, hfits, habandoned⟩ :=
        forward_used (hp.pool hc) hne s.spec.settings r u body p.options.requestLimit net
      rw [hpool] at h
      cases h
      exact ⟨hfits, fun hnone => ⟨hselects, habandoned hnone⟩, fun h => absurd hselects h,
        fun _ => ⟨c, trip, hc, rfl, htrip⟩⟩

/-- What the network would make of a request that is not sent on makes no difference. -/
theorem deliver_congr (hp : p.Regular) {id : String} (hs : p.frontends.get? id = some s)
    (h : ¬ Selects a p s r body) (net net' : Network) :
    p.deliver s r body net (target a s r body) = p.deliver s r body net' (target a s r body) := by
  cases htarget : target a s r body with
  | error resp => rfl
  | ok u =>
    obtain ⟨hshort, hpasses⟩ := passes_of_target htarget
    obtain ⟨c, hc, hcluster⟩ := (integrity_of_tied hp.tied).backed id s hs
    have hnil : c.pool.endpoints = [] := by
      by_contra hne
      exact h ⟨hshort, ⟨u, hpasses⟩, c, hc, hne⟩
    unfold deliver
    rw [hcluster]
    dsimp only
    rw [forward_of_nil hnil, forward_of_nil hnil]

/-- A service that handles a request gives account of it. -/
theorem account_serve (hp : p.Regular) (hs : p.frontends.get? s.spec.id = some s) :
    ∃ o nanos, Account a p s r body (p.serve a s r body net) o nanos := by
  obtain ⟨q, resp, o, nanos, hdeliver⟩ : ∃ q resp o nanos,
      p.deliver s r body net (target a s r body) = (q, resp, o, nanos) := ⟨_, _, _, _, rfl⟩
  have hd : Delivered a p s r body q resp o nanos := delivered hp hs hdeliver
  rw [serve_eq, hdeliver]
  -- apart from the pools, nothing has happened to the proxy yet
  have hparts : q = { p with backends := q.backends } := by
    by_cases hselects : Selects a p s r body
    · obtain ⟨c, trip, -, hq, -⟩ := hd.used hselects
      rw [hq]
    · rw [hd.spared hselects]
  have hserial : (s.after a r body o nanos).serial = s.serial := by
    unfold Service.after Service.record
    cases o with
    | none => rfl
    | some x => rfl
  have hset : q.setService (s.after a r body o nanos) =
      { p with
        backends := q.backends
        frontends := p.frontends.insert s.spec.id (s.after a r body o nanos) } := by
    rw [setService_eq hp.tied (by rw [hparts]) hs hserial, hparts]
  refine ⟨o, nanos, ?_⟩
  show Account a p s r body ⟨_, q.setService (s.after a r body o nanos), resp⟩ o nanos
  rw [hset]
  refine {
    fits := hd.fits
    abandoned := hd.abandoned
    frontends := rfl
    counted := ?_
    told := course_snd a s r body o nanos
    spared := fun hselects => by rw [hd.spared hselects]
    used := fun hselects => ?_
    rest := rfl
    ambient := rfl }
  · rintro x rfl
    exact Stats.counter_record s.stats x (r.age + nanos)
  · obtain ⟨c, trip, hc, hq, htrip⟩ := hd.used hselects
    exact ⟨c, trip, hc, by rw [hq], htrip⟩

/-- A request is routed to a frontend in service. -/
theorem service_of_route? (h : p.skeleton.Tied) {method : Method} {host : Option String}
    {path : String} {params : List (String × String)}
    (hroute : p.route? method host path = some (s, params)) :
    p.frontends.get? s.spec.id = some s := by
  unfold route? at hroute
  split at hroute
  case h_1 m hm =>
    obtain ⟨t, ht, heq⟩ := Option.map_eq_some_iff.mp hroute
    obtain ⟨rfl, -⟩ := Prod.mk.inj heq
    obtain ⟨id, hid⟩ := Dictionary.mem_values_iff.mp (List.mem_of_find?_eq_some ht)
    -- a service is found under the name that its frontend has
    have hname : t.spec.id = id := h.names id t.face (get?_services hid)
    rw [hname]
    exact hid
  case h_2 => cases hroute

/-- However a proxy has come about, whatever request it gets and whatever the network does: a request
    that no route matches is answered by 404 and leaves the proxy as it is.  One that is routed to a
    frontend is accounted for: the frontend counts it once, in the class of its outcome, gates that
    have admitted it are told this outcome once, and a server is selected exactly when the body is
    short enough, all gates have admitted the request and agreed to its target, and there is a
    server; and at most that one server counts it.  A request that is not sent on is answered in the
    same way whatever the network would have made of it. -/
theorem handle_accounts (hp : Reached p) (a : Ambient) (r : Request) (body : String)
    (net : Network) :
    (p.route? r.method r.host? r.uri.routePath = none →
      (p.handle a r body net).response.status = 404 ∧ (p.handle a r body net).proxy = p) ∧
    ∀ s params, p.route? r.method r.host? r.uri.routePath = some (s, params) →
      let routed := { r with frontend := s.spec.id, params := params }
      (∃ o nanos, Account a p s routed body (p.handle a r body net) o nanos) ∧
        (¬ Selects a p s routed body →
          ∀ net', p.handle a r body net' = p.handle a r body net) := by
  constructor
  · intro hnone
    unfold handle
    rw [hnone]
    exact ⟨rfl, rfl⟩
  · intro s params hroute
    have hs : p.frontends.get? s.spec.id = some s := service_of_route? hp.regular.tied hroute
    unfold handle
    rw [hroute]
    refine ⟨account_serve hp.regular hs, fun hselects net' => ?_⟩
    dsimp only
    rw [serve_eq, serve_eq, deliver_congr hp.regular hs hselects net' net]

/-- A proxy with one server, and one frontend that admits one request at a time of every client. -/
def narrow : Proxy :=
  (make 1 {}).play ⟨.standard, fun _ => true⟩ 0 [
    .upsert (.server "b" ⟨"s", "http://127.0.0.1:9000"⟩),
    .upsert (.frontend { id := "f", route := "Path(\x60/a\x60)", backendId := "b" }),
    .upsert (.gate "f" ⟨"g", 0, "connlimit", .obj [("connections", .ofNat 1)]⟩)]

/-- A request for the frontend, from some client. -/
def asking : Request where
  uri := { path := "/a" }
  client := some ⟨.v4 127 0 0 1, 40000⟩

/-- The server answers the request, and the frontend and the server have counted it. -/
theorem handle_accounts_narrow : ∃ s params, Reached narrow ∧
    narrow.route? asking.method asking.host? asking.uri.routePath = some (s, params) ∧
    (∃ o nanos, Account {} narrow s { asking with frontend := s.spec.id, params := params } ""
      (narrow.handle {} asking "" fun _ => ⟨some { status := 200 }, 1000⟩) o nanos) ∧
    (narrow.handle {} asking "" fun _ => ⟨some { status := 200 }, 1000⟩).response.status = 200 := by
  have hreached : Reached narrow := (Reached.make 1 {}).playOn _ (fun _ => 0) _
  have hroute : (narrow.route? asking.method asking.host? asking.uri.routePath).isSome = true := by
    decide +kernel
  obtain ⟨⟨s, params⟩, hs⟩ := Option.isSome_iff_exists.mp hroute
  have haccount :=
    (handle_accounts hreached {} asking "" fun _ => ⟨some { status := 200 }, 1000⟩).2 s params hs
  exact ⟨s, params, hreached, hs, haccount.1, by decide +kernel⟩

/-! ## Requests as traffic -/

/-- A request changes nothing of its service but what it counts, and the states of its gates. -/
theorem bare_after (a : Ambient) (s : Service) (r : Request) (body : String) (o : Option Outcome)
    (nanos : Nat) : (s.after a r body o nanos).bare = s.bare := by
  unfold Service.after
  have hlabels := labels_closePlaza (course a s r body o nanos).1 s.chain
  cases o with
  | none => exact congrArg (s.face, ·) hlabels
  | some x => exact congrArg (s.face, ·) hlabels

/-- A request that is accounted for leaves alone what the proxy was told. -/
theorem Account.traffic {h : Handled} {o : Option Outcome} {nanos : Nat}
    (ha : Account a p s r body h o nanos) (hs : p.frontends.get? s.spec.id = some s) :
    Traffic p h.proxy where
  rest := by
    rw [ha.rest]
  backends := by
    by_cases hselects : Selects a p s r body
    · obtain ⟨c, trip, hc, hbackends, -⟩ := ha.used hselects
      rw [hbackends]
      refine Dictionary.mapValues_insert_same hc ?_
      exact congrArg (fun pool => { c with pool := pool }) (Pool.bare_used c.pool trip)
    · rw [ha.spared hselects]
  frontends := by
    rw [ha.frontends]
    exact Dictionary.mapValues_insert_same hs (bare_after a s r body o nanos)

/-- What handling a request does to a proxy is among what traffic may do. -/
theorem traffic_handle (hp : p.Regular) (a : Ambient) (r : Request) (body : String)
    (net : Network) : Traffic p (p.handle a r body net).proxy := by
  unfold handle
  split
  case h_1 => exact ⟨rfl, rfl, rfl⟩
  case h_2 s params hroute =>
    have hs : p.frontends.get? s.spec.id = some s := service_of_route? hp.tied hroute
    obtain ⟨o, nanos, haccount⟩ : ∃ o nanos,
        Account a p s { r with frontend := s.spec.id, params := params } body
          (p.serve a s { r with frontend := s.spec.id, params := params } body net) o nanos :=
      account_serve hp hs
    exact haccount.traffic hs

/-- A proxy that has handled a request is among those that can come about. -/
theorem Reached.handle (h : Reached p) (a : Ambient) (r : Request) (body : String)
    (net : Network) : Reached (p.handle a r body net).proxy :=
  h.traffic (traffic_handle h.regular a r body net)

end Accounts

end Turnpike.Proxy
