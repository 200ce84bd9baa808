/-
  What a change leaves alone.

  A proxy is changed while it is in use, and whoever changes one entity relies on the others going
  on as they are: their counters, their sockets, the state of their gates, and their place in every
  order that matters.

  1. **States** (`state?`).  All that a proxy keeps for an entity, counters and sockets included, is
     the state of that entity; what it keeps for the entities that belong to it is theirs.  So the
     state of a backend says nothing of its servers, nor that of a frontend of its gates.

  2. **What is spared** (`spared?`).  A change that is applied alters the state of the entity that
     it names.  Besides, what belongs to an entity goes with it, and a server brings a plain backend
     with it; the state of every other entity stays as it is.

  3. **Orders.**  Servers of a backend are selected in turn, gates are asked in order, and of two
     routes the first one counts.  So the others keep not only their states but their order
     (`endpointsBeside`, `gatesBeside`, `routesBeside`).  The state of a server or a gate is found
     in these lists, and that is how it is shown to stay.

  4. **By the ways in which changes are applied** (`Applied`).  For each kind of entity there is one
     lemma, with a case for each way that touches the part of the proxy in which it is kept; all
     other ways leave that part alone by definition.  Routes are known by the serial numbers of
     their frontends, so for these the proxy must be tied.

  All of it is put together in `Spares`, and holds of every change to a proxy that can come about
  (`spares_apply`).
-/
import Turnpike.Proofs.Proxy.Account

namespace Turnpike

/-! ## Entities and their state -/

/-- The entity that an entity belongs to. -/
def Entity.Ref.parent? : Entity.Ref → Option Entity.Ref
  | .server b _ => some (.backend b)
  | .gate f _ => some (.frontend f)
  | _ => none

namespace Proxy

open Turnpike.Entity Turnpike.Balance Turnpike.Route

/-- What a proxy keeps for an entity, besides what it keeps for those that belong to it. -/
inductive State where
  | host (h : Host)
  | listener (e : Listening)
  | backend (serial : Nat) (settings : BackendSettings) (turn : UInt64)
  | server (e : Endpoint)
  | frontend (serial : Nat) (spec : Frontend) (cluster : Nat) (stats : Stats)
  | gate (e : Gate.Entry Gate.Instance)

/-- The state of a backend without its servers. -/
def Cluster.state (c : Cluster) : State := .backend c.serial c.pool.settings c.pool.turn

/-- The state of a frontend without its gates. -/
def Service.state (s : Service) : State := .frontend s.serial s.spec s.cluster s.stats

/-- The endpoints of a backend in order. -/
def endpointsOf (p : Proxy) (b : String) : List Endpoint := p.backends.listAt (·.pool.endpoints) b

/-- The gates of a frontend in order. -/
def gatesOf (p : Proxy) (f : String) : List (Gate.Entry Gate.Instance) :=
  p.frontends.listAt (·.chain.entries) f

/-- The state of an entity, if it is there. -/
def state? (p : Proxy) : Ref → Option State
  | .host name => (p.hosts.get? name).map .host
  | .listener id => (p.listeners.get? id).map .listener
  | .backend b => (p.backends.get? b).map Cluster.state
  | .server b id => ((p.endpointsOf b).find? (·.id == id)).map .server
  | .frontend f => (p.frontends.get? f).map Service.state
  | .gate f id => ((p.gatesOf f).find? (·.id == id)).map .gate

/-! ## What a change spares -/

/-- The state, after a change, of an entity that the change does not name. -/
def spared? (p : Proxy) (c : Change) (r : Ref) : Option State :=
  match c with
  | .delete x => if r.parent? = some x then none else p.state? r
  | .upsert (.server b _) =>
    if r = .backend b then (p.state? r).or (some (.backend p.nextSerial {} 0)) else p.state? r
  | .upsert _ => p.state? r

/-- The endpoints of a backend, but not the one of that name. -/
def endpointsBeside (p : Proxy) (r : Ref) (b : String) : List Endpoint :=
  (p.endpointsOf b).filter fun e => Ref.server b e.id ≠ r

/-- The gates of a frontend, but not the one of that name. -/
def gatesBeside (p : Proxy) (r : Ref) (f : String) : List (Gate.Entry Gate.Instance) :=
  (p.gatesOf f).filter fun e => Ref.gate f e.id ≠ r

/-- The routes, but not one to the frontend of that name. -/
def routesBeside (p : Proxy) (r : Ref) : List (Route.Entry Nat) :=
  p.router.entries.filter fun e => (p.service? e.target).map (Ref.frontend ·.spec.id) ≠ some r

/-- What an applied change leaves as it is. -/
structure Spares (p : Proxy) (c : Change) (q : Proxy) : Prop where
  /-- The state of whatever is not named. -/
  others : ∀ r, r ≠ c.ref → q.state? r = p.spared? c r
  /-- The other servers of a backend, in their order. -/
  endpoints : ∀ b, c ≠ .delete (.backend b) → q.endpointsBeside c.ref b = p.endpointsBeside c.ref b
  /-- The other gates of a frontend, in their order. -/
  gates : ∀ f, c ≠ .delete (.frontend f) → q.gatesBeside c.ref f = p.gatesBeside c.ref f
  /-- The routes to other frontends, in their order. -/
  routes : q.routesBeside c.ref = p.routesBeside c.ref
  /-- A backend that gets other settings goes on counting selections. -/
  backend : ∀ b serial settings turn, c = .upsert (.backend b) →
    p.state? c.ref = some (.backend serial settings turn) →
      q.state? c.ref = some (.backend serial b.settings turn)
  /-- A frontend that is put again keeps what was counted for it, and goes to its backend. -/
  frontend : ∀ f serial spec cluster stats, c = .upsert (.frontend f) →
    p.state? c.ref = some (.frontend serial spec cluster stats) →
      ∃ k, p.backends.get? f.backendId = some k ∧
        q.state? c.ref = some (.frontend serial f k.serial stats)
  rest : q.id = p.id ∧ q.options = p.options ∧ q.phase = p.phase ∧ q.tracker = p.tracker

section Parts

variable {g : Ground} {now : Nat} {p q : Proxy} {c : Change}

/-! ## Entities that belong to others -/

section Beside

variable {α : Type} {key : α → String} {name : String → Ref} {id : String}

/-- Besides an entity stand those of other identifiers. -/
theorem filter_beside (hname : Function.Injective name) (es : List α) :
    (es.filter fun e => name (key e) ≠ name id) = es.filter (key · != id) := by
  refine List.filter_congr fun e _ => ?_
  by_cases he : key e = id
  · simp [he]
  · simp [he, hname.ne he]

/-- What is not the entity is found among those besides. -/
theorem find?_beside {r : Ref} (hr : name id ≠ r) (es : List α) :
    (es.filter fun e => name (key e) ≠ r).find? (key · == id) = es.find? (key · == id) := by
  rw [List.find?_filter]
  congr 1
  funext e
  by_cases he : key e = id
  · simp [he, hr]
  · simp [he]

end Beside

/-- Servers of a backend are told apart by their identifiers. -/
theorem server_injective (b : String) : Function.Injective (Ref.server b) :=
  fun _ _ h => (Ref.server.inj h).2

theorem gate_injective (f : String) : Function.Injective (Ref.gate f) :=
  fun _ _ h => (Ref.gate.inj h).2

theorem spared?_of_parent {r x : Ref} (h : r.parent? = some x) : p.spared? (.delete x) r = none :=
  if_pos h

/-- An entity that belongs to another stays when the other is not deleted. -/
theorem spared?_of_ne {r x : Ref} (h : r.parent? = some x) (hc : c ≠ .delete x) :
    p.spared? c r = p.state? r := by
  unfold spared?
  split
  case h_1 y =>
    refine if_neg fun heq => hc ?_
    rw [← Option.some.inj (h.symm.trans heq)]
  case h_2 =>
    refine if_neg fun heq => ?_
    rw [heq] at h
    cases h
  case h_3 => rfl

/-! ## Servers -/

/-- What stands beside depends on the endpoints of the backend. -/
theorem endpointsBeside_congr {b : String} {r : Ref}
    (h : (q.backends.get? b).map (·.pool.endpoints) = (p.backends.get? b).map (·.pool.endpoints)) :
    q.endpointsBeside r b = p.endpointsBeside r b := by
  unfold endpointsBeside endpointsOf Dictionary.listAt
  rw [h]

/-- Where a backend gets another pool, it is enough to look at that backend. -/
theorem endpointsBeside_insert {b : String} {k : Cluster} {r : Ref}
    (hq : q.backends = p.backends.insert b k)
    (hown : (k.pool.endpoints.filter fun e => Ref.server b e.id ≠ r) = p.endpointsBeside r b)
    (n : String) : q.endpointsBeside r n = p.endpointsBeside r n := by
  unfold endpointsBeside endpointsOf
  rw [hq]
  exact Dictionary.listAt_insert_congr (f := fun k : Cluster => k.pool.endpoints)
    (F := fun n es => es.filter fun e => Ref.server n e.id ≠ r) hown n

/-- The other servers of a backend stay as they are, in their order. -/
theorem Applied.endpointsBeside (ha : Applied g now p c q) {b : String}
    (hc : c ≠ .delete (.backend b)) : q.endpointsBeside c.ref b = p.endpointsBeside c.ref b := by
  cases ha with
  | backend _ there =>
    refine endpointsBeside_insert rfl ?_ b
    rw [Proxy.endpointsBeside, endpointsOf, Dictionary.listAt_of_get? there]
    rfl
  | @newBackend d _ absent =>
    have hnone : p.backends.get? (Pool.ofBackend d).id = none := absent
    refine endpointsBeside_insert rfl ?_ b
    rw [Proxy.endpointsBeside, endpointsOf, Dictionary.listAt_of_none hnone]
    rfl
  | @dropBackend id =>
    have hne : b ≠ id := fun heq => hc (by rw [heq])
    rw [Proxy.endpointsBeside, endpointsOf, Dictionary.listAt_erase_ne hne]
    rfl
  | server there placed =>
    refine endpointsBeside_insert rfl ?_ b
    rw [Proxy.endpointsBeside, endpointsOf, Dictionary.listAt_of_get? there, Change.ref, Upsert.ref,
      filter_beside (server_injective _), filter_beside (server_injective _),
      Pool.filter_upsert placed]
  -- the backend has come with the server, so there were no others
  | @newServer backend s pool absent placed =>
    have hid : pool.id = backend := (Pool.id_of_upsert placed).1
    subst hid
    refine endpointsBeside_insert rfl ?_ b
    rw [Proxy.endpointsBeside, endpointsOf, Dictionary.listAt_of_none absent, Change.ref,
      Upsert.ref, filter_beside (server_injective _), Pool.filter_upsert placed]
    rfl
  | dropServer there removed =>
    obtain ⟨-, rfl⟩ := Pool.remove_eq_ok removed
    refine endpointsBeside_insert rfl ?_ b
    rw [Proxy.endpointsBeside, endpointsOf, Dictionary.listAt_of_get? there, Change.ref,
      filter_beside (server_injective _), filter_beside (server_injective _), List.filter_filter]
    simp only [Bool.and_self]
  -- frontends only note at a backend that they use it
  | newFrontend => exact endpointsBeside_congr (map_join (fun _ _ => rfl) _ _ _ _)
  | frontend => exact endpointsBeside_congr (map_moved (fun _ _ => rfl) p _ _ _)
  | dropFrontend => exact endpointsBeside_congr (map_part (fun _ _ => rfl) _ _ _ _)
  | _ => rfl

/-- A server that is not named stays, unless its backend is deleted. -/
theorem Applied.state?_server (ha : Applied g now p c q) {b id : String}
    (hr : .server b id ≠ c.ref) : q.state? (.server b id) = p.spared? c (.server b id) := by
  by_cases hc : c = .delete (.backend b)
  · subst hc
    have hnone : q.endpointsOf b = [] := by
      cases ha with
      | dropBackend => exact Dictionary.listAt_of_none (p.backends.get?_erase_self b)
    rw [state?, hnone, spared?_of_parent rfl]
    rfl
  -- it is found among the servers beside the one that is named
  · have hsame := ha.endpointsBeside hc
    unfold Proxy.endpointsBeside at hsame
    rw [spared?_of_ne rfl hc, state?, state?, ← find?_beside hr, hsame, find?_beside hr]

/-! ## Gates -/

/-- Where a frontend is another than before, it is enough to look at that frontend. -/
theorem gatesBeside_insert {f : String} {s : Service} {r : Ref}
    (hq : q.frontends = p.frontends.insert f s)
    (hown : (s.chain.entries.filter fun e => Ref.gate f e.id ≠ r) = p.gatesBeside r f)
    (n : String) : q.gatesBeside r n = p.gatesBeside r n := by
  unfold gatesBeside gatesOf
  rw [hq]
  exact Dictionary.listAt_insert_congr (f := fun s : Service => s.chain.entries)
    (F := fun n es => es.filter fun e => Ref.gate n e.id ≠ r) hown n

/-- The other gates of a frontend stay as they are, in their order. -/
theorem Applied.gatesBeside (h : p.Regular) (ha : Applied g now p c q) {f : String}
    (hc : c ≠ .delete (.frontend f)) : q.gatesBeside c.ref f = p.gatesBeside c.ref f := by
  cases ha with
  | newFrontend _ _ absent =>
    refine gatesBeside_insert rfl ?_ f
    rw [Proxy.gatesBeside, gatesOf, Dictionary.listAt_of_none absent]
    rfl
  | frontend _ _ there =>
    refine gatesBeside_insert rfl ?_ f
    rw [Proxy.gatesBeside, gatesOf, Dictionary.listAt_of_get? there]
  | @dropFrontend id =>
    have hne : f ≠ id := fun heq => hc (by rw [heq])
    rw [Proxy.gatesBeside, gatesOf, Dictionary.listAt_erase_ne hne]
    rfl
  | @gate _ gate s i _ there =>
    refine gatesBeside_insert rfl ?_ f
    rw [Proxy.gatesBeside, gatesOf, Dictionary.listAt_of_get? there, Change.ref, Upsert.ref,
      filter_beside (gate_injective _), filter_beside (gate_injective _)]
    exact (h.chain there).filter_upsert ⟨gate.id, gate.priority, gate.kind, i⟩
  | dropGate there removed =>
    refine gatesBeside_insert rfl ?_ f
    rw [Proxy.gatesBeside, gatesOf, Dictionary.listAt_of_get? there, Change.ref,
      filter_beside (gate_injective _), filter_beside (gate_injective _)]
    exact (h.chain there).filter_remove removed
  | _ => rfl

/-- A gate that is not named stays, unless its frontend is deleted. -/
theorem Applied.state?_gate (h : p.Regular) (ha : Applied g now p c q) {f id : String}
    (hr : .gate f id ≠ c.ref) : q.state? (.gate f id) = p.spared? c (.gate f id) := by
  by_cases hc : c = .delete (.frontend f)
  · subst hc
    have hnone : q.gatesOf f = [] := by
      cases ha with
      | dropFrontend => exact Dictionary.listAt_of_none (p.frontends.get?_erase_self f)
    rw [state?, hnone, spared?_of_parent rfl]
    rfl
  · have hsame := ha.gatesBeside h hc
    unfold Proxy.gatesBeside at hsame
    rw [spared?_of_ne rfl hc, state?, state?, ← find?_beside hr, hsame, find?_beside hr]

/-! ## Hosts and listeners -/

/-- A host that is not named stays. -/
theorem Applied.state?_host (ha : Applied g now p c q) {name : String}
    (hr : .host name ≠ c.ref) : q.state? (.host name) = p.spared? c (.host name) := by
  have hne {n : String} (hn : c.ref = .host n) : name ≠ n := by
    rintro rfl
    exact hr hn.symm
  cases ha with
  | host => exact congrArg (Option.map State.host) (p.hosts.get?_insert_ne _ (hne rfl))
  | dropHost => exact congrArg (Option.map State.host) (p.hosts.get?_erase_ne (hne rfl))
  | _ => rfl

/-- So does a listener, with its socket. -/
theorem Applied.state?_listener (ha : Applied g now p c q) {id : String}
    (hr : .listener id ≠ c.ref) : q.state? (.listener id) = p.spared? c (.listener id) := by
  have hne {n : String} (hn : c.ref = .listener n) : id ≠ n := by
    rintro rfl
    exact hr hn.symm
  have hinsert {n : String} (hn : c.ref = .listener n) (e : Listening) :
      ((p.listeners.insert n e).get? id).map State.listener = p.state? (.listener id) :=
    congrArg (Option.map State.listener) (p.listeners.get?_insert_ne e (hne hn))
  cases ha with
  | listener => exact hinsert rfl _
  | newListener => exact hinsert rfl _
  | boundListener => exact hinsert rfl _
  | dropListener => exact congrArg (Option.map State.listener) (p.listeners.get?_erase_ne (hne rfl))
  | _ => rfl

/-! ## Backends and frontends -/

/-- A backend that is not named stays, or it comes with its first server. -/
theorem Applied.state?_backend (ha : Applied g now p c q) {b : String}
    (hr : .backend b ≠ c.ref) : q.state? (.backend b) = p.spared? c (.backend b) := by
  have hne {n : String} (hn : c.ref = .backend n) : b ≠ n := by
    rintro rfl
    exact hr hn.symm
  have hinsert {n : String} (hn : b ≠ n) (k : Cluster) :
      ((p.backends.insert n k).get? b).map Cluster.state = p.state? (.backend b) :=
    congrArg (Option.map Cluster.state) (p.backends.get?_insert_ne k hn)
  cases ha with
  | backend => exact hinsert (hne rfl) _
  | newBackend => exact hinsert (hne rfl) _
  | dropBackend => exact congrArg (Option.map Cluster.state) (p.backends.get?_erase_ne (hne rfl))
  | @server n s k pool there placed =>
    -- the backend is there already, so the server brings none
    have hsame : p.spared? (.upsert (.server n s)) (.backend b) = p.state? (.backend b) := by
      rw [spared?]
      split
      case isTrue heq =>
        obtain rfl := Ref.backend.inj heq
        rw [state?, there]
        rfl
      case isFalse => rfl
    rw [hsame]
    refine Dictionary.map_get?_insert_same there ?_ b
    unfold Cluster.state
    rw [(Pool.id_of_upsert placed).2, Pool.turn_of_upsert placed]
  | @newServer n s pool absent placed =>
    have hid : pool.id = n := (Pool.id_of_upsert placed).1
    subst hid
    rw [spared?]
    split
    case isTrue heq =>
      obtain rfl := Ref.backend.inj heq
      rw [state?, state?, absent, addCluster, Dictionary.get?_insert_self, Option.map_some]
      unfold Cluster.state
      rw [(Pool.id_of_upsert placed).2, Pool.turn_of_upsert placed]
      rfl
    case isFalse hb => exact hinsert (fun heq => hb (congrArg Ref.backend heq)) _
  | dropServer there removed =>
    obtain ⟨-, rfl⟩ := Pool.remove_eq_ok removed
    refine Dictionary.map_get?_insert_same there ?_ b
    rfl
  | newFrontend => exact map_join (fun _ _ => rfl) _ _ _ _
  | frontend => exact map_moved (fun _ _ => rfl) p _ _ _
  | dropFrontend => exact map_part (fun _ _ => rfl) _ _ _ _
  | _ => rfl

/-- A frontend that is not named stays, whatever is done to its gates. -/
theorem Applied.state?_frontend (ha : Applied g now p c q) {f : String}
    (hr : .frontend f ≠ c.ref) : q.state? (.frontend f) = p.spared? c (.frontend f) := by
  have hne {n : String} (hn : c.ref = .frontend n) : f ≠ n := by
    rintro rfl
    exact hr hn.symm
  -- the frontend is another one than that which has been put
  have hinsert {n : String} (hn : f ≠ n) (s : Service) :
      ((p.frontends.insert n s).get? f).map Service.state = p.state? (.frontend f) :=
    congrArg (Option.map Service.state) (p.frontends.get?_insert_ne s hn)
  cases ha with
  | newFrontend => exact hinsert (hne rfl) _
  | frontend => exact hinsert (hne rfl) _
  | dropFrontend => exact congrArg (Option.map Service.state) (p.frontends.get?_erase_ne (hne rfl))
  | gate _ there =>
    refine Dictionary.map_get?_insert_same there ?_ f
    rfl
  | dropGate there =>
    refine Dictionary.map_get?_insert_same there ?_ f
    rfl
  | _ => rfl

/-- What a change does not name is as it was, but for what comes and goes with the entity named. -/
theorem Applied.state?_eq (h : p.Regular) (ha : Applied g now p c q) {r : Ref} (hr : r ≠ c.ref) :
    q.state? r = p.spared? c r := by
  cases r with
  | host => exact ha.state?_host hr
  | listener => exact ha.state?_listener hr
  | backend => exact ha.state?_backend hr
  | server => exact ha.state?_server hr
  | frontend => exact ha.state?_frontend hr
  | gate => exact ha.state?_gate h hr

/-! ## Routes -/

/-- The target of a route is the serial number of a frontend that is there. -/
theorem exists_serial (h : p.skeleton.Tied) {e : Route.Entry Nat} (he : e ∈ p.router.entries) :
    ∃ id s, p.frontends.get? id = some s ∧ p.service? e.target = some s ∧ s.spec.id = id ∧
      s.serial = e.target := by
  obtain ⟨id, s, hs, htarget, -⟩ := exists_service h he
  have hserial : s.serial = e.target := by simpa using List.find?_some htarget
  exact ⟨id, s, hs, htarget, h.names id s.face (get?_services hs), hserial⟩

/-- The routes beside a frontend are those that lead elsewhere. -/
theorem routesBeside_eq (h : p.skeleton.Tied) {f : String} {s : Service}
    (hs : p.frontends.get? f = some s) :
    p.routesBeside (.frontend f) = p.router.entries.filter (·.target ≠ s.serial) := by
  refine List.filter_congr fun e he => ?_
  obtain ⟨id, t, ht, htarget, hname, hserial⟩ := exists_serial h he
  -- two frontends with one serial number are one
  have hsame : id = f ↔ t.serial = s.serial := by
    constructor
    · rintro rfl
      rw [hs] at ht
      cases ht
      rfl
    · exact h.services.of_mapValues.distinct id f t s ht hs
  rw [htarget, Option.map_some, hname, ← hserial]
  simp [hsame]

/-- Where there is no such frontend, no route leads to it. -/
theorem routesBeside_of_none (h : p.skeleton.Tied) {f : String}
    (hnone : p.frontends.get? f = none) : p.routesBeside (.frontend f) = p.router.entries := by
  refine List.filter_eq_self.mpr fun e he => ?_
  obtain ⟨id, t, ht, htarget, hname, -⟩ := exists_serial h he
  have hne : id ≠ f := by
    rintro rfl
    rw [hnone] at ht
    cases ht
  rw [htarget, Option.map_some, hname]
  simpa using hne

/-- Routes lead to frontends only. -/
theorem routesBeside_congr {r : Ref} (hr : ∀ f, r ≠ .frontend f)
    (hq : q.router.entries = p.router.entries) : q.routesBeside r = p.routesBeside r := by
  have hall (x : Proxy) : x.routesBeside r = x.router.entries := by
    refine List.filter_eq_self.mpr fun e _ => decide_eq_true fun heq => ?_
    obtain ⟨s, -, hs⟩ := Option.map_eq_some_iff.mp heq
    exact hr s.spec.id hs.symm
  rw [hall, hall, hq]

/-- Of a serial number that no frontend has there is no route. -/
theorem filter_target_eq_self (h : p.skeleton.Tied) {n : Nat}
    (hn : ∀ id s, p.frontends.get? id = some s → s.serial ≠ n) :
    p.router.entries.filter (·.target ≠ n) = p.router.entries := by
  refine List.filter_eq_self.mpr fun e he => decide_eq_true fun heq => ?_
  obtain ⟨id, s, hs, -, -, hserial⟩ := exists_serial h he
  exact hn id s hs (hserial.trans heq)

/-- A route with the expression of a frontend leads to it. -/
theorem target_of_route (h : p.skeleton.Tied) {f : String} {s : Service}
    (hs : p.frontends.get? f = some s) (pattern : Pattern)
    (hpattern : Pattern.parse s.spec.route = .ok pattern) :
    ∀ e ∈ p.router.entries, e.key = pattern.canonical → decide (e.target ≠ s.serial) = false := by
  intro e he hkey
  rw [h.entry_eq (get?_services hs) hpattern he hkey]
  exact decide_eq_false (not_not_intro rfl)

/-- The routes to other frontends stay as they are, in their order. -/
theorem Applied.routesBeside (h : p.skeleton.Tied) (ha : Applied g now p c q) :
    q.routesBeside c.ref = p.routesBeside c.ref := by
  have hq := tied_applied h ha
  cases ha with
  | newFrontend _ _ absent routed =>
    obtain ⟨pattern, -, -, rfl⟩ := Router.add_eq_ok.mp routed
    -- the serial number is new
    have hnew : ∀ id s, p.frontends.get? id = some s → s.serial ≠ p.nextSerial :=
      fun id s hs => Nat.ne_of_lt (h.services.of_mapValues.below id s hs)
    rw [Change.ref, Upsert.ref, routesBeside_of_none h absent,
      routesBeside_eq hq (Dictionary.get?_insert_self _ _ _),
      Router.filter_push _ (decide_eq_false (not_not_intro rfl))]
    exact filter_target_eq_self h hnew
  | frontend _ _ there routed =>
    rw [Change.ref, Upsert.ref, routesBeside_eq h there,
      routesBeside_eq hq (Dictionary.get?_insert_self _ _ _)]
    -- the route is the same, or it takes the place of the former one
    unfold reroute at routed
    split at routed
    case isTrue => cases routed; rfl
    case isFalse =>
      exact Router.filter_replace routed (target_of_route h there)
        fun _ => decide_eq_false (not_not_intro rfl)
  | @dropFrontend id s there =>
    -- no frontend that is left has the serial number of the one that goes
    have hgone : ∀ n t, (p.frontends.erase id).get? n = some t → t.serial ≠ s.serial := by
      intro n t ht heq
      rw [Dictionary.get?_erase] at ht
      split at ht
      case isTrue => cases ht
      case isFalse hne => exact hne (h.services.of_mapValues.distinct n id t s ht there heq)
    rw [Change.ref, routesBeside_eq h there,
      routesBeside_of_none hq (p.frontends.get?_erase_self id), ← filter_target_eq_self hq hgone]
    dsimp only
    cases hrouter : p.router.remove? s.spec.route with
    | none => rfl
    | some router => exact Router.filter_remove? hrouter (target_of_route h there)
  | _ => exact routesBeside_congr nofun rfl

/-! ## All of it -/

/-- A backend that is put again keeps its turn. -/
theorem Applied.state?_putBackend {b : Backend} (ha : Applied g now p (.upsert (.backend b)) q)
    {serial : Nat} {settings : BackendSettings} {turn : UInt64}
    (hp : p.state? (.backend b.id) = some (.backend serial settings turn)) :
    q.state? (.backend b.id) = some (.backend serial b.settings turn) := by
  cases ha with
  | backend _ there =>
    rw [state?, there] at hp
    cases hp
    rw [state?, Dictionary.get?_insert_self]
    rfl
  | newBackend _ absent =>
    rw [state?, absent] at hp
    cases hp

/-- A frontend that is put again keeps its serial number and what it has counted. -/
theorem Applied.state?_putFrontend (h : p.skeleton.Tied) {f : Frontend}
    (ha : Applied g now p (.upsert (.frontend f)) q) {serial cluster : Nat} {spec : Frontend}
    {stats : Stats} (hp : p.state? (.frontend f.id) = some (.frontend serial spec cluster stats)) :
    ∃ k, p.backends.get? f.backendId = some k ∧
      q.state? (.frontend f.id) = some (.frontend serial f k.serial stats) := by
  cases ha with
  | newFrontend _ _ absent =>
    rw [state?, absent] at hp
    cases hp
  | @frontend _ k _ _ _ backed there =>
    rw [state?, there] at hp
    cases hp
    refine ⟨k, backed, ?_⟩
    rw [state?, Dictionary.get?_insert_self, ← clusterAfter_eq h backed there]
    rfl

theorem Applied.rest_eq (ha : Applied g now p c q) :
    q.id = p.id ∧ q.options = p.options ∧ q.phase = p.phase ∧ q.tracker = p.tracker := by
  cases ha with
  | _ => exact ⟨rfl, rfl, rfl, rfl⟩

/-- A change that is applied spares what it does not name. -/
theorem Applied.spares (h : p.Regular) (ha : Applied g now p c q) : Spares p c q where
  others := fun _ hr => ha.state?_eq h hr
  endpoints := fun _ hc => ha.endpointsBeside hc
  gates := fun _ hc => ha.gatesBeside h hc
  routes := ha.routesBeside h.tied
  backend := by
    rintro b serial settings turn rfl hp
    exact ha.state?_putBackend hp
  frontend := by
    rintro f serial spec cluster stats rfl hp
    exact ha.state?_putFrontend h.tied hp
  rest := ha.rest_eq

/-- However a proxy has come about: a change that cannot be applied leaves it as it is, and one that
    can be applied spares what it does not name. -/
theorem spares_apply (h : Reached p) (g : Ground) (now : Nat) (c : Change) :
    ((p.apply g now c).2 ≠ .ok () → (p.apply g now c).1 = p) ∧
      ((p.apply g now c).2 = .ok () → Spares p c (p.apply g now c).1) :=
  ⟨apply_fst_of_error, fun hok => (applied_of_ok hok).spares h.regular⟩

/-- A server comes with a backend of its own; the server, the frontend and the gate that are there
    already stay as they are. -/
theorem spares_apply_narrow :
    let c : Change := .upsert (.server "c" ⟨"s", "http://127.0.0.1:9001"⟩)
    let q := (narrow.apply ⟨.standard, fun _ => true⟩ 0 c).1
    (narrow.apply ⟨.standard, fun _ => true⟩ 0 c).2 = .ok () ∧ Spares narrow c q ∧
      q.state? (.backend "c") = some (.backend narrow.nextSerial {} 0) ∧
      (narrow.state? (.server "b" "s")).isSome = true ∧
      (narrow.state? (.gate "f" "g")).isSome = true := by
  have hok : (narrow.apply ⟨.standard, fun _ => true⟩ 0
      (.upsert (.server "c" ⟨"s", "http://127.0.0.1:9001"⟩))).2 = .ok () := by
    decide +kernel
  have hreached : Reached narrow := (Reached.make 1 {}).playOn _ (fun _ => 0) _
  have hspares := (spares_apply hreached _ 0 _).2 hok
  refine ⟨hok, hspares, ?_, by decide +kernel, by decide +kernel⟩
  have hnone : narrow.state? (.backend "c") = none := by
    rw [state?, Option.map_eq_none_iff, ← Option.isNone_iff_eq_none]
    decide +kernel
  rw [hspares.others (.backend "c") (by decide), spared?, if_pos rfl, hnone]
  rfl

end Parts

end Proxy

end Turnpike
