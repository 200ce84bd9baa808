/-
  What a change can do to a proxy.

  Changes are applied by twelve operations, one for each kind of entity to be put or deleted.  Each
  makes some checks, one after the other, and then writes; and many a thing has to be shown of all
  of them.

  1. **Ways** (`Applied`).  The ways in which a change takes one proxy to another are listed, each
     with what must hold for it and with the proxy that it makes.  An operation that distinguishes
     cases has several: a listener keeps its address, is new in a proxy that does not serve, or is
     bound at once.

  2. **Nothing else happens** (`settled_apply`).  Every change is applied in one of these ways, or
     it fails and leaves the proxy as it was.  This is the only place where the operations are
     opened, and their cases are followed in the order of the checks.

  3. **All of them can happen** (`Applied.apply_eq`).  When what a way asks for holds, the change is
     applied in that way.  So a proxy that a change cannot be applied to is one for which no way is
     open.

  What is to be shown of all changes is shown by going through this list, and for a property of
  proxies it is enough that every way keeps it (`of_apply`).
-/
import Turnpike.Proxy.Apply

namespace Turnpike.Proxy

open Turnpike.Entity Turnpike.Balance

/-- The ways in which a change is applied. -/
inductive Applied (g : Ground) (now : Nat) (p : Proxy) : Change → Proxy → Prop where
  | host {h : Host} (valid : h.check = .ok ()) :
      Applied g now p (.upsert (.host h)) { p with hosts := p.hosts.insert h.name h }
  | dropHost {name : String} {h : Host} (there : p.hosts.get? name = some h) :
      Applied g now p (.delete (.host name)) { p with hosts := p.hosts.erase name }
  /-- A listener keeps its address. -/
  | listener {l : Listener} {e : Listening} (valid : l.check = .ok ()) (alone : p.rival? l = none)
      (there : (p.listeners.get? l.id).filter (·.spec.address.address == l.address.address) =
        some e) :
      Applied g now p (.upsert (.listener l))
        { p with listeners := p.listeners.insert l.id { e with spec := l } }
  | newListener {l : Listener} (valid : l.check = .ok ()) (alone : p.rival? l = none)
      (absent : (p.listeners.get? l.id).filter (·.spec.address.address == l.address.address) =
        none) (idle : p.phase ≠ .active) :
      Applied g now p (.upsert (.listener l))
        { p with listeners := p.listeners.insert l.id { spec := l } }
  | boundListener {l : Listener} (valid : l.check = .ok ()) (alone : p.rival? l = none)
      (absent : (p.listeners.get? l.id).filter (·.spec.address.address == l.address.address) =
        none) (active : p.phase = .active) (free : g.canBind l.address.address = true) :
      Applied g now p (.upsert (.listener l)) (p.listenOn l)
  | dropListener {id : String} {e : Listening} (there : p.listeners.get? id = some e) :
      Applied g now p (.delete (.listener id)) { p with listeners := p.listeners.erase id }
  | backend {b : Backend} {c : Cluster} (valid : b.check = .ok ())
      (there : p.backends.get? b.id = some c) :
      Applied g now p (.upsert (.backend b))
        { p with
          backends := p.backends.insert b.id { c with pool := (c.pool.configure b.settings).1 } }
  | newBackend {b : Backend} (valid : b.check = .ok ()) (absent : p.backends.get? b.id = none) :
      Applied g now p (.upsert (.backend b)) (p.addCluster (.ofBackend b))
  | dropBackend {id : String} {c : Cluster} (there : p.backends.get? id = some c)
      (unused : c.users.keys = []) :
      Applied g now p (.delete (.backend id)) { p with backends := p.backends.erase id }
  | server {backend : String} {s : Server} {c : Cluster} {pool : Pool}
      (there : p.backends.get? backend = some c) (placed : c.pool.upsert s = .ok pool) :
      Applied g now p (.upsert (.server backend s))
        { p with backends := p.backends.insert backend { c with pool := pool } }
  /-- A server brings its backend with it. -/
  | newServer {backend : String} {s : Server} {pool : Pool}
      (absent : p.backends.get? backend = none)
      (placed : (Pool.ofBackend { id := backend }).upsert s = .ok pool) :
      Applied g now p (.upsert (.server backend s)) (p.addCluster pool)
  | dropServer {backend id : String} {c : Cluster} {pool : Pool}
      (there : p.backends.get? backend = some c) (removed : c.pool.remove id = .ok pool) :
      Applied g now p (.delete (.server backend id))
        { p with backends := p.backends.insert backend { c with pool := pool } }
  | newFrontend {f : Frontend} {c : Cluster} {router : Route.Router Nat}
      (valid : f.check = .ok ()) (backed : p.backends.get? f.backendId = some c)
      (absent : p.frontends.get? f.id = none)
      (routed : p.router.add f.route p.nextSerial = .ok router) :
      Applied g now p (.upsert (.frontend f))
        { p with
          router := router
          backends := join p.backends f.backendId f.id
          frontends := p.frontends.insert f.id
            { serial := p.nextSerial, spec := f, cluster := c.serial }
          nextSerial := p.nextSerial + 1 }
  | frontend {f : Frontend} {c : Cluster} {s : Service} {router : Route.Router Nat}
      (valid : f.check = .ok ()) (backed : p.backends.get? f.backendId = some c)
      (there : p.frontends.get? f.id = some s) (routed : p.reroute s f.route = .ok router) :
      Applied g now p (.upsert (.frontend f))
        { p with
          router := router
          backends := p.moved s f
          frontends := p.frontends.insert f.id { s with spec := f, cluster := clusterAfter s f c } }
  | dropFrontend {id : String} {s : Service} (there : p.frontends.get? id = some s) :
      Applied g now p (.delete (.frontend id))
        { p with
          frontends := p.frontends.erase id
          router := (p.router.remove? s.spec.route).getD p.router
          backends := part p.backends s.spec.backendId id }
  | gate {frontend : String} {gate : Entity.Gate} {s : Service} {i : Gate.Instance}
      (valid : gate.check = .ok ()) (there : p.frontends.get? frontend = some s)
      (built : g.registry.build gate.kind gate.settings now = .ok i) :
      Applied g now p (.upsert (.gate frontend gate))
        { p with
          frontends := p.frontends.insert frontend
            { s with chain := s.chain.upsert ⟨gate.id, gate.priority, gate.kind, i⟩ } }
  | dropGate {frontend id : String} {s : Service} {chain : Gate.Chain Gate.Instance}
      (there : p.frontends.get? frontend = some s) (removed : s.chain.remove id = .ok chain) :
      Applied g now p (.delete (.gate frontend id))
        { p with frontends := p.frontends.insert frontend { s with chain := chain } }

/-- A change is applied, or it fails and nothing has happened. -/
def Settled (g : Ground) (now : Nat) (p : Proxy) (c : Change) (d : Done) : Prop :=
  (∃ q, d = done q ∧ Applied g now p c q) ∨ ∃ e, d = p.failed e

variable {g : Ground} {now : Nat} {p q : Proxy}

/-- An entity is put in one of these ways, or it cannot be put. -/
theorem settled_upsert (u : Upsert) : Settled g now p (.upsert u) (p.upsert g now u) := by
  cases u with
  | host h =>
    show Settled _ _ _ _ (p.upsertHost h)
    unfold upsertHost
    split
    case h_1 e _ => exact Or.inr ⟨e, rfl⟩
    case h_2 valid => exact Or.inl ⟨_, rfl, .host valid⟩
  | listener l =>
    show Settled _ _ _ _ (p.upsertListener g l)
    unfold upsertListener
    split
    case h_1 e _ => exact Or.inr ⟨e, rfl⟩
    case h_2 valid =>
      split
      case h_1 => exact Or.inr ⟨_, rfl⟩
      case h_2 alone =>
        split
        case h_1 there => exact Or.inl ⟨_, rfl, .listener valid alone there⟩
        case h_2 absent =>
          split
          case isTrue idle => exact Or.inl ⟨_, rfl, .newListener valid alone absent idle⟩
          case isFalse active =>
            split
            -- the proxy serves, so the address must be bound at once
            case isTrue free =>
              exact Or.inl ⟨_, rfl,
                .boundListener valid alone absent (Decidable.not_not.mp active) free⟩
            case isFalse => exact Or.inr ⟨_, rfl⟩
  | backend b =>
    show Settled _ _ _ _ (p.upsertBackend b)
    unfold upsertBackend
    split
    case h_1 e _ => exact Or.inr ⟨e, rfl⟩
    case h_2 valid =>
      split
      case h_1 there => exact Or.inl ⟨_, rfl, .backend valid there⟩
      case h_2 absent => exact Or.inl ⟨_, rfl, .newBackend valid absent⟩
  | server backend s =>
    show Settled _ _ _ _ (p.upsertServer backend s)
    unfold upsertServer
    split
    case h_1 there =>
      split
      case h_1 e _ => exact Or.inr ⟨e, rfl⟩
      case h_2 placed => exact Or.inl ⟨_, rfl, .server there placed⟩
    case h_2 absent =>
      split
      case h_1 e _ => exact Or.inr ⟨e, rfl⟩
      case h_2 placed => exact Or.inl ⟨_, rfl, .newServer absent placed⟩
  | frontend f =>
    show Settled _ _ _ _ (p.upsertFrontend f)
    unfold upsertFrontend
    split
    case h_1 e _ => exact Or.inr ⟨e, rfl⟩
    case h_2 valid =>
      split
      case h_1 => exact Or.inr ⟨_, rfl⟩
      case h_2 backed =>
        split
        case h_1 absent =>
          -- a new frontend, or one that is there
          unfold addFrontend
          split
          case h_1 e _ => exact Or.inr ⟨e, rfl⟩
          case h_2 routed => exact Or.inl ⟨_, rfl, .newFrontend valid backed absent routed⟩
        case h_2 there =>
          unfold updateFrontend
          split
          case h_1 e _ => exact Or.inr ⟨e, rfl⟩
          case h_2 routed => exact Or.inl ⟨_, rfl, .frontend valid backed there routed⟩
  | gate frontend gate =>
    show Settled _ _ _ _ (p.upsertGate g now frontend gate)
    unfold upsertGate
    split
    case h_1 e _ => exact Or.inr ⟨e, rfl⟩
    case h_2 valid =>
      split
      case h_1 => exact Or.inr ⟨_, rfl⟩
      case h_2 there =>
        split
        case h_1 e _ => exact Or.inr ⟨e, rfl⟩
        case h_2 built => exact Or.inl ⟨_, rfl, .gate valid there built⟩

/-- An entity is deleted in one of these ways, or it cannot be. -/
theorem settled_delete (r : Ref) : Settled g now p (.delete r) (p.delete r) := by
  cases r with
  | host name =>
    show Settled _ _ _ _ (p.deleteHost name)
    unfold deleteHost
    split
    case h_1 there => exact Or.inl ⟨_, rfl, .dropHost there⟩
    case h_2 => exact Or.inr ⟨_, rfl⟩
  | listener id =>
    show Settled _ _ _ _ (p.deleteListener id)
    unfold deleteListener
    split
    case h_1 there => exact Or.inl ⟨_, rfl, .dropListener there⟩
    case h_2 => exact Or.inr ⟨_, rfl⟩
  | backend id =>
    show Settled _ _ _ _ (p.deleteBackend id)
    unfold deleteBackend
    split
    case h_1 => exact Or.inr ⟨_, rfl⟩
    case h_2 there =>
      split
      case h_1 => exact Or.inr ⟨_, rfl⟩
      case h_2 unused => exact Or.inl ⟨_, rfl, .dropBackend there unused⟩
  | server backend id =>
    show Settled _ _ _ _ (p.deleteServer backend id)
    unfold deleteServer
    split
    case h_1 => exact Or.inr ⟨_, rfl⟩
    case h_2 there =>
      split
      case h_1 e _ => exact Or.inr ⟨e, rfl⟩
      case h_2 removed => exact Or.inl ⟨_, rfl, .dropServer there removed⟩
  | frontend id =>
    show Settled _ _ _ _ (p.deleteFrontend id)
    unfold deleteFrontend
    split
    case h_1 => exact Or.inr ⟨_, rfl⟩
    case h_2 there => exact Or.inl ⟨_, rfl, .dropFrontend there⟩
  | gate frontend id =>
    show Settled _ _ _ _ (p.deleteGate frontend id)
    unfold deleteGate
    split
    case h_1 => exact Or.inr ⟨_, rfl⟩
    case h_2 there =>
      split
      case h_1 e _ => exact Or.inr ⟨e, rfl⟩
      case h_2 removed => exact Or.inl ⟨_, rfl, .dropGate there removed⟩

theorem settled_apply (c : Change) : Settled g now p c (p.apply g now c) := by
  cases c with
  | upsert u => exact settled_upsert u
  | delete r => exact settled_delete r

/-- A change that cannot be applied changes nothing. -/
theorem apply_fst_of_error {c : Change} (h : (p.apply g now c).2 ≠ .ok ()) :
    (p.apply g now c).1 = p := by
  have hset : Settled g now p c (p.apply g now c) := settled_apply c
  rcases hset with ⟨q, hq, -⟩ | ⟨e, he⟩
  · rw [hq] at h
    exact absurd rfl h
  · rw [he]
    rfl

/-- A change that can be applied is applied in one of the ways above. -/
theorem applied_of_ok {c : Change} (h : (p.apply g now c).2 = .ok ()) :
    Applied g now p c (p.apply g now c).1 := by
  have hset : Settled g now p c (p.apply g now c) := settled_apply c
  rcases hset with ⟨q, hq, happ⟩ | ⟨e, he⟩
  · rw [hq]
    exact happ
  · rw [he] at h
    cases h

/-- What holds of a proxy holds after a change to it if every way of applying it keeps it up. -/
theorem of_apply {P : Proxy → Prop} (c : Change) (h : P p)
    (hstep : ∀ q, Applied g now p c q → P q) : P (p.apply g now c).1 := by
  by_cases hok : (p.apply g now c).2 = .ok ()
  · exact hstep _ (applied_of_ok hok)
  · rw [apply_fst_of_error hok]
    exact h

/-- When a way is open, the change is applied in that way. -/
theorem Applied.apply_eq {c : Change} (h : Applied g now p c q) : p.apply g now c = done q := by
  cases h with
  | host valid => simp only [apply, upsert, upsertHost, valid]
  | dropHost there => simp only [apply, delete, deleteHost, there]
  | listener valid alone there => simp only [apply, upsert, upsertListener, valid, alone, there]
  | newListener valid alone absent idle =>
    simp only [apply, upsert, upsertListener, valid, alone, absent]
    rw [if_pos idle]
  | boundListener valid alone absent active free =>
    simp only [apply, upsert, upsertListener, valid, alone, absent]
    rw [if_neg (not_not_intro active), if_pos free]
  | dropListener there => simp only [apply, delete, deleteListener, there]
  | backend valid there => simp only [apply, upsert, upsertBackend, valid, there]
  | newBackend valid absent => simp only [apply, upsert, upsertBackend, valid, absent]
  | dropBackend there unused => simp only [apply, delete, deleteBackend, there, unused]
  | server there placed => simp only [apply, upsert, upsertServer, there, placed]
  | newServer absent placed => simp only [apply, upsert, upsertServer, absent, placed]
  | dropServer there removed => simp only [apply, delete, deleteServer, there, removed]
  | newFrontend valid backed absent routed =>
    simp only [apply, upsert, upsertFrontend, addFrontend, valid, backed, absent, routed]
  | frontend valid backed there routed =>
    simp only [apply, upsert, upsertFrontend, updateFrontend, valid, backed, there, routed]
  | dropFrontend there => simp only [apply, delete, deleteFrontend, there]
  | gate valid there built => simp only [apply, upsert, upsertGate, valid, there, built]
  | dropGate there removed => simp only [apply, delete, deleteGate, there, removed]

end Turnpike.Proxy
