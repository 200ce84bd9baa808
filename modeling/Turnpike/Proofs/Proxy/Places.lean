/-
  A change touches one place.

  What a proxy was told lies in places: a host, a listener, a backend with its servers, a frontend
  with its gates.  There are many ways in which a change can be applied (`Applied`), and what one
  wants to show of the configuration afterwards would have to be shown of each of them, and in each
  of them for all that is there.

  1. **One place** (`Touches`).  A change that is applied leaves all places but one as they are.  Of
     the clusters only the pools are looked at, so a frontend that comes or goes does not touch the
     place of its backend, although it is among the users of that.

  2. **What becomes of it** (`Renewed`).  What a change makes of its place depends on nothing but
     what was there: neither on the rest of the proxy nor on serial numbers.  That every way to
     apply a change does this is shown once (`Applied.renewed`), with a case for each, and what
     follows is shown of one place at a time.

  3. **What stays true** (`Content.Sound`).  Requests can be sent to all servers of a backend, and
     the gates of a frontend are in order.  This holds in all places when it holds of what a change
     makes (`Applied.everywhere`).  An entity that could be put is fit to be put again, at any time
     (`Renewed.valid`): for a server that stands there already this needs that its URL could be
     reached when it was put.

  4. **Listeners** (`Apart`).  That no two have the same address is the one property of several
     places at once.  It is kept since a listener is put only where it has no rival.
-/
import Turnpike.Proofs.Dictionary
import Turnpike.Proofs.Gate.Chain
import Turnpike.Proofs.Proxy.Steps
import Turnpike.Proofs.Url.Authority

namespace Turnpike.Proxy

open Turnpike.Entity Turnpike.Balance

/-! ## Places and what is there -/

/-- A part of a proxy that changes touch as a whole. -/
inductive Place where
  | host (name : String)
  | listener (id : String)
  /-- A backend with its servers. -/
  | group (backend : String)
  /-- A frontend with its gates. -/
  | site (frontend : String)
  deriving DecidableEq

/-- The place of an entity. -/
def placeOf : Ref → Place
  | .host name => .host name
  | .listener id => .listener id
  | .backend id | .server id _ => .group id
  | .frontend id | .gate id _ => .site id

/-- What a proxy holds in a place. -/
inductive Content where
  | host (h : Host)
  | listener (l : Listener)
  | group (pool : Pool)
  | site (f : Frontend) (chain : Gate.Chain Gate.Instance)

/-- What the proxy holds in that place. -/
def content? (p : Proxy) : Place → Option Content
  | .host name => (p.hosts.get? name).map .host
  | .listener id => (p.listeners.get? id).map (.listener ·.spec)
  | .group b => (p.backends.get? b).map (.group ·.pool)
  | .site f => (p.frontends.get? f).map fun s => .site s.spec s.chain

/-- One place is as stated, and the others are as they were. -/
def Touches (p q : Proxy) (x : Place) (c? : Option Content) : Prop :=
  ∀ y, q.content? y = if y = x then c? else p.content? y

section Touches

variable {p q : Proxy}

/-- What is done to a host touches its place alone. -/
theorem touches_host {name : String} (h? : Option Host) (hl : q.listeners = p.listeners)
    (hb : q.backends = p.backends) (hf : q.frontends = p.frontends)
    (hh : ∀ n, q.hosts.get? n = if n = name then h? else p.hosts.get? n) :
    Touches p q (.host name) (h?.map .host) := by
  intro y
  cases y with
  | host n =>
    rw [content?, content?, hh]
    -- this host, or another one
    by_cases hn : n = name
    · rw [if_pos hn, if_pos (congrArg _ hn)]
    · rw [if_neg hn, if_neg (fun heq => hn (Place.host.inj heq))]
  | listener n => rw [if_neg nofun, content?, content?, hl]
  | group b => rw [if_neg nofun, content?, content?, hb]
  | site f => rw [if_neg nofun, content?, content?, hf]

/-- So does what is done to a listener. -/
theorem touches_listener {id : String} (l? : Option Listening) (hh : q.hosts = p.hosts)
    (hb : q.backends = p.backends) (hf : q.frontends = p.frontends)
    (hl : ∀ n, q.listeners.get? n = if n = id then l? else p.listeners.get? n) :
    Touches p q (.listener id) (l?.map (.listener ·.spec)) := by
  intro y
  cases y with
  | host n => rw [if_neg nofun, content?, content?, hh]
  | listener n =>
    rw [content?, content?, hl]
    by_cases hn : n = id
    · rw [if_pos hn, if_pos (congrArg _ hn)]
    · rw [if_neg hn, if_neg (fun heq => hn (Place.listener.inj heq))]
  | group b => rw [if_neg nofun, content?, content?, hb]
  | site f => rw [if_neg nofun, content?, content?, hf]

/-- And what is done to a backend or its servers. -/
theorem touches_group {b : String} (c? : Option Cluster) (hh : q.hosts = p.hosts)
    (hl : q.listeners = p.listeners) (hf : q.frontends = p.frontends)
    (hb : ∀ n, q.backends.get? n = if n = b then c? else p.backends.get? n) :
    Touches p q (.group b) (c?.map (.group ·.pool)) := by
  intro y
  cases y with
  | host n => rw [if_neg nofun, content?, content?, hh]
  | listener n => rw [if_neg nofun, content?, content?, hl]
  | group n =>
    rw [content?, content?, hb]
    by_cases hn : n = b
    · rw [if_pos hn, if_pos (congrArg _ hn)]
    · rw [if_neg hn, if_neg (fun heq => hn (Place.group.inj heq))]
  | site f => rw [if_neg nofun, content?, content?, hf]

/-- The users of backends may have changed as well. -/
theorem touches_site {f : String} (s? : Option Service) (hh : q.hosts = p.hosts)
    (hl : q.listeners = p.listeners)
    (hb : ∀ n, (q.backends.get? n).map Cluster.pool = (p.backends.get? n).map Cluster.pool)
    (hf : ∀ n, q.frontends.get? n = if n = f then s? else p.frontends.get? n) :
    Touches p q (.site f) (s?.map fun s => .site s.spec s.chain) := by
  have hgroup (x : Proxy) (n : String) :
      x.content? (.group n) = ((x.backends.get? n).map Cluster.pool).map .group := by
    rw [content?, Option.map_map]
    rfl
  intro y
  cases y with
  | host n => rw [if_neg nofun, content?, content?, hh]
  | listener n => rw [if_neg nofun, content?, content?, hl]
  | group n => rw [if_neg nofun, hgroup, hgroup, hb]
  | site n =>
    rw [content?, content?, hf]
    by_cases hn : n = f
    · rw [if_pos hn, if_pos (congrArg _ hn)]
    · rw [if_neg hn, if_neg (fun heq => hn (Place.site.inj heq))]

end Touches

/-! ## Who uses a backend -/

section Users

variable {α : Type} {f : Cluster → α}

/-- What does not depend on the users of clusters is the same whoever joins them. -/
theorem map_join (hf : ∀ c u, f { c with users := u } = f c) (d : Dictionary Cluster)
    (b id n : String) : ((join d b id).get? n).map f = (d.get? n).map f := by
  unfold join
  refine Dictionary.map_get?_modify ?_ n
  exact fun _ => hf _ _

/-- It is the same whoever parts from them. -/
theorem map_part (hf : ∀ c u, f { c with users := u } = f c) (d : Dictionary Cluster)
    (b id n : String) : ((part d b id).get? n).map f = (d.get? n).map f := by
  unfold part
  refine Dictionary.map_get?_modify ?_ n
  exact fun _ => hf _ _

/-- And so it is whoever moves from one to another. -/
theorem map_moved (hf : ∀ c u, f { c with users := u } = f c) (p : Proxy) (s : Service)
    (t : Frontend) (n : String) : ((p.moved s t).get? n).map f = (p.backends.get? n).map f := by
  unfold moved
  split
  case isTrue => rfl
  case isFalse => rw [map_join hf, map_part hf]

end Users

/-! ## What becomes of a place -/

/-- What a change makes of the place that it touches. -/
inductive Renewed (g : Ground) (now : Nat) :
    Change → Option Content → Option Content → Prop where
  | host {h : Host} {x : Option Content} (valid : h.check = .ok ()) :
      Renewed g now (.upsert (.host h)) x (some (.host h))
  | dropHost {name : String} {h : Host} :
      Renewed g now (.delete (.host name)) (some (.host h)) none
  | listener {l : Listener} {x : Option Content} (valid : l.check = .ok ()) :
      Renewed g now (.upsert (.listener l)) x (some (.listener l))
  | dropListener {id : String} {l : Listener} :
      Renewed g now (.delete (.listener id)) (some (.listener l)) none
  | backend {b : Backend} {pool : Pool} (valid : b.check = .ok ()) :
      Renewed g now (.upsert (.backend b)) (some (.group pool))
        (some (.group (pool.configure b.settings).1))
  | newBackend {b : Backend} (valid : b.check = .ok ()) :
      Renewed g now (.upsert (.backend b)) none (some (.group (.ofBackend b)))
  | dropBackend {id : String} {pool : Pool} :
      Renewed g now (.delete (.backend id)) (some (.group pool)) none
  | server {backend : String} {s : Server} {pool pool' : Pool}
      (placed : pool.upsert s = .ok pool') :
      Renewed g now (.upsert (.server backend s)) (some (.group pool)) (some (.group pool'))
  | newServer {backend : String} {s : Server} {pool : Pool}
      (placed : (Pool.ofBackend { id := backend }).upsert s = .ok pool) :
      Renewed g now (.upsert (.server backend s)) none (some (.group pool))
  | dropServer {backend id : String} {pool pool' : Pool} (removed : pool.remove id = .ok pool') :
      Renewed g now (.delete (.server backend id)) (some (.group pool)) (some (.group pool'))
  | newFrontend {f : Frontend} (valid : f.check = .ok ()) :
      Renewed g now (.upsert (.frontend f)) none (some (.site f .empty))
  | frontend {f old : Frontend} {chain : Gate.Chain Gate.Instance} (valid : f.check = .ok ()) :
      Renewed g now (.upsert (.frontend f)) (some (.site old chain)) (some (.site f chain))
  | dropFrontend {id : String} {f : Frontend} {chain : Gate.Chain Gate.Instance} :
      Renewed g now (.delete (.frontend id)) (some (.site f chain)) none
  | gate {frontend : String} {gate : Entity.Gate} {f : Frontend}
      {chain : Gate.Chain Gate.Instance} {i : Gate.Instance} (valid : gate.check = .ok ())
      (built : g.registry.build gate.kind gate.settings now = .ok i) :
      Renewed g now (.upsert (.gate frontend gate)) (some (.site f chain))
        (some (.site f (chain.upsert ⟨gate.id, gate.priority, gate.kind, i⟩)))
  | dropGate {frontend id : String} {f : Frontend} {chain chain' : Gate.Chain Gate.Instance}
      (removed : chain.remove id = .ok chain') :
      Renewed g now (.delete (.gate frontend id)) (some (.site f chain)) (some (.site f chain'))

variable {g : Ground} {now : Nat} {p q : Proxy}

theorem content?_host {name : String} {h : Host} (there : p.hosts.get? name = some h) :
    p.content? (.host name) = some (.host h) := by rw [content?, there]; rfl

theorem content?_listener {id : String} {e : Listening} (there : p.listeners.get? id = some e) :
    p.content? (.listener id) = some (.listener e.spec) := by rw [content?, there]; rfl

theorem content?_group {b : String} {c : Cluster} (there : p.backends.get? b = some c) :
    p.content? (.group b) = some (.group c.pool) := by rw [content?, there]; rfl

theorem content?_site {f : String} {s : Service} (there : p.frontends.get? f = some s) :
    p.content? (.site f) = some (.site s.spec s.chain) := by rw [content?, there]; rfl

theorem content?_group_none {b : String} (absent : p.backends.get? b = none) :
    p.content? (.group b) = none := by rw [content?, absent]; rfl

theorem content?_site_none {f : String} (absent : p.frontends.get? f = none) :
    p.content? (.site f) = none := by rw [content?, absent]; rfl

/-- A change that is applied touches the place of its entity only. -/
theorem Applied.renewed {c : Change} (h : Applied g now p c q) :
    ∃ x, Touches p q (placeOf c.ref) x ∧ Renewed g now c (p.content? (placeOf c.ref)) x := by
  cases h with
  | host valid =>
    exact ⟨_, touches_host _ rfl rfl rfl (p.hosts.get?_insert _ · _), .host valid⟩
  | @dropHost name h there =>
    refine ⟨_, touches_host none rfl rfl rfl (p.hosts.get?_erase _), ?_⟩
    show Renewed _ _ _ (p.content? (.host name)) _
    rw [content?_host there]
    exact .dropHost
  | @listener l e valid =>
    exact ⟨_, touches_listener _ rfl rfl rfl (p.listeners.get?_insert _ · { e with spec := l }),
      .listener valid⟩
  | @newListener l valid =>
    exact ⟨_, touches_listener _ rfl rfl rfl (p.listeners.get?_insert _ · { spec := l }),
      .listener valid⟩
  | @boundListener l valid =>
    exact ⟨_, touches_listener _ rfl rfl rfl (p.listeners.get?_insert _ · _), .listener valid⟩
  | @dropListener id e there =>
    refine ⟨_, touches_listener none rfl rfl rfl (p.listeners.get?_erase _), ?_⟩
    show Renewed _ _ _ (p.content? (.listener id)) _
    rw [content?_listener there]
    exact .dropListener
  | @backend b c valid there =>
    refine ⟨_, touches_group _ rfl rfl rfl (p.backends.get?_insert _ · _), ?_⟩
    show Renewed _ _ _ (p.content? (.group b.id)) _
    rw [content?_group there]
    exact .backend valid
  | @newBackend b valid absent =>
    refine ⟨_, touches_group _ rfl rfl rfl (p.backends.get?_insert _ · _), ?_⟩
    show Renewed _ _ _ (p.content? (.group b.id)) _
    rw [content?_group_none absent]
    exact .newBackend valid
  | @dropBackend id c there unused =>
    refine ⟨_, touches_group none rfl rfl rfl (p.backends.get?_erase _), ?_⟩
    show Renewed _ _ _ (p.content? (.group id)) _
    rw [content?_group there]
    exact .dropBackend
  | @server backend s c pool there placed =>
    refine ⟨_, touches_group _ rfl rfl rfl (p.backends.get?_insert _ · _), ?_⟩
    show Renewed _ _ _ (p.content? (.group backend)) _
    rw [content?_group there]
    exact .server placed
  | @newServer backend s pool absent placed =>
    -- the backend comes with the server, under the name that this has given
    have hid : pool.id = backend := (Pool.id_of_upsert placed).1
    subst hid
    refine ⟨_, touches_group _ rfl rfl rfl (p.backends.get?_insert _ · _), ?_⟩
    show Renewed _ _ _ (p.content? (.group pool.id)) _
    rw [content?_group_none absent]
    exact .newServer placed
  | @dropServer backend id c pool there removed =>
    refine ⟨_, touches_group _ rfl rfl rfl (p.backends.get?_insert _ · _), ?_⟩
    show Renewed _ _ _ (p.content? (.group backend)) _
    rw [content?_group there]
    exact .dropServer removed
  | @newFrontend f c router valid backed absent routed =>
    refine ⟨_, touches_site _ rfl rfl (map_join (fun _ _ => rfl) _ _ _)
      (p.frontends.get?_insert _ · _), ?_⟩
    show Renewed _ _ _ (p.content? (.site f.id)) _
    rw [content?_site_none absent]
    exact .newFrontend valid
  | @frontend f c s router valid backed there routed =>
    refine ⟨_, touches_site _ rfl rfl (map_moved (fun _ _ => rfl) p s f)
      (p.frontends.get?_insert _ · _), ?_⟩
    show Renewed _ _ _ (p.content? (.site f.id)) _
    rw [content?_site there]
    exact .frontend valid
  | @dropFrontend id s there =>
    refine ⟨_, touches_site none rfl rfl (map_part (fun _ _ => rfl) _ _ _)
      (p.frontends.get?_erase _), ?_⟩
    show Renewed _ _ _ (p.content? (.site id)) _
    rw [content?_site there]
    exact .dropFrontend
  | @gate frontend gate s i valid there built =>
    refine ⟨_, touches_site _ rfl rfl (fun _ => rfl) (p.frontends.get?_insert _ · _), ?_⟩
    show Renewed _ _ _ (p.content? (.site frontend)) _
    rw [content?_site there]
    exact .gate valid built
  | @dropGate frontend id s chain there removed =>
    refine ⟨_, touches_site _ rfl rfl (fun _ => rfl) (p.frontends.get?_insert _ · _), ?_⟩
    show Renewed _ _ _ (p.content? (.site frontend)) _
    rw [content?_site there]
    exact .dropGate removed

/-! ## What stays true of places -/

/-- The entity is fit to be put: all that does not depend on the rest of the configuration. -/
def Valid (g : Ground) : Upsert → Prop
  | .host h => h.check = .ok ()
  | .listener l => l.check = .ok ()
  | .backend b => b.check = .ok ()
  | .server _ s => s.check = .ok () ∧ ∃ u, Reachable s u
  | .frontend f => f.check = .ok ()
  | .gate _ t => t.check = .ok () ∧ ∀ now, ∃ i, g.registry.build t.kind t.settings now = .ok i

/-- Requests can be sent to all servers of a backend, and the gates of a frontend are in order. -/
def Content.Sound : Content → Prop
  | .host _ => True
  | .listener _ => True
  | .group pool => ∀ id e, pool.get? id = some e → ∃ s, Reachable s e.url
  | .site _ chain => chain.Ordered

/-- Whether a breaker can be made does not depend on the time. -/
theorem breaker_anytime {s : Breaker.Settings} {now : Nat} {b : Breaker}
    (h : Breaker.make s now = .ok b) (later : Nat) : ∃ b', Breaker.make s later = .ok b' := by
  unfold Breaker.make at *
  obtain ⟨condition, hcondition, h⟩ := Result.bind_eq_ok.mp h
  obtain ⟨fallback, hfallback, -⟩ := Result.bind_eq_ok.mp h
  rw [hcondition, hfallback]
  exact ⟨_, rfl⟩

/-- Whether a gate can be built does not depend on the time. -/
theorem build_anytime {r : Gate.Registry} {kind : String} {settings : Json} {now : Nat}
    {i : Gate.Instance} (h : r.build kind settings now = .ok i) (later : Nat) :
    ∃ j, r.build kind settings later = .ok j := by
  unfold Gate.Registry.build at *
  split at h
  case h_1 k hk =>
    cases k with
    | rate => exact ⟨i, h⟩
    | flight => exact ⟨i, h⟩
    | retarget => exact ⟨i, h⟩
    | probe => exact ⟨i, h⟩
    | breaker =>
      obtain ⟨s, hs, h⟩ := Result.bind_eq_ok.mp h
      obtain ⟨b, hb, -⟩ := Result.bind_eq_ok.mp h
      obtain ⟨b', hb'⟩ := breaker_anytime hb later
      exact ⟨.breaker b', Result.bind_eq_ok.mpr ⟨s, hs, Result.bind_eq_ok.mpr ⟨b', hb', rfl⟩⟩⟩
  case h_2 => cases h

/-- A server that could be put can be reached, and so can the others still. -/
theorem sound_upsert {s : Server} {pool pool' : Pool} (hs : (Content.group pool).Sound)
    (placed : pool.upsert s = .ok pool') :
    (∃ u, Reachable s u) ∧ (Content.group pool').Sound := by
  obtain ⟨-, u, hu, ⟨e, he, htext, rfl⟩ | ⟨e, he, rfl⟩⟩ := Pool.upsert_eq_ok placed
  -- the URL is there already, in whatever spelling, and can be reached
  · obtain ⟨t, ht⟩ := hs s.id e he
    exact ⟨⟨u, Url.reachable_of_text ht hu htext⟩, hs⟩
  · obtain ⟨hid, hreach⟩ := Endpoint.make_eq_ok he
    refine ⟨⟨e.url, hreach⟩, fun id f hf => ?_⟩
    rw [Pool.get?_place] at hf
    split at hf
    case isTrue =>
      cases hf
      exact ⟨s, hreach⟩
    case isFalse => exact hs id f hf

/-- In a new pool there is nothing that could not be reached. -/
theorem sound_ofBackend (b : Backend) : (Content.group (.ofBackend b)).Sound := by
  intro id e he
  have hnone : (Pool.ofBackend b).get? id = none := rfl
  rw [hnone] at he
  cases he

variable {x y : Option Content}

/-- A change makes sound content of sound content. -/
theorem Renewed.sound {c : Change} (h : Renewed g now c x y) (hx : ∀ d, x = some d → d.Sound) :
    ∀ d, y = some d → d.Sound := by
  intro d hd
  cases h with
  | host => cases hd; trivial
  | dropHost => cases hd
  | listener => cases hd; trivial
  | dropListener => cases hd
  | backend =>
    have hold := hx _ rfl
    cases hd
    exact hold
  | newBackend => cases hd; exact sound_ofBackend _
  | dropBackend => cases hd
  -- a server may be new in the pool, and of the others nothing changes
  | server placed => cases hd; exact (sound_upsert (hx _ rfl) placed).2
  | newServer placed => cases hd; exact (sound_upsert (sound_ofBackend _) placed).2
  | dropServer removed =>
    cases hd
    intro id e he
    rw [Pool.get?_remove removed] at he
    split at he
    case isTrue => cases he
    case isFalse => exact hx _ rfl id e he
  | newFrontend => cases hd; exact Gate.Chain.Ordered.empty
  | frontend =>
    have hold := hx _ rfl
    cases hd
    exact hold
  | dropFrontend => cases hd
  | gate => cases hd; exact (hx _ rfl : Gate.Chain.Ordered _).upsert _
  | dropGate removed => cases hd; exact ((hx _ rfl : Gate.Chain.Ordered _).remove_eq_ok removed).1

/-- An entity that could be put is fit to be put again. -/
theorem Renewed.valid {u : Upsert} (h : Renewed g now (.upsert u) x y)
    (hx : ∀ d, x = some d → d.Sound) : Valid g u := by
  cases h with
  | host valid => exact valid
  | listener valid => exact valid
  | backend valid => exact valid
  | newBackend valid => exact valid
  | server placed => exact ⟨(Pool.upsert_eq_ok placed).1, (sound_upsert (hx _ rfl) placed).1⟩
  | newServer placed =>
    exact ⟨(Pool.upsert_eq_ok placed).1, (sound_upsert (sound_ofBackend _) placed).1⟩
  | newFrontend valid => exact valid
  | frontend valid => exact valid
  | gate valid built => exact ⟨valid, build_anytime built⟩

/-- What holds in all places still does, if it holds of what the change makes. -/
theorem Applied.everywhere {c : Change} {P : Content → Prop}
    (h : ∀ x d, p.content? x = some d → P d)
    (hrenewed : ∀ x y, Renewed g now c x y → (∀ d, x = some d → P d) → ∀ d, y = some d → P d)
    (ha : Applied g now p c q) : ∀ x d, q.content? x = some d → P d := by
  obtain ⟨y, htouches, hy⟩ := ha.renewed
  intro x d hd
  rw [htouches] at hd
  split at hd
  case isTrue => exact hrenewed _ y hy (h _) d hd
  case isFalse => exact h x d hd

theorem Applied.sound {c : Change} (h : ∀ x d, p.content? x = some d → d.Sound)
    (ha : Applied g now p c q) : ∀ x d, q.content? x = some d → d.Sound :=
  ha.everywhere h fun _ _ hy => hy.sound

/-- In a new proxy there is at most a listener. -/
theorem sound_make (id : Nat) (o : Options) :
    ∀ x d, (make id o).content? x = some d → d.Sound := by
  intro x d hd
  cases x with
  | listener n =>
    obtain ⟨e, -, rfl⟩ := Option.map_eq_some_iff.mp hd
    trivial
  | _ => cases hd

/-- No two listeners have the same address. -/
def Apart (p : Proxy) : Prop :=
  ∀ i j l m, p.content? (.listener i) = some (.listener l) →
    p.content? (.listener j) = some (.listener m) → l.address.address = m.address.address → i = j

/-- All places are sound, and no two listeners have the same address. -/
structure Sane (p : Proxy) : Prop where
  sound : ∀ x d, p.content? x = some d → d.Sound
  apart : p.Apart

/-- A new proxy has one listener at most. -/
theorem apart_make (id : Nat) (o : Options) : (make id o).Apart := by
  -- there is the default listener at most
  have hdefault {i : String} {l : Listener}
      (hl : (make id o).content? (.listener i) = some (.listener l)) :
      ∃ m, o.defaultListener = some m ∧ i = m.id := by
    obtain ⟨e, he, -⟩ := Option.map_eq_some_iff.mp hl
    unfold make Options.listeners at he
    split at he
    case h_1 m hm =>
      rw [Dictionary.get?_insert] at he
      split at he
      case isTrue hi => exact ⟨m, hm, hi⟩
      case isFalse => cases he
    case h_2 => cases he
  intro i j l m hl hm _
  obtain ⟨n, hn, rfl⟩ := hdefault hl
  obtain ⟨n', hn', rfl⟩ := hdefault hm
  rw [Option.some.inj (hn.symm.trans hn')]

theorem sane_make (id : Nat) (o : Options) : (make id o).Sane := ⟨sound_make id o, apart_make id o⟩

/-- A listener that was put is alone at its address. -/
theorem Applied.alone {l : Listener} (h : Applied g now p (.upsert (.listener l)) q) {i : String}
    {m : Listener} (hm : p.content? (.listener i) = some (.listener m))
    (haddress : m.address.address = l.address.address) : i = l.id := by
  have halone : p.rival? l = none := by
    cases h with
    | listener valid alone => exact alone
    | newListener valid alone => exact alone
    | boundListener valid alone => exact alone
  rw [content?] at hm
  obtain ⟨e, he, hspec⟩ := Option.map_eq_some_iff.mp hm
  have hnone := List.find?_eq_none.mp (Option.map_eq_none_iff.mp halone) (i, e)
    (Dictionary.mem_entries_iff.mpr he)
  by_contra hne
  refine hnone ?_
  rw [← haddress, ← Content.listener.inj hspec]
  simpa using hne

theorem Renewed.eq_listener {c : Change} {l : Listener}
    (h : Renewed g now c x (some (.listener l))) : c = .upsert (.listener l) := by
  cases h with
  | listener => rfl

/-- Listeners stay apart. -/
theorem Applied.apart {c : Change} (h : p.Apart) (ha : Applied g now p c q) : q.Apart := by
  obtain ⟨y, htouches, hrenewed⟩ := ha.renewed
  -- a listener of `q` was there before, or it is the one that was put
  have hlistener {i : String} {l : Listener} (hl : q.content? (.listener i) = some (.listener l)) :
      p.content? (.listener i) = some (.listener l) ∨ i = l.id ∧ c = .upsert (.listener l) := by
    rw [htouches] at hl
    split at hl
    case isTrue heq =>
      subst hl
      have hc := hrenewed.eq_listener
      subst hc
      exact Or.inr ⟨Place.listener.inj heq, rfl⟩
    case isFalse => exact Or.inl hl
  intro i j l m hl hm haddress
  -- two old listeners, or one of them is new; then it has no rival
  rcases hlistener hl with hl | ⟨hi, rfl⟩
  · rcases hlistener hm with hm | ⟨hj, rfl⟩
    · exact h i j l m hl hm haddress
    · rw [hj]
      exact ha.alone hl haddress
  · rcases hlistener hm with hm | ⟨hj, hc⟩
    · rw [hi]
      exact (ha.alone hm haddress.symm).symm
    · cases hc
      rw [hi, hj]

theorem Sane.applied {c : Change} (h : p.Sane) (ha : Applied g now p c q) : q.Sane :=
  ⟨ha.sound h.sound, ha.apart h.apart⟩

end Turnpike.Proxy
