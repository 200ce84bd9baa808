/-
  Proxies in use.

  A proxy is changed, started and stopped, takes over sockets, and handles requests, in any order.
  Requests may be under way all the time, each at its own point, and what they have done by the time
  of another step can hardly be said in general.  But they only use what is there.

  1. **Traffic** (`Traffic`).  What requests do between two other steps is left open but for this:
     they count, and gates and pools go on to other states, but what the proxy was told stays as it
     is.  It is said by two equations: pools that have not been used, and labels of gates, are the
     same before and after.

  2. **Listeners** (`Listens`).  Starting, stopping and taking over sockets concern the listeners
     and nothing else, and leave what the listeners were told.

  3. **Proxies that can come about** (`Reached`).  All of this in any order.  Of every such proxy it
     is known that its references lead where they should, that the gates of a frontend stand in
     order, and that the endpoints of a backend can be told apart (`Regular`).

  4. **Why.**  References are kept by changes, as has been shown, and neither listeners nor requests
     touch them (`skeleton_traffic`).  Order and distinctness are properties of single places
     (`Content.Neat`): a change makes a neat place of a neat one (`Renewed.neat`), and traffic does
     not show in them.
-/
import Turnpike.Proofs.Balance.Selection
import Turnpike.Proofs.Proxy.Integrity
import Turnpike.Proofs.Proxy.Places
import Turnpike.Proxy.Listen

namespace Turnpike.Proxy

open Turnpike.Entity Turnpike.Balance

/-! ## Traffic -/

/-- A cluster whose pool has not been used. -/
def Cluster.bare (c : Cluster) : Cluster := { c with pool := c.pool.bare }

/-- What a service was told. -/
def Service.bare (s : Service) : ServiceFace × List (String × Int × String) :=
  (s.face, s.chain.labels)

/-- What requests may do to a proxy. -/
structure Traffic (p q : Proxy) : Prop where
  rest : q = { p with backends := q.backends, frontends := q.frontends, tracker := q.tracker }
  backends : q.backends.mapValues Cluster.bare = p.backends.mapValues Cluster.bare
  frontends : q.frontends.mapValues Service.bare = p.frontends.mapValues Service.bare

/-- What listeners may do to a proxy. -/
structure Listens (p q : Proxy) : Prop where
  rest : q = { p with phase := q.phase, listeners := q.listeners, bound := q.bound }

/-- A proxy that has come about. -/
inductive Reached : Proxy → Prop where
  | make (id : Nat) (o : Options) : Reached (make id o)
  | apply {p : Proxy} (h : Reached p) (g : Ground) (now : Nat) (c : Change) :
      Reached (p.apply g now c).1
  | start {p : Proxy} (h : Reached p) (g : Ground) : Reached (p.start g).1
  | stop {p : Proxy} (h : Reached p) : Reached p.stop
  | takeOver {p : Proxy} (h : Reached p) (offers : List (Listener × Socket)) :
      Reached (p.takeOver offers)
  | traffic {p q : Proxy} (h : Reached p) (t : Traffic p q) : Reached q

variable {g : Ground} {now : Nat} {p q r : Proxy}

/-! ## Listeners -/

theorem Listens.trans (h : Listens p q) (h' : Listens q r) : Listens p r := by
  refine ⟨?_⟩
  rw [h'.rest, h.rest]

/-- Adopting a socket concerns listeners only. -/
theorem listens_adopt (p : Proxy) (offer : Listener × Socket) : Listens p (p.adopt offer) := by
  unfold adopt
  split
  case h_1 => exact ⟨rfl⟩
  case h_2 => exact ⟨rfl⟩

/-- So does taking over several. -/
theorem listens_takeOver (p : Proxy) (offers : List (Listener × Socket)) :
    Listens p (p.takeOver offers) := by
  unfold takeOver
  induction offers generalizing p with
  | nil => exact ⟨rfl⟩
  | cons offer offers ih => exact (listens_adopt p offer).trans (ih _)

/-- So does binding. -/
theorem listens_bindAll (g : Ground) (p : Proxy) (ids : List String) :
    Listens p (p.bindAll g ids).1 := by
  induction ids generalizing p with
  | nil => exact ⟨rfl⟩
  | cons id ids ih =>
    unfold bindAll
    split
    case h_1 => exact ih p
    case h_2 e _ =>
      split
      -- this one has been bound, and then the others
      case isTrue => exact Listens.trans ⟨rfl⟩ (ih (p.bindAt id e))
      case isFalse => exact ⟨rfl⟩

/-- And so does starting, whether or not it fails. -/
theorem listens_start (g : Ground) (p : Proxy) : Listens p (p.start g).1 := by
  have hbind := listens_bindAll g p p.listeners.keys
  unfold start
  split
  case isTrue => exact ⟨rfl⟩
  case isFalse =>
    split
    case h_1 q e hq =>
      rw [hq] at hbind
      exact hbind
    case h_2 q hq =>
      rw [hq] at hbind
      exact hbind.trans ⟨rfl⟩

theorem listens_stop (p : Proxy) : Listens p p.stop := ⟨rfl⟩

/-! ## What listeners were told -/

/-- Adopting a socket leaves what listeners were told. -/
theorem specs_adopt (p : Proxy) (offer : Listener × Socket) :
    (p.adopt offer).listeners.mapValues (·.spec) = p.listeners.mapValues (·.spec) := by
  unfold adopt
  split
  case h_1 id e hwaiting =>
    have hmem : (id, e) ∈ p.listeners.entries := List.mem_of_find?_eq_some hwaiting
    refine Dictionary.mapValues_insert_same (Dictionary.mem_entries_iff.mp hmem) ?_
    rfl
  case h_2 => rfl

/-- So does taking over several. -/
theorem specs_takeOver (p : Proxy) (offers : List (Listener × Socket)) :
    (p.takeOver offers).listeners.mapValues (·.spec) = p.listeners.mapValues (·.spec) := by
  unfold takeOver
  induction offers generalizing p with
  | nil => rfl
  | cons offer offers ih => rw [List.foldl_cons, ih, specs_adopt]

/-- So does binding. -/
theorem specs_bindAll (g : Ground) (p : Proxy) (ids : List String) :
    (p.bindAll g ids).1.listeners.mapValues (·.spec) = p.listeners.mapValues (·.spec) := by
  induction ids generalizing p with
  | nil => rfl
  | cons id ids ih =>
    unfold bindAll
    split
    case h_1 => exact ih p
    case h_2 e he =>
      split
      case isTrue =>
        rw [ih]
        refine Dictionary.mapValues_insert_same (Option.filter_eq_some_iff.mp he).1 ?_
        rfl
      case isFalse => rfl

/-- What listeners were told is seen on each of them. -/
theorem specs_mapValues (d : Dictionary Listening) {f : Listening → Listening}
    (hf : ∀ e, (f e).spec = e.spec) :
    (d.mapValues f).mapValues (·.spec) = d.mapValues (·.spec) := by
  refine Dictionary.mapValues_congr fun id => ?_
  rw [Dictionary.get?_mapValues, Option.map_map]
  exact Option.map_congr fun e _ => hf e

/-- Starting leaves it as it is. -/
theorem specs_start (g : Ground) (p : Proxy) :
    (p.start g).1.listeners.mapValues (·.spec) = p.listeners.mapValues (·.spec) := by
  have hbind := specs_bindAll g p p.listeners.keys
  unfold start
  split
  case isTrue => rfl
  case isFalse =>
    split
    case h_1 q e hq =>
      rw [hq] at hbind
      exact hbind
    case h_2 q hq =>
      rw [hq] at hbind
      rw [← hbind]
      refine specs_mapValues q.listeners ?_
      exact fun _ => rfl

theorem specs_stop (p : Proxy) :
    p.stop.listeners.mapValues (·.spec) = p.listeners.mapValues (·.spec) := by
  refine specs_mapValues p.listeners ?_
  exact fun _ => rfl

/-! ## Requests -/

theorem Traffic.refl (p : Proxy) : Traffic p p := ⟨rfl, rfl, rfl⟩

theorem Traffic.trans (h : Traffic p q) (h' : Traffic q r) : Traffic p r := by
  refine ⟨?_, h'.backends.trans h.backends, h'.frontends.trans h.frontends⟩
  rw [h'.rest, h.rest]

theorem Traffic.id_eq (h : Traffic p q) : q.id = p.id := by
  rw [h.rest]

/-! ## Names -/

/-- So does what listeners do. -/
theorem Listens.id_eq (h : Listens p q) : q.id = p.id := by
  rw [h.rest]

/-- So does a change. -/
theorem id_apply (g : Ground) (now : Nat) (p : Proxy) (c : Change) :
    (p.apply g now c).1.id = p.id := by
  have hsettled : Settled g now p c (p.apply g now c) := settled_apply c
  rcases hsettled with ⟨q, hq, happlied⟩ | ⟨e, he⟩
  · rw [hq]
    show q.id = p.id
    cases happlied <;> rfl
  · rw [he]
    rfl

/-- And so do several. -/
theorem id_playOn (g : Ground) (clock : Nat → Nat) (p : Proxy) (cs : List Change) :
    (p.playOn g clock cs).id = p.id := by
  induction cs generalizing clock p with
  | nil => rfl
  | cons c cs ih => exact (ih _ _).trans (id_apply g (clock 0) p c)

/-! ## What is known of every proxy -/

/-- Gates stand in order, and endpoints can be told apart. -/
def Content.Neat : Content → Prop
  | .host _ => True
  | .listener _ => True
  | .group pool => pool.Distinct
  | .site _ chain => chain.Ordered

/-- References lead where they should, and all places are neat. -/
structure Regular (p : Proxy) : Prop where
  tied : p.skeleton.Tied
  neat : ∀ x d, p.content? x = some d → d.Neat

theorem Regular.pool (h : p.Regular) {b : String} {c : Cluster} (hc : p.backends.get? b = some c) :
    c.pool.Distinct := h.neat (.group b) _ (content?_group hc)

theorem Regular.chain (h : p.Regular) {id : String} {s : Service}
    (hs : p.frontends.get? id = some s) : s.chain.Ordered := h.neat (.site id) _ (content?_site hs)

/-- What there is to know of backends and frontends is all there is to know. -/
theorem Regular.of_parts (tied : p.skeleton.Tied)
    (pools : ∀ b c, p.backends.get? b = some c → c.pool.Distinct)
    (chains : ∀ id s, p.frontends.get? id = some s → s.chain.Ordered) : p.Regular := by
  refine ⟨tied, fun x d hd => ?_⟩
  cases x with
  | host =>
    obtain ⟨h, -, rfl⟩ := Option.map_eq_some_iff.mp hd
    trivial
  | listener =>
    obtain ⟨l, -, rfl⟩ := Option.map_eq_some_iff.mp hd
    trivial
  | group b =>
    obtain ⟨c, hc, rfl⟩ := Option.map_eq_some_iff.mp hd
    exact pools b c hc
  | site id =>
    obtain ⟨s, hs, rfl⟩ := Option.map_eq_some_iff.mp hd
    exact chains id s hs

/-- A change makes neat content of neat content. -/
theorem Renewed.neat {c : Change} {x y : Option Content} (h : Renewed g now c x y)
    (hx : ∀ d, x = some d → d.Neat) : ∀ d, y = some d → d.Neat := by
  intro d hd
  cases h with
  | host => cases hd; trivial
  | dropHost => cases hd
  | listener => cases hd; trivial
  | dropListener => cases hd
  -- other settings, and the same endpoints
  | backend =>
    have hold := hx _ rfl
    cases hd
    exact ⟨hold.ids, hold.serials, hold.below⟩
  | newBackend => cases hd; exact Pool.Distinct.ofBackend _
  | dropBackend => cases hd
  | server placed => cases hd; exact Pool.Distinct.upsert (hx _ rfl) placed
  | newServer placed => cases hd; exact (Pool.Distinct.ofBackend _).upsert placed
  | dropServer removed => cases hd; exact Pool.Distinct.remove (hx _ rfl) removed
  | newFrontend => cases hd; exact Gate.Chain.Ordered.empty
  | frontend =>
    have hold := hx _ rfl
    cases hd
    exact hold
  | dropFrontend => cases hd
  | gate => cases hd; exact (hx _ rfl : Gate.Chain.Ordered _).upsert _
  | dropGate removed => cases hd; exact ((hx _ rfl : Gate.Chain.Ordered _).remove_eq_ok removed).1

theorem Regular.apply (h : p.Regular) (g : Ground) (now : Nat) (c : Change) :
    (p.apply g now c).1.Regular := by
  refine of_apply c h fun q happ => ⟨tied_applied h.tied happ, ?_⟩
  exact happ.everywhere h.neat fun _ _ hy => hy.neat

theorem Regular.listens (h : p.Regular) (hq : Listens p q) : q.Regular := by
  rw [hq.rest]
  exact .of_parts h.tied (fun _ _ => h.pool) fun _ _ => h.chain

/-- Requests leave references alone. -/
theorem skeleton_traffic (t : Traffic p q) : q.skeleton = p.skeleton := by
  -- what is left of an unused cluster includes its face
  have hclusters : q.backends.mapValues Cluster.face = p.backends.mapValues Cluster.face := by
    refine Dictionary.mapValues_congr fun b => ?_
    have hbare := congrArg (fun d => (d.get? b).map Cluster.face) t.backends
    simp only [Dictionary.get?_mapValues, Option.map_map] at hbare
    exact hbare
  have hservices : q.frontends.mapValues Service.face = p.frontends.mapValues Service.face := by
    refine Dictionary.mapValues_congr fun id => ?_
    have hbare := congrArg (fun d => (d.get? id).map Prod.fst) t.frontends
    simp only [Dictionary.get?_mapValues, Option.map_map] at hbare
    exact hbare
  unfold skeleton
  rw [hclusters, hservices, t.rest]

/-- Nor have requests. -/
theorem Regular.traffic (h : p.Regular) (t : Traffic p q) : q.Regular := by
  refine .of_parts (by rw [skeleton_traffic t]; exact h.tied) (fun b c hc => ?_) fun id s hs => ?_
  -- the pool is another one, but the same when it has not been used
  · have hbare := congrArg (·.get? b) t.backends
    simp only [Dictionary.get?_mapValues, hc, Option.map_some] at hbare
    obtain ⟨c', hc', heq⟩ := Option.map_eq_some_iff.mp hbare.symm
    exact (h.pool hc').of_bare (congrArg Cluster.pool heq).symm
  · have hbare := congrArg (·.get? id) t.frontends
    simp only [Dictionary.get?_mapValues, hs, Option.map_some] at hbare
    obtain ⟨s', hs', heq⟩ := Option.map_eq_some_iff.mp hbare.symm
    exact (h.chain hs').of_labels (congrArg Prod.snd heq).symm

theorem regular_make (id : Nat) (o : Options) : (make id o).Regular :=
  .of_parts (tied_make id o) nofun nofun

/-- Every proxy that has come about is regular. -/
theorem Reached.regular (h : Reached p) : p.Regular := by
  induction h with
  | make id o => exact regular_make id o
  | apply _ g now c ih => exact ih.apply g now c
  | start _ g ih => exact ih.listens (listens_start g _)
  | stop _ ih => exact ih.listens (listens_stop _)
  | takeOver _ offers ih => exact ih.listens (listens_takeOver _ offers)
  | traffic _ t ih => exact ih.traffic t

/-- A proxy has come about when changes were played on one that had. -/
theorem Reached.playOn (h : Reached p) (g : Ground) (clock : Nat → Nat) (cs : List Change) :
    Reached (p.playOn g clock cs) := by
  induction cs generalizing clock p with
  | nil => exact h
  | cons c cs ih => exact ih (h.apply g (clock 0) c) _

end Turnpike.Proxy
