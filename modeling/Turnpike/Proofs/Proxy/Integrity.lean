/-
  Referential integrity.

  The parts of a proxy refer to each other in several ways.  A frontend refers to its backend by
  identifier and to its cluster by serial number, a cluster keeps the set of the frontends that use
  it, and the router leads to frontends by serial number.  Every change that touches one of these
  has to keep the others in step, and one that fails must not leave some of them changed.

  1. **Serial numbers** (`Numbered`).  Those in use are distinct, and below the next one.  So what
     has a number is found by it, and to change the value of a number is to put another in its
     place.

  2. **Skeletons** (`Skeleton`).  The skeleton of a proxy is what of it takes part in references: of
     a cluster its serial number, the identifier of its pool and its users, of a service its serial
     number, what was put and its cluster, and the router.  Sockets, servers, counters and gates
     have no part in it, so what happens to them need not be looked at.

  3. **The invariant** (`Skeleton.Tied`) says that all references fit together.  That there is one
     route for each frontend, and no other, is said as a permutation: the routes are those of the
     services, in some order.

  4. **Writes.**  A frontend that comes, goes or is put again is one kind of move (`Moves`): it says
     which backend it is at home with, if with any, and the users of all clusters follow from that
     (`Skeleton.house`).  So the users are shown to be right once (`Tied.moves`), and for each of
     the three cases it remains that the writes make such a move.  Clusters come and go by
     themselves (`Tied.addCluster`, `Tied.dropCluster`).  Every other write leaves the skeleton
     alone.

  5. **Every change** (`tied_apply`) keeps the proxy tied, whether it can be applied or not.  In a
     tied proxy every reference leads where it should, and a backend can be deleted exactly when it
     is there and no frontend names it (`integrity_run`).
-/
import Mathlib.Data.List.Nodup
import Turnpike.Proofs.Balance.Pool
import Turnpike.Proofs.Dictionary
import Turnpike.Proofs.Proxy.Steps
import Turnpike.Proofs.Route.Table

namespace Turnpike.Proxy

open Turnpike.Entity Turnpike.Balance Turnpike.Route

/-! ## Serial numbers -/

/-- The values have distinct numbers below `n`. -/
structure Numbered {α : Type} (number : α → Nat) (d : Dictionary α) (n : Nat) : Prop where
  below : ∀ k v, d.get? k = some v → number v < n
  distinct : ∀ j k v w, d.get? j = some v → d.get? k = some w → number v = number w → j = k

namespace Numbered

variable {α : Type} {number : α → Nat} {d : Dictionary α} {n : Nat}

/-- A new value takes the next number. -/
theorem insert_next (h : Numbered number d n) (k : String) {v : α} (hv : number v = n) :
    Numbered number (d.insert k v) (n + 1) where
  below := by
    intro j w hw
    rw [Dictionary.get?_insert] at hw
    split at hw
    case isTrue => cases hw; omega
    case isFalse => exact Nat.lt_succ_of_lt (h.below j w hw)
  distinct := by
    intro i j v' w hv' hw heq
    rw [Dictionary.get?_insert] at hv' hw
    split at hv'
    case isTrue hi =>
      split at hw
      case isTrue hj => rw [hi, hj]
      case isFalse =>
        cases hv'
        -- an old value has a smaller number
        have := h.below j w hw
        omega
    case isFalse =>
      split at hw
      case isTrue =>
        cases hw
        have := h.below i v' hv'
        omega
      case isFalse => exact h.distinct i j v' w hv' hw heq

/-- A value gives way to one of the same number. -/
theorem insert_same (h : Numbered number d n) {k : String} {v w : α} (hv : d.get? k = some v)
    (hw : number w = number v) : Numbered number (d.insert k w) n where
  below := by
    intro j x hx
    rw [Dictionary.get?_insert] at hx
    split at hx
    case isTrue => cases hx; rw [hw]; exact h.below k v hv
    case isFalse => exact h.below j x hx
  distinct := by
    -- the old value stands for the new one
    have old : ∀ j x, (d.insert k w).get? j = some x →
        ∃ y, d.get? j = some y ∧ number y = number x := by
      intro j x hx
      rw [Dictionary.get?_insert] at hx
      split at hx
      case isTrue hj => cases hx; exact ⟨v, by rw [hj, hv], hw.symm⟩
      case isFalse => exact ⟨x, hx, rfl⟩
    intro i j x y hx hy heq
    obtain ⟨x', hx', hnx⟩ := old i x hx
    obtain ⟨y', hy', hny⟩ := old j y hy
    exact h.distinct i j x' y' hx' hy' (by rw [hnx, hny, heq])

/-- A value may go. -/
theorem erase (h : Numbered number d n) (k : String) : Numbered number (d.erase k) n where
  below := by
    intro j v hv
    rw [Dictionary.get?_erase] at hv
    split at hv
    case isTrue => cases hv
    case isFalse => exact h.below j v hv
  distinct := by
    intro i j v w hv hw heq
    rw [Dictionary.get?_erase] at hv hw
    split at hv
    case isTrue => cases hv
    case isFalse =>
      split at hw
      case isTrue => cases hw
      case isFalse => exact h.distinct i j v w hv hw heq

/-- Values may change that keep their numbers. -/
theorem mapValues (h : Numbered number d n) {f : α → α} (hf : ∀ v, number (f v) = number v) :
    Numbered number (d.mapValues f) n where
  below := by
    intro j v hv
    rw [Dictionary.get?_mapValues] at hv
    obtain ⟨w, hw, rfl⟩ := Option.map_eq_some_iff.mp hv
    rw [hf]
    exact h.below j w hw
  distinct := by
    intro i j v w hv hw heq
    rw [Dictionary.get?_mapValues] at hv hw
    obtain ⟨v', hv', rfl⟩ := Option.map_eq_some_iff.mp hv
    obtain ⟨w', hw', rfl⟩ := Option.map_eq_some_iff.mp hw
    exact h.distinct i j v' w' hv' hw' (by rw [← hf v', ← hf w', heq])

/-- Numbers that are seen on the values are those of the values. -/
theorem of_mapValues {β : Type} {d : Dictionary β} {f : β → α}
    (h : Numbered number (d.mapValues f) n) : Numbered (fun v => number (f v)) d n where
  below := by
    intro k v hv
    exact h.below k (f v) (by rw [Dictionary.get?_mapValues, hv, Option.map_some])
  distinct := by
    intro j k v w hv hw heq
    refine h.distinct j k (f v) (f w) ?_ ?_ heq
    · rw [Dictionary.get?_mapValues, hv, Option.map_some]
    · rw [Dictionary.get?_mapValues, hw, Option.map_some]

theorem succ (h : Numbered number d n) : Numbered number d (n + 1) where
  below := fun k v hv => Nat.lt_succ_of_lt (h.below k v hv)
  distinct := h.distinct

/-- A value is found by its number. -/
theorem find?_values (h : Numbered number d n) {k : String} {v : α} (hv : d.get? k = some v) :
    d.values.find? (fun w => number w == number v) = some v := by
  have hmem : v ∈ d.values := Dictionary.mem_values_iff.mpr ⟨k, hv⟩
  cases hfind : d.values.find? (fun w => number w == number v) with
  | none =>
    have := List.find?_eq_none.mp hfind v hmem
    exact absurd (beq_self_eq_true _) this
  | some w =>
    obtain ⟨j, hw⟩ := Dictionary.mem_values_iff.mp (List.mem_of_find?_eq_some hfind)
    have hnum : number w = number v := by simpa using List.find?_some hfind
    have hjk := h.distinct j k w v hw hv hnum
    rw [hjk, hv] at hw
    exact hw.symm

/-- To change the value of a number is to put another in its place. -/
theorem mapValues_eq_insert (h : Numbered number d n) {k : String} {v : α}
    (hv : d.get? k = some v) (f : α → α) :
    (d.mapValues fun w => if number w = number v then f w else w) = d.insert k (f v) := by
  refine Dictionary.ext fun j => ?_
  rw [Dictionary.get?_mapValues, Dictionary.get?_insert]
  split
  case isTrue hj => rw [hj, hv, Option.map_some, if_pos rfl]
  case isFalse hj =>
    cases hw : d.get? j with
    | none => rfl
    | some w => rw [Option.map_some, if_neg fun hnum => hj (h.distinct j k w v hw hv hnum)]

end Numbered

/-! ## Skeletons -/

/-- What of a cluster takes part in references. -/
structure ClusterFace where
  serial : Nat
  /-- The identifier of its pool. -/
  pool : String
  users : Dictionary Unit

/-- What of a service takes part in references. -/
structure ServiceFace where
  serial : Nat
  spec : Frontend
  cluster : Nat

/-- The face of a cluster. -/
def Cluster.face (c : Cluster) : ClusterFace := ⟨c.serial, c.pool.id, c.users⟩

/-- The face of a service. -/
def Service.face (s : Service) : ServiceFace := ⟨s.serial, s.spec, s.cluster⟩

/-- The route that leads to a service. -/
def ServiceFace.entry? (s : ServiceFace) : Option (Entry Nat) :=
  (Pattern.parse s.spec.route).toOption.map (.ofPattern · s.serial)

/-- What of a proxy takes part in references. -/
structure Skeleton where
  clusters : Dictionary ClusterFace
  services : Dictionary ServiceFace
  router : Router Nat
  next : Nat

/-- The skeleton of a proxy. -/
def skeleton (p : Proxy) : Skeleton :=
  ⟨p.backends.mapValues Cluster.face, p.frontends.mapValues Service.face, p.router, p.nextSerial⟩

/-- All references lead where they should. -/
structure Skeleton.Tied (k : Skeleton) : Prop where
  /-- A pool has the identifier of its backend. -/
  pools : ∀ b c, k.clusters.get? b = some c → c.pool = b
  clusters : Numbered ClusterFace.serial k.clusters k.next
  /-- A frontend stands under its identifier. -/
  names : ∀ id s, k.services.get? id = some s → s.spec.id = id
  services : Numbered ServiceFace.serial k.services k.next
  /-- The backend of a frontend is there, and the frontend has its cluster. -/
  backed : ∀ id s, k.services.get? id = some s →
    ∃ c, k.clusters.get? s.spec.backendId = some c ∧ s.cluster = c.serial
  /-- The users of a cluster are the frontends of its backend. -/
  users : ∀ b c, k.clusters.get? b = some c → ∀ id, c.users.contains id = true ↔
    ∃ s, k.services.get? id = some s ∧ s.spec.backendId = b
  router : k.router.Sound
  /-- There is one route for each frontend, and no other. -/
  routes : (k.router.entries.map some).Perm (k.services.values.map ServiceFace.entry?)

namespace Skeleton

/-! ## Users -/

/-- The cluster when the frontend `id` uses that of the backend `home`, or none. -/
def house (id : String) (home : Option String) (c : ClusterFace) : ClusterFace :=
  { c with users := if home = some c.pool then c.users.insert id () else c.users.erase id }

/-- The clusters when the frontend `id` uses that of the backend `home`, or none. -/
def housed (cs : Dictionary ClusterFace) (id : String) (home : Option String) :
    Dictionary ClusterFace := cs.mapValues (house id home)

variable {k : Skeleton}

/-- A cluster that has been housed differs in its users, and in them only in the frontend. -/
theorem get?_housed {cs : Dictionary ClusterFace} {id b : String} {home : Option String}
    {c' : ClusterFace} (h : (housed cs id home).get? b = some c') :
    ∃ c, cs.get? b = some c ∧ c'.serial = c.serial ∧ c'.pool = c.pool ∧ ∀ id',
      c'.users.contains id' = true ↔
        if id' = id then home = some c.pool else c.users.contains id' = true := by
  rw [housed, Dictionary.get?_mapValues] at h
  obtain ⟨c, hc, rfl⟩ := Option.map_eq_some_iff.mp h
  refine ⟨c, hc, rfl, rfl, fun id' => ?_⟩
  unfold house
  dsimp only
  split
  case isTrue hhome =>
    rw [Dictionary.contains_insert]
    -- the frontend in question, or any other
    by_cases hid : id' = id
    · simp [hid, hhome]
    · simp [hid]
  case isFalse hhome =>
    rw [Dictionary.contains_erase]
    by_cases hid : id' = id
    · simp [hid, hhome]
    · simp [hid]

/-- A service of the identifier `id` and its route come, go, or give way to others. -/
structure Moves (k : Skeleton) (id : String) (s? : Option ServiceFace) (k' : Skeleton) : Prop where
  clusters : k'.clusters = housed k.clusters id (s?.map (·.spec.backendId))
  services : ∀ j, k'.services.get? j = if j = id then s? else k.services.get? j
  numbered : Numbered ServiceFace.serial k'.services k'.next
  next : k.next ≤ k'.next
  named : ∀ s, s? = some s → s.spec.id = id
  backed : ∀ s, s? = some s → ∃ c, k.clusters.get? s.spec.backendId = some c ∧ s.cluster = c.serial
  router : k'.router.Sound
  routes : (k'.router.entries.map some).Perm (k'.services.values.map ServiceFace.entry?)

/-- A move keeps a proxy tied. -/
theorem Tied.moves (h : k.Tied) {id : String} {s? : Option ServiceFace} {k' : Skeleton}
    (hm : Moves k id s? k') : k'.Tied where
  pools := by
    intro b c' hc'
    rw [hm.clusters] at hc'
    obtain ⟨c, hc, -, hpool, -⟩ := get?_housed hc'
    rw [hpool]
    exact h.pools b c hc
  clusters := by
    rw [hm.clusters]
    have hnum := h.clusters.mapValues (f := house id (s?.map (·.spec.backendId))) fun _ => rfl
    exact ⟨fun j v hv => Nat.lt_of_lt_of_le (hnum.below j v hv) hm.next, hnum.distinct⟩
  names := by
    intro j s hs
    rw [hm.services] at hs
    split at hs
    case isTrue hj => rw [hj]; exact hm.named s hs
    case isFalse => exact h.names j s hs
  services := hm.numbered
  backed := by
    intro j s hs
    -- the clusters have only got other users
    have hold : ∃ c, k.clusters.get? s.spec.backendId = some c ∧ s.cluster = c.serial := by
      rw [hm.services] at hs
      split at hs
      case isTrue => exact hm.backed s hs
      case isFalse => exact h.backed j s hs
    obtain ⟨c, hc, hserial⟩ := hold
    rw [hm.clusters, housed, Dictionary.get?_mapValues, hc]
    exact ⟨_, rfl, hserial⟩
  users := by
    intro b c' hc' j
    rw [hm.clusters] at hc'
    obtain ⟨c, hc, -, -, husers⟩ := get?_housed hc'
    rw [husers, h.pools b c hc, hm.services]
    split
    case isTrue => rw [Option.map_eq_some_iff]
    case isFalse => exact h.users b c hc j
  router := hm.router
  routes := hm.routes

/-! ## Routes -/

theorem entry?_eq_some {s : ServiceFace} {q : Pattern} (h : Pattern.parse s.spec.route = .ok q) :
    s.entry? = some (.ofPattern q s.serial) := by
  rw [ServiceFace.entry?, h]
  rfl

/-- Every service has its entry. -/
theorem Tied.entry (h : k.Tied) {id : String} {s : ServiceFace}
    (hs : k.services.get? id = some s) :
    ∃ q, Pattern.parse s.spec.route = .ok q ∧ Entry.ofPattern q s.serial ∈ k.router.entries := by
  have hmem : s.entry? ∈ k.router.entries.map some :=
    h.routes.mem_iff.mpr (List.mem_map_of_mem (Dictionary.mem_values_iff.mpr ⟨id, hs⟩))
  obtain ⟨e, he, hentry⟩ := List.mem_map.mp hmem
  cases hparse : Pattern.parse s.spec.route with
  | error f =>
    rw [ServiceFace.entry?, hparse] at hentry
    cases hentry
  | ok q =>
    rw [entry?_eq_some hparse] at hentry
    cases hentry
    exact ⟨q, rfl, he⟩

/-- The entry with the route of a service is that of the service. -/
theorem Tied.entry_eq (h : k.Tied) {id : String} {s : ServiceFace}
    (hs : k.services.get? id = some s) {q : Pattern} (hq : Pattern.parse s.spec.route = .ok q)
    {e : Entry Nat} (he : e ∈ k.router.entries) (hkey : e.key = q.canonical) :
    e = .ofPattern q s.serial := by
  obtain ⟨q', hq', hmem⟩ := h.entry hs
  rw [hq] at hq'
  cases hq'
  exact List.inj_on_of_nodup_map h.router.keys he hmem hkey

/-- Without the entry of a service, the entries are those of the other services. -/
theorem Tied.routes_erase (h : k.Tied) {id : String} {s : ServiceFace}
    (hs : k.services.get? id = some s) {q : Pattern} (hq : Pattern.parse s.spec.route = .ok q)
    {e : Entry Nat} {rest : List (Entry Nat)} (hperm : k.router.entries.Perm (e :: rest))
    (hkey : e.key = q.canonical) :
    (rest.map some).Perm ((k.services.erase id).values.map ServiceFace.entry?) := by
  have heq := h.entry_eq hs hq (hperm.mem_iff.mpr List.mem_cons_self) hkey
  -- take the service away on one side and its entry on the other
  have hvalues := (Dictionary.values_perm hs).map ServiceFace.entry?
  rw [List.map_cons, entry?_eq_some hq, ← heq] at hvalues
  have hentries := hperm.map some
  rw [List.map_cons] at hentries
  exact (hentries.symm.trans (h.routes.trans hvalues)).cons_inv

/-- With the entry of a service, the entries are those of all. -/
theorem routes_insert {es rest : List (Entry Nat)} {ss : Dictionary ServiceFace} {s : ServiceFace}
    {id : String} {q : Pattern} (hq : Pattern.parse s.spec.route = .ok q)
    (hperm : es.Perm (.ofPattern q s.serial :: rest))
    (hrest : (rest.map some).Perm ((ss.erase id).values.map ServiceFace.entry?)) :
    (es.map some).Perm ((ss.insert id s).values.map ServiceFace.entry?) := by
  have hvalues := (ss.values_insert_perm id s).map ServiceFace.entry?
  rw [List.map_cons, entry?_eq_some hq] at hvalues
  have hentries := hperm.map some
  rw [List.map_cons] at hentries
  exact hentries.trans ((hrest.cons _).trans hvalues.symm)

/-! ## Clusters come and go -/

/-- A new cluster has no users. -/
theorem Tied.addCluster (h : k.Tied) {b : String} (hnone : k.clusters.get? b = none) :
    Tied { k with
      clusters := k.clusters.insert b ⟨k.next, b, .empty⟩
      next := k.next + 1 } where
  pools := by
    intro a c hc
    rw [Dictionary.get?_insert] at hc
    split at hc
    case isTrue heq => cases hc; exact heq.symm
    case isFalse => exact h.pools a c hc
  clusters := h.clusters.insert_next b rfl
  names := h.names
  services := h.services.succ
  backed := by
    intro id s hs
    obtain ⟨c, hc, hserial⟩ := h.backed id s hs
    have hne : s.spec.backendId ≠ b := by
      intro heq
      rw [heq, hnone] at hc
      cases hc
    exact ⟨c, by rw [Dictionary.get?_insert_ne _ _ hne]; exact hc, hserial⟩
  users := by
    intro a c hc id
    rw [Dictionary.get?_insert] at hc
    split at hc
    case isTrue heq =>
      cases hc
      constructor
      · intro hmem
        cases hmem
      · -- a frontend of this backend would have had it before
        rintro ⟨s, hs, hb⟩
        obtain ⟨c, hc, -⟩ := h.backed id s hs
        rw [hb, heq, hnone] at hc
        cases hc
    case isFalse => exact h.users a c hc id
  router := h.router
  routes := h.routes

/-- A cluster without users may go. -/
theorem Tied.dropCluster (h : k.Tied) {b : String} {c : ClusterFace}
    (hc : k.clusters.get? b = some c) (hunused : c.users.keys = []) :
    Tied { k with clusters := k.clusters.erase b } where
  pools := by
    intro a d hd
    rw [Dictionary.get?_erase] at hd
    split at hd
    case isTrue => cases hd
    case isFalse => exact h.pools a d hd
  clusters := h.clusters.erase b
  names := h.names
  services := h.services
  backed := by
    intro id s hs
    obtain ⟨d, hd, hserial⟩ := h.backed id s hs
    have hne : s.spec.backendId ≠ b := by
      intro heq
      have hmem := Dictionary.mem_keys_iff.mpr ((h.users b c hc id).mpr ⟨s, hs, heq⟩)
      rw [hunused] at hmem
      cases hmem
    exact ⟨d, by rw [Dictionary.get?_erase_ne _ hne]; exact hd, hserial⟩
  users := by
    intro a d hd
    rw [Dictionary.get?_erase] at hd
    split at hd
    case isTrue => cases hd
    case isFalse => exact h.users a d hd
  router := h.router
  routes := h.routes

end Skeleton

/-! ## Faces of changed clusters -/

section Faces

variable {p : Proxy} {id : String}

/-- A frontend joins the users of its backend. -/
theorem face_join {c : Cluster} {b : String} (hb : c.pool.id = b) :
    Cluster.face { c with users := c.users.insert id () } =
      Skeleton.house id (some b) c.face := by
  unfold Skeleton.house Cluster.face
  rw [if_pos (by rw [hb])]

theorem face_part {c : Cluster} {home : Option String} (hb : home ≠ some c.pool.id) :
    Cluster.face { c with users := c.users.erase id } = Skeleton.house id home c.face := by
  unfold Skeleton.house Cluster.face
  rw [if_neg hb]

/-- Of a cluster that the frontend uses, or of another, nothing changes. -/
theorem face_stay {c : Cluster} {home : Option String}
    (h : c.users.contains id = true ↔ home = some c.pool.id) :
    c.face = Skeleton.house id home c.face := by
  unfold Skeleton.house Cluster.face
  dsimp only
  split
  case isTrue hhome =>
    obtain ⟨⟨⟩, hv⟩ := Dictionary.contains_iff.mp (h.mpr hhome)
    rw [Dictionary.insert_of_get? hv]
  case isFalse hhome =>
    have hnone : c.users.get? id = none := by
      rw [← Option.not_isSome_iff_eq_none]
      exact fun hmem => hhome (h.mp hmem)
    rw [Dictionary.erase_of_get?_eq_none hnone]

theorem get?_clusters {b : String} {c : Cluster} (hc : p.backends.get? b = some c) :
    p.skeleton.clusters.get? b = some c.face := by
  rw [skeleton, Dictionary.get?_mapValues, hc, Option.map_some]

theorem get?_services {s : Service} (hs : p.frontends.get? id = some s) :
    p.skeleton.services.get? id = some s.face := by
  rw [skeleton, Dictionary.get?_mapValues, hs, Option.map_some]

theorem get?_services_eq_some {t : ServiceFace} (ht : p.skeleton.services.get? id = some t) :
    ∃ s, p.frontends.get? id = some s ∧ s.face = t := by
  rw [skeleton, Dictionary.get?_mapValues] at ht
  exact Option.map_eq_some_iff.mp ht

theorem pool_id (h : p.skeleton.Tied) {b : String} {c : Cluster}
    (hc : p.backends.get? b = some c) : c.pool.id = b := h.pools b c.face (get?_clusters hc)

/-- The users of a cluster are the frontends that name its backend. -/
theorem users_iff (h : p.skeleton.Tied) {b : String} {c : Cluster}
    (hc : p.backends.get? b = some c) :
    c.users.contains id = true ↔ ∃ s, p.frontends.get? id = some s ∧ s.spec.backendId = b := by
  refine (h.users b c.face (get?_clusters hc) id).trans ?_
  constructor
  · rintro ⟨t, ht, hb⟩
    obtain ⟨s, hs, rfl⟩ := get?_services_eq_some ht
    exact ⟨s, hs, hb⟩
  · rintro ⟨s, hs, hb⟩
    exact ⟨s.face, get?_services hs, hb⟩

/-- Clusters that are housed one by one are housed. -/
theorem faces_eq_housed {d : Dictionary Cluster} {home : Option String}
    (hnone : ∀ b, p.backends.get? b = none → d.get? b = none)
    (hsome : ∀ b c, p.backends.get? b = some c →
      (d.get? b).map Cluster.face = some (Skeleton.house id home c.face)) :
    d.mapValues Cluster.face = Skeleton.housed p.skeleton.clusters id home := by
  refine Dictionary.ext fun b => ?_
  rw [Dictionary.get?_mapValues, Skeleton.housed, Dictionary.get?_mapValues]
  cases hb : p.backends.get? b with
  | none =>
    rw [hnone b hb, skeleton, Dictionary.get?_mapValues, hb]
    rfl
  | some c => rw [hsome b c hb, get?_clusters hb, Option.map_some]

/-- When a new frontend joins a backend, it is at home there. -/
theorem faces_join (h : p.skeleton.Tied) (hnew : p.frontends.get? id = none) (b : String) :
    (join p.backends b id).mapValues Cluster.face =
      Skeleton.housed p.skeleton.clusters id (some b) := by
  refine faces_eq_housed (fun a ha => Dictionary.get?_modify_of_eq_none ha) fun a c hc => ?_
  rw [join, Dictionary.get?_modify]
  split
  case isTrue hab =>
    rw [← hab, hc, Option.map_some, Option.map_some, face_join (pool_id h hc)]
  case isFalse hab =>
    rw [hc, Option.map_some]
    refine congrArg some (face_stay ?_)
    rw [users_iff h hc, pool_id h hc]
    constructor
    · rintro ⟨s, hs, -⟩
      rw [hnew] at hs
      cases hs
    · intro heq
      exact absurd (Option.some.inj heq).symm hab

/-- When a frontend parts from its backend, it is at home nowhere. -/
theorem faces_part (h : p.skeleton.Tied) {s : Service} (hs : p.frontends.get? id = some s) :
    (part p.backends s.spec.backendId id).mapValues Cluster.face =
      Skeleton.housed p.skeleton.clusters id none := by
  refine faces_eq_housed (fun a ha => Dictionary.get?_modify_of_eq_none ha) fun a c hc => ?_
  rw [part, Dictionary.get?_modify]
  split
  case isTrue hab =>
    have hnone : (none : Option String) ≠ some c.pool.id := nofun
    rw [← hab, hc, Option.map_some, Option.map_some, face_part hnone]
  case isFalse hab =>
    rw [hc, Option.map_some]
    refine congrArg some (face_stay ?_)
    rw [users_iff h hc]
    constructor
    · rintro ⟨t, ht, hb⟩
      rw [hs] at ht
      cases ht
      exact absurd hb.symm hab
    · intro heq
      cases heq

/-- When a frontend moves, it is at home where it has moved to. -/
theorem faces_moved (h : p.skeleton.Tied) {f : Frontend} {s : Service}
    (hs : p.frontends.get? f.id = some s) :
    (p.moved s f).mapValues Cluster.face =
      Skeleton.housed p.skeleton.clusters f.id (some f.backendId) := by
  -- before the move, it was among the users of one cluster alone
  have husers {a : String} {c : Cluster} (hc : p.backends.get? a = some c) :
      c.users.contains f.id = true ↔ s.spec.backendId = a := by
    rw [users_iff h hc]
    constructor
    · rintro ⟨t, ht, hb⟩
      rw [hs] at ht
      cases ht
      exact hb
    · intro hb
      exact ⟨s, hs, hb⟩
  unfold moved
  split
  case isTrue hsame =>
    refine faces_eq_housed (fun _ ha => ha) fun a c hc => ?_
    rw [hc, Option.map_some]
    refine congrArg some (face_stay ?_)
    rw [husers hc, hsame, pool_id h hc, Option.some_inj]
  case isFalse hmoved =>
    refine faces_eq_housed ?_ fun a c hc => ?_
    · intro a ha
      exact Dictionary.get?_modify_of_eq_none (Dictionary.get?_modify_of_eq_none ha)
    have hpool := pool_id h hc
    rw [join, Dictionary.get?_modify, part, Dictionary.get?_modify, Dictionary.get?_modify]
    split
    case isTrue hnew =>
      -- the new backend is not the old one
      rw [if_neg (Ne.symm hmoved), ← hnew, hc, Option.map_some, Option.map_some,
        face_join hpool]
    case isFalse hnew =>
      -- neither the old home nor another cluster is the new one
      have hhome : some f.backendId ≠ some c.pool.id := by
        rw [hpool]
        exact fun heq => hnew (Option.some.inj heq).symm
      split
      case isTrue hold =>
        rw [← hold, hc, Option.map_some, Option.map_some, face_part hhome]
      case isFalse hold =>
        rw [hc, Option.map_some]
        refine congrArg some (face_stay ?_)
        rw [husers hc]
        constructor
        · exact fun heq => absurd heq.symm hold
        · exact fun heq => absurd heq hhome

end Faces

/-! ## Every change -/

section Changes

variable {g : Ground} {now : Nat} {p q : Proxy}

/-- The route of a valid frontend can be compiled. -/
theorem compile_of_check {f : Frontend} (h : f.check = .ok ()) :
    ∃ r, Pattern.parse f.route = .ok r := by
  unfold Frontend.check at h
  obtain ⟨⟨⟩, -, h⟩ := Result.bind_eq_ok.mp h
  obtain ⟨⟨⟩, -, h⟩ := Result.bind_eq_ok.mp h
  obtain ⟨r, hr, -⟩ := Result.bind_eq_ok.mp h
  exact ⟨r, Router.compile_eq_ok.mp hr⟩

/-- A frontend that is new moves in. -/
theorem moves_newFrontend (h : p.skeleton.Tied) {f : Frontend} {c : Cluster}
    {router : Router Nat} (backed : p.backends.get? f.backendId = some c)
    (absent : p.frontends.get? f.id = none)
    (routed : p.router.add f.route p.nextSerial = .ok router) :
    Skeleton.Moves p.skeleton f.id (some ⟨p.nextSerial, f, c.serial⟩)
      (skeleton { p with
        router := router
        backends := join p.backends f.backendId f.id
        frontends := p.frontends.insert f.id
          { serial := p.nextSerial, spec := f, cluster := c.serial }
        nextSerial := p.nextSerial + 1 }) where
  clusters := faces_join h absent f.backendId
  services := by
    intro j
    rw [skeleton, Dictionary.get?_mapValues, Dictionary.get?_insert, skeleton,
      Dictionary.get?_mapValues]
    split
    · rfl
    · rfl
  numbered := by
    rw [skeleton, Dictionary.mapValues_insert]
    exact h.services.insert_next f.id rfl
  next := Nat.le_succ _
  named := by rintro s ⟨⟩; rfl
  backed := by
    rintro s ⟨⟩
    exact ⟨c.face, get?_clusters backed, rfl⟩
  router := h.router.add routed
  routes := by
    obtain ⟨r, hr, -, rfl⟩ := Router.add_eq_ok.mp routed
    rw [skeleton, Dictionary.mapValues_insert]
    refine Skeleton.routes_insert (s := ⟨p.nextSerial, f, c.serial⟩) hr
      (List.perm_append_singleton _ _) ?_
    rw [Dictionary.erase_of_get?_eq_none
      (by rw [Dictionary.get?_mapValues, absent, Option.map_none])]
    exact h.routes

/-- Moved or not, a frontend has the cluster of its backend. -/
theorem clusterAfter_eq (h : p.skeleton.Tied) {f : Frontend} {c : Cluster} {s : Service}
    (backed : p.backends.get? f.backendId = some c) (there : p.frontends.get? f.id = some s) :
    clusterAfter s f c = c.serial := by
  unfold clusterAfter
  split
  case isTrue hsame =>
    -- the cluster that it has is the one that is there
    obtain ⟨d, hd, hserial⟩ := h.backed f.id s.face (get?_services there)
    rw [show s.face.spec.backendId = f.backendId from hsame, get?_clusters backed] at hd
    cases hd
    exact hserial
  case isFalse => rfl

/-- One that is put again moves, or stays. -/
theorem moves_frontend (h : p.skeleton.Tied) {f : Frontend} {c : Cluster} {s : Service}
    {router : Router Nat} (backed : p.backends.get? f.backendId = some c)
    (there : p.frontends.get? f.id = some s) (routed : p.reroute s f.route = .ok router) :
    Skeleton.Moves p.skeleton f.id (some ⟨s.serial, f, clusterAfter s f c⟩)
      (skeleton { p with
        router := router
        backends := p.moved s f
        frontends := p.frontends.insert f.id
          { s with spec := f, cluster := clusterAfter s f c } }) where
  clusters := faces_moved h there
  services := by
    intro j
    rw [skeleton, Dictionary.get?_mapValues, Dictionary.get?_insert, skeleton,
      Dictionary.get?_mapValues]
    split
    · rfl
    · rfl
  numbered := by
    rw [skeleton, Dictionary.mapValues_insert]
    exact h.services.insert_same (get?_services there) rfl
  next := Nat.le_refl _
  named := by rintro t ⟨⟩; rfl
  backed := by
    rintro t ⟨⟩
    exact ⟨c.face, get?_clusters backed, clusterAfter_eq h backed there⟩
  router := by
    unfold reroute at routed
    split at routed
    case isTrue => cases routed; exact h.router
    case isFalse => exact (h.router.replace routed).1
  routes := by
    rw [skeleton, Dictionary.mapValues_insert]
    have hs := get?_services there
    obtain ⟨old, hold, hmem⟩ := h.entry hs
    unfold reroute at routed
    split at routed
    case isTrue hsame =>
      cases routed
      obtain ⟨i, hi, hget⟩ := List.getElem_of_mem hmem
      -- the route has not changed, so its entry stays in its place
      have hperm := Lists.eraseIdx_perm hi
      have hrest := h.routes_erase hs hold hperm (by rw [hget, Entry.key_ofPattern])
      rw [hget] at hperm
      exact Skeleton.routes_insert (s := ⟨s.serial, f, clusterAfter s f c⟩)
        (by rw [← hsame]; exact hold) hperm hrest
    case isFalse =>
      obtain ⟨-, q, rest, hq, hperm, hcase⟩ := h.router.replace routed
      -- the new entry takes the place of the old one; to have none would be an untied proxy
      rcases hcase with ⟨q', e, hq', hkey, hgone⟩ | ⟨hnone, -⟩
      · exact Skeleton.routes_insert (s := ⟨s.serial, f, clusterAfter s f c⟩) hq hperm
          (h.routes_erase hs hq' hgone hkey)
      · exact absurd (Entry.key_ofPattern _ _) (Router.placeOf?_eq_none hnone hold _ hmem)

/-- One that is deleted moves out. -/
theorem moves_dropFrontend (h : p.skeleton.Tied) {id : String} {s : Service}
    (there : p.frontends.get? id = some s) :
    Skeleton.Moves p.skeleton id none
      (skeleton { p with
        frontends := p.frontends.erase id
        router := (p.router.remove? s.spec.route).getD p.router
        backends := part p.backends s.spec.backendId id }) := by
  have hs := get?_services there
  obtain ⟨old, hold, hmem⟩ := h.entry hs
  cases hrouter : p.router.remove? s.spec.route with
  | none => exact absurd (Entry.key_ofPattern _ _) (Router.remove?_eq_none hrouter hold _ hmem)
  | some router =>
    obtain ⟨hsound, q, e, hq, hkey, hperm⟩ := h.router.remove? hrouter
    exact {
      clusters := faces_part h there
      services := by
        intro j
        rw [skeleton, Dictionary.get?_mapValues, Dictionary.get?_erase, skeleton,
          Dictionary.get?_mapValues]
        split
        · rfl
        · rfl
      numbered := by
        rw [skeleton, Dictionary.mapValues_erase]
        exact h.services.erase id
      next := Nat.le_refl _
      named := nofun
      backed := nofun
      router := hsound
      routes := by
        rw [skeleton, Dictionary.mapValues_erase]
        exact h.routes_erase hs hq hperm hkey }

/-- A new proxy is tied: there is nothing to refer to. -/
theorem tied_make (id : Nat) (o : Options) : (make id o).skeleton.Tied where
  pools := nofun
  clusters := ⟨nofun, nofun⟩
  names := nofun
  services := ⟨nofun, nofun⟩
  backed := nofun
  users := nofun
  router := .empty
  routes := .nil

/-- A cluster may change in what is no part of the skeleton. -/
theorem tied_insert_cluster (h : p.skeleton.Tied) {b : String} {c d : Cluster}
    (hc : p.backends.get? b = some c) (hd : d.face = c.face) :
    (skeleton { p with backends := p.backends.insert b d }).Tied := by
  unfold skeleton
  rw [Dictionary.mapValues_insert_same hc hd]
  exact h

/-- So may a service. -/
theorem tied_insert_service (h : p.skeleton.Tied) {id : String} {s t : Service}
    (hs : p.frontends.get? id = some s) (ht : t.face = s.face) :
    (skeleton { p with frontends := p.frontends.insert id t }).Tied := by
  unfold skeleton
  rw [Dictionary.mapValues_insert_same hs ht]
  exact h

/-- A backend that is new gets a cluster of its own. -/
theorem tied_addCluster (h : p.skeleton.Tied) {pool : Pool}
    (absent : p.backends.get? pool.id = none) : (p.addCluster pool).skeleton.Tied := by
  have hnone : p.skeleton.clusters.get? pool.id = none := by
    rw [skeleton, Dictionary.get?_mapValues, absent, Option.map_none]
  unfold addCluster skeleton
  rw [Dictionary.mapValues_insert]
  exact h.addCluster hnone

/-- Whatever way a change is applied, the references lead where they should. -/
theorem tied_applied {c : Change} (h : p.skeleton.Tied) (ha : Applied g now p c q) :
    q.skeleton.Tied := by
  cases ha with
  | host => exact h
  | dropHost => exact h
  | listener => exact h
  | newListener => exact h
  | boundListener => exact h
  | dropListener => exact h
  | backend _ there => exact tied_insert_cluster h there rfl
  | newBackend _ absent => exact tied_addCluster h absent
  | dropBackend there unused =>
    unfold skeleton
    rw [Dictionary.mapValues_erase]
    exact h.dropCluster (get?_clusters there) unused
  | server there placed =>
    have hid := (Pool.id_of_upsert placed).1
    exact tied_insert_cluster h there (by unfold Cluster.face; rw [hid])
  | newServer absent placed =>
    refine tied_addCluster h ?_
    rw [(Pool.id_of_upsert placed).1]
    exact absent
  | dropServer there removed =>
    obtain ⟨-, rfl⟩ := Pool.remove_eq_ok removed
    exact tied_insert_cluster h there rfl
  | newFrontend _ backed absent routed => exact h.moves (moves_newFrontend h backed absent routed)
  | frontend _ backed there routed => exact h.moves (moves_frontend h backed there routed)
  | dropFrontend there => exact h.moves (moves_dropFrontend h there)
  | gate _ there => exact tied_insert_service h there rfl
  | dropGate there => exact tied_insert_service h there rfl

theorem tied_apply (h : p.skeleton.Tied) (c : Change) : (p.apply g now c).1.skeleton.Tied :=
  of_apply c h fun _ happ => tied_applied h happ

end Changes

/-! ## Integrity -/

/-- A change with what is found around the proxy when it is tried. -/
structure Attempt where
  ground : Ground
  now : Nat
  change : Change

/-- The proxy after these attempts, whether or not they could be applied. -/
def run (p : Proxy) (as : List Attempt) : Proxy :=
  as.foldl (fun p a => (p.apply a.ground a.now a.change).1) p

/-- The canonical form of a route, if it is well formed. -/
def canonical? (route : String) : Option String :=
  (Pattern.parse route).toOption.map Pattern.canonical

/-- Frontends, backends and routes fit together. -/
structure Integrity (p : Proxy) : Prop where
  /-- A frontend stands under its identifier. -/
  named : ∀ id s, p.frontends.get? id = some s → s.spec.id = id
  /-- The backend of a frontend is there, and the frontend has its cluster. -/
  backed : ∀ id s, p.frontends.get? id = some s →
    ∃ c, p.backends.get? s.spec.backendId = some c ∧ p.cluster? s.cluster = some c
  /-- The recorded users of a backend are the frontends that name it. -/
  users : ∀ b c, p.backends.get? b = some c → ∀ id, id ∈ c.users.keys ↔
    ∃ s, p.frontends.get? id = some s ∧ s.spec.backendId = b
  /-- The trie holds the routes of the table, whose keys are distinct. -/
  router : p.router.Sound
  /-- The routes are those of the frontends, one for each, and lead to them. -/
  routes : (p.router.entries.map fun e => (some e.key, p.service? e.target)).Perm
    (p.frontends.values.map fun s => (canonical? s.spec.route, some s))
  /-- A backend can be deleted when it is there and no frontend names it. -/
  deletable : ∀ b, (p.deleteBackend b).2 = .ok () ↔ (p.backends.get? b).isSome = true ∧
    ∀ id s, p.frontends.get? id = some s → s.spec.backendId ≠ b

section Integrity

variable {p : Proxy}

theorem service?_serial (h : p.skeleton.Tied) {id : String} {s : Service}
    (hs : p.frontends.get? id = some s) : p.service? s.serial = some s :=
  h.services.of_mapValues.find?_values hs

theorem cluster?_serial (h : p.skeleton.Tied) {b : String} {c : Cluster}
    (hc : p.backends.get? b = some c) : p.cluster? c.serial = some c :=
  h.clusters.of_mapValues.find?_values hc

/-- A route leads to a frontend in service, and is the route of that frontend. -/
theorem exists_service (h : p.skeleton.Tied) {e : Entry Nat} (he : e ∈ p.router.entries) :
    ∃ id s, p.frontends.get? id = some s ∧ p.service? e.target = some s ∧
      Pattern.parse s.spec.route = .ok e.pattern := by
  have hmem : some e ∈ p.skeleton.services.values.map ServiceFace.entry? :=
    h.routes.mem_iff.mp (List.mem_map_of_mem he)
  obtain ⟨face, hface, hentry⟩ := List.mem_map.mp hmem
  obtain ⟨id, hid⟩ := Dictionary.mem_values_iff.mp hface
  obtain ⟨s, hs, rfl⟩ := get?_services_eq_some hid
  obtain ⟨pattern, hparse, -⟩ := h.entry hid
  rw [Skeleton.entry?_eq_some hparse] at hentry
  obtain rfl := Option.some.inj hentry
  exact ⟨id, s, hs, service?_serial h hs, hparse⟩

/-- A frontend in service has its route. -/
theorem exists_entry (h : p.skeleton.Tied) {id : String} {s : Service}
    (hs : p.frontends.get? id = some s) :
    ∃ e ∈ p.router.entries, p.service? e.target = some s ∧
      Pattern.parse s.spec.route = .ok e.pattern := by
  obtain ⟨pattern, hparse, hmem⟩ := h.entry (get?_services hs)
  exact ⟨_, hmem, service?_serial h hs, hparse⟩

/-- Routes and frontends match, one by one. -/
theorem routes_of_tied (h : p.skeleton.Tied) :
    (p.router.entries.map fun e => (some e.key, p.service? e.target)).Perm
      (p.frontends.values.map fun s => (canonical? s.spec.route, some s)) := by
  have hroutes := h.routes.map fun e? =>
    (e?.map Entry.key, e?.bind fun e => p.service? e.target)
  rw [List.map_map, List.map_map] at hroutes
  have hfaces : p.skeleton.services.values = p.frontends.values.map Service.face :=
    Dictionary.values_mapValues _ _
  rw [hfaces, List.map_map] at hroutes
  -- both sides are now lists over the services
  refine hroutes.trans (List.Perm.of_eq (List.map_congr_left fun s hs => ?_))
  obtain ⟨id, hid⟩ := Dictionary.mem_values_iff.mp hs
  obtain ⟨q, hq, -⟩ := h.entry (get?_services hid)
  have hentry := Skeleton.entry?_eq_some hq
  show (s.face.entry?.map Entry.key, s.face.entry?.bind fun e => p.service? e.target) = _
  rw [hentry, canonical?, show Pattern.parse s.spec.route = .ok q from hq]
  exact congrArg (some q.canonical, ·) (service?_serial h hid)

/-- A backend can be deleted when it is there and no frontend names it. -/
theorem deleteBackend_iff (h : p.skeleton.Tied) (b : String) :
    (p.deleteBackend b).2 = .ok () ↔ (p.backends.get? b).isSome = true ∧
      ∀ id s, p.frontends.get? id = some s → s.spec.backendId ≠ b := by
  unfold deleteBackend
  constructor
  · intro hok
    split at hok
    case h_1 => cases hok
    case h_2 c hc =>
      split at hok
      case h_1 => cases hok
      case h_2 hnone =>
        refine ⟨by rw [hc]; rfl, fun id s hs hb => ?_⟩
        -- a frontend that names the backend would be among its users
        have hmem := Dictionary.mem_keys_iff.mpr ((users_iff h hc).mpr ⟨s, hs, hb⟩)
        rw [hnone] at hmem
        cases hmem
  · rintro ⟨hthere, hunused⟩
    obtain ⟨c, hc⟩ := Option.isSome_iff_exists.mp hthere
    rw [hc]
    dsimp only
    split
    case h_1 user _ husers =>
      have hmem : user ∈ c.users.keys := by rw [husers]; exact List.mem_cons_self
      obtain ⟨s, hs, hb⟩ := (users_iff h hc).mp (Dictionary.mem_keys_iff.mp hmem)
      exact absurd hb (hunused user s hs)
    case h_2 => rfl

/-- In a tied proxy, all that one would like to know of references holds. -/
theorem integrity_of_tied (h : p.skeleton.Tied) : p.Integrity where
  named := fun id s hs => h.names id s.face (get?_services hs)
  backed := by
    intro id s hs
    obtain ⟨d, hd, hserial⟩ := h.backed id s.face (get?_services hs)
    rw [skeleton, Dictionary.get?_mapValues] at hd
    obtain ⟨c, hc, rfl⟩ := Option.map_eq_some_iff.mp hd
    exact ⟨c, hc, by rw [show s.cluster = c.serial from hserial]; exact cluster?_serial h hc⟩
  users := by
    intro b c hc id
    rw [Dictionary.mem_keys_iff]
    exact users_iff h hc
  router := h.router
  routes := routes_of_tied h
  deletable := deleteBackend_iff h

theorem tied_run (h : p.skeleton.Tied) (as : List Attempt) : (p.run as).skeleton.Tied := by
  induction as generalizing p with
  | nil => exact h
  | cons a as ih => exact ih (tied_apply h a.change)

end Integrity

/-- Whatever changes are tried on a new proxy, its frontends, backends and routes fit together. -/
theorem integrity_run (id : Nat) (o : Options) (as : List Attempt) :
    ((make id o).run as).Integrity :=
  integrity_of_tied (tied_run (tied_make id o) as)

end Turnpike.Proxy
