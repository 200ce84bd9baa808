/-
  A configuration that does not fit together.

  Entities are put into a new proxy one after the other, backends and servers before frontends, and
  those that cannot be put are passed over.  A store that anybody may write to can hold entities
  that cannot all be in place at once; then the question is which of the frontends are in service in
  the end.

  1. **What is fit** (`Orderly`).  Routes, and what they depend on, are valid, and no two frontends
     have one route.  Of hosts, listeners and gates nothing is asked: some of them may fail.

  2. **Housed frontends** (`housedOf`).  A frontend is passed over when its backend is not there:
     neither put itself nor brought by one of its servers.  All others are in service.

  3. **The invariant** (`Salvaged`).  The backends that are there are those that have been put or
     brought, and the table of the proxy lists the housed frontends, in the order in which they were
     put.  That backends and servers come before all frontends is what keeps the second part: a
     backend that came later would house a frontend that has been passed over (`Salvaged.house`).

  4. **One more** (`Salvaged.push`).  A backend or a server leaves routes and frontends alone
     (`Applied.houses`), a new frontend comes last in the table (`Applied.newcomer`), and everything
     else makes no difference to it, whether or not it can be put (`Applied.aside`).

  5. **All of it** (`Salvaged.playOn`), by induction on the entities that are left, at any times.
-/
import Turnpike.Proofs.Proxy.Answer

namespace Turnpike.Proxy

open Turnpike.Entity Turnpike.Balance Turnpike.Route

/-! ## Lists of entities -/

/-- The frontends among entities. -/
def frontendsOf (us : List Upsert) : List Frontend :=
  us.filterMap fun
    | .frontend f => some f
    | _ => none

/-- The backend that is there after an entity was put: it is that backend, or one of its servers. -/
def brings? : Upsert → Option String
  | .backend b => some b.id
  | .server b _ => some b
  | _ => none

/-- The frontends whose backends are among the entities, or brought by them. -/
def housedOf (us : List Upsert) : List Frontend :=
  (frontendsOf us).filter fun f => us.any (brings? · == some f.backendId)

/-- The entity is fit to be put, as far as routes depend on it. -/
def Fit : Upsert → Prop
  | .backend b => b.check = .ok ()
  | .server _ s => s.check = .ok () ∧ ∃ u, Reachable s u
  | .frontend f => f.check = .ok ()
  | _ => True

/-- Entities in an order in which they can be put, with frontends in the order of their
    identifiers and with routes of their own. -/
structure Orderly (us : List Upsert) : Prop where
  ranked : Ranked us
  fit : ∀ u ∈ us, Fit u
  sorted : (frontendsOf us).Pairwise (·.id < ·.id)
  routes : ∀ f f', .frontend f ∈ us → .frontend f' ∈ us →
    canonical? f.route = canonical? f'.route → f.id = f'.id

section Lists

variable {us : List Upsert} {f : Frontend}

/-- The frontends of a list are those that are in it. -/
theorem mem_frontendsOf : f ∈ frontendsOf us ↔ .frontend f ∈ us := by
  unfold frontendsOf
  rw [List.mem_filterMap]
  constructor
  · rintro ⟨u, hu, hf⟩
    cases u with
    | frontend f' => cases hf; exact hu
    | _ => cases hf
  · intro hf
    exact ⟨_, hf, rfl⟩

/-- A frontend is housed when something in the list brings its backend. -/
theorem mem_housedOf :
    f ∈ housedOf us ↔ .frontend f ∈ us ∧ ∃ u ∈ us, brings? u = some f.backendId := by
  unfold housedOf
  rw [List.mem_filter, mem_frontendsOf, List.any_eq_true]
  simp only [beq_iff_eq]

theorem brings_append {u : Upsert} {b : String} :
    (∃ v ∈ us ++ [u], brings? v = some b) ↔
      brings? u = some b ∨ ∃ v ∈ us, brings? v = some b := by
  simp only [List.mem_append, List.mem_singleton, or_and_right, exists_or, exists_eq_left, or_comm]

/-- An entity that brings no backend adds at most itself. -/
theorem housedOf_append {u : Upsert} (hu : brings? u = none) :
    housedOf (us ++ [u]) =
      housedOf us ++ (frontendsOf [u]).filter fun f => us.any (brings? · == some f.backendId) := by
  have hany : ∀ f : Frontend, (us ++ [u]).any (brings? · == some f.backendId) =
      us.any (brings? · == some f.backendId) := by
    intro f
    rw [List.any_append, List.any_cons, List.any_nil, hu]
    exact Bool.or_false _
  unfold housedOf
  simp only [hany]
  rw [frontendsOf, List.filterMap_append, List.filter_append]
  rfl

end Lists

/-! ## Tables -/

section Table

variable {p q : Proxy}

theorem serial_of_service? {n : Nat} {s : Service} (h : p.service? n = some s) : s.serial = n := by
  have hserial := List.find?_some h
  exact beq_iff_eq.mp hserial

/-- The frontends in service stay, and some routes come after theirs. -/
theorem table_append (hp : p.skeleton.Tied) (hq : q.skeleton.Tied) {news : List (Entry Nat)}
    (hentries : q.router.entries = p.router.entries ++ news)
    (hstay : ∀ id s, p.frontends.get? id = some s →
      ∃ t, q.frontends.get? id = some t ∧ t.serial = s.serial ∧ t.spec = s.spec) :
    q.table = p.table ++ news.filterMap fun e => (q.service? e.target).map (·.spec) := by
  unfold table
  rw [hentries, List.filterMap_append]
  congr 1
  refine List.filterMap_congr fun e he => ?_
  obtain ⟨id, s, hs, hservice, -⟩ := exists_service hp he
  obtain ⟨t, ht, hserial, hspec⟩ := hstay id s hs
  have htarget : t.serial = e.target := hserial.trans (serial_of_service? hservice)
  rw [hservice, ← htarget, service?_serial hq ht, Option.map_some, Option.map_some, hspec]

/-- When no route comes or goes, the table is as it was. -/
theorem table_eq (hp : p.skeleton.Tied) (hq : q.skeleton.Tied)
    (hentries : q.router.entries = p.router.entries)
    (hstay : ∀ id s, p.frontends.get? id = some s →
      ∃ t, q.frontends.get? id = some t ∧ t.serial = s.serial ∧ t.spec = s.spec) :
    q.table = p.table := by
  have happend := table_append hp hq (hentries.trans (List.append_nil _).symm) hstay
  rwa [List.filterMap_nil, List.append_nil] at happend

end Table

/-! ## One more entity -/

/-- What has been put of these entities. -/
structure Salvaged (p : Proxy) (done : List Upsert) : Prop where
  tied : p.skeleton.Tied
  backends : ∀ b, (∃ c, p.backends.get? b = some c) ↔ ∃ u ∈ done, brings? u = some b
  table : p.table = housedOf done

section Salvaged

variable {g : Ground} {now : Nat} {p q : Proxy} {done rest : List Upsert} {u : Upsert}

/-- In a new proxy nothing has been put. -/
theorem salvaged_make (id : Nat) (o : Options) : Salvaged (make id o) [] where
  tied := tied_make id o
  backends := by
    intro b
    constructor
    · rintro ⟨c, hc⟩
      cases hc
    · rintro ⟨u, hu, -⟩
      cases hu
  table := rfl

/-- An entity that is neither backend, server nor frontend makes no difference. -/
theorem Salvaged.skip (h : Salvaged p done) (hq : q.skeleton.Tied) (hbrings : brings? u = none)
    (hnone : frontendsOf [u] = []) (htable : q.table = p.table)
    (hbackends : q.backends = p.backends) : Salvaged q (done ++ [u]) where
  tied := hq
  backends := by
    intro b
    rw [hbackends, h.backends, brings_append, hbrings]
    exact (or_iff_right nofun).symm
  table := by rw [htable, h.table, housedOf_append hbrings, hnone, List.filter_nil, List.append_nil]

/-- A backend or a server leaves routes and frontends alone, and its backend is there. -/
theorem Applied.houses {b : String} (ha : Applied g now p (.upsert u) q)
    (hb : brings? u = some b) : q.router = p.router ∧ q.frontends = p.frontends ∧
      ∀ x, (∃ c, q.backends.get? x = some c) ↔ x = b ∨ ∃ c, p.backends.get? x = some c := by
  have hinsert {k : String} {c : Cluster} (hk : k = b) (x : String) :
      (∃ c', (p.backends.insert k c).get? x = some c') ↔
        x = b ∨ ∃ c, p.backends.get? x = some c := by
    rw [← Dictionary.contains_iff, Dictionary.contains_insert, Dictionary.contains_iff, hk]
  cases ha with
  | backend => exact ⟨rfl, rfl, hinsert (Option.some.inj hb)⟩
  | newBackend => exact ⟨rfl, rfl, hinsert (Option.some.inj hb)⟩
  | server => exact ⟨rfl, rfl, hinsert (Option.some.inj hb)⟩
  | newServer _ placed =>
    have hid := (Pool.id_of_upsert placed).1
    exact ⟨rfl, rfl, hinsert (hid.trans (Option.some.inj hb))⟩
  | _ => cases hb

/-- Backends and servers come before all frontends. -/
theorem Salvaged.house (h : Salvaged p done) (hnone : frontendsOf (done ++ [u]) = []) {b : String}
    (hb : brings? u = some b) (ha : Applied g now p (.upsert u) q) : Salvaged q (done ++ [u]) := by
  obtain ⟨hrouter, hfrontends, hbackends⟩ := ha.houses hb
  have hq : q.skeleton.Tied := tied_applied h.tied ha
  refine ⟨hq, fun x => ?_, ?_⟩
  · rw [hbackends, h.backends, brings_append, hb, Option.some.injEq, eq_comm]
  · have hsame : q.table = p.table := by
      refine table_eq h.tied hq (by rw [hrouter]) fun id s hs => ⟨s, ?_, rfl, rfl⟩
      rw [hfrontends]
      exact hs
    have hdone : frontendsOf done = [] := by
      rw [frontendsOf, List.filterMap_append] at hnone
      exact (List.append_eq_nil_iff.mp hnone).1
    rw [hsame, h.table, housedOf, housedOf, hdone, hnone]
    rfl

/-- A new frontend comes last in the table, and no backend comes or goes with it. -/
theorem Applied.newcomer {f : Frontend} (hp : p.skeleton.Tied)
    (habsent : p.frontends.get? f.id = none) (ha : Applied g now p (.upsert (.frontend f)) q) :
    q.table = p.table ++ [f] ∧
      ∀ x, (∃ c, q.backends.get? x = some c) ↔ ∃ c, p.backends.get? x = some c := by
  have hq : q.skeleton.Tied := tied_applied hp ha
  cases ha with
  | @newFrontend _ c router valid backed absent routed =>
    obtain ⟨pattern, -, -, rfl⟩ := Router.add_eq_ok.mp routed
    constructor
    · rw [table_append hp hq rfl fun id s hs => ?_]
      · -- the last route leads to the new frontend
        have hlast := service?_serial hq (Dictionary.get?_insert_self p.frontends f.id _)
        rw [List.filterMap_cons, List.filterMap_nil]
        exact congrArg (fun o => p.table ++ (o.map Service.spec).toList) hlast
      · refine ⟨s, ?_, rfl, rfl⟩
        have hne : id ≠ f.id := by
          rintro rfl
          rw [absent] at hs
          cases hs
        show (p.frontends.insert f.id _).get? id = some s
        rw [Dictionary.get?_insert, if_neg hne]
        exact hs
    · intro x
      show (∃ c, (join p.backends f.backendId f.id).get? x = some c) ↔ _
      unfold join
      rw [Dictionary.get?_modify]
      split
      case isTrue hx =>
        rw [hx, backed]
        exact ⟨fun _ => ⟨c, rfl⟩, fun _ => ⟨_, rfl⟩⟩
      case isFalse => exact Iff.rfl
  | frontend _ _ there =>
    rw [habsent] at there
    cases there

/-- A frontend is put when its backend is there, and passed over when it is not. -/
theorem Salvaged.front (h : Salvaged p done) {f : Frontend} (hvalid : f.check = .ok ())
    (hnew : ∀ f', .frontend f' ∈ done → f'.id ≠ f.id)
    (hroutes : ∀ f', .frontend f' ∈ done → canonical? f'.route ≠ canonical? f.route) :
    Salvaged (p.apply g now (.upsert (.frontend f))).1 (done ++ [.frontend f]) := by
  have hdone {id : String} {s : Service} (hs : p.frontends.get? id = some s) :
      .frontend s.spec ∈ done ∧ s.spec.id = id := by
    have hid : s.spec.id = id := h.tied.names id s.face (get?_services hs)
    have hmem : s.spec ∈ p.table := (mem_table h.tied).mpr ⟨s, by rw [hid]; exact hs, rfl⟩
    rw [h.table] at hmem
    exact ⟨(mem_housedOf.mp hmem).1, hid⟩
  have hbrings (x : String) : (∃ u ∈ done ++ [.frontend f], brings? u = some x) ↔
      ∃ u ∈ done, brings? u = some x := brings_append.trans (or_iff_right nofun)
  have hlast (b : Bool) (hb : (done.any (brings? · == some f.backendId)) = b) :
      housedOf (done ++ [.frontend f]) = housedOf done ++ [f].filter fun _ => b := by
    rw [housedOf_append rfl, ← hb]
    rfl
  -- its backend is there and it is put, or it is not and nothing happens
  by_cases hhoused : ∃ u ∈ done, brings? u = some f.backendId
  · obtain ⟨c, hc⟩ := (h.backends f.backendId).mpr hhoused
    have habsent : p.frontends.get? f.id = none := by
      cases hs : p.frontends.get? f.id with
      | none => rfl
      | some s => exact absurd (hdone hs).2 (hnew s.spec (hdone hs).1)
    obtain ⟨router, hrouted⟩ : ∃ router, p.router.add f.route p.nextSerial = .ok router := by
      -- a route in the way would be that of a frontend put before, and these have others
      obtain ⟨pattern, hpattern⟩ := compile_of_check hvalid
      have hparse : Pattern.parse f.route = .ok pattern := hpattern
      refine ⟨_, Router.add_eq_ok.mpr ⟨pattern, hparse, fun e he hkey => ?_, rfl⟩⟩
      obtain ⟨id, s, hs, -, hparse'⟩ := exists_service h.tied he
      refine hroutes s.spec (hdone hs).1 ?_
      rw [canonical?, canonical?, hparse, hparse']
      exact congrArg some hkey
    have ha : Applied g now p (.upsert (.frontend f)) _ := .newFrontend hvalid hc habsent hrouted
    obtain ⟨htable, hbackends⟩ := ha.newcomer h.tied habsent
    rw [ha.apply_eq]
    refine ⟨tied_applied h.tied ha, fun x => ?_, ?_⟩
    · rw [hbrings, ← h.backends]
      exact hbackends x
    · rw [hlast true (by simpa using hhoused)]
      exact htable.trans (by rw [h.table]; rfl)
  · have hsame : (p.apply g now (.upsert (.frontend f))).1 = p := by
      refine apply_fst_of_error fun hok => hhoused ((h.backends f.backendId).mp ?_)
      have ha := applied_of_ok hok
      generalize (p.apply g now (.upsert (.frontend f))).1 = q at ha
      cases ha with
      | newFrontend _ backed => exact ⟨_, backed⟩
      | frontend _ backed => exact ⟨_, backed⟩
    rw [hsame]
    refine ⟨h.tied, fun x => by rw [hbrings, h.backends], ?_⟩
    rw [hlast false (by simpa using hhoused), h.table]
    exact (List.append_nil _).symm

/-- What is neither backend, server nor frontend leaves the table as it is. -/
theorem Applied.aside (hp : p.skeleton.Tied) (ha : Applied g now p (.upsert u) q)
    (hbrings : brings? u = none) (hnone : frontendsOf [u] = []) :
    q.table = p.table ∧ q.backends = p.backends := by
  have hq : q.skeleton.Tied := tied_applied hp ha
  cases ha with
  | host => exact ⟨rfl, rfl⟩
  | listener => exact ⟨rfl, rfl⟩
  | newListener => exact ⟨rfl, rfl⟩
  | boundListener => exact ⟨rfl, rfl⟩
  | @gate frontend _ s i _ there =>
    refine ⟨table_eq hp hq rfl fun id t ht => ?_, rfl⟩
    show ∃ x, (p.frontends.insert frontend _).get? id = some x ∧ _
    rw [Dictionary.get?_insert]
    split
    case isTrue hid =>
      rw [hid, there] at ht
      obtain rfl := Option.some.inj ht
      exact ⟨_, rfl, rfl, rfl⟩
    case isFalse => exact ⟨t, ht, rfl, rfl⟩
  | backend => cases hbrings
  | newBackend => cases hbrings
  | server => cases hbrings
  | newServer => cases hbrings
  | newFrontend => cases hnone
  | frontend => cases hnone

/-- Whatever comes next is put or passed over. -/
theorem Salvaged.push (h : Salvaged p done) (hus : Orderly (done ++ u :: rest)) :
    Salvaged (p.apply g now (.upsert u)).1 (done ++ [u]) := by
  have hmem : u ∈ done ++ u :: rest := List.mem_append_right _ List.mem_cons_self
  have hdone {v : Upsert} (hv : v ∈ done) : v ∈ done ++ u :: rest := List.mem_append_left _ hv
  have hfit := hus.fit u hmem
  have htied : (p.apply g now (.upsert u)).1.skeleton.Tied := tied_apply h.tied _
  have hskip (hbrings : brings? u = none) (hnone : frontendsOf [u] = []) :
      Salvaged (p.apply g now (.upsert u)).1 (done ++ [u]) := by
    -- it may fail, and that makes no difference
    rcases settled_upsert u with ⟨q, hq, ha⟩ | ⟨e, he⟩
    · obtain ⟨htable, hbackends⟩ := ha.aside h.tied hbrings hnone
      rw [ha.apply_eq] at htied ⊢
      exact h.skip htied hbrings hnone htable hbackends
    · rw [show p.apply g now (.upsert u) = p.failed e from he]
      exact h.skip h.tied hbrings hnone rfl rfl
  have hhouse {b : String} {q : Proxy} (hb : brings? u = some b) (hrank : rank u.ref ≤ 1)
      (ha : Applied g now p (.upsert u) q) :
      Salvaged (p.apply g now (.upsert u)).1 (done ++ [u]) := by
    rw [ha.apply_eq]
    refine h.house ?_ hb ha
    -- a frontend before `u` would come before its time
    refine List.eq_nil_iff_forall_not_mem.mpr fun f hf => ?_
    rcases List.mem_append.mp (mem_frontendsOf.mp hf) with hf | hf
    · have hle := (List.pairwise_append.mp hus.ranked).2.2 _ hf u List.mem_cons_self
      have hfour : rank (Upsert.frontend f).ref = 4 := rfl
      omega
    · obtain rfl := List.mem_singleton.mp hf
      cases hb
  cases u with
  | host x => exact hskip rfl rfl
  | listener l => exact hskip rfl rfl
  | gate f t => exact hskip rfl rfl
  | backend b =>
    cases hc : p.backends.get? b.id with
    | none => exact hhouse rfl (Nat.zero_le 1) (.newBackend hfit hc)
    | some c => exact hhouse rfl (Nat.zero_le 1) (.backend hfit hc)
  | server b s =>
    obtain ⟨hcheck, url, hreach⟩ := hfit
    cases hc : p.backends.get? b with
    | none =>
      obtain ⟨pool, hpool⟩ := Pool.exists_upsert hcheck hreach (.ofBackend { id := b })
      exact hhouse rfl (Nat.le_refl 1) (.newServer hc hpool)
    | some c =>
      obtain ⟨pool, hpool⟩ := Pool.exists_upsert hcheck hreach c.pool
      exact hhouse rfl (Nat.le_refl 1) (.server hc hpool)
  | frontend f =>
    -- frontends come in the order of their identifiers, so this one is new
    have hbefore (f' : Frontend) (hf' : .frontend f' ∈ done) : f'.id < f.id := by
      have hsorted := hus.sorted
      rw [frontendsOf, List.filterMap_append] at hsorted
      exact (List.pairwise_append.mp hsorted).2.2 f' (mem_frontendsOf.mpr hf') f List.mem_cons_self
    have hnew (f' : Frontend) (hf' : .frontend f' ∈ done) : f'.id ≠ f.id := by
      intro hid
      have hlt := hbefore f' hf'
      rw [hid] at hlt
      exact String.lt_irrefl _ hlt
    refine h.front hfit hnew fun f' hf' hroute => ?_
    exact hnew f' hf' (hus.routes f' f (hdone hf') hmem hroute)

/-- All that can be put of a configuration is in service when it has been played. -/
theorem Salvaged.playOn : ∀ {clock : Nat → Nat} {p : Proxy} {done : List Upsert},
    Salvaged p done → Orderly (done ++ rest) →
      Salvaged (p.playOn g clock (rest.map .upsert)) (done ++ rest) := by
  induction rest with
  | nil =>
    intro clock p done h _
    rw [List.append_nil]
    exact h
  | cons u rest ih =>
    intro clock p done h hus
    have hpush : Salvaged (p.apply g (clock 0) (.upsert u)).1 (done ++ [u]) := h.push hus
    have hsplit : done ++ u :: rest = (done ++ [u]) ++ rest := by
      rw [List.append_assoc, List.singleton_append]
    rw [hsplit] at hus ⊢
    exact ih hpush hus

end Salvaged

end Turnpike.Proxy
