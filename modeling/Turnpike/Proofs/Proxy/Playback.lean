/-
  A configuration put in place.

  A list of entities is put into a new proxy, one after the other.  Each of these changes may fail
  for reasons that lie in those before it: an address or a route that is taken, a backend that is
  not there yet.  When can all of them be applied, and what does the proxy show then?

  1. **Configurations** (`Consistent`).  The entities fit together when all of them could be in
     place at once: no two have one name, each is valid and finds what it refers to among the
     others, and no two have one address or one route.  Nothing is said of an order.

  2. **The order** (`Ranked`).  Kinds of entities are ranked, so that each comes after those it
     refers to (`rank_lt_of_needs`).  Within a kind, any order will do.

  3. **The invariant** (`Built`).  The proxy shows the entities that have been put so far and
     nothing else, and it does not serve yet, so that no socket has to be bound.

  4. **One more** (`Built.exists_applied`, `Built.push`).  The next entity can be put: what could
     stand against it would be an entity that has been put before, and with that it is consistent.
     Then it is shown, and those before it still are, as a change alters one facet only.

  5. **All of it** (`Built.playOn`).  The induction is on those that are left; the next one goes
     over to those that are done.  The times of the changes are arbitrary.
-/
import Turnpike.Proofs.Proxy.Integrity
import Turnpike.Proofs.Proxy.Picture

namespace Turnpike.Proxy

open Turnpike.Entity Turnpike.Balance

/-! ## Configurations -/

/-- The entity that an entity refers to. -/
def needs? : Upsert → Option Ref
  | .server b _ => some (.backend b)
  | .frontend f => some (.backend f.backendId)
  | .gate f _ => some (.frontend f)
  | _ => none

/-- Entities that can all be in place at once. -/
structure Consistent (g : Ground) (us : List Upsert) : Prop where
  distinct : (us.map Upsert.ref).Nodup
  valid : ∀ u ∈ us, Valid g u
  backed : ∀ u ∈ us, ∀ r, needs? u = some r → r ∈ us.map Upsert.ref
  apart : ∀ l m, .listener l ∈ us → .listener m ∈ us → l.address.address = m.address.address →
    l.id = m.id
  routes : ∀ f f', .frontend f ∈ us → .frontend f' ∈ us →
    canonical? f.route = canonical? f'.route → f.id = f'.id

/-- To fit together does not depend on the order. -/
theorem Consistent.of_perm {g : Ground} {us vs : List Upsert} (h : Consistent g us)
    (hperm : vs.Perm us) : Consistent g vs where
  distinct := (hperm.map Upsert.ref).nodup_iff.mpr h.distinct
  valid := fun u hu => h.valid u (hperm.mem_iff.mp hu)
  backed := fun u hu r hr =>
    (hperm.map Upsert.ref).mem_iff.mpr (h.backed u (hperm.mem_iff.mp hu) r hr)
  apart := fun l m hl hm => h.apart l m (hperm.mem_iff.mp hl) (hperm.mem_iff.mp hm)
  routes := fun f f' hf hf' => h.routes f f' (hperm.mem_iff.mp hf) (hperm.mem_iff.mp hf')

/-- The place of an entity in the order of putting. -/
def rank : Ref → Nat
  | .backend _ => 0
  | .server .. => 1
  | .host _ => 2
  | .listener _ => 3
  | .frontend _ => 4
  | .gate .. => 5

/-- No entity comes before one of an earlier kind. -/
def Ranked (us : List Upsert) : Prop := us.Pairwise fun u v => rank u.ref ≤ rank v.ref

/-- What an entity refers to is ranked before it. -/
theorem rank_lt_of_needs {u : Upsert} {r : Ref} (h : needs? u = some r) : rank r < rank u.ref := by
  cases u with
  | server b s => cases h; show 0 < 1; decide
  | frontend f => cases h; show 0 < 4; decide
  | gate f t => cases h; show 4 < 5; decide
  | _ => cases h

/-- What an entity refers to comes before it. -/
theorem mem_of_needs {done rest : List Upsert} {u : Upsert} {r : Ref}
    (hranked : Ranked (done ++ u :: rest)) (h : needs? u = some r)
    (hr : r ∈ (done ++ u :: rest).map Upsert.ref) : r ∈ done.map Upsert.ref := by
  have hlt := rank_lt_of_needs h
  obtain ⟨v, hv, rfl⟩ := List.mem_map.mp hr
  rcases List.mem_append.mp hv with hv | hv
  · exact List.mem_map_of_mem hv
  -- what comes later is not ranked before it
  · have hafter := (List.pairwise_cons.mp (List.pairwise_append.mp hranked).2.1).1
    rcases List.mem_cons.mp hv with rfl | hv
    · exact absurd hlt (Nat.lt_irrefl _)
    · exact absurd (hafter v hv) (Nat.not_le_of_lt hlt)

/-- Of no entity there is another one before it. -/
theorem Consistent.new {g : Ground} {done rest : List Upsert} {u : Upsert}
    (h : Consistent g (done ++ u :: rest)) : u.ref ∉ done.map Upsert.ref := by
  have hdistinct := h.distinct
  rw [List.map_append, List.map_cons] at hdistinct
  exact fun hin => (List.nodup_append.mp hdistinct).2.2 _ hin _ List.mem_cons_self rfl

/-! ## Part of a configuration in place -/

/-- The proxy holds these entities and nothing else, and does not serve. -/
structure Built (p : Proxy) (done : List Upsert) : Prop where
  tied : p.skeleton.Tied
  sane : p.Sane
  idle : p.phase ≠ .active
  shows : ∀ u ∈ done, p.facet? u.ref = some (facetOf u)
  rest : ∀ r, r ∉ done.map Upsert.ref → p.facet? r = none

variable {g : Ground} {now : Nat} {p q : Proxy}

/-- A new proxy without a default listener shows nothing. -/
theorem facet?_make {id : Nat} {o : Options} (ho : o.defaultListener = none) (r : Ref) :
    (make id o).facet? r = none := by
  cases r with
  | listener n =>
    rw [facet?_listener]
    unfold make Options.listeners
    rw [ho]
    rfl
  | _ => rfl

/-- So nothing has been put. -/
theorem built_make {id : Nat} {o : Options} (ho : o.defaultListener = none) :
    Built (make id o) [] where
  tied := tied_make id o
  sane := sane_make id o
  idle := nofun
  shows := nofun
  rest := fun r _ => facet?_make ho r

theorem Applied.phase_eq {c : Change} (h : Applied g now p c q) : q.phase = p.phase := by
  cases h with
  | _ => rfl

/-- An entity is shown as it was put. -/
theorem Built.mem {done : List Upsert} (h : Built p done) {r : Ref} {x : Facet}
    (hx : p.facet? r = some x) : ∃ u ∈ done, u.ref = r ∧ facetOf u = x := by
  by_cases hr : r ∈ done.map Upsert.ref
  · obtain ⟨u, hu, rfl⟩ := List.mem_map.mp hr
    rw [h.shows u hu] at hx
    exact ⟨u, hu, rfl, Option.some.inj hx⟩
  · rw [h.rest r hr] at hx
    cases hx

/-- A backend that has been put has a cluster. -/
theorem Built.cluster {done : List Upsert} (h : Built p done) {b : String}
    (hb : .backend b ∈ done.map Upsert.ref) : ∃ c, p.backends.get? b = some c := by
  obtain ⟨u, hu, href⟩ := List.mem_map.mp hb
  have hshow := h.shows u hu
  rw [href, facet?_backend] at hshow
  obtain ⟨c, hc, -⟩ := Option.map_eq_some_iff.mp hshow
  exact ⟨c, hc⟩

/-- A frontend that has been put has a service. -/
theorem Built.service {done : List Upsert} (h : Built p done) {f : String}
    (hf : .frontend f ∈ done.map Upsert.ref) : ∃ s, p.frontends.get? f = some s := by
  obtain ⟨u, hu, href⟩ := List.mem_map.mp hf
  have hshow := h.shows u hu
  rw [href, facet?_frontend] at hshow
  obtain ⟨s, hs, -⟩ := Option.map_eq_some_iff.mp hshow
  exact ⟨s, hs⟩

/-- The routes in place are those of the frontends that have been put. -/
theorem Built.route {done : List Upsert} (h : Built p done) {e : Route.Entry Nat}
    (he : e ∈ p.router.entries) :
    ∃ f, .frontend f ∈ done ∧ canonical? f.route = some e.key := by
  obtain ⟨id, s, hs, -, hparse⟩ := exists_service h.tied he
  have hshow : p.facet? (.frontend id) = some (.frontend s.spec) := by
    rw [facet?_frontend, hs, Option.map_some]
  obtain ⟨u, hu, href, hfacet⟩ := h.mem hshow
  cases u with
  | frontend f =>
    obtain rfl := Facet.frontend.inj hfacet
    refine ⟨s.spec, hu, ?_⟩
    rw [canonical?, hparse]
    rfl
  | _ => cases href

/-- Frontends in service have different routes. -/
theorem id_eq_of_route (h : p.skeleton.Tied) {i j : String} {s t : Service}
    (hs : p.frontends.get? i = some s) (ht : p.frontends.get? j = some t)
    (hroute : canonical? s.spec.route = canonical? t.spec.route) : s.spec.id = t.spec.id := by
  have hkey (x : Service) :
      x.face.entry?.map Route.Entry.key = canonical? x.spec.route := by
    rw [ServiceFace.entry?, Option.map_map]
    rfl
  have hperm := h.routes.map fun e? => e?.map Route.Entry.key
  rw [List.map_map, List.map_map] at hperm
  -- no two routes of the router have one canonical form
  have hnodup : (p.router.entries.map fun e => some e.key).Nodup := by
    have hkeys : (p.router.entries.map Route.Entry.key).Nodup := h.router.keys
    rw [show (fun e : Route.Entry Nat => some e.key) = some ∘ Route.Entry.key from rfl,
      ← List.map_map]
    exact hkeys.map fun _ _ => Option.some.inj
  have hfaces := hperm.nodup_iff.mp hnodup
  have hmem {k : String} {x : Service} (hx : p.frontends.get? k = some x) :
      x.face ∈ p.skeleton.services.values := Dictionary.mem_values_iff.mpr ⟨k, get?_services hx⟩
  have hsame : s.face = t.face := by
    refine List.inj_on_of_nodup_map hfaces (hmem hs) (hmem ht) ?_
    show s.face.entry?.map Route.Entry.key = t.face.entry?.map Route.Entry.key
    rw [hkey, hkey, hroute]
  exact congrArg (fun x : ServiceFace => x.spec.id) hsame

/-! ## One more entity -/

/-- A listener at an address of its own has no rival. -/
theorem Built.rival?_eq_none {done : List Upsert} (h : Built p done) {l : Listener}
    (hapart : ∀ m, .listener m ∈ done → m.address.address = l.address.address → m.id = l.id) :
    p.rival? l = none := by
  refine Option.map_eq_none_iff.mpr (List.find?_eq_none.mpr ?_)
  rintro ⟨id, e⟩ he
  have hshow : p.facet? (.listener id) = some (.listener e.spec) := by
    rw [facet?_listener, Dictionary.mem_entries_iff.mp he, Option.map_some]
  obtain ⟨u, hu, href, hfacet⟩ := h.mem hshow
  cases u with
  | listener m =>
    -- the listener at that address has been put, so it is this one
    obtain rfl := Facet.listener.inj hfacet
    have hid : e.spec.id = id := Ref.listener.inj href
    intro hrival
    rw [Bool.and_eq_true] at hrival
    have hne : id ≠ l.id := by simpa using hrival.1
    have haddress : e.spec.address.address = l.address.address := by simpa using hrival.2
    exact hne (hid.symm.trans (hapart e.spec hu haddress))
  | _ => cases href

/-- The route of a frontend can be added when no other frontend has it. -/
theorem Built.exists_route {done : List Upsert} (h : Built p done) {f : Frontend}
    (hvalid : f.check = .ok ()) (hnew : .frontend f.id ∉ done.map Upsert.ref)
    (hroutes : ∀ f', .frontend f' ∈ done → canonical? f'.route = canonical? f.route →
      f'.id = f.id) : ∃ router, p.router.add f.route p.nextSerial = .ok router := by
  obtain ⟨pattern, hpattern⟩ := compile_of_check hvalid
  refine ⟨_, Route.Router.add_eq_ok.mpr ⟨pattern, hpattern, fun e he hkey => ?_, rfl⟩⟩
  obtain ⟨f', hf', hcanonical⟩ := h.route he
  have hsame : canonical? f.route = some pattern.canonical := by
    rw [canonical?, show Route.Pattern.parse f.route = .ok pattern from hpattern]
    rfl
  have hid := hroutes f' hf' (by rw [hcanonical, hsame, hkey])
  refine hnew ?_
  rw [← hid]
  exact List.mem_map_of_mem hf'

/-- The next entity of a configuration can be put. -/
theorem Built.exists_applied {done rest : List Upsert} {u : Upsert} (h : Built p done)
    (hus : Consistent g (done ++ u :: rest)) (hranked : Ranked (done ++ u :: rest)) :
    ∃ q, Applied g now p (.upsert u) q := by
  have hmem : u ∈ done ++ u :: rest := List.mem_append_right _ List.mem_cons_self
  have hdone {v : Upsert} (hv : v ∈ done) : v ∈ done ++ u :: rest := List.mem_append_left _ hv
  have hvalid := hus.valid u hmem
  have hneeds (r : Ref) (hr : needs? u = some r) : r ∈ done.map Upsert.ref :=
    mem_of_needs hranked hr (hus.backed u hmem r hr)
  have hnew := hus.new
  have habsent := h.rest u.ref hnew
  -- kind by kind: it is new, and what it refers to is there
  cases u with
  | host x => exact ⟨_, .host hvalid⟩
  | listener l =>
    rw [Upsert.ref, facet?_listener] at habsent
    have hnone : p.listeners.get? l.id = none := Option.map_eq_none_iff.mp habsent
    have halone := h.rival?_eq_none fun m hm => hus.apart m l (hdone hm) hmem
    exact ⟨_, .newListener hvalid halone (by rw [hnone]; rfl) h.idle⟩
  | backend b =>
    rw [Upsert.ref, facet?_backend] at habsent
    exact ⟨_, .newBackend hvalid (Option.map_eq_none_iff.mp habsent)⟩
  | server b s =>
    obtain ⟨c, hc⟩ := h.cluster (hneeds _ rfl)
    obtain ⟨hcheck, url, hreach⟩ := hvalid
    obtain ⟨pool, hpool⟩ := Pool.exists_upsert hcheck hreach c.pool
    exact ⟨_, .server hc hpool⟩
  | frontend f =>
    obtain ⟨c, hc⟩ := h.cluster (hneeds _ rfl)
    rw [Upsert.ref, facet?_frontend] at habsent
    have hroutes := fun f' hf' => hus.routes f' f (hdone hf') hmem
    obtain ⟨router, hrouter⟩ := h.exists_route hvalid hnew hroutes
    exact ⟨_, .newFrontend hvalid hc (Option.map_eq_none_iff.mp habsent) hrouter⟩
  | gate f t =>
    obtain ⟨s, hs⟩ := h.service (hneeds _ rfl)
    obtain ⟨hcheck, hbuild⟩ := hvalid
    obtain ⟨i, hi⟩ := hbuild now
    exact ⟨_, .gate hcheck hs hi⟩

/-- After it has been put, it is shown with those before. -/
theorem Built.push {done : List Upsert} {u : Upsert} (h : Built p done)
    (hnew : u.ref ∉ done.map Upsert.ref)
    (hneeds : ∀ r, needs? u = some r → r ∈ done.map Upsert.ref)
    (ha : Applied g now p (.upsert u) q) : Built q (done ++ [u]) := by
  -- a server finds its backend, so it does not bring one
  have hclear : p.Clear (.upsert u) := by
    cases u with
    | server b s =>
      obtain ⟨c, hc⟩ := h.cluster (hneeds _ rfl)
      show p.facet? (.backend b) ≠ none
      rw [facet?_backend, hc]
      exact nofun
    | _ => trivial
  have hfacet := ha.facet?_eq h.sane hclear
  -- the rest, those before it and itself, and all that was not put
  refine ⟨tied_applied h.tied ha, h.sane.applied ha, ?_, fun v hv => ?_, fun r hr => ?_⟩
  · rw [ha.phase_eq]
    exact h.idle
  · rw [hfacet]
    rcases List.mem_append.mp hv with hv | hv
    · have hne : v.ref ≠ u.ref := fun heq => hnew (heq ▸ List.mem_map_of_mem hv)
      rw [Change.ref, if_neg hne]
      exact h.shows v hv
    · obtain rfl := List.mem_singleton.mp hv
      exact if_pos rfl
  · rw [List.map_append, List.mem_append, not_or] at hr
    have hne : r ≠ u.ref := fun heq => hr.2 (List.mem_singleton.mpr heq)
    rw [hfacet, Change.ref, if_neg hne]
    exact h.rest r hr.1

/-! ## The whole configuration -/

/-- What becomes of changes that are applied one after the other, the `i`-th at the time `clock i`. -/
def outcomes (g : Ground) (clock : Nat → Nat) (p : Proxy) : List Change → List (Result Unit)
  | [] => []
  | c :: cs =>
    (p.apply g (clock 0) c).2 :: outcomes g (fun i => clock (i + 1)) (p.apply g (clock 0) c).1 cs

/-- The rest of a configuration can be put in place, however long each change takes. -/
theorem Built.playOn {rest : List Upsert} : ∀ {clock : Nat → Nat} {p : Proxy} {done : List Upsert},
    Built p done → Consistent g (done ++ rest) → Ranked (done ++ rest) →
    (∀ o ∈ p.outcomes g clock (rest.map .upsert), o = .ok ()) ∧
      Built (p.playOn g clock (rest.map .upsert)) (done ++ rest) := by
  induction rest with
  | nil =>
    intro clock p done h hus hranked
    rw [List.append_nil]
    exact ⟨nofun, h⟩
  | cons u rest ih =>
    intro clock p done h hus hranked
    -- `u` goes over from what is to come to what is done
    obtain ⟨q, ha⟩ : ∃ q, Applied g (clock 0) p (.upsert u) q := h.exists_applied hus hranked
    have hmem : u ∈ done ++ u :: rest := List.mem_append_right _ List.mem_cons_self
    have hpush := h.push hus.new (fun r hr => mem_of_needs hranked hr (hus.backed u hmem r hr)) ha
    have hsplit : done ++ u :: rest = (done ++ [u]) ++ rest := by
      rw [List.append_assoc, List.singleton_append]
    rw [hsplit] at hus hranked ⊢
    obtain ⟨hok, hbuilt⟩ := ih hpush hus hranked
    rw [List.map_cons, outcomes, Proxy.playOn, ha.apply_eq]
    refine ⟨fun o ho => ?_, hbuilt⟩
    rcases List.mem_cons.mp ho with rfl | ho
    · rfl
    · exact hok o ho

end Turnpike.Proxy
