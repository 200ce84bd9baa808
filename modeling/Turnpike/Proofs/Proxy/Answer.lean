/-
  Which frontend answers.

  The router knows targets, the proxy knows services, and what one wants to say is about frontends
  as they were put: which of them answers a request.  So the routes of a router are read as a table
  of frontends, and what there is to be known of the router is said of the table.

  1. **The table** (`table`) lists the frontends in the order of their routes.  In a tied proxy,
     where every route leads to a service and every service has its route, these are the frontends
     in service (`mem_table`), and no two of them have one identifier or one route
     (`eq_of_mem_table`, `eq_of_canonical?`).

  2. **The answer** (`answer?`) comes from one of them, whose route serves the request
     (`mem_of_answer?`), and there is none only when there is no such frontend
     (`answer?_eq_none_iff`).

  3. **Nothing else matters** (`answer?_congr`).  The routes of the table are the patterns of the
     router, in their order (`map_table`).  Routers with the same patterns find the same route for
     every request, and as one route belongs to one frontend, proxies with the same table answer
     alike, whatever numbers their routes lead to.
-/
import Turnpike.Proofs.Proxy.Playback
import Turnpike.Proofs.Route.Order
import Turnpike.Proofs.Route.Precedence

namespace Turnpike.Entity

open Turnpike.Route

/-- The route of the frontend serves the request. -/
def Frontend.Answers (f : Frontend) (method : Http.Method) (host : Option String)
    (path : String) : Prop :=
  ∃ pattern params, Pattern.parse f.route = .ok pattern ∧
    (Entry.ofPattern pattern ()).Serves AtBorder ⟨method, host⟩ path params

end Turnpike.Entity

namespace Turnpike.Proxy

open Turnpike.Entity Turnpike.Route

/-- The frontends in the order of their routes. -/
def table (p : Proxy) : List Frontend :=
  p.router.entries.filterMap fun e => (p.service? e.target).map (·.spec)

/-- The frontend that answers a request. -/
def answer? (p : Proxy) (method : Http.Method) (host : Option String) (path : String) :
    Option Frontend :=
  (p.route? method host path).map (·.1.spec)

section Tied

variable {p q : Proxy} {method : Http.Method} {host : Option String} {path : String}

/-- The table holds the frontends in service. -/
theorem mem_table (h : p.skeleton.Tied) {f : Frontend} :
    f ∈ p.table ↔ ∃ s, p.frontends.get? f.id = some s ∧ s.spec = f := by
  unfold table
  rw [List.mem_filterMap]
  constructor
  · rintro ⟨e, he, hf⟩
    obtain ⟨id, s, hs, hservice, -⟩ := exists_service h he
    rw [hservice, Option.map_some] at hf
    obtain rfl := Option.some.inj hf
    have hid : s.spec.id = id := h.names id s.face (get?_services hs)
    exact ⟨s, by rw [hid]; exact hs, rfl⟩
  · rintro ⟨s, hs, rfl⟩
    obtain ⟨e, he, hservice, -⟩ := exists_entry h hs
    exact ⟨e, he, by rw [hservice, Option.map_some]⟩

/-- Two frontends in service do not have the same identifier. -/
theorem eq_of_mem_table (h : p.skeleton.Tied) {f f' : Frontend} (hf : f ∈ p.table)
    (hf' : f' ∈ p.table) (hid : f.id = f'.id) : f = f' := by
  obtain ⟨s, hs, rfl⟩ := (mem_table h).mp hf
  obtain ⟨s', hs', rfl⟩ := (mem_table h).mp hf'
  rw [hid, hs'] at hs
  rw [Option.some.inj hs]

/-- Two frontends in service do not have the same route. -/
theorem eq_of_canonical? (h : p.skeleton.Tied) {f f' : Frontend} (hf : f ∈ p.table)
    (hf' : f' ∈ p.table) (hroute : canonical? f.route = canonical? f'.route) : f = f' := by
  obtain ⟨s, hs, rfl⟩ := (mem_table h).mp hf
  obtain ⟨s', hs', rfl⟩ := (mem_table h).mp hf'
  exact eq_of_mem_table h hf hf' (id_eq_of_route h hs hs' hroute)

/-- What a route leads to, when a request finds it. -/
theorem answer?_of_route? (h : p.skeleton.Tied) {m : Match Nat}
    (hm : p.router.route? method host path = some m) :
    ∃ f ∈ p.table, p.answer? method host path = some f ∧ canonical? f.route = some m.route ∧
      f.Answers method host path := by
  -- the route that wins leads to a service
  obtain ⟨e, params, hwins, rfl⟩ := h.router.exists_wins hm
  obtain ⟨id, s, hs, hservice, hparse⟩ := exists_service h hwins.mem
  have hserves := ((h.router.fit?_eq_some_iff hwins.mem).mp hwins.fit).2
  have hid : s.spec.id = id := h.names id s.face (get?_services hs)
  refine ⟨s.spec, (mem_table h).mpr ⟨s, by rw [hid]; exact hs, rfl⟩, ?_, ?_,
    ⟨e.pattern, params, hparse, hserves⟩⟩
  · unfold answer? route?
    rw [hm]
    show ((p.service? e.target).map _).map _ = _
    rw [hservice]
    rfl
  · rw [canonical?, hparse]
    rfl

/-- A frontend answers only requests that its route serves. -/
theorem mem_of_answer? (h : p.skeleton.Tied) {f : Frontend}
    (hf : p.answer? method host path = some f) : f ∈ p.table ∧ f.Answers method host path := by
  cases hm : p.router.route? method host path with
  | none =>
    unfold answer? route? at hf
    rw [hm] at hf
    cases hf
  | some m =>
    obtain ⟨f', hmem, hanswer, -, hanswers⟩ := answer?_of_route? h hm
    rw [hf] at hanswer
    obtain rfl := Option.some.inj hanswer
    exact ⟨hmem, hanswers⟩

/-- No frontend answers when there is none whose route serves the request. -/
theorem answer?_eq_none_iff (h : p.skeleton.Tied) :
    p.answer? method host path = none ↔ ∀ f ∈ p.table, ¬ f.Answers method host path := by
  constructor
  · rintro hnone f hf ⟨pattern, params, hparse, hserves⟩
    obtain ⟨s, hs, rfl⟩ := (mem_table h).mp hf
    obtain ⟨e, he, -, hparse'⟩ := exists_entry h hs
    rw [hparse] at hparse'
    obtain rfl := Except.ok.inj hparse'
    -- its route is in the router and serves the request, so something is found
    obtain ⟨m, hm⟩ : ∃ m, p.router.route? method host path = some m :=
      h.router.isSome_route? he hserves
    obtain ⟨f, -, hanswer, -⟩ := answer?_of_route? h hm
    rw [hnone] at hanswer
    cases hanswer
  · intro hnone
    cases hanswer : p.answer? method host path with
    | none => rfl
    | some f =>
      obtain ⟨hmem, hanswers⟩ := mem_of_answer? h hanswer
      exact absurd hanswers (hnone f hmem)

/-- The routes of the frontends in the table are the patterns of the router, in their order. -/
theorem map_table (h : p.skeleton.Tied) :
    p.table.map (fun f => (Pattern.parse f.route).toOption) =
      p.router.entries.map fun e => some e.pattern := by
  have hall : ∀ e ∈ p.router.entries, ∃ s, p.service? e.target = some s ∧
      Pattern.parse s.spec.route = .ok e.pattern := by
    intro e he
    obtain ⟨id, s, -, hservice, hparse⟩ := exists_service h he
    exact ⟨s, hservice, hparse⟩
  unfold table
  -- on the routes, each of which leads to a service
  generalize p.router.entries = es at hall
  induction es with
  | nil => rfl
  | cons e es ih =>
    obtain ⟨s, hservice, hparse⟩ := hall e List.mem_cons_self
    rw [List.filterMap_cons, hservice, Option.map_some, List.map_cons, List.map_cons,
      ih fun d hd => hall d (List.mem_cons_of_mem e hd), hparse]
    rfl

/-- Proxies with the same table answer alike. -/
theorem answer?_congr (hp : p.skeleton.Tied) (hq : q.skeleton.Tied) (htable : p.table = q.table)
    (method : Http.Method) (host : Option String) (path : String) :
    p.answer? method host path = q.answer? method host path := by
  have hpatterns : p.router.entries.map (·.pattern) = q.router.entries.map (·.pattern) := by
    have hsome := map_table hp
    rw [htable, map_table hq] at hsome
    refine (List.map_injective_iff.mpr fun _ _ => Option.some.inj) ?_
    rw [List.map_map, List.map_map]
    exact hsome.symm
  have hsound : p.router.Sound := hp.router
  have hroute := hsound.route?_congr hq.router hpatterns method host path
  cases hm : p.router.route? method host path with
  | none =>
    rw [hm, Option.map_none] at hroute
    have hnone : q.router.route? method host path = none := Option.map_eq_none_iff.mp hroute.symm
    unfold answer? route?
    rw [hm, hnone]
  | some m =>
    rw [hm, Option.map_some] at hroute
    obtain ⟨m', hm', hkey⟩ := Option.map_eq_some_iff.mp hroute.symm
    obtain ⟨f, hf, hanswer, hcanonical, -⟩ := answer?_of_route? hp hm
    obtain ⟨f', hf', hanswer', hcanonical', -⟩ := answer?_of_route? hq hm'
    -- one route belongs to one frontend
    have hsame : f = f' := by
      rw [htable] at hf
      refine eq_of_canonical? hq hf hf' ?_
      rw [hcanonical, hcanonical', hkey]
    rw [hanswer, hanswer', hsame]

end Tied

end Turnpike.Proxy
