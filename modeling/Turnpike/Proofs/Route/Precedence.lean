/-
  Which route wins when several serve a request.

  Routes that are added one after the other stand in the order in which they were added, and one
  would think that of several that serve a request the earliest wins.  It does in most cases, but
  not in all.  The trie keeps routes that begin alike together, so a younger route may stand before
  an older one, if it begins as an even older one does.

  1. **Overtaking** (`Overtakes`).  The paths of two routes part at one place only (`fork_unique`).
     The younger one overtakes when its branch at that place had been opened before, by a route that
     is older than every one through the branch of the other.  This cannot go both ways
     (`OpensFirst.asymm`).

  2. **The winner** (`Wins`).  It serves the request, and in the trie none that serves it stands
     before.  A look-up finds it (`Sound.exists_wins`), and compared to any other that serves the
     request it has the same path or overtakes it (`Sound.wins_cases`): one path cannot go on behind
     the other, since both match all of the request's path.

  3. **One path.**  Routes of the same path stand in the trie as they were added.  So among them the
     earliest wins (`Sound.wins_of_path`).

  4. **Outcome** (`route?_earliest_iff`).  The earliest route that serves a request wins exactly
     when no younger one that serves it overtakes it.

  5. **An example** (`crossing`).  Three routes are enough for the earliest to lose
     (`route?_passes_over_earliest`).
-/
import Mathlib.Data.List.Nodup
import Turnpike.Proofs.Route.Lookup

namespace Turnpike.Route

open Turnpike.Text Turnpike.Http

/-! ## Where paths part -/

/-- Two paths part at one place only. -/
theorem fork_unique {c d p q p' q' : List Segment} {s t s' t' : Segment} (hst : s ≠ t)
    (hst' : s' ≠ t') (hp : c ++ s :: p = d ++ s' :: p') (hq : c ++ t :: q = d ++ t' :: q') :
    c = d ∧ s = s' ∧ t = t' := by
  -- along both common parts at once: neither can end before the other
  induction c generalizing d with
  | nil =>
    cases d with
    | nil => exact ⟨rfl, (List.cons.inj hp).1, (List.cons.inj hq).1⟩
    | cons a d =>
      have hs : s = a := (List.cons.inj hp).1
      have ht : t = a := (List.cons.inj hq).1
      exact absurd (hs.trans ht.symm) hst
  | cons a c ih =>
    cases d with
    | nil =>
      have hs : a = s' := (List.cons.inj hp).1
      have ht : a = t' := (List.cons.inj hq).1
      exact absurd (hs.symm.trans ht) hst'
    | cons b d =>
      obtain ⟨hab, hp⟩ := List.cons.inj hp
      obtain ⟨-, hq⟩ := List.cons.inj hq
      obtain ⟨rfl, hs, ht⟩ := ih hp hq
      exact ⟨by rw [hab], hs, ht⟩

namespace Forest

variable {β : Type} {L : List (List Segment × β)} {p q : List Segment}

/-- Two branches do not open before each other. -/
theorem OpensFirst.asymm (h : OpensFirst L p q) : ¬ OpensFirst L q p := by
  obtain ⟨c, s, t, p₁, q₁, hp, hq, hst, hlt⟩ := h
  rintro ⟨d, t', s', q₂, p₂, hq', hp', hst', hlt'⟩
  obtain ⟨rfl, rfl, rfl⟩ := fork_unique hst hst'.symm (hp.symm.trans hp') (hq.symm.trans hq')
  exact Nat.lt_asymm hlt hlt'

end Forest

/-- Of two paths that match, none goes on behind the other. -/
theorem eq_of_prefix_of_capture? {p q : List Segment} {bytes : List UInt8}
    (hp : (capture? p bytes).isSome) (hq : (capture? q bytes).isSome) (h : p <+: q) : p = q := by
  obtain ⟨rest, rfl⟩ := h
  suffices rest = [] by rw [this, List.append_nil]
  induction p generalizing bytes with
  | nil =>
    cases bytes with
    | cons b r => cases hp
    | nil =>
      by_cases hrest : rest = []
      · exact hrest
      · rw [List.nil_append, Forest.capture?_nil_right hrest] at hq
        cases hq
  | cons s p ih =>
    rw [List.cons_append, capture?] at hq
    rw [capture?] at hp
    cases htake : Forest.take? s bytes with
    | none => rw [htake] at hp; cases hp
    | some x =>
      rw [htake] at hp hq
      exact ih (by simpa using hp) (by simpa using hq)

namespace Router

variable {α : Type}

/-! ## Routers of routes -/

/-- The router of these routes, added one after the other; an error when one cannot be added. -/
def ofRoutes (routes : List (String × α)) : Result (Router α) :=
  routes.foldlM (fun r x => r.add x.1 x.2) empty

/-- Routes that can be added one after the other leave a router sound. -/
theorem Sound.foldlM_add {routes : List (String × α)} {r r' : Router α} (h : r.Sound)
    (hr : routes.foldlM (fun r x => r.add x.1 x.2) r = .ok r') : r'.Sound := by
  induction routes generalizing r with
  | nil =>
    cases hr
    exact h
  | cons x routes ih =>
    rw [List.foldlM_cons] at hr
    obtain ⟨r₁, hadd, hrest⟩ := Result.bind_eq_ok.mp hr
    exact ih (h.add hadd) hrest

theorem sound_ofRoutes {routes : List (String × α)} {r : Router α} (h : ofRoutes routes = .ok r) :
    r.Sound := Sound.foldlM_add .empty h

/-! ## The winner -/

theorem Sound.eq_of_key {r : Router α} (h : r.Sound) {d e : Entry α} (hd : d ∈ r.entries)
    (he : e ∈ r.entries) (hk : d.key = e.key) : d = e :=
  List.inj_on_of_nodup_map h.keys hd he hk

/-- The two paths part, and of the two branches that of `f` was opened first. -/
def Overtakes (r : Router α) (f e : Entry α) : Prop :=
  Forest.OpensFirst (r.entries.map leafOf) f.pattern.path e.pattern.path

/-- What the trie makes of a request, route by route. -/
def fits (v : View) (path : String) :
    List Segment × Entry α → Option (Entry α × List (String × String)) :=
  Forest.fit? (fun e => e.filter.accepts v) (Utf8.bytes (readPath path))

/-- The entry serves the request, and in the trie none that serves it stands before. -/
structure Wins (r : Router α) (v : View) (path : String) (d : Entry α)
    (params : List (String × String)) : Prop where
  mem : d ∈ r.entries
  fit : fits v path (leafOf d) = some (d, params)
  first : ∃ a b, r.trie.routes = a ++ leafOf d :: b ∧ ∀ x ∈ a, fits v path x = none

/-- A look-up finds the winner. -/
theorem Sound.exists_wins {r : Router α} (h : r.Sound) {method : Method} {host : Option String}
    {path : String} {m : Match α} (hm : r.route? method host path = some m) :
    ∃ d params, r.Wins ⟨method, host⟩ path d params ∧ m = ⟨d.target, d.key, params⟩ := by
  rw [route?_eq] at hm
  obtain ⟨⟨d', params⟩, hfound, rfl⟩ := Option.map_eq_some_iff.mp hm
  obtain ⟨a, x, b, hsplit, hx, ha⟩ := List.findSome?_eq_some_iff.mp hfound
  have hxmem : x ∈ r.trie.routes := by rw [hsplit]; exact List.mem_append_right _ List.mem_cons_self
  obtain ⟨d, hd, rfl⟩ := h.mem_routes_iff.mp hxmem
  obtain ⟨rfl, -⟩ := (h.fit?_eq_some_iff hd).mp hx
  exact ⟨d, params, ⟨hd, hx, a, b, hsplit, ha⟩, rfl⟩

/-- Where an entry serves the request, something is found. -/
theorem Sound.isSome_route? {r : Router α} (h : r.Sound) {e : Entry α} (he : e ∈ r.entries)
    {method : Method} {host : Option String} {path : String} {params : List (String × String)}
    (hs : e.Serves AtBorder ⟨method, host⟩ path params) :
    ∃ m, r.route? method host path = some m := by
  rw [route?_eq, ← Option.isSome_iff_exists, Option.isSome_map, List.findSome?_isSome_iff]
  refine ⟨leafOf e, h.mem_routes_iff.mpr ⟨e, he, rfl⟩, ?_⟩
  rw [(h.fit?_eq_some_iff he).mpr ⟨rfl, hs⟩]
  rfl

/-- The winner has the path of any other that serves the request, or overtakes it. -/
theorem Sound.wins_cases {r : Router α} (h : r.Sound) {v : View} {path : String} {d e : Entry α}
    {params params' : List (String × String)} (hd : r.Wins v path d params) (he : e ∈ r.entries)
    (hs : e.Serves AtBorder v path params') :
    d.pattern.path = e.pattern.path ∨ r.Overtakes d e := by
  obtain ⟨a, b, hsplit, ha⟩ := hd.first
  have hfit := (h.fit?_eq_some_iff he).mpr ⟨rfl, hs⟩
  have hleaf := h.mem_routes_iff.mpr ⟨e, he, rfl⟩
  rw [hsplit, List.mem_append, List.mem_cons] at hleaf
  -- before the winner none fits, so it is the winner or stands behind it
  rcases hleaf with hmem | heq | hmem
  · have hnone := ha _ hmem
    rw [fits, hfit] at hnone
    cases hnone
  · exact Or.inl (congrArg Prod.fst heq).symm
  · have hpair := h.held.pairwise
    rw [hsplit, List.pairwise_append, List.pairwise_cons] at hpair
    rcases hpair.2.1.1 _ hmem with hpre | hopens
    · -- both paths match the whole request path
      obtain ⟨-, -, hcd⟩ := Forest.fit?_eq_some.mp hd.fit
      obtain ⟨-, -, hce⟩ := Forest.fit?_eq_some.mp hfit
      exact Or.inl (eq_of_prefix_of_capture? (Option.isSome_of_eq_some hcd)
        (Option.isSome_of_eq_some hce) hpre)
    · exact Or.inr hopens

/-- Leaving things out does not change what is found first, if that is not left out. -/
theorem findSome?_filter_append {γ δ : Type} {f : γ → Option δ} (keep : γ → Bool) {a b : List γ}
    {x : γ} {y : δ} (ha : ∀ z ∈ a, f z = none) (hx : f x = some y) (hk : keep x = true) :
    ((a ++ x :: b).filter keep).findSome? f = some y := by
  have hnone : (a.filter keep).findSome? f = none :=
    List.findSome?_eq_none_iff.mpr fun z hz => ha z (List.mem_filter.mp hz).1
  rw [List.filter_append, List.findSome?_append, hnone, List.filter_cons_of_pos hk,
    List.findSome?_cons, hx]
  rfl

/-- Among entries of one path the winner is the earliest that serves the request. -/
theorem Sound.wins_of_path {r : Router α} (h : r.Sound) {v : View} {path : String} {d e : Entry α}
    {params params' : List (String × String)} (hd : r.Wins v path d params)
    {older younger : List (Entry α)} (hr : r.entries = older ++ e :: younger)
    (hs : e.Serves AtBorder v path params')
    (hfirst : ∀ c ∈ older, ∀ ps, ¬ c.Serves AtBorder v path ps)
    (hpath : d.pattern.path = e.pattern.path) : d = e ∧ params = params' := by
  obtain ⟨a, b, hsplit, ha⟩ := hd.first
  have he : e ∈ r.entries := by rw [hr]; exact List.mem_append_right _ List.mem_cons_self
  have hfit : fits v path (leafOf e) = some (e, params') :=
    (h.fit?_eq_some_iff he).mpr ⟨rfl, hs⟩
  have hnone : ∀ z ∈ older.map leafOf, fits v path z = none := by
    intro z hz
    obtain ⟨c, hc, rfl⟩ := List.mem_map.mp hz
    have hcmem : c ∈ r.entries := by rw [hr]; exact List.mem_append_left _ hc
    cases hcfit : fits v path (leafOf c) with
    | none => rfl
    | some y => exact absurd ((h.fit?_eq_some_iff hcmem).mp hcfit).2 (hfirst c hc _)
  -- the routes of one path stand in the trie as they stand in the table
  have hroutes := h.held.routes_filter (h.path_ne_nil he)
  rw [hsplit, hr, List.map_append, List.map_cons] at hroutes
  have hfound := findSome?_filter_append (·.1 == e.pattern.path) (b := b) ha hd.fit
    (by rw [leafOf, hpath]; exact beq_self_eq_true _)
  rw [hroutes, findSome?_filter_append (·.1 == e.pattern.path) hnone hfit (beq_self_eq_true _)]
    at hfound
  cases hfound
  exact ⟨rfl, rfl⟩

/-! ## The earliest -/

/-- Of the routes that serve a request, the earliest wins unless a younger one overtakes it. -/
theorem route?_earliest_iff {routes : List (String × α)} {r : Router α}
    (h : ofRoutes routes = .ok r) {older younger : List (Entry α)} {e : Entry α}
    (hr : r.entries = older ++ e :: younger) {method : Method} {host : Option String}
    {path : String} {params : List (String × String)}
    (he : e.Serves AtBorder ⟨method, host⟩ path params)
    (hfirst : ∀ d ∈ older, ∀ ps, ¬ d.Serves AtBorder ⟨method, host⟩ path ps) :
    r.route? method host path = some ⟨e.target, e.key, params⟩ ↔
      ∀ f ∈ younger, ∀ ps, f.Serves AtBorder ⟨method, host⟩ path ps → ¬ r.Overtakes f e := by
  have hsound := sound_ofRoutes h
  have hmem : e ∈ r.entries := by rw [hr]; exact List.mem_append_right _ List.mem_cons_self
  constructor
  -- one that overtakes it would stand before it, and serve the request
  · intro hwins f hf ps hserves hover
    obtain ⟨d, ps', hd, hm⟩ := hsound.exists_wins hwins
    obtain rfl : e = d := hsound.eq_of_key hmem hd.mem (congrArg Match.route hm)
    have hfmem : f ∈ r.entries := by
      rw [hr]; exact List.mem_append_right _ (List.mem_cons_of_mem _ hf)
    rcases hsound.wins_cases hd hfmem hserves with hpath | hback
    · -- a path does not part from itself
      rw [Overtakes, hpath] at hover
      exact hover.asymm hover
    · exact hover.asymm hback
  · intro hyounger
    obtain ⟨m, hm⟩ := hsound.isSome_route? hmem he
    obtain ⟨d, ps, hd, rfl⟩ := hsound.exists_wins hm
    have hserves := ((hsound.fit?_eq_some_iff hd.mem).mp hd.fit).2
    -- only the younger ones could come before, and none of them overtakes
    have hpath : d.pattern.path = e.pattern.path := by
      rcases hsound.wins_cases hd hmem he with hpath | hover
      · exact hpath
      · have hdmem := hd.mem
        rw [hr, List.mem_append, List.mem_cons] at hdmem
        rcases hdmem with hd | rfl | hd
        · exact absurd hserves (hfirst d hd ps)
        · rfl
        · exact absurd hover (hyounger d hd ps hserves)
    obtain ⟨rfl, rfl⟩ := hsound.wins_of_path hd hr he hfirst hpath
    exact hm

/-! ## Three routes -/

/-- The first of these routes opens the branch of `<x>`, by which the third comes before the
    second. -/
def crossing : List (String × Nat) :=
  [("Path(`/<x>/a`)", 1), ("Path(`/b/c`)", 2), ("Path(`/<x>/c`)", 3)]

/-- Their entries. -/
def crossingEntries : List (Entry Nat) :=
  [.ofPattern ⟨none, none, [.byte 47, .param "x", .byte 47, .byte 97]⟩ 1,
    .ofPattern ⟨none, none, [.byte 47, .byte 98, .byte 47, .byte 99]⟩ 2,
    .ofPattern ⟨none, none, [.byte 47, .param "x", .byte 47, .byte 99]⟩ 3]

/-- They can be added, one after the other. -/
theorem ofRoutes_crossing : ofRoutes crossing = .ok (ofEntries crossingEntries) := by
  have s₁ : segments 0 ['/', '<', 'x', '>', '/', 'a'] =
      .ok [.byte 47, .param "x", .byte 47, .byte 97] := by
    rw [segments_char (by decide) (by decide), segments_param rfl rfl,
      segments_char (by decide) (by decide), segments_char (by decide) (by decide), segments]
    rfl
  have s₂ : segments 0 ['/', 'b', '/', 'c'] = .ok [.byte 47, .byte 98, .byte 47, .byte 99] := by
    rw [segments_char (by decide) (by decide), segments_char (by decide) (by decide),
      segments_char (by decide) (by decide), segments_char (by decide) (by decide), segments]
    rfl
  have s₃ : segments 0 ['/', '<', 'x', '>', '/', 'c'] =
      .ok [.byte 47, .param "x", .byte 47, .byte 99] := by
    rw [segments_char (by decide) (by decide), segments_param rfl rfl,
      segments_char (by decide) (by decide), segments_char (by decide) (by decide), segments]
    rfl
  have h₁ : (empty : Router Nat).add "Path(`/<x>/a`)" 1 =
      .ok (ofEntries (crossingEntries.take 1)) :=
    add_eq_ok.mpr ⟨_, parse_path _ rfl (by decide) (by decide) s₁, by decide, rfl⟩
  have h₂ : (ofEntries (crossingEntries.take 1)).add "Path(`/b/c`)" 2 =
      .ok (ofEntries (crossingEntries.take 2)) :=
    add_eq_ok.mpr ⟨_, parse_path _ rfl (by decide) (by decide) s₂, by decide, rfl⟩
  have h₃ : (ofEntries (crossingEntries.take 2)).add "Path(`/<x>/c`)" 3 =
      .ok (ofEntries crossingEntries) :=
    add_eq_ok.mpr ⟨_, parse_path _ rfl (by decide) (by decide) s₃, by decide, rfl⟩
  rw [ofRoutes, crossing, List.foldlM_cons, h₁]
  show List.foldlM _ (ofEntries (crossingEntries.take 1)) _ = _
  rw [List.foldlM_cons, h₂]
  show List.foldlM _ (ofEntries (crossingEntries.take 2)) _ = _
  rw [List.foldlM_cons, h₃]
  rfl

/-- The second serves a request for its path. -/
theorem crossing_second_serves :
    crossingEntries[1].Serves AtBorder ⟨.get, none⟩ "/b/c" [] := by
  have hbytes : Utf8.bytes (readPath "/b/c") = [47, 98, 47, 99] := by decide
  refine ⟨rfl, ?_⟩
  rw [hbytes]
  exact .byte 47 (.byte 98 (.byte 47 (.byte 99 .done)))

/-- The first does not. -/
theorem crossing_first_serves_not :
    ∀ d ∈ crossingEntries.take 1, ∀ ps, ¬ d.Serves AtBorder ⟨.get, none⟩ "/b/c" ps := by
  intro d hd ps hs
  obtain rfl := List.mem_singleton.mp hd
  have hnone : capture? [.byte 47, .param "x", .byte 47, .byte 97]
      (Utf8.bytes (readPath "/b/c")) = none := by decide
  have hsome : none = some ps := hnone.symm.trans hs.2.capture?
  cases hsome

/-- So the second wins unless the third overtakes it. -/
theorem route?_earliest_iff_crossing :
    (ofEntries crossingEntries).route? .get none "/b/c" =
        some ⟨2, crossingEntries[1].key, []⟩ ↔
      ∀ f ∈ crossingEntries.drop 2, ∀ ps, f.Serves AtBorder ⟨.get, none⟩ "/b/c" ps →
        ¬ (ofEntries crossingEntries).Overtakes f crossingEntries[1] :=
  route?_earliest_iff ofRoutes_crossing
    (show _ = crossingEntries.take 1 ++ crossingEntries[1] :: crossingEntries.drop 2 from rfl)
    crossing_second_serves crossing_first_serves_not

/-- The earliest route that serves a request does not always win: of the three routes above the
    third answers `/b/c`. -/
theorem route?_passes_over_earliest :
    ¬ ∀ (routes : List (String × Nat)) (r : Router Nat) (older younger : List (Entry Nat))
      (e : Entry Nat) (method : Method) (host : Option String) (path : String)
      (params : List (String × String)), ofRoutes routes = .ok r →
      r.entries = older ++ e :: younger → e.Serves AtBorder ⟨method, host⟩ path params →
      (∀ d ∈ older, ∀ ps, ¬ d.Serves AtBorder ⟨method, host⟩ path ps) →
      r.route? method host path = some ⟨e.target, e.key, params⟩ := by
  intro h
  have hsecond := h crossing _ (crossingEntries.take 1) (crossingEntries.drop 2)
    crossingEntries[1] .get none "/b/c" [] ofRoutes_crossing rfl crossing_second_serves
    crossing_first_serves_not
  -- the third is found, by running the look-up
  have hthird : ((ofEntries crossingEntries).route? .get none "/b/c").map Match.target = some 3 := by
    rw [route?_eq]
    decide
  rw [hsecond] at hthird
  exact absurd hthird (by decide)

end Router

end Turnpike.Route
