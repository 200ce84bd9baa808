/-
  The order of routes is all that counts.

  A look-up goes through the routes in the order in which a search meets them in the trie.  That
  order comes from the order in which the routes were put, but it is not the same.  What else might
  it depend on?  Not on what hangs at the leaves, it turns out, and so not on the targets of routes.

  1. **Other leaves** (`Forest.relabel`).  Two lists of routes have the same paths in the same order
     when they become one list after something has been done to the leaves of each.  Picking out the
     routes that end at a node, go on below it, or pass beside it keeps that (`leaves_relabel`,
     `below_relabel`, `beside_relabel`).

  2. **Forests** (`Holds.map_routes`).  So two forests that hold such lists have the same shape, by
     induction on one of them: their first nodes have the same key, since it is that of the first
     route.

  3. **Routers** (`Sound.route?_congr`).  A look-up sees only the pattern of a route until it is
     found.  So routers with the same patterns in the same order find the same routes.
-/
import Turnpike.Proofs.Lists
import Turnpike.Proofs.Route.Lookup

namespace Turnpike.Route

open Turnpike.Text Turnpike.Http

/-! ## Forests -/

namespace Forest

variable {β γ δ : Type} {f : β → δ} {g : γ → δ}

/-- A route with something else at its leaf. -/
def relabel (f : β → δ) (r : List Segment × β) : List Segment × δ := (r.1, f r.2)

/-- Whether a route ends at a node has nothing to do with its leaf. -/
theorem leafAt?_relabel (key : Segment) (r : List Segment × β) :
    leafAt? key (relabel f r) = (leafAt? key r).map f := by
  unfold leafAt? relabel
  split
  · rfl
  · rfl

/-- Nor has whether it goes on below it. -/
theorem below?_relabel (key : Segment) (r : List Segment × β) :
    below? key (relabel f r) = (below? key r).map (relabel f) := by
  unfold below?
  rw [apply_ite (Option.map (relabel f))]
  rfl

/-- Of such lists the same routes end at a node. -/
theorem leaves_relabel {L : List (List Segment × β)} {M : List (List Segment × γ)}
    (h : L.map (relabel f) = M.map (relabel g)) (key : Segment) :
    (L.filterMap (leafAt? key)).map f = (M.filterMap (leafAt? key)).map g := by
  have hleaves := congrArg (List.filterMap (leafAt? key)) h
  simpa only [List.filterMap_map, List.map_filterMap, Function.comp_def, leafAt?_relabel]
    using hleaves

/-- The same go on below it. -/
theorem below_relabel {L : List (List Segment × β)} {M : List (List Segment × γ)}
    (h : L.map (relabel f) = M.map (relabel g)) (key : Segment) :
    (L.filterMap (below? key)).map (relabel f) = (M.filterMap (below? key)).map (relabel g) := by
  have hbelow := congrArg (List.filterMap (below? key)) h
  simpa only [List.filterMap_map, List.map_filterMap, Function.comp_def, below?_relabel]
    using hbelow

/-- And the same pass beside it. -/
theorem beside_relabel {L : List (List Segment × β)} {M : List (List Segment × γ)}
    (h : L.map (relabel f) = M.map (relabel g)) (key : Segment) :
    (L.filter (!through key ·)).map (relabel f) = (M.filter (!through key ·)).map (relabel g) := by
  have hbeside := congrArg (List.filter (!through key ·)) h
  rw [List.filter_map, List.filter_map] at hbeside
  exact hbeside

/-- The first node belongs to the first segment of the first path. -/
theorem key_of_relabel {L : List (List Segment × β)} {M : List (List Segment × γ)}
    (h : L.map (relabel f) = M.map (relabel g)) {key key' : Segment}
    (hL : L.head?.any (through key) = true) (hM : M.head?.any (through key') = true) :
    key = key' := by
  cases L with
  | nil => cases hL
  | cons r L =>
    cases M with
    | nil => cases hM
    | cons r' M =>
      have hpath : r.1 = r'.1 := congrArg Prod.fst (List.cons.inj h).1
      have hkey : r.1.head? = some key := by simpa [through] using hL
      have hkey' : r'.1.head? = some key' := by simpa [through] using hM
      rw [hpath, hkey'] at hkey
      exact (Option.some.inj hkey).symm

/-- The paths and their order say in which order a search meets the routes. -/
theorem Holds.map_routes {L : List (List Segment × β)} {M : List (List Segment × γ)}
    {t : Forest β} {u : Forest γ} (ht : Holds L t) (hu : Holds M u)
    (h : L.map (relabel f) = M.map (relabel g)) :
    t.routes.map (relabel f) = u.routes.map (relabel g) := by
  -- the first list decides where the first node comes from, and the other one agrees
  induction t generalizing L M u with
  | nil =>
    rw [Holds] at ht
    subst ht
    have hnil : M = [] := List.map_eq_nil_iff.mp h.symm
    subst hnil
    cases u with
    | nil => rfl
    | node => exact absurd hu.1 (by simp)
  | node key leaves children siblings ihc ihs =>
    obtain ⟨hhead, rfl, hchildren, hsiblings⟩ := ht
    cases u with
    | nil =>
      rw [Holds] at hu
      subst hu
      have hnil : L = [] := List.map_eq_nil_iff.mp h
      subst hnil
      exact absurd hhead (by simp)
    | node key' leaves' children' siblings' =>
      obtain ⟨hhead', rfl, hchildren', hsiblings'⟩ := hu
      obtain rfl : key = key' := key_of_relabel h hhead hhead'
      have hleaves := congrArg (List.map fun x => ([key], x)) (leaves_relabel h key)
      have hbelow := congrArg (List.map fun r => (key :: r.1, r.2))
        (ihc hchildren hchildren' (below_relabel h key))
      have hbeside := ihs hsiblings hsiblings' (beside_relabel h key)
      rw [List.map_map, List.map_map] at hleaves hbelow
      rw [routes, routes, List.map_append, List.map_append, List.map_append, List.map_append,
        List.map_map, List.map_map, List.map_map, List.map_map, hbeside]
      exact congrArg (· ++ _) (congrArg₂ (· ++ ·) hleaves hbelow)

end Forest

/-! ## Routers -/

namespace Router

variable {α : Type} {r r' : Router α}

/-- Routers with the same patterns in the same order find the same routes. -/
theorem Sound.route?_congr (h : r.Sound) (h' : r'.Sound)
    (hpatterns : r.entries.map (·.pattern) = r'.entries.map (·.pattern)) (method : Method)
    (host : Option String) (path : String) :
    (r.route? method host path).map (·.route) = (r'.route? method host path).map (·.route) := by
  have hroutes : r.trie.routes.map (Forest.relabel (·.pattern)) =
      r'.trie.routes.map (Forest.relabel (·.pattern)) := by
    refine h.held.map_routes h'.held ?_
    have hleaves := congrArg (List.map fun p : Pattern => (p.path, p)) hpatterns
    rw [List.map_map, List.map_map] at hleaves ⊢
    exact hleaves
  -- a walk over the routes sees only their patterns
  have hwalk {x : Router α} (hx : x.Sound) : (x.route? method host path).map (·.route) =
      (x.trie.routes.map (Forest.relabel (·.pattern))).findSome? fun leaf =>
        (Forest.fit? (fun p => p.filter.accepts ⟨method, host⟩)
          (Utf8.bytes (readPath path)) leaf).map (·.1.canonical) := by
    rw [route?_eq, Option.map_map, List.map_findSome?, List.findSome?_map]
    refine Lists.findSome?_congr fun leaf hleaf => ?_
    obtain ⟨e, he, rfl⟩ := hx.mem_routes_iff.mp hleaf
    obtain ⟨s, t, -, hentry⟩ := hx.parsed e he
    have hfilter : e.filter = e.pattern.filter := by rw [hentry]; rfl
    show (Forest.fit? _ _ (leafOf e)).map _ = (Forest.fit? _ _ (e.pattern.path, e.pattern)).map _
    unfold Forest.fit? leafOf
    simp only [hfilter]
    split
    case isTrue => rw [Option.map_map, Option.map_map]; rfl
    case isFalse => rfl
  rw [hwalk h, hwalk h', hroutes]

end Router

end Turnpike.Route
