/-
  Searching the trie is searching its routes.

  The search goes down with the path and shares the work of common prefixes.  When a branch turns
  out to lead nowhere it goes back and tries the next one.  Its answer is that of a plain walk over
  the routes, in which every one is matched on its own from the beginning (`find?_eq`).

  1. **The walk.**  `Forest.fit?` matches one route, and `Forest.routes` lists them in the order in
     which the search meets them.  So the search takes the first one that fits.

  2. **One node.**  Routes that end at a node are matched by its key alone, and then the leaves are
     tried in their order (`findSome?_leaves`).  For those that go on below, the key is taken off
     the path, and what it captured put before what they capture (`findSome?_children`).

  3. **The forest.**  By induction, for all paths at once.  The search looks at the leaves of a node
     only when the path is used up, and at its children only when it is not.  The walk tries both;
     but of a path that is used up no longer route can match anything (`capture?_nil_right`).

  What a branch captured before it was given up has no part in the answer, since each route is
  matched on its own.
-/
import Turnpike.Proofs.Route.Spelling
import Turnpike.Proofs.Route.Trie

namespace Turnpike.Route.Forest

variable {β : Type}

/-- The leaf of a route with what it captures of a path, if the leaf is acceptable and the route
    matches. -/
def fit? (accepts : β → Bool) (bytes : List UInt8) (r : List Segment × β) :
    Option (β × List (String × String)) :=
  if accepts r.2 then (capture? r.1 bytes).map (r.2, ·) else none

/-- A route fits when its leaf is acceptable and its path captures. -/
theorem fit?_eq_some {accepts : β → Bool} {bytes : List UInt8} {r : List Segment × β} {leaf : β}
    {params : List (String × String)} :
    fit? accepts bytes r = some (leaf, params) ↔
      r.2 = leaf ∧ accepts leaf ∧ capture? r.1 bytes = some params := by
  unfold fit?
  constructor
  · intro h
    split at h
    case isTrue ha =>
      obtain ⟨params', hc, he⟩ := Option.map_eq_some_iff.mp h
      cases he
      exact ⟨rfl, ha, hc⟩
    case isFalse => cases h
  · rintro ⟨rfl, ha, hc⟩
    rw [if_pos ha, hc, Option.map_some]

/-! ## One node -/

/-- A single segment must take all of the path. -/
theorem capture?_singleton (key : Segment) (bytes : List UInt8) :
    capture? [key] bytes = (take? key bytes).bind fun x => if x.2 = [] then some x.1 else none := by
  rw [capture?]
  cases take? key bytes with
  | none => rfl
  | some x =>
    obtain ⟨captured, rest⟩ := x
    cases rest with
    | nil => simp [capture?]
    | cons b r => simp [capture?]

/-- Of a path that is used up nothing more can be matched. -/
theorem capture?_nil_right {path : List Segment} (h : path ≠ []) : capture? path [] = none := by
  obtain ⟨s, p, rfl⟩ := List.exists_cons_of_ne_nil h
  cases s <;> rfl

/-- Among the routes that end at a node the first acceptable leaf is found. -/
theorem findSome?_leaves (accepts : β → Bool) (bytes : List UInt8) (key : Segment)
    (leaves : List β) :
    (leaves.map ([key], ·)).findSome? (fit? accepts bytes) =
      (capture? [key] bytes).bind fun params => (leaves.find? accepts).map (·, params) := by
  induction leaves with
  | nil => cases capture? [key] bytes <;> rfl
  | cons leaf leaves ih =>
    rw [List.map_cons, List.findSome?_cons, ih, fit?]
    cases hc : capture? [key] bytes with
    | none => simp
    | some params => cases ha : accepts leaf <;> simp [ha]

/-- Routes below a node are matched with what its key leaves. -/
theorem findSome?_children (accepts : β → Bool) (bytes : List UInt8) (key : Segment)
    (rs : List (List Segment × β)) :
    (rs.map fun r => (key :: r.1, r.2)).findSome? (fit? accepts bytes) =
      (take? key bytes).bind fun x =>
        (rs.findSome? (fit? accepts x.2)).map fun y => (y.1, x.1 ++ y.2) := by
  induction rs with
  | nil => cases take? key bytes <;> rfl
  | cons r rs ih =>
    rw [List.map_cons, List.findSome?_cons, ih, fit?, capture?]
    -- if the key does not match, none of the routes does
    cases take? key bytes with
    | none => simp
    | some x =>
      simp only [List.findSome?_cons, fit?, Option.bind_some]
      cases ha : accepts r.2 with
      | false => simp
      | true => cases hc : capture? r.1 x.2 <;> simp

/-! ## The whole forest -/

/-- The search finds what a walk over all routes finds. -/
theorem find?_eq (accepts : β → Bool) (t : Forest β) (bytes : List UInt8) :
    t.find? accepts bytes = t.routes.findSome? (fit? accepts bytes) := by
  induction t generalizing bytes with
  | nil => rfl
  | node key leaves children siblings ihc ihs =>
    rw [find?, routes, List.findSome?_append, List.findSome?_append, findSome?_leaves,
      findSome?_children, capture?_singleton, ihs]
    cases htake : take? key bytes with
    | none => rfl
    | some x =>
      obtain ⟨captured, rest⟩ := x
      dsimp only [Option.bind_some]
      by_cases hr : rest = []
      · -- the leaves count, and the children cannot match any more
        subst hr
        have hnone : children.routes.findSome? (fit? accepts []) = none := by
          rw [List.findSome?_eq_none_iff]
          intro r hr
          rw [fit?, capture?_nil_right (ne_nil_of_mem_routes hr)]
          simp
        rw [hnone]
        cases leaves.find? accepts <;> simp
      · -- the leaves do not count
        rw [ihc]
        cases children.routes.findSome? (fit? accepts rest) <;> simp [hr]

end Turnpike.Route.Forest
