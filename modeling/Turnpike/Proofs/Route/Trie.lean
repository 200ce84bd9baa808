/-
  What a trie holds, and in which order.

  A trie is made by inserting routes one after the other, and each insertion merges a branch into
  it.  The shape that comes out depends on the order of insertion in a way that is hard to see from
  the merge.  Here it is described from the list of routes alone.

  1. **Routes** (`Forest.routes`).  The routes of a forest are listed as a search meets them.

  2. **Holding** (`Forest.Holds`).  `Holds L t` says that `t` is what becomes of the empty forest
     when the routes of `L` are inserted one after the other: the first node belongs to the first
     segment of the first route, its leaves and children to the routes that go through it, and its
     siblings to the routes that do not.  It is defined by recursion on the forest, and all that
     follows is proved along it.

  3. **Merging** (`Holds.merge`).  The merge of two forests holds the routes of the first and then
     those of the second.  A node that is taken out of the second has the routes through its key,
     and what is left holds the others in their order (`Holds.extract?_eq_some`).  So insertion
     keeps `Holds` (`Holds.insert`).

  4. **What there is.**  Nothing is lost and nothing appears (`Holds.routes_perm`), and routes of
     one path stay in the order of `L` (`Holds.routes_filter`).

  5. **In which order** (`Holds.pairwise`).  Routes of different paths stand in another order: where
     two paths part, that one comes first whose branch was opened by the earlier route, whichever of
     the two is older itself (`OpensFirst`).
-/
import Turnpike.Route.Trie

namespace Turnpike.Route.Forest

variable {β : Type}

/-! ## The routes of a forest -/

/-- The routes of a forest, each with its path, in the order in which a search meets them. -/
def routes : Forest β → List (List Segment × β)
  | nil => []
  | node key leaves children siblings =>
    leaves.map ([key], ·) ++ children.routes.map (fun r => (key :: r.1, r.2)) ++ siblings.routes

/-- No route of a forest has the empty path. -/
theorem ne_nil_of_mem_routes {t : Forest β} {r : List Segment × β} (h : r ∈ t.routes) :
    r.1 ≠ [] := by
  induction t with
  | nil => exact absurd h List.not_mem_nil
  | node key leaves children siblings _ ihs =>
    rw [routes, List.mem_append, List.mem_append, List.mem_map, List.mem_map] at h
    rcases h with (⟨l, -, rfl⟩ | ⟨r, -, rfl⟩) | h
    · exact List.cons_ne_nil _ _
    · exact List.cons_ne_nil _ _
    · exact ihs h

/-! ## Routes at, below and beside a node -/

/-- The leaf of a route that ends at the node of that key. -/
def leafAt? (key : Segment) (r : List Segment × β) : Option β :=
  if r.1 = [key] then some r.2 else none

/-- What is left of a route below the node of that key. -/
def below? (key : Segment) (r : List Segment × β) : Option (List Segment × β) :=
  if r.1.head? = some key ∧ r.1.tail ≠ [] then some (r.1.tail, r.2) else none

/-- Does a route begin with that key? -/
def through (key : Segment) (r : List Segment × β) : Bool := r.1.head? == some key

@[simp] theorem leafAt?_cons (key s : Segment) (p : List Segment) (leaf : β) :
    leafAt? key (s :: p, leaf) = if s = key ∧ p = [] then some leaf else none := by
  simp [leafAt?]

@[simp] theorem below?_cons (key s : Segment) (p : List Segment) (leaf : β) :
    below? key (s :: p, leaf) = if s = key ∧ p ≠ [] then some (p, leaf) else none := by
  simp [below?]

@[simp] theorem through_cons (key s : Segment) (p : List Segment) (leaf : β) :
    through key (s :: p, leaf) = (s == key) := by
  simp [through]

/-- The forest holds these routes, inserted in this order. -/
def Holds (L : List (List Segment × β)) : Forest β → Prop
  | nil => L = []
  | node key leaves children siblings =>
    L.head?.any (through key) = true ∧ leaves = L.filterMap (leafAt? key) ∧
      Holds (L.filterMap (below? key)) children ∧ Holds (L.filter (!through key ·)) siblings

theorem Holds.nil : Holds ([] : List (List Segment × β)) .nil := rfl

/-! ## Merging -/

/-- No route goes through two keys at one place. -/
theorem through_eq_false {k key : Segment} (hne : k ≠ key) {r : List Segment × β}
    (h : through k r = true) : through key r = false := by
  rw [through, beq_iff_eq] at h
  rw [through, h]
  exact beq_false_of_ne fun e => hne (Option.some.inj e)

/-- A route that does not go through a key does not end there. -/
theorem leafAt?_eq_none {key : Segment} {r : List Segment × β} (h : through key r = false) :
    leafAt? key r = none := by
  refine if_neg fun e => ?_
  rw [through, e, List.head?_cons, beq_self_eq_true] at h
  cases h

/-- Nor does it go on below it. -/
theorem below?_eq_none {key : Segment} {r : List Segment × β} (h : through key r = false) :
    below? key r = none := by
  refine if_neg fun e => ?_
  rw [through, e.1, beq_self_eq_true] at h
  cases h

/-- What is sought at one key is not found among the routes that go through another. -/
theorem filterMap_filter_through {γ : Type} {k key : Segment} (hne : k ≠ key)
    {f : List Segment × β → Option γ} (hf : ∀ r, through key r = false → f r = none)
    (L : List (List Segment × β)) : (L.filter (!through k ·)).filterMap f = L.filterMap f := by
  rw [List.filterMap_filter]
  refine congrArg (List.filterMap · L) (funext fun r => ?_)
  cases hr : through k r with
  | false => rfl
  | true => exact (hf r (through_eq_false hne hr)).symm

/-- A key that no node has is that of no route. -/
theorem Holds.extract?_eq_none {L : List (List Segment × β)} {t : Forest β} (h : Holds L t)
    {key : Segment} (ht : t.extract? key = none) : ∀ r ∈ L, through key r = false := by
  induction t generalizing L with
  | nil =>
    rw [Holds] at h
    subst h
    exact fun _ hr => absurd hr List.not_mem_nil
  | node k leaves children siblings _ ihs =>
    obtain ⟨-, -, -, hsiblings⟩ := h
    rw [extract?] at ht
    split at ht
    case isTrue => cases ht
    case isFalse hk =>
      intro r hr
      cases hthrough : through k r with
      | true => exact through_eq_false hk hthrough
      | false =>
        refine ihs hsiblings (Option.map_eq_none_iff.mp ht) r (List.mem_filter.mpr ⟨hr, ?_⟩)
        rw [hthrough]
        rfl

/-- A node that is taken out has the routes through its key, and what is left holds the others in
    their order. -/
theorem Holds.extract?_eq_some {L : List (List Segment × β)} {t : Forest β} (h : Holds L t)
    {key : Segment} {leaves : List β} {children rest : Forest β}
    (ht : t.extract? key = some ((leaves, children), rest)) :
    leaves = L.filterMap (leafAt? key) ∧ Holds (L.filterMap (below? key)) children ∧
      Holds (L.filter (!through key ·)) rest := by
  induction t generalizing L rest with
  | nil => cases ht
  | node k leaves' children' siblings _ ihs =>
    obtain ⟨hhead, hleaves, hchildren, hsiblings⟩ := h
    rw [extract?] at ht
    split at ht
    case isTrue hk =>
      subst hk
      cases ht
      exact ⟨hleaves, hchildren, hsiblings⟩
    case isFalse hk =>
      obtain ⟨⟨n, rest'⟩, hrest, he⟩ := Option.map_eq_some_iff.mp ht
      cases he
      -- it is one of the siblings, and they hold what does not go through this node
      obtain ⟨hl, hc, hr⟩ := ihs hsiblings hrest
      rw [filterMap_filter_through hk fun _ => leafAt?_eq_none] at hl
      rw [filterMap_filter_through hk fun _ => below?_eq_none] at hc
      refine ⟨hl, hc, ?_, ?_, ?_, ?_⟩
      · -- the first route does not go through `key`, so it stays the first
        cases L with
        | nil => cases hhead
        | cons r L =>
          have hthrough : through k r = true := hhead
          rw [List.filter_cons_of_pos (by rw [through_eq_false hk hthrough]; rfl)]
          exact hhead
      · rw [hleaves, filterMap_filter_through (Ne.symm hk) fun _ => leafAt?_eq_none]
      · rwa [filterMap_filter_through (Ne.symm hk) fun _ => below?_eq_none]
      · rw [List.filter_filter] at hr ⊢
        simpa only [Bool.and_comm] using hr

/-- The forest of all routes of two lists is the merge of their forests. -/
theorem Holds.merge {L M : List (List Segment × β)} {t u : Forest β} (ht : Holds L t)
    (hu : Holds M u) : Holds (L ++ M) (t.merge u) := by
  induction t generalizing L M u with
  | nil =>
    rw [Holds] at ht
    subst ht
    exact hu
  | node k leaves children siblings ihc ihs =>
    obtain ⟨hhead, hleaves, hchildren, hsiblings⟩ := ht
    have hhead' : (L ++ M).head?.any (through k) = true := by
      cases L with
      | nil => cases hhead
      | cons r L => exact hhead
    rw [Forest.merge]
    split
    case h_1 hnone =>
      -- no route of the second list goes through this node
      have hno := hu.extract?_eq_none hnone
      have hnoleaf : M.filterMap (leafAt? k) = [] :=
        List.filterMap_eq_nil_iff.mpr fun r hr => leafAt?_eq_none (hno r hr)
      have hnobelow : M.filterMap (below? k) = [] :=
        List.filterMap_eq_nil_iff.mpr fun r hr => below?_eq_none (hno r hr)
      have hall : M.filter (!through k ·) = M :=
        List.filter_eq_self.mpr fun r hr => by rw [hno r hr]; rfl
      refine ⟨hhead', ?_, ?_, ?_⟩
      · rw [List.filterMap_append, hnoleaf, List.append_nil, hleaves]
      · rwa [List.filterMap_append, hnobelow, List.append_nil]
      · rw [List.filter_append, hall]
        exact ihs hsiblings hu
    case h_2 leaves' children' rest hsome =>
      -- the node of that key gives up its leaves and children to this one
      obtain ⟨hl, hc, hr⟩ := hu.extract?_eq_some hsome
      refine ⟨hhead', ?_, ?_, ?_⟩
      · rw [List.filterMap_append, hleaves, hl]
      · rw [List.filterMap_append]
        exact ihc hchildren hc
      · rw [List.filter_append]
        exact ihs hsiblings hr

/-- A chain of nodes holds its route. -/
theorem Holds.branch {p : List Segment} (hp : p ≠ []) (leaf : β) :
    Holds [(p, leaf)] (branch leaf p) := by
  induction p with
  | nil => exact absurd rfl hp
  | cons s q ih =>
    cases q with
    | nil => simp [Forest.branch, Holds]
    | cons s' q => simpa [Forest.branch, Holds] using ih (List.cons_ne_nil s' q)

theorem Holds.insert {leaf : β} {p : List Segment} (hp : p ≠ []) {L : List (List Segment × β)}
    {t : Forest β} (h : Holds L t) : Holds (L ++ [(p, leaf)]) (t.insert leaf p) :=
  h.merge (.branch hp leaf)

/-! ## All routes -/

/-- The routes through a key end at its node or go on below it. -/
theorem through_perm (key : Segment) (L : List (List Segment × β)) :
    ((L.filterMap (leafAt? key)).map ([key], ·) ++
      (L.filterMap (below? key)).map fun r => (key :: r.1, r.2)).Perm (L.filter (through key)) := by
  induction L with
  | nil => exact .nil
  | cons r L ih =>
    cases hr : through key r with
    | false =>
      rw [List.filterMap_cons_none (leafAt?_eq_none hr), List.filterMap_cons_none
        (below?_eq_none hr), List.filter_cons_of_neg (by rw [hr]; decide)]
      exact ih
    | true =>
      obtain ⟨p, leaf⟩ := r
      obtain ⟨q, rfl⟩ : ∃ q, p = key :: q := List.head?_eq_some_iff.mp (eq_of_beq hr)
      rw [List.filter_cons_of_pos hr]
      cases q with
      | nil =>
        have hleaf : leafAt? key ([key], leaf) = some leaf := by simp
        have hbelow : below? key ([key], leaf) = none := by simp
        rw [List.filterMap_cons_some hleaf, List.filterMap_cons_none hbelow]
        exact ih.cons _
      | cons s q =>
        have hleaf : leafAt? key (key :: s :: q, leaf) = none := by simp
        have hbelow : below? key (key :: s :: q, leaf) = some (s :: q, leaf) := by simp
        rw [List.filterMap_cons_none hleaf, List.filterMap_cons_some hbelow]
        exact List.perm_middle.trans (ih.cons _)

/-- A forest has every route as often as it was inserted. -/
theorem Holds.routes_perm {L : List (List Segment × β)} {t : Forest β} (h : Holds L t) :
    t.routes.Perm L := by
  induction t generalizing L with
  | nil =>
    rw [Holds] at h
    subst h
    exact .nil
  | node k leaves children siblings ihc ihs =>
    obtain ⟨-, hleaves, hchildren, hsiblings⟩ := h
    have hthrough : (leaves.map ([k], ·) ++ children.routes.map fun r => (k :: r.1, r.2)).Perm
        (L.filter (through k)) := by
      rw [hleaves]
      exact (((ihc hchildren).map _).append_left _).trans (through_perm k L)
    exact (hthrough.append (ihs hsiblings)).trans (List.filter_append_perm (through k) L)

theorem Holds.path_ne_nil {L : List (List Segment × β)} {t : Forest β} (h : Holds L t)
    {r : List Segment × β} (hr : r ∈ L) : r.1 ≠ [] :=
  ne_nil_of_mem_routes (h.routes_perm.mem_iff.mpr hr)

theorem Holds.mem_routes_iff {L : List (List Segment × β)} {t : Forest β} (h : Holds L t)
    {r : List Segment × β} : r ∈ t.routes ↔ r.1 ≠ [] ∧ r ∈ L := by
  rw [h.routes_perm.mem_iff]
  exact ⟨fun hr => ⟨h.path_ne_nil hr, hr⟩, And.right⟩

/-! ## Routes of one path -/

/-- The routes that end at a node are those of one segment. -/
theorem map_filterMap_leafAt? (key : Segment) (L : List (List Segment × β)) :
    (L.filterMap (leafAt? key)).map ([key], ·) = L.filter (·.1 == [key]) := by
  induction L with
  | nil => rfl
  | cons r L ih =>
    obtain ⟨p, leaf⟩ := r
    by_cases hp : p = [key] <;> simp [leafAt?, hp, ih]

/-- The routes of a longer path are found below its first segment. -/
theorem map_filter_below? (key : Segment) {q : List Segment} (hq : q ≠ [])
    (L : List (List Segment × β)) :
    ((L.filterMap (below? key)).filter (·.1 == q)).map (fun r => (key :: r.1, r.2)) =
      L.filter (·.1 == key :: q) := by
  induction L with
  | nil => rfl
  | cons r L ih =>
    obtain ⟨p, leaf⟩ := r
    cases p with
    | nil => simpa [below?, List.filterMap_cons] using ih
    | cons k p =>
      -- it is a route of that path, another one below the key, or none below it
      by_cases hk : k = key ∧ p = q
      · simp [hk, hq, ih]
      · by_cases hb : k = key ∧ p ≠ []
        · have hpq : p ≠ q := fun e => hk ⟨hb.1, e⟩
          simp [hb, hpq, ih]
        · rw [List.filterMap_cons_none (by simp [hb]), ih, List.filter_cons_of_neg]
          simpa using hk

/-- Below one key there are no paths with another. -/
theorem filter_map_cons (key s : Segment) (q : List Segment) (l : List (List Segment × β)) :
    (l.map fun r => (key :: r.1, r.2)).filter (·.1 == s :: q) =
      if s = key then (l.filter (·.1 == q)).map fun r => (key :: r.1, r.2) else [] := by
  rw [List.filter_map]
  split
  case isTrue h => subst h; simp [Function.comp_def]
  case isFalse h =>
    have hno : ∀ r ∈ l, ¬ ((·.1 == s :: q) ∘ fun r : List Segment × β => (key :: r.1, r.2)) r := by
      intro r _
      simp [Ne.symm h]
    rw [List.filter_eq_nil_iff.mpr hno, List.map_nil]

/-- The routes of one path are those that were inserted under it, in the same order. -/
theorem Holds.routes_filter {L : List (List Segment × β)} {t : Forest β} (h : Holds L t)
    {p : List Segment} (hp : p ≠ []) :
    t.routes.filter (·.1 == p) = L.filter (·.1 == p) := by
  induction t generalizing L p with
  | nil => rw [Holds] at h; rw [h]; rfl
  | node k leaves children siblings ihc ihs =>
    obtain ⟨-, hleaves, hchildren, hsiblings⟩ := h
    obtain ⟨s, q, rfl⟩ := List.exists_cons_of_ne_nil hp
    rw [routes, List.filter_append, List.filter_append, filter_map_cons, hleaves,
      map_filterMap_leafAt?, ihs hsiblings hp, List.filter_filter, List.filter_filter]
    by_cases hs : s = k
    · -- the path goes through this node: nothing of it is found beside it
      subst hs
      have hbeside : L.filter (fun r => r.1 == s :: q && !through s r) = [] := by
        rw [List.filter_eq_nil_iff]
        rintro ⟨p, leaf⟩ -
        simp only [Bool.and_eq_true, beq_iff_eq, Bool.not_eq_true', not_and]
        rintro rfl
        simp
      rw [if_pos rfl, hbeside, List.append_nil]
      by_cases hq : q = []
      · subst hq
        have hbelow : children.routes.filter (·.1 == []) = [] := by
          rw [List.filter_eq_nil_iff]
          intro r hr
          simpa using ne_nil_of_mem_routes hr
        rw [hbelow, List.map_nil, List.append_nil]
        simp
      · have hleaf : L.filter (fun r => r.1 == s :: q && r.1 == [s]) = [] := by
          rw [List.filter_eq_nil_iff]
          intro r _
          simp only [Bool.and_eq_true, beq_iff_eq, not_and]
          intro e
          simpa [e] using hq
        rw [hleaf, List.nil_append, ihc hchildren hq, map_filter_below? _ hq]
    · have hleaf : L.filter (fun r => r.1 == s :: q && r.1 == [k]) = [] := by
        rw [List.filter_eq_nil_iff]
        intro r _
        simp only [Bool.and_eq_true, beq_iff_eq, not_and]
        intro e
        simp [e, hs]
      rw [if_neg hs, hleaf, List.append_nil, List.nil_append]
      refine List.filter_congr ?_
      rintro ⟨p, leaf⟩ -
      by_cases e : p = s :: q
      · simp [e, hs]
      · simp [e]

/-! ## Routes of different paths -/

/-- The number of the first route that begins with these segments; the number of all routes when
    there is none. -/
def firstUse (L : List (List Segment × β)) (c : List Segment) : Nat :=
  L.findIdx fun r => c.isPrefixOf r.1

/-- Where the two paths part, the branch of the first was opened by an earlier route. -/
def OpensFirst (L : List (List Segment × β)) (p q : List Segment) : Prop :=
  ∃ c s t p' q', p = c ++ s :: p' ∧ q = c ++ t :: q' ∧ s ≠ t ∧
    firstUse L (c ++ [s]) < firstUse L (c ++ [t])

/-- Which of two is hit first does not change when nothing that hits is left out. -/
theorem findIdx_lt_of_filterMap {α γ : Type} {f : α → Option γ} {P₁ P₂ : α → Bool}
    {Q₁ Q₂ : γ → Bool} (h₁ : ∀ a, P₁ a = (f a).any Q₁) (h₂ : ∀ a, P₂ a = (f a).any Q₂) {l : List α}
    (h : (l.filterMap f).findIdx Q₁ < (l.filterMap f).findIdx Q₂) :
    l.findIdx P₁ < l.findIdx P₂ := by
  induction l with
  | nil => exact absurd h (Nat.lt_irrefl _)
  | cons a l ih =>
    rw [List.findIdx_cons, List.findIdx_cons, h₁, h₂]
    cases hf : f a with
    | none =>
      rw [List.filterMap_cons_none hf] at h
      simpa using ih h
    | some y =>
      rw [List.filterMap_cons_some hf, List.findIdx_cons, List.findIdx_cons] at h
      rw [Option.any_some, Option.any_some]
      -- the first hit of `Q₂` cannot come first
      cases hq₂ : Q₂ y with
      | true => rw [hq₂] at h; exact absurd h (Nat.not_lt_zero _)
      | false =>
        cases hq₁ : Q₁ y with
        | true => exact Nat.succ_pos _
        | false =>
          rw [hq₁, hq₂] at h
          exact Nat.succ_lt_succ (ih (Nat.lt_of_succ_lt_succ h))

/-- What a route begins with, below its first segment. -/
theorem isPrefixOf_below? (key : Segment) {c : List Segment} (hc : c ≠ [])
    (r : List Segment × β) :
    (key :: c).isPrefixOf r.1 = (below? key r).any fun r => c.isPrefixOf r.1 := by
  obtain ⟨s, c, rfl⟩ := List.exists_cons_of_ne_nil hc
  obtain ⟨p, leaf⟩ := r
  rcases p with _ | ⟨k, _ | ⟨s', p⟩⟩
  · rfl
  · simp [List.isPrefixOf]
  · by_cases hk : k = key
    · simp [hk, List.isPrefixOf]
    · simp [hk, List.isPrefixOf, Ne.symm hk]

/-- What a route begins with, beside a segment that it does not begin with. -/
theorem isPrefixOf_beside (key : Segment) {c : List Segment} (hc : c.head? ≠ some key)
    (hne : c ≠ []) (r : List Segment × β) :
    c.isPrefixOf r.1 = (Option.guard (!through key ·) r).any fun r => c.isPrefixOf r.1 := by
  obtain ⟨s, c, rfl⟩ := List.exists_cons_of_ne_nil hne
  obtain ⟨p, leaf⟩ := r
  rcases p with _ | ⟨k, p⟩
  · rfl
  · by_cases hk : k = key
    · subst hk
      simp only [List.head?_cons, ne_eq, Option.some.injEq] at hc
      simp [List.isPrefixOf, Option.guard, hc]
    · simp [Option.guard, hk]

/-- What holds of the rests of paths below a node holds of the paths. -/
theorem OpensFirst.of_below {key : Segment} {L : List (List Segment × β)} {p q : List Segment}
    (h : OpensFirst (L.filterMap (below? key)) p q) : OpensFirst L (key :: p) (key :: q) := by
  obtain ⟨c, s, t, p', q', rfl, rfl, hst, hlt⟩ := h
  refine ⟨key :: c, s, t, p', q', rfl, rfl, hst, ?_⟩
  exact findIdx_lt_of_filterMap (isPrefixOf_below? key (by simp)) (isPrefixOf_below? key (by simp))
    hlt

/-- What holds among the routes beside a node holds among all. -/
theorem OpensFirst.of_beside {key : Segment} {L : List (List Segment × β)} {p q : List Segment}
    (h : OpensFirst (L.filter (!through key ·)) p q) (hp : p.head? ≠ some key)
    (hq : q.head? ≠ some key) : OpensFirst L p q := by
  obtain ⟨c, s, t, p', q', rfl, rfl, hst, hlt⟩ := h
  refine ⟨c, s, t, p', q', rfl, rfl, hst, ?_⟩
  rw [← List.filterMap_eq_filter] at hlt
  have hs : (c ++ [s]).head? ≠ some key := by cases c <;> simpa using hp
  have ht : (c ++ [t]).head? ≠ some key := by cases c <;> simpa using hq
  exact findIdx_lt_of_filterMap (isPrefixOf_beside key hs (by simp))
    (isPrefixOf_beside key ht (by simp)) hlt

/-- A search meets a path before those that go on behind it, and of two that part the one whose
    branch was opened first. -/
theorem Holds.pairwise {L : List (List Segment × β)} {t : Forest β} (h : Holds L t) :
    t.routes.Pairwise fun a b => a.1 <+: b.1 ∨ OpensFirst L a.1 b.1 := by
  induction t generalizing L with
  | nil => exact List.Pairwise.nil
  | node k leaves children siblings ihc ihs =>
    obtain ⟨hhead, hleaves, hchildren, hsiblings⟩ := h
    have hother : ∀ r ∈ siblings.routes, r.1.head? ≠ some k := by
      intro r hr
      have := (List.mem_filter.mp (hsiblings.mem_routes_iff.mp hr).2).2
      simpa [through] using this
    rw [routes, List.pairwise_append, List.pairwise_append, List.pairwise_map, List.pairwise_map]
    refine ⟨⟨?_, ?_, ?_⟩, ?_, ?_⟩
    · exact List.pairwise_of_forall fun a b => Or.inl (List.prefix_refl _)
    · refine (ihc hchildren).imp fun h => ?_
      rcases h with h | h
      · exact Or.inl (List.cons_prefix_cons.mpr ⟨rfl, h⟩)
      · exact Or.inr h.of_below
    · intro a ha b hb
      obtain ⟨l, -, rfl⟩ := List.mem_map.mp ha
      obtain ⟨r, -, rfl⟩ := List.mem_map.mp hb
      exact Or.inl (List.cons_prefix_cons.mpr ⟨rfl, List.nil_prefix⟩)
    · refine (ihs hsiblings).imp_of_mem fun ha hb h => ?_
      rcases h with h | h
      · exact Or.inl h
      · exact Or.inr (h.of_beside (hother _ ha) (hother _ hb))
    · -- the first route of all goes through this node, so its branch is the oldest
      intro a ha b hb
      have hk : ∃ p, a.1 = k :: p := by
        rcases List.mem_append.mp ha with ha | ha
        · obtain ⟨l, -, rfl⟩ := List.mem_map.mp ha
          exact ⟨[], rfl⟩
        · obtain ⟨r, -, rfl⟩ := List.mem_map.mp ha
          exact ⟨r.1, rfl⟩
      obtain ⟨p, hp⟩ := hk
      obtain ⟨s, q, hq⟩ := List.exists_cons_of_ne_nil (ne_nil_of_mem_routes hb)
      have hne : k ≠ s := by
        rintro rfl
        exact hother b hb (by rw [hq, List.head?_cons])
      refine Or.inr ⟨[], k, s, p, q, hp, hq, hne, ?_⟩
      cases L with
      | nil => simp at hhead
      | cons r L =>
        have hr : r.1.head? = some k := by simpa [through] using hhead
        obtain ⟨r', hr'⟩ := List.head?_eq_some_iff.mp hr
        have hsk : (s == k) = false := beq_false_of_ne (Ne.symm hne)
        simp [firstUse, List.findIdx_cons, hr', List.isPrefixOf, hsk]

end Turnpike.Route.Forest
