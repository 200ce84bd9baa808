/-
  The nodes of a route trie.

  That a trie holds its routes says which of them are found, and in which order.  It does not say
  that there is nothing else in the trie.  Nodes that lead nowhere would be of no consequence for
  any request, but they would pile up, since a router may live long.  Here it is shown that there
  are none.

  1. **Nodes** (`Forest.nodes`).  The nodes of a forest are listed, each with its place, the
     segments on the way down to it.  A trie has a root above them as soon as it has a node
     (`Forest.trieNodes`).

  2. **No more than needed.**  A forest that holds a list of routes has siblings with different keys
     (`Holds.keys_nodup`), so no two nodes have one place.  There is a node for each path that some
     route begins with, and for no other (`Holds.paths_perm`), and from every node a leaf is reached
     (`Holds.reach_ne_nil`).

  3. **Leaves.**  The leaves of all nodes are the routes, each at the node that its path spells
     (`Holds.leaves_perm`), and the leaves of one node stand in the order of the list
     (`Holds.leaves_eq_filter`).

  4. **How.**  What a forest holds is said from the first node on: its leaves, what is below it and
     what is beside it hold those parts of the list that belong there.  So everything goes by
     induction on the forest, for all lists at once; what is left to say is which routes begin with
     a path, in the part below a key and in the part beside it (`begins_below`, `begins_beside`).

  5. **Routers** (`Router.wellShaped_ofEdits`).  Any router that calls lead to has a trie of this
     shape, as calls insert routes one by one or start again from the empty trie.
-/
import Mathlib.Data.List.Dedup
import Mathlib.Data.List.Infix
import Turnpike.Proofs.Route.Table

namespace Turnpike.Route

variable {β : Type}

/-- A node with its place: the segments on the way down from the root, its own last. -/
structure Node (β : Type) where
  path : List Segment
  leaves : List β
  children : Forest β

/-- The leaves at a node, and then those below it. -/
def Node.reach (n : Node β) : List β := n.leaves ++ n.children.routes.map Prod.snd

/-- The leaves at a node, each with the place of the node. -/
def Node.placed (n : Node β) : List (List Segment × β) := n.leaves.map (n.path, ·)

/-- The node, placed below a node of that key. -/
def Node.under (key : Segment) (n : Node β) : Node β := { n with path := key :: n.path }

namespace Forest

/-- The keys of siblings, in their order. -/
def keys : Forest β → List Segment
  | nil => []
  | node key _ _ siblings => key :: siblings.keys

/-- The nodes of a forest, in the order in which a search meets them. -/
def nodes : Forest β → List (Node β)
  | nil => []
  | node key leaves children siblings =>
    ⟨[key], leaves, children⟩ :: children.nodes.map (Node.under key) ++ siblings.nodes

/-- The root above a forest.  There is none where there is nothing below it. -/
def root? : Forest β → Option (Node β)
  | nil => none
  | node key leaves children siblings => some ⟨[], [], node key leaves children siblings⟩

/-- All nodes of the trie of which this is the forest below the root. -/
def trieNodes (t : Forest β) : List (Node β) := t.root?.toList ++ t.nodes

theorem mem_trieNodes {t : Forest β} {n : Node β} :
    n ∈ t.trieNodes ↔ t ≠ nil ∧ n = ⟨[], [], t⟩ ∨ n ∈ t.nodes := by
  cases t <;> simp [trieNodes, root?]

/-! ## Keys -/

theorem exists_through {L : List (List Segment × β)} {key : Segment}
    (h : L.head?.any (through key) = true) : ∃ r ∈ L, through key r = true := by
  obtain ⟨r, hr, hthrough⟩ := (Option.any_eq_true _ _).mp h
  exact ⟨r, List.mem_of_head? hr, hthrough⟩

/-- There is a node of a key when some route goes through it. -/
theorem Holds.mem_keys_iff {L : List (List Segment × β)} {t : Forest β} (h : Holds L t)
    {key : Segment} : key ∈ t.keys ↔ ∃ r ∈ L, through key r = true := by
  induction t generalizing L with
  | nil =>
    rw [Holds] at h
    subst h
    simp [keys]
  | node k leaves children siblings _ ihs =>
    obtain ⟨hhead, -, -, hsiblings⟩ := h
    rw [keys, List.mem_cons, ihs hsiblings]
    constructor
    · rintro (rfl | ⟨r, hr, hthrough⟩)
      · exact exists_through hhead
      · exact ⟨r, (List.mem_filter.mp hr).1, hthrough⟩
    · rintro ⟨r, hr, hthrough⟩
      -- it is the key of this node, or that of one beside it
      by_cases hk : key = k
      · exact .inl hk
      · have hother : (!through k r) = true := by rw [through_eq_false hk hthrough]; rfl
        exact .inr ⟨r, List.mem_filter.mpr ⟨hr, hother⟩, hthrough⟩

/-- Siblings have different keys. -/
theorem Holds.keys_nodup {L : List (List Segment × β)} {t : Forest β} (h : Holds L t) :
    t.keys.Nodup := by
  induction t generalizing L with
  | nil => exact List.nodup_nil
  | node k leaves children siblings _ ihs =>
    obtain ⟨-, -, -, hsiblings⟩ := h
    refine List.nodup_cons.mpr ⟨fun hk => ?_, ihs hsiblings⟩
    obtain ⟨r, hr, hthrough⟩ := hsiblings.mem_keys_iff.mp hk
    have hbeside := (List.mem_filter.mp hr).2
    rw [hthrough] at hbeside
    cases hbeside

/-! ## Paths -/

/-- The places of nodes: the first, those below it, and those beside it. -/
theorem map_path_node (key : Segment) (leaves : List β) (children siblings : Forest β) :
    (node key leaves children siblings).nodes.map Node.path =
      [key] :: (children.nodes.map Node.path).map (key :: ·) ++ siblings.nodes.map Node.path := by
  rw [nodes, List.map_append, List.map_cons, List.map_map, List.map_map]
  rfl

/-- Only the root has no segments above it. -/
theorem nil_notMem_paths (t : Forest β) : [] ∉ t.nodes.map Node.path := by
  induction t with
  | nil => exact List.not_mem_nil
  | node key leaves children siblings _ ihs =>
    rw [map_path_node, List.mem_append, List.mem_cons, List.mem_map]
    rintro ((h | ⟨p, -, h⟩) | h)
    · cases h
    · cases h
    · exact ihs h

/-- Some route begins with this path. -/
def Begins (L : List (List Segment × β)) (p : List Segment) : Prop := ∃ r ∈ L, p <+: r.1

/-- What begins with a path below a key begins with the key and the path. -/
theorem begins_below {key : Segment} {L : List (List Segment × β)} {p : List Segment}
    (hp : p ≠ []) : Begins (L.filterMap (below? key)) p ↔ Begins L (key :: p) := by
  simp only [Begins, ← List.isPrefixOf_iff_prefix, isPrefixOf_below? key hp, Option.any_eq_true,
    List.mem_filterMap]
  exact ⟨fun ⟨r', ⟨r, hr, hb⟩, hp⟩ => ⟨r, hr, r', hb, hp⟩,
    fun ⟨r, hr, r', hb, hp⟩ => ⟨r', ⟨r, hr, hb⟩, hp⟩⟩

/-- What begins with a path beside a key does not begin with the key. -/
theorem begins_beside {key s : Segment} {L : List (List Segment × β)} {p : List Segment} :
    Begins (L.filter (!through key ·)) (s :: p) ↔ s ≠ key ∧ Begins L (s :: p) := by
  have hthrough : ∀ r : List Segment × β, s :: p <+: r.1 → through s r = true := by
    rintro ⟨_, leaf⟩ ⟨q, rfl⟩
    exact beq_self_eq_true _
  constructor
  · rintro ⟨r, hr, hp⟩
    obtain ⟨hmem, hbeside⟩ := List.mem_filter.mp hr
    refine ⟨fun hs => ?_, r, hmem, hp⟩
    rw [← hs, hthrough r hp] at hbeside
    cases hbeside
  · rintro ⟨hs, r, hr, hp⟩
    refine ⟨r, List.mem_filter.mpr ⟨hr, ?_⟩, hp⟩
    rw [through_eq_false hs (hthrough r hp)]
    rfl

/-- To begin with one segment is to go through it. -/
theorem begins_singleton {key : Segment} {L : List (List Segment × β)} :
    Begins L [key] ↔ ∃ r ∈ L, through key r = true := by
  refine exists_congr fun r => and_congr_right fun _ => ?_
  obtain ⟨p, leaf⟩ := r
  cases p with
  | nil => simp [through]
  | cons s p =>
    rw [through_cons, beq_iff_eq, List.cons_prefix_cons]
    exact ⟨fun h => h.1.symm, fun h => ⟨h.symm, List.nil_prefix⟩⟩

/-- The places of the nodes are the paths that routes begin with. -/
theorem Holds.cons_mem_paths_iff {L : List (List Segment × β)} {t : Forest β} (h : Holds L t)
    {s : Segment} {p : List Segment} : s :: p ∈ t.nodes.map Node.path ↔ Begins L (s :: p) := by
  induction t generalizing L s p with
  | nil =>
    rw [Holds] at h
    subst h
    simp [nodes, Begins]
  | node k leaves children siblings ihc ihs =>
    obtain ⟨hhead, -, hchildren, hsiblings⟩ := h
    rw [map_path_node, List.mem_append, ihs hsiblings, begins_beside]
    -- a path with this key leads here or below, any other one beside
    by_cases hs : s = k
    · subst hs
      cases p with
      | nil => simp [begins_singleton, exists_through hhead]
      | cons s' p =>
        rw [← begins_below (List.cons_ne_nil s' p), ← ihc hchildren]
        simp
    · simp [hs, Ne.symm hs]

/-- Below the root no two nodes have the same place. -/
theorem Holds.nodup_paths {L : List (List Segment × β)} {t : Forest β} (h : Holds L t) :
    (t.nodes.map Node.path).Nodup := by
  induction t generalizing L with
  | nil => exact List.nodup_nil
  | node k leaves children siblings ihc ihs =>
    obtain ⟨-, -, hchildren, hsiblings⟩ := h
    have hbeside : ∀ p, k :: p ∉ siblings.nodes.map Node.path := by
      intro p hp
      exact (begins_beside.mp (hsiblings.cons_mem_paths_iff.mp hp)).1 rfl
    -- here, below and beside, no place occurs in two of these parts
    rw [map_path_node, List.nodup_append, List.nodup_cons]
    refine ⟨⟨?_, (ihc hchildren).map (List.cons_injective)⟩, ihs hsiblings, ?_⟩
    · intro hmem
      obtain ⟨p, hp, he⟩ := List.mem_map.mp hmem
      rw [(List.cons.inj he).2] at hp
      exact nil_notMem_paths children hp
    · intro p hp q hq he
      subst he
      rcases List.mem_cons.mp hp with rfl | hp
      · exact hbeside [] hq
      · obtain ⟨p', -, rfl⟩ := List.mem_map.mp hp
        exact hbeside p' hq

/-- A forest is empty when it holds no routes. -/
theorem Holds.eq_nil_iff {L : List (List Segment × β)} {t : Forest β} (h : Holds L t) :
    t = Forest.nil ↔ L = [] := by
  cases t with
  | nil => exact iff_of_true rfl h
  | node k leaves children siblings =>
    refine iff_of_false (fun e => by cases e) fun e => ?_
    subst e
    cases h.1

/-- With the root, the places of the nodes are all beginnings of routes. -/
theorem Holds.mem_trieNodes_paths_iff {L : List (List Segment × β)} {t : Forest β} (h : Holds L t)
    {p : List Segment} : p ∈ t.trieNodes.map Node.path ↔ Begins L p := by
  cases t with
  | nil =>
    rw [Holds] at h
    subst h
    simp [trieNodes, root?, nodes, Begins]
  | node k leaves children siblings =>
    rw [trieNodes, root?, Option.toList_some, List.singleton_append, List.map_cons, List.mem_cons]
    cases p with
    | nil =>
      obtain ⟨r, hr, -⟩ := exists_through h.1
      exact iff_of_true (.inl rfl) ⟨r, hr, List.nil_prefix⟩
    | cons s p =>
      rw [h.cons_mem_paths_iff]
      exact or_iff_right (List.cons_ne_nil s p)

/-- No two nodes have the same place. -/
theorem Holds.nodup_trieNodes_paths {L : List (List Segment × β)} {t : Forest β} (h : Holds L t) :
    (t.trieNodes.map Node.path).Nodup := by
  cases t with
  | nil => exact List.nodup_nil
  | node k leaves children siblings =>
    exact List.nodup_cons.mpr ⟨nil_notMem_paths _, h.nodup_paths⟩

/-- There is one node for each path that some route begins with, and no other. -/
theorem Holds.paths_perm {L : List (List Segment × β)} {t : Forest β} (h : Holds L t) :
    (t.trieNodes.map Node.path).Perm (L.flatMap (·.1.inits)).dedup := by
  refine (List.perm_ext_iff_of_nodup h.nodup_trieNodes_paths (List.nodup_dedup _)).mpr fun p => ?_
  rw [h.mem_trieNodes_paths_iff, List.mem_dedup, List.mem_flatMap]
  exact exists_congr fun r => and_congr_right fun _ => (List.mem_inits p r.1).symm

/-- Two routes share the nodes up to where their paths part, be they of bytes or parameters. -/
example :
    ((branch 1 [.byte slash, .param "n", .byte 0x61]).merge
      (branch 2 [.byte slash, .param "n", .byte 0x62])).trieNodes.map Node.path =
    [[], [.byte slash], [.byte slash, .param "n"], [.byte slash, .param "n", .byte 0x61],
      [.byte slash, .param "n", .byte 0x62]] := by decide

/-! ## Leaves -/

theorem placed_under (key : Segment) (n : Node β) :
    (n.under key).placed = n.placed.map fun r => (key :: r.1, r.2) := by
  rw [Node.placed, Node.placed, List.map_map]
  rfl

/-- The leaves of the nodes are met in the order of the routes. -/
theorem flatMap_placed_nodes (t : Forest β) : t.nodes.flatMap Node.placed = t.routes := by
  induction t with
  | nil => rfl
  | node key leaves children siblings ihc ihs =>
    have hunder : (children.nodes.map (Node.under key)).flatMap Node.placed =
        children.routes.map fun r => (key :: r.1, r.2) := by
      rw [← ihc, List.flatMap_map, List.map_flatMap]
      exact List.flatMap_congr fun n _ => placed_under key n
    rw [nodes, routes, List.flatMap_append, List.flatMap_cons, hunder, ihs]
    rfl

/-- The leaves of all nodes are the routes, as the root has none. -/
theorem flatMap_placed (t : Forest β) : t.trieNodes.flatMap Node.placed = t.routes := by
  have hroot : t.root?.toList.flatMap Node.placed = [] := by cases t <;> rfl
  rw [trieNodes, List.flatMap_append, hroot, List.nil_append, flatMap_placed_nodes]

/-- Every leaf hangs at the node that its path spells, as often as it was inserted. -/
theorem Holds.leaves_perm {L : List (List Segment × β)} {t : Forest β} (h : Holds L t) :
    (t.trieNodes.flatMap Node.placed).Perm L := by
  rw [flatMap_placed]
  exact h.routes_perm

theorem filter_placed_self (n : Node β) : n.placed.filter (·.1 == n.path) = n.placed := by
  refine List.filter_eq_self.mpr fun r hr => ?_
  obtain ⟨leaf, -, rfl⟩ := List.mem_map.mp hr
  exact beq_self_eq_true _

/-- No other node has leaves with its place. -/
theorem filter_placed_of_ne {m n : Node β} (hne : m.path ≠ n.path) :
    m.placed.filter (·.1 == n.path) = [] := by
  refine List.filter_eq_nil_iff.mpr fun r hr => ?_
  obtain ⟨leaf, -, rfl⟩ := List.mem_map.mp hr
  simpa using hne

/-- Where no place occurs twice, the leaves with the place of a node are those of the node. -/
theorem filter_flatMap_placed {ns : List (Node β)} (h : (ns.map Node.path).Nodup) {n : Node β}
    (hn : n ∈ ns) : (ns.flatMap Node.placed).filter (·.1 == n.path) = n.placed := by
  induction ns with
  | nil => exact absurd hn List.not_mem_nil
  | cons m ns ih =>
    rw [List.map_cons, List.nodup_cons] at h
    obtain ⟨hfirst, hrest⟩ := h
    rw [List.flatMap_cons, List.filter_append]
    rcases List.mem_cons.mp hn with rfl | hn
    · have hnone : (ns.flatMap Node.placed).filter (·.1 == n.path) = [] := by
        rw [List.filter_flatMap, List.flatMap_eq_nil_iff]
        intro m' hm'
        refine filter_placed_of_ne fun e => hfirst ?_
        rw [← e]
        exact List.mem_map_of_mem hm'
      rw [filter_placed_self, hnone, List.append_nil]
    · have hne : m.path ≠ n.path := fun e => hfirst (by rw [e]; exact List.mem_map_of_mem hn)
      rw [filter_placed_of_ne hne, List.nil_append, ih hrest hn]

/-- The leaves of one node stand in the order in which they were inserted. -/
theorem Holds.leaves_eq_filter {L : List (List Segment × β)} {t : Forest β} (h : Holds L t)
    {n : Node β} (hn : n ∈ t.trieNodes) : n.placed = L.filter (·.1 == n.path) := by
  rw [← filter_flatMap_placed h.nodup_trieNodes_paths hn, flatMap_placed]
  by_cases hp : n.path = []
  · -- no route ends at the root
    have hroutes : ∀ r ∈ t.routes, ¬ (r.1 == n.path) = true := by
      intro r hr
      rw [hp, beq_iff_eq]
      exact ne_nil_of_mem_routes hr
    have hnone : ∀ r ∈ L, ¬ (r.1 == n.path) = true := by
      intro r hr
      rw [hp, beq_iff_eq]
      exact h.path_ne_nil hr
    rw [List.filter_eq_nil_iff.mpr hroutes, List.filter_eq_nil_iff.mpr hnone]
  · exact h.routes_filter hp

/-! ## Ways down -/

/-- The forest below a node holds some routes, and at least one if the node has no leaf. -/
theorem Holds.exists_holds_of_mem_nodes {L : List (List Segment × β)} {t : Forest β}
    (h : Holds L t) {n : Node β} (hn : n ∈ t.nodes) :
    ∃ M, Holds M n.children ∧ (n.leaves = [] → M ≠ []) := by
  induction t generalizing L n with
  | nil => exact absurd hn List.not_mem_nil
  | node k leaves children siblings ihc ihs =>
    obtain ⟨hhead, hleaves, hchildren, hsiblings⟩ := h
    rw [nodes, List.mem_append, List.mem_cons] at hn
    rcases hn with (rfl | hn) | hn
    · refine ⟨L.filterMap (below? k), hchildren, fun hnil hnone => ?_⟩
      -- some route goes through this node, so it ends there or goes on below
      obtain ⟨r, hr, hthrough⟩ := exists_through hhead
      have hperm := through_perm k L
      rw [← hleaves, show leaves = [] from hnil, hnone] at hperm
      have hmem : r ∈ L.filter (through k) := List.mem_filter.mpr ⟨hr, hthrough⟩
      rw [← hperm.nil_eq] at hmem
      exact absurd hmem List.not_mem_nil
    · obtain ⟨m, hm, rfl⟩ := List.mem_map.mp hn
      obtain ⟨M, hM⟩ := ihc hchildren hm
      exact ⟨M, hM⟩
    · exact ihs hsiblings hn

/-- The same holds of the root. -/
theorem Holds.exists_holds_of_mem_trieNodes {L : List (List Segment × β)} {t : Forest β}
    (h : Holds L t) {n : Node β} (hn : n ∈ t.trieNodes) :
    ∃ M, Holds M n.children ∧ (n.leaves = [] → M ≠ []) := by
  rcases mem_trieNodes.mp hn with ⟨ht, rfl⟩ | hn
  · exact ⟨L, h, fun _ hL => ht (h.eq_nil_iff.mpr hL)⟩
  · exact h.exists_holds_of_mem_nodes hn

theorem Holds.children_keys_nodup {L : List (List Segment × β)} {t : Forest β} (h : Holds L t)
    {n : Node β} (hn : n ∈ t.trieNodes) : n.children.keys.Nodup := by
  obtain ⟨M, hM, -⟩ := h.exists_holds_of_mem_trieNodes hn
  exact hM.keys_nodup

/-- From every node a leaf is reached. -/
theorem Holds.reach_ne_nil {L : List (List Segment × β)} {t : Forest β} (h : Holds L t)
    {n : Node β} (hn : n ∈ t.trieNodes) : n.reach ≠ [] := by
  obtain ⟨M, hM, hsome⟩ := h.exists_holds_of_mem_trieNodes hn
  intro hnone
  obtain ⟨hleaves, hbelow⟩ := List.append_eq_nil_iff.mp hnone
  have hperm := hM.routes_perm
  rw [List.map_eq_nil_iff.mp hbelow] at hperm
  exact hsome hleaves hperm.nil_eq.symm

end Forest

/-! ## Routers -/

namespace Router

variable {α : Type}

/-- The trie of a router has the nodes that the entries need, and their leaves in place. -/
structure WellShaped (r : Router α) : Prop where
  /-- The children of a node, and of the root, have different keys. -/
  keys : ∀ n ∈ r.trie.trieNodes, n.children.keys.Nodup
  /-- Every node has a leaf, or there is one below it. -/
  reach : ∀ n ∈ r.trie.trieNodes, n.reach ≠ []
  /-- There is one node for each path that some entry begins with, and no other. -/
  paths : (r.trie.trieNodes.map Node.path).Perm (r.entries.flatMap (·.pattern.path.inits)).dedup
  /-- The leaves of all nodes are the entries, each at the node that its path spells. -/
  placed : (r.trie.trieNodes.flatMap Node.placed).Perm (r.entries.map leafOf)
  /-- No leaf occurs twice, be it at one node or at two. -/
  once : ((r.trie.trieNodes.flatMap Node.leaves).map Entry.key).Nodup
  /-- The leaves of a node are the entries of its path in their order. -/
  ordered : ∀ n ∈ r.trie.trieNodes, n.leaves = r.entries.filter (·.pattern.path == n.path)

theorem map_snd_leafOf (es : List (Entry α)) : (es.map leafOf).map Prod.snd = es := by
  rw [List.map_map]
  exact List.map_id es

theorem map_snd_placed (n : Node (Entry α)) : n.placed.map Prod.snd = n.leaves := by
  rw [Node.placed, List.map_map]
  exact List.map_id n.leaves

/-- Whatever routes were added, removed and replaced, the trie has the shape that the entries call
    for. -/
theorem wellShaped_ofEdits (calls : List (Edit α)) : (ofEdits calls).WellShaped := by
  have hsound := sound_ofEdits calls
  have hheld := hsound.held
  have hplaced := hheld.leaves_perm
  -- a sound router holds its entries, so it has all that holding brings
  refine ⟨fun n => hheld.children_keys_nodup, fun n => hheld.reach_ne_nil, ?_, hplaced, ?_, ?_⟩
  · have hpaths := hheld.paths_perm
    rwa [List.flatMap_map] at hpaths
  · have hleaves := hplaced.map Prod.snd
    rw [map_snd_leafOf, List.map_flatMap] at hleaves
    simp only [map_snd_placed] at hleaves
    exact (hleaves.map Entry.key).nodup_iff.mpr hsound.keys
  · intro n hn
    have hleaves := congrArg (List.map Prod.snd) (hheld.leaves_eq_filter hn)
    rwa [map_snd_placed, List.filter_map, map_snd_leafOf] at hleaves

end Router

end Turnpike.Route
