/-
  What a snapshot makes of entities that need not fit together.

  A store may hold anything: frontends whose backend was never put, servers of backends that are
  gone, two frontends with one route.  A restart makes a snapshot of it all the same, and plays it
  back.  What comes of that has to be known for entities of which nothing is assumed but what every
  stored entity has.

  1. **Loose entities** (`Loose`).  They have names of their own and each of them is fit to be put;
     that they fit together is not asked for.

  2. **Groups** (`contains_groups`, `Lodged`).  A backend is in a snapshot when it is among the
     entities, or when a server among them has brought it as a plain one.  Two walks over the
     entities make the groups, first one for backends, then one for servers, so that the invariant
     `Lodged` is carried over both: what is in a group comes from the entities, or is the plain
     backend of a server.

  3. **Sites** (`map_sites`).  Gates make no difference to frontends, which stand in the order of
     their identifiers as they were put.

  4. **Playing back** (`orderly_upserts`).  In a snapshot everything stands behind what it needs, as
     far as that is there; its entities are fit; its frontends are in order.  So it can be played
     back as far as its frontends find their backends, and it is known which of them do
     (`mem_housedOf_upserts`): those whose backend is among the entities or is brought by a server.
-/
import Turnpike.Proofs.Feed.Snapshot
import Turnpike.Proofs.Proxy.Salvage

namespace Turnpike.Feed

open Turnpike.Entity Turnpike.Proxy

/-- Entities with names of their own, each fit to be put. -/
structure Loose (us : List Upsert) : Prop where
  distinct : (us.map Upsert.ref).Nodup
  fit : ∀ u ∈ us, Fit u
  /-- A plain backend can stand in for the one of a server. -/
  homes : ∀ b s, .server b s ∈ us → ({ id := b } : Backend).check = .ok ()
  routes : ∀ f f', .frontend f ∈ us → .frontend f' ∈ us →
    canonical? f.route = canonical? f'.route → f.id = f'.id

namespace Snapshot

variable {n : Nat} {us : List Upsert}

/-! ## Groups -/

/-- A backend is there when it was put, or when one of its servers was. -/
theorem contains_groups (n : Nat) (us : List Upsert) (b : String) :
    (ofEntities n us).groups.contains b = true ↔ ∃ u ∈ us, brings? u = some b := by
  unfold ofEntities
  dsimp only
  -- both walks only add keys, the outer one those of the servers
  rw [Dictionary.contains_foldl (fun u => if rank u.ref = 1 then brings? u else none) ?servers,
    Dictionary.contains_foldl (fun u => if rank u.ref = 0 then brings? u else none) ?backends]
  case servers =>
    intro d u key
    cases u with
    | server parent s =>
      show (addServer d parent s).contains key = true ↔ _ ∨ some parent = some key
      rw [addServer, Dictionary.contains_insert, Option.some.injEq, or_comm, eq_comm (a := key)]
    | _ => simp [fileServer, rank, Upsert.ref]
  case backends =>
    intro d u key
    cases u with
    | backend c =>
      show (d.insert c.id ⟨c, []⟩).contains key = true ↔ _ ∨ some c.id = some key
      rw [Dictionary.contains_insert, Option.some.injEq, or_comm, eq_comm (a := key)]
    | _ => simp [fileBackend, rank, Upsert.ref]
  -- a walk adds the key that an entity of its rank brings, and each rank has one walk
  constructor
  · rintro ((hb | ⟨u, hu, hb⟩) | ⟨u, hu, hb⟩)
    · cases hb
    · exact ⟨u, hu, (Option.ite_none_right_eq_some.mp hb).2⟩
    · exact ⟨u, hu, (Option.ite_none_right_eq_some.mp hb).2⟩
  · rintro ⟨u, hu, hb⟩
    cases u with
    | backend c => exact .inl (.inr ⟨.backend c, hu, hb⟩)
    | server parent s => exact .inr ⟨.server parent s, hu, hb⟩
    | _ => cases hb

/-- What is in the groups comes from the entities. -/
structure Lodged (us : List Upsert) (d : Dictionary Group) : Prop where
  named : ∀ k x, d.get? k = some x → x.backend.id = k
  heads : ∀ k x, d.get? k = some x →
    .backend x.backend ∈ us ∨ x.backend = { id := k } ∧ ∃ s, .server k s ∈ us
  servers : ∀ k x, d.get? k = some x → ∀ s ∈ x.servers, .server k s ∈ us

/-- A group that comes from the entities can be put under the name of its backend. -/
theorem Lodged.insert {d : Dictionary Group} (h : Lodged us d) {k : String} {x : Group}
    (hnamed : x.backend.id = k)
    (hhead : .backend x.backend ∈ us ∨ x.backend = { id := k } ∧ ∃ s, .server k s ∈ us)
    (hservers : ∀ s ∈ x.servers, .server k s ∈ us) : Lodged us (d.insert k x) := by
  have hcases {j : String} {y : Group} (hy : (d.insert k x).get? j = some y) :
      j = k ∧ y = x ∨ d.get? j = some y := by
    rw [Dictionary.get?_insert] at hy
    split at hy
    case isTrue heq => exact .inl ⟨heq, (Option.some.inj hy).symm⟩
    case isFalse => exact .inr hy
  refine ⟨fun j y hy => ?_, fun j y hy => ?_, fun j y hy => ?_⟩
  · rcases hcases hy with ⟨rfl, rfl⟩ | hy
    · exact hnamed
    · exact h.named j y hy
  · rcases hcases hy with ⟨rfl, rfl⟩ | hy
    · exact hhead
    · exact h.heads j y hy
  · rcases hcases hy with ⟨rfl, rfl⟩ | hy
    · exact hservers
    · exact h.servers j y hy

/-- The groups of a snapshot come from its entities. -/
theorem lodged_groups (n : Nat) (us : List Upsert) : Lodged us (ofEntities n us).groups := by
  unfold ofEntities
  dsimp only
  refine List.foldlRecOn us _ (List.foldlRecOn us _ ⟨nofun, nofun, nofun⟩ ?backends) ?servers
  -- the first walk: each backend makes a group of its own, without servers
  case backends =>
    intro d h u hu
    cases u with
    | backend b => exact h.insert rfl (.inl hu) nofun
    | _ => exact h
  -- the second walk: each server goes into the group of its backend
  case servers =>
    intro d h u hu
    cases u with
    | server k s =>
      show Lodged us (addServer d k s)
      unfold addServer
      cases hget : d.get? k with
      | none =>
        -- the first server brings a plain backend
        refine h.insert rfl (.inr ⟨rfl, s, hu⟩) fun t ht => ?_
        obtain rfl := List.mem_singleton.mp ht
        exact hu
      | some x =>
        refine h.insert (h.named k x hget) (h.heads k x hget) fun t ht => ?_
        rcases List.mem_append.mp ht with ht | ht
        · exact h.servers k x hget t ht
        · obtain rfl := List.mem_singleton.mp ht
          exact hu
    | _ => exact h

/-! ## Sites -/

/-- Gates make no difference to frontends. -/
theorem map_sites (n : Nat) (us : List Upsert) :
    (ofEntities n us).sites.values.map Site.frontend = (fronts us).values.map Site.frontend := by
  rw [← Dictionary.values_mapValues, ← Dictionary.values_mapValues]
  congr 1
  unfold ofEntities
  dsimp only
  refine List.foldlRecOn us _
    (motive := fun d : Dictionary Site => d.mapValues Site.frontend = (fronts us).mapValues _)
    rfl ?gates
  intro d h u _
  cases u with
  | gate k t =>
    refine Eq.trans ?_ h
    show (addGate d k t).mapValues _ = _
    unfold addGate Dictionary.modify
    split
    case h_1 x hx => exact Dictionary.mapValues_insert_same hx rfl
    case h_2 => rfl
  | _ => exact h

/-! ## The entities of a snapshot -/

theorem backend_mem_upserts {s : Snapshot} {b : Backend} :
    .backend b ∈ s.upserts ↔ ∃ x ∈ s.groups.values, x.backend = b := by
  simp [upserts]

theorem server_mem_upserts {s : Snapshot} {b : String} {t : Server} :
    .server b t ∈ s.upserts ↔ ∃ x ∈ s.groups.values, t ∈ x.servers ∧ x.backend.id = b := by
  simp [upserts]

theorem gate_mem_upserts {s : Snapshot} {f : String} {t : Gate} :
    .gate f t ∈ s.upserts ↔ ∃ x ∈ s.sites.values, t ∈ x.gates ∧ x.frontend.id = f := by
  simp [upserts]

/-- The frontends of a snapshot are those of its sites, in their order. -/
theorem frontendsOf_upserts (s : Snapshot) :
    frontendsOf s.upserts = s.sites.values.map Site.frontend := by
  have hnil {α : Type} (l : List α) : l.flatMap (fun _ => ([] : List Frontend)) = [] :=
    List.flatMap_eq_nil_iff.mpr fun _ _ => rfl
  unfold upserts frontendsOf
  simp [List.filterMap_map, List.filterMap_flatMap, hnil]

/-- The frontends are those among the entities. -/
theorem frontend_mem_upserts (hus : (us.map Upsert.ref).Nodup) {f : Frontend} :
    .frontend f ∈ (ofEntities n us).upserts ↔ .frontend f ∈ us := by
  -- as no name comes twice, all frontends among the entities count
  have hheads := (gathered_fronts us).heads.mem_iff (a := .frontend f)
  rw [outlasting_of_nodup hus, mem_kind] at hheads
  rw [← mem_frontendsOf, frontendsOf_upserts, map_sites]
  constructor
  · intro hf
    obtain ⟨x, hx, rfl⟩ := List.mem_map.mp hf
    exact (hheads.mp (List.mem_map_of_mem hx)).1
  · intro hf
    obtain ⟨x, hx, heq⟩ := List.mem_map.mp (hheads.mpr ⟨hf, rfl⟩)
    exact List.mem_map.mpr ⟨x, hx, Upsert.frontend.inj heq⟩

/-- The frontends of a snapshot stand in the order of their identifiers. -/
theorem sorted_upserts (n : Nat) (us : List Upsert) :
    (frontendsOf (ofEntities n us).upserts).Pairwise (·.id < ·.id) := by
  rw [frontendsOf_upserts, map_sites, List.pairwise_map]
  refine Dictionary.values_pairwise (fun x : Site => x.frontend.id) fun k x hx => ?_
  exact Ref.frontend.inj ((gathered_fronts us).named k x hx)

/-- Played back, the entities bring the same backends. -/
theorem brings_upserts (n : Nat) (us : List Upsert) (b : String) :
    (∃ u ∈ (ofEntities n us).upserts, brings? u = some b) ↔ ∃ u ∈ us, brings? u = some b := by
  have hnamed := (lodged_groups n us).named
  -- the backend of a group has the name that the group stands under
  have hin {x : Group} (hx : x ∈ (ofEntities n us).groups.values) :
      (ofEntities n us).groups.contains x.backend.id = true := by
    obtain ⟨k, hk⟩ := Dictionary.mem_values_iff.mp hx
    rw [hnamed k x hk]
    exact Dictionary.contains_iff.mpr ⟨x, hk⟩
  rw [← contains_groups n us b]
  constructor
  · rintro ⟨u, hu, hb⟩
    cases u with
    | backend c =>
      obtain ⟨x, hx, rfl⟩ := backend_mem_upserts.mp hu
      cases hb
      exact hin hx
    | server parent t =>
      obtain ⟨x, hx, -, rfl⟩ := server_mem_upserts.mp hu
      cases hb
      exact hin hx
    | _ => cases hb
  · intro hb
    obtain ⟨x, hx⟩ := Dictionary.contains_iff.mp hb
    have hmem := backend_mem_upserts.mpr ⟨x, Dictionary.mem_values_iff.mpr ⟨b, hx⟩, rfl⟩
    exact ⟨.backend x.backend, hmem, congrArg some (hnamed b x hx)⟩

/-- Entities of a snapshot are fit to be put, and so are the backends that it brings along. -/
theorem fit_upserts (h : Loose us) : ∀ u ∈ (ofEntities n us).upserts, Fit u := by
  have hlodged := lodged_groups n us
  intro u hu
  cases u with
  | backend b =>
    obtain ⟨x, hx, rfl⟩ := backend_mem_upserts.mp hu
    obtain ⟨k, hk⟩ := Dictionary.mem_values_iff.mp hx
    -- it was put, or a server has brought it
    rcases hlodged.heads k x hk with hmem | ⟨hplain, s, hs⟩
    · exact h.fit _ hmem
    · rw [hplain]
      exact h.homes k s hs
  | server b t =>
    obtain ⟨x, hx, ht, rfl⟩ := server_mem_upserts.mp hu
    obtain ⟨k, hk⟩ := Dictionary.mem_values_iff.mp hx
    rw [hlodged.named k x hk]
    exact h.fit _ (hlodged.servers k x hk t ht)
  | frontend f => exact h.fit _ ((frontend_mem_upserts h.distinct).mp hu)
  | _ => trivial

/-- A snapshot can be played back as far as its frontends find their backends. -/
theorem orderly_upserts (h : Loose us) : Orderly (ofEntities n us).upserts where
  ranked := ranked_upserts _
  fit := fit_upserts h
  sorted := sorted_upserts n us
  routes := by
    intro f f' hf hf'
    rw [frontend_mem_upserts h.distinct] at hf hf'
    exact h.routes f f' hf hf'

theorem mem_housedOf_upserts (hus : (us.map Upsert.ref).Nodup) {f : Frontend} :
    f ∈ housedOf (ofEntities n us).upserts ↔
      .frontend f ∈ us ∧ ∃ u ∈ us, brings? u = some f.backendId := by
  rw [mem_housedOf, frontend_mem_upserts hus, brings_upserts]

end Snapshot

end Turnpike.Feed
