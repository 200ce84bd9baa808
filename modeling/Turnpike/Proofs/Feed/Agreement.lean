/-
  A snapshot agrees with what is told of its keys.

  A configuration reaches a proxy in two ways.  After a restart it comes from a snapshot, which
  reads all that is stored, kind by kind, and is played back; while the proxy runs it comes from
  single mutations, each of which is told as a change by its key and its value.  Both ways read the
  same store, and a proxy must not depend on which of them a value took.

  1. **The values as changes** (`Layout.accepted`).  For each listed key there is the change that
     would be told if its value were put there now.  What is not understood is left out; that is all
     that the two ways have in common, and it is shown first that the snapshot is made of the same
     entities (`Layout.accepted_eq`).

  2. **What a snapshot does to them.**  The snapshot groups servers under their backends and gates
     under their frontends, which changes the order, and it is a change of what there is in three
     cases: of a backend or a frontend that two keys name only the last one counts, a gate without a
     frontend is left out, and a server without a backend brings a plain one.  All of this is
     counted up to the order in `Snapshot.upserts_perm_settled`; here it is put in terms of the
     changes.

  3. **The order.**  The changes of a snapshot stand by rank, so that everything comes after what it
     is part of.  Since a snapshot always holds that part (`Snapshot.home_mem_upserts`), it is found
     before (`snapshot_agrees`).
-/
import Turnpike.Proofs.Feed.Housing
import Turnpike.Proofs.Feed.Layout

namespace Turnpike.Feed

open Turnpike.Entity Turnpike.Proxy

/-! ## Accepted keys -/

/-- The entity that is told of, when what is told is an entity to be put in place. -/
def upsertOf? : Result (Option Change) → Option Upsert
  | .ok (some (.upsert u)) => some u
  | _ => none

/-- The entities that would be told of if every listed value were put under its key, in the order
    of the keys. -/
def Layout.accepted (l : Layout) (s : Store) : List Upsert :=
  (s.list l.root).filterMap fun (key, e) => upsertOf? (l.change (.put key (some e.value)))

/-- The entities that are told of are those that a snapshot is made of. -/
theorem Layout.accepted_eq (l : Layout) (s : Store) :
    l.accepted s = l.entities (s.list l.root) := by
  refine List.filterMap_congr ?_
  rintro ⟨key, e⟩ -
  unfold Layout.change
  dsimp only
  cases l.classify key with
  | none => rfl
  | some r =>
    show upsertOf? ((decode r key e.value).map fun u => some (Change.upsert u)) =
      entityOf? r e.value
    -- the value is decoded in the same way, or not at all
    unfold decode
    cases entityOf? r e.value with
    | none => rfl
    | some u => rfl

/-! ## What belongs together -/

/-- The entity that an entity is part of. -/
def home? : Upsert → Option Ref
  | .server b _ => some (.backend b)
  | .gate f _ => some (.frontend f)
  | _ => none

/-- An entity needs what it is part of. -/
theorem needs?_of_home? {u : Upsert} {r : Ref} (h : home? u = some r) : needs? u = some r := by
  cases u with
  | server b t => exact h
  | gate f t => exact h
  | _ => cases h

/-- Every server of a snapshot is there with its backend, and every gate with its frontend. -/
theorem Snapshot.home_mem_upserts {s : Snapshot} {u : Upsert} {r : Ref} (hu : u ∈ s.upserts)
    (h : home? u = some r) : r ∈ s.upserts.map Upsert.ref := by
  cases u with
  | server b t =>
    cases h
    obtain ⟨x, hx, -, rfl⟩ := server_mem_upserts.mp hu
    exact List.mem_map_of_mem (backend_mem_upserts.mpr ⟨x, hx, rfl⟩)
  | gate f t =>
    cases h
    obtain ⟨x, hx, -, rfl⟩ := gate_mem_upserts.mp hu
    have hfront : .frontend x.frontend ∈ s.upserts := by
      rw [← mem_frontendsOf, frontendsOf_upserts]
      exact List.mem_map_of_mem hx
    exact List.mem_map_of_mem hfront
  | _ => cases h

/-- A snapshot is played back as the changes that its keys would be told as.  Of the keys that name
    one backend or one frontend only the last counts, gates without a frontend are left out, and one
    plain backend is added for each that only servers name.  Backends come before servers, both
    before frontends, and these before gates; nothing comes before that which it is part of. -/
theorem snapshot_agrees (l : Layout) (s : Store) :
    (∃ ids : List String, ids.Nodup ∧
      (∀ b, b ∈ ids ↔
        (∃ t, .server b t ∈ l.accepted s) ∧ ∀ c, .backend c ∈ l.accepted s → c.id ≠ b) ∧
      (l.snapshot s).changes.Perm
        ((Snapshot.settled (l.accepted s) ++ ids.map fun b => Upsert.backend { id := b }).map
          Change.upsert)) ∧
    (l.snapshot s).changes.Pairwise (fun c d => rank c.ref ≤ rank d.ref) ∧
    ∀ before u after, (l.snapshot s).changes = before ++ .upsert u :: after →
      ∀ r, home? u = some r → ∃ v, .upsert v ∈ before ∧ v.ref = r := by
  rw [Layout.accepted_eq, l.snapshot_eq]
  refine ⟨?_, ?_, ?_⟩
  · obtain ⟨ids, hnodup, hids, hperm⟩ :=
      Snapshot.upserts_perm_settled s.revision (l.entities (s.list l.root))
    refine ⟨ids, hnodup, fun b => (hids b).trans (and_congr_right' ?_), hperm.map Change.upsert⟩
    -- that no backend has this name says that it is not among the names
    constructor
    · rintro hmissing c hc rfl
      exact hmissing (List.mem_map_of_mem (f := Upsert.ref) hc)
    · intro hother hmem
      obtain ⟨u, hu, href⟩ := List.mem_map.mp hmem
      cases u with
      | backend c => exact hother c hu (Ref.backend.inj href)
      | _ => cases href
  · exact List.pairwise_map.mpr (Snapshot.ranked_upserts _)
  · intro before u after hsplit r hr
    -- where a change stands in the list, its entity stands among those of the snapshot
    obtain ⟨done, rest, hupserts, rfl, hrest⟩ := List.map_eq_append_iff.mp hsplit
    obtain ⟨v, after', rfl, hv, rfl⟩ := List.map_eq_cons_iff.mp hrest
    cases hv
    have hmem : u ∈ (Snapshot.ofEntities s.revision (l.entities (s.list l.root))).upserts := by
      rw [hupserts]
      exact List.mem_append_right _ List.mem_cons_self
    have hhome := Snapshot.home_mem_upserts hmem hr
    have hranked := Snapshot.ranked_upserts (Snapshot.ofEntities s.revision (l.entities (s.list l.root)))
    rw [hupserts] at hranked hhome
    obtain ⟨w, hw, rfl⟩ := List.mem_map.mp (mem_of_needs hranked (needs?_of_home? hr) hhome)
    exact ⟨w, List.mem_map_of_mem hw, rfl⟩

end Turnpike.Feed
