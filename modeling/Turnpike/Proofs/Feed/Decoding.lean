/-
  Entities through the store.

  An entity is written under a key as its stored document, and read from what the store tells of
  that key.  What is read must be the entity that was written.  There is one thing more to it: a
  document has a name in it, and so has its key, and the two may differ; then the key decides.

  1. **Names** (`Upsert.under?`).  The entity under another name of its kind, with the parent that
     belongs to the name, is defined apart from the reader, by one equation for each kind.  There is
     one under every name of the kind (`exists_under?`).

  2. **Decoding** (`entityOf?_stored`).  The text of a stored document is parsed as that document,
     the document is read as its entity, and the entity is put under the name that it is read for.
     The three steps are the same for every kind (`map_ofText?_stored`), and only the reader
     differs, so that each case of the split is one application.

  3. **The round trip** (`change_of_stored`).  With what is known of keys, that a key names its
     entity, the mutation of a written key is told as the change that puts just this entity in
     place.
-/
import Turnpike.Proofs.Entity.Stored
import Turnpike.Proofs.Feed.Keys

namespace Turnpike

namespace Entity

/-- The entity under another name of its kind, and with the parent that belongs to the name. -/
def Upsert.under? : Upsert → Ref → Option Upsert
  | .host h, .host name => some (.host { h with name := name })
  | .listener l, .listener id => some (.listener { l with id := id })
  | .backend b, .backend id => some (.backend { b with id := id })
  | .server _ s, .server parent id => some (.server parent { s with id := id })
  | .frontend f, .frontend id => some (.frontend { f with id := id })
  | .gate _ g, .gate parent id => some (.gate parent { g with id := id })
  | _, _ => none

/-- It has that name. -/
theorem Upsert.ref_of_under? {u v : Upsert} {r : Ref} (h : u.under? r = some v) : v.ref = r := by
  unfold under? at h
  split at h
  case h_7 => cases h
  all_goals cases h; rfl

/-- There is an entity under every name of its kind. -/
theorem Upsert.exists_under? {u : Upsert} {r : Ref} (h : u.ref.noun = r.noun) :
    ∃ v, u.under? r = some v := by
  cases u with
  | _ =>
    cases r with
    | _ => first | exact ⟨_, rfl⟩ | simp [ref, Ref.noun] at h

end Entity

namespace Feed

open Turnpike.Json Turnpike.Entity

/-- The text of a stored document is read as the entity that the document is of, and then put under
    another name. -/
theorem map_ofText?_stored {α β : Type} {read? : Reader α} {j : Json} {a : α} (hj : j.Whole)
    (hread : read? j.tree = some a) (name : α → β) :
    (ofText? read? j.text).map name = some (name a) := by
  rw [ofText?, parse?_text hj, Option.bind_some, hread, Option.map_some]

/-- A stored entity is read under the name that it is read for. -/
theorem entityOf?_stored {u v : Upsert} {r : Ref} (hu : u.Storable) (hv : u.under? r = some v) :
    entityOf? r u.stored.text = some v := by
  have hwhole := hu.whole
  unfold Upsert.under? at hv
  unfold entityOf? Upsert.stored
  -- by the kind of the entity, which is also that of the name
  split at hv
  case h_1 h name =>
    cases hv
    exact map_ofText?_stored hwhole h.read?_stored _
  case h_2 l id =>
    cases hv
    exact map_ofText?_stored hwhole l.read?_stored _
  case h_3 b id =>
    cases hv
    exact map_ofText?_stored hwhole (Backend.read?_stored hu) _
  case h_4 s parent id =>
    cases hv
    exact map_ofText?_stored hwhole s.read?_stored _
  case h_5 f id =>
    cases hv
    exact map_ofText?_stored hwhole (Frontend.read?_stored hu) _
  case h_6 g parent id =>
    cases hv
    exact map_ofText?_stored hwhole (Gate.read?_stored hu) _
  case h_7 => cases hv

/-- An entity that is written under the key of any name of its kind is told as a mutation of that key,
    and read from it as the change that puts this entity in place, under the name of the key. -/
theorem change_of_stored (l : Layout) (s : Store) {r : Ref} {u : Upsert} (hr : Layout.Proper r)
    (hu : u.Storable) (hkind : u.ref.noun = r.noun) :
    ∃ m v, (s.putJson (l.key r) u.stored).log = m :: s.log ∧ m.key = l.key r ∧
      u.under? r = some v ∧ v.ref = r ∧ l.change (.ofMutation m) = .ok (some (.upsert v)) := by
  obtain ⟨v, hv⟩ := Upsert.exists_under? hkind
  refine ⟨_, v, rfl, rfl, hv, Upsert.ref_of_under? hv, ?_⟩
  -- the key was made for the name, so that it is read as that name
  have hname : l.classify (l.key r) = some r := Layout.classify_iff_spells.mpr ⟨.inl rfl, hr⟩
  exact (Layout.change_put hname).mpr ⟨v, entityOf?_stored hu hv, rfl⟩

/-- Settings with every kind of value, and with characters that are escaped. -/
def mixed : Json :=
  .obj [("a\x22\n", .arr [.null, .bool true, .str "\x01/é"]),
    ("b", .obj [("least", .num (.neg 0x8000000000000000)), ("most", .ofNat 0xffffffffffffffff)])]

/-- A gate is written under the key of another name. -/
theorem change_of_stored_renamed :
    let u := Upsert.gate "f" ⟨"g", -1, "rewrite", mixed⟩
    let l := Layout.ofPrefix "/hw"
    Layout.Proper (.gate "f2" "g2") ∧ u.Storable ∧
      ∃ m, (Store.empty.putJson (l.key (.gate "f2" "g2")) u.stored).log = [m] ∧
        l.change (.ofMutation m) =
          .ok (some (.upsert (.gate "f2" ⟨"g2", -1, "rewrite", mixed⟩))) := by
  have hwhole : mixed.Whole := by
    refine .obj (List.forall_mem_cons.mpr ⟨.arr ?_, List.forall_mem_singleton.mpr (.obj ?_)⟩)
    · simp [Whole.null, Whole.bool, Whole.str]
    · exact List.forall_mem_cons.mpr
        ⟨.num (.neg (by decide) (by decide)), List.forall_mem_singleton.mpr (.num (.nat (by decide)))⟩
  -- no key comes twice in an object of these settings, and they are not deep
  have hsettled : Settled (nestingLimit - 1) mixed := by
    refine .obj (List.pairwise_pair.mpr (by decide)) (List.forall_mem_cons.mpr
      ⟨.arr ?_, List.forall_mem_singleton.mpr (.obj (List.pairwise_pair.mpr (by decide)) ?_)⟩)
    · simp [Settled.null, Settled.bool, Settled.str]
    · exact List.forall_mem_cons.mpr ⟨.num _, List.forall_mem_singleton.mpr (.num _)⟩
  have hproper : Layout.Proper (.gate "f2" "g2") := by decide
  have hgate : (Upsert.gate "f" ⟨"g", -1, "rewrite", mixed⟩).Storable :=
    ⟨by decide, by decide, hwhole, hsettled⟩
  obtain ⟨m, v, hlog, -, hv, -, hchange⟩ :=
    change_of_stored (Layout.ofPrefix "/hw") Store.empty hproper hgate rfl
  cases hv
  exact ⟨hproper, hgate, m, hlog, hchange⟩

end Feed

end Turnpike
