/-
  Playing back instead of following.

  A proxy that follows a store gets every mutation as a change, in order.  One that comes later gets
  the snapshot of the store, and should then be configured in the same way.  The two reach that
  configuration on different roads: the first one through every state that there ever was, the
  second one straight, in an order of its own, and at times of its own.

  1. **Following** (`Follows`).  The run puts and deletes keys of entities, and the proxy applies
     every change that it is told.  A server is put while its backend is there, and an entity is
     deleted when nothing is left under it; without this the proxy would have brought or dropped
     something that the store never knew of.  Nothing is said of the order otherwise, of the times,
     or of the values.

  2. **The invariant** (`Mirrors`).  The proxy shows what the store holds, entity by entity: what it
     shows of a name (`facet?`) is what the value under the key of this name describes
     (`entityAt?`).  So one put or delete changes both sides in one name, and the lemmas that say so
     for the store (`entityAt?_put`, `entityAt?_delete`) meet those that say so for the proxy.  That
     values stay readable and that the proxy is sane is carried along.

  3. **Consistency** (`Mirrors.consistent`).  The crux is that what the store holds can be put into
     a new proxy at all: names are distinct, what an entity needs is there, no address and no route
     comes up twice.  It is known since all of it is in place at once, in the proxy that has
     followed.

  4. **Playing back** (`replay_snapshot`).  Entities that are consistent can be put one by one, in
     the order of a snapshot, which puts each behind what it needs; and then the proxy shows each of
     them and nothing else.  Two proxies that show the same have the same picture.
-/
import Turnpike.Proofs.Feed.Layout
import Turnpike.Proofs.Feed.Snapshot
import Turnpike.Proofs.Store.Log

namespace Turnpike.Feed

open Turnpike.Entity Turnpike.Proxy

/-! ## Following -/

/-- What a store and a new proxy that follows it, in whichever phase, can come to.  Only keys of
    entities are put and deleted, and the proxy applies every change.  A server is put while its
    backend is there, and an entity is deleted when nothing is left under it. -/
inductive Follows (g : Ground) (l : Layout) (id : Nat) (o : Options) : Store → Proxy → Prop where
  | start (history : Nat) (phase : Phase) :
      Follows g l id o (.make history) { make id o with phase := phase }
  | put {s : Store} {p : Proxy} {r : Ref} {value : String} {c : Change} (now : Nat)
      (before : Follows g l id o s p) (named : l.classify (l.key r) = some r)
      (told : l.change (.ofMutation ⟨l.key r, some value, s.revision + 1⟩) = .ok (some c))
      (housed : ∀ b i, r = .server b i → l.key (.backend b) ∈ s.entries.keys)
      (applied : (p.apply g now c).2 = .ok ()) :
      Follows g l id o (s.put (l.key r) value) (p.apply g now c).1
  | delete {s : Store} {p : Proxy} {r : Ref} {c : Change} (now : Nat)
      (before : Follows g l id o s p) (named : l.classify (l.key r) = some r)
      (told : l.change (.ofMutation ⟨l.key r, none, s.revision + 1⟩) = .ok (some c))
      (bare : ∀ key ∈ s.entries.keys, (l.classify key).bind owner? ≠ some r)
      (applied : (p.apply g now c).2 = .ok ()) :
      Follows g l id o (s.delete (l.key r)) (p.apply g now c).1

/-- A value that describes an entity is put under the key of that entity. -/
theorem Follows.put_entity {g : Ground} {l : Layout} {id : Nat} {o : Options} {s : Store}
    {p : Proxy} (h : Follows g l id o s p) (now : Nat) {r : Ref} {value : String} {u : Upsert}
    (hids : ∀ i ∈ Layout.ids r, Layout.Plain i) (hu : entityOf? r value = some u)
    (housed : ∀ b i, r = .server b i → l.key (.backend b) ∈ s.entries.keys)
    (happlied : (p.apply g now (.upsert u)).2 = .ok ()) :
    Follows g l id o (s.put (l.key r) value) (p.apply g now (.upsert u)).1 := by
  have hr : l.classify (l.key r) = some r := Layout.classify_key_iff.mpr hids
  exact h.put now hr ((Layout.change_put hr).mpr ⟨u, hu, rfl⟩) housed happlied

/-- The key of an entity is deleted. -/
theorem Follows.delete_entity {g : Ground} {l : Layout} {id : Nat} {o : Options} {s : Store}
    {p : Proxy} (h : Follows g l id o s p) (now : Nat) {r : Ref}
    (hids : ∀ i ∈ Layout.ids r, Layout.Plain i)
    (hbare : ∀ key ∈ s.entries.keys, (l.classify key).bind owner? ≠ some r)
    (happlied : (p.apply g now (.delete r)).2 = .ok ()) :
    Follows g l id o (s.delete (l.key r)) (p.apply g now (.delete r)).1 := by
  have hr : l.classify (l.key r) = some r := Layout.classify_key_iff.mpr hids
  exact h.delete now hr ((Layout.change_delete hr).mpr rfl) hbare happlied

/-! ## What the store holds -/

section Held

variable {l : Layout} {s : Store} {r : Ref} {u : Upsert}

/-- The entity of that name in the store. -/
def entityAt? (l : Layout) (s : Store) (r : Ref) : Option Upsert :=
  if l.classify (l.key r) = some r then (s.get? (l.key r)).bind fun e => entityOf? r e.value
  else none

/-- Every key is the key of an entity. -/
def Named (l : Layout) (s : Store) : Prop :=
  ∀ key e, s.get? key = some e → ∃ r, l.classify key = some r ∧ l.key r = key

/-- Every key is the key of an entity and holds one. -/
def Readable (l : Layout) (s : Store) : Prop :=
  ∀ key e, s.get? key = some e → ∃ r u, l.classify key = some r ∧ l.key r = key ∧
    entityOf? r e.value = some u

/-- There is an entity of a name when its key names it and the value there describes it. -/
theorem entityAt?_eq_some :
    entityAt? l s r = some u ↔ l.classify (l.key r) = some r ∧
      ∃ e, s.get? (l.key r) = some e ∧ entityOf? r e.value = some u := by
  unfold entityAt?
  split
  case isTrue h =>
    rw [Option.bind_eq_some_iff]
    exact ⟨fun hu => ⟨h, hu⟩, fun hu => hu.2⟩
  case isFalse h => exact ⟨nofun, fun hu => absurd hu.1 h⟩

theorem ref_of_entityAt? (h : entityAt? l s r = some u) : u.ref = r := by
  obtain ⟨-, e, -, hu⟩ := entityAt?_eq_some.mp h
  exact ref_of_entityOf? hu

/-- A key that is there holds its entity. -/
theorem Readable.exists_entity (h : Readable l s) (hr : l.classify (l.key r) = some r)
    (hthere : l.key r ∈ s.entries.keys) : ∃ u, entityAt? l s r = some u := by
  obtain ⟨e, he⟩ := Dictionary.contains_iff.mp (Dictionary.mem_keys_iff.mp hthere)
  obtain ⟨r', u, hr', -, hu⟩ := h (l.key r) e he
  rw [hr] at hr'
  cases hr'
  exact ⟨u, entityAt?_eq_some.mpr ⟨hr, e, he, hu⟩⟩

/-- Where every key holds its entity, every key is that of an entity. -/
theorem Readable.named (h : Readable l s) : Named l s := by
  intro key e he
  obtain ⟨r, u, hr, hkey, -⟩ := h key e he
  exact ⟨r, hr, hkey⟩

/-- A put under the key of an entity leaves no other keys. -/
theorem Named.put (h : Named l s) (hr : l.classify (l.key r) = some r) (value : String) :
    Named l (s.put (l.key r) value) := by
  intro key e he
  rw [Store.get?_put] at he
  split at he
  case isTrue heq => exact ⟨r, heq ▸ hr, heq.symm⟩
  case isFalse => exact h key e he

/-- A deletion leaves no other keys. -/
theorem Named.delete (h : Named l s) (key : String) : Named l (s.delete key) := by
  intro other e he
  rw [Store.get?_delete] at he
  split at he
  case isTrue => cases he
  case isFalse => exact h other e he

/-- What stands under a key, if it is readable. -/
theorem Named.entity (h : Named l s) {key : String} {e : Store.Entry}
    (he : (key, e) ∈ s.list l.root) (hu : (l.classify key).bind (entityOf? · e.value) = some u) :
    l.key u.ref = key ∧ entityAt? l s u.ref = some u := by
  obtain ⟨r, hr, hru⟩ := Option.bind_eq_some_iff.mp hu
  obtain ⟨r', hr', hkey⟩ := h key e (Store.mem_list.mp he).2
  rw [hr] at hr'
  cases hr'
  rw [ref_of_entityOf? hru]
  refine ⟨hkey, entityAt?_eq_some.mpr ⟨by rw [hkey, hr], e, ?_, hru⟩⟩
  rw [hkey]
  exact (Store.mem_list.mp he).2

/-- The listing holds the entities of the store. -/
theorem Named.mem_entities (h : Named l s) :
    u ∈ l.entities (s.list l.root) ↔ entityAt? l s u.ref = some u := by
  unfold Layout.entities
  rw [List.mem_filterMap]
  constructor
  · rintro ⟨⟨key, e⟩, he, hu⟩
    exact (h.entity he hu).2
  · intro hu
    obtain ⟨hr, e, he, hru⟩ := entityAt?_eq_some.mp hu
    refine ⟨(l.key u.ref, e), Store.mem_list.mpr ⟨Layout.under_of_classify hr, he⟩, ?_⟩
    show (l.classify (l.key u.ref)).bind (entityOf? · e.value) = some u
    rw [hr]
    exact hru

theorem Named.mem_of_entityAt? (h : Named l s) (hu : entityAt? l s r = some u) :
    u ∈ l.entities (s.list l.root) := by
  rw [h.mem_entities, ref_of_entityAt? hu, hu]

/-- No two entities of a listing have one name, as no two keys are equal. -/
theorem Named.distinct (h : Named l s) :
    ((l.entities (s.list l.root)).map Upsert.ref).Nodup := by
  unfold Layout.entities
  rw [List.Nodup, List.pairwise_map, List.pairwise_filterMap]
  have hkeys : (s.list l.root).Pairwise fun a b => a.1 < b.1 :=
    List.Pairwise.filter _ s.entries.ordered
  refine hkeys.imp_of_mem ?_
  rintro ⟨k, e⟩ ⟨k', e'⟩ he he' hlt u hu u' hu' href
  have hk := (h.entity he hu).1
  have hk' := (h.entity he' hu').1
  rw [href, hk'] at hk
  rw [hk] at hlt
  exact String.lt_irrefl _ hlt

end Held

/-! ## The invariant -/

/-- The proxy shows what the store holds. -/
structure Mirrors (g : Ground) (l : Layout) (s : Store) (p : Proxy) : Prop where
  tied : p.skeleton.Tied
  sane : p.Sane
  readable : Readable l s
  facets : ∀ r, p.facet? r = (entityAt? l s r).map facetOf
  valid : ∀ r u, entityAt? l s r = some u → Valid g u

section Mirrors

variable {g : Ground} {l : Layout} {s : Store} {p q : Proxy} {now : Nat}

/-- In a new store there is nothing. -/
theorem entityAt?_make (l : Layout) (history : Nat) (r : Ref) :
    entityAt? l (.make history) r = none := by
  unfold entityAt?
  split
  case isTrue => rfl
  case isFalse => rfl

/-- A new proxy shows nothing, and a new store holds nothing. -/
theorem mirrors_start {id : Nat} {o : Options} (ho : o.defaultListener = none) (history : Nat)
    (phase : Phase) : Mirrors g l (.make history) { make id o with phase := phase } := by
  have hsane : (make id o).Sane := sane_make id o
  have hshow : ∀ r, (make id o).facet? r = none := facet?_make ho
  refine ⟨tied_make id o, ⟨hsane.sound, hsane.apart⟩, nofun, fun r => ?_, fun r u hu => ?_⟩
  · rw [entityAt?_make]
    exact hshow r
  · rw [entityAt?_make] at hu
    cases hu

/-- A store that differs in one key, the key of an entity, differs in that entity. -/
theorem entityAt?_of_get? {s' : Store} {r : Ref} {x : Option Store.Entry}
    (hr : l.classify (l.key r) = some r)
    (hget : ∀ key, s'.get? key = if key = l.key r then x else s.get? key) (r' : Ref) :
    entityAt? l s' r' =
      if r' = r then x.bind fun e => entityOf? r e.value else entityAt? l s r' := by
  unfold entityAt?
  rw [hget]
  -- only the entity of this key can be another one than before
  by_cases heq : r' = r
  · subst heq
    rw [if_pos hr, if_pos rfl, if_pos rfl]
  · rw [if_neg heq]
    split
    case isTrue hr' =>
      -- two entities do not have the same key
      have hkey : l.key r' ≠ l.key r := by
        intro hsame
        rw [hsame, hr] at hr'
        exact heq (Option.some.inj hr').symm
      rw [if_neg hkey]
    case isFalse => rfl

/-- After a put the entity of the key is the one that was put. -/
theorem entityAt?_put {r : Ref} {value : String} {u : Upsert}
    (hr : l.classify (l.key r) = some r) (hu : entityOf? r value = some u) (r' : Ref) :
    entityAt? l (s.put (l.key r) value) r' = if r' = r then some u else entityAt? l s r' := by
  rw [entityAt?_of_get? hr (Store.get?_put s (l.key r) value), Option.bind_some, hu]

theorem entityAt?_delete {r : Ref} (hr : l.classify (l.key r) = some r) (r' : Ref) :
    entityAt? l (s.delete (l.key r)) r' = if r' = r then none else entityAt? l s r' := by
  rw [entityAt?_of_get? hr (Store.get?_delete s (l.key r)), Option.bind_none]

/-- A value that describes its entity can be read. -/
theorem Readable.put (h : Readable l s) {r : Ref} {value : String} {u : Upsert}
    (hr : l.classify (l.key r) = some r) (hu : entityOf? r value = some u) :
    Readable l (s.put (l.key r) value) := by
  intro key e he
  rw [Store.get?_put] at he
  split at he
  case isTrue heq =>
    cases he
    exact ⟨r, u, heq ▸ hr, heq.symm, hu⟩
  case isFalse => exact h key e he

/-- A deletion leaves nothing that cannot be read. -/
theorem Readable.delete (h : Readable l s) (key : String) : Readable l (s.delete key) := by
  intro other e he
  rw [Store.get?_delete] at he
  split at he
  case isTrue => cases he
  case isFalse => exact h other e he

/-- An entity that is put is shown, and nothing else changes. -/
theorem Mirrors.put (h : Mirrors g l s p) {r : Ref} {value : String} {u : Upsert}
    (hr : l.classify (l.key r) = some r) (hu : entityOf? r value = some u)
    (housed : ∀ b i, r = .server b i → l.key (.backend b) ∈ s.entries.keys)
    (ha : Applied g now p (.upsert u) q) : Mirrors g l (s.put (l.key r) value) q := by
  have href := ref_of_entityOf? hu
  -- putting a server must not bring a backend with it
  have hclear : p.Clear (.upsert u) := by
    cases u with
    | server b t =>
      -- the backend has a key, since the server has one
      have hids := Layout.classify_key_iff.mp hr
      rw [← href] at hids
      have hback : l.classify (l.key (.backend b)) = some (.backend b) :=
        Layout.classify_key_iff.mpr fun id hid => hids id (List.mem_cons.mpr (Or.inl (by
          simpa [Layout.ids] using hid)))
      obtain ⟨v, hv⟩ := h.readable.exists_entity hback (housed b t.id href.symm)
      show p.facet? (.backend b) ≠ none
      rw [h.facets, hv]
      exact Option.some_ne_none _
    | _ => trivial
  -- what could be put is valid
  obtain ⟨y, -, hrenewed⟩ := ha.renewed
  refine ⟨tied_applied h.tied ha, h.sane.applied ha, h.readable.put hr hu, fun r' => ?_,
    fun r' v hv => ?_⟩
  · rw [ha.facet?_eq h.sane hclear, entityAt?_put hr hu, Change.ref, href]
    split
    case isTrue => rfl
    case isFalse => exact h.facets r'
  · rw [entityAt?_put hr hu] at hv
    split at hv
    case isTrue =>
      cases hv
      exact hrenewed.valid (h.sane.sound _)
    case isFalse => exact h.valid r' v hv

/-- An entity that is deleted is not shown any more, and nothing else changes. -/
theorem Mirrors.delete (h : Mirrors g l s p) {r : Ref} (hr : l.classify (l.key r) = some r)
    (bare : ∀ key ∈ s.entries.keys, (l.classify key).bind owner? ≠ some r)
    (ha : Applied g now p (.delete r) q) : Mirrors g l (s.delete (l.key r)) q := by
  -- and a deletion must not drop what is under the entity
  have hclear : p.Clear (.delete r) := by
    intro r' howner
    rw [h.facets]
    cases hat : entityAt? l s r' with
    | none => rfl
    | some v =>
      obtain ⟨hr', e, he, -⟩ := entityAt?_eq_some.mp hat
      have hthere : l.key r' ∈ s.entries.keys := Dictionary.mem_keys_of_get? he
      refine absurd ?_ (bare _ hthere)
      rw [hr', Option.bind_some, howner]
  refine ⟨tied_applied h.tied ha, h.sane.applied ha, h.readable.delete _, fun r' => ?_,
    fun r' v hv => ?_⟩
  · rw [ha.facet?_eq h.sane hclear, entityAt?_delete hr, Change.ref]
    split
    case isTrue => rfl
    case isFalse => exact h.facets r'
  · rw [entityAt?_delete hr] at hv
    split at hv
    case isTrue => cases hv
    case isFalse => exact h.valid r' v hv

/-- The frontend of a facet is in service. -/
theorem Mirrors.service (h : Mirrors g l s p) {f : Frontend}
    (hf : entityAt? l s (.frontend f.id) = some (.frontend f)) :
    ∃ t, p.frontends.get? f.id = some t ∧ t.spec = f := by
  have hshow := h.facets (.frontend f.id)
  rw [hf, facet?_frontend] at hshow
  obtain ⟨t, ht, hspec⟩ := Option.map_eq_some_iff.mp hshow
  exact ⟨t, ht, Facet.frontend.inj hspec⟩

/-- The listener of a facet is in service. -/
theorem Mirrors.listener (h : Mirrors g l s p) {m : Listener}
    (hm : entityAt? l s (.listener m.id) = some (.listener m)) :
    p.content? (.listener m.id) = some (.listener m) := by
  have hshow := h.facets (.listener m.id)
  rw [hm, facet?_listener] at hshow
  obtain ⟨e, he, hspec⟩ := Option.map_eq_some_iff.mp hshow
  rw [content?_listener he, Facet.listener.inj hspec]

/-- What is shown is held. -/
theorem Mirrors.exists_entity (h : Mirrors g l s p) {r : Ref} (hr : p.facet? r ≠ none) :
    ∃ u ∈ l.entities (s.list l.root), u.ref = r := by
  rw [h.facets] at hr
  cases hat : entityAt? l s r with
  | none =>
    rw [hat] at hr
    exact absurd rfl hr
  | some u =>
    exact ⟨u, h.readable.named.mem_of_entityAt? hat, ref_of_entityAt? hat⟩

/-- What an entity refers to is there. -/
theorem Mirrors.needs (h : Mirrors g l s p) {u : Upsert} {r : Ref}
    (hu : entityAt? l s u.ref = some u) (hr : needs? u = some r) : p.facet? r ≠ none := by
  have hshow := h.facets u.ref
  rw [hu] at hshow
  cases u with
  | server b t =>
    obtain rfl := Option.some.inj hr
    rw [Upsert.ref, facet?_server] at hshow
    obtain ⟨c, hc, -⟩ := Option.bind_eq_some_iff.mp hshow
    rw [facet?_backend, hc]
    exact Option.some_ne_none _
  | frontend f =>
    obtain rfl := Option.some.inj hr
    obtain ⟨t, ht, rfl⟩ := h.service hu
    obtain ⟨c, hc, -⟩ := (integrity_of_tied h.tied).backed _ t ht
    rw [facet?_backend, hc]
    exact Option.some_ne_none _
  | gate f t =>
    obtain rfl := Option.some.inj hr
    rw [Upsert.ref, facet?_gate] at hshow
    obtain ⟨x, hx, -⟩ := Option.bind_eq_some_iff.mp hshow
    rw [facet?_frontend, hx]
    exact Option.some_ne_none _
  | _ => cases hr

/-- The entities in the store can all be in place at once: they are, in the proxy. -/
theorem Mirrors.consistent (h : Mirrors g l s p) :
    Consistent g (l.entities (s.list l.root)) where
  distinct := h.readable.named.distinct
  valid := fun u hu => h.valid u.ref u (h.readable.named.mem_entities.mp hu)
  backed := by
    intro u hu r hr
    have hneeds := h.needs (h.readable.named.mem_entities.mp hu) hr
    obtain ⟨v, hv, rfl⟩ := h.exists_entity hneeds
    exact List.mem_map_of_mem hv
  apart := by
    intro m m' hm hm' haddress
    have hentity := h.readable.named.mem_entities.mp hm
    have hentity' := h.readable.named.mem_entities.mp hm'
    have hplace := h.listener hentity
    have hplace' := h.listener hentity'
    exact h.sane.apart m.id m'.id m m' hplace hplace' haddress
  routes := by
    intro f f' hf hf' hcanonical
    have hentity := h.readable.named.mem_entities.mp hf
    have hentity' := h.readable.named.mem_entities.mp hf'
    -- two services of the proxy with one route are one
    obtain ⟨t, ht, rfl⟩ := h.service hentity
    obtain ⟨t', ht', rfl⟩ := h.service hentity'
    exact id_eq_of_route h.tied ht ht' hcanonical

end Mirrors

/-! ## Playing back -/

/-- A proxy that has followed a store shows what it holds. -/
theorem mirrors_of_follows {g : Ground} {l : Layout} {id : Nat} {o : Options} {s : Store}
    {p : Proxy} (ho : o.defaultListener = none) (h : Follows g l id o s p) : Mirrors g l s p := by
  induction h with
  | start history phase => exact mirrors_start ho history phase
  | put now _ named told housed applied ih =>
    obtain ⟨u, hu, rfl⟩ := (Layout.change_put named).mp told
    exact ih.put named hu housed (applied_of_ok applied)
  | delete now _ named told bare applied ih =>
    obtain rfl := (Layout.change_delete named).mp told
    exact ih.delete named bare (applied_of_ok applied)

/-- A new proxy into which the snapshot of a store is played can apply every change, whatever the
    time at which each of them is applied, and is then configured as one that has followed the store
    from the beginning. -/
theorem replay_snapshot {g : Ground} {l : Layout} {id id' : Nat} {o o' : Options} {s : Store}
    {p : Proxy} (ho : o.defaultListener = none) (ho' : o'.defaultListener = none)
    (h : Follows g l id o s p) (clock : Nat → Nat) :
    (∀ x ∈ (make id' o').outcomes g clock (l.snapshot s).changes, x = .ok ()) ∧
      ((make id' o').playOn g clock (l.snapshot s).changes).picture = p.picture := by
  have hmirrors := mirrors_of_follows ho h
  have hconsistent := hmirrors.consistent
  have hperm : (l.snapshot s).upserts.Perm (l.entities (s.list l.root)) := by
    rw [l.snapshot_eq]
    exact Snapshot.upserts_perm hconsistent
  -- the entities that the proxy follows can be in place at once, so they can be put one by one
  have hempty : Built (make id' o') [] := built_make ho'
  obtain ⟨hok, hbuilt⟩ :
      (∀ x ∈ (make id' o').outcomes g clock (l.snapshot s).changes, x = .ok ()) ∧
        Built ((make id' o').playOn g clock (l.snapshot s).changes) (l.snapshot s).upserts :=
    hempty.playOn (hconsistent.of_perm hperm) (Snapshot.ranked_upserts _)
  -- name by name: both proxies show what the store holds
  refine ⟨hok, picture_eq hbuilt.sane hmirrors.sane fun r => ?_⟩
  rw [hmirrors.facets]
  cases hat : entityAt? l s r with
  | some u =>
    have href := ref_of_entityAt? hat
    have hmem : u ∈ l.entities (s.list l.root) :=
      hmirrors.readable.named.mem_entities.mpr (by rw [href, hat])
    rw [← href, hbuilt.shows u (hperm.mem_iff.mpr hmem)]
    rfl
  | none =>
    -- what the store does not hold was not put either
    refine hbuilt.rest r fun hr => ?_
    obtain ⟨u, hu, rfl⟩ := List.mem_map.mp hr
    have hentity := hmirrors.readable.named.mem_entities.mp (hperm.mem_iff.mp hu)
    rw [hat] at hentity
    cases hentity

/-- A frontend moves from one backend to another that was put later, and the first one is deleted
    with its server.  The proxy that follows is active. -/
theorem replay_snapshot_after_move :
    ∃ s p, Follows ⟨.standard, fun _ => true⟩ ⟨"/t"⟩ 0 {} s p ∧
      s.entries.keys = ["/t/backends/b/backend", "/t/frontends/f/frontend"] ∧
      (∀ x ∈ (make 1 {}).outcomes ⟨.standard, fun _ => true⟩ (7 + ·)
        (Layout.snapshot ⟨"/t"⟩ s).changes, x = .ok ()) ∧
      ((make 1 {}).playOn ⟨.standard, fun _ => true⟩ (7 + ·)
        (Layout.snapshot ⟨"/t"⟩ s).changes).picture = p.picture := by
  have ha : entityOf? (.backend "a") "\x7b\x7d" = some (.backend ⟨"a", {}⟩) := rfl
  have hb : entityOf? (.backend "b") "\x7b\x7d" = some (.backend ⟨"b", {}⟩) := rfl
  have hserver : ofText? Server.read? "\x7b\"url\":\"http://h\"\x7d" = some ⟨"", "http://h"⟩ := by
    decide +kernel
  have hs : entityOf? (.server "a" "s") "\x7b\"url\":\"http://h\"\x7d" =
      some (.server "a" ⟨"s", "http://h"⟩) := by
    rw [entityOf?, hserver]
    rfl
  have hfront : ofText? Frontend.read?
      "\x7b\"route\":\"Path(\x60/\x60)\",\"backend_id\":\"a\"\x7d" =
      some ⟨"", "Path(\x60/\x60)", "a", {}⟩ := by decide +kernel
  have hf : entityOf? (.frontend "f")
      "\x7b\"route\":\"Path(\x60/\x60)\",\"backend_id\":\"a\"\x7d" =
      some (.frontend ⟨"f", "Path(\x60/\x60)", "a", {}⟩) := by
    rw [entityOf?, hfront]
    rfl
  have hfront' : ofText? Frontend.read?
      "\x7b\"route\":\"Path(\x60/\x60)\",\"backend_id\":\"b\"\x7d" =
      some ⟨"", "Path(\x60/\x60)", "b", {}⟩ := by decide +kernel
  have hf' : entityOf? (.frontend "f")
      "\x7b\"route\":\"Path(\x60/\x60)\",\"backend_id\":\"b\"\x7d" =
      some (.frontend ⟨"f", "Path(\x60/\x60)", "b", {}⟩) := by
    rw [entityOf?, hfront']
    rfl
  have h0 : Follows ⟨.standard, fun _ => true⟩ ⟨"/t"⟩ 0 {} _ _ := .start 1 .active
  have h1 := h0.put_entity 0 (by decide) ha nofun (by decide +kernel)
  have h2 := h1.put_entity 1 (by decide) hs (by intro b i h; cases h; decide +kernel)
    (by decide +kernel)
  have h3 := h2.put_entity 2 (by decide) hf nofun (by decide +kernel)
  have h4 := h3.put_entity 3 (by decide) hb nofun (by decide +kernel)
  have h5 := h4.put_entity 4 (by decide) hf' nofun (by decide +kernel)
  have h6 := h5.delete_entity 5 (r := .server "a" "s") (by decide) (by decide +kernel)
    (by decide +kernel)
  have h7 := h6.delete_entity 6 (r := .backend "a") (by decide) (by decide +kernel)
    (by decide +kernel)
  exact ⟨_, _, h7, by decide +kernel, replay_snapshot rfl rfl h7 (7 + ·)⟩

end Turnpike.Feed
