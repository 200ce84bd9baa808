/-
  Gathering entities with their parts.

  A snapshot is made by walks over all entities: one puts the backends into a dictionary and another
  puts each server into the group of its backend, and so it is done with frontends and gates.
  Whatever the entities are, it must be known what has been gathered then: nothing is lost, nothing
  comes twice, and what is left out or added is known.  Since there are two such pairs of walks,
  this is shown of any pair.

  1. **Kinds** (`kind`).  The entities of one rank, in the order in which they came.  A walk only
     ever does something at the entities of its own rank.

  2. **What counts** (`outlasting`).  Backends and frontends may stand among the entities more than
     once, and then the last of each counts, as it takes the place of an earlier one.  One more
     entity drives out the one of its name (`outlasting_append`), and of the other kinds none is
     lost (`kind_outlasting`).

  3. **The invariant** (`Gathered`).  A dictionary holds some entities, each with its parts, up to
     the order.  There are three steps: one more entity (`Gathered.insert`), one in place of another
     (`Gathered.replace`), and one more part (`Gathered.extend`).  A walk is an induction from its
     end with these steps, where `kind` tells whether anything happens.

  4. **Three walks.**  Heads are gathered by `Gathered.fold_insert`.  What belongs to a head that is
     not there is left out (`Gathered.fold_extend`) or brings a plain one (`Gathered.fold_bring`);
     in the latter case a plain one is brought once only, and the list of those that were missing is
     carried along (`Missing`).
-/
import Mathlib.Data.List.Induction
import Turnpike.Proofs.Dictionary
import Turnpike.Proofs.Proxy.Playback

namespace Turnpike.Feed

open Turnpike.Entity Turnpike.Proxy

/-! ## Entities of one rank -/

/-- The entities of one rank. -/
def kind (n : Nat) (us : List Upsert) : List Upsert := us.filter fun u => rank u.ref == n

/-- One more entity counts for its own rank. -/
theorem kind_append (n : Nat) (us : List Upsert) (u : Upsert) :
    kind n (us ++ [u]) = if rank u.ref = n then kind n us ++ [u] else kind n us := by
  unfold kind
  rw [List.filter_append]
  split
  case isTrue h => rw [List.filter_singleton, h, beq_self_eq_true, cond_true]
  case isFalse h => rw [List.filter_singleton, beq_false_of_ne h, cond_false, List.append_nil]

theorem mem_kind {n : Nat} {us : List Upsert} {u : Upsert} :
    u ∈ kind n us ↔ u ∈ us ∧ rank u.ref = n := by
  unfold kind
  rw [List.mem_filter, beq_iff_eq]

/-- The names of a rank are to be found among the entities of it. -/
theorem mem_refs_kind {r : Ref} {n : Nat} {us : List Upsert} (hn : rank r = n) :
    r ∈ (kind n us).map Upsert.ref ↔ r ∈ us.map Upsert.ref := by
  simp only [List.mem_map, mem_kind]
  constructor
  · rintro ⟨u, ⟨hu, -⟩, rfl⟩
    exact ⟨u, hu, rfl⟩
  · rintro ⟨u, hu, rfl⟩
    exact ⟨u, ⟨hu, hn⟩, rfl⟩

/-! ## Backends and frontends that count -/

/-- Is this a backend or a frontend, which others belong to? -/
def isHome : Ref → Bool
  | .backend _ | .frontend _ => true
  | _ => false

/-- The entities without the backends and frontends of which there is a later one. -/
def outlasting : List Upsert → List Upsert
  | [] => []
  | u :: us =>
    if isHome u.ref && us.any (·.ref == u.ref) then outlasting us else u :: outlasting us

theorem any_ref_eq_true {us : List Upsert} {r : Ref} :
    us.any (·.ref == r) = true ↔ r ∈ us.map Upsert.ref := by
  rw [List.any_eq_true, List.mem_map]
  simp only [beq_iff_eq]

/-- One more entity drives out the one of that name. -/
theorem outlasting_append (us : List Upsert) (u : Upsert) :
    outlasting (us ++ [u]) =
      (outlasting us).filter (fun w => !(isHome w.ref && w.ref == u.ref)) ++ [u] := by
  induction us with
  | nil => simp [outlasting]
  | cons w us ih =>
    rw [List.cons_append, outlasting, outlasting, ih, List.any_append]
    -- an entity may have been driven out before, or be driven out now, or stay
    by_cases hlater : (isHome w.ref && us.any (·.ref == w.ref)) = true
    · have hstays : (isHome w.ref && (us.any (·.ref == w.ref) || [u].any (·.ref == w.ref))) =
          true := by
        rw [Bool.and_or_distrib_left, hlater, Bool.true_or]
      rw [if_pos hlater, if_pos hstays]
    · have hsame : (isHome w.ref && (us.any (·.ref == w.ref) || [u].any (·.ref == w.ref))) =
          (isHome w.ref && w.ref == u.ref) := by
        rw [Bool.and_or_distrib_left, Bool.eq_false_iff.mpr hlater, Bool.false_or, List.any_cons,
          List.any_nil, Bool.or_false, BEq.comm]
      rw [if_neg hlater, hsame, List.filter_cons]
      cases isHome w.ref && w.ref == u.ref with
      | true => rfl
      | false => rfl

/-- No name is lost. -/
theorem mem_refs_outlasting {us : List Upsert} {r : Ref} :
    r ∈ (outlasting us).map Upsert.ref ↔ r ∈ us.map Upsert.ref := by
  induction us with
  | nil => exact Iff.rfl
  | cons w us ih =>
    rw [outlasting]
    split
    case isTrue hlater =>
      rw [ih, List.map_cons, List.mem_cons]
      have hmem := any_ref_eq_true.mp ((Bool.and_eq_true _ _).mp hlater).2
      constructor
      · exact Or.inr
      · rintro (rfl | h)
        · exact hmem
        · exact h
    case isFalse => rw [List.map_cons, List.map_cons, List.mem_cons, List.mem_cons, ih]

/-- Where no name comes twice, all entities count. -/
theorem outlasting_of_nodup {us : List Upsert} (h : (us.map Upsert.ref).Nodup) :
    outlasting us = us := by
  induction us with
  | nil => rfl
  | cons w us ih =>
    rw [List.map_cons, List.nodup_cons] at h
    have hnone : us.any (·.ref == w.ref) = false := by
      rw [Bool.eq_false_iff, Ne, any_ref_eq_true]
      exact h.1
    rw [outlasting, hnone, Bool.and_false, ih h.2]
    rfl

/-- Of other entities none is lost. -/
theorem kind_outlasting {n : Nat} (hn : ∀ r, rank r = n → isHome r = false) (us : List Upsert) :
    kind n (outlasting us) = kind n us := by
  induction us with
  | nil => rfl
  | cons w us ih =>
    unfold kind at ih ⊢
    rw [outlasting]
    split
    case isTrue hlater =>
      have hother : ¬(rank w.ref == n) = true := by
        intro h
        rw [hn w.ref (beq_iff_eq.mp h), Bool.false_and] at hlater
        cases hlater
      rw [ih]
      exact (List.filter_cons_of_neg (p := fun u : Upsert => rank u.ref == n) hother).symm
    case isFalse => rw [List.filter_cons, List.filter_cons, ih]

/-- What an entity drives out is of its own rank. -/
theorem kind_filter_other {n : Nat} {u : Upsert} (hu : rank u.ref ≠ n) (us : List Upsert) :
    kind n (us.filter fun w => !(isHome w.ref && w.ref == u.ref)) = kind n us := by
  unfold kind
  rw [List.filter_filter]
  refine List.filter_congr fun w _ => ?_
  by_cases hw : w.ref = u.ref
  · rw [hw, beq_false_of_ne hu, Bool.false_and]
  · rw [beq_false_of_ne hw, Bool.and_false, Bool.not_false, Bool.and_true]

/-- What one more entity of the rank does to those that count. -/
theorem kind_outlasting_append {n : Nat} {u : Upsert} (hu : rank u.ref = n)
    (hhome : isHome u.ref = true) (us : List Upsert) :
    kind n (outlasting (us ++ [u])) =
      (kind n (outlasting us)).filter (fun w => w.ref != u.ref) ++ [u] := by
  rw [outlasting_append, kind_append, if_pos hu]
  unfold kind
  rw [List.filter_filter, List.filter_filter]
  congr 1
  refine List.filter_congr fun w _ => ?_
  by_cases hw : w.ref = u.ref
  · rw [hw, hhome, beq_self_eq_true, bne_self_eq_false, Bool.and_comm]
    rfl
  · rw [beq_false_of_ne hw, Bool.and_false, Bool.not_false, Bool.and_comm, bne_iff_ne.mpr hw]

/-! ## Gathering -/

section Gathering

variable {α : Type}

/-- A dictionary holds these entities, each with its parts. -/
structure Gathered (own : α → Upsert) (parts : α → List Upsert) (ref : String → Ref)
    (d : Dictionary α) (us vs : List Upsert) : Prop where
  heads : (d.values.map own).Perm us
  parts : (d.values.flatMap parts).Perm vs
  /-- An entity stands under its identifier. -/
  named : ∀ k v, d.get? k = some v → (own v).ref = ref k

variable {own : α → Upsert} {parts : α → List Upsert} {ref : String → Ref} {d : Dictionary α}
  {us vs : List Upsert}

theorem Gathered.empty : Gathered own parts ref .empty [] [] := ⟨.nil, .nil, nofun⟩

/-- An entity that is put under its identifier keeps all of them so. -/
theorem Gathered.named_insert (h : Gathered own parts ref d us vs) {k : String} {v : α}
    (hv : (own v).ref = ref k) : ∀ j w, (d.insert k v).get? j = some w → (own w).ref = ref j := by
  intro j w hw
  rw [Dictionary.get?_insert] at hw
  split at hw
  case isTrue heq =>
    cases hw
    rw [hv, heq]
  case isFalse => exact h.named j w hw

/-- One more entity, without parts. -/
theorem Gathered.insert (h : Gathered own parts ref d us vs) {k : String} {v : α}
    (hnew : d.get? k = none) (hv : (own v).ref = ref k) (hparts : parts v = []) :
    Gathered own parts ref (d.insert k v) (us ++ [own v]) vs where
  heads := by
    refine ((d.values_insert_perm k v).map own).trans ?_
    rw [Dictionary.erase_of_get?_eq_none hnew, List.map_cons]
    exact (h.heads.cons (own v)).trans (List.perm_append_singleton _ _).symm
  parts := by
    refine ((d.values_insert_perm k v).flatMap_right parts).trans ?_
    rw [Dictionary.erase_of_get?_eq_none hnew, List.flatMap_cons, hparts, List.nil_append]
    exact h.parts
  named := h.named_insert hv

/-- An entity without parts, in place of one of that name that has none either. -/
theorem Gathered.replace (h : Gathered own parts ref d us []) (hinj : Function.Injective ref)
    {k : String} {v : α} (hv : (own v).ref = ref k) (hparts : parts v = []) :
    Gathered own parts ref (d.insert k v) (us.filter (fun u => u.ref != ref k) ++ [own v]) [] := by
  -- the one in its place is told by its name
  have herase : (d.erase k).values = d.values.filter fun x => (own x).ref != ref k := by
    refine Dictionary.values_erase fun j x hx => ?_
    rw [bne_iff_ne, h.named j x hx]
    exact hinj.ne_iff
  refine ⟨?heads, ?parts, h.named_insert hv⟩
  case heads =>
    have hold := h.heads.filter fun u => u.ref != ref k
    rw [List.filter_map] at hold
    refine ((d.values_insert_perm k v).map own).trans ?_
    rw [List.map_cons, herase]
    exact (hold.cons (own v)).trans (List.perm_append_singleton _ _).symm
  case parts =>
    have hnone := List.flatMap_eq_nil_iff.mp h.parts.eq_nil
    refine ((d.values_insert_perm k v).flatMap_right parts).trans (List.Perm.of_eq ?_)
    rw [List.flatMap_cons, hparts, List.nil_append, herase]
    exact List.flatMap_eq_nil_iff.mpr fun x hx => hnone x (List.mem_filter.mp hx).1

/-- One more part of an entity. -/
theorem Gathered.extend (h : Gathered own parts ref d us vs) {k : String} {v w : α} {u : Upsert}
    (hw : d.get? k = some w) (hown : own v = own w) (hparts : parts v = parts w ++ [u]) :
    Gathered own parts ref (d.insert k v) us (vs ++ [u]) where
  heads := by
    refine ((d.values_insert_perm k v).map own).trans ?_
    refine List.Perm.trans ?_ h.heads
    rw [List.map_cons, hown, ← List.map_cons]
    exact (Dictionary.values_perm hw).symm.map own
  parts := by
    refine ((d.values_insert_perm k v).flatMap_right parts).trans ?_
    refine List.Perm.trans ?_ (h.parts.append_right [u])
    have hold := (Dictionary.values_perm hw).flatMap_right parts
    refine List.Perm.trans ?_ (hold.symm.append_right _)
    rw [List.flatMap_cons, List.flatMap_cons, hparts, List.append_assoc, List.append_assoc]
    exact List.perm_append_comm.append_left _
  named := h.named_insert (by rw [hown]; exact h.named k w hw)

/-- An entity is found under its identifier just when it has been gathered. -/
theorem Gathered.exists_get?_iff (h : Gathered own parts ref d us vs)
    (hinj : Function.Injective ref) {k : String} :
    (∃ w, d.get? k = some w) ↔ ref k ∈ us.map Upsert.ref := by
  constructor
  · rintro ⟨w, hw⟩
    have hmem := h.heads.mem_iff.mp (List.mem_map_of_mem (Dictionary.mem_values_iff.mpr ⟨k, hw⟩))
    rw [← h.named k w hw]
    exact List.mem_map_of_mem hmem
  · intro hk
    obtain ⟨u, hu, href⟩ := List.mem_map.mp hk
    obtain ⟨w, hw, rfl⟩ := List.mem_map.mp (h.heads.mem_iff.mpr hu)
    obtain ⟨j, hj⟩ := Dictionary.mem_values_iff.mp hw
    have hjk : j = k := hinj ((h.named j w hj).symm.trans href)
    exact ⟨w, hjk ▸ hj⟩

/-- Gathers the entities of one rank; the last one of a name stays. -/
theorem Gathered.fold_insert {step : Dictionary α → Upsert → Dictionary α} {n : Nat}
    (hinj : Function.Injective ref) (hhome : ∀ r, rank r = n → isHome r = true)
    (hskip : ∀ d u, rank u.ref ≠ n → step d u = d)
    (hstep : ∀ d u, rank u.ref = n → ∃ k v, step d u = d.insert k v ∧ own v = u ∧ parts v = [] ∧
      u.ref = ref k) (us : List Upsert) :
    Gathered own parts ref (us.foldl step .empty) (kind n (outlasting us)) [] := by
  -- from its end, since the last one of a name is the one that stays
  induction us using List.reverseRecOn with
  | nil => exact .empty
  | append_singleton us u ih =>
    rw [List.foldl_append, List.foldl_cons, List.foldl_nil]
    by_cases hn : rank u.ref = n
    · obtain ⟨k, v, hinsert, rfl, hparts, href⟩ := hstep (us.foldl step .empty) u hn
      rw [hinsert, kind_outlasting_append hn (hhome _ hn), href]
      exact ih.replace hinj href hparts
    · rw [hskip _ u hn, outlasting_append, kind_append, if_neg hn, kind_filter_other hn]
      exact ih

/-- Adds the parts to what has been gathered; what belongs to nothing is left out. -/
theorem Gathered.fold_extend {step : Dictionary α → Upsert → Dictionary α} {n : Nat}
    (hinj : Function.Injective ref) (hskip : ∀ d u, rank u.ref ≠ n → step d u = d)
    (hneeds : ∀ u, rank u.ref = n → ∃ k, needs? u = some (ref k))
    (habsent : ∀ d u k, needs? u = some (ref k) → rank u.ref = n → d.get? k = none → step d u = d)
    (hstep : ∀ d u k w, needs? u = some (ref k) → rank u.ref = n → d.get? k = some w →
      (own w).ref = ref k → ∃ v, step d u = d.insert k v ∧ own v = own w ∧
        parts v = parts w ++ [u]) (h : Gathered own parts ref d us vs) (ws : List Upsert) :
    Gathered own parts ref (ws.foldl step d) us (vs ++ (kind n ws).filter fun u =>
      (needs? u).any fun r => us.any (·.ref == r)) := by
  -- the whole list `ws` is walked over, and only its entities of rank `n` add something
  induction ws using List.reverseRecOn with
  | nil =>
    show Gathered own parts ref d us (vs ++ [])
    rw [List.append_nil]
    exact h
  | append_singleton ws u ih =>
    rw [List.foldl_append, List.foldl_cons, List.foldl_nil, kind_append]
    by_cases hn : rank u.ref = n
    · obtain ⟨k, hk⟩ := hneeds u hn
      rw [if_pos hn, List.filter_append, List.filter_singleton, hk, Option.any_some,
        ← List.append_assoc]
      -- the part has a place, or it is left out
      cases hget : (ws.foldl step d).get? k with
      | none =>
        have hnone : us.any (·.ref == ref k) = false := by
          rw [Bool.eq_false_iff, Ne, any_ref_eq_true, ← ih.exists_get?_iff hinj, hget]
          exact nofun
        rw [hnone, cond_false, List.append_nil, habsent _ u k hk hn hget]
        exact ih
      | some w =>
        have hthere : us.any (·.ref == ref k) = true := by
          rw [any_ref_eq_true, ← ih.exists_get?_iff hinj]
          exact ⟨w, hget⟩
        obtain ⟨v, hinsert, hown, hparts⟩ := hstep _ u k w hk hn hget (ih.named k w hget)
        rw [hthere, cond_true, hinsert]
        exact ih.extend hget hown hparts
    · rw [if_neg hn, hskip _ u hn]
      exact ih

/-- These are, each once, the identifiers of what the entities `ws` need and what is not among the
    entities `us`. -/
structure Missing (ref : String → Ref) (us ws : List Upsert) (ids : List String) : Prop where
  nodup : ids.Nodup
  mem_iff : ∀ k, k ∈ ids ↔ (∃ u ∈ ws, needs? u = some (ref k)) ∧ ref k ∉ us.map Upsert.ref

/-- What is needed with one more entity. -/
theorem exists_needs_append {ws : List Upsert} {u : Upsert} {j k : String}
    (hinj : Function.Injective ref) (hk : needs? u = some (ref k)) :
    (∃ w ∈ ws ++ [u], needs? w = some (ref j)) ↔ (∃ w ∈ ws, needs? w = some (ref j)) ∨ j = k := by
  simp only [List.mem_append, List.mem_singleton, or_and_right, exists_or, exists_eq_left]
  rw [hk, Option.some.injEq, hinj.eq_iff, eq_comm (a := k)]

/-- One more entity that needs something that is there, or has been missing already. -/
theorem Missing.old {ws : List Upsert} {ids : List String} (h : Missing ref us ws ids) {u : Upsert}
    {k : String} (hinj : Function.Injective ref) (hk : needs? u = some (ref k))
    (hold : ref k ∈ us.map Upsert.ref ∨ k ∈ ids) : Missing ref us (ws ++ [u]) ids := by
  refine ⟨h.nodup, fun j => ?_⟩
  rw [exists_needs_append hinj hk, h.mem_iff]
  constructor
  · rintro ⟨hneeded, hmissing⟩
    exact ⟨.inl hneeded, hmissing⟩
  · rintro ⟨hneeded | rfl, hmissing⟩
    · exact ⟨hneeded, hmissing⟩
    · exact (h.mem_iff j).mp (hold.resolve_left hmissing)

/-- One more entity, for which something is missing that has not been missing before. -/
theorem Missing.new {ws : List Upsert} {ids : List String} (h : Missing ref us ws ids) {u : Upsert}
    {k : String} (hinj : Function.Injective ref) (hk : needs? u = some (ref k))
    (hus : ref k ∉ us.map Upsert.ref) (hids : k ∉ ids) :
    Missing ref us (ws ++ [u]) (ids ++ [k]) := by
  refine ⟨?_, fun j => ?_⟩
  -- it was not missing before, so it does not come twice
  · rw [List.nodup_append]
    refine ⟨h.nodup, List.nodup_singleton k, ?_⟩
    rintro a ha b hb rfl
    exact hids (List.mem_singleton.mp hb ▸ ha)
  · rw [List.mem_append, List.mem_singleton, exists_needs_append hinj hk, h.mem_iff]
    constructor
    · rintro (⟨hneeded, hmissing⟩ | rfl)
      · exact ⟨.inl hneeded, hmissing⟩
      · exact ⟨.inr rfl, hus⟩
    · rintro ⟨hneeded | rfl, hmissing⟩
      · exact .inl ⟨hneeded, hmissing⟩
      · exact .inr rfl

/-- Adds the parts to what has been gathered; what belongs to nothing brings a plain one, and once
    only. -/
theorem Gathered.fold_bring {step : Dictionary α → Upsert → Dictionary α} {n : Nat}
    {plain : String → α} (hinj : Function.Injective ref)
    (hskip : ∀ d u, rank u.ref ≠ n → step d u = d)
    (hneeds : ∀ u, rank u.ref = n → ∃ k, needs? u = some (ref k))
    (hplain : ∀ k, (own (plain k)).ref = ref k ∧ parts (plain k) = [])
    (hstep : ∀ d u k w, needs? u = some (ref k) → rank u.ref = n →
      (d.get? k).getD (plain k) = w → (own w).ref = ref k →
        ∃ v, step d u = d.insert k v ∧ own v = own w ∧ parts v = parts w ++ [u])
    (h : Gathered own parts ref d us vs) (ws : List Upsert) :
    ∃ ids, Missing ref us (kind n ws) ids ∧
      Gathered own parts ref (ws.foldl step d) (us ++ ids.map fun k => own (plain k))
        (vs ++ kind n ws) := by
  -- the invariant carries which plain ones have been brought so far
  induction ws using List.reverseRecOn with
  | nil =>
    refine ⟨[], ⟨List.nodup_nil, fun k => iff_of_false nofun ?_⟩, ?_⟩
    · rintro ⟨⟨u, hu, -⟩, -⟩
      cases hu
    · show Gathered own parts ref d (us ++ []) (vs ++ [])
      rw [List.append_nil, List.append_nil]
      exact h
  | append_singleton ws u ih =>
    obtain ⟨ids, hmissing, hgathered⟩ := ih
    rw [List.foldl_append, List.foldl_cons, List.foldl_nil, kind_append]
    by_cases hn : rank u.ref = n
    · obtain ⟨k, hk⟩ := hneeds u hn
      rw [if_pos hn]
      -- there is a place already when the entity was gathered or a plain one was brought
      have hhas : (∃ w, (ws.foldl step d).get? k = some w) ↔
          ref k ∈ us.map Upsert.ref ∨ k ∈ ids := by
        rw [hgathered.exists_get?_iff hinj, List.map_append, List.mem_append, List.map_map]
        refine or_congr_right ?_
        simp only [List.mem_map, Function.comp_apply, (hplain _).1, hinj.eq_iff, exists_eq_right]
      cases hget : (ws.foldl step d).get? k with
      | some w =>
        obtain ⟨v, hinsert, hown, hparts⟩ :=
          hstep _ u k w hk hn (by rw [hget]; rfl) (hgathered.named k w hget)
        refine ⟨ids, hmissing.old hinj hk (hhas.mp ⟨w, hget⟩), ?_⟩
        rw [hinsert, ← List.append_assoc]
        exact hgathered.extend hget hown hparts
      | none =>
        have hnew := not_or.mp (mt hhas.mpr (by rw [hget]; exact nofun))
        obtain ⟨v, hinsert, hown, hparts⟩ :=
          hstep _ u k (plain k) hk hn (by rw [hget]; rfl) (hplain k).1
        refine ⟨ids ++ [k], hmissing.new hinj hk hnew.1 hnew.2, ?_⟩
        -- the plain one is put in place first, and then what belongs to it
        have hbrought := hgathered.insert hget (hplain k).1 (hplain k).2
        have hboth := hbrought.extend (Dictionary.get?_insert_self _ _ _) hown hparts
        rw [Dictionary.insert_insert] at hboth
        rw [hinsert, List.map_append, ← List.append_assoc, ← List.append_assoc]
        exact hboth
    · rw [if_neg hn, hskip _ u hn]
      exact ⟨ids, hmissing, hgathered⟩

end Gathering

end Turnpike.Feed
