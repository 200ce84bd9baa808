/-
  Chains by their gates.

  A chain keeps its gates sorted, and sorts them again whenever one is put or removed.  What the
  rest of the proxy wants to know is simpler: which gate answers to an identifier, and that the
  others are where they were.

  1. **The order** (`before`).  Entries come by priority, and those of one priority by identifier.
     The order looks at nothing else, so it is one of labels: identifier, priority and kind.  It is
     total, and entries that are level have one identifier (`id_eq_of_before`).

  2. **Well-formed chains** (`Ordered`).  The gates stand in order and their identifiers are
     distinct.  Sorting makes any entries with distinct identifiers into such a chain
     (`Ordered.ofEntries`), and every edit leaves one.

  3. **Chains as maps.**  A chain that is well-formed is known when it is known which gate answers
     to which identifier: chains that agree on that have the same labels in the same order
     (`labels_eq`).  The crux is that two sorted lists with the same members are equal when no two
     of these are level.

  4. **Edits.**  What is put and removed is said of the map (`Ordered.get?_upsert`,
     `Ordered.get?_remove`) and of the others, which keep their order (`Ordered.filter_upsert`,
     `Ordered.filter_remove`).
-/
import Mathlib.Data.List.Nodup
import Turnpike.Gate.Chain
import Turnpike.Proofs.Lists

namespace Turnpike.Gate

variable {ι : Type}

/-! ## The order -/

/-- What is known of an entry besides the gate: identifier, priority and kind. -/
def Entry.label (e : Entry ι) : String × Int × String := (e.id, e.priority, e.kind)

/-- The order of entries, by their labels. -/
def before (a b : String × Int × String) : Prop := a.2.1 < b.2.1 ∨ a.2.1 = b.2.1 ∧ a.1 ≤ b.1

theorem Entry.notAfter_iff {a b : Entry ι} : a.notAfter b = true ↔ before a.label b.label := by
  simp [notAfter, before, label]

/-- The order is transitive. -/
theorem before_trans {a b c : String × Int × String} (hab : before a b) (hbc : before b c) :
    before a c := by
  unfold before at *
  rcases hab with hab | ⟨hab, hab'⟩
  · exact Or.inl (by omega)
  · rcases hbc with hbc | ⟨hbc, hbc'⟩
    · exact Or.inl (by omega)
    · exact Or.inr ⟨hab.trans hbc, String.le_trans hab' hbc'⟩

/-- It is total. -/
theorem before_total (a b : String × Int × String) : before a b ∨ before b a := by
  unfold before
  rcases Int.lt_trichotomy a.2.1 b.2.1 with h | h | h
  · exact Or.inl (Or.inl h)
  · rcases String.le_total a.1 b.1 with hid | hid
    · exact Or.inl (Or.inr ⟨h, hid⟩)
    · exact Or.inr (Or.inr ⟨h.symm, hid⟩)
  · exact Or.inr (Or.inl h)

/-- Entries that are level have the same identifier. -/
theorem id_eq_of_before {a b : String × Int × String} (hab : before a b) (hba : before b a) :
    a.1 = b.1 := by
  unfold before at *
  rcases hab with hab | ⟨hab, hab'⟩
  · rcases hba with hba | ⟨hba, -⟩
    · omega
    · omega
  · rcases hba with hba | ⟨-, hba'⟩
    · omega
    · exact String.le_antisymm hab' hba'

/-! ## Well-formed chains -/

namespace Chain

/-- The labels of the gates in order. -/
def labels (c : Chain ι) : List (String × Int × String) := c.entries.map Entry.label

/-- The gates stand in order, and their identifiers are distinct. -/
structure Ordered (c : Chain ι) : Prop where
  distinct : c.ids.Nodup
  sorted : c.labels.Pairwise before

theorem ids_eq (c : Chain ι) : c.ids = c.labels.map (·.1) := by
  unfold labels ids
  rw [List.map_map]
  rfl

/-- What stands for the gates has no part in their order. -/
theorem Ordered.of_labels {κ : Type} {c : Chain ι} {d : Chain κ} (h : c.Ordered)
    (hd : d.labels = c.labels) : d.Ordered where
  distinct := by
    rw [ids_eq, hd, ← ids_eq]
    exact h.distinct
  sorted := by
    rw [hd]
    exact h.sorted

theorem Ordered.empty : (empty : Chain ι).Ordered where
  distinct := List.nodup_nil
  sorted := List.Pairwise.nil

theorem ofEntries_perm (es : List (Entry ι)) : (ofEntries es).entries.Perm es :=
  List.mergeSort_perm es Entry.notAfter

/-- Entries with distinct identifiers are sorted into a chain. -/
theorem Ordered.ofEntries {es : List (Entry ι)} (h : (es.map (·.id)).Nodup) :
    (ofEntries es).Ordered where
  distinct := ((ofEntries_perm es).map Entry.id).nodup_iff.mpr h
  sorted := by
    have htrans (a b c : Entry ι) (hab : a.notAfter b = true) (hbc : b.notAfter c = true) :
        a.notAfter c = true := by
      rw [Entry.notAfter_iff] at *
      exact before_trans hab hbc
    have htotal (a b : Entry ι) : (a.notAfter b || b.notAfter a) = true := by
      rw [Bool.or_eq_true, Entry.notAfter_iff, Entry.notAfter_iff]
      exact before_total a.label b.label
    have hsorted := List.pairwise_mergeSort htrans htotal es
    exact List.pairwise_map.mpr (hsorted.imp Entry.notAfter_iff.mp)

variable {c d : Chain ι}

/-- A gate is found by its identifier. -/
theorem Ordered.get?_eq_some (h : c.Ordered) {id : String} {e : Entry ι} :
    c.get? id = some e ↔ e ∈ c.entries ∧ e.id = id := by
  constructor
  · intro he
    exact ⟨List.mem_of_find?_eq_some he, by simpa using List.find?_some he⟩
  · rintro ⟨hmem, rfl⟩
    exact Lists.find?_key h.distinct hmem

theorem get?_eq_none {id : String} :
    c.get? id = none ↔ ∀ e ∈ c.entries, e.id ≠ id := by
  rw [Chain.get?, List.find?_eq_none]
  simp

/-- Chains with the same gates are the same, up to what stands for the gates. -/
theorem Ordered.labels_eq (hc : c.Ordered) (hd : d.Ordered)
    (h : ∀ id, (c.get? id).map Entry.label = (d.get? id).map Entry.label) :
    c.labels = d.labels := by
  have hmem {x : Chain ι} (hx : x.Ordered) (a : String × Int × String) :
      a ∈ x.labels ↔ (x.get? a.1).map Entry.label = some a := by
    constructor
    · intro ha
      obtain ⟨e, he, rfl⟩ := List.mem_map.mp ha
      show (x.get? e.id).map Entry.label = some e.label
      rw [hx.get?_eq_some.mpr ⟨he, rfl⟩, Option.map_some]
    · intro ha
      obtain ⟨e, he, rfl⟩ := Option.map_eq_some_iff.mp ha
      exact List.mem_map_of_mem (hx.get?_eq_some.mp he).1
  have hnodup {x : Chain ι} (hx : x.Ordered) : x.labels.Nodup :=
    List.Nodup.of_map (·.1) (by rw [← ids_eq]; exact hx.distinct)
  have hperm : c.labels.Perm d.labels := by
    rw [List.perm_ext_iff_of_nodup (hnodup hc) (hnodup hd)]
    intro a
    rw [hmem hc, hmem hd, h]
  -- sorted lists with the same members, of which no two are level
  refine List.Perm.eq_of_pairwise ?_ hc.sorted hd.sorted hperm
  intro a b ha hb hab hba
  have hb' := hperm.mem_iff.mpr hb
  have hinj := List.inj_on_of_nodup_map (f := (·.1)) (by rw [← ids_eq]; exact hc.distinct) ha hb'
  exact hinj (id_eq_of_before hab hba)

/-! ## Putting and removing -/

/-- The ways to edit a chain. -/
inductive Edit (c : Chain ι) : Chain ι → Prop where
  | add {e : Entry ι} {d : Chain ι} (h : c.add e = .ok d) : Edit c d
  | update {e : Entry ι} {d : Chain ι} (h : c.update e = .ok d) : Edit c d
  | upsert (e : Entry ι) : Edit c (c.upsert e)
  | remove {id : String} {d : Chain ι} (h : c.remove id = .ok d) : Edit c d

/-- To erase the entry of an identifier is to keep the others. -/
theorem eraseP_eq_filter {es : List (Entry ι)} (h : (es.map (·.id)).Nodup) (id : String) :
    es.eraseP (·.id == id) = es.filter (·.id != id) := by
  rw [List.Nodup, List.pairwise_map] at h
  refine Lists.eraseP_eq_filter (h.imp fun {a b} hne ha => ?_)
  rw [← beq_iff_eq.mp ha]
  exact beq_false_of_ne hne.symm

/-- Replacing an entry erases it and puts the other one, somewhere. -/
theorem replaceIn_perm {es : List (Entry ι)} {e d : Entry ι}
    (hd : es.find? (·.id == e.id) = some d) :
    (replaceIn e es).Perm (e :: es.eraseP (·.id == e.id)) := by
  unfold replaceIn
  rw [List.eraseP_eq_eraseIdx]
  split
  case h_1 i hi =>
    obtain ⟨hlt, -, -⟩ := List.findIdx?_eq_some_iff_getElem.mp hi
    rw [hi]
    exact Lists.set_perm hlt e
  case h_2 hnone =>
    have hall := List.findIdx?_eq_none_iff.mp hnone d (List.mem_of_find?_eq_some hd)
    rw [List.find?_some hd] at hall
    cases hall

/-- Whether or not the gate is there, it is put beside the others, and all are sorted. -/
theorem Ordered.upsert_eq (h : c.Ordered) (e : Entry ι) :
    ∃ es, c.upsert e = Chain.ofEntries es ∧ es.Perm (e :: c.entries.filter (·.id != e.id)) := by
  unfold Chain.upsert
  split
  case h_1 d hd =>
    refine ⟨_, rfl, ?_⟩
    -- it is there and is replaced
    rw [← eraseP_eq_filter h.distinct]
    exact replaceIn_perm hd
  case h_2 hnone =>
    refine ⟨_, rfl, ?_⟩
    -- it is not there, so all entries are others
    have hall : ∀ f ∈ c.entries, (f.id != e.id) = true := by
      intro f hf
      simpa using get?_eq_none.mp hnone f hf
    rw [List.filter_eq_self.mpr hall]
    exact List.perm_append_singleton e c.entries

theorem Ordered.filter_ids (h : c.Ordered) (id : String) :
    ((c.entries.filter (·.id != id)).map (·.id)).Nodup :=
  h.distinct.sublist (List.filter_sublist.map _)

/-- Putting a gate leaves a chain in order. -/
theorem Ordered.upsert (h : c.Ordered) (e : Entry ι) : (c.upsert e).Ordered := by
  obtain ⟨es, hes, hperm⟩ := h.upsert_eq e
  rw [hes]
  refine Ordered.ofEntries ((hperm.map (·.id)).nodup_iff.mpr ?_)
  rw [List.map_cons, List.nodup_cons]
  -- what is put has its identifier alone
  refine ⟨fun hmem => ?_, h.filter_ids e.id⟩
  obtain ⟨f, hf, hfe⟩ := List.mem_map.mp hmem
  simp [hfe] at hf

/-- The entries of ordered chains that pass a test are the same when they are the same up to order. -/
theorem Ordered.filter_eq (hc : c.Ordered) (hd : d.Ordered) {p : Entry ι → Bool}
    (hperm : (c.entries.filter p).Perm (d.entries.filter p)) :
    c.entries.filter p = d.entries.filter p := by
  have hsorted {x : Chain ι} (hx : x.Ordered) :
      (x.entries.filter p).Pairwise fun a b => before a.label b.label :=
    (List.pairwise_map.mp hx.sorted).filter p
  refine List.Perm.eq_of_pairwise ?_ (hsorted hc) (hsorted hd) hperm
  intro a b ha hb hab hba
  have hb' := (List.mem_filter.mp (hperm.mem_iff.mpr hb)).1
  exact List.inj_on_of_nodup_map hc.distinct (List.mem_filter.mp ha).1 hb' (id_eq_of_before hab hba)

/-- Whatever gate is put, the others stay as they are, in their order. -/
theorem Ordered.filter_upsert (h : c.Ordered) (e : Entry ι) :
    (c.upsert e).entries.filter (·.id != e.id) = c.entries.filter (·.id != e.id) := by
  refine (h.upsert e).filter_eq h ?_
  obtain ⟨es, hes, hperm⟩ := h.upsert_eq e
  rw [hes]
  have hfilter := ((ofEntries_perm es).trans hperm).filter (·.id != e.id)
  rw [List.filter_cons_of_neg (by simp), List.filter_filter] at hfilter
  simpa only [Bool.and_self] using hfilter

/-- The gate that is put answers to its identifier, and the others to theirs. -/
theorem Ordered.get?_upsert (h : c.Ordered) (e : Entry ι) (id : String) :
    (c.upsert e).get? id = if id = e.id then some e else c.get? id := by
  obtain ⟨es, hes, hperm⟩ := h.upsert_eq e
  have hmem (f : Entry ι) :
      f ∈ (c.upsert e).entries ↔ f = e ∨ f ∈ c.entries ∧ f.id ≠ e.id := by
    rw [hes, (ofEntries_perm es).mem_iff, hperm.mem_iff]
    simp
  apply Option.ext
  intro f
  rw [(h.upsert e).get?_eq_some, hmem]
  split
  case isTrue hid =>
    subst hid
    constructor
    · rintro ⟨rfl | ⟨-, hne⟩, hid⟩
      · rfl
      · exact absurd hid hne
    · intro hf
      cases hf
      exact ⟨Or.inl rfl, rfl⟩
  case isFalse hne =>
    rw [h.get?_eq_some]
    constructor
    · rintro ⟨rfl | ⟨hf, -⟩, hid⟩
      · exact absurd hid.symm hne
      · exact ⟨hf, hid⟩
    · rintro ⟨hf, rfl⟩
      exact ⟨Or.inr ⟨hf, hne⟩, rfl⟩

/-- Removing a gate leaves the others, in order. -/
theorem Ordered.remove_eq_ok (h : c.Ordered) {id : String} (hd : c.remove id = .ok d) :
    d.Ordered ∧ ∀ f, f ∈ d.entries ↔ f ∈ c.entries ∧ f.id ≠ id := by
  unfold Chain.remove at hd
  split at hd
  case h_1 =>
    cases hd
    rw [eraseP_eq_filter h.distinct]
    refine ⟨Ordered.ofEntries (h.filter_ids id), fun f => ?_⟩
    rw [(ofEntries_perm _).mem_iff]
    simp
  case h_2 => cases hd

/-- Whatever gate is removed, the others stay as they are, in their order. -/
theorem Ordered.filter_remove (h : c.Ordered) {id : String} (hd : c.remove id = .ok d) :
    d.entries.filter (·.id != id) = c.entries.filter (·.id != id) := by
  obtain ⟨hordered, hmem⟩ := h.remove_eq_ok hd
  refine hordered.filter_eq h ?_
  have hnodup {x : Chain ι} (hx : x.Ordered) : (x.entries.filter (·.id != id)).Nodup :=
    List.Nodup.of_map _ (hx.filter_ids id)
  rw [List.perm_ext_iff_of_nodup (hnodup hordered) (hnodup h)]
  intro f
  rw [List.mem_filter, List.mem_filter, hmem, bne_iff_ne]
  tauto

/-- To its identifier nothing answers any more. -/
theorem Ordered.get?_remove (h : c.Ordered) {id : String} (hd : c.remove id = .ok d)
    (other : String) : d.get? other = if other = id then none else c.get? other := by
  obtain ⟨hordered, hmem⟩ := h.remove_eq_ok hd
  apply Option.ext
  intro f
  rw [hordered.get?_eq_some, hmem]
  split
  case isTrue heq =>
    subst heq
    constructor
    · rintro ⟨⟨-, hne⟩, heq⟩
      exact absurd heq hne
    · exact nofun
  case isFalse hne =>
    rw [h.get?_eq_some]
    constructor
    · rintro ⟨⟨hf, -⟩, hid⟩
      exact ⟨hf, hid⟩
    · rintro ⟨hf, rfl⟩
      exact ⟨⟨hf, hne⟩, rfl⟩

end Chain

end Turnpike.Gate
