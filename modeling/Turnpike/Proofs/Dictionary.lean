/-
  Dictionaries by their look-ups.

  A dictionary is a list of keys with values, sorted by the keys.  What a proxy, a store or a router
  keeps is kept in dictionaries, and what is said of them is nearly always said of a value under a
  key; the lists come up where something is shown in order, summed up or counted.  This module lets
  proofs go from one view to the other, so that none of them has to look into a sorted list.

  1. **Pairs.**  On the level of lists, the order of the keys is all that is used: a key comes up
     once, so that to find the first pair with a key is to find the pair
     (`Pairs.find?_eq_some_iff`).  From there on the two views are joined by `mem_entries_iff`,
     `mem_values_iff` and `mem_keys_iff`.

  2. **Equality.**  A dictionary is known by its look-ups (`ext`): two sorted lists with the same
     members are one list.  Hence equations between dictionaries are shown key by key, and a proof
     of one is the same few rewrites each time: look-up, change, case split on the key.

  3. **Look-ups after a change.**  One equation for each change (`get?_insert`, `get?_erase`,
     `get?_modify`, `get?_mapValues`, `get?_restrict`) says what it does to every key.  All else
     about changes, how they commute with others and what they leave as it was, follows from these
     and from equality.  Properties of all values are carried over a change by `forall_get?_insert`
     and its like, which is how most invariants of a proxy are kept.

  4. **Entries after a change.**  Where the order does not matter, the entries after an insertion
     are those without the key and the new one (`insert_perm`); sums and counts need no more.  Where
     it does, the values without a key are those that pass a test that fails at this key alone
     (`values_erase`).

  5. **Lists under keys.**  Backends have servers and frontends have gates, so that often a list is
     asked for under a key; where there is no such key the list is empty (`listAt`).
-/
import Turnpike.Dictionary

namespace Turnpike

namespace Pairs

variable {α : Type}

theorem Ordered.nodup {l : List (String × α)} (h : Ordered l) : l.Nodup := by
  refine h.imp ?_
  rintro a b hab rfl
  exact Std.lt_irrefl hab

/-- To find a pair by its key is to have it: no other has the same key. -/
theorem find?_eq_some_iff {l : List (String × α)} (h : Ordered l) {key : String} {v : α} :
    find? key l = some v ↔ (key, v) ∈ l := by
  induction l with
  | nil => simp [find?]
  | cons p l ih =>
    obtain ⟨k, w⟩ := p
    obtain ⟨hk, hl⟩ := List.pairwise_cons.mp h
    rw [List.mem_cons, ← ih hl, find?, find?, List.find?_cons]
    -- either the pair in front is the one looked for, or it is none of those that are
    by_cases hkey : k = key
    · subst hkey
      simp only [beq_self_eq_true]
      constructor
      · intro hv
        cases hv
        exact Or.inl rfl
      · rintro (hv | hv)
        · cases hv; rfl
        · -- the key does not occur again
          have hmem := (ih hl).mp hv
          exact absurd (hk _ hmem) Std.lt_irrefl
    · have hbeq : (k == key) = false := beq_false_of_ne hkey
      simp only [hbeq]
      constructor
      · exact Or.inr
      · rintro (hv | hv)
        · cases hv; exact absurd rfl hkey
        · exact hv

/-- What comes after all others is put last. -/
theorem put_last {l : List (String × α)} {key : String} (h : ∀ p ∈ l, p.1 < key) (v : α) :
    put key v l = l ++ [(key, v)] := by
  induction l with
  | nil => rfl
  | cons p l ih =>
    obtain ⟨hp, hl⟩ := List.forall_mem_cons.mp h
    rw [put, if_neg (Std.not_gt_of_lt hp), if_neg (Std.ne_of_lt hp).symm, ih hl, List.cons_append]

/-- Pairs that are in order stay so when they are put one by one. -/
theorem foldl_put {acc l : List (String × α)} (h : Ordered (acc ++ l)) :
    l.foldl (fun acc (k, v) => put k v acc) acc = acc ++ l := by
  induction l generalizing acc with
  | nil => rw [List.foldl_nil, List.append_nil]
  | cons p l ih =>
    -- all keys so far are smaller, so that the next pair goes to the end
    have hlast : put p.1 p.2 acc = acc ++ [p] :=
      put_last (fun q hq => (List.pairwise_append.mp h).2.2 q hq p List.mem_cons_self) p.2
    rw [List.append_cons] at h ⊢
    rw [List.foldl_cons, ← ih h, ← hlast]

end Pairs

namespace Dictionary

variable {α β : Type}

/-! ## Entries -/

/-- The entries are the keys with what is looked up under them. -/
theorem mem_entries_iff {d : Dictionary α} {key : String} {v : α} :
    (key, v) ∈ d.entries ↔ d.get? key = some v := (Pairs.find?_eq_some_iff d.ordered).symm

/-- The values are what is looked up under some key. -/
theorem mem_values_iff {d : Dictionary α} {v : α} : v ∈ d.values ↔ ∃ key, d.get? key = some v := by
  rw [values, List.mem_map]
  constructor
  · rintro ⟨⟨key, w⟩, hmem, rfl⟩
    exact ⟨key, mem_entries_iff.mp hmem⟩
  · rintro ⟨key, hget⟩
    exact ⟨(key, v), mem_entries_iff.mpr hget, rfl⟩

/-- Values that bear their keys as names stand in the order of their names. -/
theorem values_pairwise {d : Dictionary α} (name : α → String)
    (h : ∀ key v, d.get? key = some v → name v = key) :
    d.values.Pairwise fun v w => name v < name w := by
  unfold values
  rw [List.pairwise_map]
  refine d.ordered.imp_of_mem ?_
  rintro ⟨j, v⟩ ⟨k, w⟩ hv hw hlt
  -- values without their keys are in order only because their names tell the keys
  rw [h j v (mem_entries_iff.mp hv), h k w (mem_entries_iff.mp hw)]
  exact hlt

/-- What is made of some values occurs once, when different keys have different such. -/
theorem nodup_filterMap_values {d : Dictionary α} {f : α → Option β}
    (h : ∀ i j v w b, d.get? i = some v → d.get? j = some w → f v = some b → f w = some b → i = j) :
    (d.values.filterMap f).Nodup := by
  unfold values
  rw [List.filterMap_map, List.Nodup, List.pairwise_filterMap]
  refine d.ordered.imp_of_mem ?_
  rintro ⟨i, v⟩ ⟨j, w⟩ hv hw hlt b hb b' hb' rfl
  have hij : i = j := h i j v w b (mem_entries_iff.mp hv) (mem_entries_iff.mp hw) hb hb'
  -- two pairs with one key would be the same pair, but one comes before the other
  rw [hij] at hlt
  exact Std.lt_irrefl hlt

/-- Values are told apart by what is made of them, when different keys have different such. -/
theorem nodup_map_values {d : Dictionary α} {f : α → β}
    (h : ∀ i j v w, d.get? i = some v → d.get? j = some w → f v = f w → i = j) :
    (d.values.map f).Nodup := by
  rw [← List.filterMap_eq_map]
  refine nodup_filterMap_values fun i j v w b hv hw hvb hwb => h i j v w hv hw ?_
  exact Option.some.inj (hvb.trans hwb.symm)

theorem keys_pairwise (d : Dictionary α) : d.keys.Pairwise (· < ·) := List.pairwise_map.mpr d.ordered

theorem keys_nodup (d : Dictionary α) : d.keys.Nodup := by
  refine d.keys_pairwise.imp ?_
  rintro i j hlt rfl
  exact Std.lt_irrefl hlt

theorem contains_iff {d : Dictionary α} {key : String} :
    d.contains key = true ↔ ∃ v, d.get? key = some v := Option.isSome_iff_exists

/-- The keys are those that are there. -/
theorem mem_keys_iff {d : Dictionary α} {key : String} :
    key ∈ d.keys ↔ d.contains key = true := by
  rw [contains_iff, keys, List.mem_map]
  constructor
  · rintro ⟨⟨k, v⟩, hmem, rfl⟩
    exact ⟨v, mem_entries_iff.mp hmem⟩
  · rintro ⟨v, hget⟩
    exact ⟨(key, v), mem_entries_iff.mpr hget, rfl⟩

theorem mem_keys_of_get? {d : Dictionary α} {key : String} {v : α} (h : d.get? key = some v) :
    key ∈ d.keys :=
  mem_keys_iff.mpr (contains_iff.mpr ⟨v, h⟩)

/-- Dictionaries that answer every look-up alike are equal. -/
theorem ext {d e : Dictionary α} (h : ∀ key, d.get? key = e.get? key) : d = e := by
  have hperm : d.entries.Perm e.entries := by
    -- the same members, and none of them twice
    rw [List.perm_ext_iff_of_nodup d.ordered.nodup e.ordered.nodup]
    rintro ⟨key, v⟩
    rw [mem_entries_iff, mem_entries_iff, h]
  have hentries : d.entries = e.entries := by
    -- a set of keys can be sorted in one way only
    refine List.Perm.eq_of_pairwise ?_ d.ordered e.ordered hperm
    intro a b _ _ hab hba
    exact absurd (String.lt_trans hab hba) Std.lt_irrefl
  cases d
  cases e
  cases hentries
  rfl

/-! ## Look-ups after a change -/

/-- What is inserted is found under its key, and under the others what was there. -/
theorem get?_insert (d : Dictionary α) (key other : String) (v : α) :
    (d.insert key v).get? other = if other = key then some v else d.get? other := by
  by_cases h : other = key
  · rw [if_pos h, h, get?_insert_self]
  · rw [if_neg h, get?_insert_ne d v h]

/-- Nothing is found under a key that is erased, and under the others what was there. -/
theorem get?_erase (d : Dictionary α) (key other : String) :
    (d.erase key).get? other = if other = key then none else d.get? other := by
  by_cases h : other = key
  · rw [if_pos h, h, get?_erase_self]
  · rw [if_neg h, get?_erase_ne d h]

/-- A modification changes the value under its key, if there is one, and no other. -/
theorem get?_modify (d : Dictionary α) (key other : String) (f : α → α) :
    (d.modify key f).get? other = if other = key then (d.get? key).map f else d.get? other := by
  unfold modify
  split
  case h_1 v hv => rw [get?_insert, hv, Option.map_some]
  case h_2 hnone =>
    by_cases h : other = key
    · rw [if_pos h, h, hnone, Option.map_none]
    · rw [if_neg h]

/-- What is not there is not there after a modification. -/
theorem get?_modify_of_eq_none {d : Dictionary α} {key other : String} {f : α → α}
    (h : d.get? other = none) : (d.modify key f).get? other = none := by
  rw [get?_modify]
  split
  case isTrue heq => rw [← heq, h, Option.map_none]
  case isFalse => exact h

/-- Mapped values are found under the same keys. -/
theorem get?_mapValues (d : Dictionary α) (f : α → β) (key : String) :
    (d.mapValues f).get? key = (d.get? key).map f := by
  unfold get? Pairs.find? mapValues
  rw [List.find?_map, Option.map_map, Option.map_map]
  rfl

theorem values_mapValues (d : Dictionary α) (f : α → β) :
    (d.mapValues f).values = d.values.map f := by
  unfold values mapValues
  rw [List.map_map, List.map_map]
  rfl

/-- What is made of the values is the same where it is so under every key. -/
theorem mapValues_congr {d d' : Dictionary α} {f : α → β}
    (h : ∀ key, (d.get? key).map f = (d'.get? key).map f) : d.mapValues f = d'.mapValues f := by
  refine ext fun key => ?_
  rw [get?_mapValues, get?_mapValues, h]

/-- A function that leaves all values that are there as they are leaves the dictionary. -/
theorem mapValues_eq_self {d : Dictionary α} {f : α → α} (h : ∀ k v, d.get? k = some v → f v = v) :
    d.mapValues f = d := by
  refine ext fun key => ?_
  rw [get?_mapValues]
  cases hv : d.get? key with
  | none => rfl
  | some v => rw [Option.map_some, h key v hv]

/-- To map values and to insert one can be done in either order. -/
theorem mapValues_insert (d : Dictionary α) (f : α → β) (key : String) (v : α) :
    (d.insert key v).mapValues f = (d.mapValues f).insert key (f v) := by
  refine ext fun other => ?_
  rw [get?_mapValues, get?_insert, get?_insert, get?_mapValues]
  split
  · rfl
  · rfl

/-- To map values and to erase a key can be done in either order. -/
theorem mapValues_erase (d : Dictionary α) (f : α → β) (key : String) :
    (d.erase key).mapValues f = (d.mapValues f).erase key := by
  refine ext fun other => ?_
  rw [get?_mapValues, get?_erase, get?_erase, get?_mapValues]
  split
  · rfl
  · rfl

/-- A value that makes no difference to `f` can be put in place of another. -/
theorem map_get?_insert_same {d : Dictionary α} {f : α → β} {key : String} {v w : α}
    (h : d.get? key = some v) (hf : f w = f v) (other : String) :
    ((d.insert key w).get? other).map f = (d.get? other).map f := by
  rw [get?_insert]
  split
  case isTrue heq => rw [heq, h, Option.map_some, Option.map_some, hf]
  case isFalse => rfl

/-- What `f` makes of the values does not change, when it makes the same of a new value as of the
    one in its place. -/
theorem mapValues_insert_same {d : Dictionary α} {f : α → β} {key : String} {v w : α}
    (h : d.get? key = some v) (hf : f w = f v) : (d.insert key w).mapValues f = d.mapValues f :=
  mapValues_congr (map_get?_insert_same h hf)

/-- A modification that makes no difference to `f` makes none to what it makes of look-ups. -/
theorem map_get?_modify {d : Dictionary α} {f : α → β} {key : String} {m : α → α}
    (hm : ∀ v, f (m v) = f v) (other : String) :
    ((d.modify key m).get? other).map f = (d.get? other).map f := by
  rw [get?_modify]
  split
  case isTrue heq =>
    rw [heq, Option.map_map]
    exact Option.map_congr fun v _ => hm v
  case isFalse => rfl

/-- An insertion adds its key. -/
theorem contains_insert (d : Dictionary α) (key other : String) (v : α) :
    (d.insert key v).contains other = true ↔ other = key ∨ d.contains other = true := by
  rw [contains, contains, get?_insert]
  by_cases h : other = key
  · simp [h]
  · simp [h]

/-- An erasure takes its key away. -/
theorem contains_erase (d : Dictionary α) (key other : String) :
    (d.erase key).contains other = true ↔ other ≠ key ∧ d.contains other = true := by
  rw [contains, contains, get?_erase]
  by_cases h : other = key
  · simp [h]
  · simp [h]

/-- A walk over a list that adds keys adds just those. -/
theorem contains_foldl {step : Dictionary α → β → Dictionary α} (key? : β → Option String)
    (h : ∀ d b key, (step d b).contains key = true ↔ d.contains key = true ∨ key? b = some key)
    (bs : List β) (d : Dictionary α) (key : String) :
    (bs.foldl step d).contains key = true ↔
      d.contains key = true ∨ ∃ b ∈ bs, key? b = some key := by
  induction bs generalizing d with
  | nil => simp
  | cons b bs ih =>
    rw [List.foldl_cons, ih, h, or_assoc]
    simp only [List.mem_cons, exists_eq_or_imp]

/-- What holds of all values, and of a new one, holds after it has been inserted. -/
theorem forall_get?_insert {d : Dictionary α} {P : String → α → Prop} {key : String} {v : α}
    (h : ∀ k w, d.get? k = some w → P k w) (hv : P key v) :
    ∀ k w, (d.insert key v).get? k = some w → P k w := by
  intro k w hw
  rw [get?_insert] at hw
  split at hw
  case isTrue heq =>
    cases hw
    rw [heq]
    exact hv
  case isFalse => exact h k w hw

/-- What holds of all values holds of those that are left. -/
theorem forall_get?_erase {d : Dictionary α} {P : String → α → Prop} {key : String}
    (h : ∀ k w, d.get? k = some w → P k w) : ∀ k w, (d.erase key).get? k = some w → P k w := by
  intro k w hw
  rw [get?_erase] at hw
  split at hw
  case isTrue => cases hw
  case isFalse => exact h k w hw

/-- What holds of all that is made of values holds of the mapped ones. -/
theorem forall_get?_mapValues {d : Dictionary α} {f : α → β} {P : String → β → Prop}
    (h : ∀ k w, d.get? k = some w → P k (f w)) : ∀ k w, (d.mapValues f).get? k = some w → P k w := by
  intro k w hw
  rw [get?_mapValues] at hw
  obtain ⟨v, hv, rfl⟩ := Option.map_eq_some_iff.mp hw
  exact h k v hv

/-! ## Entries after a change -/

/-- To erase a key that is not there changes nothing. -/
theorem erase_of_get?_eq_none {d : Dictionary α} {key : String} (h : d.get? key = none) :
    d.erase key = d := by
  refine ext fun other => ?_
  rw [get?_erase]
  split
  case isTrue heq => rw [heq, h]
  case isFalse => rfl

/-- To insert what is there already changes nothing. -/
theorem insert_of_get? {d : Dictionary α} {key : String} {v : α} (h : d.get? key = some v) :
    d.insert key v = d := by
  refine ext fun other => ?_
  rw [get?_insert]
  split
  case isTrue heq => rw [heq, h]
  case isFalse => rfl

/-- Of two values under one key the later one stays. -/
theorem insert_insert (d : Dictionary α) (key : String) (v w : α) :
    (d.insert key v).insert key w = d.insert key w := by
  refine ext fun other => ?_
  rw [get?_insert, get?_insert, get?_insert]
  split
  · rfl
  · rfl

/-- The entries after an insertion, up to their order. -/
theorem insert_perm (d : Dictionary α) (key : String) (v : α) :
    (d.insert key v).entries.Perm ((key, v) :: (d.erase key).entries) := by
  -- the new entry must not be counted twice
  have hnot : (key, v) ∉ (d.erase key).entries := by
    rw [mem_entries_iff, get?_erase_self]
    exact nofun
  rw [List.perm_ext_iff_of_nodup (d.insert key v).ordered.nodup
    (List.nodup_cons.mpr ⟨hnot, (d.erase key).ordered.nodup⟩)]
  rintro ⟨k, w⟩
  rw [List.mem_cons, mem_entries_iff, mem_entries_iff, get?_insert, get?_erase]
  by_cases h : k = key
  · subst h
    simp [eq_comm]
  · simp [h]

theorem values_insert_perm (d : Dictionary α) (key : String) (v : α) :
    (d.insert key v).values.Perm (v :: (d.erase key).values) :=
  (d.insert_perm key v).map Prod.snd

/-- A value stands beside those of the other keys. -/
theorem values_perm {d : Dictionary α} {key : String} {v : α} (h : d.get? key = some v) :
    d.values.Perm (v :: (d.erase key).values) := by
  have hperm := d.values_insert_perm key v
  -- a value is inserted in its own place
  rwa [insert_of_get? h] at hperm

/-- Where a test on values tells a key from the others, the values without that key are those that
    pass it. -/
theorem values_erase {d : Dictionary α} {key : String} {p : α → Bool}
    (h : ∀ k v, d.get? k = some v → (p v = true ↔ k ≠ key)) :
    (d.erase key).values = d.values.filter p := by
  unfold values
  rw [List.filter_map]
  show (Pairs.drop key d.entries).map _ = _
  unfold Pairs.drop
  congr 1
  refine List.filter_congr ?_
  rintro ⟨k, v⟩ hmem
  rw [Bool.eq_iff_iff, bne_iff_ne]
  exact (h k v (mem_entries_iff.mp hmem)).symm

/-! ## Lists under keys -/

/-- The list that belongs to the value under a key, empty when there is none. -/
def listAt (d : Dictionary α) (f : α → List β) (key : String) : List β :=
  ((d.get? key).map f).getD []

theorem listAt_of_get? {d : Dictionary α} {f : α → List β} {key : String} {v : α}
    (h : d.get? key = some v) : d.listAt f key = f v := by
  rw [listAt, h, Option.map_some, Option.getD_some]

theorem listAt_of_none {d : Dictionary α} {f : α → List β} {key : String}
    (h : d.get? key = none) : d.listAt f key = [] := by
  rw [listAt, h, Option.map_none, Option.getD_none]

theorem listAt_erase_ne {d : Dictionary α} {f : α → List β} {key other : String}
    (h : other ≠ key) : (d.erase key).listAt f other = d.listAt f other := by
  rw [listAt, get?_erase_ne d h, listAt]

/-- What `F` makes of the lists stays the same when it does so under the one key that changes. -/
theorem listAt_insert_congr {γ : Type} {d : Dictionary α} {f : α → List β} {key : String} {v : α}
    {F : String → List β → γ} (h : F key (f v) = F key (d.listAt f key)) (other : String) :
    F other ((d.insert key v).listAt f other) = F other (d.listAt f other) := by
  by_cases heq : other = key
  · subst heq
    rw [listAt_of_get? (d.get?_insert_self other v), h]
  · rw [listAt, get?_insert_ne d v heq, listAt]

/-! ## Entries whose keys pass a test -/

/-- The dictionary without the keys that fail a test. -/
def restrict (d : Dictionary α) (p : String → Bool) : Dictionary α :=
  ⟨d.filterKeys p, List.Pairwise.filter (fun e : String × α => p e.1) d.ordered⟩

/-- Only keys that pass the test are found. -/
theorem get?_restrict (d : Dictionary α) (p : String → Bool) (key : String) :
    (d.restrict p).get? key = if p key then d.get? key else none := by
  apply Option.ext
  intro v
  rw [← mem_entries_iff]
  show (key, v) ∈ d.entries.filter (fun e => p e.1) ↔ _
  rw [List.mem_filter, mem_entries_iff]
  split
  case isTrue hp => simp [hp]
  case isFalse hp => simp [hp]

/-- An insertion is seen when its key passes the test. -/
theorem restrict_insert (d : Dictionary α) (p : String → Bool) (key : String) (v : α) :
    (d.insert key v).restrict p = if p key then (d.restrict p).insert key v else d.restrict p := by
  refine ext fun other => ?_
  rw [get?_restrict, get?_insert]
  by_cases hp : p key = true
  · rw [if_pos hp, get?_insert, get?_restrict]
    by_cases h : other = key
    · simp [h, hp]
    · simp [h]
  · rw [if_neg hp, get?_restrict]
    by_cases h : other = key
    · simp [h, hp]
    · simp [h]

/-- An erasure is seen when its key passes the test. -/
theorem restrict_erase (d : Dictionary α) (p : String → Bool) (key : String) :
    (d.erase key).restrict p = if p key then (d.restrict p).erase key else d.restrict p := by
  refine ext fun other => ?_
  rw [get?_restrict, get?_erase]
  by_cases hp : p key = true
  · rw [if_pos hp, get?_erase, get?_restrict]
    by_cases h : other = key
    · simp [h]
    · simp [h]
  · rw [if_neg hp, get?_restrict]
    by_cases h : other = key
    · simp [h, hp]
    · simp [h]

end Dictionary

end Turnpike
