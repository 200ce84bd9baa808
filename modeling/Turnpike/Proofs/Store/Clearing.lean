/-
  Deleting all keys under a prefix.

  A store that is cleared deletes the keys under a prefix from the last to the first, each of them
  by a mutation of its own.  The order matters to whoever watches: a key comes after the keys that
  it is a beginning of, so that what belongs to an entity is deleted before the entity.

  1. **Listings** (`Lists`).  What a listing shows is said without the way it is made: exactly the
     entries under the prefix, in the order of the bytes of their keys.  The keys that are cleared
     are those of the listing (`keysUnder_eq`).

  2. **Deletions in a row** (`deletions`).  To delete distinct keys that are all there logs one
     mutation for each, with one revision after the other (`log_foldl_delete`).  Distinct they must
     be because a key that is not there any more is deleted without a mutation; the induction over
     the keys has to carry that the others are still there after the first is gone.

  3. **Clearing** (`Clears`).  One structure says all that is done and all that is told of it: which
     keys are gone, which stay, which mutations were logged and in what order, and that their number
     is the one returned.  `clears_deleteUnder` shows it for every store and every prefix.

  4. **The order** (`Clears.revision_lt`).  Keys go down while revisions go up, therefore of two
     deleted keys the greater one has the smaller revision.
-/
import Turnpike.Proofs.Store.Listing
import Turnpike.Proofs.Text.ByteOrder

namespace Turnpike.Store

open Turnpike.Text

variable {s : Store} {stem : String}

/-! ## Listings -/

/-- What a listing shows: the entries under the prefix, in the order of the bytes of their keys. -/
structure Lists (s : Store) (stem : String) (es : List (String × Entry)) : Prop where
  mem : ∀ key e, (key, e) ∈ es ↔ under stem key = true ∧ s.get? key = some e
  ordered : es.Pairwise fun a b => Utf8.bytes a.1 < Utf8.bytes b.1
  /-- A scan that begins at the prefix and ends at the first other key finds all of them. -/
  scan : es = (s.entries.entries.dropWhile fun e => e.1 < stem).takeWhile fun e => under stem e.1

theorem pairwise_list (s : Store) (stem : String) :
    (s.list stem).Pairwise fun a b => a.1 < b.1 := List.Pairwise.filter _ s.entries.ordered

theorem lists_list (s : Store) (stem : String) : Lists s stem (s.list stem) where
  mem := fun _ _ => mem_list
  ordered := (pairwise_list s stem).imp fun h => Utf8.bytes_lt_iff.mpr h
  scan := list_eq_scan s stem

/-- The keys under a prefix are those of its listing. -/
theorem keysUnder_eq (s : Store) (stem : String) :
    s.keysUnder stem = (s.list stem).map (·.1) := by
  unfold keysUnder Dictionary.keys list Dictionary.filterKeys
  rw [List.filter_map]
  rfl

/-- The keys under a prefix stand in order, so none of them stands twice. -/
theorem pairwise_keysUnder (s : Store) (stem : String) : (s.keysUnder stem).Pairwise (· < ·) := by
  rw [keysUnder_eq]
  exact List.pairwise_map.mpr (pairwise_list s stem)

/-- The keys under a prefix are those that begin with it and are there. -/
theorem mem_keysUnder {key : String} :
    key ∈ s.keysUnder stem ↔ under stem key = true ∧ s.entries.contains key = true := by
  unfold keysUnder
  rw [List.mem_filter, Dictionary.mem_keys_iff]
  exact And.comm

/-! ## Deletions in a row -/

/-- The mutations when keys are deleted one after the other, after a revision. -/
def deletions (revision : Nat) : List String → List Mutation
  | [] => []
  | key :: keys => ⟨key, none, revision + 1⟩ :: deletions (revision + 1) keys

/-- Each key is deleted once, in the order given. -/
theorem keys_deletions (revision : Nat) (keys : List String) :
    (deletions revision keys).map (·.key) = keys := by
  induction keys generalizing revision with
  | nil => rfl
  | cons key keys ih => exact congrArg (key :: ·) (ih (revision + 1))

/-- Deletions in a row have one revision after the other. -/
theorem revisions_deletions (revision : Nat) (keys : List String) :
    (deletions revision keys).map (·.revision) = List.range' (revision + 1) keys.length := by
  induction keys generalizing revision with
  | nil => rfl
  | cons key keys ih =>
    rw [List.length_cons, List.range'_succ]
    exact congrArg ((revision + 1) :: ·) (ih (revision + 1))

/-- They are deletions. -/
theorem value_deletions {revision : Nat} {keys : List String} :
    ∀ m ∈ deletions revision keys, m.value = none := by
  induction keys generalizing revision with
  | nil => exact nofun
  | cons key keys ih =>
    intro m hm
    rcases List.mem_cons.mp hm with rfl | hm
    · rfl
    · exact ih m hm

/-- Keys that are deleted are gone, the others stay. -/
theorem get?_foldl_delete (s : Store) (keys : List String) (other : String) :
    (keys.foldl delete s).get? other = if other ∈ keys then none else s.get? other := by
  induction keys generalizing s with
  | nil => rw [List.foldl_nil, if_neg List.not_mem_nil]
  | cons key keys ih =>
    rw [List.foldl_cons, ih, get?_delete]
    -- a key may be named again further on, and then it is gone anyway
    by_cases hkeys : other ∈ keys
    · rw [if_pos hkeys, if_pos (List.mem_cons_of_mem key hkeys)]
    · rw [if_neg hkeys]
      by_cases heq : other = key
      · rw [if_pos heq, if_pos (List.mem_cons.mpr (Or.inl heq))]
      · have hnot : other ∉ key :: keys := fun h => (List.mem_cons.mp h).elim heq hkeys
        rw [if_neg heq, if_neg hnot]

/-- Keys that are there, each named once, are deleted by one mutation each. -/
theorem log_foldl_delete {keys : List String} (hdistinct : keys.Nodup)
    (hthere : ∀ key ∈ keys, s.entries.contains key = true) :
    (keys.foldl delete s).log = (deletions s.revision keys).reverse ++ s.log := by
  induction keys generalizing s with
  | nil => rfl
  | cons key keys ih =>
    obtain ⟨hnew, hdistinct⟩ := List.nodup_cons.mp hdistinct
    have hlog : (s.delete key).log = ⟨key, none, s.revision + 1⟩ :: s.log := by
      rw [delete, if_pos (hthere key List.mem_cons_self), log_record]
    -- the others are still there, as they are other keys
    have hrest : ∀ other ∈ keys, (s.delete key).entries.contains other = true := by
      intro other hother
      obtain ⟨e, he⟩ := Dictionary.contains_iff.mp (hthere other (List.mem_cons_of_mem key hother))
      have hne : other ≠ key := fun heq => hnew (heq ▸ hother)
      have hget : (s.delete key).get? other = some e := by
        rw [get?_delete, if_neg hne]
        exact he
      exact Dictionary.contains_iff.mpr ⟨e, hget⟩
    have hrevision : (s.delete key).revision = s.revision + 1 := by
      rw [revision, hlog, List.length_cons, revision]
    rw [List.foldl_cons, ih hdistinct hrest, hlog, hrevision, deletions, List.reverse_cons,
      List.append_assoc, List.singleton_append]

/-! ## Clearing -/

/-- What is done when all keys under a prefix are deleted, and what is told of it. -/
structure Clears (s : Store) (stem : String) (t : Store) (count : Nat) : Prop where
  /-- The keys under the prefix are gone, and nothing else is touched. -/
  entries : ∀ key, t.get? key = if under stem key then none else s.get? key
  /-- The mutations since then are all that has been logged. -/
  log : t.log = (t.since s.revision).reverse ++ s.log
  /-- There is one for each listed key, the last key first. -/
  keys : (t.since s.revision).map (·.key) = ((s.list stem).map (·.1)).reverse
  deletions : ∀ m ∈ t.since s.revision, m.value = none
  /-- They make one revision after the other. -/
  revisions : (t.since s.revision).map (·.revision) = List.range' (s.revision + 1) count
  count : count = (s.list stem).length

/-- To clear a prefix logs the deletions of its keys, the last key first, and nothing else. -/
theorem since_deleteUnder (s : Store) (stem : String) :
    (s.deleteUnder stem).log =
        (deletions s.revision (s.keysUnder stem).reverse).reverse ++ s.log ∧
      (s.deleteUnder stem).since s.revision =
        deletions s.revision (s.keysUnder stem).reverse := by
  have hdistinct : (s.keysUnder stem).reverse.Nodup :=
    (List.reverse_perm _).nodup_iff.mpr ((pairwise_keysUnder s stem).imp fun h => Std.ne_of_lt h)
  have hlog := log_foldl_delete hdistinct fun key hkey =>
    (mem_keysUnder.mp (List.mem_reverse.mp hkey)).2
  refine ⟨hlog, ?_⟩
  -- what is new in the log are just the deletions
  have hlength : (s.deleteUnder stem).revision - s.revision =
      (deletions s.revision (s.keysUnder stem).reverse).reverse.length := by
    rw [revision, deleteUnder, hlog, List.length_append, revision, Nat.add_sub_cancel]
  rw [since, hlength, deleteUnder, hlog, List.take_left, List.reverse_reverse]

/-- To delete all keys under a prefix is to clear it. -/
theorem clears_deleteUnder (s : Store) (stem : String) :
    Clears s stem (s.deleteUnder stem) (s.countUnder stem) := by
  obtain ⟨hlog, hsince⟩ := since_deleteUnder s stem
  refine ⟨fun key => ?_, by rw [hlog, hsince], ?_, ?_, ?_, ?_⟩
  · rw [deleteUnder, get?_foldl_delete]
    by_cases hunder : under stem key = true
    · rw [if_pos hunder]
      -- a key under the prefix that is not there is not deleted, and yet it is not there
      split
      case isTrue => rfl
      case isFalse habsent =>
        cases hget : s.get? key with
        | none => rfl
        | some e =>
          have hthere : s.entries.contains key = true := Dictionary.contains_iff.mpr ⟨e, hget⟩
          exact absurd (List.mem_reverse.mpr (mem_keysUnder.mpr ⟨hunder, hthere⟩)) habsent
    · have hnot : key ∉ (s.keysUnder stem).reverse := fun h =>
        hunder (mem_keysUnder.mp (List.mem_reverse.mp h)).1
      rw [if_neg hunder, if_neg hnot]
  · rw [hsince, keys_deletions, keysUnder_eq]
  · rw [hsince]
    exact value_deletions
  · rw [hsince, revisions_deletions, List.length_reverse]
    rfl
  · rw [countUnder, keysUnder_eq, List.length_map]

/-- The mutations of a clearing come in the reverse order of their keys. -/
theorem Clears.revision_lt {t : Store} {count : Nat} (h : Clears s stem t count) {m m' : Mutation}
    (hm : m ∈ t.since s.revision) (hm' : m' ∈ t.since s.revision) (hlt : m'.key < m.key) :
    m.revision < m'.revision := by
  have hkeys : ((t.since s.revision).map (·.key)).Pairwise fun a b => b < a := by
    rw [h.keys, List.pairwise_reverse]
    exact List.pairwise_map.mpr (pairwise_list s stem)
  have hrevisions : ((t.since s.revision).map (·.revision)).Pairwise (· < ·) := by
    rw [h.revisions]
    exact List.pairwise_lt_range'
  obtain ⟨i, hi, rfl⟩ := List.mem_iff_getElem.mp hm
  obtain ⟨j, hj, rfl⟩ := List.mem_iff_getElem.mp hm'
  -- by their places among the deletions: down the keys, up the revisions
  rcases Nat.lt_trichotomy i j with hij | rfl | hji
  · exact List.pairwise_iff_getElem.mp (List.pairwise_map.mp hrevisions) i j hi hj hij
  · exact absurd hlt (String.lt_irrefl _)
  · have hgt := List.pairwise_iff_getElem.mp (List.pairwise_map.mp hkeys) j i hj hi hji
    exact absurd hlt (String.lt_asymm hgt)

end Turnpike.Store
