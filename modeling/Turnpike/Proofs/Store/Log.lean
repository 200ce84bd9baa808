/-
  The log of a store, and the part of it that is history.

  A store keeps what it knows in three places: the entries under their keys, the log of all mutations
  that were ever sent to watches, and the bounded history from which a new watch is caught up.  The
  first and the last can be had from the log, and the proofs about watches, listings and snapshots
  only ever speak of the log.  This module is where the three are tied together.

  1. **Numbers** (`Counted`).  A mutation bears the number of its place in the log, counted from the
     oldest one.  Nothing else is needed to find mutations by their revision: those after a revision
     are the part of the log that was made since (`since_eq_filter`), they come in the order of their
     revisions (`since_pairwise`), and the first of them has the next number (`since_eq_cons`).

  2. **The invariant** (`Sound`).  The log is counted; to replay it from the empty store gives the
     entries; and the history is the latest part of it, as long as the store keeps.  A write does
     three different things to the three fields — one entry is changed, one mutation is sent, and
     one is recorded while an old one may leave — and `Sound.record` shows once that they stay
     together.

  3. **Growth** (`Grows`).  A later store has the log of the earlier one with new mutations before
     it.  This is all that a proof about two moments of a store has to know, whatever was written in
     between: the mutations after a revision only become more (`Grows.since`).

  4. **Looking back** (`Store.asOf`).  Since the entries and the history are what the log says, an
     earlier store can be made again from a later one: it is enough to drop the younger part of the
     log.  So a snapshot that was taken at a revision can be named long after.

  5. **What has left the history** (`evicted`).  The crux of refusing a watch is that the front of the
     history bears the number after all that have left it (`Sound.revision_oldest`), so that comparing
     one number with it tells whether anything is missing (`exists_evicted_iff`).
-/
import Turnpike.Proofs.Dictionary
import Turnpike.Store.Basic

namespace Turnpike.Store

/-! ## Numbers -/

/-- The mutations of a log, the latest of which comes first, are numbered from 1.  The number of a
    mutation is how many there were when it had been made. -/
def Counted : List Mutation → Prop
  | [] => True
  | m :: older => m.revision = older.length + 1 ∧ Counted older

section Counted

variable {log : List Mutation}

/-- The number of a mutation by its place, which is counted from the other end. -/
theorem Counted.getElem (h : Counted log) (i : Nat) (hi : i < log.length) :
    log[i].revision = log.length - i := by
  induction log generalizing i with
  | nil => exact absurd hi (Nat.not_lt_zero i)
  | cons m older ih =>
    obtain ⟨hm, holder⟩ := h
    cases i with
    | zero => exact hm
    | succ i =>
      have hlt : i < older.length := by simpa using hi
      have hrest := ih holder i hlt
      simp only [List.getElem_cons_succ, List.length_cons]
      omega

/-- No number is out of bounds. -/
theorem Counted.bounds (h : Counted log) {m : Mutation} (hm : m ∈ log) :
    1 ≤ m.revision ∧ m.revision ≤ log.length := by
  obtain ⟨i, hi, rfl⟩ := List.mem_iff_getElem.mp hm
  have hrev := h.getElem i hi
  omega

/-- The older part of a log is a log. -/
theorem Counted.drop (h : Counted log) (n : Nat) : Counted (log.drop n) := by
  induction log generalizing n with
  | nil => simpa using h
  | cons m older ih =>
    cases n with
    | zero => exact h
    | succ n => exact ih h.2 n

/-- Later mutations come first. -/
theorem Counted.pairwise (h : Counted log) : log.Pairwise fun a b => b.revision < a.revision := by
  induction log with
  | nil => exact List.Pairwise.nil
  | cons m older ih =>
    obtain ⟨hm, holder⟩ := h
    refine List.pairwise_cons.mpr ⟨fun a ha => ?_, ih holder⟩
    have hle := (holder.bounds ha).2
    omega

/-- The latest mutations are those with the highest numbers: counting from the front and comparing
    numbers select the same part. -/
theorem Counted.take_eq_filter (h : Counted log) (after : Nat) :
    log.take (log.length - after) = log.filter (after < ·.revision) := by
  induction log with
  | nil => rw [List.take_nil, List.filter_nil]
  | cons m older ih =>
    obtain ⟨hm, holder⟩ := h
    -- either the newest is taken, or nothing is: all older ones have smaller numbers
    by_cases hlt : after < m.revision
    · have hlen : (m :: older).length - after = older.length - after + 1 := by
        rw [List.length_cons]
        omega
      rw [hlen, List.take_succ_cons, ih holder, List.filter_cons_of_pos (by simpa using hlt)]
    · have hlen : (m :: older).length - after = 0 := by
        rw [List.length_cons]
        omega
      rw [hlen, List.take_zero]
      refine (List.filter_eq_nil_iff.mpr fun a ha => ?_).symm
      have hle : a.revision ≤ m.revision := by
        rcases List.mem_cons.mp ha with rfl | ha
        · exact Nat.le_refl _
        · have := (holder.bounds ha).2
          omega
      simp only [decide_eq_true_eq]
      omega

end Counted

/-! ## What the log says -/

/-- The entries that the mutations of a log leave, when they are done to an empty store from the
    oldest on. -/
def replay : List Mutation → Dictionary Entry
  | [] => .empty
  | m :: older =>
    match m.value with
    | some v => (replay older).insert m.key ⟨v, m.revision⟩
    | none => (replay older).erase m.key

/-- The log tells how often the store has changed, what is in it, and what is still history. -/
structure Sound (s : Store) : Prop where
  counted : Counted s.log
  entries : s.entries = replay s.log
  /-- The latest mutations, in the order in which they were made. -/
  history : s.history = (s.log.take s.historyLimit).reverse
  /-- A mutation is history at first: the log is not empty when the history is. -/
  limit_pos : 0 < s.historyLimit

/-- The store as it was at a revision. -/
def asOf (s : Store) (revision : Nat) : Store :=
  { s with
    entries := replay (s.log.drop (s.revision - revision))
    log := s.log.drop (s.revision - revision)
    history := ((s.log.drop (s.revision - revision)).take s.historyLimit).reverse }

/-! ## Writes -/

/-- The ways to write a store, and to break the watches on it.  Clearing a prefix is one way, for no
    other writer gets in between its deletions. -/
inductive Write (s : Store) : Store → Prop where
  | put (key value : String) : Write s (s.put key value)
  | delete (key : String) : Write s (s.delete key)
  | deleteUnder (stem : String) : Write s (s.deleteUnder stem)
  | breakWatches : Write s s.breakWatches

/-- What a store with this history can come to. -/
inductive Made (history : Nat) : Store → Prop where
  | make : Made history (.make history)
  | write {s s' : Store} (before : Made history s) (w : Write s s') : Made history s'

/-- A later store has logged all that the earlier one had logged, and broken all watches that it had
    broken. -/
structure Grows (s s' : Store) : Prop where
  log : ∃ news, s'.log = news ++ s.log
  breaks : s.breaks ≤ s'.breaks

theorem Grows.refl (s : Store) : Grows s s := ⟨⟨[], rfl⟩, Nat.le_refl _⟩

/-- What came later comes before what came earlier. -/
theorem Grows.trans {s s' s'' : Store} (h : Grows s s') (h' : Grows s' s'') : Grows s s'' := by
  obtain ⟨news, hnews⟩ := h.log
  obtain ⟨news', hnews'⟩ := h'.log
  refine ⟨⟨news' ++ news, ?_⟩, Nat.le_trans h.breaks h'.breaks⟩
  rw [hnews', hnews, List.append_assoc]

theorem Grows.revision_le {s s' : Store} (h : Grows s s') : s.revision ≤ s'.revision := by
  obtain ⟨news, hnews⟩ := h.log
  simp only [revision, hnews, List.length_append]
  omega

/-- An empty store has an empty log and an empty history, of which at least one mutation will be
    kept. -/
theorem Sound.make (history : Nat) : (make history).Sound :=
  ⟨trivial, rfl, by simp [Store.make], Nat.le_max_right history 1⟩

@[simp] theorem log_record (s : Store) (m : Mutation) : (s.record m).log = m :: s.log := rfl

/-- To record a mutation keeps the history the latest part of the log.  A full history loses the one
    at its front, which is the last of those taken from the log. -/
theorem history_record {s : Store} (h : s.Sound) (m : Mutation) :
    (s.record m).history = ((m :: s.log).take s.historyLimit).reverse := by
  obtain ⟨k, hk⟩ : ∃ k, s.historyLimit = k + 1 := ⟨s.historyLimit - 1, by have := h.limit_pos; omega⟩
  rw [hk, List.take_succ_cons, List.reverse_cons]
  show (if s.history.length = s.historyLimit then s.history.tail else s.history) ++ [m] =
    (s.log.take k).reverse ++ [m]
  rw [h.history, hk, List.length_reverse, List.length_take]
  congr 1
  split
  case isTrue hfull =>
    -- one mutation too many has been taken, and it is the one that leaves
    rw [List.tail_reverse, List.dropLast_eq_take, List.length_take, hfull, List.take_take]
    congr 2
    omega
  case isFalse hroom =>
    -- the whole log is history
    have hall : s.log.length ≤ k := by omega
    rw [List.take_of_length_le (by omega), List.take_of_length_le hall]

/-- One more mutation, with the next number, and the entries that it leaves. -/
theorem Sound.record {s : Store} (h : s.Sound) {key : String} {value : Option String}
    {entries : Dictionary Entry}
    (he : entries = replay (⟨key, value, s.revision + 1⟩ :: s.log)) :
    ({ s with entries := entries }.record ⟨key, value, s.revision + 1⟩).Sound :=
  ⟨⟨rfl, h.counted⟩, he, history_record h _, h.limit_pos⟩

theorem grows_record (s : Store) (entries : Dictionary Entry) (m : Mutation) :
    Grows s ({ s with entries := entries }.record m) :=
  ⟨⟨[m], rfl⟩, Nat.le_refl _⟩

theorem Sound.put {s : Store} (h : s.Sound) (key value : String) : (s.put key value).Sound := by
  refine h.record ?_
  rw [replay, h.entries]

theorem grows_put (s : Store) (key value : String) : Grows s (s.put key value) :=
  grows_record s _ _

/-- To delete a key is to erase what the new mutation says, or to do nothing. -/
theorem Sound.delete {s : Store} (h : s.Sound) (key : String) : (s.delete key).Sound := by
  unfold Store.delete
  split
  case isTrue =>
    refine h.record ?_
    rw [replay, h.entries]
  case isFalse => exact h

theorem grows_delete (s : Store) (key : String) : Grows s (s.delete key) := by
  unfold Store.delete
  split
  case isTrue => exact grows_record s _ _
  case isFalse => exact Grows.refl s

/-- Keys are deleted one after the other, so a clearing is sound and grows by as many steps. -/
theorem Sound.foldl_delete {s : Store} (h : s.Sound) (keys : List String) :
    (keys.foldl Store.delete s).Sound ∧ Grows s (keys.foldl Store.delete s) := by
  induction keys generalizing s with
  | nil => exact ⟨h, Grows.refl s⟩
  | cons key keys ih =>
    obtain ⟨hsound, hgrows⟩ := ih (h.delete key)
    exact ⟨hsound, (grows_delete s key).trans hgrows⟩

/-- A write keeps the log sound, and the log grows. -/
theorem Sound.write {s s' : Store} (h : s.Sound) (w : Write s s') : s'.Sound ∧ Grows s s' := by
  cases w with
  | put key value => exact ⟨h.put key value, grows_put s key value⟩
  | delete key => exact ⟨h.delete key, grows_delete s key⟩
  | deleteUnder stem => exact h.foldl_delete _
  | breakWatches =>
    exact ⟨⟨h.counted, h.entries, h.history, h.limit_pos⟩, ⟨[], rfl⟩, Nat.le_succ _⟩

theorem Made.sound {history : Nat} {s : Store} (h : Made history s) : s.Sound := by
  induction h with
  | make => exact Sound.make history
  | write _ w ih => exact (ih.write w).1

/-! ## Reading -/

theorem get?_put (s : Store) (key value other : String) :
    (s.put key value).get? other =
      if other = key then some ⟨value, s.revision + 1⟩ else s.get? other :=
  Dictionary.get?_insert _ _ _ _

/-- A deletion shows under its key and nowhere else, also when there was nothing to delete. -/
theorem get?_delete (s : Store) (key other : String) :
    (s.delete key).get? other = if other = key then none else s.get? other := by
  unfold Store.delete
  split
  case isTrue => exact Dictionary.get?_erase _ _ _
  case isFalse habsent =>
    split
    case isTrue heq =>
      subst heq
      cases hget : s.get? other with
      | none => rfl
      | some e => exact absurd (Dictionary.contains_iff.mpr ⟨e, hget⟩) habsent
    case isFalse => rfl

/-- A listing shows the entries under its prefix. -/
theorem mem_list {s : Store} {stem key : String} {e : Entry} :
    (key, e) ∈ s.list stem ↔ under stem key = true ∧ s.get? key = some e := by
  unfold list Dictionary.filterKeys
  rw [List.mem_filter, Dictionary.mem_entries_iff]
  exact And.comm

/-! ## Later mutations -/

section Since

variable {s s' : Store} {after : Nat}

/-- The mutations after a revision, out of all that were ever made. -/
theorem since_eq_filter (h : Counted s.log) (after : Nat) :
    s.since after = s.log.reverse.filter (after < ·.revision) := by
  rw [since, revision, h.take_eq_filter, List.filter_reverse]

/-- The mutations after a revision are those of the log with a higher number. -/
theorem mem_since (h : Counted s.log) {m : Mutation} :
    m ∈ s.since after ↔ m ∈ s.log ∧ after < m.revision := by
  rw [since_eq_filter h, List.mem_filter, List.mem_reverse, decide_eq_true_eq]

theorem since_pairwise (h : Counted s.log) (after : Nat) :
    (s.since after).Pairwise (·.revision < ·.revision) := by
  rw [since_eq_filter h]
  exact (List.pairwise_reverse.mpr h.pairwise).filter _

theorem since_revision (s : Store) : s.since s.revision = [] := by
  rw [since, Nat.sub_self, List.take_zero, List.reverse_nil]

/-- A later store has the same mutations, and then those that came later. -/
theorem Grows.since (h : Grows s s') (hafter : after ≤ s.revision) :
    s'.since after = s.since after ++ s'.since s.revision := by
  obtain ⟨news, hnews⟩ := h.log
  have hrev : s'.revision = news.length + s.revision := by
    simp only [revision, hnews, List.length_append]
  have hall : s'.revision - after = news.length + (s.revision - after) := by omega
  have hnew : s'.revision - s.revision = news.length := by omega
  rw [Store.since, Store.since, Store.since, hall, hnew, hnews, List.take_length_add_append,
    List.take_left, List.reverse_append]

/-- The first mutation after a revision has the next number. -/
theorem since_eq_cons (h : Counted s.log) {m : Mutation} {rest : List Mutation}
    (hs : s.since after = m :: rest) : m.revision = after + 1 ∧ s.since (after + 1) = rest := by
  have hlt : after < s.log.length := by
    rcases Nat.lt_or_ge after s.log.length with hlt | hge
    · exact hlt
    · have hzero : s.log.length - after = 0 := by omega
      rw [since, revision, hzero] at hs
      cases hs
  -- one more is taken from the log than after the next revision, and it is the oldest taken
  obtain ⟨k, hk⟩ : ∃ k, s.log.length - after = k + 1 := ⟨s.log.length - after - 1, by omega⟩
  have hkey : s.log.length - (after + 1) = k := by omega
  have hklt : k < s.log.length := by omega
  rw [since, revision, hk, List.take_succ_eq_append_getElem hklt, List.reverse_append,
    List.reverse_singleton, List.singleton_append] at hs
  obtain ⟨rfl, rfl⟩ := List.cons.inj hs
  refine ⟨?_, by rw [since, revision, hkey]⟩
  have hrev := h.getElem k hklt
  omega

end Since

/-! ## Looking back -/

section AsOf

variable {s s' : Store} {r : Nat}

theorem Sound.asOf_revision (h : s.Sound) : s.asOf s.revision = s := by
  unfold asOf
  rw [Nat.sub_self, List.drop_zero, ← h.entries, ← h.history]

/-- A later store remembers the earlier revisions alike: what came in between is dropped as well. -/
theorem Grows.drop_log (h : Grows s s') (hr : r ≤ s.revision) :
    s'.log.drop (s'.revision - r) = s.log.drop (s.revision - r) := by
  obtain ⟨news, hnews⟩ := h.log
  have hrev : s'.revision = news.length + s.revision := by
    simp only [revision, hnews, List.length_append]
  have hall : s'.revision - r = news.length + (s.revision - r) := by omega
  rw [hall, hnews, List.drop_length_add_append]

/-- To look back at an earlier store is to see it as it was. -/
theorem Grows.asOf (h : Grows s s') (hs : s.Sound) :
    (s'.asOf s.revision).log = s.log ∧ (s'.asOf s.revision).entries = s.entries := by
  have hlog : s'.log.drop (s'.revision - s.revision) = s.log := by
    rw [h.drop_log (Nat.le_refl _), Nat.sub_self, List.drop_zero]
  refine ⟨hlog, ?_⟩
  show replay (s'.log.drop (s'.revision - s.revision)) = s.entries
  rw [hlog, hs.entries]

end AsOf

/-! ## History -/

/-- The mutations that have left the history. -/
def evicted (s : Store) : List Mutation := s.log.drop s.historyLimit

section History

variable {s : Store}

/-- A mutation is history, or it has left it, and those that have left it are the older ones. -/
theorem Sound.log_eq (h : s.Sound) : s.log = s.history.reverse ++ s.evicted := by
  rw [h.history, List.reverse_reverse, evicted, List.take_append_drop]

/-- The numbers of the history follow those that have left it. -/
theorem Sound.revision_oldest (h : s.Sound) {oldest : Mutation}
    (ho : s.history.head? = some oldest) : oldest.revision = s.evicted.length + 1 := by
  have hlen : s.evicted.length = s.log.length - s.historyLimit := List.length_drop
  rw [h.history, List.head?_reverse, List.getLast?_eq_getElem?, List.length_take] at ho
  obtain ⟨hlt, rfl⟩ := List.getElem?_eq_some_iff.mp ho
  rw [List.length_take] at hlt
  rw [List.getElem_take, h.counted.getElem]
  omega

/-- What has left the history after a revision shows in the number of the oldest mutation there:
    there is a gap. -/
theorem exists_evicted_iff (h : s.Sound) {after : Nat} :
    (∃ m ∈ s.evicted, after < m.revision) ↔ ∃ oldest, s.compacted? after = some oldest := by
  have hcounted : Counted s.evicted := h.counted.drop _
  simp only [compacted?, Option.filter_eq_some_iff, decide_eq_true_eq]
  constructor
  · rintro ⟨m, hm, hlt⟩
    have hle := (hcounted.bounds hm).2
    -- nothing has left an empty history, for it can hold something
    cases ho : s.history.head? with
    | none =>
      have hnil : s.log = [] := by
        have hlimit := h.limit_pos
        have htake := h.history
        rw [List.head?_eq_none_iff.mp ho, eq_comm, List.reverse_eq_nil_iff,
          List.take_eq_nil_iff] at htake
        exact htake.resolve_left (by omega)
      rw [evicted, hnil, List.drop_nil] at hm
      cases hm
    | some oldest =>
      have hrev := h.revision_oldest ho
      exact ⟨oldest, rfl, by omega⟩
  · rintro ⟨oldest, ho, hlt⟩
    have hrev := h.revision_oldest ho
    -- the youngest of those that have left has the number before
    cases hev : s.evicted with
    | nil =>
      rw [hev, List.length_nil] at hrev
      omega
    | cons m older =>
      rw [hev] at hcounted hrev
      have hm := hcounted.1
      rw [List.length_cons] at hrev
      exact ⟨m, List.mem_cons_self, by omega⟩

end History

end Turnpike.Store
