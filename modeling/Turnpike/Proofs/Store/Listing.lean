/-
  Listings that are kept up to date.

  A program that follows a store takes a listing once and a watch from the revision of the listing
  on.  Whoever has done that needs no other listing: to do to it what the watch delivers, one
  mutation after the other, makes every later one, with values, revisions and order.

  1. **Scans** (`list_eq_scan`).  A listing filters the entries by a prefix.  A store that has its
     entries in order does better: it scans from the prefix on for as long as keys begin with it.
     That this is the same rests on the order of texts alone: what lies between a prefix and a text
     that begins with it begins with it, too (`prefix_of_between`), so that the keys under a prefix
     follow each other without a gap.

  2. **Updates** (`updated`).  A mutation is done to a list of entries in order by putting or
     dropping its key.  The listing of a later store is the earlier one with the mutations in
     between done to it (`Grows.list`), for listings leave aside what is not under the prefix, and
     so do watches.  Here the invariant of the log is what counts: entries are the log replayed, and
     to replay more is to update (`filterKeys_replay_append`).

  3. **A watch that is polled on** (`polls_deliver`).  While the store stays as it is, every poll
     delivers one more mutation, or there is none left, or the watch has failed.  The number of
     mutations bounds how often the first can be, and the induction is on that bound.

  4. **Up to a revision** (`deliveredUpTo`).  A watch may have gone on when the listing of an
     earlier moment is asked for, so that the mutations up to that revision are taken.  They are all
     there as soon as a mutation from then or from later was delivered, or the watch waits
     (`Abreast`), because delivery is in the order of revisions.

  5. **The outcome** (`list_eq_updated`).  The moments of a run are four: the listing, the opening
     of the watch, the store that is asked about, and the store now; writes may come between any
     two.
-/
import Mathlib.Logic.Relation
import Turnpike.Proofs.Store.Watch

namespace Turnpike.Store

/-! ## Scans -/

/-- What lies between a prefix and a text that begins with it begins with it, too. -/
theorem prefix_of_between {p k k' : List Char} (hpk : ¬k < p) (hkk' : k < k') (hp : p <+: k') :
    p <+: k := by
  induction p generalizing k k' with
  | nil => exact List.nil_prefix
  | cons c p ih =>
    obtain ⟨t, rfl⟩ := hp
    cases k with
    | nil => exact absurd (List.nil_lt_cons c p) hpk
    | cons d k =>
      rw [List.cons_append, List.cons_lt_cons_iff] at hkk'
      rw [List.cons_lt_cons_iff, not_or] at hpk
      -- were it smaller at its first character than the longer text, it would stand before the
      -- prefix
      rcases hkk' with hlt | ⟨rfl, hlt⟩
      · exact absurd hlt hpk.1
      · have hrest : ¬k < p := fun h => hpk.2 ⟨rfl, h⟩
        exact List.cons_prefix_cons.mpr ⟨rfl, ih hrest hlt (List.prefix_append p t)⟩

theorem not_lt_of_under {stem key : String} (h : under stem key = true) : ¬key < stem := by
  obtain ⟨t, ht⟩ := List.isPrefixOf_iff_prefix.mp h
  rw [String.lt_iff, ← ht]
  exact List.not_lt.mpr (List.le_append_left)

/-- The keys under a prefix follow each other without a gap. -/
theorem under_of_between {stem key key' : String} (h : ¬key < stem) (hlt : key < key')
    (hunder : under stem key' = true) : under stem key = true :=
  List.isPrefixOf_iff_prefix.mpr
    (prefix_of_between h hlt (List.isPrefixOf_iff_prefix.mp hunder))

/-- Once a scan has begun, nothing under the prefix comes after something that is not. -/
theorem filter_eq_takeWhile {stem : String} {l : List (String × Entry)} (h : Pairs.Ordered l)
    (hfrom : ∀ e ∈ l, ¬e.1 < stem) :
    l.filter (fun e => under stem e.1) = l.takeWhile fun e => under stem e.1 := by
  induction l with
  | nil => rfl
  | cons e l ih =>
    obtain ⟨he, hrest⟩ := List.pairwise_cons.mp h
    rw [List.filter_cons, List.takeWhile_cons]
    split
    case isTrue => rw [ih hrest fun f hf => hfrom f (List.mem_cons_of_mem e hf)]
    case isFalse hnot =>
      refine List.filter_eq_nil_iff.mpr fun f hf hunder => hnot ?_
      exact under_of_between (hfrom e List.mem_cons_self) (he f hf) hunder

/-- A listing is a scan, from the first entry that does not stand before the prefix to the last one
    under it. -/
theorem list_eq_scan (s : Store) (stem : String) :
    s.list stem =
      (s.entries.entries.dropWhile fun e => e.1 < stem).takeWhile fun e => under stem e.1 := by
  unfold list Dictionary.filterKeys
  have hordered : Pairs.Ordered s.entries.entries := s.entries.ordered
  generalize s.entries.entries = l at hordered
  induction l with
  | nil => rfl
  | cons e l ih =>
    obtain ⟨he, hrest⟩ := List.pairwise_cons.mp hordered
    -- entries before the prefix are dropped, and they are not under it
    by_cases hlt : e.1 < stem
    · have hnot : ¬under stem e.1 = true := fun h => not_lt_of_under h hlt
      rw [List.filter_cons_of_neg (by simpa using hnot), List.dropWhile_cons_of_pos (by simpa using hlt),
        ih hrest]
    · rw [List.dropWhile_cons_of_neg (by simpa using hlt)]
      refine filter_eq_takeWhile hordered fun f hf => ?_
      rcases List.mem_cons.mp hf with rfl | hf
      · exact hlt
      · exact fun h => hlt (String.lt_trans (he f hf) h)

/-! ## Mutations done to a listing -/

/-- A mutation done to entries in the order of their keys. -/
def Mutation.update (l : List (String × Entry)) (m : Mutation) : List (String × Entry) :=
  match m.value with
  | some v => Pairs.put m.key ⟨v, m.revision⟩ l
  | none => Pairs.drop m.key l

/-- Entries with mutations done to them, one after the other. -/
def updated (l : List (String × Entry)) (ms : List Mutation) : List (String × Entry) :=
  ms.foldl Mutation.update l

/-- A mutation shows in the entries under a prefix if its key is under it, and otherwise not. -/
theorem filterKeys_replay_cons (m : Mutation) (older : List Mutation) (stem : String) :
    (replay (m :: older)).filterKeys (under stem) =
      if under stem m.key then m.update ((replay older).filterKeys (under stem))
      else (replay older).filterKeys (under stem) := by
  rw [replay, Mutation.update]
  -- a put or a deletion; either commutes with the restriction to a prefix
  cases m.value with
  | some v =>
    have h := congrArg Dictionary.entries
      ((replay older).restrict_insert (under stem) m.key ⟨v, m.revision⟩)
    rwa [apply_ite Dictionary.entries] at h
  | none =>
    have h := congrArg Dictionary.entries ((replay older).restrict_erase (under stem) m.key)
    rwa [apply_ite Dictionary.entries] at h

/-- What is replayed after some log shows in the entries under a prefix as an update. -/
theorem filterKeys_replay_append (news older : List Mutation) (stem : String) :
    (replay (news ++ older)).filterKeys (under stem) =
      updated ((replay older).filterKeys (under stem))
        (news.reverse.filter fun m => under stem m.key) := by
  induction news with
  | nil => rfl
  | cons m news ih =>
    rw [List.cons_append, filterKeys_replay_cons, ih, List.reverse_cons, List.filter_append]
    cases hunder : under stem m.key with
    | true => simp [hunder, updated]
    | false => simp [hunder, updated]

/-- The listing of a later store is the earlier one with what came later done to it. -/
theorem Grows.list {s s' : Store} (h : Grows s s') (hs : s.Sound) (hs' : s'.Sound)
    (stem : String) :
    s'.list stem =
      updated (s.list stem) ((s'.since s.revision).filter fun m => under stem m.key) := by
  obtain ⟨news, hnews⟩ := h.log
  have hlen : s'.revision - s.revision = news.length := by
    simp only [revision, hnews, List.length_append]
    omega
  have hsince : s'.since s.revision = news.reverse := by
    rw [Store.since, hlen, hnews, List.take_left]
  rw [Store.list, Store.list, hs'.entries, hs.entries, hnews, hsince, filterKeys_replay_append]

/-! ## A watch that is polled on -/

/-- Polls one after the other while the store stays as it is. -/
def Watch.polls (s : Store) : Nat → Watch → Watch × List Notice
  | 0, w => (w, [])
  | n + 1, w =>
    let (w, notice) := w.poll s
    let (w, notices) := polls s n w
    (w, notice :: notices)

section Polls

variable {stem : String} {after : Nat} {s₀ s : Store} {w : Watch} {ns : List Notice}

/-- A poll goes on with the stream. -/
theorem Streams.poll (h : Streams stem after s₀ s w ns) :
    Streams stem after s₀ s (w.poll s).1 (ns ++ [(w.poll s).2]) :=
  h.looks (looks_poll h.sound w)

/-- So do polls in a row. -/
theorem Streams.polls (h : Streams stem after s₀ s w ns) (n : Nat) :
    Streams stem after s₀ s (w.polls s n).1 (ns ++ (w.polls s n).2) := by
  induction n generalizing w ns with
  | zero => simpa [Watch.polls] using h
  | succ n ih => simpa [Watch.polls] using ih h.poll

/-- A watch that is over has failed. -/
theorem Streams.exists_failed (h : Streams stem after s₀ s w ns) (hover : .over ∈ ns) :
    ∃ e, .failed e ∈ ns := by
  obtain ⟨ending, hending, hsaid⟩ := h.ends
  have hmem {n : Notice} (hn : n ≠ .pending) :
      n ∈ ns ↔ n ∈ (delivered ns).map .mutation ∨ n ∈ ending := by
    rw [← List.mem_append, ← hsaid, said, List.mem_filter]
    simp [hn]
  generalize w.ended = ended at hending
  -- nothing is over while the stream has not ended
  cases hending with
  | none => simp [hmem] at hover
  | @failed e _ n =>
    have hne : Notice.failed e ≠ .pending := by rintro ⟨⟩
    exact ⟨e, (hmem hne).mpr (Or.inr List.mem_cons_self)⟩

/-- A watch that is polled on comes to all mutations that it is about, if it does not fail. -/
theorem Streams.polls_deliver (h : Streams stem after s₀ s w ns) {n : Nat}
    (hn : s.revision < (delivered ns).length + n) :
    (∃ e, .failed e ∈ ns ++ (w.polls s n).2) ∨
      delivered (ns ++ (w.polls s n).2) = (s.since after).filter fun m => under stem m.key := by
  induction n generalizing w ns with
  | zero =>
    -- nothing is left to be delivered, or the number of polls would have been too small
    have hle : (delivered ns).length ≤ (s.since after).length :=
      Nat.le_trans h.delivers.isPrefix.length_le (List.length_filter_le _ _)
    have hall : (s.since after).length ≤ s.revision := by
      rw [since, List.length_reverse, List.length_take]
      omega
    omega
  | succ n ih =>
    have hpoll := h.poll
    have hpolls := h.polls (n + 1)
    have hnext (hlt : s.revision < (delivered (ns ++ [(w.poll s).2])).length + n) :
        (∃ e, .failed e ∈ ns ++ (w.polls s (n + 1)).2) ∨
          delivered (ns ++ (w.polls s (n + 1)).2) =
            (s.since after).filter fun m => under stem m.key := by
      simpa [Watch.polls] using ih hpoll hlt
    have hfirst : (w.poll s).2 ∈ ns ++ (w.polls s (n + 1)).2 := by simp [Watch.polls]
    -- what the next poll says decides whether there is anything left to do
    cases hnotice : (w.poll s).2 with
    | mutation m =>
      refine hnext ?_
      rw [hnotice, delivered_append, List.length_append, delivered_mutation, List.length_singleton]
      omega
    | pending =>
      -- all has been delivered before, and there is nothing beyond it
      have hlooks := looks_poll h.sound w
      rw [hnotice] at hlooks
      have hall := h.delivers.of_pending h.sound hlooks
      refine Or.inr (List.IsPrefix.eq_of_length_le hpolls.delivers.isPrefix ?_)
      rw [← hall, delivered_append, List.length_append]
      omega
    | failed e => exact Or.inl ⟨e, hnotice ▸ hfirst⟩
    | «over» => exact Or.inl (hpolls.exists_failed (hnotice ▸ hfirst))

end Polls

/-! ## Listings kept up to date -/

/-- What a store can come to by writes. -/
abbrev Later (s s' : Store) : Prop := Relation.ReflTransGen Write s s'

/-- Writes keep a store sound, and it grows by them. -/
theorem Sound.later {s s' : Store} (h : s.Sound) (hl : Later s s') : s'.Sound ∧ Grows s s' := by
  induction hl with
  | refl => exact ⟨h, Grows.refl s⟩
  | tail _ w ih =>
    obtain ⟨hsound, hgrows⟩ := ih.1.write w
    exact ⟨hsound, ih.2.trans hgrows⟩

/-- The mutations that notices deliver, up to a revision. -/
def deliveredUpTo (revision : Nat) (ns : List Notice) : List Mutation :=
  (delivered ns).filter (·.revision ≤ revision)

/-- A watch has come to a revision: it has delivered a mutation from then or from later, or it waits
    for one after having delivered all. -/
def Abreast (s : Store) (w : Watch) (ns : List Notice) (revision : Nat) : Prop :=
  (w.poll s).2 = .pending ∨ ∃ m ∈ delivered ns, revision ≤ m.revision

/-- The mutations up to the revision of an earlier store are those of the earlier store. -/
theorem Grows.upTo {s s' : Store} (h : Grows s s') (hs : s.Sound) (hs' : s'.Sound) {after : Nat}
    (hafter : after ≤ s.revision) (stem : String) :
    ((s'.since after).filter fun m => under stem m.key).filter (·.revision ≤ s.revision) =
      (s.since after).filter fun m => under stem m.key := by
  rw [h.since hafter, List.filter_append, List.filter_append]
  have hold : ((s.since after).filter fun m => under stem m.key).filter (·.revision ≤ s.revision) =
      (s.since after).filter fun m => under stem m.key := by
    refine List.filter_eq_self.mpr fun m hm => ?_
    have hmem := (mem_since hs.counted).mp (List.mem_filter.mp hm).1
    exact decide_eq_true (hs.counted.bounds hmem.1).2
  have hnew : ((s'.since s.revision).filter fun m => under stem m.key).filter
      (·.revision ≤ s.revision) = [] := by
    refine List.filter_eq_nil_iff.mpr fun m hm => ?_
    have hlt := ((mem_since hs'.counted).mp (List.mem_filter.mp hm).1).2
    simpa using hlt
  rw [hold, hnew, List.append_nil]

/-- A watch that has come to a revision has delivered all that was to be delivered up to there. -/
theorem Streams.deliveredUpTo_eq {stem : String} {after : Nat} {s₀ s : Store} {w : Watch}
    {ns : List Notice} (h : Streams stem after s₀ s w ns) {revision : Nat}
    (ha : Abreast s w ns revision) :
    deliveredUpTo revision ns =
      ((s.since after).filter fun m => under stem m.key).filter (·.revision ≤ revision) := by
  rcases ha with hpending | ⟨m, hm, hle⟩
  · have hlooks := looks_poll h.sound w
    rw [hpending] at hlooks
    rw [deliveredUpTo, h.delivers.of_pending h.sound hlooks]
  · obtain ⟨rest, hrest⟩ := h.delivers.isPrefix
    -- what has not been delivered is later than all that has been
    have horder : (delivered ns ++ rest).Pairwise (·.revision < ·.revision) := by
      rw [hrest]
      exact (since_pairwise h.sound.counted after).filter _
    have hlater : rest.filter (·.revision ≤ revision) = [] := by
      refine List.filter_eq_nil_iff.mpr fun d hd => ?_
      have hlt := (List.pairwise_append.mp horder).2.2 m hm d hd
      rw [decide_eq_true_eq]
      omega
    rw [← hrest, List.filter_append, hlater, List.append_nil, deliveredUpTo]

/-- One who has listed a prefix can always open a watch from the revision of the listing.  However
    late it is opened, and however looks and writes follow each other: when the watch has come to the
    revision of a later store, to do to the listing what it has delivered up to there makes the
    listing of that store, with its values, their revisions and its order.  And it comes there, unless
    it fails, when it is polled more often than there are mutations. -/
theorem list_eq_updated {history : Nat} {s₁ : Store} (hs : Made history s₁) (stem : String) :
    (∃ w, s₁.watch stem s₁.revision = .ok w) ∧
      ∀ s₀ w₀, Later s₁ s₀ → s₀.watch stem s₁.revision = .ok w₀ →
        ∀ s w ns, Observed s₀ w₀ s w ns → ∀ s₂, Later s₁ s₂ → Later s₂ s →
          (Abreast s w ns s₂.revision →
            updated (s₁.list stem) (deliveredUpTo s₂.revision ns) = s₂.list stem) ∧
          ∀ n, s.revision < n → (∃ e, .failed e ∈ ns ++ (w.polls s n).2) ∨
            updated (s₁.list stem) (deliveredUpTo s₂.revision (ns ++ (w.polls s n).2)) =
              s₂.list stem := by
  have hsound := hs.sound
  constructor
  · cases hw : s₁.watch stem s₁.revision with
    | ok w => exact ⟨w, rfl⟩
    | error e =>
      obtain ⟨m, hm, hlt⟩ := (watch_eq_error_iff hsound stem s₁.revision).mp ⟨e, hw⟩
      have hle := (hsound.counted.bounds (List.mem_of_mem_drop hm)).2
      exact absurd hlt (Nat.not_lt.mpr hle)
  · intro s₀ w₀ hl₀ hw s w ns ho s₂ hl₂ hl
    obtain ⟨hsound₀, hgrows₀⟩ := hsound.later hl₀
    obtain ⟨hsound₂, hgrows₂⟩ := hsound.later hl₂
    -- the watch was opened on a store that had grown, from a revision that it still has
    have hopened : Streams stem s₁.revision s₀ s₀ w₀ [] :=
      streams_watch hsound₀ hgrows₀.revision_le hw
    have h : Streams stem s₁.revision s₀ s w ns := hopened.observed ho
    have hupTo := (hsound₂.later hl).2.upTo hsound₂ h.sound hgrows₂.revision_le stem
    have hlist := hgrows₂.list hsound hsound₂ stem
    refine ⟨fun ha => ?_, fun n hn => ?_⟩
    · rw [h.deliveredUpTo_eq ha, hupTo, hlist]
    · refine (h.polls_deliver (n := n) (by omega)).imp_right fun hall => ?_
      rw [deliveredUpTo, hall, hupTo, hlist]

/-- A store that keeps two mutations, when it is listed. -/
def listed : Store := ((make 2).put "/p/a" "1").put "/q" "2"

/-- The store when a watch from the listing is opened. -/
def reopened : Store := listed.put "/p/b" "3"

/-- The watch. -/
def resumed : Watch := ⟨"/p/", [⟨"/p/b", some "3", 3⟩], 2, 3, 0, false⟩

/-- The store when the watch is polled. -/
def polled : Store := reopened.delete "/p/a"

/-- One mutation was made before the watch was opened and one after it; both are done to the listing
    by five polls. -/
theorem list_eq_updated_polled :
    Made 2 listed ∧ Later listed reopened ∧ Later reopened polled ∧
      reopened.watch "/p/" listed.revision = .ok resumed ∧ polled.revision < 5 ∧
      polled.list "/p/" = [("/p/b", ⟨"3", 3⟩)] ∧
      updated (listed.list "/p/") (deliveredUpTo polled.revision (resumed.polls polled 5).2) =
        polled.list "/p/" := by
  have hmade : Made 2 listed := .write (.write .make (.put _ _)) (.put _ _)
  have hopen : Later listed reopened := .single (.put _ _)
  have hpoll : Later reopened polled := .single (.delete _)
  have hwatch : reopened.watch "/p/" listed.revision = .ok resumed := rfl
  have hfive : polled.revision < 5 := by decide +kernel
  refine ⟨hmade, hopen, hpoll, hwatch, hfive, by decide +kernel, ?_⟩
  have hobserved : Observed reopened resumed polled resumed [] := .write .opened (.delete _)
  rcases ((list_eq_updated hmade "/p/").2 reopened resumed hopen hwatch polled resumed []
    hobserved polled (hopen.trans hpoll) .refl).2 5 hfive with ⟨e, he⟩ | heq
  · have hnotices : (resumed.polls polled 5).2 = [.mutation ⟨"/p/b", some "3", 3⟩,
        .mutation ⟨"/p/a", none, 4⟩, .pending, .pending, .pending] := by decide +kernel
    simp [hnotices] at he
  · exact heq

end Turnpike.Store
