/-
  What a watch delivers.

  A watch follows the mutations under a prefix after a revision.  It is caught up from the history
  of its store first, and then takes live mutations one after the other, while the store is written:
  not only between two polls, but also while a poll passes over live mutations that do not concern
  it.  It may be broken by the store, and it fails when more live mutations wait than a queue can
  hold.

  1. **Looks** (`Look`).  A poll looks at one live mutation after the other until it has something
     to say.  Since writes may come in between, the step here is a single look, with one constructor
     for each thing that can come of it, and a poll is made up of them (`looks_poll`).  A run of an
     open watch is any row of looks, polls and writes (`Observed`).

  2. **Refusal** (`watch_eq_error_iff`).  A watch is refused when a mutation that it might have to
     deliver has left the history, whether or not that one is under its prefix.  Hence, for one that
     is opened, the history is as good as the whole log (`backlog_eq_history`).

  3. **The invariant** (`Delivers`).  What was delivered, what is left of the backlog, and the live
     mutations not yet looked at are together, in this order, the mutations that the watch is about.
     A write adds to the last part and to the whole (`Delivers.grow`); a look moves the first
     mutation of what remains to what was delivered, or drops it when it is not under the prefix
     (`Delivers.look`).  The revisions in a watch are there to say where the parts end, and the
     bounds on them in the invariant are what keeps a mutation from being in two parts.

  4. **The end** (`Ending`).  A stream ends with one error and nothing behind it, and there is a
     reason for the error (`Fails`).  `Streams` adds this to the invariant, with what it takes to
     show the reason: when the watch was opened it knew the breaks of its store.

  5. **The outcome** (`watch_delivers`).  By induction over the run a watch delivers an initial
     segment of the mutations that it is about, and whenever it waits it has delivered all of them.
-/
import Turnpike.Proofs.Store.Log
import Turnpike.Store.Watch

namespace Turnpike.Store

/-! ## Single looks -/

/-- What a watch can come to by looking once, and what it then has to say.  It has nothing to say
    when it passes over a live mutation.  That it was broken may be noticed late. -/
inductive Look (s : Store) (w : Watch) : Watch → Option Notice → Prop where
  | finished (ended : w.ended = true) : Look s w w (some .over)
  | backlog {m : Mutation} {rest : List Mutation} (stands : w.ended = false)
      (waiting : w.backlog = m :: rest) :
      Look s w { w with backlog := rest, last := m.revision } (some (.mutation m))
  | broken (stands : w.ended = false) (done : w.backlog = []) (broken : w.breaks < s.breaks) :
      Look s w { w with ended := true } (some (.failed (.feed "watch connection lost")))
  | lagged {n : Nat} (stands : w.ended = false) (done : w.backlog = []) (many : 0 < n)
      (missed : w.seen + liveLimit + n = s.revision) :
      Look s w { w with ended := true } (some (.failed (.feed s!"watch lagged by {n} events")))
  | pending (stands : w.ended = false) (done : w.backlog = []) (none : s.since w.seen = []) :
      Look s w w (some .pending)
  | live {m : Mutation} {rest : List Mutation} (stands : w.ended = false) (done : w.backlog = [])
      (few : s.revision ≤ w.seen + liveLimit) (next : s.since w.seen = m :: rest)
      (concerned : concerns w.stem w.last m = true) :
      Look s w { w with seen := m.revision, last := m.revision } (some (.mutation m))
  | pass {m : Mutation} {rest : List Mutation} (stands : w.ended = false) (done : w.backlog = [])
      (few : s.revision ≤ w.seen + liveLimit) (next : s.since w.seen = m :: rest)
      (unconcerned : concerns w.stem w.last m = false) :
      Look s w { w with seen := m.revision } none

/-- Looks up to the first that has something to say. -/
inductive Looks (s : Store) : Watch → Watch → Notice → Prop where
  | last {w w' : Watch} {n : Notice} (look : Look s w w' (some n)) : Looks s w w' n
  | pass {w w' w'' : Watch} {n : Notice} (look : Look s w w' none) (rest : Looks s w' w'' n) :
      Looks s w w'' n

/-- To follow the live mutations is to look at one after the other. -/
theorem looks_follow {s : Store} (hs : s.Sound) {live : List Mutation} :
    ∀ {w : Watch}, w.ended = false → w.backlog = [] → s.revision ≤ w.seen + liveLimit →
      s.since w.seen = live → Looks s w (w.follow live).1 (w.follow live).2 := by
  induction live with
  | nil =>
    intro w hstands hdone _ hlive
    exact .last (.pending hstands hdone hlive)
  | cons m rest ih =>
    intro w hstands hdone hfew hlive
    obtain ⟨hnext, hrest⟩ := since_eq_cons hs.counted hlive
    rw [Watch.follow]
    split
    case isTrue hc => exact .last (.live hstands hdone hfew hlive hc)
    -- a mutation that does not concern the watch is passed over, and following goes on
    case isFalse hc =>
      have hpass : Look s w { w with seen := m.revision } none :=
        .pass hstands hdone hfew hlive (by simpa using hc)
      refine .pass hpass (ih hstands hdone ?_ ?_)
      · show s.revision ≤ m.revision + liveLimit
        omega
      · show s.since m.revision = rest
        rw [hnext, hrest]

/-- A poll is made up of looks. -/
theorem looks_poll {s : Store} (hs : s.Sound) (w : Watch) :
    Looks s w (w.poll s).1 (w.poll s).2 := by
  unfold Watch.poll
  split
  case isTrue hended => exact .last (.finished hended)
  case isFalse hstands =>
    have hstands : w.ended = false := by simpa using hstands
    split
    case h_1 m rest hwaiting => exact .last (.backlog hstands hwaiting)
    case h_2 hdone =>
      split
      case isTrue hbroken => exact .last (.broken hstands hdone hbroken)
      case isFalse =>
        split
        case isTrue hlagged =>
          exact .last (.lagged hstands hdone (by omega) (by omega))
        case isFalse hfew => exact looks_follow hs hstands hdone (by omega) rfl

/-- The mutation that a notice delivers. -/
def Notice.mutation? : Notice → Option Mutation
  | mutation m => some m
  | _ => none

/-- The mutations that notices deliver. -/
def delivered (ns : List Notice) : List Mutation := ns.filterMap Notice.mutation?

/-- What is delivered by more notices is delivered by one part of them after the other. -/
@[simp] theorem delivered_append (ns ns' : List Notice) :
    delivered (ns ++ ns') = delivered ns ++ delivered ns' := List.filterMap_append

@[simp] theorem delivered_mutation (m : Mutation) : delivered [.mutation m] = [m] := rfl

@[simp] theorem delivered_pending : delivered [.pending] = [] := rfl

@[simp] theorem delivered_failed (e : Error) : delivered [.failed e] = [] := rfl

@[simp] theorem delivered_over : delivered [.over] = [] := rfl

@[simp] theorem delivered_nil : delivered [] = [] := rfl

/-! ## Refusal, and the backlog -/

/-- A watch is refused when a later mutation has left the history. -/
theorem watch_eq_error_iff {s : Store} (hs : s.Sound) (stem : String) (after : Nat) :
    (∃ e, s.watch stem after = .error e) ↔ ∃ m ∈ s.evicted, after < m.revision := by
  rw [exists_evicted_iff hs, watch]
  split
  case h_1 oldest hgap => exact ⟨fun _ => ⟨oldest, hgap⟩, fun _ => ⟨_, rfl⟩⟩
  case h_2 hnone =>
    constructor
    · rintro ⟨e, he⟩
      cases he
    · rintro ⟨oldest, hgap⟩
      rw [hnone] at hgap
      cases hgap

/-- The mutations that a watch is about, out of all that were ever made. -/
theorem since_under_eq {s : Store} (hs : s.Sound) (stem : String) (after : Nat) :
    ((s.since after).filter fun m => under stem m.key) =
      s.log.reverse.filter (concerns stem after) := by
  rw [since_eq_filter hs.counted, List.filter_filter]
  refine List.filter_congr fun m _ => ?_
  rw [concerns, Bool.and_comm]

/-- What a watch has to catch up with is still in the history: a watch that is not refused finds
    there all that it is about, out of all mutations that were ever made. -/
theorem backlog_eq_history {s : Store} (hs : s.Sound) {stem : String} {after : Nat} {w : Watch}
    (hw : s.watch stem after = .ok w) :
    s.history.filter (concerns stem after) = s.log.reverse.filter (concerns stem after) := by
  have hnone : s.evicted.reverse.filter (concerns stem after) = [] := by
    refine List.filter_eq_nil_iff.mpr fun m hm hconcerns => ?_
    rw [concerns, Bool.and_eq_true, decide_eq_true_eq] at hconcerns
    -- a mutation that had left the history would have had the watch refused
    obtain ⟨e, he⟩ := (watch_eq_error_iff hs stem after).mpr
      ⟨m, List.mem_reverse.mp hm, hconcerns.1⟩
    rw [hw] at he
    cases he
  rw [hs.log_eq, List.reverse_append, List.reverse_reverse, List.filter_append, hnone,
    List.nil_append]

/-! ## Delivery -/

/-- A watch on a prefix, opened after a revision, has delivered these mutations, and what it can
    still deliver is what remains. -/
structure Delivers (stem : String) (after : Nat) (s : Store) (w : Watch) (ds : List Mutation) :
    Prop where
  stem_eq : w.stem = stem
  after_le : after ≤ s.revision
  last_le : w.last ≤ w.seen
  seen_le : w.seen ≤ s.revision
  /-- The backlog is from before. -/
  backlog_le : ∀ m ∈ w.backlog, m.revision ≤ w.seen
  /-- What was delivered has been seen. -/
  delivered_le : ∀ m ∈ ds, m.revision ≤ w.seen
  /-- Nothing is left out, and nothing comes twice. -/
  whole : ds ++ w.backlog ++ (s.since w.seen).filter (fun m => under stem m.key) =
    (s.since after).filter fun m => under stem m.key

section Delivers

variable {stem : String} {after : Nat} {s s' : Store} {w w' : Watch} {ds : List Mutation}

/-- What a watch delivers is an initial segment of the mutations that it is about. -/
theorem Delivers.isPrefix (h : Delivers stem after s w ds) :
    ds <+: (s.since after).filter fun m => under stem m.key := by
  rw [← h.whole, List.append_assoc]
  exact List.prefix_append _ _

/-- A watch that was just opened has all before it: its backlog, which is taken from the history, is
    all that it is about. -/
theorem delivers_watch (hs : s.Sound) (hafter : after ≤ s.revision)
    (hw : s.watch stem after = .ok w) : Delivers stem after s w [] := by
  have hbacklog := backlog_eq_history hs hw
  rw [← since_under_eq hs] at hbacklog
  unfold watch at hw
  split at hw
  case h_1 => cases hw
  case h_2 =>
    cases hw
    refine ⟨rfl, hafter, hafter, Nat.le_refl _, fun m hm => ?_, nofun, ?_⟩
    · have hmem : m ∈ s.history := (List.mem_filter.mp hm).1
      rw [hs.history, List.mem_reverse] at hmem
      exact (hs.counted.bounds (List.mem_of_mem_take hmem)).2
    · -- nothing is live yet
      rw [since_revision, List.filter_nil, List.append_nil, List.nil_append]
      exact hbacklog

/-- A write adds to what remains. -/
theorem Delivers.grow (h : Delivers stem after s w ds) (hg : Grows s s') :
    Delivers stem after s' w ds := by
  have hle := hg.revision_le
  refine ⟨h.stem_eq, Nat.le_trans h.after_le hle, h.last_le, Nat.le_trans h.seen_le hle,
    h.backlog_le, h.delivered_le, ?_⟩
  rw [hg.since h.seen_le, hg.since h.after_le, List.filter_append, List.filter_append, ← h.whole]
  simp only [List.append_assoc]

/-- The next live mutation is taken from what remains. -/
theorem Delivers.see (h : Delivers stem after s w ds) (hs : s.Sound) {m : Mutation}
    {rest : List Mutation} (hdone : w.backlog = []) (hnext : s.since w.seen = m :: rest)
    {last : Nat} (hlast : last ≤ m.revision) :
    Delivers stem after s { w with seen := m.revision, last := last }
      (ds ++ [m].filter fun m => under stem m.key) := by
  obtain ⟨hrev, hrest⟩ := since_eq_cons hs.counted hnext
  have hmem : m ∈ s.since w.seen := by rw [hnext]; exact List.mem_cons_self
  have hmle : m.revision ≤ s.revision :=
    (hs.counted.bounds ((mem_since hs.counted).mp hmem).1).2
  refine ⟨h.stem_eq, h.after_le, hlast, hmle, fun d hd => ?_, fun d hd => ?_, ?_⟩
  · rw [hdone] at hd
    cases hd
  · show d.revision ≤ m.revision
    rcases List.mem_append.mp hd with hd | hd
    · have hle := h.delivered_le d hd
      omega
    · obtain rfl := List.mem_singleton.mp (List.mem_filter.mp hd).1
      exact Nat.le_refl _
  · have hwhole := h.whole
    -- the mutation is the first of what remains, so it can stand at the end of what was delivered
    rw [hdone, List.append_nil, hnext] at hwhole
    show ds ++ [m].filter _ ++ w.backlog ++ (s.since m.revision).filter _ = _
    rw [hdone, List.append_nil, hrev, hrest, List.append_assoc, ← List.filter_append, ← hwhole,
      List.singleton_append]

/-- The next live mutation concerns the watch when it is under the prefix. -/
theorem Delivers.concerns_eq (h : Delivers stem after s w ds) (hs : s.Sound) {m : Mutation}
    {rest : List Mutation} (hnext : s.since w.seen = m :: rest) :
    concerns w.stem w.last m = under stem m.key := by
  have hrev := (since_eq_cons hs.counted hnext).1
  have hle := h.last_le
  have hlt : w.last < m.revision := by omega
  simp [concerns, hlt, h.stem_eq]

/-- A look delivers what it tells of. -/
theorem Delivers.look (h : Delivers stem after s w ds) (hs : s.Sound) {n? : Option Notice}
    (hl : Look s w w' n?) : Delivers stem after s w' (ds ++ delivered n?.toList) := by
  -- a watch that fails has everything else as it was
  have hfailed : Delivers stem after s { w with ended := true } ds :=
    ⟨h.stem_eq, h.after_le, h.last_le, h.seen_le, h.backlog_le, h.delivered_le, h.whole⟩
  -- one case for each thing that a look can come to
  cases hl with
  | finished => simpa using h
  | @backlog m rest _ waiting =>
    have hmle : m.revision ≤ w.seen := h.backlog_le m (by rw [waiting]; exact List.mem_cons_self)
    refine ⟨h.stem_eq, h.after_le, hmle, h.seen_le, fun d (hd : d ∈ rest) => ?_, fun d hd => ?_, ?_⟩
    · exact h.backlog_le d (by rw [waiting]; exact List.mem_cons_of_mem m hd)
    · rcases List.mem_append.mp hd with hd | hd
      · exact h.delivered_le d hd
      · obtain rfl := List.mem_singleton.mp hd
        exact hmle
    · have hwhole := h.whole
      rw [waiting] at hwhole
      simpa using hwhole
  | broken => simpa using hfailed
  | lagged => simpa using hfailed
  | pending => simpa using h
  | @live m rest _ done _ next concerned =>
    -- it concerns the watch, so it is what the invariant has next
    rw [h.concerns_eq hs next] at concerned
    have hsee := h.see hs done next (Nat.le_refl m.revision)
    have hone : ([m].filter fun m => under stem m.key) = [m] := by simp [concerned]
    rw [hone] at hsee
    exact hsee
  | @pass m rest _ done _ next unconcerned =>
    rw [h.concerns_eq hs next] at unconcerned
    have hrev := (since_eq_cons hs.counted next).1
    have hle := h.last_le
    have hsee := h.see hs done next (show w.last ≤ m.revision by omega)
    have hnone : ([m].filter fun m => under stem m.key) = [] := by simp [unconcerned]
    rw [hnone] at hsee
    exact hsee

/-- A poll delivers what it tells of. -/
theorem Delivers.looks (h : Delivers stem after s w ds) (hs : s.Sound) {n : Notice}
    (hl : Looks s w w' n) : Delivers stem after s w' (ds ++ delivered [n]) := by
  induction hl generalizing ds with
  | last look => exact h.look hs look
  | pass look _ ih =>
    have hpass := h.look hs look
    rw [Option.toList_none, delivered_nil, List.append_nil] at hpass
    exact ih hpass

/-- When a watch waits for the next mutation, it has delivered all that there were. -/
theorem Delivers.of_pending (h : Delivers stem after s w ds) (hs : s.Sound)
    (hl : Looks s w w' .pending) : ds = (s.since after).filter fun m => under stem m.key := by
  generalize hn : Notice.pending = n at hl
  induction hl with
  | last look =>
    subst hn
    -- only a look that finds nothing waiting says so, and then nothing remains
    cases look with
    | pending _ done none =>
      have hwhole := h.whole
      rw [done, none, List.filter_nil, List.append_nil, List.append_nil] at hwhole
      exact hwhole
  | pass look _ ih =>
    have hpass := h.look hs look
    rw [Option.toList_none, delivered_nil, List.append_nil] at hpass
    exact ih hpass hn

end Delivers

/-! ## The stream of a watch -/

/-- What an open watch can come to among writes of its store, with the notices that it has given. -/
inductive Observed (s₀ : Store) (w₀ : Watch) : Store → Watch → List Notice → Prop where
  | opened : Observed s₀ w₀ s₀ w₀ []
  | write {s s' : Store} {w : Watch} {ns : List Notice} (before : Observed s₀ w₀ s w ns)
      (h : Write s s') : Observed s₀ w₀ s' w ns
  | look {s : Store} {w w' : Watch} {ns : List Notice} {n? : Option Notice}
      (before : Observed s₀ w₀ s w ns) (h : Look s w w' n?) : Observed s₀ w₀ s w' (ns ++ n?.toList)
  | poll {s : Store} {w : Watch} {ns : List Notice} (before : Observed s₀ w₀ s w ns) :
      Observed s₀ w₀ s (w.poll s).1 (ns ++ [(w.poll s).2])

/-- A watch that was opened in `s₀` and has delivered these mutations fails for a reason: it was
    broken, or more live mutations wait than may. -/
inductive Fails (s₀ s : Store) (ds : List Mutation) : Error → Prop where
  | broken (h : s₀.breaks < s.breaks) : Fails s₀ s ds (.feed "watch connection lost")
  | lagged {n seen : Nat} (many : 0 < n) (since : s₀.revision ≤ seen)
      (later : ∀ m ∈ ds, m.revision ≤ seen) (missed : seen + liveLimit + n ≤ s.revision) :
      Fails s₀ s ds (.feed s!"watch lagged by {n} events")

/-- What is said besides that there is nothing yet. -/
def said (ns : List Notice) : List Notice := ns.filter (· != .pending)

/-- How the stream of a watch ends: not yet, or with one error and nothing behind it. -/
inductive Ending (s₀ s : Store) (ds : List Mutation) : Bool → List Notice → Prop where
  | none : Ending s₀ s ds false []
  | failed {e : Error} (why : Fails s₀ s ds e) (n : Nat) :
      Ending s₀ s ds true (.failed e :: List.replicate n .over)

/-- What holds of a watch that was opened in `s₀`. -/
structure Streams (stem : String) (after : Nat) (s₀ s : Store) (w : Watch) (ns : List Notice) :
    Prop where
  sound : s.Sound
  delivers : Delivers stem after s w (delivered ns)
  breaks_eq : w.breaks = s₀.breaks
  opened_le : s₀.revision ≤ w.seen
  ends : ∃ ending, Ending s₀ s (delivered ns) w.ended ending ∧
    said ns = (delivered ns).map .mutation ++ ending

section Streams

variable {stem : String} {after : Nat} {s₀ s s' : Store} {w w' : Watch} {ns : List Notice}

/-- A reason to fail remains one when the store is written. -/
theorem Fails.grow {ds : List Mutation} {e : Error} (h : Fails s₀ s ds e) (hg : Grows s s') :
    Fails s₀ s' ds e := by
  cases h with
  | broken hb => exact .broken (Nat.lt_of_lt_of_le hb hg.breaks)
  | lagged many since later missed =>
    exact .lagged many since later (Nat.le_trans missed hg.revision_le)

/-- A stream that has ended remains so when the store is written. -/
theorem Ending.grow {ds : List Mutation} {ended : Bool} {ending : List Notice}
    (h : Ending s₀ s ds ended ending) (hg : Grows s s') : Ending s₀ s' ds ended ending := by
  cases h with
  | none => exact .none
  | failed why n => exact .failed (why.grow hg) n

/-- A watch that was just opened has said nothing, and it stands. -/
theorem streams_watch (hs : s.Sound) (hafter : after ≤ s.revision)
    (hw : s.watch stem after = .ok w) : Streams stem after s s w [] := by
  have hdelivers := delivers_watch hs hafter hw
  unfold watch at hw
  split at hw
  case h_1 => cases hw
  case h_2 =>
    cases hw
    exact ⟨hs, hdelivers, rfl, Nat.le_refl _, [], .none, rfl⟩

/-- A write says nothing, and leaves the end of the stream as it was. -/
theorem Streams.write (h : Streams stem after s₀ s w ns) (hw : Write s s') :
    Streams stem after s₀ s' w ns := by
  obtain ⟨hsound, hgrows⟩ := h.sound.write hw
  obtain ⟨ending, hending, hsaid⟩ := h.ends
  exact ⟨hsound, h.delivers.grow hgrows, h.breaks_eq, h.opened_le, ending, hending.grow hgrows, hsaid⟩

/-- A look does not touch the counter of breaks, and does not go back. -/
theorem Look.keeps {n? : Option Notice} (hl : Look s w w' n?) (hs : s.Sound) :
    w'.breaks = w.breaks ∧ w.seen ≤ w'.seen := by
  have hnext {m : Mutation} {rest : List Mutation} (h : s.since w.seen = m :: rest) :
      w.seen ≤ m.revision := by
    have hrev := (since_eq_cons hs.counted h).1
    omega
  -- only looks at a live mutation change what has been seen
  cases hl with
  | live _ _ _ next => exact ⟨rfl, hnext next⟩
  | pass _ _ _ next => exact ⟨rfl, hnext next⟩
  | _ => exact ⟨rfl, Nat.le_refl _⟩

/-- A look goes on with the stream: by a mutation while the watch stands, and then by its end. -/
theorem Streams.look (h : Streams stem after s₀ s w ns) {n? : Option Notice}
    (hl : Look s w w' n?) : Streams stem after s₀ s w' (ns ++ n?.toList) := by
  obtain ⟨hbreaks, hseen⟩ := hl.keeps h.sound
  have hdelivers := h.delivers.look h.sound hl
  rw [← delivered_append] at hdelivers
  refine ⟨h.sound, hdelivers, hbreaks.trans h.breaks_eq, Nat.le_trans h.opened_le hseen, ?_⟩
  obtain ⟨ending, hending, hsaid⟩ := h.ends
  have hstream : said (ns ++ n?.toList) =
      (delivered ns).map .mutation ++ ending ++ said n?.toList := by
    rw [said, List.filter_append, ← said, hsaid, said]
  -- nothing has been said of an end while the watch stands
  have hstands (hw : w.ended = false) : ending = [] := by
    rw [hw] at hending
    cases hending
    rfl
  rw [hstream, delivered_append]
  cases hl with
  | finished ended =>
    rw [ended] at hending ⊢
    cases hending with
    | @failed e why n =>
      refine ⟨_, .failed (by simpa using why) (n + 1), ?_⟩
      simp [said, List.replicate_succ']
  | backlog stands =>
    rw [hstands stands]
    exact ⟨[], by rw [stands]; exact .none, by simp [said]⟩
  | broken stands _ broken =>
    rw [hstands stands]
    refine ⟨_, .failed (.broken ?_) 0, by simp [said]⟩
    rw [← h.breaks_eq]
    exact broken
  | @lagged n stands _ many missed =>
    rw [hstands stands]
    refine ⟨_, .failed (.lagged many h.opened_le ?_ (Nat.le_of_eq missed)) 0, by simp [said]⟩
    simpa using h.delivers.delivered_le
  | pending stands =>
    rw [hstands stands]
    exact ⟨[], by rw [stands]; exact .none, by simp [said]⟩
  | live stands =>
    rw [hstands stands]
    exact ⟨[], by rw [stands]; exact .none, by simp [said]⟩
  | pass stands =>
    rw [hstands stands]
    exact ⟨[], by rw [stands]; exact .none, by simp [said]⟩

/-- A poll goes on with the stream, look by look. -/
theorem Streams.looks (h : Streams stem after s₀ s w ns) {n : Notice} (hl : Looks s w w' n) :
    Streams stem after s₀ s w' (ns ++ [n]) := by
  induction hl with
  | last look => exact h.look look
  | pass look _ ih =>
    have hpass := h.look look
    rw [Option.toList_none, List.append_nil] at hpass
    exact ih hpass

/-- Among all writes, looks and polls the stream stays what it is. -/
theorem Streams.observed {w₀ : Watch} (h : Streams stem after s₀ s₀ w₀ [])
    (ho : Observed s₀ w₀ s w ns) : Streams stem after s₀ s w ns := by
  induction ho with
  | opened => exact h
  | write _ hw ih => exact ih.write hw
  | look _ hl ih => exact ih.look hl
  | poll _ ih => exact ih.looks (looks_poll ih.sound _)

end Streams

/-! ## What an open watch has delivered -/

/-- The log is the history and what has left it, and a watch is refused exactly when a mutation after
    its revision has left the history.  One that is opened delivers, however looks and writes follow
    each other, an initial segment of all mutations under its prefix after its revision, in the order
    of their revisions; it has delivered all of them whenever it waits; and it ends only by one error,
    because it was broken or too many mutations wait, with nothing behind it. -/
theorem watch_delivers {history : Nat} {s₀ : Store} (hs : Made history s₀) (stem : String)
    {after : Nat} (hafter : after ≤ s₀.revision) :
    s₀.log = s₀.history.reverse ++ s₀.evicted ∧
      ((∃ e, s₀.watch stem after = .error e) ↔ ∃ m ∈ s₀.evicted, after < m.revision) ∧
      ∀ w₀, s₀.watch stem after = .ok w₀ → ∀ s w ns, Observed s₀ w₀ s w ns →
        delivered ns <+: s.log.reverse.filter (concerns stem after) ∧
        (delivered ns).Pairwise (·.revision < ·.revision) ∧
        ((w.poll s).2 = .pending → delivered ns = s.log.reverse.filter (concerns stem after)) ∧
        ∃ ending, Ending s₀ s (delivered ns) w.ended ending ∧
          said ns = (delivered ns).map .mutation ++ ending := by
  have hsound := hs.sound
  refine ⟨hsound.log_eq, watch_eq_error_iff hsound stem after, fun w₀ hw s w ns ho => ?_⟩
  have hopened : Streams stem after s₀ s₀ w₀ [] := streams_watch hsound hafter hw
  have h : Streams stem after s₀ s w ns := hopened.observed ho
  have hall := since_under_eq h.sound stem after
  have hinitial := h.delivers.isPrefix
  refine ⟨by rwa [hall] at hinitial, ?_, fun hpending => ?_, h.ends⟩
  · -- an initial segment of an ordered list is ordered
    have horder : ((s.since after).filter fun m => under stem m.key).Pairwise
        (·.revision < ·.revision) := (since_pairwise h.sound.counted after).filter _
    exact horder.sublist hinitial.sublist
  -- a watch that waits has come to its last look
  · have hlooks : Looks s w (w.poll s).1 (w.poll s).2 := looks_poll h.sound w
    rw [hpending] at hlooks
    rw [← hall]
    exact h.delivers.of_pending h.sound hlooks

/-- Three mutations in a store that keeps two. -/
def shortHistory : Store := (((make 2).put "/p/a" "1").put "/q" "2").delete "/p/a"

theorem made_shortHistory : Made 2 shortHistory :=
  .write (.write (.write .make (.put _ _)) (.put _ _)) (.delete _)

/-- The first of three mutations has left the history: a watch from before it is refused, and one
    from behind it is opened and delivers. -/
theorem watch_delivers_shortHistory :
    Made 2 shortHistory ∧ 0 ≤ shortHistory.revision ∧ 1 ≤ shortHistory.revision ∧
      shortHistory.history.map (·.revision) = [2, 3] ∧
      (∃ e, shortHistory.watch "/p/" 0 = .error e) ∧
      ∃ w₀, shortHistory.watch "/p/" 1 = .ok w₀ ∧ ∀ s w ns, Observed shortHistory w₀ s w ns →
        delivered ns <+: s.log.reverse.filter (concerns "/p/" 1) ∧
        ((w.poll s).2 = .pending → delivered ns = s.log.reverse.filter (concerns "/p/" 1)) := by
  have hzero : 0 ≤ shortHistory.revision := Nat.zero_le _
  have hone : 1 ≤ shortHistory.revision := by decide +kernel
  have hkept : shortHistory.history.map (·.revision) = [2, 3] := by decide +kernel
  have hgone : ∃ m ∈ shortHistory.evicted, 0 < m.revision := by decide +kernel
  have hrefused := (watch_delivers made_shortHistory "/p/" hzero).2.1.mpr hgone
  refine ⟨made_shortHistory, hzero, hone, hkept, hrefused, _, rfl, fun s w ns ho => ?_⟩
  obtain ⟨hinitial, -, hall, -⟩ := (watch_delivers made_shortHistory "/p/" hone).2.2 _ rfl s w ns ho
  exact ⟨hinitial, hall⟩

end Turnpike.Store
