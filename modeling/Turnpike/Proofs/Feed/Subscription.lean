/-
  What a subscription hands on.

  A subscription reads its watch and puts changes into its channel, and the store is written in
  between.  Not every mutation is a change: some are of keys that name nothing, and others cannot be
  read.  The applier at the other end of the channel must get all that are, in order, each once, up
  to some moment.

  1. **Changes between revisions** (`Layout.changesBetween`).  What should be handed on is said by
     the log of the store: the changes of the mutations under the root, after one revision and up to
     another.  An initial segment of all changes after a revision is always of this form, for some
     revision at which it ends (`Layout.exists_revision`); a segment may end at several, as
     mutations that are no changes add nothing.

  2. **The invariant** (`Hands`).  What is in the channel or has left it, together with the change
     that is about to be put there, are the changes of the mutations that the watch has delivered.
     Since a change is held while the channel is full, the watch may be ahead of the channel by one.

  3. **Steps.**  Every step keeps the invariant (`Hands.step`), and so do a write (`Hands.grow`), a
     look that passes over a mutation (`Hands.pass`), and a cancellation.  When the subscription
     comes to its end the change that it holds is lost, which leaves an initial segment
     (`Hands.finish`).
-/
import Turnpike.Feed.Subscription
import Turnpike.Proofs.Store.Watch

namespace Turnpike.Feed

open Turnpike.Entity Turnpike.Store

/-! ## Changes between revisions -/

/-- The mutations under a prefix after a revision. -/
def mutationsAfter (stem : String) (s : Store) (r : Nat) : List Mutation :=
  (s.since r).filter fun m => under stem m.key

/-- The changes made under the root after a revision. -/
def Layout.changesAfter (l : Layout) (s : Store) (r : Nat) : List Change :=
  (mutationsAfter l.root s r).filterMap l.changeOf?

/-- The changes made by the mutations under the root after the revision `r` and up to the revision
    `q`, each once and in the order of their revisions. -/
def Layout.changesBetween (l : Layout) (s : Store) (r q : Nat) : List Change :=
  (s.log.reverse.filter fun m =>
    r < m.revision && m.revision ≤ q && under l.root m.key).filterMap l.changeOf?

section Between

variable {l : Layout} {s s' : Store} {r q : Nat} {ds : List Mutation}

/-- A write adds mutations behind those that there are. -/
theorem mutationsAfter_grow {stem : String} (hg : Grows s s') (hr : r ≤ s.revision) :
    mutationsAfter stem s r <+: mutationsAfter stem s' r := by
  unfold mutationsAfter
  rw [hg.since hr, List.filter_append]
  exact List.prefix_append _ _

theorem Layout.changesAfter_grow (hg : Grows s s') (hr : r ≤ s.revision) :
    l.changesAfter s r <+: l.changesAfter s' r :=
  (mutationsAfter_grow hg hr).filterMap l.changeOf?

/-- The changes between two revisions are those of the mutations after the one, up to the other. -/
theorem Layout.changesBetween_eq (hs : s.Sound) :
    l.changesBetween s r q =
      ((mutationsAfter l.root s r).filter (·.revision ≤ q)).filterMap l.changeOf? := by
  unfold changesBetween mutationsAfter
  rw [since_eq_filter hs.counted, List.filter_filter, List.filter_filter]
  congr 1
  refine List.filter_congr fun m _ => ?_
  cases decide (r < m.revision) <;> cases decide (m.revision ≤ q) <;> simp

/-- An initial segment of the mutations is what was made up to some revision. -/
theorem exists_revision_of_initial {stem : String} (hs : s.Sound) (hr : r ≤ s.revision)
    (h : ds <+: mutationsAfter stem s r) :
    ∃ q, r ≤ q ∧ q ≤ s.revision ∧ ds = (mutationsAfter stem s r).filter (·.revision ≤ q) := by
  obtain ⟨rest, hrest⟩ := h
  have hmem : ∀ m ∈ ds ++ rest, m ∈ s.log ∧ r < m.revision := by
    intro m hm
    rw [hrest] at hm
    exact (mem_since hs.counted).mp (List.mem_filter.mp hm).1
  have hsorted : (ds ++ rest).Pairwise (·.revision < ·.revision) := by
    rw [hrest]
    exact (since_pairwise hs.counted r).filter _
  rw [← hrest]
  rcases List.eq_nil_or_concat ds with rfl | ⟨init, m, rfl⟩
  · refine ⟨r, Nat.le_refl r, hr, (List.filter_eq_nil_iff.mpr fun d hd => ?_).symm⟩
    have hlt := (hmem d hd).2
    simp only [decide_eq_true_eq]
    omega
  · -- the segment ends with the revision of its last mutation
    rw [List.concat_eq_append] at *
    obtain ⟨hds, -, hlater⟩ := List.pairwise_append.mp hsorted
    obtain ⟨-, -, hinit⟩ := List.pairwise_append.mp hds
    have hm : m ∈ init ++ [m] := List.mem_append_right _ List.mem_cons_self
    obtain ⟨hlog, hlt⟩ := hmem m (List.mem_append_left _ hm)
    refine ⟨m.revision, Nat.le_of_lt hlt, (hs.counted.bounds hlog).2, ?_⟩
    have hupto : (init ++ [m]).filter (·.revision ≤ m.revision) = init ++ [m] := by
      refine List.filter_eq_self.mpr fun d hd => ?_
      simp only [decide_eq_true_eq]
      rcases List.mem_append.mp hd with hd | hd
      · exact Nat.le_of_lt (hinit d hd m List.mem_cons_self)
      · obtain rfl := List.mem_singleton.mp hd
        exact Nat.le_refl _
    -- all that is left out was made later
    have hbeyond : rest.filter (·.revision ≤ m.revision) = [] := by
      refine List.filter_eq_nil_iff.mpr fun d hd => ?_
      have hlt' := hlater m hm d hd
      simp only [decide_eq_true_eq]
      omega
    rw [List.filter_append, hupto, hbeyond, List.append_nil]

/-- An initial segment of the changes is what was made up to some revision. -/
theorem Layout.exists_revision (hs : s.Sound) (hr : r ≤ s.revision) {cs : List Change}
    (h : cs <+: l.changesAfter s r) :
    ∃ q, r ≤ q ∧ q ≤ s.revision ∧ cs = l.changesBetween s r q := by
  obtain ⟨ds, hds, rfl⟩ := List.prefix_filterMap_iff.mp h
  obtain ⟨q, hrq, hq, heq⟩ := exists_revision_of_initial hs hr hds
  refine ⟨q, hrq, hq, ?_⟩
  rw [Layout.changesBetween_eq hs, ← heq]

end Between

/-! ## What was handed on -/

/-- The change that is about to be put into the channel. -/
def Stage.held : Stage → List Change
  | sending c => [c]
  | _ => []

@[simp] theorem held_watching : Stage.watching.held = [] := rfl

@[simp] theorem held_sending (c : Change) : (Stage.sending c).held = [c] := rfl

@[simp] theorem held_finished (r : Result Unit) : (Stage.finished r).held = [] := rfl

/-- Is it over? -/
def Stage.isOver : Stage → Bool
  | finished _ => true
  | _ => false

/-- A subscription after a revision has put these changes into its channel. -/
structure Hands (l : Layout) (after : Nat) (s : Store) (t : Subscription) (sent : List Change) :
    Prop where
  layout_eq : t.layout = l
  handed : sent ++ t.stage.held <+: l.changesAfter s after
  /-- As long as it is not over, it is up to date with its watch. -/
  going : t.stage.isOver = false → ∃ ds, Delivers l.root after s t.watch ds ∧
    sent ++ t.stage.held = ds.filterMap l.changeOf?

section Hands

variable {l : Layout} {after : Nat} {s s' : Store} {t t' : Subscription} {sent : List Change}

/-- As long as it is not over, what was handed on is what its watch has delivered. -/
theorem hands_of_delivers {ds : List Mutation} (hl : t.layout = l)
    (hd : Delivers l.root after s t.watch ds) (hsent : sent ++ t.stage.held = ds.filterMap l.changeOf?) :
    Hands l after s t sent :=
  ⟨hl, by rw [hsent]; exact hd.isPrefix.filterMap l.changeOf?, fun _ => ⟨ds, hd, hsent⟩⟩

/-- When it comes to its end, the change that it holds is lost. -/
theorem Hands.finish (h : Hands l after s t sent) {r : Result Unit} {w : Watch} :
    Hands l after s { t with watch := w, stage := .finished r } sent := by
  refine ⟨h.layout_eq, ?_, nofun⟩
  rw [held_finished, List.append_nil]
  exact (List.prefix_append sent t.stage.held).trans h.handed

/-- A subscription that is over from the beginning has handed on nothing. -/
theorem hands_overWith (l : Layout) (after : Nat) (s : Store) (r : Result Unit) :
    Hands l after s (.overWith l r) [] :=
  ⟨rfl, List.nil_prefix, nofun⟩

/-- One that has just been started has handed on nothing. -/
theorem hands_start (hs : s.Sound) (hafter : after ≤ s.revision) (cancelled : Bool) :
    Hands l after s (.start l s after cancelled) [] := by
  unfold Subscription.start
  split
  case isTrue => exact hands_overWith l after s _
  case isFalse =>
    split
    case h_1 w hw => exact hands_of_delivers rfl (delivers_watch hs hafter hw) rfl
    case h_2 => exact hands_overWith l after s _

/-- A write leaves what has been handed on. -/
theorem Hands.grow (h : Hands l after s t sent) (hg : Grows s s') (hafter : after ≤ s.revision) :
    Hands l after s' t sent := by
  refine ⟨h.layout_eq, h.handed.trans (Layout.changesAfter_grow hg hafter), fun hover => ?_⟩
  obtain ⟨ds, hds, hsent⟩ := h.going hover
  exact ⟨ds, hds.grow hg, hsent⟩

/-- So does a cancellation. -/
theorem Hands.cancel (h : Hands l after s t sent) :
    Hands l after s { t with cancelled := true } sent :=
  ⟨h.layout_eq, h.handed, h.going⟩

/-- Its watch passes over a mutation. -/
theorem Hands.pass (h : Hands l after s t sent) (hs : s.Sound) (hstage : t.stage = .watching)
    {w : Watch} (hl : Look s t.watch w none) : Hands l after s { t with watch := w } sent := by
  obtain ⟨ds, hds, hsent⟩ := h.going (by rw [hstage]; rfl)
  have hpass := hds.look hs hl
  rw [Option.toList_none, delivered_nil, List.append_nil] at hpass
  exact hands_of_delivers h.layout_eq hpass hsent

/-- After a mutation the change that it makes is held, if it makes one. -/
theorem held_afterMutation (l : Layout) (m : Mutation) :
    (Subscription.afterMutation l m).held = (l.changeOf? m).toList := by
  unfold Subscription.afterMutation
  cases l.changeOf? m with
  | none => rfl
  | some c => rfl

/-- What a step adds to the channel is handed on. -/
theorem Hands.step (h : Hands l after s t sent) (hs : s.Sound) {ch ch' : Channel}
    (hstep : Subscription.step? s t ch = some (t', ch')) :
    ∃ news, ch'.queue = ch.queue ++ news ∧ Hands l after s t' (sent ++ news) := by
  -- most steps add nothing
  have hquiet {t₁ : Subscription} (h₁ : Hands l after s t₁ sent)
      (heq : some (t₁, ch) = some (t', ch')) :
      ∃ news, ch'.queue = ch.queue ++ news ∧ Hands l after s t' (sent ++ news) := by
    cases heq
    exact ⟨[], (List.append_nil _).symm, by rwa [List.append_nil]⟩
  unfold Subscription.step? at hstep
  -- by the stage: it is over, it reads its watch, or it holds a change
  split at hstep
  case h_1 => cases hstep
  case h_2 hstage =>
    split at hstep
    case isTrue => exact hquiet h.finish hstep
    case isFalse =>
      obtain ⟨ds, hds, hsent⟩ := h.going (by rw [hstage]; rfl)
      rw [hstage, held_watching, List.append_nil] at hsent
      -- what the watch tells now is delivered
      have hpoll := hds.looks hs (looks_poll hs t.watch)
      split at hstep
      case h_1 w m hw =>
        rw [hw, delivered_mutation] at hpoll
        have hnext : Hands l after s
            { t with watch := w, stage := Subscription.afterMutation t.layout m } sent := by
          refine hands_of_delivers h.layout_eq hpoll ?_
          rw [h.layout_eq, held_afterMutation, hsent, List.filterMap_append, List.filterMap_cons]
          cases l.changeOf? m <;> rfl
        exact hquiet hnext hstep
      case h_2 w hw =>
        split at hstep
        case isTrue => cases hstep
        case isFalse =>
          rw [hw, delivered_pending, List.append_nil] at hpoll
          have hnext : Hands l after s { t with watch := w } sent := by
            refine hands_of_delivers h.layout_eq hpoll ?_
            rw [hstage, held_watching, List.append_nil, hsent]
          exact hquiet hnext hstep
      case h_3 => exact hquiet h.finish hstep
      case h_4 => exact hquiet h.finish hstep
  case h_3 c hstage =>
    split at hstep
    case isTrue => exact hquiet h.finish hstep
    case isFalse =>
      split at hstep
      case isTrue =>
        cases hstep
        obtain ⟨ds, hds, hsent⟩ := h.going (by rw [hstage]; rfl)
        rw [hstage, held_sending] at hsent
        -- the change that was held goes into the channel
        refine ⟨[c], rfl, hands_of_delivers h.layout_eq hds ?_⟩
        rw [held_watching, List.append_nil, hsent]
      case isFalse => cases hstep

end Hands

end Turnpike.Feed
