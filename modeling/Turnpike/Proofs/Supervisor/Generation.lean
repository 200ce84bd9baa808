/-
  Every mutation once, and in order.

  The proxy in service was raised from a snapshot, and changes were applied to it since.  The
  changes come from a watch, through a reader, a channel and an applier; the watch may break, the
  reader may be called off, and a new proxy may be built at any time.  So one may ask whether a
  mutation of the store can be missed, or applied twice, or in the wrong order.

  1. **Revisions.**  Let the snapshot be that of revision `r`.  A store knows what it held at
     earlier revisions, and a later store remembers it (`snapshot_asOf_grow`).

  2. **How far it has come** (`Progress`).  What was applied since, what the applier has in hand,
     and what waits in the channel are together what the reader has put there, which is an initial
     segment of the changes made after `r`.  It takes a different form for every task: no channel is
     there before the watch is opened, and none after it has failed.

  3. **The invariant** (`Consistent`).  The proxy in service is the one that was raised at some `r`,
     after the changes that are out of the channel.  Every step of every party keeps that
     (`Consistent.step`).  Most of them leave the proxy alone and move something from one place to
     the next (`Consistent.goOn`); a new proxy starts with another revision (`Consistent.install`).

  4. **Outcome** (`reached_serves`).  So the proxy is at every moment what comes of the snapshot at
     `r` and then of all changes up to some revision `q`, each once and in their order.  And when a
     proxy is to be built because the feed has failed, nothing that the reader has put into the
     channel is missing.
-/
import Turnpike.Proofs.Proxy.Integrity
import Turnpike.Proofs.Proxy.Picture
import Turnpike.Proofs.Proxy.Traffic
import Turnpike.Proofs.Supervisor.System

namespace Turnpike.Supervisor

open Turnpike.Entity Turnpike.Feed Turnpike.Store

/-! ## Raising -/

section Raise

variable {p q : Proxy}

/-- Sockets and phase do not show in the picture, and of a listener only what it was told. -/
theorem picture_listens (h : Proxy.Listens p q)
    (hspecs : q.listeners.mapValues (·.spec) = p.listeners.mapValues (·.spec)) :
    q.picture = p.picture := by
  rw [h.rest]
  unfold Proxy.picture
  simp only [hspecs]

theorem picture_takeOver (p : Proxy) (offers : List (Listener × Proxy.Socket)) :
    (p.takeOver offers).picture = p.picture :=
  picture_listens (Proxy.listens_takeOver p offers) (Proxy.specs_takeOver p offers)

theorem picture_start (g : Proxy.Ground) (p : Proxy) : (p.start g).1.picture = p.picture :=
  picture_listens (Proxy.listens_start g p) (Proxy.specs_start g p)

/-- A proxy is configured by the snapshot that it was raised from: what comes after that binds its
    sockets. -/
theorem picture_raise {clock : Nat → Nat} {id : Nat} {c : Conditions} {o : Proxy.Options}
    {sn : Snapshot} {old : Option Proxy} (h : raise clock c id o sn old = .ok p) :
    p.picture = ((Proxy.make id o).playOn c.ground clock sn.changes).picture := by
  unfold raise at h
  dsimp only at h
  split at h
  case h_1 => cases h
  case h_2 =>
    split at h
    case h_1 q hstart =>
      cases h
      have hp : (Proxy.start _ _).1 = p := congrArg (·.1) hstart
      rw [← hp, picture_start, picture_takeOver]
    case h_2 => cases h

end Raise

/-- A proxy raised from the snapshot that a store gave at a revision. -/
def Raised (l : Layout) (o : Proxy.Options) (s : Store) (r : Nat) (p : Proxy) : Prop :=
  ∃ clock c id old, raise clock c id o (l.snapshot (s.asOf r)) old = .ok p

theorem asOf_revision_eq {s : Store} {r : Nat} (hr : r ≤ s.revision) : (s.asOf r).revision = r := by
  have hlen : (s.asOf r).revision = s.revision - (s.revision - r) := List.length_drop
  omega

/-- A later store remembers the snapshots of earlier revisions. -/
theorem snapshot_asOf_grow {l : Layout} {s s' : Store} {r : Nat} (hg : Grows s s')
    (hr : r ≤ s.revision) : l.snapshot (s'.asOf r) = l.snapshot (s.asOf r) := by
  unfold asOf
  rw [hg.drop_log hr]
  rfl

/-! ## The invariant -/

/-- Is a proxy to be built because the feed has failed? -/
def Task.isRestart : Task → Bool
  | .building _ | .pausing _ => true
  | _ => false

/-- Is there a reader? -/
def Task.isFollowing : Task → Bool
  | .following _ _ => true
  | _ => false

theorem isFollowing_of_isRestart {t : Task} (h : t.isRestart = true) : t.isFollowing = false := by
  cases t with
  | following => cases h
  | _ => rfl

/-- How far the changes after a revision have come: those that are out of the channel, and those
    that the reader has put into it. -/
inductive Progress (l : Layout) (s : Store) (r : Nat) :
    Task → List Change → List Change → Prop where
  | opening (sent : List Change) : Progress l s r (.opening r) [] sent
  | following {reader : Subscription} {channel : Channel} {out : List Change}
      (hands : Hands l r s reader (out ++ channel.queue)) :
      Progress l s r (.following reader channel) out (out ++ channel.queue)
  /-- Whatever was put into the channel is out of it. -/
  | restart {task : Task} {out : List Change} (due : task.isRestart = true)
      (initial : out <+: l.changesAfter s r) : Progress l s r task out out
  | idle {out : List Change} (initial : out <+: l.changesAfter s r) (sent : List Change) :
      Progress l s r .none out sent

/-- The proxy in service was raised at `r`, and the changes that were applied to it since are those
    that came first. -/
structure Serves (l : Layout) (b : Proxy.Options) (y : System) (p : Proxy) (r : Nat)
    (p₀ : Proxy) (as : List Proxy.Attempt) : Prop where
  r_le : r ≤ y.store.revision
  raised : Raised l b y.store r p₀
  run_eq : p = p₀.run as
  progress : Progress l y.store r y.supervisor.task (as.map (·.change) ++ y.hand.toList) y.sent

/-- What holds of a supervisor among its tasks. -/
structure Consistent (l : Layout) (b : Proxy.Options) (y : System) : Prop where
  sound : y.store.Sound
  layout_eq : y.supervisor.layout = l
  blueprint_eq : y.supervisor.blueprint = b
  listed : ∀ sn, y.listed = some sn → ∃ r, r ≤ y.store.revision ∧ sn = l.snapshot (y.store.asOf r)
  /-- Only an applier at work has something in hand. -/
  busy : y.hand ≠ none → ∃ reader channel, y.supervisor.task = .following reader channel
  serves : ∀ p, y.supervisor.current = some p → ∃ r p₀ as, Serves l b y p r p₀ as

section Invariant

variable {l : Layout} {b : Proxy.Options} {y z : System} {r : Nat} {task : Task}
  {out sent : List Change}

/-- What is out of the channel is what came first after the revision. -/
theorem Progress.initial {s : Store} (h : Progress l s r task out sent) :
    out <+: l.changesAfter s r := by
  cases h with
  | opening => exact List.nil_prefix
  | following hands =>
    refine List.IsPrefix.trans ?_ hands.handed
    rw [List.append_assoc]
    exact List.prefix_append _ _
  | restart _ initial => exact initial
  | idle initial => exact initial

/-- That stays so when the store is written. -/
theorem Progress.grow {s s' : Store} (h : Progress l s r task out sent) (hg : Grows s s')
    (hr : r ≤ s.revision) : Progress l s' r task out sent := by
  cases h with
  | opening => exact .opening sent
  | following hands => exact .following (hands.grow hg hr)
  | restart due initial => exact .restart due (initial.trans (Layout.changesAfter_grow hg hr))
  | idle initial => exact .idle (initial.trans (Layout.changesAfter_grow hg hr)) sent

/-- The proxy serves the later store as it served the one before. -/
theorem Serves.grow {p p₀ : Proxy} {as : List Proxy.Attempt} {s' : Store}
    (h : Serves l b y p r p₀ as) (hg : Grows y.store s') :
    Serves l b { y with store := s' } p r p₀ as := by
  obtain ⟨clock, c, id, old, hraise⟩ := h.raised
  refine ⟨Nat.le_trans h.r_le hg.revision_le, ⟨clock, c, id, old, ?_⟩, h.run_eq,
    h.progress.grow hg h.r_le⟩
  rw [snapshot_asOf_grow hg h.r_le]
  exact hraise

/-- The proxy stays, and the tasks go on. -/
theorem Consistent.goOn (h : Consistent l b y) {s : Supervisor} {listed : Option Snapshot}
    {sent : List Change} (hlayout : s.layout = y.supervisor.layout)
    (hblueprint : s.blueprint = y.supervisor.blueprint)
    (hcurrent : s.current = y.supervisor.current)
    (hlisted : ∀ sn, listed = some sn → y.listed = some sn)
    (hbusy : y.hand ≠ none → ∃ reader channel, s.task = .following reader channel)
    (hprogress : ∀ r out, r ≤ y.store.revision →
      Progress l y.store r y.supervisor.task out y.sent → Progress l y.store r s.task out sent) :
    Consistent l b { y with supervisor := s, listed := listed, sent := sent } where
  sound := h.sound
  layout_eq := hlayout.trans h.layout_eq
  blueprint_eq := hblueprint.trans h.blueprint_eq
  listed := fun sn hsn => h.listed sn (hlisted sn hsn)
  busy := hbusy
  serves := by
    intro p hp
    obtain ⟨r, p₀, as, hserves⟩ := h.serves p (hcurrent ▸ hp)
    exact ⟨r, p₀, as, hserves.r_le, hserves.raised, hserves.run_eq,
      hprogress r _ hserves.r_le hserves.progress⟩

/-- A proxy that was just raised from the snapshot takes its place. -/
theorem Consistent.install (h : Consistent l b y) {s : Supervisor} {sn : Snapshot} {p : Proxy}
    {clock : Nat → Nat} {id : Nat} {c : Conditions} {old : Option Proxy}
    (hlayout : s.layout = y.supervisor.layout) (hblueprint : s.blueprint = y.supervisor.blueprint)
    (hcurrent : s.current = some p) (htask : s.task = .opening sn.revision) (hfree : y.hand = none)
    (hlisted : y.listed = some sn)
    (hraise : raise clock c id y.supervisor.blueprint sn old = .ok p) :
    Consistent l b { y with supervisor := s, listed := none } where
  sound := h.sound
  layout_eq := hlayout.trans h.layout_eq
  blueprint_eq := hblueprint.trans h.blueprint_eq
  listed := nofun
  busy := fun hhand => absurd hfree hhand
  serves := by
    intro q hq
    obtain rfl : p = q := Option.some.inj (hcurrent.symm.trans hq)
    -- the snapshot was taken at some revision, perhaps not the last one
    obtain ⟨r, hr, rfl⟩ := h.listed sn hlisted
    have hrevision : (l.snapshot (y.store.asOf r)).revision = r := asOf_revision_eq hr
    rw [h.blueprint_eq] at hraise
    refine ⟨r, p, [], hr, ⟨clock, c, id, old, hraise⟩, rfl, ?_⟩
    show Progress l y.store r s.task ([] ++ y.hand.toList) y.sent
    rw [hfree, htask, hrevision]
    exact .opening y.sent

/-- What comes of an attempt to build a proxy. -/
theorem install_cases (clock : Nat → Nat) (c : Conditions) (sn : Snapshot) (s : Supervisor) :
    (∃ e, s.install clock c sn = ({ s with generation := s.generation + 1 }, .error e)) ∨
      ∃ p, raise clock c (s.generation + 1) s.blueprint sn s.current = .ok p ∧
        s.install clock c sn =
          ({ s with generation := s.generation + 1, current := some p }, .ok sn.revision) := by
  unfold install
  dsimp only
  split
  case h_1 e _ => exact .inl ⟨e, rfl⟩
  case h_2 p hp => exact .inr ⟨p, hp, rfl⟩

/-- The store is written. -/
theorem Consistent.write (h : Consistent l b y) {s' : Store} (w : y.store.Write s') :
    Consistent l b { y with store := s' } := by
  obtain ⟨hsound, hgrows⟩ := h.sound.write w
  refine ⟨hsound, h.layout_eq, h.blueprint_eq, fun sn hsn => ?_, h.busy, fun p hp => ?_⟩
  · obtain ⟨r, hr, rfl⟩ := h.listed sn hsn
    exact ⟨r, Nat.le_trans hr hgrows.revision_le, (snapshot_asOf_grow hgrows hr).symm⟩
  · obtain ⟨r, p₀, as, hserves⟩ := h.serves p hp
    exact ⟨r, p₀, as, hserves.grow hgrows⟩

/-- The store is listed. -/
theorem Consistent.list (h : Consistent l b y) :
    Consistent l b { y with listed := some (y.supervisor.layout.snapshot y.store) } := by
  refine ⟨h.sound, h.layout_eq, h.blueprint_eq, fun sn hsn => ?_, h.busy, fun p hp => ?_⟩
  · cases hsn
    refine ⟨y.store.revision, Nat.le_refl _, ?_⟩
    rw [h.layout_eq, h.sound.asOf_revision]
  · obtain ⟨r, p₀, as, hserves⟩ := h.serves p hp
    exact ⟨r, p₀, as, hserves.r_le, hserves.raised, hserves.run_eq, hserves.progress⟩

/-- Nothing is in hand while nobody reads. -/
theorem Consistent.free (h : Consistent l b y) (hquiet : y.supervisor.task.isFollowing = false) :
    y.hand = none := by
  cases hhand : y.hand with
  | none => rfl
  | some c =>
    obtain ⟨reader, channel, htask⟩ := h.busy (by rw [hhand]; nofun)
    rw [htask] at hquiet
    cases hquiet

/-- An attempt to build the next generation has failed. -/
theorem Consistent.settle (h : Consistent l b y) {attempt : Nat}
    (hbuilding : y.supervisor.task = .building attempt) (tally : Tally) (e : Error)
    (generation : Nat) {listed : Option Snapshot}
    (hlisted : ∀ sn, listed = some sn → y.listed = some sn) :
    Consistent l b { y with
      supervisor :=
        (Supervisor.settle attempt tally
          ({ y.supervisor with generation := generation }, .error e)).1
      listed := listed } := by
  have hfree : y.hand = none := h.free (by rw [hbuilding]; rfl)
  have hquiet {s : Supervisor} : y.hand ≠ none →
      ∃ reader channel, s.task = .following reader channel := fun hhand => absurd hfree hhand
  unfold Supervisor.settle
  dsimp only
  split
  case isTrue =>
    refine h.goOn rfl rfl rfl hlisted hquiet fun r out _ hp => ?_
    rw [hbuilding] at hp
    cases hp with
    | restart _ initial => exact .restart rfl initial
  case isFalse =>
    refine h.goOn rfl rfl rfl hlisted hquiet fun r out _ hp => ?_
    rw [hbuilding] at hp
    exact .idle hp.initial y.sent

/-- The reader is started, with a new channel. -/
theorem Consistent.watch (h : Consistent l b y) (refusal : Result Unit) {after : Nat}
    (hopening : y.supervisor.task = .opening after) :
    Consistent l b { y with
      supervisor := y.supervisor.openWatch y.store refusal, sent := [] } := by
  have hfree : y.hand = none := h.free (by rw [hopening]; rfl)
  unfold openWatch
  rw [hopening]
  refine h.goOn rfl rfl rfl (fun _ => id) (fun hhand => absurd hfree hhand) fun r out hr hp => ?_
  rw [hopening] at hp
  cases hp with
  | opening =>
    refine .following ?_
    -- the channel is new and empty
    show Hands l after y.store _ []
    rw [h.layout_eq]
    split
    case h_1 => exact hands_start h.sound hr y.supervisor.stopping
    case h_2 =>
      split
      case isTrue => exact hands_overWith l after y.store _
      case isFalse => exact hands_overWith l after y.store _
  | restart due => cases due

/-- The reader reads, or puts a change into the channel. -/
theorem Consistent.read (h : Consistent l b y) {s : Supervisor}
    (hread : y.supervisor.read? y.store = some s) :
    Consistent l b { y with
      supervisor := s
      sent := y.sent ++ s.task.queue.drop y.supervisor.task.queue.length } := by
  unfold read? at hread
  split at hread
  case h_2 => cases hread
  case h_1 reader channel htask =>
    obtain ⟨⟨reader', channel'⟩, hstep, rfl⟩ := Option.map_eq_some_iff.mp hread
    refine h.goOn rfl rfl rfl (fun _ => id) (fun _ => ⟨_, _, rfl⟩) fun r out _ hp => ?_
    rw [htask] at hp ⊢
    generalize y.sent = sent at hp ⊢
    cases hp with
    | following hands =>
      -- what is new in the channel is what the reader has sent
      obtain ⟨news, hqueue, hnext⟩ := hands.step h.sound hstep
      have hdrop : channel'.queue.drop channel.queue.length = news := by
        rw [hqueue, List.drop_left]
      show Progress l y.store r (.following reader' channel') out
        (out ++ channel.queue ++ channel'.queue.drop channel.queue.length)
      rw [hdrop, List.append_assoc, ← hqueue]
      rw [List.append_assoc, ← hqueue] at hnext
      exact .following hnext
    | restart due => cases due

/-- The applier takes a change out of the channel. -/
theorem Consistent.take (h : Consistent l b y) (hfree : y.hand = none) {c : Change}
    {s : Supervisor} (htake : y.supervisor.take? = some (c, s)) :
    Consistent l b { y with supervisor := s, hand := some c } := by
  unfold take? at htake
  split at htake
  case h_2 => cases htake
  case h_1 reader channel p htask hcurrent =>
    obtain ⟨⟨c', channel'⟩, hpop, heq⟩ := Option.map_eq_some_iff.mp htake
    cases heq
    unfold Channel.pop? at hpop
    split at hpop
    case h_1 => cases hpop
    case h_2 rest hqueue =>
      cases hpop
      refine ⟨h.sound, h.layout_eq, h.blueprint_eq, h.listed, fun _ => ⟨_, _, rfl⟩, fun p hp => ?_⟩
      obtain ⟨r, p₀, as, hserves⟩ := h.serves p hp
      refine ⟨r, p₀, as, hserves.r_le, hserves.raised, hserves.run_eq, ?_⟩
      have hprogress := hserves.progress
      rw [htask, hfree, Option.toList_none, List.append_nil] at hprogress
      show Progress l y.store r (.following reader { channel with queue := rest })
        (as.map (·.change) ++ [c]) y.sent
      generalize y.sent = sent at hprogress ⊢
      cases hprogress with
      | following hands =>
        have hout : as.map (·.change) ++ channel.queue =
            as.map (·.change) ++ [c] ++ rest := by
          rw [hqueue, List.append_assoc, List.singleton_append]
        rw [hout] at hands ⊢
        exact .following hands
      | restart due => cases due

/-- The applier applies the change that it has in hand. -/
theorem Consistent.apply (h : Consistent l b y) (now : Nat) (g : Proxy.Ground) (tally : Tally)
    {c : Change} (hheld : y.hand = some c) :
    Consistent l b { y with
      supervisor := (y.supervisor.applyChange now g tally c).1, hand := none } := by
  unfold applyChange
  split
  case h_1 p hp =>
    refine ⟨h.sound, h.layout_eq, h.blueprint_eq, h.listed, fun hhand => absurd rfl hhand,
      fun q hq => ?_⟩
    obtain ⟨r, p₀, as, hserves⟩ := h.serves p hp
    cases hq
    refine ⟨r, p₀, as ++ [⟨g, now, c⟩], hserves.r_le, hserves.raised, ?_, ?_⟩
    · rw [hserves.run_eq, Proxy.run, Proxy.run, List.foldl_append]
      rfl
    · have hprogress := hserves.progress
      rw [hheld] at hprogress
      show Progress l y.store r y.supervisor.task
        ((as ++ [⟨g, now, c⟩] : List Proxy.Attempt).map (·.change) ++ []) y.sent
      rw [List.append_nil, List.map_append]
      exact hprogress
  case h_2 hnone =>
    refine ⟨h.sound, h.layout_eq, h.blueprint_eq, h.listed, fun hhand => absurd rfl hhand,
      fun q hq => ?_⟩
    rw [hnone] at hq
    cases hq

/-- The reader has come to its end, and so has the channel. -/
theorem Consistent.conclude (h : Consistent l b y) (hfree : y.hand = none) {s : Supervisor}
    (hconclude : y.supervisor.conclude? = some s) : Consistent l b { y with supervisor := s } := by
  have hquiet {s : Supervisor} : y.hand ≠ none →
      ∃ reader channel, s.task = .following reader channel := fun hhand => absurd hfree hhand
  unfold conclude? at hconclude
  split at hconclude
  case h_2 => cases hconclude
  case h_1 reader channel htask =>
    split at hconclude
    case h_1 =>
      cases hconclude
      exact h.goOn rfl rfl rfl (fun _ => id) hquiet fun r out _ hp => .idle hp.initial y.sent
    case h_2 e _ hempty =>
      split at hconclude
      case isTrue =>
        cases hconclude
        exact h.goOn rfl rfl rfl (fun _ => id) hquiet fun r out _ hp => .idle hp.initial y.sent
      case isFalse =>
        cases hconclude
        refine h.goOn rfl rfl rfl (fun _ => id) hquiet fun r out _ hp => ?_
        have hinitial := hp.initial
        rw [htask] at hp
        -- nothing waits in the channel
        have hsent : y.sent = out := by
          generalize y.sent = sent at hp
          cases hp with
          | following => rw [hempty, List.append_nil]
          | restart due => cases due
        rw [hsent]
        exact .restart rfl hinitial
    case h_3 => cases hconclude

/-- Every step of every party keeps the proxy in step with the store. -/
theorem Consistent.step (h : Consistent l b y) (hstep : Step y z) : Consistent l b z := by
  -- one case for each kind of step
  cases hstep with
  | write w => exact h.write w
  | list => exact h.list
  | launch clock c first idle listed =>
    have hfree : y.hand = none := h.free (by rw [idle]; rfl)
    rcases install_cases clock c _ y.supervisor with ⟨e, he⟩ | ⟨p, hp, hok⟩
    · rw [he]
      exact h.goOn rfl rfl rfl nofun h.busy fun r out _ hprogress => hprogress
    · rw [hok]
      exact h.install rfl rfl rfl rfl hfree listed hp
  | rebuild clock c tally building listed =>
    have hfree : y.hand = none := h.free (by rw [building]; rfl)
    rcases install_cases clock c _ y.supervisor with ⟨e, he⟩ | ⟨p, hp, hok⟩
    · rw [he]
      exact h.settle building tally e _ nofun
    · rw [hok]
      exact h.install rfl rfl rfl rfl hfree listed hp
  | refuse e tally building => exact h.settle building tally e _ fun _ => id
  | watch refusal opening => exact h.watch refusal opening
  | @pass reader channel w following watching look =>
    refine h.goOn rfl rfl rfl (fun _ => id) (fun _ => ⟨_, _, rfl⟩) fun r out _ hp => ?_
    rw [following] at hp
    generalize y.sent = sent at hp ⊢
    cases hp with
    | following hands => exact .following (hands.pass h.sound watching look)
    | restart due => cases due
  | read hread => exact h.read hread
  | take free taken => exact h.take free taken
  | apply now g tally held => exact h.apply now g tally held
  | conclude free concluded => exact h.conclude free concluded
  | resume =>
    unfold Supervisor.resume
    split
    case h_1 attempt htask =>
      have hfree : y.hand = none := h.free (by rw [htask]; rfl)
      refine h.goOn rfl rfl rfl (fun _ => id) (fun hhand => absurd hfree hhand)
        fun r out _ hp => ?_
      rw [htask] at hp
      cases hp with
      | restart _ initial => exact .restart rfl initial
    case h_2 => exact h
  | cancel =>
    unfold Supervisor.cancel
    refine h.goOn rfl rfl rfl (fun _ => id) (fun hhand => ?_) fun r out _ hp => ?_
    · obtain ⟨reader, channel, htask⟩ := h.busy hhand
      rw [htask]
      exact ⟨_, _, rfl⟩
    · dsimp only
      split
      case h_1 reader channel htask =>
        rw [htask] at hp
        generalize y.sent = sent at hp ⊢
        cases hp with
        | following hands => exact .following hands.cancel
        | restart due => cases due
      case h_2 => exact hp
  | abandon _ free =>
    refine h.goOn rfl rfl rfl nofun (fun hhand => absurd free hhand) fun r out _ hp => ?_
    exact .idle hp.initial y.sent
  | retire _ _ free =>
    exact ⟨h.sound, h.layout_eq, h.blueprint_eq, h.listed, fun hhand => absurd free hhand, nofun⟩

/-- Whatever can come about is consistent. -/
theorem Reached.consistent {history : Nat} {o : Options} (h : Reached history l o b y) :
    Consistent l b y := by
  unfold Reached at h
  induction h with
  | refl => exact ⟨Sound.make history, rfl, rfl, nofun, fun hhand => absurd rfl hhand, nofun⟩
  | tail _ step ih => exact ih.step step

end Invariant

/-! ## What is in service -/

/-- Whatever is written, built, read and applied, and in whatever order: the proxy in service was
    raised from the snapshot of a revision `r`, and the changes of all mutations under the root after
    `r` and up to a revision `q` were tried on it, each once and in the order of their revisions.
    When the feed has failed and a proxy is to be built, these are all the changes that the reader
    has put into the channel. -/
theorem reached_serves {history : Nat} {l : Layout} {o : Options} {b : Proxy.Options} {y : System}
    (h : Reached history l o b y) {p : Proxy} (hp : y.supervisor.current = some p) :
    ∃ r q p₀ as, r ≤ q ∧ q ≤ y.store.revision ∧
      (l.snapshot (y.store.asOf r)).revision = r ∧
      (∃ clock c id old, raise clock c id b (l.snapshot (y.store.asOf r)) old = .ok p₀ ∧
        p₀.picture =
          ((Proxy.make id b).playOn c.ground clock (l.snapshot (y.store.asOf r)).changes).picture) ∧
      p = p₀.run as ∧
      as.map (·.change) = l.changesBetween y.store r q ∧
      (y.supervisor.task.isRestart = true → y.sent = l.changesBetween y.store r q) := by
  have hconsistent : Consistent l b y := h.consistent
  obtain ⟨r, p₀, as, hserves⟩ := hconsistent.serves p hp
  obtain ⟨clock, c, id, old, hraise⟩ := hserves.raised
  -- what was applied comes before what is in hand
  have hinitial : as.map (·.change) <+: l.changesAfter y.store r :=
    (List.prefix_append _ _).trans hserves.progress.initial
  obtain ⟨q, hrq, hq, has⟩ := Layout.exists_revision hconsistent.sound hserves.r_le hinitial
  refine ⟨r, q, p₀, as, hrq, hq, asOf_revision_eq hserves.r_le,
    ⟨clock, c, id, old, hraise, picture_raise hraise⟩, hserves.run_eq, has, fun hrestart => ?_⟩
  have hfree : y.hand = none := hconsistent.free (isFollowing_of_isRestart hrestart)
  have hprogress := hserves.progress
  rw [hfree, Option.toList_none, List.append_nil, has] at hprogress
  -- only one form of progress is left when a restart is due
  generalize y.supervisor.task = task at hprogress hrestart
  generalize y.sent = sent at hprogress ⊢
  generalize l.changesBetween y.store r q = out at hprogress ⊢
  cases hprogress with
  | restart => rfl
  | opening => cases hrestart
  | following => cases hrestart
  | idle => cases hrestart

/-- A supervisor about to be started, with one host in its store. -/
def seeded : Running where
  supervisor := { layout := ⟨"/t"⟩ }
  store := (Store.make 8).put "/t/hosts/a/host" "\x7b\x7d"
  ground := ⟨.empty, fun _ => true⟩

/-- It is started, another host is put, and the change is followed. -/
def followed : Running := (seeded.start.1.write (·.put "/t/hosts/b/host" "\x7b\x7d")).rest true

/-- Its watch is broken, and the next proxy is to be built. -/
def broken : Running := (followed.write (·.breakWatches)).runFor true 2

/-- This can come about. -/
theorem reached_broken : ∃ sent, Reached 8 ⟨"/t"⟩ {} {} (broken.system sent) := by
  have hseeded : Reached 8 ⟨"/t"⟩ {} {} (seeded.system []) := (Step.write (.put _ _)).steps
  have hstarted := hseeded.trans (Running.steps_start (r := seeded) rfl rfl [])
  have hwritten := hstarted.trans (Running.steps_write (·.put "/t/hosts/b/host" "\x7b\x7d")
    (.put _ _) [])
  obtain ⟨sent, hrest⟩ := Running.steps_rest true []
  have hfollowed : Reached 8 ⟨"/t"⟩ {} {} (followed.system sent) := hwritten.trans hrest
  have hbroken := hfollowed.trans (Running.steps_write (·.breakWatches) .breakWatches sent)
  obtain ⟨sent', hlast⟩ := Running.steps_runFor true 2 sent
  exact ⟨sent', hbroken.trans hlast⟩

/-- The host put behind the snapshot is in service before the next proxy is built. -/
theorem reached_serves_broken : ∃ sent p, Reached 8 ⟨"/t"⟩ {} {} (broken.system sent) ∧
    broken.supervisor.current = some p ∧ broken.supervisor.task.isRestart = true ∧
    p.hosts.keys = ["a", "b"] ∧
    ∃ r q p₀ as, r ≤ q ∧ q ≤ broken.store.revision ∧ p = Proxy.run p₀ as ∧
      as.map (·.change) = Layout.changesBetween ⟨"/t"⟩ broken.store r q ∧
      sent = Layout.changesBetween ⟨"/t"⟩ broken.store r q := by
  obtain ⟨sent, hreached⟩ := reached_broken
  have hstate : broken.supervisor.task.isRestart = true ∧
      broken.supervisor.current.map (·.hosts.keys) = some ["a", "b"] := by decide +kernel
  obtain ⟨hrestart, hcurrent⟩ := hstate
  obtain ⟨p, hp, hkeys⟩ := Option.map_eq_some_iff.mp hcurrent
  obtain ⟨r, q, p₀, as, hrq, hq, -, -, hrun, has, hsent⟩ := reached_serves hreached hp
  exact ⟨sent, p, hreached, hp, hrestart, hkeys, r, q, p₀, as, hrq, hq, hrun, has,
    hsent hrestart⟩

end Turnpike.Supervisor
