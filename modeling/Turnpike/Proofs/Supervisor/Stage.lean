/-
  Where a supervisor can be.

  The log of a supervisor tells which proxies have taken their place, when the feed has failed, and
  which attempts to build the next proxy have failed since.  What the supervisor holds must agree
  with that.  It is said here in parts, each of which looks at as little as it can.

  1. **Logs.**  Two things are read off a log: how many attempts have failed since the feed has
     (`Trying`), and that every failure of the feed has been followed by a proxy that took its place
     (`Settled`).  Both are at the end of the log, so they are followed from there, one event at a
     time.

  2. **Stages** (`Stage`).  A stage says where a course can be, and what the log is like there: the
     first proxy is being built, the feed is followed, an attempt or a pause is under way, a proxy
     has taken its place and is yet to be counted, or nothing is to be done any more.  Each step
     leads from one stage to another, and some can be taken from certain stages only.

  3. **Parts.**  The other invariants each look at one part of the supervisor: the numbers of the
     proxies (`Numbers`), the count of the restarts (`Counted`), the proxy in service (`Spared`),
     and how the supervisor has come to a stop (`Verdict`).  Most events do not concern them, so
     each has a lemma that an event may be added to the log which it does not look at, and a few for
     those that it does.

  4. **Counting.**  Between the moment when a proxy takes its place and the moment when it is
     counted the two differ by one (`Work.uncounted`).  A supervisor may be called off, and its
     proxy given up, between them.
-/
import Mathlib.Data.List.Induction
import Turnpike.Proofs.Lists
import Turnpike.Proofs.Supervisor.Course

namespace Turnpike.Supervisor

open Turnpike.Entity Turnpike.Feed

/-! ## Logs -/

section Logs

variable {log : List Event} {x : Event} {n : Nat}

/-- The number of a proxy that has taken its place. -/
def Event.id? : Event → Option Nat
  | launched id | replaced id => some id
  | _ => none

/-- The numbers of the proxies that have taken their place, one after the other. -/
def ids (log : List Event) : List Nat := log.filterMap Event.id?

/-- Has a proxy taken the place of the one before? -/
def Event.isReplacement : Event → Bool
  | replaced _ => true
  | _ => false

theorem Aim.id?_placed (aim : Aim) (id : Nat) : (aim.placed id).id? = some id := by
  cases aim <;> rfl

theorem Aim.placed_ne_gaveUp (aim : Aim) (id : Nat) : aim.placed id ≠ .gaveUp := by
  cases aim <;> exact nofun

theorem Aim.placed_ne_told (aim : Aim) (id : Nat) : aim.placed id ≠ .told := by
  cases aim <;> exact nofun

/-- How often a proxy has taken the place of the one before. -/
def replacements (log : List Event) : Nat := log.countP Event.isReplacement

/-- Since the feed has failed so many attempts have failed, and nothing else has happened. -/
def Trying (log : List Event) (n : Nat) : Prop :=
  ∃ (earlier : List Event) (serving : Option Proxy) (misses : List Error),
    log = earlier ++ .failed serving :: misses.map Event.missed ∧ misses.length = n

/-- Whenever the feed has failed, a proxy has taken its place later. -/
def Settled (log : List Event) : Prop :=
  ∀ earlier serving later, log = earlier ++ .failed serving :: later → ids later ≠ []

theorem ids_snoc (log : List Event) (x : Event) : ids (log ++ [x]) = ids log ++ x.id?.toList := by
  unfold ids
  rw [List.filterMap_append]
  cases x <;> rfl

theorem ids_snoc_of_none (h : x.id? = none) (log : List Event) : ids (log ++ [x]) = ids log := by
  rw [ids_snoc, h]
  exact List.append_nil _

theorem replacements_snoc (log : List Event) (x : Event) :
    replacements (log ++ [x]) = replacements log + if x.isReplacement then 1 else 0 := by
  unfold replacements
  rw [List.countP_append, List.countP_singleton]

/-- An event is in the log if it was before another one came. -/
theorem mem_snoc_of_ne {y : Event} (h : x ≠ y) : y ∈ log ++ [x] ↔ y ∈ log := by
  rw [List.mem_append, List.mem_singleton]
  constructor
  · rintro (hmem | rfl)
    · exact hmem
    · exact absurd rfl h
  · exact .inl

theorem Trying.begin (log : List Event) (serving : Option Proxy) :
    Trying (log ++ [.failed serving]) 0 := ⟨log, serving, [], rfl, rfl⟩

/-- One more attempt has failed. -/
theorem Trying.miss (h : Trying log n) (e : Error) : Trying (log ++ [.missed e]) (n + 1) := by
  obtain ⟨earlier, serving, misses, rfl, hlength⟩ := h
  refine ⟨earlier, serving, misses ++ [e], ?_, by rw [List.length_append, hlength]; rfl⟩
  rw [List.map_append, List.append_assoc, List.cons_append]
  rfl

/-- An attempt has failed last, or the feed. -/
theorem Trying.of_snoc (h : Trying (log ++ [x]) n) :
    (n = 0 ∧ ∃ serving, x = .failed serving) ∨ ∃ k e, n = k + 1 ∧ x = .missed e ∧ Trying log k := by
  obtain ⟨earlier, serving, misses, hlog, hlength⟩ := h
  rcases Lists.split_of_snoc hlog with ⟨hnil, -, hx⟩ | ⟨init, hmap, rfl⟩
  · rw [List.map_eq_nil_iff] at hnil
    rw [← hlength, hnil]
    exact .inl ⟨rfl, serving, hx⟩
  · obtain ⟨before, last, rfl, rfl, hlast⟩ := List.map_eq_append_iff.mp hmap
    obtain ⟨e, rfl, rfl⟩ := List.map_eq_singleton_iff.mp hlast
    rw [List.length_append, List.length_singleton] at hlength
    exact .inr ⟨before.length, e, hlength.symm, rfl, earlier, serving, before, rfl, rfl⟩

/-- After any other event no attempts are counted. -/
theorem not_trying_snoc (x : Event) (hfailed : ∀ serving, x ≠ .failed serving)
    (hmissed : ∀ e, x ≠ .missed e) (log : List Event) (n : Nat) : ¬ Trying (log ++ [x]) n := by
  intro h
  rcases h.of_snoc with ⟨-, serving, hx⟩ | ⟨k, e, -, hx, -⟩
  · exact hfailed serving hx
  · exact hmissed e hx

theorem Settled.empty : Settled [] := by
  intro earlier serving later h
  cases earlier <;> cases h

/-- What is settled stays so until the feed fails. -/
theorem Settled.snoc (h : Settled log) (hx : ∀ serving, x ≠ .failed serving) :
    Settled (log ++ [x]) := by
  intro earlier serving later hlog
  rcases Lists.split_of_snoc hlog with ⟨-, -, hfailed⟩ | ⟨later, rfl, hinit⟩
  · exact absurd hfailed (hx serving)
  · rw [ids_snoc]
    exact List.append_ne_nil_of_left_ne_nil (h earlier serving later hinit) _

/-- Where everything is settled, no attempts are counted. -/
theorem Settled.not_trying (h : Settled log) (n : Nat) : ¬ Trying log n := by
  rintro ⟨earlier, serving, misses, hlog, -⟩
  refine h earlier serving _ hlog ?_
  unfold ids
  rw [List.filterMap_eq_nil_iff, List.forall_mem_map]
  exact fun _ _ => rfl

/-- The attempts that have failed are counted in one way. -/
theorem Trying.unique {k : Nat} (h : Trying log n) (h' : Trying log k) : n = k := by
  -- from the end of the log, where the attempts are
  induction log using List.reverseRecOn generalizing n k with
  | nil => exact absurd h (Settled.empty.not_trying n)
  | append_singleton log x ih =>
    rcases h.of_snoc with ⟨rfl, serving, rfl⟩ | ⟨m, e, rfl, rfl, hlog⟩
    · rcases h'.of_snoc with ⟨rfl, -⟩ | ⟨_, _, -, hx, -⟩
      · rfl
      · cases hx
    · rcases h'.of_snoc with ⟨-, _, hx⟩ | ⟨m', _, rfl, -, hlog'⟩
      · cases hx
      · rw [ih hlog hlog']

/-- When a proxy takes its place, everything is settled. -/
theorem Settled.placed {id : Nat} (h : x.id? = some id) (log : List Event) :
    Settled (log ++ [x]) := by
  intro earlier serving later hlog
  rcases Lists.split_of_snoc hlog with ⟨-, -, rfl⟩ | ⟨later, rfl, -⟩
  · -- `x` is no failure
    cases h
  · rw [ids_snoc, h]
    exact List.append_ne_nil_of_right_ne_nil _ (List.cons_ne_nil id [])

end Logs

/-! ## Stages -/

/-- What is being built. -/
def Work.aim? : Work → Option Aim
  | .idle => none
  | .listing aim | .raised aim _ _ | .placed aim _ => some aim

/-- Has a proxy taken its place that is not counted yet? -/
def Work.isPlaced : Work → Bool
  | .placed _ _ => true
  | _ => false

/-- The restarts that have taken place and are not counted yet. -/
def Work.uncounted : Work → Nat
  | .placed (.restart _) _ => 1
  | _ => 0

/-- Is the feed followed, or about to be? -/
def Task.isFeed : Task → Bool
  | .opening _ | .following _ _ => true
  | _ => false

theorem ne_none_of_isFeed {t : Task} (h : t.isFeed = true) : t ≠ .none := by
  rintro rfl
  cases h

theorem isFeed_of_isFollowing {t : Task} (h : t.isFollowing = true) : t.isFeed = true := by
  cases t with
  | following => rfl
  | _ => cases h

/-- Where a supervisor can be that makes up to `m` attempts: whether it has been started, how far it
    has come with a proxy, what it is about to do, and what its log is like. -/
inductive Stage (m : Nat) : Bool → Work → Task → List Event → Prop where
  | fresh : Stage m false .idle .none []
  | launching {work : Work} {log : List Event} (aim : work.aim? = some .launch)
      (settled : Settled log) (going : .gaveUp ∉ log) : Stage m true work .none log
  | following {task : Task} {log : List Event} (feed : task.isFeed = true) (settled : Settled log)
      (going : .gaveUp ∉ log) : Stage m true .idle task log
  | trying {work : Work} {n : Nat} {log : List Event}
      (aim : ∀ aim, work.aim? = some aim → aim = .restart (n + 1))
      (unplaced : work.isPlaced = false) (trying : Trying log n) (lt : n < m)
      (going : .gaveUp ∉ log) :
      Stage m true work (.building (n + 1)) log
  | placed {n revision : Nat} {log : List Event} (settled : Settled log) (going : .gaveUp ∉ log) :
      Stage m true (.placed (.restart n) revision) (.building n) log
  | pausing {n : Nat} {log : List Event} (trying : Trying log n) (lt : n < m)
      (going : .gaveUp ∉ log) : Stage m true .idle (.pausing n) log
  | ended {log : List Event} (tried : ∀ n, Trying log n → n < m) : Stage m true .idle .none log

namespace Stage

variable {m n revision : Nat} {work : Work} {task task' : Task} {started : Bool} {log : List Event}
  {aim : Aim} {p : Proxy}

/-- As long as the feed is followed, no restart is under way, and nothing is given up. -/
theorem of_feed (h : Stage m started work task log) (ht : task.isFeed = true) :
    started = true ∧ work = .idle ∧ Settled log ∧ .gaveUp ∉ log := by
  cases h with
  | following _ settled going => exact ⟨rfl, rfl, settled, going⟩
  | fresh => cases ht
  | launching => cases ht
  | trying => cases ht
  | placed => cases ht
  | pausing => cases ht
  | ended => cases ht

theorem feed (h : Stage m started work task log) (ht : task.isFeed = true)
    (ht' : task'.isFeed = true) : Stage m started work task' log := by
  obtain ⟨rfl, rfl, hsettled, hgoing⟩ := h.of_feed ht
  exact .following ht' hsettled hgoing

theorem start (h : Stage m false work task log) :
    work = .idle ∧ Stage m true (.listing .launch) task log := by
  cases h with
  | fresh => exact ⟨rfl, .launching rfl .empty List.not_mem_nil⟩

/-- An attempt is made when one is due. -/
theorem attempt (h : Stage m started .idle (.building n) log) :
    Stage m started (.listing (.restart n)) (.building n) log := by
  cases h with
  | trying _ _ trying lt going =>
    refine .trying ?_ rfl trying lt going
    rintro aim ⟨⟩
    rfl
  | following feed => cases feed

/-- Raising a proxy does not change the stage. -/
theorem raise (h : Stage m started (.listing aim) task log) :
    Stage m started (.raised aim p revision) task log := by
  cases h with
  | launching aim settled going => exact .launching aim settled going
  | trying aim _ trying lt going => exact .trying aim rfl trying lt going

/-- The proxy takes its place, and everything is settled. -/
theorem place (h : Stage m started (.raised aim p revision) task log) (id : Nat) :
    Stage m started (.placed aim revision) task (log ++ [aim.placed id]) := by
  have hsettled : Settled (log ++ [aim.placed id]) := .placed (aim.id?_placed id) log
  have hgoing (going : .gaveUp ∉ log) : .gaveUp ∉ log ++ [aim.placed id] := by
    rwa [mem_snoc_of_ne (aim.placed_ne_gaveUp id)]
  cases h with
  | launching haim _ going => exact .launching haim hsettled (hgoing going)
  | trying haim _ _ _ going =>
    obtain rfl := haim aim rfl
    exact .placed hsettled (hgoing going)

/-- Where a proxy has taken its place, everything is settled. -/
theorem of_placed (h : Stage m started (.placed aim revision) task log) :
    started = true ∧ Settled log ∧ .gaveUp ∉ log := by
  cases h with
  | launching _ settled going => exact ⟨rfl, settled, going⟩
  | trying _ unplaced => cases unplaced
  | placed settled going => exact ⟨rfl, settled, going⟩

/-- Every attempt under way is the first proxy's, or follows on some that have failed. -/
theorem of_listing (h : Stage m started (.listing aim) task log) :
    started = true ∧ .gaveUp ∉ log ∧ ((aim = .launch ∧ task = .none ∧ Settled log) ∨
      ∃ n, aim = .restart (n + 1) ∧ task = .building (n + 1) ∧ Trying log n ∧ n < m) := by
  cases h with
  | launching haim settled going =>
    exact ⟨rfl, going, .inl ⟨Option.some.inj haim, rfl, settled⟩⟩
  | trying haim _ trying lt going => exact ⟨rfl, going, .inr ⟨_, haim aim rfl, rfl, trying, lt⟩⟩

/-- When the feed has failed, the first attempt is due. -/
theorem fail (h : Stage m started work task log) (ht : task.isFeed = true) (hm : 0 < m)
    (serving : Option Proxy) : Stage m started work (.building 1) (log ++ [.failed serving]) := by
  obtain ⟨rfl, rfl, -, hgoing⟩ := h.of_feed ht
  have hne : Event.failed serving ≠ .gaveUp := nofun
  refine .trying nofun rfl (.begin log serving) hm ?_
  rwa [mem_snoc_of_ne hne]

/-- After a pause the next attempt is due. -/
theorem resume (h : Stage m started work (.pausing n) log) :
    Stage m started work (.building (n + 1)) log := by
  cases h with
  | pausing trying lt going => exact .trying nofun rfl trying lt going
  | following feed => cases feed

/-- Nothing needs to be done any more where everything is settled. -/
theorem of_settled (h : Settled log) : Stage m true .idle .none log :=
  .ended fun n htrying => absurd htrying (h.not_trying n)

/-- Nothing needs to be done any more when neither the feed nor an attempt has failed last. -/
theorem of_snoc (x : Event) (hfailed : ∀ serving, x ≠ .failed serving)
    (hmissed : ∀ e, x ≠ .missed e) (log : List Event) : Stage m true .idle .none (log ++ [x]) :=
  .ended fun n htrying => absurd htrying (not_trying_snoc x hfailed hmissed log n)

/-- There are never as many attempts that have failed as are made: with the last one it has given
    up. -/
theorem tries (h : Stage m started work task log) {k : Nat} (hk : Trying log k) : k < m := by
  cases h with
  | fresh => exact absurd hk (Settled.empty.not_trying k)
  | launching _ settled => exact absurd hk (settled.not_trying k)
  | following _ settled => exact absurd hk (settled.not_trying k)
  | placed settled => exact absurd hk (settled.not_trying k)
  | trying _ _ trying lt => rwa [hk.unique trying]
  | pausing trying lt => rwa [hk.unique trying]
  | ended tried => exact tried k hk

/-- What is left off is not taken up again. -/
theorem abandon (h : Stage m started .idle task log) : Stage m started .idle .none log := by
  have htries (k : Nat) : Trying log k → k < m := h.tries
  cases h with
  | fresh => exact .fresh
  | _ => exact .ended htries

/-- Where no restart is under way, none is to be counted. -/
theorem uncounted_eq_zero (h : Stage m started work task log) (ht : task.isRestart = false) :
    work.uncounted = 0 := by
  cases h with
  | launching haim =>
    cases work with
    | placed aim revision =>
      obtain rfl := Option.some.inj haim
      rfl
    | _ => rfl
  | trying => cases ht
  | placed => cases ht
  | pausing => cases ht
  | _ => rfl

/-- Nothing is to be done when it has given up. -/
theorem of_gaveUp (h : Stage m started work task log) (hgone : .gaveUp ∈ log) :
    started = true ∧ work = .idle ∧ task = .none := by
  cases h with
  | fresh => cases hgone
  | ended => exact ⟨rfl, rfl, rfl⟩
  | launching _ _ going => exact absurd hgone going
  | following _ _ going => exact absurd hgone going
  | trying _ _ _ _ going => exact absurd hgone going
  | placed _ going => exact absurd hgone going
  | pausing _ _ going => exact absurd hgone going

end Stage

/-! ## Parts of what is kept -/

/-- The proxies that take their place have greater numbers than those before them. -/
structure Numbers (work : Work) (generation : Nat) (current : Option Proxy) (log : List Event) :
    Prop where
  increasing : (ids log).Pairwise (· < ·)
  bounded : ∀ id ∈ ids log, id ≤ generation
  raised : ∀ aim p revision, work = .raised aim p revision →
    p.id = generation ∧ ∀ id ∈ ids log, id < generation
  /-- The proxy in service is the last of them. -/
  last : ∀ p, current = some p → (ids log).getLast? = some p.id

/-- The restarts are counted, or about to be. -/
def Counted (work : Work) (restarts : Nat) (log : List Event) : Prop :=
  restarts + work.uncounted = replacements log

/-- The proxy in service is still the one that was there, as it was told and with its sockets; or
    the supervisor was called off and has given it up. -/
def Intact (stopping : Bool) (serving current : Option Proxy) : Prop :=
  (∃ p q, serving = some p ∧ current = some q ∧ p.Traffic q) ∨ (stopping = true ∧ current = none)

/-- As long as no other proxy has taken its place, the one that was in service when the feed has
    failed is intact. -/
structure Spared (work : Work) (task : Task) (stopping : Bool) (current : Option Proxy)
    (log : List Event) : Prop where
  intact : ∀ earlier serving later, log = earlier ++ .failed serving :: later → ids later = [] →
    Intact stopping serving current
  there : task ≠ .none ∨ work.isPlaced = true → current = none → stopping = true

/-- A supervisor that has not been called off comes to a stop only by giving up. -/
structure Verdict (m : Nat) (state : State) (stopping : Bool) (failure : Option Error)
    (reason : Error) (log : List Event) : Prop where
  gaveUp : ∀ before after, log = before ++ .gaveUp :: after → Trying before m
  stopped : state = .stopped → stopping = true ∨ .gaveUp ∈ log
  stays : .gaveUp ∈ log → state = .stopped
  failure : ∀ e, failure = some e ↔ e = reason ∧ .gaveUp ∈ log ∧ .told ∉ log
  told : .told ∈ log → .gaveUp ∈ log

section Parts

variable {m generation restarts : Nat} {work work' : Work} {task task' : Task} {stopping : Bool}
  {current : Option Proxy} {state state' : State} {failure : Option Error} {reason : Error}
  {log : List Event}

/-- An event without a number changes nothing. -/
theorem Numbers.snoc (h : Numbers work generation current log) (x : Event) (hx : x.id? = none) :
    Numbers work generation current (log ++ [x]) where
  increasing := by rw [ids_snoc_of_none hx]; exact h.increasing
  bounded := by rw [ids_snoc_of_none hx]; exact h.bounded
  raised := by rw [ids_snoc_of_none hx]; exact h.raised
  last := by rw [ids_snoc_of_none hx]; exact h.last

/-- Numbers may be left out as long as no proxy is raised. -/
theorem Numbers.unraised (h : Numbers work generation current log) (work' : Work)
    (hwork : ∀ aim p revision, work' ≠ .raised aim p revision) {generation' : Nat}
    (hle : generation ≤ generation') : Numbers work' generation' current log where
  increasing := h.increasing
  bounded := fun id hid => Nat.le_trans (h.bounded id hid) hle
  raised := fun aim p revision heq => absurd heq (hwork aim p revision)
  last := h.last

/-- A proxy that is raised has a greater number than all that have taken their place. -/
theorem Numbers.raise (h : Numbers work generation current log) (aim : Aim) {p : Proxy}
    (hid : p.id = generation + 1) (revision : Nat) :
    Numbers (.raised aim p revision) (generation + 1) current log where
  increasing := h.increasing
  bounded := fun id hmem => Nat.le_succ_of_le (h.bounded id hmem)
  raised := by
    rintro _ _ _ ⟨⟩
    exact ⟨hid, fun id hmem => Nat.lt_succ_of_le (h.bounded id hmem)⟩
  last := h.last

/-- A proxy takes its place with a greater number than all before it. -/
theorem Numbers.place {aim : Aim} {p : Proxy} {revision : Nat}
    (h : Numbers (.raised aim p revision) generation current log) :
    Numbers (.placed aim revision) generation (some p) (log ++ [aim.placed p.id]) := by
  obtain ⟨hid, hlast⟩ := h.raised aim p revision rfl
  have hids : ids (log ++ [aim.placed p.id]) = ids log ++ [p.id] := by
    rw [ids_snoc, aim.id?_placed]
    rfl
  refine ⟨?_, ?_, nofun, ?_⟩
  · rw [hids, List.pairwise_append]
    refine ⟨h.increasing, List.pairwise_singleton _ _, fun id hmem next hnext => ?_⟩
    rw [List.mem_singleton.mp hnext, hid]
    exact hlast id hmem
  · intro id hmem
    rw [hids, List.mem_append, List.mem_singleton] at hmem
    rcases hmem with hmem | rfl
    · exact h.bounded id hmem
    · exact Nat.le_of_eq hid
  · rintro _ ⟨⟩
    rw [hids, List.getLast?_concat]

theorem Work.uncounted_of_unplaced (h : work.isPlaced = false) : work.uncounted = 0 := by
  cases work with
  | placed => cases h
  | _ => rfl

/-- What is not placed is not counted. -/
theorem Counted.unplaced (h : Counted work restarts log) (hold : work.isPlaced = false)
    (hnew : work'.isPlaced = false) : Counted work' restarts log := by
  have hcounted : restarts + work.uncounted = replacements log := h
  rw [Work.uncounted_of_unplaced hold] at hcounted
  unfold Counted
  rw [Work.uncounted_of_unplaced hnew, hcounted]

/-- An event that is no replacement changes nothing. -/
theorem Counted.snoc (h : Counted work restarts log) (x : Event) (hx : x.isReplacement = false) :
    Counted work restarts (log ++ [x]) := by
  unfold Counted
  rw [replacements_snoc, hx]
  exact h

/-- A proxy that takes the place of another is a restart that is not counted yet. -/
theorem Counted.place {aim : Aim} {p : Proxy} {revision : Nat}
    (h : Counted (.raised aim p revision) restarts log) :
    Counted (.placed aim revision) restarts (log ++ [aim.placed p.id]) := by
  have hcounted : restarts + 0 = replacements log := h
  unfold Counted
  rw [replacements_snoc, ← hcounted]
  cases aim <;> rfl

/-- As long as the feed does not fail, nothing else has to be intact. -/
theorem Spared.snoc (h : Spared work task stopping current log) (x : Event)
    (hx : ∀ serving, x ≠ .failed serving) :
    Spared work task stopping current (log ++ [x]) where
  intact := by
    intro earlier serving later hlog hids
    -- the failure was there before, or it is the new event
    rcases Lists.split_of_snoc hlog with ⟨-, -, rfl⟩ | ⟨later, rfl, hinit⟩
    · exact absurd rfl (hx serving)
    · rw [ids_snoc] at hids
      exact h.intact earlier serving later hinit (List.append_eq_nil_iff.mp hids).1
  there := h.there

/-- As long as a proxy was there before, other things can be done. -/
theorem Spared.go (h : Spared work task stopping current log)
    (hbusy : task' ≠ .none ∨ work'.isPlaced = true → task ≠ .none ∨ work.isPlaced = true) :
    Spared work' task' stopping current log :=
  ⟨h.intact, fun hnew => h.there (hbusy hnew)⟩

/-- When the feed has failed, the proxy in service is the one that is to be intact. -/
theorem Spared.fail (h : Spared work task stopping current log) (hsettled : Settled log)
    (hbusy : task ≠ .none) (hgoing : stopping = false) :
    Spared work task' stopping current (log ++ [.failed current]) where
  intact := by
    intro earlier serving later hlog hids
    rcases Lists.split_of_snoc hlog with ⟨-, -, heq⟩ | ⟨later, rfl, hinit⟩
    · cases heq
      cases hcurrent : current with
      | none =>
        rw [h.there (.inl hbusy) hcurrent] at hgoing
        cases hgoing
      | some p => exact .inl ⟨p, p, rfl, rfl, .refl p⟩
    · -- all that has failed before is settled
      rw [ids_snoc] at hids
      exact absurd (List.append_eq_nil_iff.mp hids).1 (hsettled earlier serving later hinit)
  there := fun _ => h.there (.inl hbusy)

/-- Nothing is to be done any more. -/
theorem Spared.leave (h : Spared work task stopping current log) :
    Spared work .none stopping current log := by
  refine h.go ?_
  rintro (hnone | hplaced)
  · exact absurd rfl hnone
  · exact .inr hplaced

/-- Other events say nothing of how it comes to a stop. -/
theorem Verdict.snoc (h : Verdict m state stopping failure reason log) (x : Event)
    (hgive : x ≠ .gaveUp) (htell : x ≠ .told) :
    Verdict m state stopping failure reason (log ++ [x]) where
  gaveUp := by
    intro before after hlog
    rcases Lists.split_of_snoc hlog with ⟨-, -, rfl⟩ | ⟨after, rfl, hinit⟩
    · exact absurd rfl hgive
    · exact h.gaveUp before after hinit
  stopped := by rw [mem_snoc_of_ne hgive]; exact h.stopped
  stays := by rw [mem_snoc_of_ne hgive]; exact h.stays
  failure := by rw [mem_snoc_of_ne hgive, mem_snoc_of_ne htell]; exact h.failure
  told := by rw [mem_snoc_of_ne hgive, mem_snoc_of_ne htell]; exact h.told

/-- As long as it has not given up, a supervisor can go into any state but the last one. -/
theorem Verdict.go (h : Verdict m state stopping failure reason log) (state' : State)
    (going : .gaveUp ∉ log) (hstate : state' ≠ .stopped) :
    Verdict m state' stopping failure reason log :=
  ⟨h.gaveUp, fun heq => absurd heq hstate, fun hmem => absurd hmem going, h.failure, h.told⟩

/-- A supervisor gives up when as many attempts have failed as are made. -/
theorem Verdict.giveUp (h : Verdict m state stopping failure reason log) (htrying : Trying log m)
    (going : .gaveUp ∉ log) :
    Verdict m .stopped stopping (some reason) reason (log ++ [.gaveUp]) where
  gaveUp := by
    intro before after hlog
    rcases Lists.split_of_snoc hlog with ⟨-, rfl, -⟩ | ⟨after, rfl, hinit⟩
    · exact htrying
    · exact h.gaveUp before after hinit
  stopped := fun _ => .inr (List.mem_append_right _ List.mem_cons_self)
  stays := fun _ => rfl
  failure := by
    intro e
    have hne : Event.gaveUp ≠ .told := nofun
    -- nobody can have been told before there was a reason
    have huntold : .told ∉ log ++ [.gaveUp] := by
      rw [mem_snoc_of_ne hne]
      exact fun hmem => going (h.told hmem)
    constructor
    · rintro ⟨⟩
      exact ⟨rfl, List.mem_append_right _ List.mem_cons_self, huntold⟩
    · rintro ⟨rfl, -, -⟩
      rfl
  told := fun _ => List.mem_append_right _ List.mem_cons_self

/-- The reason is told once. -/
theorem Verdict.tell (h : Verdict m state stopping failure reason log) (hgone : .gaveUp ∈ log) :
    Verdict m state stopping none reason (log ++ [.told]) where
  gaveUp := by
    intro before after hlog
    rcases Lists.split_of_snoc hlog with ⟨-, -, heq⟩ | ⟨after, rfl, hinit⟩
    · cases heq
    · exact h.gaveUp before after hinit
  stopped := fun hstate => (h.stopped hstate).imp_right (List.mem_append_left _)
  stays := fun _ => h.stays hgone
  failure := fun e =>
    ⟨nofun, fun ⟨_, _, huntold⟩ => absurd (List.mem_append_right _ List.mem_cons_self) huntold⟩
  told := fun _ => List.mem_append_left _ hgone

theorem Intact.stop {serving : Option Proxy} (h : Intact stopping serving current) :
    Intact true serving current :=
  h.imp_right fun ⟨_, hcurrent⟩ => ⟨rfl, hcurrent⟩

end Parts

end Turnpike.Supervisor
