/-
  Generations, and attempts that fail.

  A supervisor shows how often it has been restarted, which state it is in, and, when it has given
  up, why.  A maintainer wants to rely on that, and on what happens to the proxy in service while
  others are tried.

  1. **What agrees** (`Generations`).  The proxies that have taken their place have greater and
     greater numbers.  The one that was in service when the feed failed is intact, as long as no
     other has taken its place.  The restarts that are counted are those that have taken place.  It
     gives up when so many attempts have failed in a row as are made, not sooner and not later, and
     a failure is shown from then on until somebody was told.

  2. **What is kept** (`Kept`).  It is at some stage, and its numbers, its count, the proxy in
     service and its verdict are as they should be.  For each of these it has been proved that it is
     kept by what a step does to the part that it looks at.  What is left to do here is to say what
     each step does to all of the parts.

  3. **Steps** (`Kept.step`).  Steps that do alike are treated alike: the feed goes on
     (`Kept.feed`), the proxy in service is changed (`Kept.changed`), the building of a proxy goes
     on (`Kept.advance`), or the feed is left (`Kept.leave`).  An attempt that fails needs the most
     care: it may be that of the first proxy, one after which there is a pause, or the last one
     (`Kept.miss`).

  4. **Outcome** (`generations_of_reached`).  What is kept holds at every point of every course, and
     says what was to agree.
-/
import Turnpike.Proofs.Supervisor.Stage

namespace Turnpike.Supervisor

open Turnpike.Entity Turnpike.Feed

/-! ## Numbers of proxies -/

/-- A proxy has the number that it was raised with. -/
theorem id_raise {clock : Nat → Nat} {id : Nat} {c : Conditions} {o : Proxy.Options} {sn : Snapshot}
    {old : Option Proxy} {p : Proxy} (h : raise clock c id o sn old = .ok p) :
    p.id = id := by
  unfold raise at h
  dsimp only at h
  split at h
  case h_1 => cases h
  case h_2 =>
    split at h
    case h_1 q hstart =>
      cases h
      have hstarted := (congrArg (·.1.id) hstart).symm.trans (Proxy.listens_start c.ground _).id_eq
      exact hstarted.trans ((Proxy.listens_takeOver _ _).id_eq.trans (Proxy.id_playOn _ _ _ _))
    case h_2 => cases h

/-! ## What is kept -/

/-- What is kept by all that becomes of a supervisor. -/
structure Kept (y : Course) : Prop where
  stage : Stage y.supervisor.attempts y.started y.work y.supervisor.task y.log
  numbers : Numbers y.work y.supervisor.generation y.supervisor.current y.log
  counted : Counted y.work y.supervisor.restarts y.log
  spared : Spared y.work y.supervisor.task y.supervisor.stopping y.supervisor.current y.log
  verdict : Verdict y.supervisor.attempts y.supervisor.state y.supervisor.stopping
    y.supervisor.failure y.supervisor.exhausted y.log

/-! ## One step -/

namespace Kept

variable {y : Course} {aim : Aim} {s : Supervisor}

/-- Reader and applier go on. -/
theorem feed (h : Kept y) {t : Task} (ht : y.supervisor.task.isFeed = true)
    (ht' : t.isFeed = true) : Kept { y with supervisor := { y.supervisor with task := t } } where
  stage := h.stage.feed ht ht'
  numbers := h.numbers
  counted := h.counted
  spared := h.spared.go fun _ => .inl (ne_none_of_isFeed ht)
  verdict := h.verdict

/-- The proxy in service is changed, though not as long as a restart is under way; or it has only
    handled requests. -/
theorem changed (h : Kept y) {p q : Proxy} (hp : y.supervisor.current = some p) (hid : q.id = p.id)
    (hchange : Settled y.log ∨ p.Traffic q) :
    Kept { y with supervisor := { y.supervisor with current := some q } } where
  stage := h.stage
  numbers := by
    refine ⟨h.numbers.increasing, h.numbers.bounded, h.numbers.raised, ?_⟩
    rintro _ ⟨⟩
    rw [hid]
    exact h.numbers.last p hp
  counted := h.counted
  spared := by
    refine ⟨fun earlier serving later hlog hids => ?_, fun _ => nofun⟩
    rcases hchange with hsettled | htraffic
    · -- no failure is open, so that nothing has to be intact
      exact absurd hids (hsettled earlier serving later hlog)
    · rcases h.spared.intact earlier serving later hlog hids with
        ⟨a, b, hserving, hb, hab⟩ | ⟨-, hnone⟩
      · rw [hp] at hb
        cases hb
        exact .inl ⟨a, q, hserving, rfl, hab.trans htraffic⟩
      · rw [hp] at hnone
        cases hnone
  verdict := h.verdict

/-- The building of a proxy goes on, and none has taken its place. -/
theorem advance (h : Kept y) {started : Bool} {work : Work}
    (hstage : Stage y.supervisor.attempts started work y.supervisor.task y.log)
    (hold : y.work.isPlaced = false) (hnew : work.isPlaced = false)
    (hunraised : ∀ aim p revision, work ≠ .raised aim p revision) :
    Kept { y with started := started, work := work } where
  stage := hstage
  numbers := h.numbers.unraised work hunraised (Nat.le_refl _)
  counted := h.counted.unplaced hold hnew
  spared := by
    refine h.spared.go (Or.imp_right fun hplaced => ?_)
    rw [hnew] at hplaced
    cases hplaced
  verdict := h.verdict

/-- It is started. -/
theorem start (h : Kept y) (fresh : y.started = false) :
    Kept { y with started := true, work := .listing .launch } := by
  have hstage := h.stage
  rw [fresh] at hstage
  obtain ⟨hidle, hnext⟩ := hstage.start
  exact h.advance hnext (by rw [hidle]; rfl) rfl nofun

/-- An attempt to build the next proxy begins. -/
theorem attempt (h : Kept y) {n : Nat} (building : y.supervisor.task = .building n)
    (idle : y.work = .idle) : Kept { y with work := .listing (.restart n) } := by
  have hstage := h.stage
  rw [building, idle] at hstage
  exact h.advance (by rw [building]; exact hstage.attempt) (by rw [idle]; rfl) rfl nofun

/-- An attempt that fails leaves everything as it is, but for the numbers of proxies. -/
theorem missed (h : Kept y) (listing : y.work = .listing aim) {generation : Nat}
    (hle : y.supervisor.generation ≤ generation) (e : Error) {t : Task}
    (hstage : Stage y.supervisor.attempts y.started .idle t (y.log ++ [.missed e]))
    (ht : t ≠ .none → y.supervisor.task ≠ .none) :
    Kept { y with
      supervisor := { y.supervisor with generation := generation, task := t }
      work := .idle
      log := y.log ++ [.missed e] } where
  stage := hstage
  numbers := (h.numbers.unraised .idle nofun hle).snoc (.missed e) rfl
  counted := by
    have hunplaced : y.work.isPlaced = false := by rw [listing]; rfl
    exact (h.counted.unplaced hunplaced rfl).snoc (.missed e) rfl
  spared := by
    refine (h.spared.snoc (.missed e) nofun).go ?_
    rintro (hbusy | ⟨⟨⟩⟩)
    exact .inl (ht hbusy)
  verdict := h.verdict.snoc (.missed e) nofun nofun

/-- When as many attempts have failed as are made, it gives up. -/
theorem lastMissed (h : Kept y) (listing : y.work = .listing aim) (hstarted : y.started = true)
    {generation : Nat} (hle : y.supervisor.generation ≤ generation) (e : Error)
    (htrying : Trying (y.log ++ [.missed e]) y.supervisor.attempts)
    (going : .gaveUp ∉ y.log ++ [.missed e]) :
    Kept { y with
      supervisor := { y.supervisor with
        generation := generation
        state := .stopped
        failure := some y.supervisor.exhausted
        task := .none }
      work := .idle
      log := y.log ++ [.missed e] ++ [.gaveUp] } where
  stage := by
    show Stage _ y.started .idle .none _
    rw [hstarted]
    exact .of_snoc .gaveUp nofun nofun _
  numbers := ((h.numbers.unraised .idle nofun hle).snoc (.missed e) rfl).snoc .gaveUp rfl
  counted := by
    have hunplaced : y.work.isPlaced = false := by rw [listing]; rfl
    exact ((h.counted.unplaced hunplaced rfl).snoc (.missed e) rfl).snoc .gaveUp rfl
  spared := by
    refine ((h.spared.snoc (.missed e) nofun).snoc .gaveUp nofun).go ?_
    rintro (hnone | ⟨⟨⟩⟩)
    exact absurd rfl hnone
  verdict := (h.verdict.snoc (.missed e) nofun nofun).giveUp htrying going

/-- An attempt that fails is the last one if so many have failed as are made. -/
theorem miss (h : Kept y) (listing : y.work = .listing aim) (tally : Tally) {generation : Nat}
    (hle : y.supervisor.generation ≤ generation) (e : Error) :
    Kept (y.miss aim tally { y.supervisor with generation := generation } e) := by
  have hne : Event.missed e ≠ .gaveUp := nofun
  have hstage := h.stage
  rw [listing] at hstage
  obtain ⟨hstarted, hgoing, ⟨rfl, htask, hsettled⟩ | ⟨n, rfl, htask, htrying, hlt⟩⟩ :=
    hstage.of_listing
  · -- the first proxy could not be built
    refine h.missed listing hle e ?_ id
    rw [hstarted, htask]
    exact .of_settled (hsettled.snoc nofun)
  · have hbusy : y.supervisor.task ≠ .none := by
      rw [htask]
      exact nofun
    have hstill : .gaveUp ∉ y.log ++ [.missed e] := by rwa [mem_snoc_of_ne hne]
    -- it is one of several, or the last of them
    by_cases hmore : n + 1 < y.supervisor.attempts
    · -- another attempt is made after a pause
      rw [Course.miss_of_lt (s := { y.supervisor with generation := generation }) hmore]
      refine h.missed listing hle e ?_ fun _ => hbusy
      rw [hstarted]
      exact .pausing (htrying.miss e) hmore hstill
    · -- this one was the last
      rw [Course.miss_of_le (s := { y.supervisor with generation := generation })
        (Nat.le_of_not_lt hmore)]
      have hall : n + 1 = y.supervisor.attempts := by omega
      exact h.lastMissed listing hstarted hle e (hall ▸ htrying.miss e) hstill

/-- A proxy has been raised, with the next number. -/
theorem raise (h : Kept y) (listing : y.work = .listing aim) {p : Proxy}
    (hid : p.id = y.supervisor.generation + 1) (revision : Nat) :
    Kept { y with
      supervisor := { y.supervisor with generation := y.supervisor.generation + 1 }
      work := .raised aim p revision } := by
  have hunplaced : y.work.isPlaced = false := by rw [listing]; rfl
  have hstage := h.stage
  rw [listing] at hstage
  exact {
    stage := hstage.raise
    numbers := h.numbers.raise aim hid revision
    counted := h.counted.unplaced hunplaced rfl
    spared := h.spared.go (Or.imp_right nofun)
    verdict := h.verdict }

/-- The next proxy has a greater number than all before it. -/
theorem place (h : Kept y) {p : Proxy} {revision : Nat} (raised : y.work = .raised aim p revision) :
    Kept { y with
      supervisor := { y.supervisor with current := some p }
      work := .placed aim revision
      log := y.log ++ [aim.placed p.id] } := by
  have hstage := h.stage
  have hnumbers := h.numbers
  have hcounted := h.counted
  rw [raised] at hstage hnumbers hcounted
  exact {
    stage := hstage.place p.id
    numbers := hnumbers.place
    counted := hcounted.place
    spared := by
      have hsettled : Settled (y.log ++ [aim.placed p.id]) := .placed (aim.id?_placed p.id) y.log
      refine ⟨fun earlier serving later hlog hids => ?_, fun _ => nofun⟩
      exact absurd hids (hsettled earlier serving later hlog)
    verdict := h.verdict.snoc _ (aim.placed_ne_gaveUp p.id) (aim.placed_ne_told p.id) }

/-- A proxy that has taken its place is announced, and counted if it has replaced another. -/
theorem announce (h : Kept y) {revision : Nat} (placed : y.work = .placed aim revision)
    (tally : Tally) :
    Kept { y with supervisor := aim.close tally (y.supervisor, .ok revision), work := .idle } := by
  have hstage := h.stage
  rw [placed] at hstage
  obtain ⟨hstarted, hsettled, hgoing⟩ := hstage.of_placed
  have hbusy : y.work.isPlaced = true := by rw [placed]; rfl
  have hcounted : y.supervisor.restarts + y.work.uncounted = replacements y.log := h.counted
  rw [placed] at hcounted
  have hnumbers := h.numbers.unraised .idle nofun (Nat.le_refl _)
  have hspared (t : Task) : Spared .idle t y.supervisor.stopping y.supervisor.current y.log :=
    h.spared.go fun _ => .inr hbusy
  have hverdict := h.verdict.go .running hgoing nofun
  have hnext : Stage y.supervisor.attempts y.started .idle (.opening revision) y.log := by
    rw [hstarted]
    exact .following rfl hsettled hgoing
  cases aim with
  | launch => exact ⟨hnext, hnumbers, hcounted, hspared _, hverdict⟩
  | restart n => exact ⟨hnext, hnumbers, hcounted, hspared _, hverdict⟩

/-! ## The feed -/

/-- A watch is opened. -/
theorem watch (h : Kept y) (store : Store) (refusal : Result Unit) :
    Kept { y with supervisor := y.supervisor.openWatch store refusal } := by
  unfold openWatch
  split
  case h_1 revision htask => exact h.feed (by rw [htask]; rfl) rfl
  case h_2 => exact h

/-- The reader goes on. -/
theorem read (h : Kept y) {store : Store} (hread : y.supervisor.read? store = some s) :
    Kept { y with supervisor := s } := by
  unfold read? at hread
  split at hread
  case h_1 reader channel htask =>
    obtain ⟨x, -, rfl⟩ := Option.map_eq_some_iff.mp hread
    exact h.feed (by rw [htask]; rfl) rfl
  case h_2 => cases hread

theorem take (h : Kept y) {c : Change} (htake : y.supervisor.take? = some (c, s)) :
    Kept { y with supervisor := s } := by
  obtain ⟨reader, channel, channel', htask, rfl⟩ := take?_eq_some htake
  exact h.feed (by rw [htask]; rfl) rfl

/-- The applier applies a change. -/
theorem apply (h : Kept y) (now : Nat) (g : Proxy.Ground) (tally : Tally) (c : Change)
    (following : y.supervisor.task.isFollowing = true) :
    Kept { y with supervisor := (y.supervisor.applyChange now g tally c).1 } := by
  obtain ⟨-, -, hsettled, -⟩ := h.stage.of_feed (isFeed_of_isFollowing following)
  unfold applyChange
  split
  case h_1 p hp => exact h.changed hp (Proxy.id_apply g now p c) (.inl hsettled)
  case h_2 => exact h

/-- The feed is followed no longer. -/
theorem leave (h : Kept y) (ht : y.supervisor.task.isFeed = true) :
    Kept { y with supervisor := { y.supervisor with task := .none } } := by
  obtain ⟨hstarted, hidle, hsettled, -⟩ := h.stage.of_feed ht
  exact {
    stage := by
      show Stage _ y.started y.work .none y.log
      rw [hstarted, hidle]
      exact .of_settled hsettled
    numbers := h.numbers
    counted := h.counted
    spared := h.spared.leave
    verdict := h.verdict }

/-- The feed has failed. -/
theorem fail (h : Kept y) (ht : y.supervisor.task.isFeed = true)
    (hstopping : y.supervisor.stopping = false) :
    Kept { y with
      supervisor := { y.supervisor with state := .restarting, task := .building 1 }
      log := y.log ++ [.failed y.supervisor.current] } := by
  obtain ⟨-, hidle, hsettled, hgoing⟩ := h.stage.of_feed ht
  exact {
    stage := h.stage.fail ht (Nat.le_max_right _ _) _
    numbers := h.numbers.snoc (.failed y.supervisor.current) rfl
    counted := h.counted.snoc (.failed y.supervisor.current) rfl
    spared := h.spared.fail hsettled (ne_none_of_isFeed ht) hstopping
    verdict := (h.verdict.go .restarting hgoing nofun).snoc
      (.failed y.supervisor.current) nofun nofun }

/-- The feed has come to its end, or has failed. -/
theorem conclude (h : Kept y) (hconclude : y.supervisor.conclude? = some s) :
    Kept { y with
      supervisor := s
      log := y.log ++ s.task.failure y.supervisor.current } := by
  unfold conclude? at hconclude
  split at hconclude
  case h_1 reader channel htask =>
    have ht : y.supervisor.task.isFeed = true := by rw [htask]; rfl
    have hleave : Kept { y with
        supervisor := { y.supervisor with task := .none }
        log := y.log ++ [] } := by
      rw [List.append_nil]
      exact h.leave ht
    split at hconclude
    case h_1 =>
      cases hconclude
      exact hleave
    case h_2 =>
      -- a failure counts only when the supervisor has not been called off
      split at hconclude
      case isTrue =>
        cases hconclude
        exact hleave
      case isFalse hstopping =>
        cases hconclude
        exact h.fail ht (Bool.eq_false_iff.mpr hstopping)
    case h_3 => cases hconclude
  case h_2 => cases hconclude

/-- The pause is over. -/
theorem resume (h : Kept y) : Kept { y with supervisor := y.supervisor.resume } := by
  unfold Supervisor.resume
  split
  case h_1 n htask =>
    have hstage := h.stage
    rw [htask] at hstage
    exact {
      stage := hstage.resume
      numbers := h.numbers
      counted := h.counted
      spared := h.spared.go fun _ => .inl (by rw [htask]; exact nofun)
      verdict := h.verdict }
  case h_2 => exact h

/-! ## The end -/

/-- To be called off changes nothing but that it is known. -/
theorem stop (h : Kept y) :
    Kept { y with supervisor := { y.supervisor with stopping := true } } where
  stage := h.stage
  numbers := h.numbers
  counted := h.counted
  spared := by
    refine ⟨fun earlier serving later hlog hids => ?_, fun _ _ => rfl⟩
    exact (h.spared.intact earlier serving later hlog hids).stop
  verdict := { h.verdict with stopped := fun _ => .inl rfl }

/-- It is called off, and so is its reader. -/
theorem cancel (h : Kept y) : Kept { y with supervisor := y.supervisor.cancel } := by
  unfold Supervisor.cancel
  split
  case h_1 reader channel htask => exact h.stop.feed (by rw [htask]; rfl) rfl
  case h_2 => exact h.stop

/-- What goes on in the background is left off. -/
theorem abandon (h : Kept y) (idle : y.work = .idle) :
    Kept { y with supervisor := y.supervisor.abandon } := by
  have hstage := h.stage
  rw [idle] at hstage
  exact {
    stage := by
      show Stage _ y.started y.work .none y.log
      rw [idle]
      exact hstage.abandon
    numbers := h.numbers
    counted := h.counted
    spared := h.spared.leave
    verdict := h.verdict }

/-- It gives up its proxy, which it may when it was called off. -/
theorem vacate (h : Kept y) (stopping : y.supervisor.stopping = true) :
    Kept { y with supervisor := { y.supervisor with current := none } } where
  stage := h.stage
  numbers := ⟨h.numbers.increasing, h.numbers.bounded, h.numbers.raised, nofun⟩
  counted := h.counted
  spared := ⟨fun _ _ _ _ _ => .inr ⟨stopping, rfl⟩, fun _ _ => stopping⟩
  verdict := h.verdict

/-- It comes to its end. -/
theorem finish (h : Kept y) (stopping : y.supervisor.stopping = true) :
    Kept { y with supervisor := { y.supervisor with state := .stopped } } where
  stage := h.stage
  numbers := h.numbers
  counted := h.counted
  spared := h.spared
  verdict := { h.verdict with stopped := fun _ => .inl stopping, stays := fun _ => rfl }

/-- Somebody is told why it has given up. -/
theorem ask (h : Kept y) {e : Error} (answer : y.supervisor.stopped?.2 = some (.error e)) :
    Kept { y with supervisor := y.supervisor.stopped?.1, log := y.log ++ [.told] } := by
  unfold stopped? at answer ⊢
  split at answer
  case isTrue => cases answer
  case isFalse hstopped =>
    rw [if_neg hstopped]
    split at answer
    case h_1 reason hfailure =>
      obtain ⟨-, hgone, -⟩ := (h.verdict.failure reason).mp hfailure
      obtain ⟨hstarted, hidle, htask⟩ := h.stage.of_gaveUp hgone
      exact {
        stage := by
          show Stage _ y.started y.work y.supervisor.task _
          rw [hstarted, hidle, htask]
          exact .of_snoc .told nofun nofun _
        numbers := h.numbers.snoc .told rfl
        counted := h.counted.snoc .told rfl
        spared := h.spared.snoc .told nofun
        verdict := h.verdict.tell hgone }
    case h_2 => cases answer

end Kept

/-! ## All steps -/

variable {y z : Course}

/-- All that becomes of a supervisor keeps it in order. -/
theorem Kept.step (h : Kept y) (hstep : Course.Step y z) : Kept z := by
  cases hstep with
  | start fresh => exact h.start fresh
  | attempt building idle => exact h.attempt building idle
  | refuse tally e listing => exact h.miss listing tally (Nat.le_refl _) e
  | spoil now c sn tally listing spoilt => exact h.miss listing tally (Nat.le_succ _) _
  | raise clock c sn listing raised => exact h.raise listing (id_raise raised) sn.revision
  | place raised => exact h.place raised
  | announce tally placed => exact h.announce placed tally
  | watch store refusal => exact h.watch store refusal
  | pass w following => exact h.feed (by rw [following]; rfl) rfl
  | read read => exact h.read read
  | take taken => exact h.take taken
  | apply now g tally c following => exact h.apply now g tally c following
  | serve serving traffic => exact h.changed serving traffic.id_eq (.inr traffic)
  | conclude concluded => exact h.conclude concluded
  | resume => exact h.resume
  | cancel => exact h.cancel
  | abandon stopping idle => exact h.abandon idle
  | vacate stopping => exact h.vacate stopping
  | finish stopping => exact h.finish stopping
  | ask answer => exact h.ask answer

theorem Kept.steps (h : Kept y) (hsteps : Course.Steps y z) : Kept z := by
  induction hsteps with
  | refl => exact h
  | tail _ hstep ih => exact ih.step hstep

/-- A new supervisor is in order. -/
theorem kept_fresh (l : Layout) (o : Options) (b : Proxy.Options) :
    Kept { supervisor := { layout := l, options := o, blueprint := b } } where
  stage := .fresh
  numbers := ⟨.nil, nofun, nofun, nofun⟩
  counted := rfl
  spared := by
    refine ⟨fun earlier serving later hlog => ?_, ?_⟩
    · cases earlier <;> cases hlog
    · rintro (hbusy | ⟨⟨⟩⟩)
      exact absurd rfl hbusy
  verdict := by
    refine ⟨fun before after hlog => ?_, nofun, nofun, fun e => ⟨nofun, nofun⟩, nofun⟩
    cases before <;> cases hlog

/-! ## Generations -/

/-- What a supervisor counts and shows agrees with what has become of it. -/
structure Generations (y : Course) : Prop where
  /-- The proxies that have taken their place have greater and greater numbers, and the proxy in
      service is the last of them. -/
  increasing : (ids y.log).Pairwise (· < ·)
  last : ∀ p, y.supervisor.current = some p → (ids y.log).getLast? = some p.id
  /-- Whatever has failed since the feed has: as long as no other proxy has taken its place, the one
      that was in service then is intact. -/
  intact : ∀ earlier serving later, y.log = earlier ++ .failed serving :: later → ids later = [] →
    Intact y.supervisor.stopping serving y.supervisor.current
  /-- When no restart is under way, the restarts are those in which a proxy was replaced. -/
  counted : y.supervisor.task.isRestart = false → y.supervisor.restarts = replacements y.log
  /-- It gives up only when as many attempts have failed in a row as are made, and then it does. -/
  gaveUp : ∀ before after, y.log = before ++ .gaveUp :: after →
    Trying before (max y.supervisor.options.maxAttempts 1)
  tries : ∀ n, Trying y.log n → n < max y.supervisor.options.maxAttempts 1
  /-- There is a failure when it has given up, until somebody was told, and at no other time. -/
  failure : ∀ e, y.supervisor.failure = some e ↔
    e = y.supervisor.exhausted ∧ .gaveUp ∈ y.log ∧ .told ∉ y.log
  /-- When it has given up it is stopped; and when it is stopped, it has given up, or was called
      off. -/
  ended : .gaveUp ∈ y.log → y.supervisor.state = .stopped
  stopped : y.supervisor.state = .stopped → y.supervisor.stopping = true ∨ .gaveUp ∈ y.log

/-- However the feed, the sockets and the start of proxies fail, whenever requests are handled, and
    whenever the supervisor is called off: what it counts and shows agrees with what has become of
    it. -/
theorem generations_of_reached {l : Layout} {o : Options} {b : Proxy.Options}
    (h : Course.Reached l o b y) : Generations y := by
  have hkept : Kept y := (kept_fresh l o b).steps h
  refine {
    increasing := hkept.numbers.increasing
    last := hkept.numbers.last
    intact := hkept.spared.intact
    counted := fun ht => ?_
    gaveUp := hkept.verdict.gaveUp
    tries := fun _ => hkept.stage.tries
    failure := hkept.verdict.failure
    ended := hkept.verdict.stays
    stopped := hkept.verdict.stopped }
  -- where no restart is under way, none is left to be counted
  have hcounted : y.supervisor.restarts + y.work.uncounted = replacements y.log := hkept.counted
  rw [hkept.stage.uncounted_eq_zero ht] at hcounted
  exact hcounted

/-- A supervisor that makes two attempts and then gives up. -/
def hasty : Running where
  supervisor := { layout := ⟨"/t"⟩, options := { maxAttempts := 2 } }
  store := .make 0
  ground := ⟨.standard, fun _ => true⟩

/-- It was started, but it cannot open a watch, and then it cannot list the feed any more. -/
def stranded : Running := { hasty.start.1 with refusedWatches := 1, refusedLists := 5 }.rest true

/-- It has given up, and the first proxy is still in service. -/
theorem generations_of_stranded : ∃ log, Course.Reached ⟨"/t"⟩ { maxAttempts := 2 } {}
      (stranded.course true log) ∧ Generations (stranded.course true log) ∧
    stranded.supervisor.state = .stopped ∧ stranded.supervisor.failure.isSome = true ∧
    stranded.supervisor.current.map (·.id) = some 1 := by
  obtain ⟨log, hstart⟩ := hasty.course_start []
  obtain ⟨log', hrest⟩ :=
    { hasty.start.1 with refusedWatches := 1, refusedLists := 5 }.course_rest true log
  have hreached : Course.Reached ⟨"/t"⟩ { maxAttempts := 2 } {} (stranded.course true log') :=
    hstart.trans hrest
  exact ⟨log', hreached, generations_of_reached hreached, by decide +kernel, by decide +kernel,
    by decide +kernel⟩

end Turnpike.Supervisor
