/-
  Entities that are put once more.

  A store may tell a proxy twice what it knows already, after a restart or because somebody has
  written the same value again.  Nothing should come of that: no socket is bound twice, no counter
  is lost, no request answered otherwise.

  1. **Being the same.**  Each kind of entity has its own notion of being the same as before: a
     listener keeps its address, a server its URL, a frontend its route and backend.  For each there
     is a lemma that what has just been put stays as it is, down to the proxy being equal to what it
     was (`upsertListener_self`, `upsertServer_self`, `upsertFrontend_self`).

  2. **Gates** (`upsertGate_again`).  A gate has no such notion: it starts afresh whenever it is
     put, and a breaker then remembers a later time than before.  But one that has just been put has
     not been called yet, and in all that counts from now on it is the same
     (`Registry.build_again`).

  3. **What can be told apart** (`Indistinct`).  All but the inside of the gates is the same, gates
     in the same place say the same of all later requests, and the same is seen of both proxies,
     whatever they are used for later.  That follows from being alike (`Alike.indistinct`).

  4. **Every kind** (`upsert_again`).  The cases are the ways in which the entity can have been put
     the first time.  Which addresses can be bound the second time does not matter, as none is.
-/
import Turnpike.Proofs.Proxy.Session
import Turnpike.Proofs.Proxy.Steps

namespace Turnpike

open Turnpike.Entity Turnpike.Balance

/-! ## Gates that are built again -/

/-- A breaker that is made later is the same in all that counts from then on. -/
theorem Breaker.make_again {s : Breaker.Settings} {now later : Nat} {b : Breaker} (h : now ≤ later)
    (hb : Breaker.make s now = .ok b) :
    ∃ c, Breaker.make s later = .ok c ∧ c.since later = b.since later := by
  unfold Breaker.make at hb
  obtain ⟨condition, hcondition, hb⟩ := Result.bind_eq_ok.mp hb
  obtain ⟨fallback, hfallback, hb⟩ := Result.bind_eq_ok.mp hb
  cases hb
  -- it may look at its condition at once, in both cases
  have hcheck : max now later = max later later := by omega
  refine ⟨_, by unfold Breaker.make; rw [hcondition, hfallback]; rfl, ?_⟩
  unfold Breaker.since
  dsimp only
  rw [hcheck, if_pos rfl, if_pos rfl]

namespace Gate

/-- A gate that is built later is the same in all that counts. -/
theorem Registry.build_again {r : Registry} {kind : String} {settings : Json} {now later : Nat}
    {i : Instance} (h : now ≤ later) (hi : r.build kind settings now = .ok i) :
    ∃ j, r.build kind settings later = .ok j ∧ j.since later = i.since later := by
  unfold Registry.build at hi ⊢
  cases hk : r.find? kind with
  | none =>
    rw [hk] at hi
    cases hi
  | some k =>
    rw [hk] at hi
    dsimp only at hi ⊢
    cases k with
    | breaker =>
      unfold Kind.make at hi ⊢
      obtain ⟨s, hs, hi⟩ := Result.bind_eq_ok.mp hi
      obtain ⟨b, hb, hi⟩ := Result.bind_eq_ok.mp hi
      cases hi
      obtain ⟨c, hc, hsince⟩ := Breaker.make_again h hb
      refine ⟨.breaker c, ?_, congrArg Instance.breaker hsince⟩
      dsimp only
      rw [hs]
      show (do let b ← Breaker.make s later; Except.ok (Instance.breaker b)) = _
      rw [hc]
      rfl
    | _ => exact ⟨i, hi, rfl⟩

namespace Chain

variable {ι : Type} {c : Chain ι}

/-- Gates in order are sorted already. -/
theorem Ordered.ofEntries_self (h : c.Ordered) : Chain.ofEntries c.entries = c := by
  have hsorted : c.entries.Pairwise fun a b => a.notAfter b = true :=
    (List.pairwise_map.mp h.sorted).imp Entry.notAfter_iff.mpr
  unfold Chain.ofEntries
  rw [List.mergeSort_of_pairwise hsorted]

/-- A gate that stands in a chain can be put there again. -/
theorem Ordered.upsert_self (h : c.Ordered) {e : Entry ι} (he : c.get? e.id = some e) :
    c.upsert e = c := by
  have hreplace : replaceIn e c.entries = c.entries := by
    unfold replaceIn
    split
    case h_1 i hi =>
      -- the first entry of this identifier is `e`
      obtain ⟨hlt, hid, hfirst⟩ := List.findIdx?_eq_some_iff_getElem.mp hi
      have hget : c.get? e.id = some c.entries[i] := by
        rw [h.get?_eq_some]
        exact ⟨List.getElem_mem hlt, eq_of_beq hid⟩
      rw [he] at hget
      rw [Option.some.inj hget, List.set_getElem_self]
    case h_2 => rfl
  unfold Chain.upsert
  rw [he]
  dsimp only
  rw [hreplace, h.ofEntries_self]

/-- A gate that has just been put stays where it is when it is put again. -/
theorem Ordered.upsert_upsert (h : c.Ordered) (e : Entry ι) :
    (c.upsert e).upsert e = c.upsert e := by
  refine (h.upsert e).upsert_self ?_
  rw [h.get?_upsert, if_pos rfl]

end Chain

end Gate

namespace Balance.Pool

/-- A server that has just been put is left as it is. -/
theorem upsert_upsert {p q : Pool} {s : Server} (h : p.upsert s = .ok q) : q.upsert s = .ok q := by
  obtain ⟨hcheck, u, hu, -⟩ := upsert_eq_ok h
  have htext := url_of_upsert h s.id
  rw [if_pos rfl, hu] at htext
  have hsame : (q.get? s.id).any (·.url.text == u.text) = true := by
    obtain ⟨e, he, heq⟩ := Option.map_eq_some_iff.mp htext
    rw [he]
    exact beq_iff_eq.mpr heq
  unfold upsert
  rw [hcheck, hu]
  show (if (q.get? s.id).any (·.url.text == u.text) = true then Except.ok q else _) = _
  rw [if_pos hsame]

end Balance.Pool

namespace Proxy

variable {g : Ground} {p : Proxy} {now later : Nat}

/-! ## Entities that are put again -/

/-- A listener has no other at its address, whatever is put in its own place. -/
theorem rival?_insert {l : Listener} (h : p.rival? l = none) (e : Listening) :
    rival? { p with listeners := p.listeners.insert l.id e } l = none := by
  unfold rival? at h ⊢
  rw [Option.map_eq_none_iff, List.find?_eq_none] at h ⊢
  rintro ⟨id, d⟩ hd
  rw [Dictionary.mem_entries_iff, Dictionary.get?_insert] at hd
  split at hd
  case isTrue heq => simp [heq]
  case isFalse => exact h (id, d) (Dictionary.mem_entries_iff.mpr hd)

/-- A listener that stands in its place stays there as it is. -/
theorem upsertListener_self {l : Listener} {e : Listening} (valid : l.check = .ok ())
    (alone : p.rival? l = none) (he : p.listeners.get? l.id = some e) (hl : e.spec = l) :
    p.upsertListener g l = done p := by
  subst hl
  have hput : p.listeners.insert e.spec.id { e with spec := e.spec } = p.listeners :=
    Dictionary.insert_of_get? he
  have hsame : (p.listeners.get? e.spec.id).filter
      (·.spec.address.address == e.spec.address.address) = some e := by
    rw [he, Option.filter_some, if_pos (beq_self_eq_true _)]
  unfold upsertListener
  rw [valid, alone, hsame]
  dsimp only
  rw [hput]

/-- A backend that has these settings keeps them. -/
theorem upsertBackend_self {b : Backend} {c : Cluster} (valid : b.check = .ok ())
    (hc : p.backends.get? b.id = some c) (hsettings : c.pool.settings = b.settings) :
    p.upsertBackend b = done p := by
  have hput : p.backends.insert b.id { c with pool := (c.pool.configure b.settings).1 } =
      p.backends := by
    unfold Pool.configure
    rw [← hsettings]
    exact Dictionary.insert_of_get? hc
  unfold upsertBackend
  rw [valid, hc]
  dsimp only
  rw [hput]

/-- A server that stays as it is leaves its backend as it is. -/
theorem upsertServer_self {backend : String} {s : Server} {c : Cluster}
    (hc : p.backends.get? backend = some c) (hpool : c.pool.upsert s = .ok c.pool) :
    p.upsertServer backend s = done p := by
  unfold upsertServer
  rw [hc]
  dsimp only
  -- the pool is put back as it was
  rw [hpool]
  dsimp only
  rw [Dictionary.insert_of_get? hc]

/-- A frontend that is there stays as it is. -/
theorem upsertFrontend_self (hp : p.Regular) {f : Frontend} {s : Service} (valid : f.check = .ok ())
    (hs : p.frontends.get? f.id = some s) (hf : s.spec = f) : p.upsertFrontend f = done p := by
  subst hf
  obtain ⟨c, hc, -⟩ := (integrity_of_tied hp.tied).backed _ s hs
  unfold upsertFrontend
  rw [valid, hc, hs]
  dsimp only
  unfold updateFrontend reroute moved clusterAfter
  rw [if_pos rfl, if_pos rfl, if_pos rfl]
  dsimp only
  rw [Dictionary.insert_of_get? hs]

/-- A gate that has just been put starts afresh when it is put again. -/
theorem upsertGate_again (h : now ≤ later) {frontend : String} {gate : Entity.Gate} {s : Service}
    {i : Gate.Instance} (valid : gate.check = .ok ()) (hordered : s.chain.Ordered)
    (hs : p.frontends.get? frontend =
      some { s with chain := s.chain.upsert ⟨gate.id, gate.priority, gate.kind, i⟩ })
    (built : g.registry.build gate.kind gate.settings now = .ok i) :
    ∃ q, p.upsertGate g later frontend gate = done q ∧ p.Alike later q := by
  obtain ⟨j, hj, hsince⟩ := Gate.Registry.build_again h built
  refine ⟨_, by unfold upsertGate; rw [valid, hs]; dsimp only; rw [hj], rfl, ?_⟩
  have hentry : Gate.Entry.since later ⟨gate.id, gate.priority, gate.kind, j⟩ =
      Gate.Entry.since later ⟨gate.id, gate.priority, gate.kind, i⟩ :=
    congrArg (Gate.Entry.mk gate.id gate.priority gate.kind) hsince
  -- the new gate takes the place of the one before, which is like it
  have hchain :
      ((s.chain.upsert ⟨gate.id, gate.priority, gate.kind, i⟩).upsert
        ⟨gate.id, gate.priority, gate.kind, j⟩).since later =
        (s.chain.upsert ⟨gate.id, gate.priority, gate.kind, i⟩).since later := by
    rw [Gate.Chain.upsert_since, hentry, ← Gate.Chain.upsert_since, hordered.upsert_upsert]
  exact (Dictionary.mapValues_insert_same hs
    (congrArg (fun c => Service.mk s.serial s.spec s.cluster c s.stats) hchain)).symm

/-! ## What can be told apart -/

/-- From `now` on nobody can tell the one proxy from the other. -/
structure Indistinct (now : Nat) (p q : Proxy) : Prop where
  /-- All but the inside of the gates is the same, what was counted included. -/
  outside : q.outside = p.outside
  /-- Gates in the same place say the same of all later requests, however they are called. -/
  gates : ∀ id s t, p.frontends.get? id = some s → q.frontends.get? id = some t →
    List.Forall₂ (fun e f => ∀ cs : List (Nat × Gate.Instance.Call), (∀ c ∈ cs, now ≤ c.1) →
      (cs.Pairwise fun c d => c.1 ≤ d.1) → f.gate.verdicts cs = e.gate.verdicts cs)
      s.chain.entries t.chain.entries
  /-- The same is seen of both, whatever they are used for later. -/
  sessions : ∀ (a : Gate.Ambient) (us : List (Nat × Use)), (∀ u ∈ us, now ≤ u.1) →
    (us.Pairwise fun u v => u.1 ≤ v.1) → q.session a us = p.session a us

/-- Proxies that are alike cannot be told apart. -/
theorem Alike.indistinct {q : Proxy} (h : p.Alike now q) : Indistinct now p q where
  outside := (outside_alike h).symm
  gates := by
    intro id s t hs ht
    have hget := h.get? id
    rw [hs, ht] at hget
    obtain ⟨-, -, -, hchain, -⟩ := Service.parts_of_since (Option.some.inj hget)
    have hentries : List.Forall₂ (fun e f => e.since now = f.since now) s.chain.entries
        t.chain.entries := by
      rw [← List.forall₂_map_right_iff (R := fun e f => Gate.Entry.since now e = f),
        ← List.forall₂_map_left_iff, List.forall₂_eq_eq_eq]
      exact Gate.Chain.mk.inj hchain
    -- what a gate says of later requests depends on what counts of it
    refine hentries.imp fun e f hef cs hlater hordered => ?_
    have hgate : e.gate.since now = f.gate.since now := congrArg Gate.Entry.gate hef
    rw [← Gate.Instance.verdicts_since hlater hordered, ← hgate,
      Gate.Instance.verdicts_since hlater hordered]
  sessions := fun a _ hlater hordered => (session_eq h a hlater hordered).symm

/-- What has been done to put an entity comes to nothing when it is done again. -/
theorem Applied.again {q : Proxy} {u : Upsert} (h : Applied g now p (.upsert u) q)
    (hp : p.Regular) (hlater : now ≤ later) (free : String → Bool) :
    ∃ q', q.upsert { g with canBind := free } later u = done q' ∧ q.Alike later q' ∧
      ((∀ frontend gate, u ≠ .gate frontend gate) → q' = q) := by
  have hq : q.Regular := by
    have hregular := hp.apply g now (.upsert u)
    rwa [h.apply_eq] at hregular
  have same {q' : Proxy} (h : q'.upsert { g with canBind := free } later u = done q') :
      ∃ r, q'.upsert { g with canBind := free } later u = done r ∧ q'.Alike later r ∧
        ((∀ frontend gate, u ≠ .gate frontend gate) → r = q') :=
    ⟨q', h, .refl q', fun _ => rfl⟩
  cases h with
  | @host x valid =>
    refine same ?_
    show upsertHost _ x = _
    unfold upsertHost
    rw [valid]
    dsimp only
    rw [Dictionary.insert_of_get? (Dictionary.get?_insert_self _ _ _)]
  | listener valid alone there =>
    exact same (upsertListener_self valid (rival?_insert alone _)
      (Dictionary.get?_insert_self _ _ _) rfl)
  | newListener valid alone absent idle =>
    exact same (upsertListener_self valid (rival?_insert alone _)
      (Dictionary.get?_insert_self _ _ _) rfl)
  | boundListener valid alone absent active free =>
    exact same (upsertListener_self valid (rival?_insert alone _)
      (Dictionary.get?_insert_self _ _ _) rfl)
  | backend valid there =>
    exact same (upsertBackend_self valid (Dictionary.get?_insert_self _ _ _) rfl)
  | newBackend valid absent =>
    exact same (upsertBackend_self valid (Dictionary.get?_insert_self _ _ _) rfl)
  | server there placed =>
    exact same (upsertServer_self (Dictionary.get?_insert_self _ _ _) (Pool.upsert_upsert placed))
  -- the backend has come with the server, and is there now
  | @newServer backend s pool absent placed =>
    obtain ⟨hid, -⟩ := Pool.id_of_upsert placed
    have hget : (p.addCluster pool).backends.get? backend =
        some { serial := p.nextSerial, pool := pool } := by
      rw [show backend = pool.id from hid.symm]
      exact Dictionary.get?_insert_self _ _ _
    exact same (upsertServer_self hget (Pool.upsert_upsert placed))
  | newFrontend valid backed absent routed =>
    exact same (upsertFrontend_self hq valid (Dictionary.get?_insert_self _ _ _) rfl)
  | frontend valid backed there routed =>
    exact same (upsertFrontend_self hq valid (Dictionary.get?_insert_self _ _ _) rfl)
  | @gate frontend gate s i valid there built =>
    have hget := Dictionary.get?_insert_self p.frontends frontend
      { s with chain := s.chain.upsert ⟨gate.id, gate.priority, gate.kind, i⟩ }
    obtain ⟨q', hq', halike⟩ := upsertGate_again (g := { g with canBind := free })
      (p := { p with frontends := _ }) hlater valid (hp.chain there) hget built
    exact ⟨q', hq', halike, fun h => absurd rfl (h frontend gate)⟩

/-- However a proxy has come about: an entity that could be put can be put again, and then nobody
    can tell the difference.  Nothing is changed at all by that, but for a gate: a gate is built
    again, and yet it will say the same. -/
theorem upsert_again (hp : Reached p) {u : Upsert} (hu : (p.apply g now (.upsert u)).2 = .ok ())
    (hlater : now ≤ later) (free : String → Bool) :
    ∃ q, (p.apply g now (.upsert u)).1.apply { g with canBind := free } later (.upsert u) = done q ∧
      Indistinct later (p.apply g now (.upsert u)).1 q ∧
      ((∀ frontend gate, u ≠ .gate frontend gate) → q = (p.apply g now (.upsert u)).1) := by
  obtain ⟨q, hq, halike, hsame⟩ := (applied_of_ok hu).again hp.regular hlater free
  exact ⟨q, hq, halike.indistinct, hsame⟩

/-- A breaker that trips when more than half of the requests meet a network error. -/
def fuse : Upsert :=
  .gate "f" ⟨"fuse", 1, "cbreaker", .obj [("condition", .str "NetworkErrorRatio() > 0.5")]⟩

/-- A breaker can be put again two nanoseconds later, and nobody can tell the difference. -/
theorem upsert_again_fuse :
    let p := (narrow.apply ⟨.standard, fun _ => true⟩ 5 (.upsert fuse)).1
    ∃ q, p.apply ⟨.standard, fun _ => false⟩ 7 (.upsert fuse) = done q ∧ Indistinct 7 p q := by
  have hreached : Reached narrow := (Reached.make 1 {}).playOn _ (fun _ => 0) _
  have hput : (narrow.apply ⟨.standard, fun _ => true⟩ 5 (.upsert fuse)).2 = .ok () := by
    decide +kernel
  obtain ⟨q, hq, hindistinct, -⟩ := upsert_again hreached hput (Nat.le_add_right 5 2) fun _ => false
  exact ⟨q, hq, hindistinct⟩

end Proxy

end Turnpike
