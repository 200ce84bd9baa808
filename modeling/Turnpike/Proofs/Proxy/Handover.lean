/-
  Sockets handed on.

  A proxy hands its sockets on to a successor that has not been started, so that clients can go on
  connecting while one takes the place of the other.  The successor may listen at other addresses,
  and some of them may be taken: then it must not serve at all, and no socket may be served by two
  listeners at any time.

  1. **Seats** (`Seated`).  Wherever a socket comes from, whether it was bound here or taken over,
     it is at the address of its listener.  All that happens to a proxy keeps this, provided that it
     is offered nothing else (`Fair`); and what a proxy that is seated hands on is fair, so the
     property passes from one proxy to the next (`Descended.handed`).

  2. **Single use** (`Descended.nodup_sockets`).  As the addresses of listeners differ, no socket
     serves two of them.

  3. **Taking over** (`Adopts`).  The successor adopts a socket for each listener at an address
     where its predecessor had one.  A listener that has a socket of its own keeps it, and no other
     socket is taken.

  4. **Starting** (`Launches`).  Its start binds what is left and serves all listeners (`Served`),
     or none when an address cannot be bound (`Halted`); then the listeners before that one have
     their sockets, and the others are as before.

  All of it is `handover`.
-/
import Turnpike.Proofs.Proxy.Binding

namespace Turnpike.Proxy

open Turnpike.Entity

variable {g : Ground} {p q r : Proxy}

/-! ## Sockets at the addresses of their listeners -/

/-- The socket of a listener is at its address; it is not served in the initial phase. -/
structure Listening.Seated (e : Listening) (phase : Phase) : Prop where
  address : ∀ s, e.socket = some s → s.address = e.spec.address.address
  silent : phase = .init → e.serving = false

/-- All listeners are seated. -/
def Seated (p : Proxy) : Prop := ∀ id e, p.listeners.get? id = some e → e.Seated p.phase

/-- Every socket that is offered is at the address of its listener. -/
def Fair (offers : List (Listener × Socket)) : Prop :=
  ∀ offer ∈ offers, offer.2.address = offer.1.address.address

/-- A proxy that has come about, and has been offered nothing but what is fair. -/
inductive Descended : Proxy → Prop where
  | make (id : Nat) (o : Options) : Descended (make id o)
  | apply {p : Proxy} (h : Descended p) (g : Ground) (now : Nat) (c : Change) :
      Descended (p.apply g now c).1
  | start {p : Proxy} (h : Descended p) (g : Ground) : Descended (p.start g).1
  | stop {p : Proxy} (h : Descended p) : Descended p.stop
  | takeOver {p : Proxy} (h : Descended p) {offers : List (Listener × Socket)} (fair : Fair offers) :
      Descended (p.takeOver offers)
  | traffic {p q : Proxy} (h : Descended p) (t : Traffic p q) : Descended q

/-- Such a proxy is among those that can come about. -/
theorem Descended.reached (h : Descended p) : Reached p := by
  induction h with
  | make id o => exact .make id o
  | apply _ g now c ih => exact ih.apply g now c
  | start _ g ih => exact ih.start g
  | stop _ ih => exact ih.stop
  | takeOver _ _ ih => exact ih.takeOver _
  | traffic _ t ih => exact ih.traffic t

theorem seated_new (l : Listener) (phase : Phase) : Listening.Seated { spec := l } phase :=
  ⟨nofun, fun _ => rfl⟩

/-- A new proxy is seated. -/
theorem seated_make (id : Nat) (o : Options) : (make id o).Seated := by
  unfold Seated make Options.listeners
  dsimp only
  split
  case h_1 l _ =>
    refine Dictionary.forall_get?_insert ?_ (seated_new l .init)
    exact nofun
  case h_2 => exact nofun

/-- Changes leave it seated: a listener that moves gets a new socket. -/
theorem Seated.applied {now : Nat} {c : Change} (h : p.Seated) (ha : Applied g now p c q) :
    q.Seated := by
  cases ha with
  | @listener l e _ _ there =>
    obtain ⟨hthere, haddress⟩ := Option.filter_eq_some_iff.mp there
    have hseated := h _ e hthere
    refine Dictionary.forall_get?_insert h ⟨fun s hs => ?_, hseated.silent⟩
    -- the address is the same, so the socket may stay
    rw [hseated.address s hs]
    exact beq_iff_eq.mp haddress
  | newListener => exact Dictionary.forall_get?_insert h (seated_new _ _)
  | boundListener _ _ _ active =>
    refine Dictionary.forall_get?_insert h ⟨?_, fun hinit => ?_⟩
    -- the socket is new, and bound at the new address
    · rintro s ⟨⟩
      rfl
    · rw [listenOn, active] at hinit
      cases hinit
  | dropListener => exact Dictionary.forall_get?_erase h
  | _ => exact h

/-- However a listener has come by its socket, this is at its address. -/
theorem Provided.address_eq {e : Listening} {s : Socket} {phase : Phase} (h : Provided p q e s)
    (he : e.Seated phase) : s.address = e.spec.address.address := by
  rcases h with hs | ⟨-, haddress, -⟩
  · exact he.address s hs
  · exact haddress

/-- Binding leaves a proxy seated. -/
theorem Seated.binds {ids : List String} (h : p.Seated) (hb : Binds ids p q) : q.Seated := by
  have hphase : q.phase = p.phase := by rw [hb.rest]
  intro id e he
  rw [hphase]
  -- the listener has been bound, or it is as it was
  by_cases hid : id ∈ ids ∧ ∃ f, p.listeners.get? id = some f
  · obtain ⟨hmem, f, hf⟩ := hid
    obtain ⟨s, hs, hq⟩ := hb.provided id hmem f hf
    rw [hq] at he
    cases he
    have hseated := h id f hf
    refine ⟨?_, hseated.silent⟩
    rintro _ ⟨⟩
    exact hs.address_eq hseated
  · rw [hb.others id fun hmem => ?_] at he
    · exact h id e he
    · cases hf : p.listeners.get? id with
      | none => rfl
      | some f => exact absurd ⟨hmem, f, hf⟩ hid

/-- So does a start, whether or not it fails. -/
theorem Seated.start (h : p.Seated) (g : Ground) : (p.start g).1.Seated := by
  by_cases hinit : p.phase = .init
  · obtain ⟨ids, q, hbinds, hq | hq⟩ := start_cases g hinit
    · rw [hq]
      exact h.binds hbinds
    · rw [hq]
      refine Dictionary.forall_get?_mapValues fun id e he => ⟨?_, nofun⟩
      exact (h.binds hbinds id e he).address
  · rw [start_of_started g hinit]
    exact h

theorem seated_stop (p : Proxy) : p.stop.Seated :=
  Dictionary.forall_get?_mapValues fun _ _ _ => ⟨nofun, nofun⟩

/-- A fair offer is at the address that it is for. -/
theorem address_of_offered? {offers : List (Listener × Socket)} (hfair : Fair offers)
    {address : String} {s : Socket} (h : offered? offers address = some s) :
    s.address = address := by
  obtain ⟨offer, hfound, rfl⟩ := Option.map_eq_some_iff.mp h
  rw [hfair offer (List.mem_of_find?_eq_some hfound)]
  have hat := List.find?_some hfound
  exact beq_iff_eq.mp hat

/-- Taking over fair offers leaves a proxy seated. -/
theorem Seated.takeOver (h : p.Seated) (hapart : p.Apart) {offers : List (Listener × Socket)}
    (hfair : Fair offers) : (p.takeOver offers).Seated := by
  rw [takeOver_eq hapart]
  refine Dictionary.forall_get?_mapValues fun id e he => ⟨fun s hs => ?_, (h id e he).silent⟩
  rcases Option.or_eq_some_iff.mp hs with hs | ⟨-, hs⟩
  · exact (h id e he).address s hs
  · exact address_of_offered? hfair hs

/-- Whoever has bound them, all sockets are at the addresses of their listeners. -/
theorem Descended.seated (h : Descended p) : p.Seated := by
  induction h with
  | make id o => exact seated_make id o
  | apply _ g now c ih => exact of_apply c ih fun _ happ => ih.applied happ
  | start _ g ih => exact ih.start g
  | stop => exact seated_stop _
  | takeOver h hfair ih => exact ih.takeOver h.reached.apart hfair
  | traffic _ t ih =>
    rw [t.rest]
    exact ih

theorem Descended.fair_sockets (h : Descended p) : Fair p.sockets := by
  rintro ⟨l, s⟩ hmem
  obtain ⟨id, e, he, rfl, hs⟩ := mem_sockets.mp hmem
  exact (h.seated id e he).address s hs

theorem Descended.handed (hp : Descended p) (hq : Descended q) :
    Descended (q.takeOver p.sockets) := hq.takeOver hp.fair_sockets

/-- No socket serves two listeners. -/
theorem Descended.nodup_sockets (h : Descended p) : (p.sockets.map (·.2)).Nodup := by
  have hsockets : p.sockets.map (·.2) = p.listeners.values.filterMap (·.socket) := by
    unfold sockets
    rw [List.map_filterMap]
    refine List.filterMap_congr fun e _ => ?_
    rw [Option.map_map]
    exact Option.map_id_fun ▸ rfl
  rw [hsockets]
  refine Dictionary.nodup_filterMap_values fun i j e f s he hf hes hfs => ?_
  refine h.reached.apart.name_eq he hf ?_
  -- one socket is at one address, and at an address there is one listener
  rw [← (h.seated i e he).address s hes, (h.seated j f hf).address s hfs]

/-! ## Handing over -/

/-- The listeners that have no socket. -/
def unbound (p : Proxy) : List Listening := p.listeners.values.filter (·.socket.isNone)

/-- What a successor `q` becomes when it takes over the sockets of `p`. -/
structure Adopts (p q r : Proxy) : Prop where
  rest : r = { q with listeners := r.listeners }
  names : ∀ id, q.listeners.get? id = none → r.listeners.get? id = none
  /-- A listener with a socket of its own keeps it. -/
  own : ∀ id e, q.listeners.get? id = some e → e.socket ≠ none → r.listeners.get? id = some e
  /-- Any other has the socket that the predecessor has at its address, or none. -/
  adopted : ∀ id e, q.listeners.get? id = some e → e.socket = none →
    ∃ s?, r.listeners.get? id = some { e with socket := s? } ∧ ∀ s, s? = some s ↔
      ∃ j f, p.listeners.get? j = some f ∧ f.spec.address.address = e.spec.address.address ∧
        f.socket = some s
  single : (r.sockets.map (·.2)).Nodup

/-- What becomes of a proxy `r` when it could be started. -/
structure Served (r q : Proxy) : Prop where
  active : q.phase = .active
  names : ∀ id, r.listeners.get? id = none → q.listeners.get? id = none
  /-- Every listener is served, at the socket that it had or at a new one. -/
  listeners : ∀ id e, r.listeners.get? id = some e → ∃ s, Provided r q e s ∧
    q.listeners.get? id = some { e with socket := some s, serving := true }
  /-- As many sockets have been bound as there were listeners without one. -/
  count : q.bound = r.bound + r.unbound.length
  single : (q.sockets.map (·.2)).Nodup

/-- What becomes of a proxy `r` when it could not be started: nothing is served. -/
structure Halted (g : Ground) (r q : Proxy) : Prop where
  init : q.phase = .init
  silent : ∀ id e, q.listeners.get? id = some e → e.serving = false
  /-- The listeners before the first that cannot be bound have sockets; the others are as before. -/
  listeners : ∃ id e, r.listeners.get? id = some e ∧ e.socket = none ∧
    g.canBind e.spec.address.address = false ∧
    (∀ j f, j < id → r.listeners.get? j = some f → ∃ s, Provided r q f s ∧
      q.listeners.get? j = some { f with socket := some s }) ∧
    ∀ j, ¬j < id → q.listeners.get? j = r.listeners.get? j

/-- How a proxy `r` is started, whatever can be bound. -/
structure Launches (g : Ground) (r : Proxy) : Prop where
  free : (∀ e ∈ r.unbound, g.canBind e.spec.address.address = true) →
    (r.start g).2 = .ok () ∧ Served r (r.start g).1
  busy : (∃ e ∈ r.unbound, g.canBind e.spec.address.address = false) →
    (r.start g).2 = .error .io ∧ Halted g r (r.start g).1

/-- The listeners that have no socket are those that lack one. -/
theorem mem_unbound {e : Listening} : e ∈ p.unbound ↔ ∃ id, p.lacking? id = some e := by
  unfold unbound
  rw [List.mem_filter, Dictionary.mem_values_iff, Option.isNone_iff_eq_none]
  constructor
  · rintro ⟨⟨id, he⟩, hs⟩
    exact ⟨id, lacking?_eq_some.mpr ⟨he, hs⟩⟩
  · rintro ⟨id, hid⟩
    exact ⟨⟨id, (lacking?_eq_some.mp hid).1⟩, (lacking?_eq_some.mp hid).2⟩

/-- In the order of their names. -/
theorem filterMap_lacking? (p : Proxy) : p.listeners.keys.filterMap p.lacking? = p.unbound := by
  unfold Dictionary.keys unbound Dictionary.values
  rw [← List.filterMap_eq_filter, List.filterMap_map, List.filterMap_map]
  refine List.filterMap_congr ?_
  rintro ⟨id, e⟩ hmem
  show p.lacking? id = Option.guard (·.socket.isNone) e
  rw [lacking?, Dictionary.mem_entries_iff.mp hmem]
  rfl

/-- Of names in order, those before a name are those that are less. -/
theorem mem_before_iff {before after : List String} {j k : String}
    (h : (before ++ j :: after).Pairwise (· < ·)) (hk : k ∈ before ++ j :: after) :
    k ∈ before ↔ k < j := by
  obtain ⟨-, hrest, hbefore⟩ := List.pairwise_append.mp h
  have hafter := (List.pairwise_cons.mp hrest).1
  constructor
  · exact fun hmem => hbefore k hmem j List.mem_cons_self
  · intro hlt
    rw [List.mem_append, List.mem_cons] at hk
    rcases hk with hmem | rfl | hmem
    · exact hmem
    · exact absurd hlt Std.lt_irrefl
    · exact absurd (String.lt_trans hlt (hafter k hmem)) Std.lt_irrefl

/-- Taking over is adopting. -/
theorem adopts_takeOver (hp : Descended p) (hq : Descended q) :
    Adopts p q (q.takeOver p.sockets) := by
  have hget (id : String) : (q.takeOver p.sockets).listeners.get? id =
      (q.listeners.get? id).map (Listening.adopting p.sockets) := by
    rw [takeOver_eq hq.reached.apart, Dictionary.get?_mapValues]
  refine ⟨?_, fun id hid => ?_, fun id e he hs => ?_, fun id e he hs => ?_,
    (hp.handed hq).nodup_sockets⟩
  · rw [takeOver_eq hq.reached.apart]
  · rw [hget, hid, Option.map_none]
  · obtain ⟨s, hs⟩ := Option.ne_none_iff_exists'.mp hs
    rw [hget, he, Option.map_some, Listening.adopting, hs, Option.some_or, ← hs]
  · refine ⟨offered? p.sockets e.spec.address.address, ?_, fun s =>
      offered?_sockets hp.reached.apart⟩
    rw [hget, he, Option.map_some, Listening.adopting, hs, Option.none_or]

/-- A proxy in its initial phase is served or halted, as its addresses can be bound. -/
theorem launches (h : Descended r) (hinit : r.phase = .init) (g : Ground) : Launches g r where
  free := by
    intro hfree
    have hsingle := (h.start g).nodup_sockets
    have hnone (id : String) : blocked g r id = false := by
      rw [Bool.eq_false_iff]
      intro hid
      obtain ⟨e, he, hbusy⟩ := blocked_iff.mp hid
      rw [hfree e (mem_unbound.mpr ⟨id, he⟩)] at hbusy
      cases hbusy
    obtain ⟨q, hbinds, hq⟩ := start_free hinit hnone
    rw [hq] at hsingle ⊢
    refine ⟨rfl, rfl, fun id hid => ?_, fun id e he => ?_, ?_, hsingle⟩
    · show (q.listeners.mapValues _).get? id = none
      rw [Dictionary.get?_mapValues, hbinds.others id fun _ => hid, hid, Option.map_none]
    · have hmem : id ∈ r.listeners.keys := Dictionary.mem_keys_of_get? he
      obtain ⟨s, hs, hget⟩ := hbinds.provided id hmem e he
      refine ⟨s, hs, ?_⟩
      show (q.listeners.mapValues _).get? id = _
      rw [Dictionary.get?_mapValues, hget]
      rfl
    · show q.bound = _
      rw [hbinds.count, filterMap_lacking?]
  busy := by
    rintro ⟨e, he, hbusy⟩
    have hseated := (h.start g).seated
    obtain ⟨id, hid⟩ := mem_unbound.mp he
    obtain ⟨j, before, after, q, hkeys, hblocked, hbinds, hq⟩ :=
      start_busy hinit (blocked_iff.mpr ⟨e, hid, hbusy⟩)
    rw [hq] at hseated ⊢
    have hphase : q.phase = .init := by rw [hbinds.rest]; exact hinit
    obtain ⟨f, hf, hfbusy⟩ := blocked_iff.mp hblocked
    obtain ⟨hthere, hnone⟩ := lacking?_eq_some.mp hf
    -- the listeners are bound in the order of their names
    have hsorted := r.listeners.keys_pairwise
    rw [hkeys] at hsorted
    refine ⟨rfl, hphase, fun k d hd => (hseated k d hd).silent hphase,
      j, f, hthere, hnone, hfbusy, fun k d hlt hd => ?_, fun k hk => ?_⟩
    · have hmem : k ∈ r.listeners.keys := Dictionary.mem_keys_of_get? hd
      rw [hkeys] at hmem
      exact hbinds.provided k ((mem_before_iff hsorted hmem).mpr hlt) d hd
    · refine hbinds.others k fun hmem => absurd ?_ hk
      exact (mem_before_iff hsorted (List.mem_append_left _ hmem)).mp hmem

/-- Listeners never share an address.  A successor that has not been started takes over the sockets
    that it has listeners for, and no others; its start binds what is left, all of it or else in
    vain. -/
theorem handover :
    (∀ p, Reached p → p.addresses.Nodup) ∧
      ∀ p q, Descended p → Descended q → q.phase = .init →
        Adopts p q (q.takeOver p.sockets) ∧ ∀ g, Launches g (q.takeOver p.sockets) := by
  refine ⟨fun _ h => h.nodup_addresses, fun p q hp hq hinit => ⟨adopts_takeOver hp hq, fun g => ?_⟩⟩
  refine launches (hp.handed hq) ?_ g
  rw [takeOver_eq hq.reached.apart]
  exact hinit

/-- A listener at a port of this machine. -/
def listenerAt (id : String) (port : String) : Change :=
  .upsert (.listener { id := id, address := { address := "127.0.0.1:" ++ port } })

/-- A proxy in service at two addresses. -/
def leaving : Proxy :=
  (((make 1 {}).play ⟨.empty, fun _ => true⟩ 0
    [listenerAt "admin" "81", listenerAt "web" "80"]).start ⟨.empty, fun _ => true⟩).1

/-- Its successor, which listens at one of them and at a third one. -/
def arriving : Proxy :=
  (make 2 {}).play ⟨.empty, fun _ => true⟩ 0 [listenerAt "site" "80", listenerAt "test" "82"]

/-- The successor adopts the socket of `web` and binds the third address; when that is taken, it is
    not started. -/
theorem handover_arriving :
    let r := arriving.takeOver leaving.sockets
    (Reached leaving ∧ Descended leaving ∧ Descended arriving ∧ arriving.phase = .init) ∧
      leaving.addresses.Nodup ∧ Adopts leaving arriving r ∧
      r.sockets.map (fun x => (x.1.id, x.2)) = [("site", ⟨"127.0.0.1:80", 1, 1⟩)] ∧
      Served r (r.start ⟨.empty, fun _ => true⟩).1 ∧
      Halted ⟨.empty, fun a => a != "127.0.0.1:82"⟩ r
        (r.start ⟨.empty, fun a => a != "127.0.0.1:82"⟩).1 := by
  have hleaving : Descended leaving :=
    (((Descended.make 1 {}).apply _ 0 _).apply _ 0 _).start _
  have harriving : Descended arriving := ((Descended.make 2 {}).apply _ 0 _).apply _ 0 _
  have hinit : arriving.phase = .init := by decide +kernel
  obtain ⟨hadopts, hlaunches⟩ := handover.2 leaving arriving hleaving harriving hinit
  have hbusy : ∃ e ∈ (arriving.takeOver leaving.sockets).unbound,
      (e.spec.address.address != "127.0.0.1:82") = false := by
    decide +kernel
  exact ⟨⟨hleaving.reached, hleaving, harriving, hinit⟩, handover.1 leaving hleaving.reached,
    hadopts, by decide +kernel, ((hlaunches _).free fun _ _ => rfl).2, ((hlaunches _).busy hbusy).2⟩

end Turnpike.Proxy
