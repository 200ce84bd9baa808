/-
  How listeners come by sockets.

  A proxy is given sockets by its predecessor, and binds what is still missing when it is started.
  Both go through the listeners and change them on the way, and a start may fail in the middle.
  What it comes to should be known for every listener by itself.

  1. **Addresses** (`Reached.apart`).  No two listeners of a proxy have the same address, however it
     has come about.  So one listener at most waits for a socket that is offered, and no address is
     tried twice in a start.  Therefore it is no restriction that an address can either be bound or
     not: every single attempt may succeed or fail.

  2. **Adoption** (`takeOver_eq`).  The sockets are offered one after the other, and each goes to
     the listener that waits at its address.  Listener by listener: it keeps the socket that it has,
     or gets the first that is offered for its address.  What a predecessor offers is known in the
     same way (`offered?_sockets`).

  3. **Binding** (`Binds`).  The listeners that are left without a socket are bound one after the
     other, in the order of their names.  `Binds` says what has become of some of them: all have
     sockets, theirs or new ones with new numbers, and nothing else has happened.

  4. **Starting** (`start_free`, `start_busy`).  All are bound when no address is busy.  Otherwise
     those are that come before the first busy one, and the start fails there (`bindAll_free`,
     `bindAll_busy`); both are inductions on the names, from the front.
-/
import Turnpike.Proofs.Proxy.Traffic

namespace Turnpike.Proxy

open Turnpike.Entity

variable {g : Ground} {p q : Proxy}

/-! ## Addresses -/

/-- The addresses of all listeners. -/
def addresses (p : Proxy) : List String := p.listeners.values.map (·.spec.address.address)

/-- What else there is to listeners does not matter. -/
theorem Apart.of_specs (h : p.Apart)
    (hq : q.listeners.mapValues (·.spec) = p.listeners.mapValues (·.spec)) : q.Apart := by
  have hcontent (i : String) : q.content? (.listener i) = p.content? (.listener i) := by
    have hi := congrArg (fun d => (d.get? i).map Content.listener) hq
    simp only [Dictionary.get?_mapValues, Option.map_map] at hi
    exact hi
  intro i j l m hl hm
  rw [hcontent] at hl hm
  exact h i j l m hl hm

theorem Apart.name_eq (h : p.Apart) {i j : String} {e f : Listening}
    (he : p.listeners.get? i = some e) (hf : p.listeners.get? j = some f)
    (haddress : e.spec.address.address = f.spec.address.address) : i = j :=
  h i j e.spec f.spec (content?_listener he) (content?_listener hf) haddress

theorem Apart.apply (h : p.Apart) (g : Ground) (now : Nat) (c : Change) :
    (p.apply g now c).1.Apart :=
  of_apply c h fun _ happ => happ.apart h

/-- However a proxy has come about, its listeners have different addresses. -/
theorem Reached.apart (h : Reached p) : p.Apart := by
  induction h with
  | make id o => exact apart_make id o
  | apply _ g now c ih => exact ih.apply g now c
  | start _ g ih => exact ih.of_specs (specs_start g _)
  | stop _ ih => exact ih.of_specs (specs_stop _)
  | takeOver _ offers ih => exact ih.of_specs (specs_takeOver _ offers)
  | traffic _ t ih => exact ih.of_specs (by rw [t.rest])

theorem Reached.nodup_addresses (h : Reached p) : p.addresses.Nodup :=
  Dictionary.nodup_map_values fun _ _ _ _ he hf => h.apart.name_eq he hf

/-! ## Adoption -/

/-- The socket that is offered for an address: the first one. -/
def offered? (offers : List (Listener × Socket)) (address : String) : Option Socket :=
  (offers.find? (·.1.address.address == address)).map (·.2)

/-- What becomes of a listener when sockets are offered. -/
def Listening.adopting (offers : List (Listener × Socket)) (e : Listening) : Listening :=
  { e with socket := e.socket.or (offered? offers e.spec.address.address) }

/-- The first offer counts, if it is for the address. -/
theorem offered?_cons (offer : Listener × Socket) (offers : List (Listener × Socket))
    (address : String) :
    offered? (offer :: offers) address =
      (offered? [offer] address).or (offered? offers address) := by
  unfold offered?
  rw [List.find?_cons, List.find?_singleton]
  cases offer.1.address.address == address with
  | true => rfl
  | false => rfl

theorem offered?_nil (address : String) : offered? [] address = none := rfl

/-- A listener that waits at the address of an offer gets the socket. -/
theorem adopting_of_waiting {offer : Listener × Socket} {e : Listening}
    (h : (e.socket.isNone && e.spec.address.address == offer.1.address.address) = true) :
    Listening.adopting [offer] e = { e with socket := some offer.2 } := by
  rw [Bool.and_eq_true, Option.isNone_iff_eq_none, beq_iff_eq] at h
  unfold Listening.adopting offered?
  rw [h.1, h.2, List.find?_singleton, beq_self_eq_true]
  rfl

/-- Any other listener stays as it is. -/
theorem adopting_of_not_waiting {offer : Listener × Socket} {e : Listening}
    (h : ¬(e.socket.isNone && e.spec.address.address == offer.1.address.address) = true) :
    Listening.adopting [offer] e = e := by
  rw [Bool.and_eq_true, Option.isNone_iff_eq_none, beq_iff_eq, not_and] at h
  have hsame : e.socket.or (offered? [offer] e.spec.address.address) = e.socket := by
    cases hs : e.socket with
    | some s => rfl
    | none =>
      rw [offered?, List.find?_singleton, beq_false_of_ne (Ne.symm (h hs))]
      rfl
  rw [Listening.adopting, hsame]

/-- One offer, listener by listener. -/
theorem adopt_eq (h : p.Apart) (offer : Listener × Socket) :
    p.adopt offer =
      { p with listeners := p.listeners.mapValues (Listening.adopting [offer]) } := by
  unfold adopt
  split
  case h_1 id e hwaiting =>
    have hmem : (id, e) ∈ p.listeners.entries := List.mem_of_find?_eq_some hwaiting
    have hthere := Dictionary.mem_entries_iff.mp hmem
    have hfound := List.find?_some hwaiting
    dsimp only at hfound
    congr 1
    refine Dictionary.ext fun j => ?_
    rw [Dictionary.get?_insert, Dictionary.get?_mapValues]
    split
    case isTrue hj => rw [hj, hthere, Option.map_some, adopting_of_waiting hfound]
    case isFalse hj =>
      cases hf : p.listeners.get? j with
      | none => rfl
      | some f =>
        -- no other listener has the address of the offer
        rw [Option.map_some, adopting_of_not_waiting]
        intro hother
        rw [Bool.and_eq_true, beq_iff_eq] at hfound hother
        exact hj (h.name_eq hf hthere (hother.2.trans hfound.2.symm))
  case h_2 hnone =>
    rw [Dictionary.mapValues_eq_self fun j f hf => adopting_of_not_waiting ?_]
    exact List.find?_eq_none.mp hnone (_, _) (Dictionary.mem_entries_iff.mpr hf)

/-- What a proxy makes of offered sockets, listener by listener. -/
theorem takeOver_eq (h : p.Apart) (offers : List (Listener × Socket)) :
    p.takeOver offers =
      { p with listeners := p.listeners.mapValues (Listening.adopting offers) } := by
  induction offers generalizing p with
  | nil =>
    have hsame (e : Listening) : Listening.adopting [] e = e := by
      rw [Listening.adopting, offered?_nil, Option.or_none]
    rw [Dictionary.mapValues_eq_self fun _ e _ => hsame e]
    rfl
  | cons offer offers ih =>
    show (p.adopt offer).takeOver offers = _
    -- offers change no addresses, so the induction applies to what the first one leaves
    rw [ih (h.of_specs (specs_adopt p offer)), adopt_eq h]
    congr 1
    refine Dictionary.ext fun j => ?_
    rw [Dictionary.get?_mapValues, Dictionary.get?_mapValues, Dictionary.get?_mapValues,
      Option.map_map]
    refine Option.map_congr fun e _ => ?_
    unfold Function.comp Listening.adopting
    rw [offered?_cons offer offers, Option.or_assoc]

/-- A proxy hands on the sockets that its listeners have. -/
theorem mem_sockets {l : Listener} {s : Socket} :
    (l, s) ∈ p.sockets ↔
      ∃ id e, p.listeners.get? id = some e ∧ e.spec = l ∧ e.socket = some s := by
  unfold sockets
  rw [List.mem_filterMap]
  constructor
  · rintro ⟨e, he, hes⟩
    obtain ⟨s', hs', heq⟩ := Option.map_eq_some_iff.mp hes
    obtain ⟨id, hid⟩ := Dictionary.mem_values_iff.mp he
    cases heq
    exact ⟨id, e, hid, rfl, hs'⟩
  · rintro ⟨id, e, hid, rfl, hs⟩
    exact ⟨e, Dictionary.mem_values_iff.mpr ⟨id, hid⟩, by rw [hs, Option.map_some]⟩

/-- A predecessor offers for an address the socket of its listener there, if it has one. -/
theorem offered?_sockets (h : p.Apart) {address : String} {s : Socket} :
    offered? p.sockets address = some s ↔ ∃ id e, p.listeners.get? id = some e ∧
      e.spec.address.address = address ∧ e.socket = some s := by
  unfold offered?
  rw [Option.map_eq_some_iff]
  constructor
  · rintro ⟨⟨l, s'⟩, hfound, rfl⟩
    obtain ⟨id, e, he, rfl, hs⟩ := mem_sockets.mp (List.mem_of_find?_eq_some hfound)
    have haddress := List.find?_some hfound
    exact ⟨id, e, he, beq_iff_eq.mp haddress, hs⟩
  · rintro ⟨id, e, he, rfl, hs⟩
    have hsome : (p.sockets.find? (·.1.address.address == e.spec.address.address)).isSome := by
      refine List.find?_isSome.mpr ⟨(e.spec, s), mem_sockets.mpr ⟨id, e, he, rfl, hs⟩, ?_⟩
      exact beq_self_eq_true _
    obtain ⟨⟨l, s'⟩, hfound⟩ := Option.isSome_iff_exists.mp hsome
    obtain ⟨j, f, hf, rfl, hs'⟩ := mem_sockets.mp (List.mem_of_find?_eq_some hfound)
    -- the listener that was found is the one at the address
    have haddress := List.find?_some hfound
    obtain rfl := h.name_eq hf he (beq_iff_eq.mp haddress)
    rw [hf] at he
    cases he
    rw [hs] at hs'
    cases hs'
    exact ⟨_, hfound, rfl⟩

/-! ## Binding -/

/-- The listener of that name, if it has no socket. -/
def lacking? (p : Proxy) (id : String) : Option Listening :=
  (p.listeners.get? id).filter (·.socket.isNone)

/-- Is there a listener of that name that has no socket, and whose address cannot be bound? -/
def blocked (g : Ground) (p : Proxy) (id : String) : Bool :=
  (p.lacking? id).any fun e => !g.canBind e.spec.address.address

/-- The socket of a listener is the one that it had, or has been bound for it since. -/
def Provided (p q : Proxy) (e : Listening) (s : Socket) : Prop :=
  e.socket = some s ∨ e.socket = none ∧ s.address = e.spec.address.address ∧ s.owner = p.id ∧
    p.bound ≤ s.number ∧ s.number < q.bound

/-- The listeners of these names all have sockets now, and nothing else has happened. -/
structure Binds (ids : List String) (p q : Proxy) : Prop where
  rest : q = { p with listeners := q.listeners, bound := q.bound }
  provided : ∀ id ∈ ids, ∀ e, p.listeners.get? id = some e →
    ∃ s, Provided p q e s ∧ q.listeners.get? id = some { e with socket := some s }
  others : ∀ id, (id ∈ ids → p.listeners.get? id = none) → q.listeners.get? id = p.listeners.get? id
  count : q.bound = p.bound + (ids.filterMap p.lacking?).length

/-- A listener lacks a socket that is there and has none. -/
theorem lacking?_eq_some {id : String} {e : Listening} :
    p.lacking? id = some e ↔ p.listeners.get? id = some e ∧ e.socket = none := by
  rw [lacking?, Option.filter_eq_some_iff, Option.isNone_iff_eq_none]

/-- It is blocked when its address cannot be bound besides. -/
theorem blocked_iff {id : String} : blocked g p id = true ↔
    ∃ e, p.lacking? id = some e ∧ g.canBind e.spec.address.address = false := by
  rw [blocked, Option.any_eq_true]
  simp only [Bool.not_eq_true']

/-- Otherwise the address can be bound. -/
theorem canBind_of_not_blocked {id : String} {e : Listening} (h : blocked g p id = false)
    (he : p.lacking? id = some e) : g.canBind e.spec.address.address = true := by
  by_contra hno
  rw [blocked_iff.mpr ⟨e, he, Bool.eq_false_iff.mpr hno⟩] at h
  cases h

/-- Binding a socket for one listener leaves what the others lack. -/
theorem lacking?_bindAt {id j : String} {e : Listening} (hj : j ≠ id) :
    (p.bindAt id e).lacking? j = p.lacking? j := by
  unfold lacking? bindAt
  rw [Dictionary.get?_insert_ne _ _ hj]

theorem Binds.refl (p : Proxy) : Binds [] p p := ⟨rfl, nofun, fun _ _ => rfl, rfl⟩

/-- A listener that lacks nothing may be passed over. -/
theorem Binds.skip {ids : List String} {id : String} (hid : p.lacking? id = none)
    (h : Binds ids p q) (hnot : id ∉ ids) : Binds (id :: ids) p q where
  rest := h.rest
  provided := by
    intro j hj e he
    rcases List.mem_cons.mp hj with rfl | hj
    · cases hs : e.socket with
      | none => rw [lacking?_eq_some.mpr ⟨he, hs⟩] at hid; cases hid
      | some s =>
        refine ⟨s, Or.inl hs, ?_⟩
        rw [h.others j fun hmem => absurd hmem hnot, he, ← hs]
    · exact h.provided j hj e he
  others := fun j hj => h.others j fun hmem => hj (List.mem_cons_of_mem _ hmem)
  count := by rw [h.count, List.filterMap_cons_none hid]

/-- One that lacks a socket gets the next one. -/
theorem Binds.bind {ids : List String} {id : String} {e : Listening}
    (hid : p.lacking? id = some e) (h : Binds ids (p.bindAt id e) q) (hnot : id ∉ ids) :
    Binds (id :: ids) p q where
  rest := h.rest
  provided := by
    have hcount : q.bound = p.bound + 1 + (ids.filterMap (p.bindAt id e).lacking?).length := h.count
    intro j hj f hf
    rcases List.mem_cons.mp hj with rfl | hj
    · obtain ⟨he, hs⟩ := lacking?_eq_some.mp hid
      rw [he] at hf
      cases hf
      -- the new socket has the next number
      refine ⟨⟨e.spec.address.address, p.id, p.bound⟩, Or.inr ⟨hs, rfl, rfl, Nat.le_refl _, ?_⟩, ?_⟩
      · show p.bound < q.bound
        omega
      · rw [h.others j fun hmem => absurd hmem hnot]
        exact Dictionary.get?_insert_self _ _ _
    · have hne : j ≠ id := fun heq => hnot (heq ▸ hj)
      obtain ⟨s, hs, hget⟩ := h.provided j hj f ((Dictionary.get?_insert_ne _ _ hne).trans hf)
      refine ⟨s, hs.imp_right ?_, hget⟩
      -- what is bound later has a higher number
      rintro ⟨hnone, haddress, howner, hfrom, hto⟩
      exact ⟨hnone, haddress, howner, Nat.le_of_succ_le hfrom, hto⟩
  others := by
    intro j hj
    have hne : j ≠ id := by
      rintro rfl
      rw [(lacking?_eq_some.mp hid).1] at hj
      cases hj List.mem_cons_self
    have hsame : (p.bindAt id e).listeners.get? j = p.listeners.get? j :=
      Dictionary.get?_insert_ne _ _ hne
    rw [h.others j fun hmem => hsame.trans (hj (List.mem_cons_of_mem _ hmem)), hsame]
  count := by
    have hsame : ids.filterMap (p.bindAt id e).lacking? = ids.filterMap p.lacking? := by
      refine List.filterMap_congr fun j hj => lacking?_bindAt ?_
      rintro rfl
      exact hnot hj
    have hcount : q.bound = p.bound + 1 + (ids.filterMap (p.bindAt id e).lacking?).length := h.count
    rw [hcount, hsame, List.filterMap_cons_some hid, List.length_cons]
    omega

/-- When no listener is blocked, all are bound. -/
theorem bindAll_free {ids : List String} (hids : ids.Nodup)
    (hfree : ∀ id ∈ ids, blocked g p id = false) :
    ∃ q, bindAll g p ids = done q ∧ Binds ids p q := by
  induction ids generalizing p with
  | nil => exact ⟨p, rfl, .refl p⟩
  | cons id ids ih =>
    obtain ⟨hnot, hids⟩ := List.nodup_cons.mp hids
    obtain ⟨hhead, hfree⟩ := List.forall_mem_cons.mp hfree
    unfold bindAll
    split
    case h_1 hid =>
      obtain ⟨q, hq, hbinds⟩ := ih hids hfree
      exact ⟨q, hq, hbinds.skip hid hnot⟩
    case h_2 e hid =>
      rw [if_pos (canBind_of_not_blocked hhead hid)]
      -- the others are not blocked by the socket that has been bound
      have hstill : ∀ j ∈ ids, blocked g (p.bindAt id e) j = false := by
        intro j hj
        have hne : j ≠ id := fun heq => hnot (heq ▸ hj)
        rw [blocked, lacking?_bindAt hne]
        exact hfree j hj
      obtain ⟨q, hq, hbinds⟩ := ih hids hstill
      exact ⟨q, hq, hbinds.bind hid hnot⟩

/-- When some could be bound, the rest comes next. -/
theorem bindAll_append {ids : List String} (h : bindAll g p ids = done q) (rest : List String) :
    bindAll g p (ids ++ rest) = bindAll g q rest := by
  induction ids generalizing p with
  | nil =>
    cases h
    rfl
  | cons id ids ih =>
    rw [bindAll] at h
    rw [List.cons_append, bindAll]
    split
    case h_1 hid =>
      rw [hid] at h
      exact ih h
    case h_2 e hid =>
      rw [hid] at h
      dsimp only at h
      split at h
      case isTrue hfree => rw [if_pos hfree]; exact ih h
      case isFalse => cases h

/-- When one is blocked, those before it are bound and no other. -/
theorem bindAll_busy {before after : List String} {id : String}
    (hids : (before ++ id :: after).Nodup) (hfree : ∀ j ∈ before, blocked g p j = false)
    (hid : blocked g p id = true) :
    ∃ q, bindAll g p (before ++ id :: after) = q.failed .io ∧ Binds before p q := by
  obtain ⟨hbefore, -, hnot⟩ := List.nodup_append.mp hids
  obtain ⟨q, hq, hbinds⟩ := bindAll_free hbefore hfree
  obtain ⟨e, he, hbusy⟩ := blocked_iff.mp hid
  have hstill : (q.listeners.get? id).filter (·.socket.isNone) = some e := by
    rw [hbinds.others id fun hmem => absurd rfl (hnot id hmem id List.mem_cons_self)]
    exact he
  refine ⟨q, ?_, hbinds⟩
  -- those before it are bound, and it still lacks a socket
  rw [bindAll_append hq, bindAll, hstill]
  dsimp only
  rw [if_neg (by rw [hbusy]; decide)]

/-! ## Starting -/

/-- A proxy in its initial phase is started when no listener is blocked. -/
theorem start_free (hinit : p.phase = .init) (hfree : ∀ id, blocked g p id = false) :
    ∃ q, Binds p.listeners.keys p q ∧ p.start g = done q.serveAll := by
  obtain ⟨q, hq, hbinds⟩ := bindAll_free p.listeners.keys_nodup fun id _ => hfree id
  refine ⟨q, hbinds, ?_⟩
  rw [start, if_neg (not_not_intro hinit), hq]
  rfl

/-- Otherwise it is the first one blocked that makes the start fail. -/
theorem start_busy (hinit : p.phase = .init) {id : String} (hid : blocked g p id = true) :
    ∃ j before after q, p.listeners.keys = before ++ j :: after ∧ blocked g p j = true ∧
      Binds before p q ∧ p.start g = q.failed .io := by
  obtain ⟨e, he, -⟩ := blocked_iff.mp hid
  have hmem : id ∈ p.listeners.keys := Dictionary.mem_keys_of_get? (lacking?_eq_some.mp he).1
  have hsome : (p.listeners.keys.find? (blocked g p)).isSome :=
    List.find?_isSome.mpr ⟨id, hmem, hid⟩
  obtain ⟨j, hj⟩ := Option.isSome_iff_exists.mp hsome
  obtain ⟨hblocked, before, after, hkeys, hfree⟩ := List.find?_eq_some_iff_append.mp hj
  have hnodup := p.listeners.keys_nodup
  rw [hkeys] at hnodup
  obtain ⟨q, hq, hbinds⟩ :=
    bindAll_busy hnodup (fun k hk => by simpa using hfree k hk) hblocked
  refine ⟨j, before, after, q, hkeys, hblocked, hbinds, ?_⟩
  rw [start, if_neg (not_not_intro hinit), hkeys, hq]
  rfl

/-- Whatever can be bound, some of the listeners get their sockets, and are served when all have. -/
theorem start_cases (g : Ground) (hinit : p.phase = .init) :
    ∃ ids q, Binds ids p q ∧ ((p.start g).1 = q ∨ (p.start g).1 = q.serveAll) := by
  by_cases hbusy : ∃ id, blocked g p id = true
  · obtain ⟨id, hid⟩ := hbusy
    obtain ⟨_, before, _, q, -, -, hbinds, hq⟩ := start_busy hinit hid
    exact ⟨before, q, hbinds, Or.inl (congrArg (·.1) hq)⟩
  · simp only [not_exists, Bool.not_eq_true] at hbusy
    obtain ⟨q, hbinds, hq⟩ := start_free hinit hbusy
    exact ⟨_, q, hbinds, Or.inr (congrArg (·.1) hq)⟩

theorem start_of_started (g : Ground) (h : p.phase ≠ .init) : (p.start g).1 = p := by
  rw [start, if_pos h]
  rfl

end Turnpike.Proxy
