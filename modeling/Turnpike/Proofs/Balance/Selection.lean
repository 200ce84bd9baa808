/-
  One endpoint at a time.

  A request selects an endpoint of its pool, uses it, and gives it back, and it names the endpoint
  by its serial number in all that it does.  Meanwhile the pool may be edited.  So one has to know
  that a serial number means one endpoint at most, and that nothing else is touched.

  1. **Telling endpoints apart** (`Distinct`).  The endpoints of a pool have distinct identifiers
     and distinct serial numbers, all of which have been given away already.  It holds of a new
     pool, and calls keep it: a new endpoint gets a serial number that nobody has had, also when it
     takes the place of another one.

  2. **Unused pools** (`bare`).  What requests do to a pool is to count on its endpoints and to move
     on the turn.  When this is taken away, pools that differ in nothing else are equal, and what
     does not depend on it, `Distinct` for one, can be carried from one to the other.

  3. **In its place** (`Distinct.modify_eq`).  What is done to the endpoint of a serial number is
     done at every endpoint that has it; since there is one, it is done at one place of the list.

  4. **A whole request** (`release_selected`, `release_recorded`).  An endpoint that was selected
     and is released, whether or not it has recorded a round trip, is the only one that may be
     another than before: the pool has been `used`, and nothing else has happened to it.
-/
import Mathlib.Data.List.Nodup
import Turnpike.Proofs.Balance.Pool

namespace Turnpike.Balance

open Turnpike.Entity

/-! ## What requests leave alone -/

/-- An endpoint that has not been used. -/
def Endpoint.bare (e : Endpoint) : Endpoint := { e with active := 0, stats := {} }

/-- A pool that has not been used. -/
def Pool.bare (p : Pool) : Pool := { p with endpoints := p.endpoints.map Endpoint.bare, turn := 0 }

/-- A new endpoint has the serial number that it is given. -/
theorem Endpoint.serial_make {n : Nat} {s : Server} {e : Endpoint} (h : Endpoint.make n s = .ok e) :
    e.serial = n := by
  unfold Endpoint.make at h
  obtain ⟨u, -, h⟩ := Result.bind_eq_ok.mp h
  dsimp only at h
  split at h
  case isTrue => cases h; rfl
  case isFalse => cases h

namespace Pool

variable {p q : Pool} {e : Endpoint}

/-! ## Endpoints can be told apart -/

/-- Endpoints have distinct identifiers and distinct serial numbers. -/
structure Distinct (p : Pool) : Prop where
  ids : (p.endpoints.map (·.id)).Nodup
  serials : (p.endpoints.map (·.serial)).Nodup
  below : ∀ e ∈ p.endpoints, e.serial < p.nextSerial

theorem Distinct.ofBackend (b : Backend) : (Pool.ofBackend b).Distinct :=
  ⟨List.nodup_nil, List.nodup_nil, nofun⟩

theorem Distinct.eq_of_id (h : p.Distinct) {d : Endpoint} (hd : d ∈ p.endpoints)
    (he : e ∈ p.endpoints) (hid : d.id = e.id) : d = e := List.inj_on_of_nodup_map h.ids hd he hid

theorem Distinct.eq_of_serial (h : p.Distinct) {d : Endpoint} (hd : d ∈ p.endpoints)
    (he : e ∈ p.endpoints) (hserial : d.serial = e.serial) : d = e :=
  List.inj_on_of_nodup_map h.serials hd he hserial

theorem Distinct.nodup (h : p.Distinct) : p.endpoints.Nodup := List.Nodup.of_map _ h.ids

/-- A new serial number may take the place of any other. -/
theorem Distinct.replace (h : p.Distinct) (he : e.serial = p.nextSerial) :
    ((p.endpoints.map fun f => if f.id = e.id then e else f).map (·.serial)).Nodup := by
  rw [List.map_map]
  refine List.Nodup.map_on (fun c hc d hd hserial => ?_) h.nodup
  simp only [Function.comp_apply] at hserial
  -- the new number is above all others, so a clash could only be between old ones
  have hlt := h.below c hc
  have hlt' := h.below d hd
  split at hserial
  case isTrue hce =>
    split at hserial
    case isTrue hde => exact h.eq_of_id hc hd (hce.trans hde.symm)
    case isFalse => omega
  case isFalse =>
    split at hserial
    case isTrue => omega
    case isFalse => exact h.eq_of_serial hc hd hserial

/-- A new endpoint can be told from the others, wherever it is placed. -/
theorem Distinct.place (h : p.Distinct) (he : e.serial = p.nextSerial) : (p.place e).Distinct := by
  unfold Pool.place
  split
  case isTrue =>
    refine ⟨?_, h.replace he, ?_⟩
    · rw [List.map_map]
      have hsame : (Endpoint.id ∘ fun f : Endpoint => if f.id = e.id then e else f) =
          Endpoint.id := by
        funext f
        by_cases hf : f.id = e.id
        · simp [hf]
        · simp [hf]
      rw [hsame]
      exact h.ids
    · intro f hf
      obtain ⟨d, hd, rfl⟩ := List.mem_map.mp hf
      show _ < p.nextSerial + 1
      have hlt := h.below d hd
      split
      · omega
      · omega
  case isFalse hnone =>
    refine ⟨?_, ?_, ?_⟩
    · rw [List.map_append, List.map_singleton]
      refine h.ids.append (List.nodup_singleton _) ?_
      rw [List.disjoint_singleton]
      intro hmem
      obtain ⟨f, hf, hid⟩ := List.mem_map.mp hmem
      exact hnone (List.any_eq_true.mpr ⟨f, hf, beq_iff_eq.mpr hid⟩)
    · rw [List.map_append, List.map_singleton]
      refine h.serials.append (List.nodup_singleton _) ?_
      rw [List.disjoint_singleton]
      intro hmem
      obtain ⟨f, hf, hserial⟩ := List.mem_map.mp hmem
      have hlt := h.below f hf
      omega
    · intro f hf
      rcases List.mem_append.mp hf with hf | hf
      · exact Nat.lt_succ_of_lt (h.below f hf)
      · rw [List.mem_singleton.mp hf, he]
        exact Nat.lt_succ_self _

/-- Putting a server leaves endpoints that can be told apart. -/
theorem Distinct.upsert (h : p.Distinct) {s : Server} (hq : p.upsert s = .ok q) : q.Distinct := by
  obtain ⟨-, u, -, ⟨e, -, -, rfl⟩ | ⟨e, he, rfl⟩⟩ := upsert_eq_ok hq
  · exact h
  · exact h.place (Endpoint.serial_make he)

/-- Removing one does too. -/
theorem Distinct.remove (h : p.Distinct) {id : String} (hq : p.remove id = .ok q) :
    q.Distinct := by
  obtain ⟨-, rfl⟩ := remove_eq_ok hq
  have hsub : (p.endpoints.filter (·.id != id)).Sublist p.endpoints := List.filter_sublist
  exact ⟨h.ids.sublist (hsub.map _), h.serials.sublist (hsub.map _),
    fun e he => h.below e (hsub.subset he)⟩

/-- What requests do has no part in it. -/
theorem Distinct.of_bare (h : p.Distinct) (hbare : q.bare = p.bare) : q.Distinct := by
  have hkeep {β : Type} (f : Endpoint → β) (hf : ∀ e : Endpoint, f e.bare = f e) :
      q.endpoints.map f = p.endpoints.map f := by
    have hendpoints : q.endpoints.map Endpoint.bare = p.endpoints.map Endpoint.bare :=
      congrArg Pool.endpoints hbare
    have hmap := congrArg (List.map f) hendpoints
    rw [List.map_map, List.map_map, show f ∘ Endpoint.bare = f from funext hf] at hmap
    exact hmap
  have hserials := hkeep Endpoint.serial fun _ => rfl
  have hnext : q.bare.nextSerial = p.bare.nextSerial := by rw [hbare]
  refine ⟨by rw [hkeep Endpoint.id fun _ => rfl]; exact h.ids, by rw [hserials]; exact h.serials,
    fun e he => ?_⟩
  have hmem : e.serial ∈ p.endpoints.map (·.serial) := by
    rw [← hserials]
    exact List.mem_map_of_mem he
  obtain ⟨d, hd, hserial⟩ := List.mem_map.mp hmem
  show e.serial < q.bare.nextSerial
  rw [hnext, ← hserial]
  exact h.below d hd

/-! ## What is done to an endpoint -/

/-- What is done to the endpoint of a serial number is done in its place. -/
theorem Distinct.modify_eq (h : p.Distinct) {i : Nat} (hi : p.endpoints[i]? = some e)
    (f : Endpoint → Endpoint) :
    p.modify e.serial f = { p with endpoints := p.endpoints.modify i f } := by
  unfold Pool.modify
  congr 1
  -- place by place: the serial number is there just when the place is the one
  refine List.ext_getElem? fun j => ?_
  rw [List.getElem?_map, List.getElem?_modify]
  cases hj : p.endpoints[j]? with
  | none => rfl
  | some d =>
    have hplace : d.serial = e.serial ↔ i = j := by
      constructor
      · intro hserial
        obtain rfl := h.eq_of_serial (List.mem_of_getElem? hj) (List.mem_of_getElem? hi) hserial
        obtain ⟨hlt, -⟩ := List.getElem?_eq_some_iff.mp hi
        exact (List.getElem?_inj hlt h.nodup).mp (hi.trans hj.symm)
      · rintro rfl
        rw [hi] at hj
        rw [Option.some.inj hj]
    rw [Option.map_some, Option.map_eq_map, Option.map_some]
    by_cases hij : i = j
    · rw [if_pos (hplace.mpr hij), if_pos hij]
    · rw [if_neg (hij ∘ hplace.mp), if_neg hij]

/-- What is seen of endpoints stays the same when that which is done to one of them does not show. -/
theorem map_modify {β : Type} {f : Endpoint → Endpoint} {g : Endpoint → β}
    (hf : ∀ e, g (f e) = g e) (p : Pool) (n : Nat) :
    (p.modify n f).endpoints.map g = p.endpoints.map g := by
  unfold modify
  rw [List.map_map]
  refine List.map_congr_left fun e _ => ?_
  rw [Function.comp_apply]
  split
  case isTrue => exact hf e
  case isFalse => rfl

/-- One thing is done to an endpoint after another. -/
theorem modify_modify (p : Pool) (n : Nat) {f : Endpoint → Endpoint} (g : Endpoint → Endpoint)
    (hf : ∀ e, (f e).serial = e.serial) :
    (p.modify n f).modify n g = p.modify n fun e => g (f e) := by
  unfold modify
  dsimp only
  rw [List.map_map]
  congr 1
  refine List.map_congr_left fun e _ => ?_
  rw [Function.comp_apply]
  by_cases hn : e.serial = n
  · rw [if_pos hn, if_pos hn, if_pos ((hf e).trans hn)]
  · rw [if_neg hn, if_neg hn, if_neg hn]

/-! ## Requests -/

/-- A pool of which the endpoint has been used whose turn it was, and has recorded a round trip if
    there was one. -/
def used (p : Pool) (trip : Option (Outcome × Nat)) : Pool :=
  { p with
    endpoints := p.endpoints.modify (placeOf p.turn p.endpoints.length) fun e =>
      trip.elim e fun t => e.record t.1 t.2
    turn := p.turn + 1 }

/-- Without what requests do, a pool that has been used is the same. -/
theorem bare_used (p : Pool) (trip : Option (Outcome × Nat)) : (p.used trip).bare = p.bare := by
  have hbare (e : Endpoint) :
      (trip.elim e fun t => e.record t.1 t.2).bare = e.bare := by
    cases trip with
    | none => rfl
    | some t => rfl
  unfold used bare
  congr 1
  refine List.ext_getElem? fun i => ?_
  rw [List.getElem?_map, List.getElem?_map, List.getElem?_modify]
  split
  case isTrue =>
    cases p.endpoints[i]? with
    | none => rfl
    | some e => exact congrArg some (hbare e)
  case isFalse => cases p.endpoints[i]? <;> rfl

/-- No endpoint can be selected when there is none. -/
theorem select?_eq_none (p : Pool) : p.select? = none ↔ p.endpoints = [] := by
  unfold select?
  constructor
  · intro h
    split at h
    case h_1 hnone =>
      by_contra hne
      have hlt : placeOf p.turn p.endpoints.length < p.endpoints.length :=
        Nat.mod_lt _ (List.length_pos_iff.mpr hne)
      rw [List.getElem?_eq_getElem hlt] at hnone
      cases hnone
    case h_2 => cases h
  · intro h
    rw [h]
    rfl

/-- The endpoint that is selected is the one whose turn it is. -/
theorem select?_eq_some {d : Endpoint} (h : p.select? = some (q, d)) :
    ∃ e, p.endpoints[placeOf p.turn p.endpoints.length]? = some e ∧ d = e.acquire ∧
      q = { p.modify e.serial .acquire with turn := p.turn + 1 } := by
  unfold select? at h
  split at h
  case h_1 => cases h
  case h_2 e he =>
    obtain ⟨rfl, rfl⟩ := Prod.mk.inj (Option.some.inj h)
    exact ⟨e, he, rfl, rfl⟩

/-- What is done at the endpoint whose turn it is makes a used pool. -/
theorem used_of_modify (h : p.Distinct) {trip : Option (Outcome × Nat)}
    (he : p.endpoints[placeOf p.turn p.endpoints.length]? = some e) :
    { p.modify e.serial (fun e => trip.elim e fun t => e.record t.1 t.2) with turn := p.turn + 1 } =
      p.used trip := by
  rw [h.modify_eq he]
  rfl

/-- An endpoint that was selected and is released is as it was. -/
theorem release_selected (h : p.Distinct)
    (he : p.endpoints[placeOf p.turn p.endpoints.length]? = some e) :
    Pool.release { p.modify e.serial .acquire with turn := p.turn + 1 } e.serial = p.used none := by
  rw [← used_of_modify h he]
  show (Pool.modify { p with turn := p.turn + 1 } e.serial .acquire).modify e.serial .release = _
  rw [modify_modify (f := .acquire) _ _ _ fun _ => rfl]
  rfl

/-- So is one that has recorded a round trip, but for this. -/
theorem release_recorded (h : p.Distinct) (o : Outcome) (nanos : Nat)
    (he : p.endpoints[placeOf p.turn p.endpoints.length]? = some e) :
    (Pool.record { p.modify e.serial .acquire with turn := p.turn + 1 } e.serial o nanos).release
      e.serial = p.used (some (o, nanos)) := by
  rw [← used_of_modify h he]
  show ((Pool.modify { p with turn := p.turn + 1 } e.serial .acquire).modify e.serial
    (·.record o nanos)).modify e.serial .release = _
  -- acquiring, recording and releasing are one change, and the first and the last cancel
  rw [modify_modify (f := .acquire) _ _ _ fun _ => rfl,
    modify_modify (f := fun e => e.acquire.record o nanos) _ _ _ fun _ => rfl]
  rfl

end Pool

end Turnpike.Balance
