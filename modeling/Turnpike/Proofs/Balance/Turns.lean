/-
  Turns at a pool.

  Many callers select endpoints of one pool at a time, and every endpoint is to be selected as often
  as any other.

  1. **Moves.**  A selection is no single step: a caller looks at the endpoints that there are, takes
     a turn, and only then counts its request at the endpoint that the turn has given it; other callers
     do the same in between, in any order, or record and end their requests.  A `Move` is one such
     thing done by one caller.  What a caller has seen may be old when it takes its turn; the number of
     the turn is read and raised at once.

  2. **Selections.**  `Pool.select?` is all of that done by one caller whom nobody disturbs.  A `Step`
     is a move or such a selection, so that runs may mix both.  A selection is three moves
     (`moves_select?`), hence every run is one of moves alone (`moves_steps`), and what is shown of
     moves holds of the function that is called.

  3. **The invariant** (`Follows`).  As long as the pool is not edited, the endpoints stay the same,
     everyone who has looked has seen them all, and the number of the turn is as many further as there
     were selections.  Therefore whoever takes the turn gets the endpoint after the last one: the
     `i`-th selection is the one due after `i` others (`Pool.due`), whichever caller made it.  This is
     the crux: the order of the turns alone decides, and not who looked first.

  4. **Shares.**  The endpoint due after `i` others is at the place `(t + i) mod n`, as long as the
     number of the turn, which is a machine word, does not start over within the selections that are
     counted.  So it is left to count how often a remainder occurs among numbers in a row
     (`count_remainder`): as often as any other, up to one (`selections_even`).
-/
import Mathlib.Data.Int.CardIntervalMod
import Mathlib.Logic.Relation
import Turnpike.Proofs.Balance.Selection
import Turnpike.Proofs.Lists

namespace Turnpike.Balance

/-! ## Numbers in a row -/

/-- To count in a range is to count from 0. -/
theorem countP_range (p : Nat → Prop) [DecidablePred p] (m : Nat) :
    (List.range m).countP (fun i => decide (p i)) = Nat.count p m := by
  induction m with
  | zero => rfl
  | succ m ih =>
    rw [List.range_succ, List.countP_append, ih, List.countP_singleton, Nat.count_succ]
    simp only [decide_eq_true_eq]

/-- Among numbers in a row every remainder has its share, and some have one more.  The library counts
    from 0, so the row is moved: `t + i` leaves `j` when `i` leaves another remainder. -/
theorem count_remainder {n j : Nat} (hj : j < n) (t m : Nat) :
    ∃ v, (List.range m).countP (fun i => decide ((t + i) % n = j)) =
      m / n + if v % n < m % n then 1 else 0 := by
  have hpos : 0 < n := by omega
  have hlt : t % n < n := Nat.mod_lt t hpos
  -- where the remainder comes up first, or `n` later
  refine ⟨j + (n - t % n), ?_⟩
  have hshift : t + (j + (n - t % n)) ≡ j [MOD n] := by
    have hsplit : t + (j + (n - t % n)) = j + n * (t / n + 1) := by
      have hdiv := Nat.div_add_mod t n
      rw [Nat.mul_add, Nat.mul_one]
      omega
    rw [hsplit]
    exact Nat.add_modulus_mul_modEq_iff.mpr rfl
  have hsame (i : Nat) : (t + i) % n = j ↔ i ≡ j + (n - t % n) [MOD n] := by
    have hself : (t + i) % n = j ↔ t + i ≡ j [MOD n] := by rw [Nat.ModEq, Nat.mod_eq_of_lt hj]
    rw [hself]
    constructor
    · intro h
      exact Nat.ModEq.add_left_cancel' t (h.trans hshift.symm)
    · intro h
      exact (h.add_left t).trans hshift
  rw [← Nat.count_modEq_card m hpos, ← countP_range]
  refine List.countP_congr fun i _ => ?_
  rw [decide_eq_true_eq, decide_eq_true_eq]
  exact hsame i

/-- A share and one more is the share rounded up, if the shares do not come out even. -/
theorem div_succ_of_mod {m n : Nat} (hn : 0 < n) (h : 0 < m % n) : m / n + 1 = (m + n - 1) / n := by
  have hlt : m % n < n := Nat.mod_lt m hn
  have hdiv := Nat.div_add_mod m n
  symm
  rw [Nat.div_eq_iff hn]
  constructor
  · rw [Nat.add_mul, Nat.one_mul, Nat.mul_comm]
    omega
  · rw [Nat.add_mul, Nat.one_mul, Nat.mul_comm]
    omega

/-! ## Callers -/

/-- How far a caller has come, who knows endpoints by their serial numbers. -/
inductive Caller where
  /-- It has seen these endpoints. -/
  | looking (view : List Nat)
  /-- It has taken a turn, which was the one of this endpoint. -/
  | chosen (serial : Nat)
  /-- Its request is under way. -/
  | underway (serial : Nat)

/-- A pool with callers, and what has been selected, in the order of the turns. -/
structure Rota where
  pool : Pool
  callers : List Caller := []
  picks : List Nat := []

/-- The endpoints by their serial numbers. -/
def Pool.serials (p : Pool) : List Nat := p.endpoints.map (·.serial)

/-- The endpoint that has its turn after so many others. -/
def Pool.due (p : Pool) (i : Nat) : Option Nat :=
  p.serials[Pool.placeOf (p.turn + .ofNat i) p.serials.length]?

theorem Pool.serials_modify {f : Endpoint → Endpoint} (hf : ∀ e, (f e).serial = e.serial)
    (p : Pool) (n : Nat) : (p.modify n f).serials = p.serials := map_modify hf p n

namespace Rota

/-- What one caller does at once.  The pool is not edited. -/
inductive Move (x : Rota) : Rota → Prop where
  /-- A caller comes, and sees the endpoints that there are. -/
  | look {before after : List Caller} (callers : x.callers = before ++ after) :
      Move x { x with callers := before ++ .looking x.pool.serials :: after }
  /-- A caller that has seen no endpoints goes away. -/
  | leave {before after : List Caller} (callers : x.callers = before ++ .looking [] :: after) :
      Move x { x with callers := before ++ after }
  /-- A caller takes the turn, which gives it an endpoint out of those that it has seen. -/
  | take {before after : List Caller} {view : List Nat} {n : Nat}
      (callers : x.callers = before ++ .looking view :: after)
      (due : view[Pool.placeOf x.pool.turn view.length]? = some n) :
      Move x {
        pool := { x.pool with turn := x.pool.turn + 1 }
        callers := before ++ .chosen n :: after
        picks := x.picks ++ [n] }
  /-- A caller counts its request. -/
  | acquire {before after : List Caller} {n : Nat}
      (callers : x.callers = before ++ .chosen n :: after) :
      Move x { x with
        pool := x.pool.modify n .acquire
        callers := before ++ .underway n :: after }
  /-- What has come of a request is recorded. -/
  | record {n : Nat} (there : .underway n ∈ x.callers) (o : Outcome) (nanos : Nat) :
      Move x { x with pool := x.pool.record n o nanos }
  /-- A request is over. -/
  | release {before after : List Caller} {n : Nat}
      (callers : x.callers = before ++ .underway n :: after) :
      Move x { x with pool := x.pool.release n, callers := before ++ after }

/-- A caller does something, or selects an endpoint without being disturbed. -/
inductive Step (x : Rota) : Rota → Prop where
  | move {y : Rota} (move : Move x y) : Step x y
  | select {q : Pool} {e : Endpoint} (selected : x.pool.select? = some (q, e)) :
      Step x {
        pool := q
        callers := x.callers ++ [.underway e.serial]
        picks := x.picks ++ [e.serial] }

/-- Any number of moves. -/
abbrev Moves : Rota → Rota → Prop := Relation.ReflTransGen Move

/-- Any number of steps. -/
abbrev Steps : Rota → Rota → Prop := Relation.ReflTransGen Step

/-- To select is to look, to take the turn and to count the request. -/
theorem moves_select? {p q : Pool} {e : Endpoint} (h : p.select? = some (q, e))
    (callers : List Caller) (picks : List Nat) :
    Moves ⟨p, callers, picks⟩ ⟨q, callers ++ [.underway e.serial], picks ++ [e.serial]⟩ := by
  obtain ⟨e, he, rfl, rfl⟩ := Pool.select?_eq_some h
  have hdue : p.serials[Pool.placeOf p.turn p.serials.length]? = some e.serial := by
    rw [Pool.serials, List.length_map, List.getElem?_map, he, Option.map_some]
  have hlook := Move.look (x := ⟨p, callers, picks⟩) (List.append_nil callers).symm
  exact ((Relation.ReflTransGen.single hlook).tail (.take rfl hdue)).tail (.acquire rfl)

/-- Every run is one of moves alone. -/
theorem moves_steps {x y : Rota} (h : Steps x y) : Moves x y := by
  induction h with
  | refl => exact .refl
  | tail _ hstep ih =>
    cases hstep with
    | move hmove => exact ih.tail hmove
    | select hselected => exact ih.trans (moves_select? hselected _ _)

/-! ## Turns go round -/

/-- Everyone who has seen some endpoints has seen those that there are.  Nobody else has to be bound:
    a caller that has taken its turn does not look again. -/
def Current (x : Rota) : Prop := ∀ c ∈ x.callers, ∀ view, c = .looking view → view = x.pool.serials

variable {x y z : Rota} {ks : List Nat}

/-- Some endpoints have been selected, each in its turn, and all endpoints are there still. -/
structure Follows (x y : Rota) (ks : List Nat) : Prop where
  serials : y.pool.serials = x.pool.serials
  /-- Every selection has taken one turn; the number may have started over. -/
  turn : y.pool.turn = x.pool.turn + .ofNat ks.length
  picks : y.picks = x.picks ++ ks
  /-- The selections are those that were due from the beginning on. -/
  inTurn : ks.map some = (List.range ks.length).map x.pool.due
  current : y.Current

theorem Follows.refl (h : x.Current) : Follows x x [] :=
  ⟨rfl, (UInt64.add_zero _).symm, (List.append_nil _).symm, rfl, h⟩

/-- What takes no turn changes nothing, whatever becomes of the callers, as long as those who have
    looked have seen all. -/
theorem Follows.of_idle (h : Follows x y ks) (hserials : z.pool.serials = y.pool.serials)
    (hturn : z.pool.turn = y.pool.turn) (hpicks : z.picks = y.picks)
    (hcurrent : ∀ c ∈ z.callers, ∀ view, c = .looking view → view = y.pool.serials) :
    Follows x z ks := by
  refine ⟨hserials.trans h.serials, hturn.trans h.turn, hpicks.trans h.picks, h.inTurn, ?_⟩
  intro c hc view hview
  rw [hserials]
  exact hcurrent c hc view hview

/-- Every move keeps it; only the taking of a turn selects. -/
theorem Follows.move (h : Follows x y ks) (hmove : Move y z) : ∃ ks', Follows x z ks' := by
  have hcurrent := h.current
  unfold Current at hcurrent
  cases hmove with
  | look callers =>
    -- the new caller has seen all, and the others are who they were
    rw [callers] at hcurrent
    refine ⟨ks, h.of_idle rfl rfl rfl ?_⟩
    rw [List.forall_mem_append] at hcurrent ⊢
    exact ⟨hcurrent.1, List.forall_mem_cons.mpr
      ⟨fun view hview => (Caller.looking.inj hview).symm, hcurrent.2⟩⟩
  | leave callers =>
    rw [callers] at hcurrent
    exact ⟨ks, h.of_idle rfl rfl rfl (Lists.forall_mem_without hcurrent)⟩
  | @take before after view n callers due =>
    rw [callers] at hcurrent
    -- the caller has seen the endpoints that there are, so the turn gives the one that is due
    obtain rfl : view = x.pool.serials :=
      (hcurrent _ (by simp) view rfl).trans h.serials
    refine ⟨ks ++ [n], h.serials, ?_, ?_, ?_, ?_⟩
    · show y.pool.turn + 1 = _
      rw [h.turn, List.length_append, List.length_singleton, UInt64.ofNat_add, UInt64.ofNat_one,
        UInt64.add_assoc]
    · show y.picks ++ [n] = _
      rw [h.picks, List.append_assoc]
    · -- the number of the turn is that of the selection
      have hn : x.pool.due ks.length = some n := by
        rw [Pool.due, ← h.turn]
        exact due
      rw [List.length_append, List.length_singleton, List.range_succ, List.map_append, h.inTurn,
        List.map_append, List.map_singleton, List.map_singleton, hn]
    · exact Lists.forall_mem_replaced hcurrent nofun
  | acquire callers =>
    rw [callers] at hcurrent
    exact ⟨ks, h.of_idle (Pool.serials_modify (f := .acquire) (fun _ => rfl) _ _) rfl rfl
      (Lists.forall_mem_replaced hcurrent nofun)⟩
  | record there o nanos =>
    exact ⟨ks, h.of_idle (Pool.serials_modify (f := (·.record o nanos)) (fun _ => rfl) _ _) rfl rfl
      hcurrent⟩
  | release callers =>
    rw [callers] at hcurrent
    exact ⟨ks, h.of_idle (Pool.serials_modify (f := .release) (fun _ => rfl) _ _) rfl rfl
      (Lists.forall_mem_without hcurrent)⟩

/-- All that is selected in a run is selected in turn. -/
theorem Follows.steps (h : x.Current) (hrun : Steps x y) : ∃ ks, Follows x y ks := by
  replace hrun : Moves x y := moves_steps hrun
  induction hrun with
  | refl => exact ⟨[], .refl h⟩
  | tail _ hmove ih =>
    obtain ⟨ks, hks⟩ := ih
    exact hks.move hmove

/-! ## Shares -/

/-- Of what has been selected in turn, every part has been. -/
theorem part_inTurn {before seg after : List Nat} {f : Nat → Option Nat}
    (h : (before ++ seg ++ after).map some = (List.range (before ++ seg ++ after).length).map f) :
    seg.map some = (List.range seg.length).map fun i => f (before.length + i) := by
  rw [List.length_append, List.length_append, List.range_add, List.range_add, List.map_append,
    List.map_append, List.map_append, List.map_append, List.map_map, List.map_map] at h
  obtain ⟨hfront, -⟩ := List.append_inj h (by simp)
  exact (List.append_inj hfront (by simp)).2

/-- The place that a turn gives, as long as turns do not start over. -/
theorem due_eq_some_iff {p : Pool} (hp : p.Distinct) {j b i : Nat} {n : Nat}
    (hj : p.serials[j]? = some n) (hwrap : (p.turn.toNat + b) % 2 ^ 64 + i < 2 ^ 64) :
    p.due (b + i) = some n ↔ ((p.turn.toNat + b) % 2 ^ 64 + i) % p.serials.length = j := by
  have hturn : (p.turn + .ofNat (b + i)).toNat = (p.turn.toNat + b) % 2 ^ 64 + i := by
    rw [UInt64.toNat_add, UInt64.toNat_ofNat']
    omega
  obtain ⟨hlt, -⟩ := List.getElem?_eq_some_iff.mp hj
  have hplace : ((p.turn.toNat + b) % 2 ^ 64 + i) % p.serials.length < p.serials.length :=
    Nat.mod_lt _ (by omega)
  rw [Pool.due, Pool.placeOf, hturn, ← hj]
  exact List.getElem?_inj hplace hp.serials

/-- Selections in a row out of a run, made by `Pool.select?` or by callers who cross each other, as
    long as the number of the turn does not start over: every endpoint is selected as often as it is
    its share, rounded down or up, and once if there are as many selections as endpoints.  There is
    always an endpoint to be selected, and to select it goes on with the run. -/
theorem selections_even (hx : x.pool.Distinct) (hsome : x.pool.endpoints ≠ []) (hcurrent : x.Current)
    (hrun : Steps x y) {before seg after : List Nat}
    (hpicks : y.picks = x.picks ++ (before ++ seg ++ after))
    (hwrap : (x.pool.turn.toNat + before.length) % 2 ^ 64 + seg.length ≤ 2 ^ 64) :
    (∃ q e, y.pool.select? = some (q, e) ∧
      Steps x ⟨q, y.callers ++ [.underway e.serial], y.picks ++ [e.serial]⟩) ∧
    ∀ e ∈ x.pool.endpoints,
      (seg.count e.serial = seg.length / x.pool.endpoints.length ∨
        seg.count e.serial =
          (seg.length + x.pool.endpoints.length - 1) / x.pool.endpoints.length) ∧
      (seg.length = x.pool.endpoints.length → seg.count e.serial = 1) := by
  obtain ⟨ks, hks⟩ := Follows.steps hcurrent hrun
  obtain rfl : ks = before ++ seg ++ after := List.append_cancel_left (hks.picks.symm.trans hpicks)
  have hlength : x.pool.serials.length = x.pool.endpoints.length := List.length_map ..
  refine ⟨?_, fun e he => ?_⟩
  · cases hselect : y.pool.select? with
    | some r => exact ⟨r.1, r.2, rfl, hrun.tail (.select hselect)⟩
    | none =>
      have hnone : y.pool.serials = [] := by
        rw [Pool.serials, (Pool.select?_eq_none _).mp hselect, List.map_nil]
      rw [hks.serials] at hnone
      exact absurd (List.map_eq_nil_iff.mp hnone) hsome
  · -- the endpoint has a place `j`, so it is selected whenever the turn gives the remainder `j`
    obtain ⟨j, hj⟩ : ∃ j, x.pool.serials[j]? = some e.serial :=
      List.getElem?_of_mem (List.mem_map_of_mem he)
    obtain ⟨hlt, -⟩ := List.getElem?_eq_some_iff.mp hj
    have hcount : seg.count e.serial = (List.range seg.length).countP fun i => decide
        (((x.pool.turn.toNat + before.length) % 2 ^ 64 + i) % x.pool.serials.length = j) := by
      rw [← List.count_map_of_injective seg some (Option.some_injective _), part_inTurn hks.inTurn,
        List.count_eq_countP, List.countP_map]
      refine List.countP_congr fun i hi => ?_
      have hi := List.mem_range.mp hi
      rw [Function.comp_apply, beq_iff_eq, decide_eq_true_eq]
      exact due_eq_some_iff hx hj (by omega)
    obtain ⟨v, hv⟩ := count_remainder hlt ((x.pool.turn.toNat + before.length) % 2 ^ 64) seg.length
    rw [hcount, hv, ← hlength]
    have hpos : 0 < x.pool.serials.length := Nat.zero_lt_of_lt hlt
    constructor
    · split
      case isTrue hmore => exact .inr (div_succ_of_mod hpos (Nat.zero_lt_of_lt hmore))
      case isFalse => exact .inl rfl
    · intro hround
      rw [hround, Nat.div_self hpos, Nat.mod_self, if_neg (Nat.not_lt_zero _)]

/-- An endpoint that has not been used. -/
def idle (n : Nat) (name : String) : Endpoint where
  serial := n
  id := name
  url := { scheme := "http", host := some (.name name), path := "/" }
  authority := name ++ ":80"
  basePath := ""

/-- Three endpoints, three turns before the number of the turn starts over. -/
def trio : Pool where
  id := "b"
  settings := {}
  endpoints := [idle 4 "x.test", idle 5 "y.test", idle 6 "z.test"]
  turn := 0xfffffffffffffffd
  nextSerial := 7

/-- Two callers look, the second one takes its turn before the first, and a third one selects before
    either has counted its request. -/
theorem selections_even_crossing : ∃ y, Steps ⟨trio, [], []⟩ y ∧ y.picks = [5, 6, 4] ∧
    ∀ e ∈ trio.endpoints, [5, 6, 4].count e.serial = 1 := by
  have hlook : Move ⟨trio, [], []⟩ ⟨trio, [] ++ .looking [4, 5, 6] :: [], []⟩ := .look rfl
  have hlook' : Move ⟨trio, [.looking [4, 5, 6]], []⟩
      ⟨trio, [.looking [4, 5, 6]] ++ .looking [4, 5, 6] :: [], []⟩ := .look rfl
  have htake : Move ⟨trio, [.looking [4, 5, 6], .looking [4, 5, 6]], []⟩
      ⟨{ trio with turn := 0xfffffffffffffffe }, [.looking [4, 5, 6]] ++ .chosen 5 :: [], [5]⟩ :=
    .take rfl rfl
  have htake' : Move
      ⟨{ trio with turn := 0xfffffffffffffffe }, [.looking [4, 5, 6], .chosen 5], [5]⟩
      ⟨{ trio with turn := 0xffffffffffffffff }, [] ++ .chosen 6 :: [.chosen 5], [5, 6]⟩ :=
    .take rfl rfl
  have hselect := Step.select
    (x := ⟨{ trio with turn := 0xffffffffffffffff }, [.chosen 6, .chosen 5], [5, 6]⟩)
    (e := (idle 4 "x.test").acquire) rfl
  have hlooks := (Relation.ReflTransGen.single (Step.move hlook)).tail (.move hlook')
  have hrun := ((hlooks.tail (.move htake)).tail (.move htake')).tail hselect
  have hdistinct : trio.Distinct := ⟨by decide, by decide, by decide⟩
  have hpicks : [] ++ [5] ++ [6] ++ [4] = [] ++ ([] ++ [5, 6, 4] ++ []) := rfl
  obtain ⟨-, heven⟩ := selections_even (x := ⟨trio, [], []⟩) hdistinct (by decide) nofun
    hrun hpicks (by decide)
  exact ⟨_, hrun, rfl, fun e he => (heven e he).2 rfl⟩

end Rota

end Turnpike.Balance
