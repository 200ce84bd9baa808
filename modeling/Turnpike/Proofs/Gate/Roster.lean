/-
  A chain as a roster.

  A chain is a sorted list that calls edit, and they may fail.  Who uses it should not have to think
  of a list: what can be told of it is an entry for each identifier, and an order that does not
  depend on how the entries have come there.

  1. **Rosters** (`Roster`).  A roster tells which entry an identifier has.  What calls make of a
     chain can be told on a roster, without any order: an entry is put under its identifier, or an
     identifier is struck out, and a call that has no place fails (`Roster.call`).

  2. **The invariant** (`Keeps`).  The chain is in order, and its gates are the entries of the
     roster.  One lemma for putting and one for removing are all that is needed: to add a gate, or
     to replace one, is to put it where that has a place (`add_of_free`, `update_of_taken`).

  3. **One call** (`Keeps.call`).  The chain answers it as the roster does, and both come to the
     same.  It fails just when it has no place, which can be seen from the identifiers alone
     (`exists_error_iff`).

  4. **All calls** (`keeps_roster`).  The order is no part of the roster, but follows from it: the
     entries stand in strict order of their priorities and, where these are equal, of the bytes of
     their identifiers (`Ordered.precedes`).
-/
import Mathlib.Data.List.Induction
import Turnpike.Proofs.Gate.Chain
import Turnpike.Proofs.Text.ByteOrder

namespace Turnpike.Gate

open Turnpike.Text

variable {ι : Type}

/-! ## Calls -/

/-- A call that edits a chain. -/
inductive Call (ι : Type) where
  | add (e : Entry ι)
  | update (e : Entry ι)
  | upsert (e : Entry ι)
  | remove (id : String)

/-- The call has no place where these identifiers are taken. -/
def Call.Misplaced (taken : List String) : Call ι → Prop
  | .add e => e.id ∈ taken
  | .update e => e.id ∉ taken
  | .upsert _ => False
  | .remove id => id ∉ taken

/-- The entry that each identifier has. -/
abbrev Roster (ι : Type) := String → Option (Entry ι)

namespace Roster

/-- The roster without entries. -/
def empty : Roster ι := fun _ => none

/-- The roster with an entry under its identifier. -/
def put (m : Roster ι) (e : Entry ι) : Roster ι := Function.update m e.id (some e)

/-- What a call answers, and the roster after it. -/
def call (m : Roster ι) : Call ι → Result Unit × Roster ι
  | .add e =>
    match m e.id with
    | some _ => (.error (.alreadyExists ("middleware " ++ e.id)), m)
    | none => (.ok (), m.put e)
  | .update e =>
    match m e.id with
    | some _ => (.ok (), m.put e)
    | none => (.error (.notFound ("middleware " ++ e.id)), m)
  | .upsert e => (.ok (), m.put e)
  | .remove id =>
    match m id with
    | some _ => (.ok (), Function.update m id none)
    | none => (.error (.notFound ("middleware " ++ id)), m)

/-- The roster after these calls. -/
def ofCalls (calls : List (Call ι)) : Roster ι := calls.foldl (fun m k => (m.call k).2) empty

end Roster

/-- The entry stands before the other by its priority, or by the bytes of its identifier. -/
def Entry.Precedes (a b : Entry ι) : Prop :=
  a.priority < b.priority ∨ a.priority = b.priority ∧ Utf8.bytes a.id < Utf8.bytes b.id

namespace Chain

/-- The chain that a call makes, unless it fails. -/
def call (c : Chain ι) : Call ι → Result (Chain ι)
  | .add e => c.add e
  | .update e => c.update e
  | .upsert e => .ok (c.upsert e)
  | .remove id => c.remove id

/-- What a call answers. -/
def answer (c : Chain ι) (k : Call ι) : Result Unit := (c.call k).map fun _ => ()

/-- The chain in force after a call. -/
def after (c : Chain ι) (k : Call ι) : Chain ι :=
  match c.call k with
  | .ok d => d
  | .error _ => c

/-- The chain in force after these calls. -/
def ofCalls (calls : List (Call ι)) : Chain ι := calls.foldl after empty

variable {c d : Chain ι} {m : Roster ι}

/-! ## Order -/

/-- An identifier is taken when a gate answers to it. -/
theorem mem_ids_iff {id : String} : id ∈ c.ids ↔ (c.get? id).isSome := by
  unfold ids get?
  rw [List.find?_isSome, List.mem_map]
  constructor
  · rintro ⟨e, he, rfl⟩
    exact ⟨e, he, beq_self_eq_true e.id⟩
  · rintro ⟨e, he, hid⟩
    exact ⟨e, he, beq_iff_eq.mp hid⟩

/-- No two gates are level. -/
theorem Ordered.precedes (h : c.Ordered) : c.entries.Pairwise Entry.Precedes := by
  have hsorted : c.entries.Pairwise fun a b => before a.label b.label :=
    List.pairwise_map.mp h.sorted
  have hdistinct : c.entries.Pairwise fun a b => a.id ≠ b.id := List.pairwise_map.mp h.distinct
  -- level entries would have one identifier
  refine hsorted.imp₂ ?_ hdistinct
  rintro a b (hlt | ⟨heq, hle⟩) hne
  · exact .inl hlt
  · exact .inr ⟨heq, Utf8.bytes_lt_iff.mpr (Std.lt_of_le_of_ne hle hne)⟩

/-! ## One call -/

/-- The gates of the chain are the entries of the roster. -/
structure Keeps (c : Chain ι) (m : Roster ι) : Prop where
  ordered : c.Ordered
  get? : ∀ id, c.get? id = m id

theorem Keeps.empty : (empty : Chain ι).Keeps Roster.empty where
  ordered := .empty
  get? := fun _ => rfl

/-- Putting a gate puts it on the roster. -/
theorem Keeps.upsert (h : c.Keeps m) (e : Entry ι) : (c.upsert e).Keeps (m.put e) where
  ordered := h.ordered.upsert e
  get? := by
    intro id
    rw [h.ordered.get?_upsert, Roster.put, Function.update_apply, h.get?]

/-- Removing one strikes it out. -/
theorem Keeps.remove (h : c.Keeps m) {id : String} (hd : c.remove id = .ok d) :
    d.Keeps (Function.update m id none) where
  ordered := (h.ordered.remove_eq_ok hd).1
  get? := by
    intro other
    rw [h.ordered.get?_remove hd, Function.update_apply, h.get?]

/-- To add a gate, or to replace one, is to put it, where that has a place. -/
theorem add_of_free {e : Entry ι} (h : c.get? e.id = none) : c.add e = .ok (c.upsert e) := by
  rw [add, Chain.upsert, h]

theorem update_of_taken {e f : Entry ι} (h : c.get? e.id = some f) :
    c.update e = .ok (c.upsert e) := by
  rw [update, Chain.upsert, h]

theorem exists_remove {id : String} {e : Entry ι} (h : c.get? id = some e) :
    ∃ d, c.remove id = .ok d := by
  rw [Chain.remove, h]
  exact ⟨_, rfl⟩

theorem after_of_ok {k : Call ι} (h : c.call k = .ok d) : c.after k = d ∧ c.answer k = .ok () := by
  rw [after, answer, h]
  exact ⟨rfl, rfl⟩

theorem after_of_error {k : Call ι} {err : Error} (h : c.call k = .error err) :
    c.after k = c ∧ c.answer k = .error err := by
  rw [after, answer, h]
  exact ⟨rfl, rfl⟩

/-- After a call that succeeds, the chain keeps what it should. -/
theorem Keeps.done (h : d.Keeps m) {k : Call ι} (hcall : c.call k = .ok d) :
    (c.after k).Keeps m ∧ c.answer k = .ok () := by
  obtain ⟨hafter, hanswer⟩ := after_of_ok hcall
  rw [hafter]
  exact ⟨h, hanswer⟩

/-- After one that fails, it keeps what it has kept. -/
theorem Keeps.refused (h : c.Keeps m) {k : Call ι} {err : Error} (hcall : c.call k = .error err) :
    (c.after k).Keeps m ∧ c.answer k = .error err := by
  obtain ⟨hafter, hanswer⟩ := after_of_error hcall
  rw [hafter]
  exact ⟨h, hanswer⟩

/-- A call is answered by the chain and by the roster alike, and makes of them the same. -/
theorem Keeps.call (h : c.Keeps m) (k : Call ι) :
    (c.after k).Keeps (m.call k).2 ∧ c.answer k = (m.call k).1 := by
  cases k with
  -- in each case the roster has the entry, or it has none
  | add e =>
    rw [Roster.call, ← h.get? e.id]
    cases hget : c.get? e.id with
    | some f => exact h.refused (by rw [Chain.call, add, hget])
    | none => exact (h.upsert e).done (add_of_free hget)
  | update e =>
    rw [Roster.call, ← h.get? e.id]
    cases hget : c.get? e.id with
    | some f => exact (h.upsert e).done (update_of_taken hget)
    | none => exact h.refused (by rw [Chain.call, update, hget])
  | upsert e => exact (h.upsert e).done rfl
  | remove id =>
    rw [Roster.call, ← h.get? id]
    cases hget : c.get? id with
    | some f =>
      obtain ⟨d, hd⟩ := exists_remove hget
      exact (h.remove hd).done hd
    | none => exact h.refused (by rw [Chain.call, Chain.remove, hget])

/-- A call fails when it has no place, and only then. -/
theorem exists_error_iff (c : Chain ι) (k : Call ι) :
    (∃ err, c.answer k = .error err) ↔ k.Misplaced c.ids := by
  cases k with
  | add e =>
    rw [Call.Misplaced, mem_ids_iff, answer, call, add]
    cases c.get? e.id with
    | some f => exact iff_of_true ⟨_, rfl⟩ rfl
    | none => exact iff_of_false nofun nofun
  | update e =>
    rw [Call.Misplaced, mem_ids_iff, answer, call, update]
    cases c.get? e.id with
    | some f => exact iff_of_false nofun (· rfl)
    | none => exact iff_of_true ⟨_, rfl⟩ nofun
  | upsert e => exact iff_of_false nofun id
  | remove id =>
    rw [Call.Misplaced, mem_ids_iff, answer, call, remove]
    cases c.get? id with
    | some f => exact iff_of_false nofun (· rfl)
    | none => exact iff_of_true ⟨_, rfl⟩ nofun

/-! ## All calls -/

/-- Whatever the calls were, the chain keeps the roster that they make. -/
theorem keeps_ofCalls (calls : List (Call ι)) : (ofCalls calls).Keeps (Roster.ofCalls calls) := by
  -- from the end: the last call comes to what the others have made
  induction calls using List.reverseRecOn with
  | nil => exact .empty
  | append_singleton calls k ih =>
    have hchain : ofCalls (calls ++ [k]) = (ofCalls calls).after k := List.foldl_concat ..
    have hroster : Roster.ofCalls (calls ++ [k]) = ((Roster.ofCalls calls).call k).2 :=
      List.foldl_concat ..
    rw [hchain, hroster]
    exact (ih.call k).1

/-- After any calls, those that failed among them, the gates of a chain have distinct identifiers and
    stand in strict order of their priorities and of the bytes of their identifiers; they are the
    entries of the roster that the same calls make.  The next call is answered as the roster answers
    it; it fails just when it has no place, and then the chain stays as it is. -/
theorem keeps_roster (calls : List (Call ι)) :
    (ofCalls calls).ids.Nodup ∧ (ofCalls calls).entries.Pairwise Entry.Precedes ∧
    (∀ id e, Roster.ofCalls calls id = some e ↔ e ∈ (ofCalls calls).entries ∧ e.id = id) ∧
    ∀ k, (ofCalls calls).answer k = ((Roster.ofCalls calls).call k).1 ∧
      ((∃ err, (ofCalls calls).answer k = .error err) ↔ k.Misplaced (ofCalls calls).ids) ∧
      ((∃ err, (ofCalls calls).answer k = .error err) → ofCalls (calls ++ [k]) = ofCalls calls) := by
  have h := keeps_ofCalls calls
  refine ⟨h.ordered.distinct, h.ordered.precedes, ?_, ?_⟩
  · intro id e
    rw [← h.get?, h.ordered.get?_eq_some]
  · intro k
    refine ⟨(h.call k).2, exists_error_iff _ k, ?_⟩
    rintro ⟨err, herr⟩
    have hlast : ofCalls (calls ++ [k]) = (ofCalls calls).after k := List.foldl_concat ..
    rw [hlast]
    cases hcall : (ofCalls calls).call k with
    | ok d =>
      rw [(after_of_ok hcall).2] at herr
      cases herr
    | error => exact (after_of_error hcall).1

end Chain

end Turnpike.Gate
