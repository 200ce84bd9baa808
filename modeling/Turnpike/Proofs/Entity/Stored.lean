/-
  Stored entities read back.

  An entity is stored as a document and read by a reader that knows defaults, takes fields in any
  order and refuses what it does not know.  What is stored of an entity has to say the entity:
  nothing may be lost, nothing may be filled in by a default, and the reader must not refuse it.

  1. **Records** (`fields?_record`).  A stored entity is an object with just the fields that its
     reader asks for.  Such an object has, under each name that is asked for, the value stored under
     it.  This is shown once, for any list of distinct names; nothing in it depends on the order.

  2. **Values.**  Words and small integers are numbers of a document, and they are read back when
     they are within the bounds of their fields (`word?_ofNat`, `int32?_ofInt`).  So an entity can
     be stored if its numbers are, that is, if they are words and integers of a machine.

  3. **Entities** (`read?_stored`).  There is one lemma for each kind of record, and it is always
     the same: state the fields of the record, rewrite the reader with them, and let `simp` read the
     values with the lemmas for their parts.  A change to the fields of one entity changes one of
     these.

  4. **Gates.**  The settings of a gate are a document of their own, which stands one level deeper
     than where it came from.  They must be a settled value, one that reading does not change, with
     room for the gate around it (`Gate.Storable`).

  5. **Any entity** (`Upsert.Storable`).  What the change feed needs besides is that nothing but
     whole numbers is stored, since fractions could be rounded on the way (`Upsert.Storable.whole`).
-/
import Mathlib.Algebra.Group.Int.Defs
import Turnpike.Entity.Document
import Turnpike.Entity.Stored
import Turnpike.Proofs.Json.RoundTrip

namespace Turnpike.Entity

open Turnpike.Json

/-! ## Records -/

/-- The fields of an object are read under their names. -/
theorem fields?_obj {fields : List (String × Json)} (hnames : (fields.map (·.1)).Nodup)
    (surplus : Bool) : (Json.obj fields).tree.fields? (fields.map (·.1)) surplus =
      some (fields.map fun f => some f.2.tree) := by
  -- every field of an object has a name
  have hgiven : Tree.fieldNames? (fields.map fun f => (some f.1, f.2.tree)) =
      some (fields.map (·.1)) := by
    unfold Tree.fieldNames?
    induction fields with
    | nil => rfl
    | cons f r ih =>
      rw [List.map_cons, List.mapM_cons, ih (List.nodup_cons.mp hnames).2]
      rfl
  -- and none comes twice
  have honce : ((fields.map (·.1)).all fun n => decide ((fields.map (·.1)).count n ≤ 1)) = true := by
    rw [List.all_eq_true]
    intro n _
    exact decide_eq_true (List.nodup_iff_count_le_one.mp hnames n)
  rw [tree, treeFields_eq, Tree.fields?, hgiven]
  dsimp only
  rw [if_pos honce, List.map_map]
  congr 1
  refine List.map_congr_left fun f hf => ?_
  -- a field is looked up by its name
  have hsame : ((·.1 == some f.1) ∘ fun g : String × Json => (some g.1, g.2.tree)) =
      fun g => g.1 == f.1 := by
    funext g
    exact Bool.eq_iff_iff.mpr (by simp)
  rw [Function.comp_apply, List.find?_map, hsame, Lists.find?_key hnames hf]
  rfl

/-- A record with the given names has its values under them. -/
theorem fields?_record (names : List String) (values : List Json) (hnames : names.Nodup)
    (hlength : names.length = values.length) :
    (Json.obj (names.zip values)).tree.fields? names false =
      some (values.map fun v => some v.tree) := by
  have hfst : (names.zip values).map (·.1) = names := List.map_fst_zip (Nat.le_of_eq hlength)
  have hsnd : (names.zip values).map (·.2) = values := List.map_snd_zip (Nat.le_of_eq hlength.symm)
  have hfields := fields?_obj (hfst.symm ▸ hnames) false
  rw [hfst] at hfields
  rw [hfields]
  conv_rhs => rw [← hsnd, List.map_map]
  rfl

/-! ## Values -/

theorem word?_ofNat {n : Nat} (h : n < 2 ^ 64) : word? (Json.ofNat n).tree = some n := if_pos h

/-- An integer of 32 bits is read back, be it negative or not. -/
theorem int32?_ofInt {i : Int} (hlow : -2 ^ 31 ≤ i) (hhigh : i < 2 ^ 31) :
    int32? (Json.ofInt i).tree = some i := by
  unfold Json.ofInt
  -- negative integers are written with a sign before their absolute value
  split
  case isTrue hneg =>
    show (if i.natAbs ≤ 0x80000000 then some (-(i.natAbs : Int)) else none) = some i
    rw [if_pos (by omega)]
    congr 1
    omega
  case isFalse hpos =>
    show (if i.toNat < 0x80000000 then some (i.toNat : Int) else none) = some i
    rw [if_pos (by omega)]
    congr 1
    omega

/-! ## Entities -/

/-- A host is read back. -/
theorem Host.read?_stored (h : Host) : Host.read? h.stored.tree = some h := by
  have hfields : h.stored.tree.fields? _ _ = _ :=
    fields?_record ["name"] [.str h.name] (by decide) rfl
  rw [Host.read?, hfields]
  rfl

/-- An address is read back. -/
theorem Address.read?_stored (a : Address) : Address.read? a.stored.tree = some a := by
  have hfields : a.stored.tree.fields? _ _ = _ :=
    fields?_record ["network", "address"] [.str a.network, .str a.address] (by decide) rfl
  rw [Address.read?, hfields]
  rfl

/-- A listener is read back. -/
theorem Listener.read?_stored (l : Listener) : Listener.read? l.stored.tree = some l := by
  have hfields : l.stored.tree.fields? _ _ = _ :=
    fields?_record ["id", "protocol", "address"] [.str l.id, .str l.protocol, l.address.stored]
      (by decide) rfl
  rw [Listener.read?, hfields]
  simp [withDefault, required, text?, tree, Address.read?_stored]

/-- All numbers in the settings of a backend are of 64 bits. -/
structure BackendSettings.Storable (s : BackendSettings) : Prop where
  readMillis : s.timeouts.readMillis < 2 ^ 64
  dialMillis : s.timeouts.dialMillis < 2 ^ 64
  idleMillis : s.keepAlive.idleMillis < 2 ^ 64
  maxIdlePerHost : s.keepAlive.maxIdlePerHost < 2 ^ 64

/-- The settings of a backend are read back, with the two groups in them. -/
theorem BackendSettings.read?_stored {s : BackendSettings} (h : s.Storable) :
    BackendSettings.read? s.stored.tree = some s := by
  have htimeouts : s.timeouts.stored.tree.fields? _ _ = _ :=
    fields?_record ["read_ms", "dial_ms"] [.ofNat s.timeouts.readMillis, .ofNat s.timeouts.dialMillis]
      (by decide) rfl
  have hkeepAlive : s.keepAlive.stored.tree.fields? _ _ = _ :=
    fields?_record ["idle_ms", "max_idle_per_host"]
      [.ofNat s.keepAlive.idleMillis, .ofNat s.keepAlive.maxIdlePerHost] (by decide) rfl
  have hfields : s.stored.tree.fields? _ _ = _ :=
    fields?_record ["timeouts", "keep_alive"] [s.timeouts.stored, s.keepAlive.stored] (by decide) rfl
  rw [BackendSettings.read?, hfields]
  simp [withDefault, Timeouts.read?, htimeouts, KeepAlive.read?, hkeepAlive, word?_ofNat h.readMillis,
    word?_ofNat h.dialMillis, word?_ofNat h.idleMillis, word?_ofNat h.maxIdlePerHost]

/-- A backend is read back. -/
theorem Backend.read?_stored {b : Backend} (h : b.settings.Storable) :
    Backend.read? b.stored.tree = some b := by
  have hfields : b.stored.tree.fields? _ _ = _ :=
    fields?_record ["id", "settings"] [.str b.id, b.settings.stored] (by decide) rfl
  rw [Backend.read?, hfields]
  simp [withDefault, text?, tree, BackendSettings.read?_stored h]

/-- A server is read back. -/
theorem Server.read?_stored (s : Server) : Server.read? s.stored.tree = some s := by
  have hfields : s.stored.tree.fields? _ _ = _ :=
    fields?_record ["id", "url"] [.str s.id, .str s.url] (by decide) rfl
  rw [Server.read?, hfields]
  rfl

/-- The limit in its group is read back. -/
theorem maxBodyBytes?_stored {n : Nat} (h : n < 2 ^ 64) :
    maxBodyBytes? (storedLimits n).tree = some n := by
  have hfields : (storedLimits n).tree.fields? _ _ = _ :=
    fields?_record ["max_body_bytes"] [.ofNat n] (by decide) rfl
  rw [maxBodyBytes?, hfields]
  simp [withDefault, word?_ofNat h]

/-- The settings of a frontend are read back. -/
theorem FrontendSettings.read?_stored {s : FrontendSettings} (h : s.maxBodyBytes < 2 ^ 64) :
    FrontendSettings.read? s.stored.tree = some s := by
  have hfields : s.stored.tree.fields? _ _ = _ :=
    fields?_record ["pass_host_header", "trust_forward_header", "limits"]
      [.bool s.passHost, .bool s.trustForwarded, storedLimits s.maxBodyBytes] (by decide) rfl
  rw [FrontendSettings.read?, hfields]
  simp [withDefault, flag?, tree, maxBodyBytes?_stored h]

/-- A frontend is read back. -/
theorem Frontend.read?_stored {f : Frontend} (h : f.settings.maxBodyBytes < 2 ^ 64) :
    Frontend.read? f.stored.tree = some f := by
  have hfields : f.stored.tree.fields? _ _ = _ :=
    fields?_record ["id", "route", "backend_id", "settings"]
      [.str f.id, .str f.route, .str f.backendId, f.settings.stored] (by decide) rfl
  rw [Frontend.read?, hfields]
  simp [withDefault, required, text?, tree, FrontendSettings.read?_stored h]

/-- The priority of a gate is of 32 bits, and its settings are a settled value with whole numbers
    that leaves room for the gate around it. -/
structure Gate.Storable (g : Gate) : Prop where
  low : -2 ^ 31 ≤ g.priority
  high : g.priority < 2 ^ 31
  whole : g.settings.Whole
  settled : Settled (nestingLimit - 1) g.settings

/-- A gate is read back, with its settings as they are. -/
theorem Gate.read?_stored {g : Gate} (h : g.Storable) : Gate.read? g.stored.tree = some g := by
  have hfields : g.stored.tree.fields? _ _ = _ :=
    fields?_record ["id", "priority", "type", "middleware"]
      [.str g.id, .ofInt g.priority, .str g.kind, g.settings] (by decide) rfl
  -- the settings are settled, so that reading them leaves them as they are
  have hsettings : any? (nestingLimit - 1) g.settings.tree = some g.settings :=
    h.settled.settle?_tree
  rw [Gate.read?, hfields]
  simp [withDefault, required, text?, tree, int32?_ofInt h.low h.high, hsettings]

/-! ## Any entity -/

/-- The numbers of an entity are within the bounds of its fields, and the settings of a gate can be
    stored. -/
def Upsert.Storable : Upsert → Prop
  | .host _ | .listener _ | .server .. => True
  | .backend b => b.settings.Storable
  | .frontend f => f.settings.maxBodyBytes < 2 ^ 64
  | .gate _ g => g.Storable

theorem whole_ofNat {n : Nat} (h : n < 2 ^ 64) : (Json.ofNat n).Whole := .num (.nat h)

/-- An integer of 32 bits is whole. -/
theorem whole_ofInt {i : Int} (hlow : -2 ^ 31 ≤ i) (hhigh : i < 2 ^ 31) : (Json.ofInt i).Whole := by
  unfold Json.ofInt
  split
  case isTrue => exact .num (.neg (by omega) (by omega))
  case isFalse => exact .num (.nat (by omega))

/-- Nothing but whole numbers is stored. -/
theorem Upsert.Storable.whole {u : Upsert} (h : u.Storable) : u.stored.Whole := by
  cases u with
  | host h => exact .obj (by simp [Whole.str])
  | listener l =>
    have haddress : l.address.stored.Whole := .obj (by simp [Whole.str])
    exact .obj (by simp [Whole.str, haddress])
  | backend b =>
    have htimeouts : b.settings.timeouts.stored.Whole :=
      .obj (by simp [whole_ofNat h.readMillis, whole_ofNat h.dialMillis])
    have hkeepAlive : b.settings.keepAlive.stored.Whole :=
      .obj (by simp [whole_ofNat h.idleMillis, whole_ofNat h.maxIdlePerHost])
    have hsettings : b.settings.stored.Whole := .obj (by simp [htimeouts, hkeepAlive])
    exact .obj (by simp [Whole.str, hsettings])
  | server parent s => exact .obj (by simp [Whole.str])
  | frontend f =>
    have hlimits : (storedLimits f.settings.maxBodyBytes).Whole := .obj (by simp [whole_ofNat h])
    have hsettings : f.settings.stored.Whole := .obj (by simp [Whole.bool, hlimits])
    exact .obj (by simp [Whole.str, hsettings])
  | gate parent g =>
    have hgate : g.Storable := h
    exact .obj (by simp [Whole.str, whole_ofInt hgate.low hgate.high, hgate.whole])

end Turnpike.Entity
