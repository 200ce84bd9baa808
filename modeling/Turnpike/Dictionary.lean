/-
  Dictionaries — values under string keys, in the order of the keys.

  Keys compare character by character, which is also the order of their bytes.  The order is part
  of the type, so two dictionaries that answer every look-up alike are equal.

  `put` and `drop` are the operations on plain lists of pairs; the first makes the lists ordered,
  and both keep them so.
-/

namespace Turnpike

/-! ## Lists of pairs -/

namespace Pairs

variable {α : Type}

/-- The pairs stand in the order of their keys, each key once. -/
def Ordered (l : List (String × α)) : Prop := l.Pairwise fun a b => a.1 < b.1

/-- The value under a key. -/
def find? (key : String) (l : List (String × α)) : Option α :=
  (l.find? (·.1 == key)).map (·.2)

/-- The pairs with one more, in its place; a pair with the same key gives way. -/
def put (key : String) (v : α) : List (String × α) → List (String × α)
  | [] => [(key, v)]
  | (k, w) :: r =>
    if key < k then (key, v) :: (k, w) :: r
    else if key = k then (key, v) :: r
    else (k, w) :: put key v r

/-- The pairs without that key. -/
def drop (key : String) (l : List (String × α)) : List (String × α) := l.filter (·.1 != key)

theorem mem_of_mem_put {key : String} {v : α} {l : List (String × α)} {p : String × α}
    (h : p ∈ put key v l) : p = (key, v) ∨ p ∈ l := by
  induction l with
  | nil => simpa [put] using h
  | cons hd tl ih => obtain ⟨k, w⟩ := hd; grind [put]

theorem find?_put_self (key : String) (v : α) (l : List (String × α)) :
    find? key (put key v l) = some v := by
  induction l with
  | nil => simp [put, find?]
  | cons hd tl ih => obtain ⟨k, w⟩ := hd; grind [put, find?]

theorem find?_put_ne {key other : String} (v : α) (l : List (String × α)) (h : other ≠ key) :
    find? other (put key v l) = find? other l := by
  induction l with
  | nil => simp [put, find?, Ne.symm h]
  | cons hd tl ih => obtain ⟨k, w⟩ := hd; grind [put, find?]

theorem Ordered.put {l : List (String × α)} (h : Ordered l) (key : String) (v : α) :
    Ordered (Pairs.put key v l) := by
  induction l with
  | nil => simp [Pairs.put, Ordered]
  | cons hd tl ih =>
    obtain ⟨k, w⟩ := hd
    obtain ⟨hk, ht⟩ := List.pairwise_cons.mp h
    rw [Pairs.put]
    split
    case isTrue hlt =>
      refine List.pairwise_cons.mpr ⟨fun p hp => ?_, h⟩
      rcases List.mem_cons.mp hp with rfl | hp
      · exact hlt
      · exact String.lt_trans hlt (hk p hp)
    case isFalse hlt =>
      split
      case isTrue he => subst he; exact List.pairwise_cons.mpr ⟨hk, ht⟩
      case isFalse he =>
        refine List.pairwise_cons.mpr ⟨fun p hp => ?_, ih ht⟩
        rcases mem_of_mem_put hp with rfl | hp
        · exact Std.lt_of_le_of_ne (Std.not_lt.mp hlt) (Ne.symm he)
        · exact hk p hp

theorem Ordered.map {β : Type} {l : List (String × α)} (h : Ordered l) (f : α → β) :
    Ordered (l.map fun e => (e.1, f e.2)) := List.pairwise_map.mpr h

theorem Ordered.drop {l : List (String × α)} (h : Ordered l) (key : String) :
    Ordered (Pairs.drop key l) := List.Pairwise.filter _ h

end Pairs

/-! ## Dictionaries -/

/-- Values under string keys. -/
structure Dictionary (α : Type) where
  entries : List (String × α)
  ordered : Pairs.Ordered entries

namespace Dictionary

variable {α : Type}

/-- The dictionary without keys. -/
def empty : Dictionary α := ⟨[], List.Pairwise.nil⟩

instance : Inhabited (Dictionary α) := ⟨empty⟩

/-- The value under a key. -/
def get? (d : Dictionary α) (key : String) : Option α := Pairs.find? key d.entries

/-- Is there a value under the key? -/
def contains (d : Dictionary α) (key : String) : Bool := (d.get? key).isSome

/-- The dictionary with a value put under a key, in place of any other. -/
def insert (d : Dictionary α) (key : String) (v : α) : Dictionary α :=
  ⟨Pairs.put key v d.entries, d.ordered.put key v⟩

/-- The dictionary without a key. -/
def erase (d : Dictionary α) (key : String) : Dictionary α :=
  ⟨Pairs.drop key d.entries, d.ordered.drop key⟩

/-- The dictionary with the value under a key changed, if there is one. -/
def modify (d : Dictionary α) (key : String) (f : α → α) : Dictionary α :=
  match d.get? key with
  | some v => d.insert key (f v)
  | none => d

/-- The dictionary with every value changed. -/
def mapValues {β : Type} (f : α → β) (d : Dictionary α) : Dictionary β :=
  ⟨d.entries.map fun e => (e.1, f e.2), d.ordered.map f⟩

/-- The keys in order. -/
def keys (d : Dictionary α) : List String := d.entries.map (·.1)

/-- The values in the order of their keys. -/
def values (d : Dictionary α) : List α := d.entries.map (·.2)

/-- The number of keys. -/
def size (d : Dictionary α) : Nat := d.entries.length

/-- The entries whose key passes a test. -/
def filterKeys (d : Dictionary α) (p : String → Bool) : List (String × α) :=
  d.entries.filter fun e => p e.1

/-- The dictionary of a list of pairs, of which the last one of each key counts. -/
def ofList (l : List (String × α)) : Dictionary α :=
  l.foldl (fun d (k, v) => d.insert k v) empty

@[simp] theorem get?_empty (key : String) : (empty : Dictionary α).get? key = none := rfl

@[simp] theorem get?_insert_self (d : Dictionary α) (key : String) (v : α) :
    (d.insert key v).get? key = some v := Pairs.find?_put_self key v d.entries

theorem get?_insert_ne (d : Dictionary α) {key other : String} (v : α) (h : other ≠ key) :
    (d.insert key v).get? other = d.get? other := Pairs.find?_put_ne v d.entries h

@[simp] theorem get?_erase_self (d : Dictionary α) (key : String) :
    (d.erase key).get? key = none := by
  simp [get?, erase, Pairs.find?, Pairs.drop, List.find?_eq_none]

theorem get?_erase_ne (d : Dictionary α) {key other : String} (h : other ≠ key) :
    (d.erase key).get? other = d.get? other := by
  simp only [get?, erase, Pairs.find?, Pairs.drop]
  congr 1
  rw [List.find?_filter]
  congr 1
  funext p
  by_cases hp : p.1 = other <;> simp [hp, h]

end Dictionary

end Turnpike
