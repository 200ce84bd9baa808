/-
  The router as a list of rows.

  A router keeps its entries twice, in a table and in a trie, and finds them by positions in the
  table.  All of this is for speed.  What calls make of a router can be told without it, on a plain
  list: a row is a pattern with its target, and its key is the canonical form of the pattern.

  1. **The list** (`Rows.call`).  A route is added at the end, struck out, or written over, and the
     keys say which one is meant.  The answers are told as well, with the texts of all errors.

  2. **One call** (`call_ofRows`).  A call does to the router of some rows what it does to the rows,
     for each kind of call.  A table is searched for the first entry of a key, a list of rows for
     all of them; it is the same as long as no key occurs twice.  A replacement is refused when its
     key is taken by another row, where the router compares positions (`taken_iff`).

  3. **The trie** is part of this.  Inserting into the trie makes the one that would be built from
     the longer list (`push_ofRows`), because building is inserting, one after the other.

  4. **Histories** (`behaves_as_rows`).  So whatever the calls were, the router holds the rows that
     the same calls make of an empty list, answers the next call as the list does, and finds what a
     new router finds to which the rows were added one after the other.
-/
import Mathlib.Data.List.Induction
import Mathlib.Data.List.InsertIdx
import Turnpike.Proofs.Route.Precedence

namespace Turnpike.Route

variable {α : Type}

/-! ## Rows -/

/-- A pattern with its target. -/
structure Row (α : Type) where
  pattern : Pattern
  target : α

namespace Row

/-- The key of a row. -/
def key (row : Row α) : String := row.pattern.canonical

/-- The entry of a row. -/
def entry (row : Row α) : Entry α := .ofPattern row.pattern row.target

/-- Is this the row that an expression names?  One that is not well formed names none. -/
def namedBy (s : String) (row : Row α) : Bool :=
  (Pattern.parse s).toOption.any fun p => row.key == p.canonical

/-- The expression and the target are those of the row. -/
def SpelledBy (route : String × α) (row : Row α) : Prop :=
  Pattern.parse route.1 = .ok row.pattern ∧ route.2 = row.target

end Row

/-- Rows in the order of their registration. -/
abbrev Rows (α : Type) := List (Row α)

namespace Rows

/-- What a call answers, and the rows after it.  The answer to a removal is whether there was
    something to remove. -/
def call (rows : Rows α) : Edit α → Result Bool × Rows α
  | .add s target =>
    match Pattern.parse s with
    | .error f => (.error (.syntaxError s f.message), rows)
    | .ok p =>
      if p.canonical ∈ rows.map Row.key then (.error (.alreadyExists ("route " ++ s)), rows)
      else (.ok true, rows ++ [⟨p, target⟩])
  | .remove s => (.ok (rows.any (Row.namedBy s)), rows.filter (!Row.namedBy s ·))
  | .replace old new target =>
    match Pattern.parse new with
    | .error f => (.error (.syntaxError new f.message), rows)
    | .ok p =>
      if ∃ row ∈ rows, row.key = p.canonical ∧ Row.namedBy old row = false then
        (.error (.alreadyExists ("route " ++ new)), rows)
      else if rows.any (Row.namedBy old) then
        (.ok true, rows.map fun row => if Row.namedBy old row then ⟨p, target⟩ else row)
      else (.ok true, rows ++ [⟨p, target⟩])

/-- The rows after these calls. -/
def ofEdits (edits : List (Edit α)) : Rows α := edits.foldl (fun rows c => (rows.call c).2) []

end Rows

namespace Router

/-- What a call answers. -/
def answer (r : Router α) : Edit α → Result Bool
  | .add s target => (r.add s target).map fun _ => true
  | .remove s => .ok (r.remove? s).isSome
  | .replace old new target => (r.replace old new target).map fun _ => true

/-- The rows of a router. -/
def rows (r : Router α) : Rows α := r.entries.map fun e => ⟨e.pattern, e.target⟩

/-- The router of these rows. -/
def ofRows (rows : Rows α) : Router α := ofEntries (rows.map Row.entry)

variable {r : Router α} {s old new : String} {p : Pattern} {target : α} {rows : Rows α}

@[simp] theorem rows_ofRows (rows : Rows α) : (ofRows rows).rows = rows := by
  show (rows.map Row.entry).map _ = rows
  rw [List.map_map]
  exact List.map_id rows

/-! ## Places and keys -/

/-- The place of a key is that of the first row with it. -/
theorem position?_ofRows (rows : Rows α) (k : String) :
    (ofRows rows).position? k = rows.findIdx? (·.key == k) := by
  show (rows.map Row.entry).findIdx? (·.key == k) = _
  rw [List.findIdx?_map]
  rfl

/-- The place of an expression is that of the first row that it names. -/
theorem placeOf?_ofRows (rows : Rows α) (s : String) :
    (ofRows rows).placeOf? s = rows.findIdx? (Row.namedBy s) := by
  unfold placeOf? Row.namedBy
  split
  case h_1 e he =>
    rw [he]
    exact (List.findIdx?_eq_none_iff.mpr fun row _ => rfl).symm
  case h_2 p hp =>
    rw [hp]
    exact position?_ofRows rows p.canonical

/-- A row is inserted into the trie as it would be when the trie is built. -/
theorem push_ofRows (rows : Rows α) (row : Row α) :
    (ofRows rows).push row.entry = ofRows (rows ++ [row]) := by
  unfold ofRows push ofEntries trieOf
  rw [List.map_append, List.foldl_append]
  rfl

/-! ## Calls -/

/-- An expression names one row at most. -/
theorem namedBy_unique (hkeys : (rows.map Row.key).Nodup) (s : String) :
    rows.Pairwise fun a b => Row.namedBy s a = true → Row.namedBy s b = false := by
  rw [List.Nodup, List.pairwise_map] at hkeys
  refine hkeys.imp fun {a b} hne ha => ?_
  unfold Row.namedBy at ha ⊢
  cases hp : Pattern.parse s with
  | error f => rfl
  | ok p =>
    rw [hp] at ha
    have hak : a.key = p.canonical := beq_iff_eq.mp ha
    show (b.key == p.canonical) = false
    rw [← hak]
    exact beq_false_of_ne hne.symm

/-- An expression names the rows with its key. -/
theorem namedBy_iff (hp : Pattern.parse s = .ok p) (row : Row α) :
    Row.namedBy s row = true ↔ row.key = p.canonical := by
  unfold Row.namedBy
  rw [hp]
  exact beq_iff_eq

/-- A key has a place when some row has it. -/
theorem isSome_position?_iff {k : String} :
    ((ofRows rows).position? k).isSome = true ↔ k ∈ rows.map Row.key := by
  rw [position?_ofRows, List.findIdx?_isSome, List.any_eq_true, List.mem_map]
  constructor
  · rintro ⟨row, hrow, hk⟩
    exact ⟨row, hrow, by simpa using hk⟩
  · rintro ⟨row, hrow, rfl⟩
    exact ⟨row, hrow, beq_self_eq_true _⟩

/-- What is not well formed is refused with the text of the fault. -/
theorem compile_eq_error {f : Fault} (hs : Pattern.parse s = .error f) :
    compile s = .error (.syntaxError s f.message) := by
  unfold compile
  rw [hs]

/-- Adding a route is adding a row. -/
theorem call_add (rows : Rows α) (s : String) (target : α) :
    (ofRows rows).answer (.add s target) = (rows.call (.add s target)).1 ∧
      (ofRows rows).edit (.add s target) = ofRows (rows.call (.add s target)).2 := by
  rw [answer, edit, add, Rows.call]
  cases hs : Pattern.parse s with
  | error f =>
    rw [compile_eq_error hs]
    exact ⟨rfl, rfl⟩
  | ok p =>
    rw [compile_eq_ok.mpr hs]
    dsimp only
    -- the key is taken or free, in the table as in the list
    cases hplace : (ofRows rows).position? p.canonical with
    | some i =>
      have htaken : p.canonical ∈ rows.map Row.key :=
        isSome_position?_iff.mp (by rw [hplace]; rfl)
      rw [if_pos htaken]
      exact ⟨rfl, rfl⟩
    | none =>
      have hfree : p.canonical ∉ rows.map Row.key := fun htaken => by
        have hsome := isSome_position?_iff.mpr htaken
        rw [hplace] at hsome
        cases hsome
      rw [if_neg hfree]
      exact ⟨rfl, push_ofRows rows ⟨p, target⟩⟩

/-- Removing a route is striking out its row. -/
theorem call_remove (hkeys : (rows.map Row.key).Nodup) (s : String) :
    (ofRows rows).answer (.remove s) = (rows.call (.remove s)).1 ∧
      (ofRows rows).edit (.remove s) = ofRows (rows.call (.remove s)).2 := by
  have herase := Lists.eraseP_eq_filter (namedBy_unique hkeys s)
  have hany : rows.any (Row.namedBy s) = ((ofRows rows).placeOf? s).isSome := by
    rw [placeOf?_ofRows, List.findIdx?_isSome]
  rw [List.eraseP_eq_eraseIdx, ← placeOf?_ofRows] at herase
  rw [answer, edit, remove?, Rows.call, hany, ← herase, placeOf?]
  cases hs : Pattern.parse s with
  | error f => exact ⟨rfl, rfl⟩
  | ok p =>
    dsimp only
    cases hi : (ofRows rows).position? p.canonical with
    | none => exact ⟨rfl, rfl⟩
    | some i =>
      refine ⟨rfl, ?_⟩
      show ofEntries ((rows.map Row.entry).eraseIdx i) = ofEntries ((rows.eraseIdx i).map Row.entry)
      rw [List.eraseIdx_map]

theorem namedBy_congr {a b : Row α} (h : a.key = b.key) (s : String) :
    Row.namedBy s a = Row.namedBy s b := by
  rw [Row.namedBy, Row.namedBy, h]

/-- The new key is that of a row which the old expression does not name. -/
theorem taken_iff (rows : Rows α) (old : String) (p : Pattern) :
    (((ofRows rows).position? p.canonical).isSome &&
        (ofRows rows).position? p.canonical != (ofRows rows).placeOf? old) = true ↔
      ∃ row ∈ rows, row.key = p.canonical ∧ Row.namedBy old row = false := by
  rw [Bool.and_eq_true, isSome_position?_iff, bne_iff_ne, position?_ofRows, placeOf?_ofRows,
    List.mem_map]
  constructor
  · rintro ⟨⟨row, hrow, hkey⟩, hne⟩
    refine ⟨row, hrow, hkey, ?_⟩
    by_contra hnamed
    -- otherwise the old expression and the new one name the same rows
    refine hne (congrArg (rows.findIdx? ·) (funext fun other => ?_))
    rw [Bool.not_eq_false] at hnamed
    by_cases hother : other.key = p.canonical
    · rw [namedBy_congr (hother.trans hkey.symm), hnamed]
      exact beq_iff_eq.mpr hother
    · rw [beq_false_of_ne hother]
      cases hold : Pattern.parse old with
      | error f => rw [Row.namedBy, hold]; rfl
      | ok q =>
        rw [namedBy_iff hold] at hnamed
        refine (Bool.eq_false_iff.mpr fun heq => hother ?_).symm
        rw [namedBy_iff hold] at heq
        rw [heq, ← hnamed, hkey]
  · rintro ⟨row, hrow, hkey, hnamed⟩
    refine ⟨⟨row, hrow, hkey⟩, fun heq => ?_⟩
    -- the other way about, some row has the key, so the key has a place
    obtain ⟨i, hi⟩ : ∃ i, rows.findIdx? (·.key == p.canonical) = some i := by
      rw [← Option.isSome_iff_exists, List.findIdx?_isSome, List.any_eq_true]
      exact ⟨row, hrow, beq_iff_eq.mpr hkey⟩
    -- the row in that place has both the key and the name
    obtain ⟨hlt, hk, -⟩ := List.findIdx?_eq_some_iff_getElem.mp hi
    obtain ⟨_, hn, -⟩ := List.findIdx?_eq_some_iff_getElem.mp (heq ▸ hi)
    rw [namedBy_congr (hkey.trans (beq_iff_eq.mp hk).symm), hn] at hnamed
    cases hnamed

/-- Replacing a route is writing over its row, or adding one. -/
theorem call_replace (hkeys : (rows.map Row.key).Nodup) (old new : String) (target : α) :
    (ofRows rows).answer (.replace old new target) = (rows.call (.replace old new target)).1 ∧
      (ofRows rows).edit (.replace old new target) =
        ofRows (rows.call (.replace old new target)).2 := by
  rw [answer, edit, replace, Rows.call]
  cases hs : Pattern.parse new with
  | error f =>
    rw [compile_eq_error hs]
    exact ⟨rfl, rfl⟩
  | ok p =>
    rw [compile_eq_ok.mpr hs]
    dsimp only
    by_cases htaken : ∃ row ∈ rows, row.key = p.canonical ∧ Row.namedBy old row = false
    · rw [if_pos ((taken_iff rows old p).mpr htaken), if_pos htaken]
      exact ⟨rfl, rfl⟩
    · rw [if_neg (mt (taken_iff rows old p).mp htaken), if_neg htaken]
      have hany : rows.any (Row.namedBy old) = ((ofRows rows).placeOf? old).isSome := by
        rw [placeOf?_ofRows, List.findIdx?_isSome]
      rw [hany]
      cases hplace : (ofRows rows).placeOf? old with
      | none =>
        refine ⟨rfl, ?_⟩
        show ofEntries (rows.map Row.entry ++ [Row.entry ⟨p, target⟩]) =
          ofEntries ((rows ++ ([⟨p, target⟩] : Rows α)).map Row.entry)
        rw [List.map_append]
        rfl
      | some i =>
        refine ⟨rfl, ?_⟩
        have hset := Lists.set_eq_map (namedBy_unique hkeys old)
          ((placeOf?_ofRows rows old).symm.trans hplace) (⟨p, target⟩ : Row α)
        show ofEntries ((rows.map Row.entry).set i (Row.entry ⟨p, target⟩)) = ofRows (rows.map _)
        rw [← List.map_set, hset]
        rfl

/-- A call does to a router what it does to its rows. -/
theorem call_ofRows (hkeys : (rows.map Row.key).Nodup) (c : Edit α) :
    (ofRows rows).answer c = (rows.call c).1 ∧ (ofRows rows).edit c = ofRows (rows.call c).2 := by
  cases c with
  | add s target => exact call_add rows s target
  | remove s => exact call_remove hkeys s
  | replace old new target => exact call_replace hkeys old new target

/-! ## Histories -/

/-- The keys of the entries are those of the rows. -/
theorem keys_ofRows (rows : Rows α) :
    (ofRows rows).entries.map Entry.key = rows.map Row.key := by
  show (rows.map Row.entry).map Entry.key = _
  rw [List.map_map]
  rfl

/-- After any calls the router is that of the rows. -/
theorem ofEdits_eq (edits : List (Edit α)) : ofEdits edits = ofRows (Rows.ofEdits edits) := by
  induction edits using List.reverseRecOn with
  | nil => rfl
  | append_singleton edits c ih =>
    have hkeys := (sound_ofEdits edits).keys
    rw [ih, keys_ofRows] at hkeys
    have hlast : ofEdits (edits ++ [c]) = (ofEdits edits).edit c := List.foldl_concat ..
    have hrows : Rows.ofEdits (edits ++ [c]) = ((Rows.ofEdits edits).call c).2 :=
      List.foldl_concat ..
    rw [hlast, hrows, ih, (call_ofRows hkeys c).2]

/-- The rows of expressions, added to a router one after the other. -/
theorem foldlM_add_rows {routes : List (String × α)} {first rows : Rows α}
    (hroutes : List.Forall₂ Row.SpelledBy routes rows)
    (hkeys : ((first ++ rows).map Row.key).Nodup) :
    routes.foldlM (fun r x => r.add x.1 x.2) (ofRows first) = .ok (ofRows (first ++ rows)) := by
  induction hroutes generalizing first with
  | nil => rw [List.append_nil]; rfl
  | @cons route row routes rows hrow _ ih =>
    obtain ⟨hparse, htarget⟩ := hrow
    rw [List.append_cons] at hkeys
    -- the next row can be added, as its key is none of those before
    have hadd : (ofRows first).add route.1 route.2 = .ok (ofRows (first ++ [row])) := by
      refine add_eq_ok.mpr ⟨row.pattern, hparse, ?_, ?_⟩
      · intro e he
        obtain ⟨other, hother, rfl⟩ := List.mem_map.mp he
        rw [List.map_append, List.map_append] at hkeys
        have hdisjoint := (List.nodup_append.mp (List.nodup_append.mp hkeys).1).2.2
        exact hdisjoint _ (List.mem_map_of_mem hother) _ (List.mem_map_of_mem List.mem_cons_self)
      · rw [htarget]
        exact push_ofRows first row
    rw [List.foldlM_cons, hadd, List.append_cons first row rows]
    exact ih hkeys

/-- Every row comes from an expression. -/
theorem exists_routes (hparsed : ∀ row ∈ rows, ∃ s, Pattern.parse s = .ok row.pattern) :
    ∃ routes, List.Forall₂ Row.SpelledBy routes rows := by
  induction rows with
  | nil => exact ⟨[], .nil⟩
  | cons row rows ih =>
    obtain ⟨⟨s, hs⟩, hparsed⟩ := List.forall_mem_cons.mp hparsed
    obtain ⟨routes, hroutes⟩ := ih hparsed
    exact ⟨(s, row.target) :: routes, .cons ⟨hs, rfl⟩ hroutes⟩

/-- After any calls, the router holds the rows that the same calls make of an empty list.  Their
    keys are distinct.  The next call is answered as the list answers it; and a look-up finds what a
    new router finds to which these rows were added, one after the other, under any expressions that
    stand for them, of which there are some. -/
theorem behaves_as_rows (edits : List (Edit α)) :
    (ofEdits edits).rows = Rows.ofEdits edits ∧ ((Rows.ofEdits edits).map Row.key).Nodup ∧
    (∀ c, (ofEdits edits).answer c = ((Rows.ofEdits edits).call c).1) ∧
    (∃ routes, List.Forall₂ Row.SpelledBy routes (Rows.ofEdits edits)) ∧
    ∀ routes, List.Forall₂ Row.SpelledBy routes (Rows.ofEdits edits) →
      ∃ fresh, ofRoutes routes = .ok fresh ∧ ∀ method host path,
        (ofEdits edits).route? method host path = fresh.route? method host path := by
  have hsound := sound_ofEdits edits
  have hrouter := ofEdits_eq edits
  have hkeys := hsound.keys
  rw [hrouter, keys_ofRows] at hkeys
  refine ⟨by rw [hrouter, rows_ofRows], hkeys, ?_, ?_, ?_⟩
  · intro c
    rw [hrouter]
    exact (call_ofRows hkeys c).1
  · refine exists_routes fun row hrow => ?_
    obtain ⟨s, -, hs, -⟩ := hsound.parsed row.entry
      (by rw [hrouter]; exact List.mem_map_of_mem hrow)
    exact ⟨s, hs⟩
  · intro routes hroutes
    have hfresh : ofRoutes routes = .ok (ofRows (Rows.ofEdits edits)) :=
      @foldlM_add_rows α routes [] (Rows.ofEdits edits) hroutes hkeys
    refine ⟨ofRows (Rows.ofEdits edits), hfresh, ?_⟩
    intro method host path
    rw [hrouter]

end Router

end Turnpike.Route
