/-
  The table of routes.

  A router comes about by calls that add, remove and replace routes.  The table lists the entries in
  the order of their registration, and beside it there is a trie, from which they are looked up.
  Whatever is proved of look-ups needs to know that the two agree, and of calls, that no entry is
  there twice.

  1. **Soundness** (`Router.Sound`).  The keys of the entries are distinct, every entry has the
     filter of its pattern, which comes from an expression, and the trie holds the paths of the
     entries in their order.

  2. **Calls.**  An added route is inserted into the trie (`Sound.push`); after a removal or a
     replacement the trie is built anew (`Sound.ofEntries`).  What a call does to the entries is
     stated up to their order: one entry comes, goes, or gives way to another (`add_eq_ok`,
     `Sound.remove?`, `Sound.replace`).  A call that fails changes nothing.

  3. **Frame.**  Entries that a call is not about stay, and in their order (`filter_push`,
     `filter_remove?`, `filter_replace`).  It is said for any choice of entries that leaves out the
     one that comes or goes, as it is used for those of a single service.

  4. **Histories** (`sound_ofEdits`).  Every router that calls lead to is sound, by induction on the
     calls.
-/
import Turnpike.Proofs.Lists
import Turnpike.Proofs.Route.Expression
import Turnpike.Proofs.Route.Trie
import Turnpike.Route.Router

namespace Turnpike.Route

open Turnpike.Lists

variable {α : Type}

@[simp] theorem Entry.key_ofPattern (p : Pattern) (t : α) :
    (Entry.ofPattern p t).key = p.canonical := rfl

namespace Router

/-! ## Soundness -/

/-- The path of an entry with the entry, as the trie holds them. -/
def leafOf (e : Entry α) : List Segment × Entry α := (e.pattern.path, e)

/-- What holds of every router. -/
structure Sound (r : Router α) : Prop where
  /-- Every entry comes from an expression. -/
  parsed : ∀ e ∈ r.entries, ∃ s t, Pattern.parse s = .ok e.pattern ∧ e = .ofPattern e.pattern t
  /-- No key occurs twice. -/
  keys : (r.entries.map Entry.key).Nodup
  /-- The trie holds the entries in their order. -/
  held : r.trie.Holds (r.entries.map leafOf)

theorem Sound.empty : (empty : Router α).Sound where
  parsed := fun _ h => absurd h List.not_mem_nil
  keys := List.nodup_nil
  held := rfl

/-- The path of an entry that comes from an expression is not empty. -/
theorem Sound.path_ne_nil {r : Router α} (h : r.Sound) {e : Entry α} (he : e ∈ r.entries) :
    e.pattern.path ≠ [] := by
  obtain ⟨s, t, hs, -⟩ := h.parsed e he
  exact (textual_of_parse hs).2

/-- One more entry under a free key leaves a router sound. -/
theorem Sound.push {r : Router α} (h : r.Sound) {s : String} {p : Pattern} {t : α}
    (hp : Pattern.parse s = .ok p) (hk : ∀ e ∈ r.entries, e.key ≠ p.canonical) :
    (r.push (.ofPattern p t)).Sound where
  parsed := by
    intro e he
    rcases List.mem_append.mp he with he | he
    · exact h.parsed e he
    · obtain rfl := List.mem_singleton.mp he
      exact ⟨s, t, hp, rfl⟩
  keys := by
    rw [Router.push, List.map_append, List.nodup_append]
    refine ⟨h.keys, List.nodup_cons.mpr ⟨List.not_mem_nil, List.nodup_nil⟩, ?_⟩
    intro k hmem k' hk'
    obtain ⟨e, he, rfl⟩ := List.mem_map.mp hmem
    obtain rfl := List.mem_singleton.mp hk'
    exact hk e he
  held := by
    rw [Router.push, List.map_append]
    exact h.held.insert (textual_of_parse hp).2

/-- A trie that is built from entries holds them in their order. -/
theorem holds_trieOf {es : List (Entry α)} (h : ∀ e ∈ es, e.pattern.path ≠ []) :
    (trieOf es).Holds (es.map leafOf) := by
  -- for a trie that holds some entries already
  have key : ∀ (es L : List (Entry α)) (t : Forest (Entry α)), t.Holds (L.map leafOf) →
      (∀ e ∈ es, e.pattern.path ≠ []) →
      (es.foldl (fun t e => t.insert e e.pattern.path) t).Holds ((L ++ es).map leafOf) := by
    intro es
    induction es with
    | nil =>
      intro L t ht _
      rwa [List.append_nil]
    | cons e es ih =>
      intro L t ht hes
      have hins : (t.insert e e.pattern.path).Holds ((L ++ [e]).map leafOf) := by
        rw [List.map_append]
        exact ht.insert (hes e List.mem_cons_self)
      have := ih (L ++ [e]) _ hins fun e he => hes e (List.mem_cons_of_mem _ he)
      rwa [List.append_assoc] at this
  exact key es [] .nil rfl h

/-- A router that is built from entries with distinct keys is sound. -/
theorem Sound.ofEntries {es : List (Entry α)}
    (hp : ∀ e ∈ es, ∃ s t, Pattern.parse s = .ok e.pattern ∧ e = .ofPattern e.pattern t)
    (hk : (es.map Entry.key).Nodup) : (ofEntries es).Sound where
  parsed := hp
  keys := hk
  held := holds_trieOf fun e he => by
    obtain ⟨s, t, hs, -⟩ := hp e he
    exact (textual_of_parse hs).2

/-! ## Calls -/

/-- An expression compiles to the pattern that it parses to. -/
theorem compile_eq_ok {s : String} {p : Pattern} : compile s = .ok p ↔ Pattern.parse s = .ok p := by
  unfold compile
  constructor
  · intro h
    split at h
    case h_1 q hq => cases h; exact hq
    case h_2 => cases h
  · intro h
    rw [h]

theorem position?_eq_none {r : Router α} {k : String} (h : r.position? k = none) :
    ∀ e ∈ r.entries, e.key ≠ k := by
  intro e he
  simpa using List.findIdx?_eq_none_iff.mp h e he

theorem position?_eq_some {r : Router α} {k : String} {i : Nat} (h : r.position? k = some i) :
    ∃ hi : i < r.entries.length, r.entries[i].key = k := by
  obtain ⟨hi, hk, -⟩ := List.findIdx?_eq_some_iff_getElem.mp h
  exact ⟨hi, by simpa using hk⟩

/-- In the place of an expression there is an entry with its key. -/
theorem placeOf?_eq_some {r : Router α} {s : String} {i : Nat} (h : r.placeOf? s = some i) :
    ∃ q, Pattern.parse s = .ok q ∧ ∃ hi : i < r.entries.length, r.entries[i].key = q.canonical := by
  unfold placeOf? at h
  split at h
  case h_1 => cases h
  case h_2 q hq => exact ⟨q, hq, position?_eq_some h⟩

theorem placeOf?_eq_none {r : Router α} {s : String} {q : Pattern} (h : r.placeOf? s = none)
    (hq : Pattern.parse s = .ok q) : ∀ e ∈ r.entries, e.key ≠ q.canonical := by
  rw [placeOf?, hq] at h
  exact position?_eq_none h

/-- A route can be added when it is well formed and its key is not taken. -/
theorem add_eq_ok {r r' : Router α} {s : String} {t : α} :
    r.add s t = .ok r' ↔ ∃ p, Pattern.parse s = .ok p ∧ (∀ e ∈ r.entries, e.key ≠ p.canonical) ∧
      r.push (.ofPattern p t) = r' := by
  unfold add
  constructor
  · intro h
    split at h
    case h_1 => cases h
    case h_2 p hp =>
      split at h
      case h_1 => cases h
      case h_2 hfree =>
        cases h
        exact ⟨p, compile_eq_ok.mp hp, position?_eq_none hfree, rfl⟩
  · rintro ⟨p, hp, hfree, rfl⟩
    have hnone : r.position? p.canonical = none := by
      refine List.findIdx?_eq_none_iff.mpr fun e he => ?_
      simpa using hfree e he
    rw [compile_eq_ok.mpr hp]
    dsimp only
    rw [hnone]

theorem Sound.add {r r' : Router α} (h : r.Sound) {s : String} {t : α} (hr : r.add s t = .ok r') :
    r'.Sound := by
  obtain ⟨p, hp, hfree, rfl⟩ := add_eq_ok.mp hr
  exact h.push hp hfree

/-- Some of the entries of a sound router, of which one may have been replaced under a new key. -/
theorem Sound.ofEntries_of_perm {r : Router α} (h : r.Sound) {es rest : List (Entry α)}
    {s : String} {p : Pattern} {t : α} (hes : es.Perm (.ofPattern p t :: rest))
    (hrest : rest.Sublist r.entries) (hp : Pattern.parse s = .ok p)
    (hk : ∀ e ∈ rest, e.key ≠ p.canonical) : (Router.ofEntries es).Sound := by
  refine .ofEntries ?_ ?_
  · intro e he
    rcases List.mem_cons.mp (hes.mem_iff.mp he) with rfl | he
    · exact ⟨s, t, hp, rfl⟩
    · exact h.parsed e (hrest.subset he)
  · rw [(hes.map Entry.key).nodup_iff, List.map_cons, List.nodup_cons]
    refine ⟨?_, h.keys.sublist (hrest.map _)⟩
    intro hmem
    obtain ⟨e, he, hek⟩ := List.mem_map.mp hmem
    exact hk e he hek

/-- A removal takes away the one entry of that key. -/
theorem Sound.remove? {r r' : Router α} (h : r.Sound) {s : String} (hr : r.remove? s = some r') :
    r'.Sound ∧ ∃ q e, Pattern.parse s = .ok q ∧ e.key = q.canonical ∧
      r.entries.Perm (e :: r'.entries) := by
  unfold Router.remove? at hr
  split at hr
  case h_1 => cases hr
  case h_2 q hq =>
    split at hr
    case h_1 => cases hr
    case h_2 i hi =>
      cases hr
      obtain ⟨hlt, hkey⟩ := position?_eq_some hi
      have hsub := List.eraseIdx_sublist r.entries i
      refine ⟨.ofEntries (fun e he => h.parsed e (hsub.subset he))
        (h.keys.sublist (hsub.map _)), ?_⟩
      exact ⟨q, r.entries[i], hq, hkey, eraseIdx_perm hlt⟩

/-- When there is nothing to remove, no entry has that key. -/
theorem remove?_eq_none {r : Router α} {s : String} {q : Pattern} (h : r.remove? s = none)
    (hq : Pattern.parse s = .ok q) : ∀ e ∈ r.entries, e.key ≠ q.canonical := by
  rw [Router.remove?, hq] at h
  dsimp only at h
  split at h
  case h_1 hnone => exact position?_eq_none hnone
  case h_2 => cases h

/-- A replacement puts an entry in the place of the one of the old key, or adds one when there is no
    such. -/
theorem Sound.replace {r r' : Router α} (h : r.Sound) {old new : String} {t : α}
    (hr : r.replace old new t = .ok r') :
    r'.Sound ∧ ∃ p rest, Pattern.parse new = .ok p ∧ r'.entries.Perm (.ofPattern p t :: rest) ∧
      ((∃ q e, Pattern.parse old = .ok q ∧ e.key = q.canonical ∧ r.entries.Perm (e :: rest)) ∨
        r.placeOf? old = none ∧ r.entries = rest) := by
  unfold Router.replace at hr
  split at hr
  case h_1 => cases hr
  case h_2 p hp =>
    have hparse := compile_eq_ok.mp hp
    dsimp only at hr
    split at hr
    case isTrue => cases hr
    case isFalse hfree =>
      -- the new key is free, or that of the entry which gives way
      have htaken : r.position? p.canonical = none ∨ r.position? p.canonical = r.placeOf? old := by
        cases ht : r.position? p.canonical with
        | none => exact Or.inl rfl
        | some j =>
          rw [ht] at hfree
          exact Or.inr (by simpa using hfree)
      split at hr
      case h_1 i hi =>
        cases hr
        obtain ⟨q, hq, hlt, hkey⟩ := placeOf?_eq_some hi
        have hk : ∀ e ∈ r.entries.eraseIdx i, e.key ≠ p.canonical := by
          rcases htaken with hnone | hsame
          · intro e he
            exact position?_eq_none hnone e ((List.eraseIdx_sublist _ _).subset he)
          -- its key was that of the entry, so no other one has it
          · rw [hi] at hsame
            obtain ⟨_, hkey'⟩ := position?_eq_some hsame
            have hnodup := h.keys
            rw [((eraseIdx_perm hlt).map Entry.key).nodup_iff, List.map_cons,
              List.nodup_cons] at hnodup
            intro e he hek
            exact hnodup.1 (List.mem_map.mpr ⟨e, he, by rw [hek, hkey']⟩)
        exact ⟨h.ofEntries_of_perm (set_perm hlt _) (List.eraseIdx_sublist _ _) hparse hk,
          p, r.entries.eraseIdx i, hparse, set_perm hlt _,
          Or.inl ⟨q, _, hq, hkey, eraseIdx_perm hlt⟩⟩
      case h_2 hnone =>
        cases hr
        have hk : ∀ e ∈ r.entries, e.key ≠ p.canonical := by
          rcases htaken with hfree | hsame
          · exact position?_eq_none hfree
          · exact position?_eq_none (hsame.trans hnone)
        have hperm := List.perm_append_singleton (Entry.ofPattern p t) r.entries
        exact ⟨h.ofEntries_of_perm hperm (List.Sublist.refl _) hparse hk,
          p, r.entries, hparse, hperm, Or.inr ⟨hnone, rfl⟩⟩

/-! ## What a call leaves alone -/

theorem filter_push (r : Router α) {e : Entry α} {p : Entry α → Bool} (he : p e = false) :
    (r.push e).entries.filter p = r.entries.filter p := by
  rw [Router.push, List.filter_append, List.filter_cons_of_neg (by rw [he]; decide),
    List.filter_nil, List.append_nil]

/-- Entries that a removal is not about stay in their order. -/
theorem filter_remove? {r r' : Router α} {s : String} (hr : r.remove? s = some r')
    {p : Entry α → Bool}
    (hgone : ∀ q, Pattern.parse s = .ok q → ∀ e ∈ r.entries, e.key = q.canonical → p e = false) :
    r'.entries.filter p = r.entries.filter p := by
  unfold Router.remove? at hr
  split at hr
  case h_1 => cases hr
  case h_2 q hq =>
    split at hr
    case h_1 => cases hr
    case h_2 i hi =>
      cases hr
      obtain ⟨hlt, hkey⟩ := position?_eq_some hi
      exact filter_eraseIdx_of_neg hlt (hgone q hq _ (List.getElem_mem hlt) hkey)

/-- Entries that a replacement is not about stay in their order. -/
theorem filter_replace {r r' : Router α} {old new : String} {t : α}
    (hr : r.replace old new t = .ok r') {p : Entry α → Bool}
    (hgone : ∀ q, Pattern.parse old = .ok q → ∀ e ∈ r.entries, e.key = q.canonical → p e = false)
    (hnew : ∀ q, p (.ofPattern q t) = false) : r'.entries.filter p = r.entries.filter p := by
  unfold Router.replace at hr
  split at hr
  case h_1 => cases hr
  case h_2 pattern _ =>
    dsimp only at hr
    split at hr
    case isTrue => cases hr
    case isFalse =>
      split at hr
      case h_1 i hi =>
        cases hr
        obtain ⟨q, hq, hlt, hkey⟩ := placeOf?_eq_some hi
        exact filter_set_of_neg hlt (hgone q hq _ (List.getElem_mem hlt) hkey) (hnew pattern)
      case h_2 =>
        cases hr
        exact r.filter_push (hnew pattern)

end Router

/-! ## Whole histories -/

/-- A call that changes the routes. -/
inductive Edit (α : Type) where
  | add (route : String) (target : α)
  | remove (route : String)
  | replace (old new : String) (target : α)
  deriving Repr

namespace Router

/-- The router after a call, which is the same when the call fails. -/
def edit (r : Router α) : Edit α → Router α
  | .add s t => (r.add s t).toOption.getD r
  | .remove s => (r.remove? s).getD r
  | .replace old new t => (r.replace old new t).toOption.getD r

/-- The router after these calls. -/
def ofEdits (es : List (Edit α)) : Router α := es.foldl edit empty

/-- A call leaves a router sound, whether or not it fails. -/
theorem Sound.edit {r : Router α} (h : r.Sound) (c : Edit α) : (r.edit c).Sound := by
  cases c with
  | add s t =>
    rw [Router.edit]
    cases hr : r.add s t with
    | error => exact h
    | ok r' => exact h.add hr
  | remove s =>
    rw [Router.edit]
    cases hr : r.remove? s with
    | none => exact h
    | some r' => exact (h.remove? hr).1
  | replace old new t =>
    rw [Router.edit]
    cases hr : r.replace old new t with
    | error => exact h
    | ok r' => exact (h.replace hr).1

/-- Every router that calls lead to is sound. -/
theorem sound_ofEdits (es : List (Edit α)) : (ofEdits es).Sound := by
  have key : ∀ (es : List (Edit α)) (r : Router α), r.Sound → (es.foldl edit r).Sound := by
    intro es
    induction es with
    | nil => exact fun _ h => h
    | cons c es ih => exact fun r h => ih _ (h.edit c)
  exact key es empty .empty

end Router

end Turnpike.Route
