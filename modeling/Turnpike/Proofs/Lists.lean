/-
  Lists: what it means to change one place, to take a list in parts, or to search it.

  The model keeps servers, gates, listeners, watches and requests under way in lists, in which an
  element is known by an identifier or by its place.  The library knows lists by their places; what
  a proof about the model asks for is mostly one of the following, and it is stated here once.

  1. **One place.**  To set or to erase a place is to have the element of that place and the others,
     up to the order (`set_perm`, `eraseIdx_perm`).  Where a sum or a count over the list is an
     invariant, this is all that a step which concerns one element has to know.  What a filter does
     not let through can be changed unseen (`filter_set_of_neg`, `filter_eraseIdx_of_neg`).

  2. **Parts.**  A list is the concatenation of its parts by a number of its elements, up to the
     order (`flatMap_filter_perm`): this is what the grouping of a snapshot rests on.

  3. **One element.**  An element in a list that has grown at its end is the new one or an old one
     (`split_of_snoc`), so that an induction over a history can take the step at its end.

  4. **Keys.**  Where no two elements have the same key, the first one with a key is the one
     (`find?_key`); and when a test tells one element from all others, to erase or to set the first
     that passes it is to filter or to map the whole list (`eraseP_eq_filter`, `set_eq_map`).  The
     model is written in the second way and the library has its lemmas for it, while a program works
     in the first.
-/
import Mathlib.Data.List.Basic
import Mathlib.Data.List.Nodup

namespace Turnpike.Lists

variable {α : Type}

/-- The element of a place, and the others. -/
theorem eraseIdx_perm {l : List α} {i : Nat} (h : i < l.length) :
    l.Perm (l[i] :: l.eraseIdx i) := by
  rw [List.eraseIdx_eq_take_drop_succ]
  -- the list around the place
  have hsplit : l.take i ++ l[i] :: l.drop (i + 1) = l := by
    rw [← List.drop_eq_getElem_cons h, List.take_append_drop]
  have hperm : (l.take i ++ l[i] :: l.drop (i + 1)).Perm (l[i] :: (l.take i ++ l.drop (i + 1))) :=
    List.perm_middle
  rwa [hsplit] at hperm

/-- To set a place is to put a new element beside the others. -/
theorem set_perm {l : List α} {i : Nat} (h : i < l.length) (a : α) :
    (l.set i a).Perm (a :: l.eraseIdx i) := by
  rw [List.eraseIdx_eq_take_drop_succ, List.set_eq_take_append_cons_drop, if_pos h]
  exact List.perm_middle

/-- An element that does not pass a test can give way to another such, or go. -/
theorem filter_set_of_neg {p : α → Bool} {l : List α} {i : Nat} (hi : i < l.length)
    (hold : p l[i] = false) {a : α} (ha : p a = false) : (l.set i a).filter p = l.filter p := by
  -- the list around the place: in front of it and behind it nothing changes
  have hsplit : l = l.take i ++ l[i] :: l.drop (i + 1) := by
    rw [← List.drop_eq_getElem_cons hi, List.take_append_drop]
  rw [List.set_eq_take_append_cons_drop, if_pos hi, List.filter_append,
    List.filter_cons_of_neg (by rw [ha]; decide)]
  conv_rhs => rw [hsplit, List.filter_append, List.filter_cons_of_neg (by rw [hold]; decide)]

/-- An element that does not pass a test can be erased unseen. -/
theorem filter_eraseIdx_of_neg {p : α → Bool} {l : List α} {i : Nat} (hi : i < l.length)
    (hold : p l[i] = false) : (l.eraseIdx i).filter p = l.filter p := by
  have hsplit : l = l.take i ++ l[i] :: l.drop (i + 1) := by
    rw [← List.drop_eq_getElem_cons hi, List.take_append_drop]
  rw [List.eraseIdx_eq_take_drop_succ, List.filter_append]
  conv_rhs => rw [hsplit, List.filter_append, List.filter_cons_of_neg (by rw [hold]; decide)]

/-- What is taken out of some elements, and put back, gives those elements. -/
theorem map_filterMap_eq_filter {β : Type} {f : α → Option β} {back : β → α} {p : α → Bool}
    (h : ∀ a, (f a).map back = Option.guard p a) (l : List α) :
    (l.filterMap f).map back = l.filter p := by
  rw [List.map_filterMap, funext h]
  exact congrFun List.filterMap_eq_filter l

/-- The parts of a list by a number of its elements make up the list. -/
theorem flatMap_filter_perm (f : α → Nat) (n : Nat) {l : List α} (h : ∀ a ∈ l, f a < n) :
    ((List.range n).flatMap fun i => l.filter fun a => f a == i).Perm l := by
  induction n generalizing l with
  | zero =>
    have hnil : l = [] := List.eq_nil_iff_forall_not_mem.mpr fun a ha => Nat.not_lt_zero _ (h a ha)
    rw [hnil]
    exact .nil
  | succ n ih =>
    -- the last part is set aside
    have hrest := ih (l := l.filter fun a => !(f a == n)) fun a ha => by
      obtain ⟨hmem, hne⟩ := List.mem_filter.mp ha
      have hlt := h a hmem
      have hn : f a ≠ n := by simpa using hne
      omega
    have hsame : ∀ i ∈ List.range n, (l.filter fun a => !(f a == n)).filter (fun a => f a == i) =
        l.filter fun a => f a == i := by
      intro i hi
      rw [List.filter_filter]
      refine List.filter_congr fun a _ => ?_
      have hlt := List.mem_range.mp hi
      by_cases hai : f a = i
      · have hn : i ≠ n := by omega
        simp [hai, hn]
      · simp [hai]
    rw [List.range_succ, List.flatMap_append, List.flatMap_singleton]
    rw [List.flatMap_congr hsame] at hrest
    refine (hrest.append_right _).trans (List.perm_append_comm.trans ?_)
    exact List.filter_append_perm (fun a => f a == n) l

/-- An element of a list with one more at its end is that one, or it was there before. -/
theorem split_of_snoc {l before after : List α} {a b : α} (h : l ++ [b] = before ++ a :: after) :
    (after = [] ∧ l = before ∧ b = a) ∨ ∃ init, after = init ++ [b] ∧ l = before ++ a :: init := by
  -- the end of the longer list is the end of `after`, unless nothing follows `a`
  rcases after.eq_nil_or_concat with rfl | ⟨init, last, rfl⟩
  · obtain ⟨hl, hb⟩ := List.append_inj' h rfl
    exact .inl ⟨rfl, hl, List.singleton_inj.mp hb⟩
  · rw [List.concat_eq_append, ← List.cons_append, ← List.append_assoc] at h
    obtain ⟨hl, hb⟩ := List.append_inj' h rfl
    rw [List.concat_eq_append, ← hb]
    exact .inr ⟨init, rfl, hl⟩

/-- An element is found by its key when no other one has it. -/
theorem find?_key {κ : Type} [BEq κ] [LawfulBEq κ] {key : α → κ} {l : List α}
    (h : (l.map key).Nodup) {a : α} (ha : a ∈ l) : l.find? (key · == key a) = some a := by
  obtain ⟨b, hb⟩ : ∃ b, l.find? (key · == key a) = some b :=
    Option.isSome_iff_exists.mp (List.find?_isSome.mpr ⟨a, ha, beq_self_eq_true _⟩)
  have hbeq : (key b == key a) = true := List.find?_some (p := (key · == key a)) hb
  have hkey : key b = key a := eq_of_beq hbeq
  -- whatever is found has the key, and only `a` has it
  rw [hb, List.inj_on_of_nodup_map h (List.mem_of_find?_eq_some hb) ha hkey]

/-- What passes a test is taken from the front of a list when it does not go on behind. -/
theorem span_append {p : α → Bool} {l s : List α} (hl : ∀ a ∈ l, p a = true)
    (hs : ∀ a, s.head? = some a → p a = false) :
    (l ++ s).takeWhile p = l ∧ (l ++ s).dropWhile p = s := by
  rw [List.takeWhile_append_of_pos hl, List.dropWhile_append_of_pos hl]
  cases s with
  | nil => exact ⟨List.append_nil l, rfl⟩
  | cons a s =>
    have ha := hs a rfl
    rw [List.takeWhile_cons_of_neg (by rw [ha]; decide), List.append_nil,
      List.dropWhile_cons_of_neg (by rw [ha]; decide)]
    exact ⟨rfl, rfl⟩

/-- What holds of all elements holds of them when one is replaced by one that it holds of. -/
theorem forall_mem_replaced {P : α → Prop} {before after : List α} {a b : α}
    (h : ∀ x ∈ before ++ a :: after, P x) (hb : P b) : ∀ x ∈ before ++ b :: after, P x := by
  rw [List.forall_mem_append, List.forall_mem_cons] at h ⊢
  exact ⟨h.1, hb, h.2.2⟩

/-- What holds of all elements holds of them without one. -/
theorem forall_mem_without {P : α → Prop} {before after : List α} {a : α}
    (h : ∀ x ∈ before ++ a :: after, P x) : ∀ x ∈ before ++ after, P x := by
  rw [List.forall_mem_append, List.forall_mem_cons] at h
  rw [List.forall_mem_append]
  exact ⟨h.1, h.2.2⟩

/-- A search depends on what is found at the elements of the list alone. -/
theorem findSome?_congr {β : Type} {f g : α → Option β} {l : List α} (h : ∀ a ∈ l, f a = g a) :
    l.findSome? f = l.findSome? g := by
  induction l with
  | nil => rfl
  | cons a l ih =>
    rw [List.findSome?_cons, List.findSome?_cons, h a List.mem_cons_self,
      ih fun b hb => h b (List.mem_cons_of_mem a hb)]

/-- An element that no other resembles is erased by leaving out what resembles it. -/
theorem eraseP_eq_filter {p : α → Bool} {l : List α}
    (h : l.Pairwise fun a b => p a = true → p b = false) : l.eraseP p = l.filter (!p ·) := by
  induction l with
  | nil => rfl
  | cons a l ih =>
    obtain ⟨hfirst, hrest⟩ := List.pairwise_cons.mp h
    cases ha : p a with
    | true =>
      -- nothing behind the erased element is left out by the filter
      have hnone : ∀ b ∈ l, (!p b) = true := fun b hb => by rw [hfirst b hb ha]; rfl
      rw [List.eraseP_cons_of_pos ha, List.filter_cons_of_neg (by rw [ha]; decide),
        List.filter_eq_self.mpr hnone]
    | false =>
      rw [List.eraseP_cons_of_neg (by rw [ha]; decide), List.filter_cons_of_pos (by rw [ha]; rfl),
        ih hrest]

/-- It is replaced by replacing what resembles it. -/
theorem set_eq_map {p : α → Bool} {l : List α}
    (h : l.Pairwise fun a b => p a = true → p b = false) {i : Nat} (hi : l.findIdx? p = some i)
    (b : α) : l.set i b = l.map fun a => if p a then b else a := by
  induction l generalizing i with
  | nil => cases hi
  | cons a l ih =>
    obtain ⟨hfirst, hrest⟩ := List.pairwise_cons.mp h
    rw [List.findIdx?_cons] at hi
    cases ha : p a with
    | true =>
      rw [ha] at hi
      cases hi
      -- behind the place the map changes nothing
      have hsame : l.map (fun a => if p a then b else a) = l.map id :=
        List.map_congr_left fun c hc => by rw [hfirst c hc ha]; rfl
      rw [List.set_cons_zero, List.map_cons, ha, if_pos rfl, hsame, List.map_id]
    | false =>
      rw [ha] at hi
      obtain ⟨j, hj, rfl⟩ := Option.map_eq_some_iff.mp hi
      rw [List.set_cons_succ, ih hrest hj, List.map_cons, ha]
      rfl

end Turnpike.Lists
