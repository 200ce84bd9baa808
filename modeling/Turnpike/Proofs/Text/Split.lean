/-
  Parts of a text.

  Keys come apart at slashes, hosts at colons, names at dots, lists of options at commas.  A text is
  taken apart at a separator into parts that do not hold it, and parts that do not hold it are what
  a text put together of them comes apart into.  So these two are inverse to each other, and to say
  how a text is read it is enough to say of which parts it is made.

  1. **All parts** (`splitAll`).  There is always one part at least, none of them holds the
     separator, and a separator ends one part and begins another (`splitAll_append_cons`).  With
     this the two inverses follow by induction over the parts (`splitAll_intercalate`) and over the
     text (`intercalate_splitAll`).

  2. **The first and the last separator** (`splitFirst?_eq_some_iff`, `splitLast?_eq_some_iff`).
     Both are stated as equivalences: the outcome is the one way to write the text around a
     separator where one side does not hold it.  That for the last one comes from that for the
     first, by reversing.  From these, every proof about such a text starts with the text written
     out, and needs no further step of the search.

  3. **What stands at an end** (`after?_append`, `trimEnd_eq_iff`).  To take off a given beginning,
     or a run of one character at the end, is to write the text as that and the rest.
-/
import Turnpike.Text.Ascii

namespace Turnpike.Text

variable {sep : Char}

/-- A text has at least one part. -/
theorem splitAll_ne_nil (sep : Char) (s : List Char) : splitAll sep s ≠ [] := by
  cases s with
  | nil => exact List.cons_ne_nil _ _
  | cons c r =>
    rw [splitAll]
    split
    · exact List.cons_ne_nil _ _
    · split
      · exact List.cons_ne_nil _ _
      · exact List.cons_ne_nil _ _

/-- No part holds the separator. -/
theorem not_mem_of_mem_splitAll {s p : List Char} (hp : p ∈ splitAll sep s) : sep ∉ p := by
  induction s generalizing p with
  | nil =>
    rw [splitAll, List.mem_singleton] at hp
    rw [hp]
    exact List.not_mem_nil
  | cons c r ih =>
    rw [splitAll] at hp
    split at hp
    case isTrue =>
      rcases List.mem_cons.mp hp with rfl | hp
      · exact List.not_mem_nil
      · exact ih hp
    case isFalse hc =>
      split at hp
      case h_1 hnil => exact absurd hnil (splitAll_ne_nil sep r)
      -- a character is put before the first part, which has no separator yet
      case h_2 q qs hsplit =>
        rcases List.mem_cons.mp hp with rfl | hp
        · intro hmem
          rcases List.mem_cons.mp hmem with heq | hmem
          · exact hc heq.symm
          · exact ih (hsplit ▸ List.mem_cons_self) hmem
        · exact ih (hsplit ▸ List.mem_cons_of_mem q hp)

/-- A text without the separator is one part. -/
theorem splitAll_of_not_mem {p : List Char} (hp : sep ∉ p) : splitAll sep p = [p] := by
  induction p with
  | nil => rfl
  | cons c p ih =>
    rw [List.mem_cons, not_or] at hp
    rw [splitAll, if_neg (Ne.symm hp.1), ih hp.2]

/-- A separator ends one part and begins another. -/
theorem splitAll_append_cons (s t : List Char) :
    splitAll sep (s ++ sep :: t) = splitAll sep s ++ splitAll sep t := by
  induction s with
  | nil => simp [splitAll]
  | cons c s ih =>
    -- the first part of `s` is where a character is added
    obtain ⟨p, ps, hsplit⟩ := List.exists_cons_of_ne_nil (splitAll_ne_nil sep s)
    rw [List.cons_append, splitAll, splitAll, ih, hsplit]
    split
    case isTrue => rfl
    case isFalse => rfl

/-- The first part is what stands before the first separator. -/
theorem splitAll_append {p : List Char} (hp : sep ∉ p) (s : List Char) :
    splitAll sep (p ++ sep :: s) = p :: splitAll sep s := by
  rw [splitAll_append_cons, splitAll_of_not_mem hp, List.singleton_append]

/-- Putting parts together and taking the text apart again gives the parts. -/
theorem splitAll_intercalate {ps : List (List Char)} (hne : ps ≠ []) (h : ∀ p ∈ ps, sep ∉ p) :
    splitAll sep ([sep].intercalate ps) = ps := by
  induction ps with
  | nil => exact absurd rfl hne
  | cons p ps ih =>
    have hp : sep ∉ p := h p List.mem_cons_self
    cases ps with
    | nil =>
      rw [List.intercalate_singleton]
      exact splitAll_of_not_mem hp
    | cons q ps =>
      have hrest := ih (List.cons_ne_nil q ps) fun x hx => h x (List.mem_cons_of_mem p hx)
      rw [List.intercalate_cons_cons, List.append_assoc, List.singleton_append,
        splitAll_append hp, hrest]

/-- Taking a text apart and putting the parts together again gives the text. -/
theorem intercalate_splitAll (sep : Char) (s : List Char) :
    [sep].intercalate (splitAll sep s) = s := by
  induction s with
  | nil => rfl
  | cons c s ih =>
    rw [splitAll]
    -- what is left always has a first part
    obtain ⟨p, ps, hsplit⟩ := List.exists_cons_of_ne_nil (splitAll_ne_nil sep s)
    rw [hsplit] at ih ⊢
    split
    case isTrue hc => rw [List.intercalate_cons_cons, ih, List.nil_append, hc, List.singleton_append]
    case isFalse =>
      rw [← ih]
      cases ps with
      | nil => rw [List.intercalate_singleton, List.intercalate_singleton]
      | cons q ps =>
        rw [List.intercalate_cons_cons, List.intercalate_cons_cons, List.cons_append,
          List.cons_append]

/-- A text without the separator does not come apart. -/
theorem splitFirst?_eq_none_iff {s : List Char} : splitFirst? sep s = none ↔ sep ∉ s := by
  induction s with
  | nil => exact ⟨fun _ => List.not_mem_nil, fun _ => rfl⟩
  | cons c s ih =>
    rw [splitFirst?, List.mem_cons, not_or]
    split
    case isTrue hc => exact ⟨nofun, fun h => absurd hc.symm h.1⟩
    case isFalse hc => rw [Option.map_eq_none_iff, ih, and_iff_right (Ne.symm hc)]

/-- A text comes apart at a separator into a part that does not hold it and all that follows. -/
theorem splitFirst?_eq_some_iff {s a b : List Char} :
    splitFirst? sep s = some (a, b) ↔ s = a ++ sep :: b ∧ sep ∉ a := by
  constructor
  · intro h
    induction s generalizing a with
    | nil => cases h
    | cons c s ih =>
      rw [splitFirst?] at h
      split at h
      case isTrue hc =>
        cases h
        exact ⟨by rw [hc, List.nil_append], List.not_mem_nil⟩
      case isFalse hc =>
        obtain ⟨⟨a', b'⟩, hs, he⟩ := Option.map_eq_some_iff.mp h
        cases he
        obtain ⟨rfl, ha⟩ := ih hs
        exact ⟨rfl, List.not_mem_cons_of_ne_of_not_mem (Ne.symm hc) ha⟩
  · rintro ⟨rfl, ha⟩
    induction a with
    | nil => rw [List.nil_append, splitFirst?, if_pos rfl]
    | cons c a ih =>
      rw [List.mem_cons, not_or] at ha
      rw [List.cons_append, splitFirst?, if_neg (Ne.symm ha.1), ih ha.2]
      rfl

theorem splitLast?_eq_none_iff {s : List Char} : splitLast? sep s = none ↔ sep ∉ s := by
  unfold splitLast?
  rw [Option.map_eq_none_iff, splitFirst?_eq_none_iff, List.mem_reverse]

/-- At the last separator a text comes apart into all that precedes and a part that does not hold
    it. -/
theorem splitLast?_eq_some_iff {s a b : List Char} :
    splitLast? sep s = some (a, b) ↔ s = a ++ sep :: b ∧ sep ∉ b := by
  -- from behind, the last separator is the first
  have hreverse : s.reverse = b.reverse ++ sep :: a.reverse ↔ s = a ++ sep :: b := by
    rw [← List.reverse_inj, List.reverse_reverse, List.reverse_append, List.reverse_cons,
      List.reverse_reverse, List.reverse_reverse, List.append_assoc, List.singleton_append]
  rw [← hreverse, ← List.mem_reverse, ← splitFirst?_eq_some_iff, splitLast?,
    Option.map_eq_some_iff]
  constructor
  · rintro ⟨⟨b', a'⟩, hsplit, he⟩
    cases he
    rwa [List.reverse_reverse, List.reverse_reverse]
  · intro hsplit
    exact ⟨_, hsplit, by simp only [List.reverse_reverse]⟩

/-- Where a character occurs first, a text comes apart in one way. -/
theorem append_cons_inj {c : Char} {s s' t t' : List Char} (hs : c ∉ s) (hs' : c ∉ s')
    (h : s ++ c :: t = s' ++ c :: t') : s = s' ∧ t = t' := by
  -- both are what the search for `c` finds
  have hsplit : splitFirst? c (s ++ c :: t) = some (s, t) := splitFirst?_eq_some_iff.mpr ⟨rfl, hs⟩
  rw [splitFirst?_eq_some_iff.mpr ⟨h, hs'⟩] at hsplit
  cases hsplit
  exact ⟨rfl, rfl⟩

/-- What follows a given beginning is found. -/
theorem after?_append (p s : List Char) : after? p (p ++ s) = some s := by
  induction p with
  | nil => rfl
  | cons c p ih => rw [List.cons_append, after?, if_pos rfl, ih]

/-- And it is found behind that beginning alone. -/
theorem eq_append_of_after? {p s t : List Char} (h : after? p s = some t) : s = p ++ t := by
  induction p generalizing s with
  | nil => exact Option.some.inj h
  | cons c p ih =>
    cases s with
    | nil => cases h
    | cons d s =>
      rw [after?] at h
      split at h
      case isTrue hcd => rw [hcd, ih h, List.cons_append]
      case isFalse => cases h

/-- A text that does not end in a character is what is left when a run of it is taken off the end. -/
theorem trimEnd_eq_iff {c : Char} {s t : List Char} :
    trimEnd c s = t ↔ (∃ n, s = t ++ List.replicate n c) ∧ t.getLast? ≠ some c := by
  unfold trimEnd
  constructor
  · rintro rfl
    refine ⟨⟨(s.reverse.takeWhile (· == c)).length, ?_⟩, ?_⟩
    · have hall := List.all_eq_true.mp (List.all_takeWhile (p := (· == c)) (l := s.reverse))
      -- what is taken off from behind is a run of the character
      have hrun : s.reverse.takeWhile (· == c) =
          List.replicate (s.reverse.takeWhile (· == c)).length c :=
        List.eq_replicate_iff.mpr ⟨rfl, fun d hd => beq_iff_eq.mp (hall d hd)⟩
      rw [← List.reverse_replicate, ← hrun, ← List.reverse_append, List.takeWhile_append_dropWhile,
        List.reverse_reverse]
    · rw [List.getLast?_reverse]
      intro hhead
      have hnot := List.head?_dropWhile_not (· == c) s.reverse
      rw [hhead] at hnot
      simp at hnot
  · rintro ⟨⟨n, rfl⟩, hlast⟩
    -- the run is taken off and nothing more, as `t` ends otherwise
    have hkeep : t.reverse.dropWhile (· == c) = t.reverse := by
      cases hr : t.reverse with
      | nil => rfl
      | cons d r =>
        rw [List.dropWhile_cons_of_neg]
        intro hd
        rw [← List.head?_reverse, hr, List.head?_cons, beq_iff_eq.mp hd] at hlast
        exact hlast rfl
    rw [List.reverse_append, List.reverse_replicate, List.dropWhile_append_of_pos, hkeep,
      List.reverse_reverse]
    exact fun d hd => beq_iff_eq.mpr (List.eq_of_mem_replicate hd)

end Turnpike.Text
