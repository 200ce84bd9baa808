/-
  Limits on requests in flight, by their counts.

  A limit on connections keeps a count for each token that has any, and the total.  A token that has
  none left is taken off the list, so the list does not grow with the number of tokens that were
  ever seen.

  1. **What the list says** (`Counts`).  The tokens listed are distinct and are those whose count is
     not zero, and the total is the sum of the counts.  So it is known what a limit holds when it is
     known how many connections each token has, and without connections nothing is left
     (`Counts.eq_make`).

  2. **One change** (`Counts.set`).  The count of one token is set, and the others stay.  All that a
     limit does is of this kind, so this is where it is shown that the list keeps saying what it
     should.

  3. **Admitting and ending** (`acquire?_one`, `release_one`).  A connection is admitted exactly
     when the token has room for it, and then its count goes up by one; when it ends it goes down by
     one.  To end a connection is to take back that it was admitted (`Counts.release`).
-/
import Mathlib.Algebra.BigOperators.Group.List.Basic
import Mathlib.Algebra.GroupWithZero.Nat
import Mathlib.Data.List.Nodup
import Turnpike.Traffic.Connections

namespace Turnpike.Traffic.Connections

/-- The tokens that are listed. -/
def tokens (c : Connections) : List String := c.counts.map (·.1)

/-- Each token has so many connections. -/
structure Counts (c : Connections) (held : String → Nat) : Prop where
  distinct : c.tokens.Nodup
  count_eq : ∀ token, c.count token = held token
  listed : ∀ token, token ∈ c.tokens ↔ 0 < held token
  total_eq : c.total = (c.counts.map (·.2)).sum

variable {c : Connections} {held : String → Nat} {token : String}

theorem lists_iff : c.lists token = true ↔ token ∈ c.tokens := by
  simp [lists, tokens]

/-- At first no token has any connections. -/
theorem counts_make (limit : Nat) : (make limit).Counts fun _ => 0 where
  distinct := List.nodup_nil
  count_eq _ := rfl
  listed token := by simp [tokens, make]
  total_eq := rfl

/-- Without connections nothing is left. -/
theorem Counts.eq_make (h : c.Counts held) (hnone : ∀ token, held token = 0) :
    c = make c.limit := by
  have htokens : c.tokens = [] := by
    refine List.eq_nil_iff_forall_not_mem.mpr fun token hmem => ?_
    have hpos := (h.listed token).mp hmem
    have hzero := hnone token
    omega
  have hcounts : c.counts = [] := List.map_eq_nil_iff.mp htokens
  have htotal : c.total = 0 := by rw [h.total_eq, hcounts, List.map_nil, List.sum_nil]
  cases c
  simp only [make] at *
  rw [hcounts, htotal]

/-! ## Changing one count -/

/-- The count of one token set, or taken out when it is zero, and the total with it. -/
def set (c : Connections) (token : String) (n total : Nat) : Connections :=
  { c with counts := if n = 0 then c.others token else (token, n) :: c.others token, total := total }

theorem tokens_others (c : Connections) (token : String) :
    (c.others token).map (·.1) = c.tokens.filter (· != token) := by
  rw [others, tokens, List.filter_map]
  rfl

/-- The count of another token is found as before. -/
theorem find?_others {other : String} (hne : other ≠ token) :
    (c.others token).find? (·.1 == other) = c.counts.find? (·.1 == other) := by
  rw [others, List.find?_filter]
  congr 1
  funext e
  by_cases he : e.1 = other
  · simp [he, hne]
  · simp [he]

theorem find?_others_self : (c.others token).find? (·.1 == token) = none := by
  simp [others]

/-- The counts sum up to that of one token and those of the others. -/
theorem sum_counts (h : c.tokens.Nodup) (token : String) :
    (c.counts.map (·.2)).sum = c.count token + ((c.others token).map (·.2)).sum := by
  unfold tokens at h
  unfold count others
  generalize c.counts = l at h
  induction l with
  | nil => rfl
  | cons e l ih =>
    rw [List.map_cons, List.nodup_cons] at h
    by_cases he : e.1 = token
    · subst he
      have hothers : l.filter (·.1 != e.1) = l := by
        refine List.filter_eq_self.mpr fun f hf => ?_
        have hne : f.1 ≠ e.1 := fun heq => h.1 (heq ▸ List.mem_map_of_mem hf)
        simpa using hne
      simp [hothers]
    · have hrest := ih h.2
      simp only [List.map_cons, List.sum_cons, List.find?_cons, beq_false_of_ne he,
        List.filter_cons, bne_iff_ne, ne_eq, he, not_false_eq_true, if_true]
      rw [hrest]
      omega

/-- When the total changes by as much as the count of one token, the list says what it should. -/
theorem Counts.set (h : c.Counts held) (token : String) (n : Nat) {total : Nat}
    (htotal : total + held token = c.total + n) :
    (c.set token n total).Counts (Function.update held token n) := by
  have hsum := sum_counts h.distinct token
  rw [← h.total_eq, h.count_eq] at hsum
  have hmem (other : String) : other ∈ (c.set token n total).tokens ↔
      0 < Function.update held token n other := by
    have hothers : other ∈ (c.others token).map (·.1) ↔ 0 < held other ∧ other ≠ token := by
      rw [tokens_others, List.mem_filter, h.listed, bne_iff_ne]
    unfold tokens Connections.set
    by_cases heq : other = token
    · subst heq
      rw [Function.update_self]
      split
      case isTrue hzero => simp [hothers, hzero]
      case isFalse hn => simp [Nat.pos_of_ne_zero hn]
    · rw [Function.update_of_ne heq]
      split
      case isTrue => simp [hothers, heq]
      case isFalse => simp only [List.map_cons, List.mem_cons, hothers]; simp [heq]
  have hfilter : ((c.others token).map (·.1)).Nodup := by
    rw [tokens_others]
    exact h.distinct.filter _
  -- distinct tokens, the counts, and the total
  refine ⟨?_, fun other => ?_, hmem, ?_⟩
  · unfold tokens Connections.set
    split
    case isTrue => exact hfilter
    case isFalse =>
      refine List.nodup_cons.mpr ⟨?_, hfilter⟩
      rw [tokens_others]
      simp
  · unfold count Connections.set
    by_cases heq : other = token
    · subst heq
      rw [Function.update_self]
      split
      case isTrue hzero => rw [find?_others_self, hzero]; rfl
      case isFalse => simp
    · rw [Function.update_of_ne heq, ← h.count_eq other, count]
      split
      case isTrue => rw [find?_others heq]
      case isFalse =>
        rw [List.find?_cons_of_neg (by simpa using Ne.symm heq), find?_others heq]
  · show total = (Connections.counts _ |>.map (·.2)).sum
    unfold Connections.set
    split
    case isTrue hzero => show total = ((c.others token).map (·.2)).sum; omega
    case isFalse =>
      rw [List.map_cons, List.sum_cons]
      omega

/-! ## Admitting and ending -/

/-- One more connection is admitted exactly when the token has room for it. -/
theorem acquire?_one (h : c.Counts held) (token : String) :
    c.acquire? token 1 =
      if held token < c.limit then some (c.set token (held token + 1) (c.total + 1)) else none := by
  unfold acquire? Connections.set
  rw [h.count_eq]
  by_cases hroom : held token < c.limit
  · rw [if_neg (by omega), if_pos hroom, if_neg (by omega)]
  · rw [if_pos (by omega), if_neg hroom]

/-- There are no more connections of a token than there are in all. -/
theorem Counts.le_total (h : c.Counts held) (token : String) : held token ≤ c.total := by
  have hsum := sum_counts h.distinct token
  rw [← h.total_eq, h.count_eq] at hsum
  omega

/-- A connection that there is ends. -/
theorem release_one (h : c.Counts held) (hpos : 0 < held token) :
    c.release token 1 = c.set token (held token - 1) (c.total - 1) := by
  have hlists : c.lists token = true := lists_iff.mpr ((h.listed token).mpr hpos)
  unfold release Connections.set
  rw [if_pos hlists, h.count_eq, Nat.min_eq_left hpos]

theorem limit_release (c : Connections) (token : String) (n : Nat) :
    (c.release token n).limit = c.limit := by
  unfold release
  split <;> rfl

/-- To end a connection is to take back that it was admitted. -/
theorem Counts.release (h : c.Counts (Function.update held token (held token + 1))) :
    (c.release token 1).Counts held := by
  have hself : Function.update held token (held token + 1) token = held token + 1 :=
    Function.update_self _ _ _
  have htotal := h.le_total token
  have hset : (c.set token (held token) (c.total - 1)).Counts _ := h.set token _ (by omega)
  -- the count is set to what it was before
  rw [Function.update_idem, Function.update_eq_self] at hset
  rwa [release_one h (by omega), hself]

end Turnpike.Traffic.Connections
