/-
  One token among many.

  A limiter holds a bucket for each token that was charged lately, and there is room for so many.
  When there is no room left, the one goes that was not used for the longest time.  So tokens could
  have an influence on each other, and it is to be shown that they mostly do not.

  1. **A token alone** (`answersAlone`).  A limiter answers a charge from the bucket of its token,
     and the charges to other tokens leave that bucket as it is, or push it out
     (`held?_after_of_ne`).  So a token whose bucket is kept until it is charged again (`Keeps`) is
     answered as if there were no other (`answersTo_eq_answersAlone`).

  2. **The last used ones** (`Behind`).  The slots stand in the order of their last use.  Before the
     slot of a token there are only slots of tokens that were charged since, each of them once.  A
     charge to another token brings its slot to the front, so it adds that token at most
     (`Behind.after`).

  3. **Often enough** (`keeps_of_frequent`).  So the bucket is kept while these are fewer than the
     slots there is room for.  It is enough that between one charge to the token and the next there
     are so few others, however often these are charged.

  A call is one instant here: `now` stands for every reading of the clock in it, when the slot is
  looked up, when a bucket is made or refilled, and when the use is noted.
-/
import Mathlib.Data.Finset.Card
import Turnpike.Traffic.Limiter

namespace Turnpike.Traffic

/-- The time without use after which a bucket of this rate is made anew. -/
def Rate.patience (r : Rate) : Nat := min (r.period * 10) longestSpan

namespace Limiter

/-! ## Charges -/

/-- A charge: to whom, when and how much. -/
structure Charge where
  token : String
  now : Nat
  amount : Nat
  deriving DecidableEq

/-- The limiter after a charge. -/
def after (l : Limiter) (c : Charge) : Limiter := (l.consume c.token c.now c.amount).1

/-- The answer to a charge. -/
def answer (l : Limiter) (c : Charge) : Result Nat := (l.consume c.token c.now c.amount).2

/-- The limiter after some charges. -/
def run (l : Limiter) (cs : List Charge) : Limiter := cs.foldl after l

/-- What the charges to a token are answered. -/
def answersTo (l : Limiter) (token : String) : List Charge → List (Result Nat)
  | [] => []
  | c :: cs =>
    if c.token = token then l.answer c :: (l.after c).answersTo token cs
    else (l.after c).answersTo token cs

/-- The times and amounts of the charges to a token. -/
def chargesTo (token : String) (cs : List Charge) : List (Nat × Nat) :=
  (cs.filter fun c => decide (c.token = token)).map fun c => (c.now, c.amount)

/-- A token that is charged again still has its bucket: it is never pushed out by others. -/
def Keeps (l : Limiter) (token : String) (cs : List Charge) : Prop :=
  ∀ before c after, cs = before ++ c :: after → c.token = token →
    token ∈ before.map (·.token) → ((l.run before).find? token).isSome

/-- Fewer than `capacity` other tokens are charged between a charge to the token and the next. -/
def Frequent (token : String) (capacity : Nat) (cs : List Charge) : Prop :=
  ∀ before c between d after, cs = before ++ c :: (between ++ d :: after) → c.token = token →
    d.token = token → (∀ e ∈ between, e.token ≠ token) →
      (between.map (·.token)).toFinset.card < capacity

/-! ## A token alone -/

/-- The bucket to charge at `now`, of a token whose bucket and time of last use are these. -/
def bucketAt (rate : Rate) (burst : Nat) (held : Option (Bucket × Nat)) (now : Nat) : Bucket :=
  match held with
  | some (b, seen) => if rate.patience < now - seen then .full rate burst now else b
  | none => .full rate burst now

/-- What charges are answered when there is only one token. -/
def answersAlone (rate : Rate) (burst : Nat) :
    Option (Bucket × Nat) → List (Nat × Nat) → List (Result Nat)
  | _, [] => []
  | held, (now, n) :: cs =>
    ((bucketAt rate burst held now).consume now n).2 ::
      answersAlone rate burst (some (((bucketAt rate burst held now).consume now n).1, now)) cs

/-- The bucket of a token with the time of its last use. -/
def held? (l : Limiter) (token : String) : Option (Bucket × Nat) :=
  (l.find? token).map fun s => (s.bucket, s.lastSeen)

variable {l : Limiter} {token : String} {c : Charge} {cs : List Charge}
  {held : Option (Bucket × Nat)}

theorem chargesTo_cons_self (hc : c.token = token) (cs : List Charge) :
    chargesTo token (c :: cs) = (c.now, c.amount) :: chargesTo token cs := by
  unfold chargesTo
  rw [List.filter_cons_of_pos (by simpa using hc), List.map_cons]

theorem chargesTo_cons_of_ne (hc : c.token ≠ token) (cs : List Charge) :
    chargesTo token (c :: cs) = chargesTo token cs := by
  unfold chargesTo
  rw [List.filter_cons_of_neg (by simpa using hc)]

theorem rate_after (l : Limiter) (c : Charge) : (l.after c).rate = l.rate := rfl

theorem burst_after (l : Limiter) (c : Charge) : (l.after c).burst = l.burst := rfl

theorem capacity_after (l : Limiter) (c : Charge) : (l.after c).capacity = l.capacity := rfl

theorem capacity_run (l : Limiter) (cs : List Charge) : (l.run cs).capacity = l.capacity := by
  induction cs generalizing l with
  | nil => rfl
  | cons c cs ih => exact (ih (l.after c)).trans (capacity_after l c)

theorem idleLimit_eq (l : Limiter) : l.idleLimit = l.rate.patience := rfl

/-- The bucket that is charged is that of the token alone. -/
theorem bucketFor_fst (l : Limiter) (token : String) (now : Nat) :
    (l.bucketFor token now).1 = bucketAt l.rate l.burst (l.held? token) now := by
  unfold bucketFor held?
  cases l.find? token with
  | none => rfl
  | some s =>
    show (if l.idleLimit < now - s.lastSeen then _ else _ : Bucket × List Slot).1 =
      if l.rate.patience < now - s.lastSeen then _ else _
    rw [idleLimit_eq]
    split
    · rfl
    · rfl

theorem answer_eq (l : Limiter) (c : Charge) :
    l.answer c = ((bucketAt l.rate l.burst (l.held? c.token) c.now).consume c.now c.amount).2 := by
  rw [← bucketFor_fst]
  rfl

/-- The slot that a charge leaves. -/
def charged (l : Limiter) (c : Charge) : Slot :=
  ⟨c.token, ((bucketAt l.rate l.burst (l.held? c.token) c.now).consume c.now c.amount).1, c.now⟩

theorem slots_after (l : Limiter) (c : Charge) :
    (l.after c).slots = l.charged c :: (l.bucketFor c.token c.now).2 := by
  rw [charged, ← bucketFor_fst]
  rfl

/-- After a charge the token has the bucket that was charged. -/
theorem held?_after_self (l : Limiter) (c : Charge) :
    (l.after c).held? c.token = some ((l.charged c).bucket, c.now) := by
  have hfind : (l.after c).find? c.token = some (l.charged c) := by
    unfold find?
    rw [slots_after]
    exact List.find?_cons_of_pos (beq_self_eq_true c.token)
  rw [held?, hfind]
  rfl

/-- The slots of the others stay, or the first ones do, those last used. -/
theorem bucketFor_snd_cases (l : Limiter) (token : String) (now : Nat) :
    (l.bucketFor token now).2 = l.others token ∨
      (l.bucketFor token now).2 = (l.others token).take (l.capacity - 1) := by
  unfold bucketFor
  cases l.find? token with
  | none => exact .inr rfl
  | some s =>
    left
    show (if l.idleLimit < now - s.lastSeen then _ else _ : Bucket × List Slot).2 = _
    split
    · rfl
    · rfl

/-- Of the slots of the others, the first ones stay. -/
theorem bucketFor_snd_first (l : Limiter) (token : String) (now : Nat) :
    (l.bucketFor token now).2 <+: l.others token := by
  rcases bucketFor_snd_cases l token now with heq | heq
  · rw [heq]
  · rw [heq]
    exact List.take_prefix _ _

/-- A charge to another token changes nothing, or pushes the bucket out. -/
theorem find?_of_after (hne : c.token ≠ token) {s : Slot}
    (h : (l.after c).find? token = some s) : l.find? token = some s := by
  unfold find? at h ⊢
  rw [slots_after, List.find?_cons_of_neg (by simpa [charged] using hne)] at h
  have hother := (bucketFor_snd_first l c.token c.now).find?_eq_some h
  rw [others, List.find?_filter] at hother
  -- only slots of the charged token are left out, and the one looked for is none of them
  rw [← hother]
  congr 1
  funext x
  by_cases hx : x.token = token
  · simp [hx, hne.symm]
  · simp [hx]

/-- A charge to another token leaves the bucket as it is, or pushes it out. -/
theorem held?_after_of_ne (hne : c.token ≠ token) :
    (l.after c).held? token = none ∨ (l.after c).held? token = l.held? token := by
  unfold held?
  cases hfind : (l.after c).find? token with
  | none => exact .inl rfl
  | some s =>
    right
    rw [find?_of_after hne hfind]

/-- A token that is kept until it is charged again is answered as if there were no other. -/
theorem answersTo_eq_answersAlone (hheld : l.held? token = held ∨ l.held? token = none)
    (hkeeps : ∀ before c after, cs = before ++ c :: after → c.token = token →
      held.isSome ∨ token ∈ before.map (·.token) → ((l.run before).find? token).isSome) :
    l.answersTo token cs = answersAlone l.rate l.burst held (chargesTo token cs) := by
  -- along the charges: those to the token lead on to its next bucket, the others leave it
  induction cs generalizing l held with
  | nil => rfl
  | cons c cs ih =>
    by_cases hc : c.token = token
    · -- the bucket is there, or there has been none
      have hsame : l.held? c.token = held := by
        rw [hc]
        rcases hheld with heq | hnone
        · exact heq
        · cases held with
          | none => exact hnone
          | some held =>
            have hsome := hkeeps [] c cs rfl hc (.inl rfl)
            rw [held?, Option.map_eq_none_iff] at hnone
            rw [run, List.foldl_nil, hnone] at hsome
            cases hsome
      have hrest := @ih (l.after c)
        (some (((bucketAt l.rate l.burst held c.now).consume c.now c.amount).1, c.now))
        (.inl (by rw [← hc, held?_after_self, charged, hsame]))
        fun before d after heq hd _ => hkeeps (c :: before) d after
          (by rw [heq, List.cons_append]) hd (.inr (by rw [← hc]; exact List.mem_cons_self))
      rw [answersTo, if_pos hc, answer_eq, hsame, hrest, chargesTo_cons_self hc, rate_after,
        burst_after, answersAlone]
    · have hrest := @ih (l.after c) held
        (by
          rcases held?_after_of_ne (l := l) hc with hnone | heq
          · exact .inr hnone
          · rw [heq]
            exact hheld)
        fun before d after heq hd hused => hkeeps (c :: before) d after
          (by rw [heq, List.cons_append]) hd
          (hused.imp_right fun hmem => List.mem_cons_of_mem _ hmem)
      rw [answersTo, if_neg hc, hrest, chargesTo_cons_of_ne hc, rate_after, burst_after]

/-- In a new limiter, a token that is kept is answered as if there were no other. -/
theorem Keeps.answersTo_eq {rate : Rate} {burst capacity : Nat}
    (h : (make rate burst capacity).Keeps token cs) :
    (make rate burst capacity).answersTo token cs =
      answersAlone rate (max burst 1) none (chargesTo token cs) := by
  refine answersTo_eq_answersAlone (.inl rfl) fun before c after heq hc hused => ?_
  rcases hused with hsome | hmem
  · cases hsome
  · exact h before c after heq hc hmem

/-! ## The last used ones -/

/-- The slots before that of the token are those of other tokens, and each is one of these. -/
def Behind (l : Limiter) (token : String) (since : Finset String) : Prop :=
  ∃ newer s older, l.slots = newer ++ s :: older ∧ s.token = token ∧
    (newer.map (·.token)).Nodup ∧ ∀ x ∈ newer, x.token ≠ token ∧ x.token ∈ since

variable {since : Finset String}

theorem Behind.isSome (h : l.Behind token since) : (l.find? token).isSome := by
  obtain ⟨newer, s, older, hslots, hs, -, -⟩ := h
  rw [find?, hslots, List.find?_isSome]
  exact ⟨s, List.mem_append_right newer List.mem_cons_self, by simpa using hs⟩

/-- Right after a charge no slot stands before that of the token. -/
theorem behind_after_self (l : Limiter) (c : Charge) : (l.after c).Behind c.token ∅ :=
  ⟨[], _, _, slots_after l c, rfl, List.nodup_nil, fun _ h => absurd h List.not_mem_nil⟩

/-- Distinct tokens out of some are not more than those. -/
theorem length_le_card {names : List String} (h : names.Nodup) (hsub : ∀ x ∈ names, x ∈ since) :
    names.length ≤ since.card := by
  rw [← List.toFinset_card_of_nodup h]
  exact Finset.card_le_card fun x hx => hsub x (List.mem_toFinset.mp hx)

/-- Without the slot of one token, those before the slot of another stay before it. -/
theorem exists_kept {newer older : List Slot} {s : Slot} (hslots : l.slots = newer ++ s :: older)
    (hne : s.token ≠ token) (hnodup : (newer.map (·.token)).Nodup) :
    ∃ kept older', l.others token = kept ++ s :: older' ∧
      (token :: kept.map (·.token)).Nodup ∧ ∀ x ∈ kept, x ∈ newer := by
  -- the slot of the charged token is taken out on both sides
  refine ⟨newer.filter (·.token != token), older.filter (·.token != token), ?_, ?_, ?_⟩
  · rw [others, hslots, List.filter_append]
    congr 1
    exact List.filter_cons_of_pos (by simpa using hne)
  · refine List.nodup_cons.mpr ⟨fun hmem => ?_, hnodup.sublist (List.filter_sublist.map _)⟩
    obtain ⟨x, hx, heq⟩ := List.mem_map.mp hmem
    have hother : x.token ≠ token := by simpa using (List.mem_filter.mp hx).2
    exact hother heq
  · intro x hx
    exact (List.mem_filter.mp hx).1

/-- A slot that is not among the last ones of the others stays where it is. -/
theorem exists_older (l : Limiter) (token : String) (now : Nat) {newer older : List Slot} {s : Slot}
    (hothers : l.others token = newer ++ s :: older) (hroom : newer.length + 1 < l.capacity) :
    ∃ older', (l.bucketFor token now).2 = newer ++ s :: older' := by
  rcases bucketFor_snd_cases l token now with heq | heq
  · exact ⟨older, heq.trans hothers⟩
  · refine ⟨older.take (l.capacity - 1 - newer.length - 1), ?_⟩
    have hone : l.capacity - 1 - newer.length = l.capacity - 1 - newer.length - 1 + 1 := by omega
    rw [heq, hothers, List.take_append, List.take_of_length_le (by omega), hone,
      List.take_succ_cons, Nat.add_sub_cancel]

/-- While there is room for the tokens charged since, the slot moves back, but not out. -/
theorem Behind.after (h : l.Behind token since) (hne : c.token ≠ token)
    (hroom : (insert c.token since).card < l.capacity) :
    (l.after c).Behind token (insert c.token since) := by
  obtain ⟨newer, s, older, hslots, hs, hnodup, hnewer⟩ := h
  have hsc : s.token ≠ c.token := by
    rw [hs]
    exact hne.symm
  obtain ⟨kept, older, hothers, hdistinct, hkept⟩ := exists_kept hslots hsc hnodup
  have hsince : ∀ x ∈ kept, x.token ∈ insert c.token since := by
    intro x hx
    exact Finset.mem_insert_of_mem (hnewer x (hkept x hx)).2
  -- the slots before are distinct tokens charged since, so that they are fewer than there is room
  have hfew : (c.token :: kept.map (·.token)).length ≤ (insert c.token since).card := by
    refine length_le_card hdistinct (List.forall_mem_cons.mpr ⟨Finset.mem_insert_self _ _, ?_⟩)
    intro name hname
    obtain ⟨x, hx, rfl⟩ := List.mem_map.mp hname
    exact hsince x hx
  rw [List.length_cons, List.length_map] at hfew
  obtain ⟨older', hrest⟩ := exists_older l c.token c.now hothers (by omega)
  refine ⟨l.charged c :: kept, s, older', ?_, hs, hdistinct, ?_⟩
  · rw [slots_after, hrest, List.cons_append]
  · refine List.forall_mem_cons.mpr ⟨⟨hne, Finset.mem_insert_self _ _⟩, fun x hx => ?_⟩
    exact ⟨(hnewer x (hkept x hx)).1, hsince x hx⟩

/-- So it stays while there is room for all the tokens that are charged. -/
theorem Behind.run (h : l.Behind token since) {between : List Charge}
    (hnone : ∀ e ∈ between, e.token ≠ token)
    (hroom : (since ∪ (between.map (·.token)).toFinset).card < l.capacity) :
    ((l.run between).find? token).isSome := by
  induction between generalizing l since with
  | nil => exact h.isSome
  | cons e between ih =>
    obtain ⟨hne, hnone⟩ := List.forall_mem_cons.mp hnone
    have hall : since ∪ ((e :: between).map (·.token)).toFinset =
        insert e.token since ∪ (between.map (·.token)).toFinset := by
      rw [List.map_cons, List.toFinset_cons, Finset.union_insert, Finset.insert_union]
    rw [hall] at hroom
    refine ih (h.after hne (Nat.lt_of_le_of_lt ?_ hroom)) hnone hroom
    exact Finset.card_le_card Finset.subset_union_left

/-- A token that was charged was charged a last time. -/
theorem exists_last {before : List Charge} (h : token ∈ before.map (·.token)) :
    ∃ earlier c between, before = earlier ++ c :: between ∧ c.token = token ∧
      ∀ e ∈ between, e.token ≠ token := by
  induction before with
  | nil => cases h
  | cons d before ih =>
    by_cases hmem : token ∈ before.map (·.token)
    · obtain ⟨earlier, c, between, rfl, hc, hnone⟩ := ih hmem
      exact ⟨d :: earlier, c, between, rfl, hc, hnone⟩
    · refine ⟨[], d, before, rfl, ?_, fun e he heq => hmem (heq ▸ List.mem_map_of_mem he)⟩
      rcases List.mem_cons.mp h with heq | h
      · exact heq.symm
      · exact absurd h hmem

/-- When there are only few tokens, each is charged often enough. -/
theorem frequent_of_few {capacity : Nat}
    (h : ((cs.map (·.token)).toFinset.erase token).card < capacity) :
    Frequent token capacity cs := by
  rintro before c between d after rfl - - hnone
  refine Nat.lt_of_le_of_lt (Finset.card_le_card fun x hx => ?_) h
  obtain ⟨e, he, rfl⟩ := List.mem_map.mp (List.mem_toFinset.mp hx)
  refine Finset.mem_erase.mpr ⟨hnone e he, List.mem_toFinset.mpr (List.mem_map_of_mem ?_)⟩
  exact List.mem_append_right _ (List.mem_cons_of_mem _ (List.mem_append_left _ he))

/-- A token that is charged often enough keeps its bucket. -/
theorem keeps_of_frequent (h : Frequent token l.capacity cs) : l.Keeps token cs := by
  intro before d after heq hd hmem
  obtain ⟨earlier, c, between, rfl, hc, hnone⟩ := exists_last hmem
  have hfew := h earlier c between d after (by rw [heq, List.append_assoc, List.cons_append]) hc hd
    hnone
  have hbehind : ((l.run earlier).after c).Behind token ∅ := by
    rw [← hc]
    exact behind_after_self _ c
  have hcapacity : ((l.run earlier).after c).capacity = l.capacity := by
    rw [capacity_after, capacity_run]
  have hsome := hbehind.run hnone (by rwa [Finset.empty_union, hcapacity])
  rwa [run, List.foldl_append]

end Limiter

end Turnpike.Traffic
