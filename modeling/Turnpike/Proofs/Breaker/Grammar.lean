/-
  What a trip condition is, and what it says.

  A circuit breaker opens when its condition holds of the counters, and the condition is a text that
  the operator has written.  Reading it is a recursion on the tokens which looks for one comparison
  after another and decides by the token behind each what comes next.  What is a condition should be
  said without that.

  1. **The grammar** (`Disjunction`).  A condition is a disjunction of conjunctions of comparisons,
     so the conjunction binds tighter; a comparison is a metric, an operator and a number, and a
     metric is a name with numbers between brackets.  `Disjunction` derives tokens from these rules,
     with the comparisons that they state, group by group.

  2. **Metrics** (`Metric.Takes`).  Four names take no numbers.  The ratio of response codes takes
     four, which bound two ranges of multiples of a hundred, and neither range is empty.

  3. **Both directions**, rule by rule.  Tokens that are derived are read, whatever stands behind
     them (`Applied.read`, `Comparison.Derives.read`, `Disjunction.read`), and tokens that have been
     read are derived (`applied_of_readMetric`, `derives_of_readComparison`, `disjunction_of_read`).
     The grammar goes by groups and the reader by comparisons: the crux is that a comparison and a
     conjunction in front of derived tokens join their first group (`Disjunction.cons_and`).

  4. **Texts** (`parse_ok_iff_states`).  A text is a condition just when its tokens are derived, and
     it says that in one of its groups all comparisons hold.
-/
import Turnpike.Proofs.Breaker.Scanning

namespace Turnpike.Breaker

open Turnpike.Number

/-! ## The grammar -/

/-- Numbers with commas between them. -/
inductive Numbers : List Nat → List Token → Prop where
  | one {v : Nat} : Numbers [v] [.number v]
  | more {v : Nat} {vs : List Nat} {ts : List Token} :
      Numbers vs ts → Numbers (v :: vs) (.number v :: .comma :: ts)

/-- A name with its arguments, if any, between brackets. -/
inductive Applied : String → List Nat → List Token → Prop where
  | bare {name : String} : Applied name [] [.ident name, .openParen, .closeParen]
  | applied {name : String} {vs : List Nat} {ts : List Token} :
      Numbers vs ts → Applied name vs (.ident name :: .openParen :: (ts ++ [.closeParen]))

/-- The metrics without arguments, by their names. -/
def plainMetrics : List (String × Metric) :=
  [("NetworkErrorRatio", .networkErrorRatio), ("FailureRatio", .failureRatio),
    ("MeanLatencyMS", .meanLatency), ("RequestCount", .requestCount)]

/-- The value is that of a multiple of a hundred, 600 at most. -/
def IsHundred (v n : Nat) : Prop := 100 ∣ n ∧ n ≤ 600 ∧ v = ofDecimal n 0

/-- The metric of a name and arguments: four bounds make two ranges, and neither is empty. -/
inductive Metric.Takes : Metric → String → List Nat → Prop where
  | plain {name : String} {m : Metric} : (name, m) ∈ plainMetrics → Takes m name []
  | responseCodes {a b c d fromA toA fromB toB : Nat} :
      IsHundred a fromA → IsHundred b toA → IsHundred c fromB → IsHundred d toB →
      fromA < toA → fromB < toB →
      Takes (.responseCodeRatio fromA toA fromB toB) "ResponseCodeRatio" [a, b, c, d]

/-- A comparison: a metric, an operator and a number. -/
inductive Comparison.Derives : Comparison → List Token → Prop where
  | compare {name : String} {vs : List Nat} {ts : List Token} {m : Metric} {o : Operator} {v : Nat} :
      Applied name vs ts → m.Takes name vs → Derives ⟨m, o, v⟩ (ts ++ [.operator o, .number v])

/-- Comparisons joined by the conjunction. -/
inductive Conjunction : List Comparison → List Token → Prop where
  | one {c : Comparison} {ts : List Token} : c.Derives ts → Conjunction [c] ts
  | more {c : Comparison} {cs : List Comparison} {ts us : List Token} :
      c.Derives ts → Conjunction cs us → Conjunction (c :: cs) (ts ++ .and :: us)

/-- Conjunctions joined by the disjunction. -/
inductive Disjunction : List (List Comparison) → List Token → Prop where
  | one {cs : List Comparison} {ts : List Token} : Conjunction cs ts → Disjunction [cs] ts
  | more {cs : List Comparison} {gs : List (List Comparison)} {ts us : List Token} :
      Conjunction cs ts → Disjunction gs us → Disjunction (cs :: gs) (ts ++ .or :: us)

/-! ## Metrics -/

/-- The metrics without arguments are found by their names. -/
theorem plainMetric?_eq_some_iff {name : String} {m : Metric} :
    plainMetric? name = some m ↔ (name, m) ∈ plainMetrics := by
  constructor
  · intro h
    unfold plainMetric? at h
    split at h <;> cases h <;> decide
  · intro h
    simp only [plainMetrics, List.mem_cons, Prod.mk.injEq, List.not_mem_nil, or_false] at h
    rcases h with ⟨rfl, rfl⟩ | ⟨rfl, rfl⟩ | ⟨rfl, rfl⟩ | ⟨rfl, rfl⟩ <;> rfl

/-- A value is found among the multiples of a hundred if it is one of them. -/
theorem hundred?_eq_some_iff {v n : Nat} : hundred? v = some n ↔ IsHundred v n := by
  have hvalue : ofDecimal n 0 = ofQuotient n 1 := by simp [ofDecimal]
  constructor
  · intro h
    have hmem := List.mem_of_find?_eq_some h
    have heq := List.find?_some h
    simp only [List.mem_cons, List.not_mem_nil, or_false] at hmem
    exact ⟨by omega, by omega, by rw [hvalue, eq_of_beq heq]⟩
  · rintro ⟨⟨k, rfl⟩, hle, rfl⟩
    -- there are seven of them
    have hall : ∀ k < 7, hundred? (ofDecimal (100 * k) 0) = some (100 * k) := by decide +kernel
    exact hall k (by omega)

/-- And it is refused otherwise. -/
theorem hundred_eq_ok_iff {v n : Nat} : hundred v = .ok n ↔ IsHundred v n := by
  rw [← hundred?_eq_some_iff, hundred]
  cases hundred? v with
  | none => exact iff_of_false nofun nofun
  | some m => exact ⟨fun h => by cases h; rfl, fun h => by cases h; rfl⟩

/-- Four numbers are taken just when they bound two ranges that are not empty. -/
theorem responseCodes_eq_ok_iff {a b c d : Nat} {m : Metric} :
    responseCodes a b c d = .ok m ↔ m.Takes "ResponseCodeRatio" [a, b, c, d] := by
  simp only [responseCodes, Result.bind_eq_ok, hundred_eq_ok_iff]
  constructor
  · rintro ⟨fromA, ha, toA, hb, fromB, hc, toB, hd, h⟩
    split at h
    case isTrue => cases h
    case isFalse hne =>
      cases h
      exact .responseCodes ha hb hc hd (by omega) (by omega)
  · intro h
    cases h with
    | responseCodes ha hb hc hd hltA hltB =>
      exact ⟨_, ha, _, hb, _, hc, _, hd, if_neg (by omega)⟩

/-- A name and arguments make the metric that takes them. -/
theorem metricOf_eq_ok_iff {name : String} {vs : List Nat} {m : Metric} :
    metricOf name vs = .ok m ↔ m.Takes name vs := by
  constructor
  · intro h
    unfold metricOf at h
    split at h
    case h_1 m' hm =>
      split at h
      case isTrue hvs =>
        cases h
        rw [hvs]
        exact .plain (plainMetric?_eq_some_iff.mp hm)
      case isFalse => cases h
    case h_2 =>
      split at h
      case isTrue hname =>
        split at h
        case h_1 =>
          rw [hname]
          exact responseCodes_eq_ok_iff.mp h
        case h_2 => cases h
      case isFalse => cases h
  · intro h
    have hratio : plainMetric? "ResponseCodeRatio" = none := rfl
    cases h with
    | plain hm =>
      unfold metricOf
      rw [plainMetric?_eq_some_iff.mpr hm]
      rfl
    | responseCodes ha hb hc hd hltA hltB =>
      unfold metricOf
      rw [hratio]
      exact responseCodes_eq_ok_iff.mpr (.responseCodes ha hb hc hd hltA hltB)

/-! ## Reading comparisons -/

/-- Numbers are read up to the bracket. -/
theorem Numbers.read {vs : List Nat} {ts : List Token} (h : Numbers vs ts) (name : String)
    (first : Bool) (r : List Token) :
    readArguments name first (ts ++ .closeParen :: r) = .ok (vs, r) := by
  induction h generalizing first with
  | one => rfl
  | more _ ih =>
    rw [List.cons_append, List.cons_append, readArguments, ih false]
    rfl

/-- What is read up to the bracket are numbers, or nothing where there may be nothing. -/
theorem numbers_of_readArguments {name : String} {first : Bool} {ts r : List Token}
    {vs : List Nat} (h : readArguments name first ts = .ok (vs, r)) :
    (first = true ∧ vs = [] ∧ ts = .closeParen :: r) ∨
      ∃ us, Numbers vs us ∧ ts = us ++ .closeParen :: r := by
  fun_induction readArguments name first ts generalizing vs r
  -- a number and a comma
  case case1 ih =>
    obtain ⟨⟨vs', r'⟩, hread, he⟩ := Result.map_eq_ok.mp h
    cases he
    rcases ih hread with ⟨hfirst, -⟩ | ⟨us, hus, rfl⟩
    · cases hfirst
    · exact .inr ⟨_, hus.more, rfl⟩
  -- the last number
  case case2 =>
    cases h
    exact .inr ⟨_, .one, rfl⟩
  -- no numbers at all
  case case3 =>
    cases h
    exact .inl ⟨rfl, rfl, rfl⟩
  all_goals cases h

/-- A name with its arguments is read, and may be refused as a metric. -/
theorem Applied.read {name : String} {vs : List Nat} {ts : List Token} (h : Applied name vs ts)
    (r : List Token) : readMetric (ts ++ r) = (metricOf name vs).map (·, r) := by
  cases h with
  | bare => rfl
  | applied hvs =>
    rw [List.cons_append, List.cons_append, List.append_assoc, readMetric, List.singleton_append,
      hvs.read]

/-- What is read as a metric is a name with arguments that it takes. -/
theorem applied_of_readMetric {ts r : List Token} {m : Metric} (h : readMetric ts = .ok (m, r)) :
    ∃ name vs us, Applied name vs us ∧ m.Takes name vs ∧ ts = us ++ r := by
  unfold readMetric at h
  split at h
  case h_2 name r' =>
    split at h
    case h_1 => cases h
    case h_2 vs r'' hread =>
      obtain ⟨m', hm, he⟩ := Result.map_eq_ok.mp h
      cases he
      have htakes := metricOf_eq_ok_iff.mp hm
      rcases numbers_of_readArguments hread with ⟨-, rfl, rfl⟩ | ⟨us, hus, rfl⟩
      · exact ⟨name, [], _, .bare, htakes, rfl⟩
      · refine ⟨name, vs, _, .applied hus, htakes, ?_⟩
        rw [List.cons_append, List.cons_append, List.append_assoc, List.singleton_append]
  all_goals cases h

/-- A comparison is read, whatever stands behind it. -/
theorem Comparison.Derives.read {c : Comparison} {ts : List Token} (h : c.Derives ts)
    (r : List Token) : readComparison (ts ++ r) = .ok (c, r) := by
  cases h with
  | compare happlied htakes =>
    rw [List.append_assoc, readComparison, happlied.read, metricOf_eq_ok_iff.mpr htakes]
    rfl

/-- What is read as a comparison is one. -/
theorem derives_of_readComparison {ts r : List Token} {c : Comparison}
    (h : readComparison ts = .ok (c, r)) : ∃ us, c.Derives us ∧ ts = us ++ r := by
  unfold readComparison at h
  split at h
  case h_2 hm =>
    cases h
    obtain ⟨name, vs, us, happlied, htakes, rfl⟩ := applied_of_readMetric hm
    refine ⟨_, .compare happlied htakes, ?_⟩
    rw [List.append_assoc]
    rfl
  all_goals cases h

/-! ## Reading conditions -/

/-- A comparison at the end is a group of its own. -/
theorem readDisjunction_last {ts : List Token} {c : Comparison}
    (h : readComparison ts = .ok (c, [])) : readDisjunction ts = .ok [[c]] := by
  rw [readDisjunction]
  split
  case h_1 he => rw [h] at he; cases he
  case h_2 he => rw [h] at he; cases he; rfl

/-- A comparison in front of a conjunction joins the first group of the rest. -/
theorem readDisjunction_and {ts r : List Token} {c : Comparison}
    (h : readComparison ts = .ok (c, .and :: r)) :
    readDisjunction ts = (readDisjunction r).map (consFirst c) := by
  rw [readDisjunction]
  split
  case h_1 he => rw [h] at he; cases he
  case h_2 he => rw [h] at he; cases he; rfl

/-- A comparison in front of a disjunction is a group of its own. -/
theorem readDisjunction_or {ts r : List Token} {c : Comparison}
    (h : readComparison ts = .ok (c, .or :: r)) :
    readDisjunction ts = (readDisjunction r).map ([c] :: ·) := by
  rw [readDisjunction]
  split
  case h_1 he => rw [h] at he; cases he
  case h_2 he => rw [h] at he; cases he; rfl

/-- A conjunction is read as one group. -/
theorem Conjunction.read {cs : List Comparison} {ts : List Token} (h : Conjunction cs ts) :
    readDisjunction ts = .ok [cs] := by
  induction h with
  | one hc =>
    have hread := hc.read []
    rw [List.append_nil] at hread
    exact readDisjunction_last hread
  | more hc _ ih =>
    rw [readDisjunction_and (hc.read _), ih]
    rfl

/-- Behind a conjunction, the groups of the rest follow. -/
theorem Conjunction.read_or {cs : List Comparison} {ts : List Token} (h : Conjunction cs ts)
    (us : List Token) :
    readDisjunction (ts ++ .or :: us) = (readDisjunction us).map (cs :: ·) := by
  induction h with
  | one hc => exact readDisjunction_or (hc.read _)
  | more hc _ ih =>
    rw [List.append_assoc, List.cons_append, readDisjunction_and (hc.read _), ih]
    cases readDisjunction us <;> rfl

/-- From tokens that are derived the groups are read that they state. -/
theorem Disjunction.read {gs : List (List Comparison)} {ts : List Token} (h : Disjunction gs ts) :
    readDisjunction ts = .ok gs := by
  induction h with
  | one hcs => exact hcs.read
  | more hcs _ ih =>
    rw [hcs.read_or, ih]
    rfl

/-- A comparison and a conjunction in front of groups join the first of them. -/
theorem Disjunction.cons_and {c : Comparison} {gs : List (List Comparison)} {ts us : List Token}
    (hc : c.Derives ts) (h : Disjunction gs us) :
    Disjunction (consFirst c gs) (ts ++ .and :: us) := by
  cases h with
  -- the first group is the only one, or there are more
  | one hcs => exact .one (.more hc hcs)
  | more hcs hgs =>
    have hmore := Disjunction.more (.more hc hcs) hgs
    rwa [List.append_assoc, List.cons_append] at hmore

/-- What is read from tokens, they state. -/
theorem disjunction_of_read {gs : List (List Comparison)} {ts : List Token}
    (h : readDisjunction ts = .ok gs) : Disjunction gs ts := by
  fun_induction readDisjunction ts generalizing gs
  case case1 => cases h
  -- nothing behind the comparison
  case case2 hread =>
    cases h
    obtain ⟨us, hc, rfl⟩ := derives_of_readComparison hread
    rw [List.append_nil]
    exact .one (.one hc)
  -- a conjunction behind it
  case case3 hread ih =>
    obtain ⟨gs, hgs, rfl⟩ := Result.map_eq_ok.mp h
    obtain ⟨us, hc, rfl⟩ := derives_of_readComparison hread
    exact .cons_and hc (ih hgs)
  -- a disjunction behind it
  case case4 hread ih =>
    obtain ⟨gs, hgs, rfl⟩ := Result.map_eq_ok.mp h
    obtain ⟨us, hc, rfl⟩ := derives_of_readComparison hread
    exact .more (.one hc) (ih hgs)
  case case5 => cases h

theorem readDisjunction_eq_ok_iff {gs : List (List Comparison)} {ts : List Token} :
    readDisjunction ts = .ok gs ↔ Disjunction gs ts := ⟨disjunction_of_read, Disjunction.read⟩

/-! ## Conditions -/

/-- The text is a condition with these groups of comparisons. -/
def States (s : String) (anyOf : List (List Comparison)) : Prop :=
  ∃ ts, Lexes s.toList ts ∧ Disjunction anyOf ts

/-- Nothing is no condition. -/
theorem Disjunction.ne_nil {gs : List (List Comparison)} {ts : List Token}
    (h : Disjunction gs ts) : ts ≠ [] := by
  rintro rfl
  have hread := h.read
  rw [readDisjunction] at hread
  cases hread

/-- A text has tokens if it is made of them, and is not empty. -/
theorem tokens_eq_ok_iff {s : String} {ts : List Token} :
    tokens s = .ok ts ↔ ts ≠ [] ∧ Lexes s.toList ts := by
  rw [← scan_eq_ok_iff, tokens]
  constructor
  · intro h
    -- an empty list of tokens is refused, also where the scan has succeeded
    split at h
    case h_1 => cases h
    case h_2 hne =>
      refine ⟨?_, h⟩
      rintro rfl
      exact hne h
  · rintro ⟨hne, hscan⟩
    rw [hscan]
    split
    case h_1 heq => cases heq; exact absurd rfl hne
    case h_2 => rfl

/-- From a text groups are read just when it states them. -/
theorem disjunctionOf_eq_ok_iff {s : String} {anyOf : List (List Comparison)} :
    disjunctionOf s = .ok anyOf ↔ States s anyOf := by
  unfold disjunctionOf
  constructor
  · intro h
    split at h
    case h_1 => cases h
    case h_2 ts hts =>
      exact ⟨ts, (tokens_eq_ok_iff.mp hts).2, readDisjunction_eq_ok_iff.mp h⟩
  · rintro ⟨ts, hlexes, hgroups⟩
    rw [tokens_eq_ok_iff.mpr ⟨hgroups.ne_nil, hlexes⟩]
    exact hgroups.read

/-- The condition of a text keeps the text, with the groups that it states. -/
theorem parse_eq_ok_iff {s : String} {c : Condition} :
    Condition.parse s = .ok c ↔ c.source = s ∧ States s c.anyOf := by
  rw [Condition.parse, ← disjunctionOf_eq_ok_iff]
  obtain ⟨source, anyOf⟩ := c
  cases disjunctionOf s with
  | error f => exact iff_of_false nofun fun h => nomatch h.2
  | ok gs =>
    constructor
    · intro h
      cases h
      exact ⟨rfl, rfl⟩
    · rintro ⟨rfl, h⟩
      cases h
      rfl

theorem holds_iff {c : Condition} {st : Stats} :
    c.holds st = true ↔ ∃ all ∈ c.anyOf, ∀ x ∈ all, x.holds st = true := by
  simp only [Condition.holds, List.any_eq_true, List.all_eq_true]

/-- A text is read exactly when it is a condition, and then the condition holds of counters when in
    one of its groups all comparisons do. -/
theorem parse_ok_iff_states (s : String) :
    ((∃ c, Condition.parse s = .ok c) ↔ ∃ anyOf, States s anyOf) ∧
    ∀ anyOf, States s anyOf ↔ ∃ c, Condition.parse s = .ok c ∧ c.anyOf = anyOf ∧
      ∀ st, c.holds st = true ↔ ∃ all ∈ anyOf, ∀ x ∈ all, x.holds st = true := by
  constructor
  · constructor
    · rintro ⟨c, hc⟩
      exact ⟨c.anyOf, (parse_eq_ok_iff.mp hc).2⟩
    · rintro ⟨anyOf, hstates⟩
      exact ⟨⟨s, anyOf⟩, parse_eq_ok_iff.mpr ⟨rfl, hstates⟩⟩
  · intro anyOf
    constructor
    · intro hstates
      exact ⟨⟨s, anyOf⟩, parse_eq_ok_iff.mpr ⟨rfl, hstates⟩, rfl, fun _ => holds_iff⟩
    · rintro ⟨c, hc, rfl, -⟩
      exact (parse_eq_ok_iff.mp hc).2

end Turnpike.Breaker
