/-
  Reading trip conditions.

  A condition is written as comparisons joined by two conjunctions, of which the one of
  disjunctions binds less.  A comparison is a metric with bracketed arguments, an operator and a
  number.  A number is a run of digits and points that forms a decimal; it is rounded to the
  nearest floating-point value.
-/
import Turnpike.Error
import Turnpike.Breaker.Condition
import Turnpike.Text.Blank
import Turnpike.Text.Ascii
import Turnpike.Text.Quoted

set_option linter.unusedVariables false

namespace Turnpike.Breaker

open Turnpike.Text Turnpike.Number

/-- One token of a condition. -/
inductive Token where
  | ident (name : String)
  | number (bits : Nat)
  | openParen
  | closeParen
  | comma
  | and
  | or
  | operator (o : Operator)
  deriving DecidableEq, Repr

/-- How numbers are shown in messages: with an exponent below 1e-4 and from 1e16 on. -/
def tokenStyle : Style :=
  { least := some (-4), limit := some 16, pointed := true, tie := .up, nan := "NaN",
    infinity := "inf" }

/-- How the bounds of response codes are shown in messages: never with an exponent. -/
def boundStyle : Style :=
  { least := none, limit := none, pointed := false, tie := .up, nan := "NaN", infinity := "inf" }

/-- How an operator is named in a message. -/
def Operator.shown : Operator → String
  | gt => "Gt"
  | ge => "Ge"
  | lt => "Lt"
  | le => "Le"
  | eq => "Eq"
  | ne => "Ne"

/-- How a token is named in a message. -/
def Token.shown : Token → String
  | .ident name => "Ident(" ++ Quoted.quoted name ++ ")"
  | .number bits => "Number(" ++ tokenStyle.show bits ++ ")"
  | .openParen => "LParen"
  | .closeParen => "RParen"
  | .comma => "Comma"
  | .and => "And"
  | .or => "Or"
  | .operator o => "Op(" ++ o.shown ++ ")"

/-- Everything that can be wrong with a condition. -/
inductive Fault where
  | invalidNumber (literal : String) (offset : Nat)
  | unexpectedCharacter (c : Char) (offset : Nat)
  | empty
  | expectedJoint (got : Token)
  | expectedOperator
  | expectedNumber
  | expectedMetric (got : Token)
  | endOfCondition
  | expectedOpen (name : String)
  | malformedArguments (name : String)
  | noArguments (name : String)
  | fourArguments (count : Nat)
  | bound (bits : Nat)
  | emptyRange
  | unknownMetric (name : String)
  deriving DecidableEq, Repr

/-- The wording of a fault. -/
def Fault.message : Fault → String
  | invalidNumber literal offset => s!"invalid number '{literal}' at offset {offset}"
  | unexpectedCharacter c offset => s!"unexpected character '{c}' at offset {offset}"
  | empty => "empty condition"
  | expectedJoint got => "expected '&&' or '||', got " ++ got.shown
  | expectedOperator => "expected a comparison operator after metric"
  | expectedNumber => "expected a number after comparison operator"
  | expectedMetric got => "expected metric name, got " ++ got.shown
  | endOfCondition => "unexpected end of condition"
  | expectedOpen name => s!"expected '(' after {name}"
  | malformedArguments name => s!"malformed argument list of {name}"
  | noArguments name => s!"{name} takes no arguments"
  | fourArguments count => s!"ResponseCodeRatio takes four arguments, got {count}"
  | bound bits =>
    "response code bound " ++ boundStyle.show bits ++
      " must be a whole hundred between 0 and 600"
  | emptyRange => "response code ranges must not be empty"
  | unknownMetric name => s!"unsupported metric '{name}'"

/-! ## Tokens -/

/-- A character of a number literal. -/
def isNumberPart (c : Char) : Bool := c.isDigit || c == '.'

/-- The bits of the value nearest to a literal.  A literal has one digit at least and one point at
    most. -/
def literalBits? (literal : List Char) : Option Nat :=
  let whole := literal.takeWhile Char.isDigit
  match literal.dropWhile Char.isDigit with
  | [] => if whole = [] then none else some (ofDecimal (decimal whole) 0)
  | _ :: fraction =>
    if fraction.all Char.isDigit && !(whole = [] && fraction = []) then
      some (ofDecimal (decimal (whole ++ fraction)) (-fraction.length))
    else none

/-- The token that two characters form. -/
def pairToken? : Char → Char → Option Token
  | '&', '&' => some .and
  | '|', '|' => some .or
  | '>', '=' => some (.operator .ge)
  | '<', '=' => some (.operator .le)
  | '=', '=' => some (.operator .eq)
  | '!', '=' => some (.operator .ne)
  | _, _ => none

/-- The token that one character forms by itself. -/
def singleToken? : Char → Option Token
  | '(' => some .openParen
  | ')' => some .closeParen
  | ',' => some .comma
  | '>' => some (.operator .gt)
  | '<' => some (.operator .lt)
  | _ => none

/-- The token that the first two characters form, if they do. -/
def headPair? (c : Char) : List Char → Option (Token × List Char)
  | [] => none
  | d :: r => (pairToken? c d).map (·, r)

theorem headPair_length {c : Char} {r r' : List Char} {t : Token}
    (h : headPair? c r = some (t, r')) : r'.length < r.length := by
  cases r with
  | nil => cases h
  | cons d r =>
    simp only [headPair?, Option.map_eq_some_iff, Prod.mk.injEq] at h
    obtain ⟨_, _, _, rfl⟩ := h
    simp

/-- The tokens of what is left of a condition from byte `o` on. -/
def scan (o : Nat) (s : List Char) : Except Fault (List Token) :=
  match s with
  | [] => .ok []
  | c :: r =>
    if isBlank c then scan (o + c.utf8Size) r
    else
      match h : headPair? c r with
      | some (t, r') => (scan (o + 2) r').map (t :: ·)
      | none =>
        match singleToken? c with
        | some t => (scan (o + 1) r).map (t :: ·)
        | none =>
          if isNumberPart c then
            let more := r.takeWhile isNumberPart
            match literalBits? (c :: more) with
            | none => .error (.invalidNumber (String.ofList (c :: more)) o)
            | some bits =>
              (scan (o + 1 + more.length) (r.dropWhile isNumberPart)).map (.number bits :: ·)
          else if c.isAlpha then
            let more := r.takeWhile Char.isAlphanum
            (scan (o + 1 + more.length) (r.dropWhile Char.isAlphanum)).map
              (.ident (String.ofList (c :: more)) :: ·)
          else .error (.unexpectedCharacter c o)
termination_by s.length
decreasing_by
  all_goals simp only [List.length_cons]
  all_goals first
    | omega
    | (have hl := headPair_length h; omega)
    | (have hl := (List.dropWhile_suffix isNumberPart (l := r)).length_le; omega)
    | (have hl := (List.dropWhile_suffix Char.isAlphanum (l := r)).length_le; omega)

/-- The tokens of a condition, of which there must be one at least. -/
def tokens (s : String) : Except Fault (List Token) :=
  match scan 0 s.toList with
  | .ok [] => .error .empty
  | answer => answer

/-! ## Metrics -/

/-- The arguments of `name`, from behind the opening bracket (`first`) or behind a comma. -/
def readArguments (name : String) (first : Bool) :
    List Token → Except Fault (List Nat × List Token)
  | .number v :: .comma :: r => (readArguments name false r).map fun (vs, r) => (v :: vs, r)
  | .number v :: .closeParen :: r => .ok ([v], r)
  | .closeParen :: r => if first then .ok ([], r) else .error (.malformedArguments name)
  | _ => .error (.malformedArguments name)

theorem readArguments_length {name : String} {first : Bool} {ts r : List Token}
    {vs : List Nat} (h : readArguments name first ts = .ok (vs, r)) : r.length < ts.length := by
  fun_induction readArguments name first ts generalizing vs r with
  | case1 first value r' ih =>
    match hr : readArguments name false r' with
    | .error e => rw [hr] at h; cases h
    | .ok (vs', r'') =>
      rw [hr] at h; cases h
      have := ih hr
      simp only [List.length_cons]; omega
  | case2 => cases h; simp only [List.length_cons]; omega
  | _ => simp_all

/-- The hundred that a bound names: a whole hundred between 0 and 600. -/
def hundred? (bits : Nat) : Option Nat :=
  [0, 100, 200, 300, 400, 500, 600].find? fun n => ofQuotient n 1 == bits

/-- The hundred that a bound names, or the fault. -/
def hundred (bits : Nat) : Except Fault Nat :=
  match hundred? bits with
  | some n => .ok n
  | none => .error (.bound bits)

/-- The ratio of response codes with these bounds. -/
def responseCodes (a b c d : Nat) : Except Fault Metric := do
  let fromA ← hundred a
  let toA ← hundred b
  let fromB ← hundred c
  let toB ← hundred d
  if toA ≤ fromA ∨ toB ≤ fromB then .error .emptyRange
  else .ok (.responseCodeRatio fromA toA fromB toB)

/-- The metric of that name that takes no arguments. -/
def plainMetric? : String → Option Metric
  | "NetworkErrorRatio" => some .networkErrorRatio
  | "FailureRatio" => some .failureRatio
  | "MeanLatencyMS" => some .meanLatency
  | "RequestCount" => some .requestCount
  | _ => none

/-- The metric of that name with these arguments. -/
def metricOf (name : String) (arguments : List Nat) : Except Fault Metric :=
  match plainMetric? name with
  | some m => if arguments = [] then .ok m else .error (.noArguments name)
  | none =>
    if name = "ResponseCodeRatio" then
      match arguments with
      | [a, b, c, d] => responseCodes a b c d
      | vs => .error (.fourArguments vs.length)
    else .error (.unknownMetric name)

/-- The metric at the head of the tokens, and the tokens after it. -/
def readMetric : List Token → Except Fault (Metric × List Token)
  | [] => .error .endOfCondition
  | .ident name :: .openParen :: r =>
    match readArguments name true r with
    | .error e => .error e
    | .ok (vs, r) => (metricOf name vs).map (·, r)
  | .ident name :: _ => .error (.expectedOpen name)
  | t :: _ => .error (.expectedMetric t)

theorem readMetric_length {ts r : List Token} {m : Metric} (h : readMetric ts = .ok (m, r)) :
    r.length < ts.length := by
  unfold readMetric at h
  split at h
  · cases h
  · next name r' =>
    match hr : readArguments name true r' with
    | .error e => rw [hr] at h; cases h
    | .ok (vs, r'') =>
      rw [hr] at h
      match hm : metricOf name vs with
      | .error e => simp [hm, Except.map] at h
      | .ok m' =>
        simp only [hm, Except.map, Except.ok.injEq, Prod.mk.injEq] at h
        obtain ⟨_, rfl⟩ := h
        have := readArguments_length hr
        simp only [List.length_cons]; omega
  all_goals cases h

/-! ## Comparisons -/

/-- The comparison at the head of the tokens, and the tokens after it. -/
def readComparison (ts : List Token) : Except Fault (Comparison × List Token) :=
  match readMetric ts with
  | .error e => .error e
  | .ok (metric, .operator o :: .number v :: r) => .ok (⟨metric, o, v⟩, r)
  | .ok (_, .operator _ :: _) => .error .expectedNumber
  | .ok _ => .error .expectedOperator

theorem readComparison_length {ts r : List Token} {c : Comparison}
    (h : readComparison ts = .ok (c, r)) : r.length < ts.length := by
  unfold readComparison at h
  split at h
  · cases h
  · next hm =>
    cases h
    have := readMetric_length hm
    simp only [List.length_cons] at this; omega
  all_goals cases h

/-- Puts a comparison in front of the first conjunction of a disjunction. -/
def consFirst (c : Comparison) : List (List Comparison) → List (List Comparison)
  | [] => [[c]]
  | all :: rest => (c :: all) :: rest

/-- The disjunction that the tokens state. -/
def readDisjunction (ts : List Token) : Except Fault (List (List Comparison)) :=
  match h : readComparison ts with
  | .error e => .error e
  | .ok (c, r) =>
    match r with
    | [] => .ok [[c]]
    | .and :: r' => (readDisjunction r').map (consFirst c)
    | .or :: r' => (readDisjunction r').map ([c] :: ·)
    | t :: _ => .error (.expectedJoint t)
termination_by ts.length
decreasing_by
  all_goals
    have hl := readComparison_length h
    simp only [List.length_cons] at hl
    omega

/-- The disjunction that a text states. -/
def disjunctionOf (s : String) : Except Fault (List (List Comparison)) :=
  match tokens s with
  | .error e => .error e
  | .ok ts => readDisjunction ts

/-- The condition that a text states. -/
def Condition.parse (s : String) : Result Condition :=
  match disjunctionOf s with
  | .error f => .error (.syntaxError s f.message)
  | .ok anyOf => .ok ⟨s, anyOf⟩

end Turnpike.Breaker
