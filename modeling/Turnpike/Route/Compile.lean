/-
  Route expressions — from tokens to a pattern.

  An expression is a conjunction of calls.  `Path` states the path and must occur once; `Method`
  and `Host` add conditions and occur at most once each.  Calls are read and applied one by one, so
  the first fault from the left is the one reported.
-/
import Turnpike.Route.Pattern
import Turnpike.Route.Token

set_option linter.unusedVariables false

namespace Turnpike.Route

open Turnpike.Text Turnpike.Http

/-! ## Paths -/

/-- Is the character one at which the search for the end of a parameter stops? -/
def endsParameter (c : Char) : Bool := c == '>' || c == '/' || c == '<'

/-- The name in a parameter `<inner>`, which may be introduced by its kind. -/
def parameterName (offset : Nat) (inner : List Char) : Except Fault String :=
  let name : Except Fault (List Char) :=
    match splitFirst? ':' inner with
    | none => .ok inner
    | some (kind, name) =>
      if kind = "string".toList then .ok name else .error (.unknownMatcher (String.ofList kind))
  match name with
  | .error e => .error e
  | .ok [] => .error (.unnamedParameter offset)
  | .ok name => .ok (String.ofList name)

/-- The number of bytes of a text. -/
def byteLength (s : List Char) : Nat := (s.map Char.utf8Size).foldr (· + ·) 0

/-- The segments of what is left of a path from byte `o` on. -/
def segments (o : Nat) (s : List Char) : Except Fault (List Segment) :=
  match s with
  | [] => .ok []
  | c :: r =>
    if c = '<' then
      let inner := r.takeWhile (!endsParameter ·)
      match h : r.dropWhile (!endsParameter ·) with
      | '>' :: r' =>
        match parameterName o inner with
        | .error e => .error e
        | .ok name => (segments (o + 2 + byteLength inner) r').map (.param name :: ·)
      | _ => .error (.openParameter o)
    else if c = '>' then .error (.strayBracket o)
    else (segments (o + c.utf8Size) r).map ((String.utf8EncodeChar c).map .byte ++ ·)
termination_by s.length
decreasing_by
  · have := (List.dropWhile_suffix (fun c => !endsParameter c) (l := r)).length_le
    rw [h] at this
    simp only [List.length_cons] at this ⊢; omega
  · simp

/-- The segments of a path, which must not be empty. -/
def pathSegments (path : String) : Except Fault (List Segment) :=
  if path.toList = [] then .error .emptyPath else segments 0 path.toList

/-! ## Calls -/

/-- One call: a function name and its arguments. -/
structure Call where
  name : String
  arguments : List String
  deriving DecidableEq, Repr

/-- The arguments of `name`, from behind the opening bracket (`first`) or behind a comma. -/
def readArguments (name : String) (first : Bool) :
    List Token → Except Fault (List String × List Token)
  | [] => .error (.unclosed name)
  | .text value :: .comma :: r => (readArguments name false r).map fun (vs, r) => (value :: vs, r)
  | .text value :: .closeParen :: r => .ok ([value], r)
  | .text _ :: [] => .error (.unclosed name)
  | .text _ :: t :: _ => .error (.expectedSeparator t)
  | .ident _ :: _ => .error .nestedCall
  | .closeParen :: r => if first then .ok ([], r) else .error (.expectedArgument .closeParen)
  | t :: _ => .error (.expectedArgument t)

theorem readArguments_length {name : String} {first : Bool} {ts r : List Token}
    {vs : List String} (h : readArguments name first ts = .ok (vs, r)) :
    r.length < ts.length := by
  fun_induction readArguments name first ts generalizing vs r with
  | case2 first value r' ih =>
    match hr : readArguments name false r' with
    | .error e => rw [hr] at h; cases h
    | .ok (vs', r'') =>
      rw [hr] at h; cases h
      have := ih hr
      simp only [List.length_cons]; omega
  | case3 => cases h; simp only [List.length_cons]; omega
  | _ => simp_all

/-- The call at the head of the tokens, and the tokens after it. -/
def readCall : List Token → Except Fault (Call × List Token)
  | [] => .error .endOfExpression
  | .ident name :: .openParen :: r =>
    (readArguments name true r).map fun (vs, r) => (⟨name, vs⟩, r)
  | .ident name :: _ => .error (.expectedOpen name)
  | .text _ :: _ => .error .literalOutsideCall
  | t :: _ => .error (.expectedName t)

theorem readCall_length {ts r : List Token} {c : Call} (h : readCall ts = .ok (c, r)) :
    r.length < ts.length := by
  unfold readCall at h
  split at h
  · cases h
  · next name r' =>
    match hr : readArguments name true r' with
    | .error e => rw [hr] at h; cases h
    | .ok (vs, r'') =>
      rw [hr] at h; cases h
      have := readArguments_length hr
      simp only [List.length_cons]; omega
  all_goals cases h

/-! ## Patterns -/

/-- What the calls read so far have stated. -/
structure Draft where
  methods : Option (List Method) := none
  host : Option String := none
  path : Option (List Segment) := none

/-- The methods that the arguments name, in capitals. -/
def readMethods : List String → Except Fault (List Method)
  | [] => .ok []
  | m :: ms =>
    match Method.ofString? (upperAscii m) with
    | none => .error (.invalidMethod m)
    | some method => (readMethods ms).map (method :: ·)

/-- The only argument of a function that takes one. -/
def oneArgument (name : String) : List String → Except Fault String
  | [v] => .ok v
  | vs => .error (.oneArgument name vs.length)

/-- The draft with what one more call states. -/
def Draft.apply (d : Draft) (c : Call) : Except Fault Draft :=
  if c.name = "Path" then
    if d.path.isSome then .error (.repeated "Path")
    else
      match oneArgument "Path" c.arguments with
      | .error e => .error e
      | .ok path => (pathSegments path).map fun p => { d with path := some p }
  else if c.name = "Method" then
    if d.methods.isSome then .error (.repeated "Method")
    else if c.arguments = [] then .error .noMethods
    else (readMethods c.arguments).map fun ms => { d with methods := some ms }
  else if c.name = "Host" then
    if d.host.isSome then .error (.repeated "Host")
    else
      match oneArgument "Host" c.arguments with
      | .error e => .error e
      | .ok host =>
        if host.toList = [] then .error .emptyHost
        else .ok { d with host := some (lowerAscii host) }
  else .error (.unknownFunction c.name)

/-- The draft after all calls of a conjunction. -/
def Draft.applyAll (d : Draft) (ts : List Token) : Except Fault Draft :=
  match h : readCall ts with
  | .error e => .error e
  | .ok (c, r) =>
    match d.apply c with
    | .error e => .error e
    | .ok d' =>
      match r with
      | [] => .ok d'
      | .and :: r' => d'.applyAll r'
      | t :: _ => .error (.expectedAnd t)
termination_by ts.length
decreasing_by have := readCall_length h; simp only [List.length_cons] at this; omega

/-- The pattern of a draft, which needs a path. -/
def Draft.pattern (d : Draft) : Except Fault Pattern :=
  match d.path with
  | none => .error .noPath
  | some path => .ok ⟨d.methods, d.host, path⟩

/-- The pattern that a route expression states. -/
def Pattern.parse (s : String) : Except Fault Pattern :=
  match tokens s with
  | .error e => .error e
  | .ok ts =>
    match ({} : Draft).applyAll ts with
    | .error e => .error e
    | .ok d => d.pattern

end Turnpike.Route
