/-
  Tokens of route expressions, and what can be wrong with an expression.

  The scanner turns an expression into identifiers, string literals, brackets, commas and the
  conjunction; blanks between tokens mean nothing.  Literals come in two spellings: between double
  quotes, with five escapes, or between backticks, as they are.  Positions in faults count bytes
  from the start of the expression.
-/
import Turnpike.Text.Blank
import Turnpike.Text.Quoted

set_option linter.unusedVariables false

namespace Turnpike.Route

open Turnpike.Text

/-- One token of a route expression. -/
inductive Token where
  | ident (name : String)
  | text (value : String)
  | openParen
  | closeParen
  | comma
  | and
  deriving DecidableEq, Repr

/-- How a token is named in a message. -/
def Token.shown : Token → String
  | .ident name => "Ident(" ++ Quoted.quoted name ++ ")"
  | .text value => "Str(" ++ Quoted.quoted value ++ ")"
  | .openParen => "LParen"
  | .closeParen => "RParen"
  | .comma => "Comma"
  | .and => "And"

/-- Everything that can be wrong with a route expression. -/
inductive Fault where
  | halfAnd (offset : Nat)
  | unknownEscape (c : Char) (offset : Nat)
  | unterminated (offset : Nat)
  | number (offset : Nat)
  | unexpectedCharacter (c : Char) (offset : Nat)
  | empty
  | literalOutsideCall
  | expectedName (got : Token)
  | endOfExpression
  | expectedOpen (name : String)
  | nestedCall
  | expectedArgument (got : Token)
  | unclosed (name : String)
  | expectedSeparator (got : Token)
  | expectedAnd (got : Token)
  | noPath
  | repeated (name : String)
  | oneArgument (name : String) (count : Nat)
  | noMethods
  | invalidMethod (method : String)
  | emptyHost
  | unknownFunction (name : String)
  | emptyPath
  | openParameter (offset : Nat)
  | unknownMatcher (kind : String)
  | unnamedParameter (offset : Nat)
  | strayBracket (offset : Nat)
  deriving DecidableEq, Repr

/-- The wording of a fault. -/
def Fault.message : Fault → String
  | halfAnd offset => s!"expected '&&' at offset {offset}"
  | unknownEscape c offset => s!"unknown escape '\\{c}' at offset {offset}"
  | unterminated offset => s!"unterminated string starting at offset {offset}"
  | number offset =>
    s!"only string literals are supported as function arguments, got number at offset {offset}"
  | unexpectedCharacter c offset => s!"unexpected character '{c}' at offset {offset}"
  | empty => "empty expression"
  | literalOutsideCall => "literals are supported only as function arguments"
  | expectedName got => "expected function name, got " ++ got.shown
  | endOfExpression => "unexpected end of expression"
  | expectedOpen name => s!"expected '(' after {name}"
  | nestedCall => "nested function calls are not allowed"
  | expectedArgument got => "expected string argument, got " ++ got.shown
  | unclosed name => s!"unclosed argument list of {name}"
  | expectedSeparator got => "expected ',' or ')', got " ++ got.shown
  | expectedAnd got => "expected '&&', got " ++ got.shown
  | noPath => "expression must contain a Path(...) matcher"
  | repeated name => s!"{name} specified more than once"
  | oneArgument name count => s!"{name} accepts exactly one argument, got {count}"
  | noMethods => "Method accepts at least one argument"
  | invalidMethod method => s!"invalid method '{method}'"
  | emptyHost => "Host can not be empty"
  | unknownFunction name => s!"unsupported function '{name}'"
  | emptyPath => "empty path"
  | openParameter offset => s!"unterminated parameter token at offset {offset}"
  | unknownMatcher kind => s!"unsupported parameter matcher '{kind}'"
  | unnamedParameter offset => s!"empty parameter name at offset {offset}"
  | strayBracket offset => s!"unexpected '>' at offset {offset}"

/-! ## Scanning -/

/-- What an escape letter stands for. -/
def unescape : Char → Option Char
  | 'n' => some '\n'
  | 't' => some '\t'
  | '\x22' => some '\x22'
  | '\\' => some '\\'
  | '/' => some '/'
  | _ => none

/-- A literal that has been read: its text, the offset after it, and what follows. -/
structure Literal where
  value : List Char
  offset : Nat
  rest : List Char

/-- The literal with one more character in front. -/
def Literal.cons (c : Char) (l : Literal) : Literal := { l with value := c :: l.value }

/-- The rest of a literal in double quotes, opened at `start`. -/
def scanQuoted (start : Nat) : Nat → List Char → Except Fault Literal
  | _, [] => .error (.unterminated start)
  | o, '\\' :: r =>
    match r with
    | [] => .error (.unterminated start)
    | c :: r' =>
      match unescape c with
      | none => .error (.unknownEscape c (o + 1))
      | some d => (scanQuoted start (o + 1 + c.utf8Size) r').map (·.cons d)
  | o, c :: r =>
    if c = '\x22' then .ok ⟨[], o + 1, r⟩
    else (scanQuoted start (o + c.utf8Size) r).map (·.cons c)

/-- The rest of a literal in backticks, opened at `start`. -/
def scanRaw (start : Nat) : Nat → List Char → Except Fault Literal
  | _, [] => .error (.unterminated start)
  | o, c :: r =>
    if c = '\x60' then .ok ⟨[], o + 1, r⟩
    else (scanRaw start (o + c.utf8Size) r).map (·.cons c)

theorem scanQuoted_length {start o : Nat} {s : List Char} {l : Literal}
    (h : scanQuoted start o s = .ok l) : l.rest.length < s.length := by
  fun_induction scanQuoted start o s generalizing l with
  | case1 => cases h
  | case2 => cases h
  | case3 => cases h
  | case4 o c r' d hd ih =>
    match hr : scanQuoted start (o + 1 + c.utf8Size) r' with
    | .error e => rw [hr] at h; cases h
    | .ok l' =>
      rw [hr] at h; cases h
      have := ih hr
      simp only [Literal.cons, List.length_cons]; omega
  | case5 o r => cases h; simp
  | case6 o c r hc hq ih =>
    match hr : scanQuoted start (o + c.utf8Size) r with
    | .error e => rw [hr] at h; cases h
    | .ok l' =>
      rw [hr] at h; cases h
      have := ih hr
      simp only [Literal.cons, List.length_cons]; omega

theorem scanRaw_length {start o : Nat} {s : List Char} {l : Literal}
    (h : scanRaw start o s = .ok l) : l.rest.length < s.length := by
  fun_induction scanRaw start o s generalizing l with
  | case1 => cases h
  | case2 o r => cases h; simp
  | case3 o c r hq ih =>
    match hr : scanRaw start (o + c.utf8Size) r with
    | .error e => rw [hr] at h; cases h
    | .ok l' =>
      rw [hr] at h; cases h
      have := ih hr
      simp only [Literal.cons, List.length_cons]; omega

/-- The first character of an identifier. -/
def isIdentStart (c : Char) : Bool := c.isAlpha || c == '_'

/-- A later character of an identifier. -/
def isIdentPart (c : Char) : Bool := c.isAlphanum || c == '_'

/-- The tokens of what is left of an expression from byte `o` on. -/
def scan (o : Nat) (s : List Char) : Except Fault (List Token) :=
  match s with
  | [] => .ok []
  | c :: r =>
    if isBlank c then scan (o + c.utf8Size) r
    else if c = '(' then (scan (o + 1) r).map (.openParen :: ·)
    else if c = ')' then (scan (o + 1) r).map (.closeParen :: ·)
    else if c = ',' then (scan (o + 1) r).map (.comma :: ·)
    else if c = '&' then
      match r with
      | '&' :: r' => (scan (o + 2) r').map (.and :: ·)
      | _ => .error (.halfAnd o)
    else if c = '\x22' then
      match h : scanQuoted o (o + 1) r with
      | .error e => .error e
      | .ok l => (scan l.offset l.rest).map (.text (String.ofList l.value) :: ·)
    else if c = '\x60' then
      match h : scanRaw o (o + 1) r with
      | .error e => .error e
      | .ok l => (scan l.offset l.rest).map (.text (String.ofList l.value) :: ·)
    else if isIdentStart c then
      let more := r.takeWhile isIdentPart
      (scan (o + 1 + more.length) (r.dropWhile isIdentPart)).map
        (.ident (String.ofList (c :: more)) :: ·)
    else if c.isDigit then .error (.number o)
    else .error (.unexpectedCharacter c o)
termination_by s.length
decreasing_by
  all_goals simp only [List.length_cons]
  all_goals first
    | omega
    | (have hl := scanQuoted_length h; omega)
    | (have hl := scanRaw_length h; omega)
    | (have hl := (List.dropWhile_suffix isIdentPart (l := r)).length_le; omega)

/-- The tokens of an expression, of which there must be one at least. -/
def tokens (s : String) : Except Fault (List Token) :=
  match scan 0 s.toList with
  | .ok [] => .error .empty
  | answer => answer

end Turnpike.Route
