/-
  Regular expressions.

  An expression says which texts match and, of several ways to match, which one comes first: an
  alternative before those behind it, one more repetition before stopping — or the other way round
  where the repetition is lazy.
-/
import Turnpike.Regex.CharSet

namespace Turnpike.Regex

/-- A condition on a place in the text.  `crlf` makes a carriage return end a line as well, `ascii`
    keeps words to ASCII. -/
inductive Look where
  | textStart
  | textEnd
  | lineStart (crlf : Bool)
  | lineEnd (crlf : Bool)
  | wordBoundary (ascii : Bool)
  | notWordBoundary (ascii : Bool)
  | wordStart (ascii : Bool)
  | wordEnd (ascii : Bool)
  | wordStartHalf (ascii : Bool)
  | wordEndHalf (ascii : Bool)
  deriving DecidableEq, Repr

/-- An expression. -/
inductive Expr where
  | empty
  | set (s : CharSet)
  | look (l : Look)
  | capture (index : Nat) (e : Expr)
  | cat (a b : Expr)
  | alt (a b : Expr)
  /-- At least `least` times and at most `least + extra` times, where there is a bound. -/
  | rep (least : Nat) (extra : Option Nat) (greedy : Bool) (e : Expr)
  deriving DecidableEq, Repr, Inhabited

namespace Expr

/-- One expression after the other. -/
def sequence : List Expr → Expr
  | [] => .empty
  | [e] => e
  | e :: r => .cat e (sequence r)

/-- One expression or the other, the first one before those behind it. -/
def choice : List Expr → Expr
  | [] => .empty
  | [e] => e
  | e :: r => .alt e (choice r)

/-- Can the empty text match? -/
def nullable : Expr → Bool
  | empty => true
  | set _ => false
  | look _ => true
  | capture _ e => e.nullable
  | cat a b => a.nullable && b.nullable
  | alt a b => a.nullable || b.nullable
  | rep least _ _ e => least == 0 || e.nullable

end Expr

/-- An expression with the names of its groups; the first group is the whole match. -/
structure Pattern where
  expr : Expr
  names : List (Option String)
  deriving Repr, Inhabited

end Turnpike.Regex
