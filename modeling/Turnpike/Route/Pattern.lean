/-
  Route patterns — what a route expression compiles to.

  A pattern is a list of path segments (literal bytes and named parameters) with two optional
  conditions, a set of methods and a host.  Its canonical form is an expression again, with the
  conditions in a fixed order, and serves as the key under which a route is registered.
-/
import Turnpike.Text.Quoted
import Turnpike.Http.Method

namespace Turnpike.Route

open Turnpike.Text Turnpike.Http

/-- One element of a path pattern: a byte to be met as it is, or a parameter that takes everything
    up to the next slash. -/
inductive Segment where
  | byte (b : UInt8)
  | param (name : String)
  deriving DecidableEq, Repr

/-- A compiled route expression.  An absent condition lets every request pass. -/
structure Pattern where
  methods : Option (List Method)
  host : Option String
  path : List Segment
  deriving DecidableEq

/-- The text of a segment: a byte as the character of that number, a parameter in angle brackets. -/
def Segment.text : Segment → List Char
  | .byte b => [Char.ofNat b.toNat]
  | .param name => '<' :: name.toList ++ ['>']

/-- The text of a path pattern. -/
def pathText (path : List Segment) : List Char := path.flatMap Segment.text

/-- The call that states the methods, with the conjunction after it. -/
def methodsText (ms : List Method) : String :=
  "Method(" ++ ",".intercalate (ms.map fun m => Quoted.quoted m.name) ++ ") && "

/-- The call that states the host, with the conjunction after it. -/
def hostText (host : String) : String := "Host(" ++ Quoted.quoted host ++ ") && "

/-- The one expression that stands for all that compile to this pattern. -/
def Pattern.canonical (p : Pattern) : String :=
  (p.methods.map methodsText).getD "" ++ (p.host.map hostText).getD "" ++
    "Path(" ++ String.ofList (Quoted.quote (pathText p.path)) ++ ")"

end Turnpike.Route
