/-
  Running regular expressions.

  An expression is compiled into a list of instructions.  All ways to match are followed side by
  side through the text, in the order of their precedence, each with the places that its groups have
  reached; of two that stand at the same instruction the later one can add nothing and is dropped.
  Of the matches that begin first, the one of the highest precedence is found.
-/
import Turnpike.Regex.Reader

set_option linter.unusedVariables false

namespace Turnpike.Regex

/-! ## Compiling -/

/-- An instruction.  Addresses count from the start of the program; those that name no other go on
    to the next one. -/
inductive Instr where
  | set (s : CharSet)
  | look (l : Look)
  | save (slot : Nat)
  /-- Both ways, the first one with precedence. -/
  | split (a b : Nat)
  | jump (a : Nat)
  | found
  deriving DecidableEq, Repr, Inhabited

/-- A fork into a body and what is behind it; a lazy one puts the latter first. -/
def fork (greedy : Bool) (body behind : Nat) : Instr :=
  if greedy then .split body behind else .split behind body

/-- Code one after the other, each made for the address at which it stands. -/
def copies (code : Nat → List Instr) : Nat → Nat → List Instr
  | 0, _ => []
  | n + 1, start =>
    let c := code start
    c ++ copies code n (start + c.length)

/-- Code that may be left before each of its copies. -/
def optional (greedy : Bool) (code : Nat → List Instr) (behind : Nat) : Nat → Nat → List Instr
  | 0, _ => []
  | n + 1, start =>
    let c := code (start + 1)
    fork greedy (start + 1) behind :: c ++ optional greedy code behind n (start + 1 + c.length)

/-- The code of an expression at an address. -/
def Expr.code : Expr → Nat → List Instr
  | empty, _ => []
  | set s, _ => [.set s]
  | look l, _ => [.look l]
  | capture i e, start => .save (2 * i) :: e.code (start + 1) ++ [.save (2 * i + 1)]
  | cat a b, start =>
    let c := a.code start
    c ++ b.code (start + c.length)
  | alt a b, start =>
    let c := a.code (start + 1)
    let other := start + c.length + 2
    let d := b.code other
    .split (start + 1) other :: c ++ .jump (other + d.length) :: d
  | rep least extra greedy e, start =>
    let one := (e.code 0).length
    match extra with
    | some n =>
      let first := copies (e.code ·) least start
      let next := start + first.length
      first ++ optional greedy (e.code ·) (next + n * (one + 1)) n next
    | none =>
      if least = 0 then
        let c := e.code (start + 1)
        let behind := start + c.length + 2
        let back := if e.nullable then fork greedy (start + 1) behind else .jump start
        fork greedy (start + 1) behind :: c ++ [back]
      else
        let first := copies (e.code ·) (least - 1) start
        let last := start + first.length
        let c := e.code last
        first ++ c ++ [fork greedy last (last + c.length + 1)]

/-- A compiled pattern. -/
structure Program where
  code : Array Instr
  names : List (Option String)
  deriving Inhabited

/-- The program of a pattern: the whole match is its first group. -/
def Pattern.program (p : Pattern) : Program :=
  ⟨((Expr.capture 0 p.expr).code 0 ++ [Instr.found]).toArray, p.names⟩

/-! ## Sizes -/

/-- The room that a set takes, in bytes. -/
def CharSet.weight (s : CharSet) : Nat :=
  (s.runs.map fun (a, b) => if b < 0x80 then 8 else if a = b then 40 else 60).foldr (· + ·) 32

/-- The room that the code of an expression takes, in bytes. -/
def Expr.weight : Expr → Nat
  | empty => 32
  | set s => s.weight
  | look _ => 32
  | capture _ e => e.weight + 64
  | cat a b => a.weight + b.weight
  | alt a b => a.weight + b.weight + 40
  | rep least extra _ e => (least + extra.getD 1) * (e.weight + 40) + 32

/-- The most room that a program may take. -/
def weightLimit : Nat := 10485760

/-- The program that a text states; none when the text is no expression, or one too large. -/
def compile (s : String) : Option Program :=
  match readPattern s with
  | some p => if p.expr.weight ≤ weightLimit then some p.program else none
  | none => none

/-! ## Matching -/

/-- A place in a text: the character before it and those behind it. -/
structure Place where
  before : Option Char
  rest : List Char
  position : Nat

/-- Is there a character of a word? -/
def isWord (ascii : Bool) : Option Char → Bool
  | some c => (if ascii then CharSet.asciiWordChars else CharSet.wordChars).contains c
  | none => false

/-- Does the condition hold at the place? -/
def Look.holds (p : Place) (l : Look) : Bool :=
  let before := p.before
  let behind := p.rest.head?
  match l with
  | textStart => before.isNone
  | textEnd => behind.isNone
  | lineStart false => before.isNone || before == some '\n'
  | lineEnd false => behind.isNone || behind == some '\n'
  | lineStart true =>
    before.isNone || before == some '\n' || (before == some '\r' && behind != some '\n')
  | lineEnd true =>
    behind.isNone || behind == some '\r' || (behind == some '\n' && before != some '\r')
  | wordBoundary a => isWord a before != isWord a behind
  | notWordBoundary a => isWord a before == isWord a behind
  | wordStart a => !isWord a before && isWord a behind
  | wordEnd a => isWord a before && !isWord a behind
  | wordStartHalf a => !isWord a before
  | wordEndHalf a => !isWord a behind

/-- The places where groups begin and end, as far as they are known. -/
abbrev Slots := Array (Option Nat)

/-- One way to match so far: the instruction it stands at and its groups. -/
structure Thread where
  address : Nat
  slots : Slots

/-- Follows threads to instructions that look at a character, or to the end.  Each instruction is
    visited once, so twice their number of steps and one for each thread are enough. -/
def follow (code : Array Instr) (p : Place) :
    Nat → List Thread → Array Bool → List Thread → List Thread
  | 0, _, _, out => out.reverse
  | _, [], _, out => out.reverse
  | fuel + 1, t :: work, visited, out =>
    if visited.getD t.address true then follow code p fuel work visited out
    else
      let visited := visited.setIfInBounds t.address true
      match code.getD t.address .found with
      | .set _ | .found => follow code p fuel work visited (t :: out)
      | .look l =>
        let work := if l.holds p then { t with address := t.address + 1 } :: work else work
        follow code p fuel work visited out
      | .save i =>
        let slots := t.slots.setIfInBounds i (some p.position)
        follow code p fuel (⟨t.address + 1, slots⟩ :: work) visited out
      | .split a b =>
        follow code p fuel ({ t with address := a } :: { t with address := b } :: work) visited out
      | .jump a => follow code p fuel ({ t with address := a } :: work) visited out

/-- The threads at a place. -/
def threadsAt (code : Array Instr) (p : Place) (work : List Thread) : List Thread :=
  follow code p (2 * code.size + work.length + 1) work (Array.replicate code.size false) []

/-- The threads before the first one that has matched, and its groups. -/
def untilFound (code : Array Instr) : List Thread → List Thread × Option Slots
  | [] => ([], none)
  | t :: r =>
    match code.getD t.address .found with
    | .found => ([], some t.slots)
    | _ => let (ts, found) := untilFound code r; (t :: ts, found)

/-- The threads that the next character lets pass, behind it. -/
def advance (code : Array Instr) (c : Char) (ts : List Thread) : List Thread :=
  ts.filterMap fun t =>
    match code.getD t.address .found with
    | .set s => if s.contains c then some { t with address := t.address + 1 } else none
    | _ => none

/-- The groups of the match with the highest precedence, of the given threads and of those that have
    matched before. -/
def run (code : Array Instr) (best : Option Slots) (before : Option Char) (position : Nat)
    (work : List Thread) : List Char → Option Slots
  | [] =>
    let (_, found) := untilFound code (threadsAt code ⟨before, [], position⟩ work)
    found.or best
  | c :: r =>
    let (ts, found) := untilFound code (threadsAt code ⟨before, c :: r, position⟩ work)
    let best := found.or best
    match advance code c ts with
    | [] => best
    | work => run code best (some c) (position + 1) work r

namespace Program

/-- The groups of the match that begins at a place. -/
def matchAt (p : Program) (before : Option Char) (position : Nat) (rest : List Char) :
    Option Slots :=
  run p.code none before position [⟨0, Array.replicate (2 * p.names.length) none⟩] rest

/-- The groups of the first match from a place on. -/
def find (p : Program) (before : Option Char) (position : Nat) : List Char → Option Slots
  | [] => p.matchAt before position []
  | c :: r =>
    match p.matchAt before position (c :: r) with
    | some m => some m
    | none => p.find (some c) (position + 1) r

end Program

/-- Where a match begins and ends. -/
def bounds (m : Slots) : Nat × Nat := ((m.getD 0 none).getD 0, (m.getD 1 none).getD 0)

/-- The matches of a text that do not overlap.  An empty match where the last one ended does not
    count. -/
def Program.allFrom (p : Program) (s : List Char) : Nat → Option Nat → Nat → List Slots
  | 0, _, _ => []
  | fuel + 1, last, position =>
    let search := fun (position : Nat) =>
      p.find (if position = 0 then none else s[position - 1]?) position (s.drop position)
    let again := fun (m : Option Slots) =>
      match m with
      | some m => m :: p.allFrom s fuel (some (bounds m).2) (bounds m).2
      | none => []
    match search position with
    | none => []
    | some m =>
      if bounds m = (position, position) && last == some position then
        if s.length ≤ position then [] else again (search (position + 1))
      else again (some m)

/-- The matches of a text, from left to right. -/
def Program.all (p : Program) (s : List Char) : List Slots := p.allFrom s (s.length + 2) none 0

end Turnpike.Regex
