/-
  Reading regular expressions.

  The notation has literals, the point, sets in brackets with ranges, nesting, intersections and
  differences, escapes for digits, blanks and words, properties of characters, anchors and word
  boundaries, groups with and without names, alternatives, repetitions that may be counted or lazy,
  and flags that can be set for a group or for the rest of one.  References back to a group and
  conditions on what stands around a match are not part of it.

  An expression may be nested only so deep.  Reading fails without a reason: what is wrong with an
  expression is for its author to find.
-/
import Turnpike.Regex.Basic
import Turnpike.Text.Ascii
import Turnpike.Text.Blank

set_option linter.unusedVariables false

namespace Turnpike.Regex

open Turnpike.Text

/-! ## Flags -/

/-- What the flags in force say. -/
structure Flags where
  caseless : Bool := false
  multiline : Bool := false
  dotAll : Bool := false
  lazyFirst : Bool := false
  unicode : Bool := true
  crlf : Bool := false
  verbose : Bool := false
  deriving DecidableEq, Repr, Inhabited

/-- The flags with one of them set or cleared. -/
def Flags.set? (f : Flags) (on : Bool) : Char → Option Flags
  | 'i' => some { f with caseless := on }
  | 'm' => some { f with multiline := on }
  | 's' => some { f with dotAll := on }
  | 'U' => some { f with lazyFirst := on }
  | 'u' => some { f with unicode := on }
  | 'R' => some { f with crlf := on }
  | 'x' => some { f with verbose := on }
  | _ => none

/-- Letters of flags up to a colon or a closing bracket, each once, those behind a dash to be
    cleared.  The dash comes once at most and not last. -/
def readFlags (f : Flags) (used : List Char) : List Char → Option (Flags × List Char × List Char)
  | [] => none
  | c :: r =>
    if c = ':' || c = ')' then
      if used.head? = some '-' then none else some (f, used, c :: r)
    else if used.contains c then none
    else if c = '-' then readFlags f (c :: used) r
    else
      match f.set? (!used.contains '-') c with
      | some f' => readFlags f' (c :: used) r
      | none => none

/-- The text without the blanks and comments at its start. -/
def dropComments (inComment : Bool) : List Char → List Char
  | [] => []
  | c :: r =>
    if inComment then dropComments (c != '\n') r
    else if isBlank c then dropComments false r
    else if c = '#' then dropComments true r
    else c :: r

/-- The text from where reading goes on: in a verbose expression blanks and comments do not count. -/
def Flags.skip (f : Flags) (s : List Char) : List Char :=
  if f.verbose then dropComments false s else s

/-! ## Properties of characters -/

/-- A name of a property without regard to case, blanks, dashes, underscores and a leading "is". -/
def plainName (s : List Char) : String :=
  let s := s.filter fun c => c.toNat < 0x80 && c != ' ' && c != '_' && c != '-'
  let s := s.map Char.toLower
  match s with
  | 'i' :: 's' :: r => if r = ['c'] then "isc" else String.ofList r
  | _ => String.ofList s

/-- The groups of categories with their names. -/
def categoryGroups : List (List String × List Category) := [
  (["l", "letter"], [.upperLetter, .lowerLetter, .titleLetter, .modifierLetter, .otherLetter]),
  (["lc", "casedletter"], [.upperLetter, .lowerLetter, .titleLetter]),
  (["m", "mark", "combiningmark"], [.nonspacingMark, .spacingMark, .enclosingMark]),
  (["n", "number"], [.decimalNumber, .letterNumber, .otherNumber]),
  (["p", "punctuation", "punct"],
    [.connector, .dash, .opener, .closer, .initialQuote, .finalQuote, .otherPunctuation]),
  (["s", "symbol"], [.mathSymbol, .currencySymbol, .modifierSymbol, .otherSymbol]),
  (["z", "separator"], [.spaceSeparator, .lineSeparator, .paragraphSeparator]),
  (["lu", "uppercaseletter"], [.upperLetter]), (["ll", "lowercaseletter"], [.lowerLetter]),
  (["lt", "titlecaseletter"], [.titleLetter]), (["lm", "modifierletter"], [.modifierLetter]),
  (["lo", "otherletter"], [.otherLetter]), (["mn", "nonspacingmark"], [.nonspacingMark]),
  (["mc", "spacingmark"], [.spacingMark]), (["me", "enclosingmark"], [.enclosingMark]),
  (["nd", "decimalnumber", "digit"], [.decimalNumber]), (["nl", "letternumber"], [.letterNumber]),
  (["no", "othernumber"], [.otherNumber]), (["pc", "connectorpunctuation"], [.connector]),
  (["pd", "dashpunctuation"], [.dash]), (["ps", "openpunctuation"], [.opener]),
  (["pe", "closepunctuation"], [.closer]), (["pi", "initialpunctuation"], [.initialQuote]),
  (["pf", "finalpunctuation"], [.finalQuote]), (["po", "otherpunctuation"], [.otherPunctuation]),
  (["sm", "mathsymbol"], [.mathSymbol]), (["sc", "currencysymbol"], [.currencySymbol]),
  (["sk", "modifiersymbol"], [.modifierSymbol]), (["so", "othersymbol"], [.otherSymbol]),
  (["zs", "spaceseparator"], [.spaceSeparator]), (["zl", "lineseparator"], [.lineSeparator]),
  (["zp", "paragraphseparator"], [.paragraphSeparator]), (["cc", "control", "cntrl"], [.control]),
  (["cf", "format"], [.formatChar]), (["co", "privateuse"], [.privateUse])]

/-- Every category of assigned characters. -/
def allCategories : List Category := Category.abbreviations.map (·.2)

/-- The characters of a general category or a group of them. -/
def categorySet? (name : String) : Option CharSet :=
  if name = "any" then some .full
  else if name = "ascii" then some (.ofRuns [(0, 0x7f)])
  else if name = "assigned" then some (.ofCategories allCategories)
  else if name = "cn" || name = "unassigned" then
    some (CharSet.ofCategories allCategories).complement
  else if name = "c" || name = "other" then
    some ((CharSet.ofCategories allCategories).complement.union
      (.ofCategories [.control, .formatChar, .privateUse]))
  else (categoryGroups.find? (·.1.contains name)).map fun g => .ofCategories g.2

/-- The characters of a script. -/
def scriptSet? (name : String) : Option CharSet :=
  (scriptRuns.find? (·.1 == name)).map fun s => .ofSteps s.2

/-- The characters with a property of its own. -/
def binarySet? (name : String) : Option CharSet :=
  if name = "alphabetic" || name = "alpha" then some .alphabetic
  else if name = "lowercase" || name = "lower" then
    some ((CharSet.ofCategories [.lowerLetter]).union (.ofSteps otherLowerRuns))
  else if name = "uppercase" || name = "upper" then
    some ((CharSet.ofCategories [.upperLetter]).union (.ofSteps otherUpperRuns))
  else if name = "whitespace" || name = "space" || name = "wspace" then some .spaces
  else none

/-- The characters that a property holds of, given by one name or as a name with a value. -/
def propertySet? (s : List Char) : Option CharSet :=
  match splitFirst? ':' s, splitFirst? '=' s with
  | some (name, value), _ | none, some (name, value) =>
    let (name, negated) := match name.reverse with
      | '!' :: r => (r.reverse, true)
      | _ => (name, false)
    let named := plainName name
    let set :=
      if named = "gc" || named = "generalcategory" then categorySet? (plainName value)
      else if named = "sc" || named = "script" || named = "scx" || named = "scriptextensions" then
        scriptSet? (plainName value)
      else none
    set.map fun t => if negated then t.complement else t
  | none, none =>
    let name := plainName s
    (binarySet? name).or ((categorySet? name).or (scriptSet? name))

/-! ## Escapes -/

/-- What stands for one place in the text, or for a condition on one. -/
inductive Atom where
  /-- A character; the flag tells one given as a byte in two digits. -/
  | char (c : Char) (byte : Bool)
  | set (s : CharSet)
  | look (l : Look)
  deriving Repr

/-- The character of a code point that is not a surrogate. -/
def scalar? (n : Nat) : Option Char := if h : n.isValidChar then some (Char.ofNat n) else none

/-- A code point in a fixed number of hexadecimal digits, or in any number between braces. -/
def readCode (digits : Nat) : List Char → Option (Atom × List Char)
  | '{' :: r =>
    match splitFirst? '}' r with
    | none => none
    | some (ds, r) =>
      if ds = [] || !ds.all isHex then none
      else (scalar? (ds.foldl (fun n c => n * 16 + hexValue c) 0)).map fun c => (.char c false, r)
  | s =>
    let ds := s.take digits
    if ds.length < digits || !ds.all isHex then none
    else
      (scalar? (ds.foldl (fun n c => n * 16 + hexValue c) 0)).map fun c =>
        (.char c (digits == 2), s.drop digits)

/-- The set of characters that a property names, behind its letter. -/
def readProperty (f : Flags) (negated : Bool) (s : List Char) : Option (Atom × List Char) :=
  let found := match s with
    | '{' :: r =>
      match splitFirst? '}' r with
      | none => none
      | some (name, r) =>
        (propertySet? (if f.verbose then name.filter (!isBlank ·) else name)).map fun t => (t, r)
    | c :: r => if c = '\\' then none else (propertySet? [c]).map fun t => (t, r)
    | [] => none
  match found with
  | some (t, r) =>
    if !f.unicode then none
    else
      let t := if f.caseless then t.folded else t
      some (.set (if negated then t.complement else t), r)
  | none => none

/-- A set that a letter names, or what is outside it.  Without the whole of Unicode the latter is
    refused, for it would hold parts of characters. -/
def namedSet (f : Flags) (all ascii : CharSet) (negated : Bool) (r : List Char) :
    Option (Atom × List Char) :=
  if f.unicode then some (.set (if negated then all.complement else all), r)
  else if negated then none
  else some (.set ascii, r)

/-- The kinds of word boundary with a name of their own. -/
def boundary? (ascii : Bool) (name : List Char) : Option Look :=
  if name = "start".toList then some (.wordStart ascii)
  else if name = "end".toList then some (.wordEnd ascii)
  else if name = "start-half".toList then some (.wordStartHalf ascii)
  else if name = "end-half".toList then some (.wordEndHalf ascii)
  else none

/-- A word boundary, perhaps with the name of its kind in braces.  Braces that do not begin with a
    letter or a dash belong to a repetition. -/
def readBoundary (ascii : Bool) (s : List Char) : Option (Atom × List Char) :=
  match s with
  | '{' :: c :: r =>
    if c.isAlpha || c = '-' then
      let name := (c :: r).takeWhile fun c => c.isAlpha || c == '-'
      match (c :: r).drop name.length with
      | '}' :: r' => (boundary? ascii name).map fun l => (.look l, r')
      | _ => none
    else some (.look (.wordBoundary ascii), s)
  | _ => some (.look (.wordBoundary ascii), s)

/-- A character that stands for itself behind a backslash. -/
def isEscapable (c : Char) : Bool :=
  c.toNat < 0x80 && !c.isAlphanum && c != '<' && c != '>'

/-- What stands behind a backslash. -/
def readEscape (f : Flags) : List Char → Option (Atom × List Char)
  | [] => none
  | c :: r =>
    if c.isDigit then none
    else
      match c with
      | 'x' => readCode 2 (f.skip r)
      | 'u' => readCode 4 (f.skip r)
      | 'U' => readCode 8 (f.skip r)
      | 'p' => readProperty f false (f.skip r)
      | 'P' => readProperty f true (f.skip r)
      | 'd' => namedSet f .digits .asciiDigits false r
      | 'D' => namedSet f .digits .asciiDigits true r
      | 's' => namedSet f .spaces .asciiSpaces false r
      | 'S' => namedSet f .spaces .asciiSpaces true r
      | 'w' => namedSet f .wordChars .asciiWordChars false r
      | 'W' => namedSet f .wordChars .asciiWordChars true r
      | 'a' => some (.char '\x07' false, r)
      | 'f' => some (.char '\x0c' false, r)
      | 't' => some (.char '\t' false, r)
      | 'n' => some (.char '\n' false, r)
      | 'r' => some (.char '\r' false, r)
      | 'v' => some (.char '\x0b' false, r)
      | 'A' => some (.look .textStart, r)
      | 'z' => some (.look .textEnd, r)
      | 'b' => readBoundary (!f.unicode) r
      | 'B' => some (.look (.notWordBoundary !f.unicode), r)
      | '<' => some (.look (.wordStart !f.unicode), r)
      | '>' => some (.look (.wordEnd !f.unicode), r)
      | _ => if isEscapable c then some (.char c false, r) else none

/-! ## Sets in brackets -/

/-- A set with the depth of nesting that it was written with. -/
structure SetNode where
  set : CharSet
  depth : Nat

/-- The operators between sets. -/
inductive SetOp where
  | inter
  | diff
  | symmDiff
  deriving DecidableEq

/-- The set of two sets joined by an operator. -/
def SetOp.apply (f : Flags) (o : SetOp) (a b : SetNode) : SetNode :=
  let fold := fun (s : CharSet) =>
    if !f.caseless then s else if f.unicode then s.folded else s.foldedAscii
  let x := fold a.set
  let y := fold b.set
  { set := match o with
      | inter => x.inter y
      | diff => x.diff y
      | symmDiff => x.symmDiff y
    depth := max a.depth b.depth + 1 }

/-- The set of several items side by side. -/
def SetNode.ofItems : List SetNode → SetNode
  | [] => ⟨.empty, 0⟩
  | [n] => n
  | ns => ⟨.ofRuns (ns.flatMap (·.set.runs)), (ns.foldl (fun d n => max d n.depth) 0) + 1⟩

/-- The classes of ASCII characters with their names. -/
def asciiClass? (name : List Char) : Option CharSet :=
  match String.ofList name with
  | "alnum" => some (.ofRuns [(0x30, 0x39), (0x41, 0x5a), (0x61, 0x7a)])
  | "alpha" => some (.ofRuns [(0x41, 0x5a), (0x61, 0x7a)])
  | "ascii" => some (.ofRuns [(0, 0x7f)])
  | "blank" => some (.ofRuns [(0x9, 0x9), (0x20, 0x20)])
  | "cntrl" => some (.ofRuns [(0, 0x1f), (0x7f, 0x7f)])
  | "digit" => some .asciiDigits
  | "graph" => some (.ofRuns [(0x21, 0x7e)])
  | "lower" => some (.range 'a' 'z')
  | "print" => some (.ofRuns [(0x20, 0x7e)])
  | "punct" => some (.ofRuns [(0x21, 0x2f), (0x3a, 0x40), (0x5b, 0x60), (0x7b, 0x7e)])
  | "space" => some .asciiSpaces
  | "upper" => some (.range 'A' 'Z')
  | "word" => some .asciiWordChars
  | "xdigit" => some (.ofRuns [(0x30, 0x39), (0x41, 0x46), (0x61, 0x66)])
  | _ => none

/-- A class of ASCII characters, behind its opening bracket; none when it is something else. -/
def readAsciiClass (f : Flags) : List Char → Option (SetNode × List Char)
  | ':' :: r =>
    let (negated, r) := match r with
      | '^' :: r' => (true, r')
      | _ => (false, r)
    match splitFirst? ':' r with
    | some (name, ']' :: r') =>
      (asciiClass? name).map fun s => (⟨if negated then s.complement else s, 0⟩, r')
    | _ => none
  | _ => none

/-- A single item of a set: a character, or a set that an escape names. -/
def readSetItem (f : Flags) : List Char → Option (Atom × List Char)
  | [] => none
  | '\\' :: r => readEscape f r
  | c :: r => some (.char c false, r)

/-- A single item as a set.  Conditions are none, and without Unicode no character beyond ASCII. -/
def Atom.set? (f : Flags) : Atom → Option SetNode
  | char c byte => if !f.unicode && 0x80 ≤ c.toNat then none else some ⟨.single c, 0⟩
  | set s => some ⟨s, 0⟩
  | look _ => none

/-- A range, or a single item.  A dash in front of a closing bracket or of another dash makes no
    range. -/
def readSetRange (f : Flags) (s : List Char) : Option (SetNode × List Char) := do
  let (first, r) ← readSetItem f s
  let r := f.skip r
  let single := (first.set? f).map fun n => (n, r)
  match r with
  | [] => none
  | '-' :: r' =>
    match f.skip r' with
    | [] => none
    | ']' :: _ | '-' :: _ => single
    | r' =>
      let (last, r'') ← readSetItem f r'
      match first, last with
      | .char a _, .char b _ =>
        if b < a || (!f.unicode && 0x80 ≤ b.toNat) then none else some (⟨.range a b, 0⟩, r'')
      | _, _ => none
  | _ => single

/-- The opening of a set, behind its bracket: whether it is negated, the dashes and the closing
    bracket that stand for themselves there, and what follows. -/
def readSetOpening (f : Flags) (s : List Char) : Option (Bool × List SetNode × List Char) :=
  let s := f.skip s
  let (negated, s) := match s with
    | '^' :: r => (true, f.skip r)
    | _ => (false, s)
  let dashes := s.takeWhile (· == '-')
  let s := f.skip (s.dropWhile (· == '-'))
  let items := dashes.map fun c => (⟨.single c, 0⟩ : SetNode)
  match items, s with
  | _, [] => none
  | [], ']' :: r => some (negated, [⟨.single ']', 0⟩], r)
  | _, _ => some (negated, items, s)

/-- The set with its case and its negation.  Without Unicode it has to stay within ASCII. -/
def SetNode.close? (f : Flags) (negated : Bool) (n : SetNode) : Option SetNode :=
  let s := if !f.caseless then n.set else if f.unicode then n.set.folded else n.set.foldedAscii
  let s := if negated then s.complement else s
  if !f.unicode && !s.isAscii then none else some ⟨s, n.depth + 1⟩

/-- The items of a set up to its closing bracket, and what follows. -/
def readSetItems (f : Flags) :
    Nat → Option (SetOp × SetNode) → List SetNode → List Char → Option (SetNode × List Char)
  | 0, _, _, _ => none
  | fuel + 1, left, items, s =>
    let here := fun (_ : Unit) =>
      let n := SetNode.ofItems items
      match left with
      | some (o, l) => o.apply f l n
      | none => n
    match f.skip s with
    | [] => none
    | ']' :: r => some (here (), r)
    | '[' :: r =>
      match readAsciiClass f r with
      | some (n, r) => readSetItems f fuel left (items ++ [n]) r
      | none =>
        match readSetOpening f r with
        | none => none
        | some (negated, opening, r) =>
          match readSetItems f fuel none opening r with
          | none => none
          | some (n, r) =>
            match n.close? f negated with
            | none => none
            | some n => readSetItems f fuel left (items ++ [n]) r
    | '&' :: '&' :: r => readSetItems f fuel (some (.inter, here ())) [] r
    | '-' :: '-' :: r => readSetItems f fuel (some (.diff, here ())) [] r
    | '~' :: '~' :: r => readSetItems f fuel (some (.symmDiff, here ())) [] r
    | s =>
      match readSetRange f s with
      | some (n, r) => readSetItems f fuel left (items ++ [n]) r
      | none => none

/-- A whole set behind its opening bracket. -/
def readSet (f : Flags) (s : List Char) : Option (SetNode × List Char) := do
  let (negated, items, r) ← readSetOpening f s
  let (n, r) ← readSetItems f (s.length + 1) none items r
  let n ← n.close? f negated
  some (n, r)

/-! ## Repetitions -/

/-- How often something is repeated. -/
structure Count where
  least : Nat
  extra : Option Nat

/-- A number of 32 bits with blanks around it. -/
def readCount (s : List Char) : Option Nat × List Char :=
  let s := s.dropWhile isBlank
  let ds := s.takeWhile Char.isDigit
  let r := (s.dropWhile Char.isDigit).dropWhile isBlank
  if ds = [] || 0x100000000 ≤ decimal ds then (none, r) else (some (decimal ds), r)

/-- The bounds of a counted repetition, behind the opening brace, and what follows its closing
    one. -/
def readBounds (f : Flags) (s : List Char) : Option (Count × List Char) :=
  match readCount (f.skip s) with
  | (some least, '}' :: r) => some (⟨least, some 0⟩, r)
  | (some least, ',' :: r) =>
    match f.skip r with
    | '}' :: r' => some (⟨least, none⟩, r')
    | r' =>
      match readCount r' with
      | (some most, '}' :: r'') =>
        if most < least then none else some (⟨least, some (most - least)⟩, r'')
      | _ => none
  | _ => none

/-! ## Expressions -/

/-- An expression with the depth of nesting that it was written with.  A setting of flags is a part
    of its own, which cannot be repeated. -/
structure Node where
  expr : Expr
  depth : Nat := 0
  isFlags : Bool := false

/-- Parts one after the other. -/
def Node.inOrder (parts : List Node) : Node :=
  match parts with
  | [] => ⟨.empty, 0, false⟩
  | [n] => n
  | _ => ⟨.sequence (parts.map (·.expr)), parts.foldl (fun d n => max d n.depth) 0 + 1, false⟩

/-- One part or the other. -/
def Node.either (parts : List Node) : Node :=
  match parts with
  | [n] => n
  | _ => ⟨.choice (parts.map (·.expr)), parts.foldl (fun d n => max d n.depth) 0 + 1, false⟩

/-- Where reading stands: the rest of the text, the flags in force, and the names of the groups
    opened so far. -/
structure Cursor where
  rest : List Char
  flags : Flags
  names : List (Option String)

/-- The part before a repetition repeated, with the parts before that.  There has to be one. -/
def repeatLast (f : Flags) (c : Count) (lazy : Bool) : List Node → Option (List Node)
  | [] => none
  | n :: ns =>
    if n.isFlags then none
    else some (⟨.rep c.least c.extra (lazy == f.lazyFirst) n.expr, n.depth + 1, false⟩ :: ns)

/-- A character as an expression. -/
def charExpr (f : Flags) (c : Char) : Expr :=
  let s := CharSet.single c
  .set (if !f.caseless then s else if f.unicode then s.folded else s.foldedAscii)

/-- An atom as an expression.  Without Unicode a byte has to be ASCII. -/
def Atom.expr? (f : Flags) : Atom → Option Expr
  | char c byte =>
    if !f.unicode && byte && 0x80 ≤ c.toNat then none else some (charExpr f c)
  | set s => some (.set s)
  | look l => some (.look l)

/-- Every character that the point matches. -/
def pointSet (f : Flags) : CharSet :=
  if f.dotAll then .full
  else if f.crlf then (CharSet.ofRuns [(0xa, 0xa), (0xd, 0xd)]).complement
  else (CharSet.single '\n').complement

/-- A part that is neither a group nor a repetition. -/
def readPart (f : Flags) : List Char → Option (Node × List Char)
  | [] => none
  | '[' :: r => (readSet f r).map fun (n, r) => (⟨.set n.set, n.depth, false⟩, r)
  | '\\' :: r => do
    let (a, r) ← readEscape f r
    some (⟨← a.expr? f, 0, false⟩, r)
  | '.' :: r => if f.unicode then some (⟨.set (pointSet f), 0, false⟩, r) else none
  | '^' :: r => some (⟨.look (if f.multiline then .lineStart f.crlf else .textStart), 0, false⟩, r)
  | '$' :: r => some (⟨.look (if f.multiline then .lineEnd f.crlf else .textEnd), 0, false⟩, r)
  | c :: r => some (⟨charExpr f c, 0, false⟩, r)

/-- The name of a group up to its closing angle bracket: a letter or an underscore first, then also
    digits, points and square brackets. -/
def readName (s : List Char) : Option (String × List Char) :=
  match splitFirst? '>' s with
  | some (c :: cs, r) =>
    let numbers := CharSet.ofCategories [.decimalNumber, .letterNumber, .otherNumber]
    let inName := fun (d : Char) =>
      d == '_' || CharSet.alphabetic.contains d || d == '.' || d == '[' || d == ']' ||
        numbers.contains d
    if (c = '_' || CharSet.alphabetic.contains c) && cs.all inName then
      some (String.ofList (c :: cs), r)
    else none
  | _ => none

/-- What an opening bracket begins. -/
inductive Opening where
  /-- Flags for the rest of the group it stands in. -/
  | flags (f : Flags) (rest : List Char)
  /-- A group of its own with the flags inside it. -/
  | group (f : Flags) (rest : List Char)
  | capture (name : Option String) (rest : List Char)

/-- Reads what stands behind an opening bracket. -/
def readOpening (f : Flags) (s : List Char) : Option Opening :=
  match f.skip s with
  | '?' :: 'P' :: '<' :: r => (readName r).map fun (n, r) => .capture (some n) r
  | '?' :: '<' :: r =>
    match r with
    | '=' :: _ | '!' :: _ => none
    | _ => (readName r).map fun (n, r) => .capture (some n) r
  | '?' :: r =>
    match readFlags f [] r with
    | some (f', used, ')' :: r') => if used = [] then none else some (.flags f' r')
    | some (f', _, ':' :: r') => some (.group f' r')
    | _ => none
  | r => some (.capture none r)

/-- The expression up to a closing bracket or the end of the text.  The parts of the alternative
    being read and the alternatives before it are held in reverse. -/
def readExpr : Nat → Cursor → List Node → List Node → Option (Node × Cursor)
  | 0, _, _, _ => none
  | fuel + 1, c, parts, before =>
    let f := c.flags
    let alternative := fun (_ : Unit) => Node.inOrder parts.reverse
    let repeated := fun (count : Count) (r : List Char) =>
      let (lazy, r) := match r with
        | '?' :: r' => (true, r')
        | _ => (false, r)
      match repeatLast f count lazy parts with
      | some parts => readExpr fuel { c with rest := r } parts before
      | none => none
    match f.skip c.rest with
    | [] => some (Node.either (alternative () :: before).reverse, { c with rest := [] })
    | ')' :: r =>
      some (Node.either (alternative () :: before).reverse, { c with rest := ')' :: r })
    | '|' :: r => readExpr fuel { c with rest := r } [] (alternative () :: before)
    | '*' :: r => repeated ⟨0, none⟩ r
    | '+' :: r => repeated ⟨1, none⟩ r
    | '?' :: r => repeated ⟨0, some 1⟩ r
    | '\x7b' :: r =>
      match readBounds f r with
      | some (count, r) => repeated count (f.skip r)
      | none => none
    | '(' :: r =>
      let close := fun (wrap : Expr → Expr) (inner : Option (Node × Cursor)) =>
        match inner with
        | some (n, c') =>
          match c'.rest with
          | ')' :: r =>
            readExpr fuel { c' with rest := r, flags := f }
              (⟨wrap n.expr, n.depth + 1, false⟩ :: parts) before
          | _ => none
        | none => none
      match readOpening f r with
      | none => none
      | some (.flags f' r) =>
        readExpr fuel { c with rest := r, flags := f' } (⟨.empty, 0, true⟩ :: parts) before
      | some (.group f' r) => close id (readExpr fuel { c with rest := r, flags := f' } [] [])
      | some (.capture name r) =>
        if name.isSome && c.names.contains name then none
        else
          close (.capture c.names.length)
            (readExpr fuel { c with rest := r, names := c.names ++ [name] } [] [])
    | s =>
      match readPart f s with
      | some (n, r) => readExpr fuel { c with rest := r } (n :: parts) before
      | none => none

/-- How deep an expression may be nested. -/
def nestingLimit : Nat := 250

/-- The pattern that a text states, whatever its size. -/
def readPattern (s : String) : Option Pattern :=
  match readExpr (s.toList.length + 1) ⟨s.toList, {}, [none]⟩ [] [] with
  | some (n, c) =>
    if c.rest = [] && n.depth ≤ nestingLimit then some ⟨n.expr, c.names⟩ else none
  | none => none

end Turnpike.Regex
