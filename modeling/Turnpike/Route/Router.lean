/-
  The router — registered routes and the trie that finds them.

  Routes are kept in order of registration, keyed by the canonical form of their expressions.  A
  new route is inserted into the trie; after a removal or a replacement the trie is built afresh
  from the list, in order.
-/
import Turnpike.Error
import Turnpike.Route.Compile
import Turnpike.Route.Filter
import Turnpike.Route.Trie

namespace Turnpike.Route

open Turnpike.Text Turnpike.Http

/-- A registered route. -/
structure Entry (α : Type) where
  pattern : Pattern
  filter : Filter
  target : α

/-- The entry for a pattern. -/
def Entry.ofPattern {α : Type} (p : Pattern) (target : α) : Entry α := ⟨p, p.filter, target⟩

/-- The key under which an entry is registered. -/
def Entry.key {α : Type} (e : Entry α) : String := e.pattern.canonical

/-- A route that was found: its target, its canonical expression and the captured parameters. -/
structure Match (α : Type) where
  target : α
  route : String
  params : List (String × String)

/-- The value of the first parameter of that name. -/
def Match.param? {α : Type} (m : Match α) (name : String) : Option String :=
  (m.params.find? (·.1 == name)).map (·.2)

/-- Registered routes, in order, with their trie. -/
structure Router (α : Type) where
  entries : List (Entry α)
  trie : Forest (Entry α)

namespace Router

variable {α : Type}

/-- The router without routes. -/
def empty : Router α := ⟨[], .nil⟩

instance : Inhabited (Router α) := ⟨empty⟩

/-- The trie of a list of entries. -/
def trieOf (es : List (Entry α)) : Forest (Entry α) :=
  es.foldl (fun t e => t.insert e e.pattern.path) .nil

/-- The router of a list of entries. -/
def ofEntries (es : List (Entry α)) : Router α := ⟨es, trieOf es⟩

/-- The router with one more entry, in last place. -/
def push (r : Router α) (e : Entry α) : Router α :=
  ⟨r.entries ++ [e], r.trie.insert e e.pattern.path⟩

/-- The place of the entry with that key. -/
def position? (r : Router α) (key : String) : Option Nat :=
  r.entries.findIdx? (·.key == key)

/-- The number of routes. -/
def size (r : Router α) : Nat := r.entries.length

/-- The pattern of an expression, or the error that names both it and its fault. -/
def compile (s : String) : Result Pattern :=
  match Pattern.parse s with
  | .ok p => .ok p
  | .error f => .error (.syntaxError s f.message)

/-- Registers a route.  Fails when the expression is not well formed or its key is taken. -/
def add (r : Router α) (s : String) (target : α) : Result (Router α) :=
  match compile s with
  | .error e => .error e
  | .ok p =>
    match r.position? p.canonical with
    | some _ => .error (.alreadyExists ("route " ++ s))
    | none => .ok (r.push (.ofPattern p target))

/-- Removes the route with the key of that expression; `none` when there is none. -/
def remove? (r : Router α) (s : String) : Option (Router α) :=
  match Pattern.parse s with
  | .error _ => none
  | .ok p =>
    match r.position? p.canonical with
    | none => none
    | some i => some (ofEntries (r.entries.eraseIdx i))

/-- The place of the route with the key of that expression. -/
def placeOf? (r : Router α) (s : String) : Option Nat :=
  match Pattern.parse s with
  | .error _ => none
  | .ok p => r.position? p.canonical

/-- Puts a route in the place of the one at `old`, or last when there is none.  Fails when the new
    expression is not well formed or its key belongs to another route. -/
def replace (r : Router α) (old new : String) (target : α) : Result (Router α) :=
  match compile new with
  | .error e => .error e
  | .ok p =>
    let place := r.placeOf? old
    let taken := r.position? p.canonical
    if taken.isSome && taken != place then .error (.alreadyExists ("route " ++ new))
    else
      let e : Entry α := .ofPattern p target
      match place with
      | some i => .ok (ofEntries (r.entries.set i e))
      | none => .ok (ofEntries (r.entries ++ [e]))

/-- The route of a request.  The empty path stands for a slash. -/
def route? (r : Router α) (method : Method) (host : Option String) (path : String) :
    Option (Match α) :=
  let bytes := if path.toList = [] then [slash] else Utf8.bytes path
  (r.trie.find? (fun e => e.filter.accepts ⟨method, host⟩) bytes).map
    fun (e, params) => ⟨e.target, e.key, params⟩

end Router

end Turnpike.Route
