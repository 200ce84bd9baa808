/-
  Changes from mutations.

  A key says which entity changes; a value put there says what it looks like, and the identifier in
  the key counts for more than the one in the value.  Keys outside the layout mean nothing.
-/
import Turnpike.Entity.Document
import Turnpike.Feed.Layout
import Turnpike.Store.Basic

namespace Turnpike.Feed

open Turnpike.Entity

/-- The entity that a value describes, under the name that its key gives it. -/
def entityOf? (r : Ref) (value : String) : Option Upsert :=
  match r with
  | .host name => (ofText? Host.read? value).map fun h => .host { h with name := name }
  | .listener id => (ofText? Listener.read? value).map fun l => .listener { l with id := id }
  | .backend id => (ofText? Backend.read? value).map fun b => .backend { b with id := id }
  | .server parent id =>
    (ofText? Server.read? value).map fun s => .server parent { s with id := id }
  | .frontend id => (ofText? Frontend.read? value).map fun f => .frontend { f with id := id }
  | .gate parent id => (ofText? Gate.read? value).map fun g => .gate parent { g with id := id }

/-- The entity that a value describes, of the kind and with the parent of a reference, under the name
    that the value itself gives. -/
def statedEntity? (r : Ref) (value : String) : Option Upsert :=
  match r with
  | .host _ => (ofText? Host.read? value).map .host
  | .listener _ => (ofText? Listener.read? value).map .listener
  | .backend _ => (ofText? Backend.read? value).map .backend
  | .server parent _ => (ofText? Server.read? value).map (.server parent)
  | .frontend _ => (ofText? Frontend.read? value).map .frontend
  | .gate parent _ => (ofText? Gate.read? value).map (.gate parent)

/-- The entity under a key, or the error that its value is not a document of that kind. -/
def decode (r : Ref) (key value : String) : Result Upsert :=
  match entityOf? r value with
  | some u => .ok u
  | none => .error (.decode key)

/-- What is told of a key: that it was deleted, or that a value was put there.  The value may be
    missing from what is told. -/
inductive Report where
  | deleted (key : String)
  | put (key : String) (value : Option String)
  deriving DecidableEq, Repr

/-- The report of a mutation. -/
def Report.ofMutation (m : Store.Mutation) : Report :=
  match m.value with
  | some v => .put m.key (some v)
  | none => .deleted m.key

/-- The change that is reported; none for a key outside the layout. -/
def Layout.change (l : Layout) : Report → Result (Option Change)
  | .deleted key => .ok ((l.classify key).map .delete)
  | .put key value =>
    match l.classify key, value with
    | none, _ => .ok none
    | some r, some v => (decode r key v).map fun u => some (.upsert u)
    | some _, none => .error (.invalid s!"put of '{key}' carries no value")

/-- The change that a mutation makes; none when it makes none that can be read. -/
def Layout.changeOf? (l : Layout) (m : Store.Mutation) : Option Change :=
  match l.change (.ofMutation m) with
  | .ok c => c
  | .error _ => none

end Turnpike.Feed
