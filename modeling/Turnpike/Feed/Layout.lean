/-
  The layout of keys.

  Every entity has one key under a common prefix:

      hosts/<name>/host                  listeners/<id>
      backends/<id>/backend              backends/<id>/servers/<id>
      frontends/<id>/frontend            frontends/<id>/middlewares/<id>

  The directory of a host, a backend or a frontend stands for the entity itself, so that deleting
  the directory reads as deleting the entity.  No part of a key is empty.
-/
import Turnpike.Entity.Change
import Turnpike.Text.Ascii

namespace Turnpike.Feed

open Turnpike.Text Turnpike.Entity

/-- Keys under one prefix, which does not end in a slash. -/
structure Layout where
  stem : String
  deriving DecidableEq, Repr, Inhabited

namespace Layout

/-- The layout under a prefix; slashes at its end do not count. -/
def ofPrefix (s : String) : Layout := ⟨String.ofList (trimEnd '/' s.toList)⟩

/-- The prefix of all keys, with the slash behind it. -/
def root (l : Layout) : String := l.stem ++ "/"

/-- The parts of the key of an entity, behind the root. -/
def parts : Ref → List String
  | .host name => ["hosts", name, "host"]
  | .listener id => ["listeners", id]
  | .backend id => ["backends", id, "backend"]
  | .server backend id => ["backends", backend, "servers", id]
  | .frontend id => ["frontends", id, "frontend"]
  | .gate frontend id => ["frontends", frontend, "middlewares", id]

/-- The key of an entity. -/
def key (l : Layout) (r : Ref) : String := l.root ++ "/".intercalate (parts r)

/-- The directory of a backend. -/
def backendDir (l : Layout) (id : String) : String := l.root ++ "backends/" ++ id ++ "/"

/-- The directory of a frontend. -/
def frontendDir (l : Layout) (id : String) : String := l.root ++ "frontends/" ++ id ++ "/"

/-- The entity that parts of a key name: those of its own key, or of its directory. -/
def refOf? : List String → Option Ref
  | ["backends", backend, "servers", id] => some (.server backend id)
  | ["backends", id] | ["backends", id, "backend"] => some (.backend id)
  | ["frontends", frontend, "middlewares", id] => some (.gate frontend id)
  | ["frontends", id] | ["frontends", id, "frontend"] => some (.frontend id)
  | ["hosts", name] | ["hosts", name, "host"] => some (.host name)
  | ["listeners", id] => some (.listener id)
  | _ => none

/-- The entity that a key names; none when it does not belong to the layout. -/
def classify (l : Layout) (key : String) : Option Ref :=
  match after? l.root.toList key.toList with
  | none => none
  | some r =>
    let ps := (splitAll '/' r).map String.ofList
    if ps.contains "" then none else refOf? ps

end Layout

end Turnpike.Feed
