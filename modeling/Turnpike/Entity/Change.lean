/-
  Changes — one entity put or deleted.

  A `Ref` names an entity without saying what it looks like.  An `Upsert` carries the whole entity,
  with the identifier of its parent where it has one.
-/
import Turnpike.Entity.Basic

namespace Turnpike.Entity

/-- The name of an entity. -/
inductive Ref where
  | host (name : String)
  | listener (id : String)
  | backend (id : String)
  | server (backend id : String)
  | frontend (id : String)
  | gate (frontend id : String)
  deriving DecidableEq, Repr, Inhabited

/-- The text of a reference: the identifier, behind that of its parent and a point. -/
def Ref.text : Ref → String
  | host name => name
  | listener id | backend id | frontend id => id
  | server parent id | gate parent id => parent ++ "." ++ id

/-- What kind of entity is named. -/
def Ref.noun : Ref → String
  | host _ => "host"
  | listener _ => "listener"
  | backend _ => "backend"
  | server .. => "server"
  | frontend _ => "frontend"
  | gate .. => "middleware"

/-- The name of an entity whose kind is named by a word. -/
def Ref.ofNoun? (noun parent id : String) : Option Ref :=
  [Ref.host id, .listener id, .backend id, .server parent id, .frontend id, .gate parent id].find?
    (·.noun == noun)

/-- An entity to be put in place. -/
inductive Upsert where
  | host (h : Host)
  | listener (l : Listener)
  | backend (b : Backend)
  | server (backend : String) (s : Server)
  | frontend (f : Frontend)
  | gate (frontend : String) (g : Gate)
  deriving Repr, Inhabited

/-- The name of the entity. -/
def Upsert.ref : Upsert → Ref
  | host h => .host h.name
  | listener l => .listener l.id
  | backend b => .backend b.id
  | server parent s => .server parent s.id
  | frontend f => .frontend f.id
  | gate parent g => .gate parent g.id

/-- A change of the configuration. -/
inductive Change where
  | upsert (u : Upsert)
  | delete (r : Ref)
  deriving Repr, Inhabited

/-- The name of the entity that changes. -/
def Change.ref : Change → Ref
  | upsert u => u.ref
  | delete r => r

/-- The label under which changes of this kind are counted. -/
def Change.kind : Change → String
  | upsert u => u.ref.noun ++ "_upserted"
  | delete r => r.noun ++ "_deleted"

/-- The text of the entity that changes. -/
def Change.subject (c : Change) : String := c.ref.text

end Turnpike.Entity
