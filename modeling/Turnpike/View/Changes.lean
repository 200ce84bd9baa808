/-
  Views of the store and of the feed — references, changes, mutations and snapshots as documents.
-/
import Turnpike.Feed.Snapshot
import Turnpike.Store.Watch
import Turnpike.View.Figures

namespace Turnpike

open Turnpike.Json

/-! ## Changes -/

/-- An identifier. -/
def Entity.idView (id : String) : Json := .obj [("id", .str id)]

/-- A reference as the key of an entity, which holds that of its parent. -/
def Entity.Ref.view : Ref → Json
  | .host name => .obj [("name", .str name)]
  | .listener id | .backend id | .frontend id => idView id
  | .server parent id => .obj [("backend_key", idView parent), ("id", .str id)]
  | .gate parent id => .obj [("frontend_key", idView parent), ("id", .str id)]

/-- A reference as the list of the word for its kind and its identifiers. -/
def Entity.Ref.words (r : Ref) : List String :=
  r.noun :: match r with
    | .host id | .listener id | .backend id | .frontend id => [id]
    | .server parent id | .gate parent id => [parent, id]

/-- The fields of an entity put in place. -/
def Entity.Upsert.fields : Upsert → List (String × Json)
  | .host h => [("host", h.json)]
  | .listener l => [("listener", l.json)]
  | .backend b => [("backend", b.json)]
  | .server parent s => [("backend_key", idView parent), ("server", s.json)]
  | .frontend f => [("frontend", f.json)]
  | .gate parent g => [("frontend_key", idView parent), ("middleware", g.json)]

/-- A change, with the entity put or the key of the entity deleted. -/
def Entity.Change.view (c : Change) : Json :=
  object ([("kind", .str c.kind), ("subject", .str c.subject)] ++
    match c with
    | .upsert u => u.fields
    | .delete r => [("key", r.view)])

/-! ## The store -/

/-- An entry under its key. -/
def Store.Entry.view (key : String) (e : Entry) : Json := .arr [.str key, .str e.value, ofNat e.revision]

/-- A mutation. -/
def Store.Mutation.view (m : Mutation) : Json :=
  let kind := if m.value.isSome then "put" else "delete"
  .arr [.str kind, .str m.key, ofOption .str m.value, ofNat m.revision]

/-- What a watch delivers, unless it fails. -/
def Store.Notice.view : Notice → Result Json
  | .mutation m => .ok m.view
  | .pending => .ok (.str "pending")
  | .over => .ok (.str "end")
  | .failed e => .error e

/-! ## Snapshots -/

/-- A backend with its servers. -/
def Feed.Group.view (g : Group) : Json :=
  object [("backend", g.backend.json), ("servers", .arr (g.servers.map (·.json)))]

/-- A frontend with its gates. -/
def Feed.Site.view (s : Site) : Json :=
  object [("frontend", s.frontend.json), ("middlewares", .arr (s.gates.map (·.json)))]

/-- A snapshot. -/
def Feed.Snapshot.view (s : Snapshot) : Json :=
  object [("revision", ofNat s.revision), ("empty", .bool s.isEmpty),
    ("hosts", .arr (s.hosts.map (·.json))), ("listeners", .arr (s.listeners.map (·.json))),
    ("backends", .arr (s.groups.values.map Group.view)),
    ("frontends", .arr (s.sites.values.map Site.view))]

end Turnpike
