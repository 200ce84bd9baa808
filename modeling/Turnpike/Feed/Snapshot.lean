/-
  Snapshots — the whole configuration at one revision.

  A snapshot is gathered from a listing in two rounds.  In the first round each entry is read by the
  kind that its key names: hosts and listeners are lined up, backends and frontends are filed under
  their identifiers, and servers and gates wait.  Entries that cannot be read, or that lie outside the
  layout, are left out; of several keys that name one entity the last one in order counts.  In the
  second round the servers and the gates are put with theirs.  A server whose backend is not there
  brings a plain one with it; a gate whose frontend is not there is left out.

  Played back, a snapshot puts every entity after those that it refers to.
-/
import Turnpike.Feed.Classify

namespace Turnpike.Feed

open Turnpike.Entity

/-- A backend with its servers. -/
structure Group where
  backend : Backend
  servers : List Server
  deriving DecidableEq, Repr, Inhabited

/-- A frontend with its gates. -/
structure Site where
  frontend : Frontend
  gates : List Gate
  deriving Repr, Inhabited

/-- The configuration at a revision. -/
structure Snapshot where
  revision : Nat
  hosts : List Host
  listeners : List Listener
  groups : Dictionary Group
  sites : Dictionary Site

namespace Snapshot

/-- The group with one more server. -/
def Group.push (g : Group) (s : Server) : Group := { g with servers := g.servers ++ [s] }

/-- The groups with a server added, and with its backend if that is missing. -/
def addServer (gs : Dictionary Group) (parent : String) (s : Server) : Dictionary Group :=
  gs.insert parent (Group.push ((gs.get? parent).getD ⟨{ id := parent }, []⟩) s)

/-- The sites with a gate added, if its frontend is there. -/
def addGate (ss : Dictionary Site) (parent : String) (g : Gate) : Dictionary Site :=
  ss.modify parent fun s => { s with gates := s.gates ++ [g] }

/-- Is there nothing in it? -/
def isEmpty (s : Snapshot) : Bool :=
  s.hosts.isEmpty && s.listeners.isEmpty && s.groups.entries.isEmpty && s.sites.entries.isEmpty

/-- The entities in an order in which they can be put in place: backends, servers, hosts,
    listeners, frontends, gates. -/
def upserts (s : Snapshot) : List Upsert :=
  s.groups.values.map (.backend ·.backend) ++
  s.groups.values.flatMap (fun g => g.servers.map (.server g.backend.id)) ++
  s.hosts.map .host ++
  s.listeners.map .listener ++
  s.sites.values.map (.frontend ·.frontend) ++
  s.sites.values.flatMap (fun t => t.gates.map (.gate t.frontend.id))

/-- The changes that play the snapshot back. -/
def changes (s : Snapshot) : List Change := s.upserts.map .upsert

end Snapshot

/-! ## Gathering -/

/-- A snapshot in the making: what has been read of a listing so far.  Servers and gates wait, each
    with the name of its parent. -/
structure Draft where
  hosts : List Host
  listeners : List Listener
  groups : Dictionary Group
  servers : List (String × Server)
  sites : Dictionary Site
  gates : List (String × Gate)

namespace Draft

/-- Nothing has been read. -/
def empty : Draft := ⟨[], [], .empty, [], .empty, []⟩

/-- The draft with one more entry read, under the name that its key gives. -/
def read (l : Layout) (d : Draft) (key value : String) : Draft :=
  match l.classify key with
  | none => d
  | some (.host name) =>
    (ofText? Host.read? value).elim d fun h => { d with hosts := d.hosts ++ [{ h with name := name }] }
  | some (.listener id) =>
    (ofText? Listener.read? value).elim d fun x =>
      { d with listeners := d.listeners ++ [{ x with id := id }] }
  | some (.backend id) =>
    (ofText? Backend.read? value).elim d fun b =>
      { d with groups := d.groups.insert id ⟨{ b with id := id }, []⟩ }
  | some (.server parent id) =>
    (ofText? Server.read? value).elim d fun s =>
      { d with servers := d.servers ++ [(parent, { s with id := id })] }
  | some (.frontend id) =>
    (ofText? Frontend.read? value).elim d fun f =>
      { d with sites := d.sites.insert id ⟨{ f with id := id }, []⟩ }
  | some (.gate parent id) =>
    (ofText? Gate.read? value).elim d fun g =>
      { d with gates := d.gates ++ [(parent, { g with id := id })] }

/-- The snapshot when all entries have been read: servers and gates are put with theirs. -/
def finish (revision : Nat) (d : Draft) : Snapshot where
  revision := revision
  hosts := d.hosts
  listeners := d.listeners
  groups := d.servers.foldl (fun gs (parent, s) => Snapshot.addServer gs parent s) d.groups
  sites := d.gates.foldl (fun ss (parent, g) => Snapshot.addGate ss parent g) d.sites

end Draft

/-- The snapshot of what a store holds under the layout. -/
def Layout.snapshot (l : Layout) (s : Store) : Snapshot :=
  ((s.list l.root).foldl (fun d (key, e) => Draft.read l d key e.value) Draft.empty).finish s.revision

end Turnpike.Feed
