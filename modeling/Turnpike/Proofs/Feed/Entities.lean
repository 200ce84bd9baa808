/-
  A snapshot is made of the entities of its listing.

  There are two places where the value under a key is read.  A change that is told of is read by
  `entityOf?`, which answers with one entity.  A snapshot reads its listing by a dispatch of its own
  (`Draft.read`), which puts each kind where it belongs and never has an entity in hand.  Whatever is
  said about a proxy that follows the changes of a store, as against one that starts from its
  snapshot, depends on the two of them reading alike.

  1. **Kind by kind** (`Draft.read_eq`).  To read an entry into a draft is to read the entity under
     its key and to put it into the draft (`Draft.add`).  Both dispatches ask the same layout for the
     kind, read the same kind of document, and let the name in the key count for more than the one
     in the value; a value that is no such document is left out by both.  Each of the six kinds is a
     case of its own.

  2. **A whole listing** (`Draft.foldl_read`).  So the draft of a listing is that of its entities
     (`Layout.entities`), which stand in the order of their keys.

  3. **What a draft holds** (`Draft.foldl_add`).  Adding keeps the kinds apart: the parts of the draft
     are the entities of each kind, lined up or filed as they came.

  4. **The snapshot** (`Layout.snapshot_eq`).  Hence it is one function of the entities
     (`Snapshot.ofEntities`): hosts and listeners are those among them, and groups and sites are
     filled by two walks over them, the first for backends or frontends and the second for servers or
     gates.  This is the form in which the proofs about snapshots take them up: nothing behind this
     module has to know of keys, values or drafts.
-/
import Turnpike.Feed.Snapshot

namespace Turnpike.Feed

open Turnpike.Entity

/-! ## The entities of a listing -/

/-- The entities of a listing, in the order of their keys. -/
def Layout.entities (l : Layout) (entries : List (String × Store.Entry)) : List Upsert :=
  entries.filterMap fun (key, e) => (l.classify key).bind fun r => entityOf? r e.value

namespace Draft

/-- The draft with an entity put where its kind belongs. -/
def add (d : Draft) : Upsert → Draft
  | .host h => { d with hosts := d.hosts ++ [h] }
  | .listener x => { d with listeners := d.listeners ++ [x] }
  | .backend b => { d with groups := d.groups.insert b.id ⟨b, []⟩ }
  | .server parent s => { d with servers := d.servers ++ [(parent, s)] }
  | .frontend f => { d with sites := d.sites.insert f.id ⟨f, []⟩ }
  | .gate parent g => { d with gates := d.gates ++ [(parent, g)] }

/-- An entry is read as the entity under its key, if there is one. -/
theorem read_eq (l : Layout) (d : Draft) (key value : String) :
    d.read l key value = ((l.classify key).bind fun r => entityOf? r value).elim d d.add := by
  unfold read
  cases l.classify key with
  | none => rfl
  | some r =>
    -- on both sides each kind has an arm of its own, which reads one kind of document
    rw [Option.bind_some]
    cases r with
    | host name =>
      show (ofText? Host.read? value).elim d _ = (Option.map _ _).elim d d.add
      rw [Option.elim_map]
      rfl
    | listener id =>
      show (ofText? Listener.read? value).elim d _ = (Option.map _ _).elim d d.add
      rw [Option.elim_map]
      rfl
    | backend id =>
      show (ofText? Backend.read? value).elim d _ = (Option.map _ _).elim d d.add
      rw [Option.elim_map]
      rfl
    | server parent id =>
      show (ofText? Server.read? value).elim d _ = (Option.map _ _).elim d d.add
      rw [Option.elim_map]
      rfl
    | frontend id =>
      show (ofText? Frontend.read? value).elim d _ = (Option.map _ _).elim d d.add
      rw [Option.elim_map]
      rfl
    | gate parent id =>
      show (ofText? Gate.read? value).elim d _ = (Option.map _ _).elim d d.add
      rw [Option.elim_map]
      rfl

/-- The draft of a listing is that of its entities. -/
theorem foldl_read (l : Layout) (entries : List (String × Store.Entry)) (d : Draft) :
    entries.foldl (fun d (key, e) => d.read l key e.value) d =
      (l.entities entries).foldl add d := by
  rw [Layout.entities, List.foldl_filterMap]
  congr 1
  funext d ⟨key, e⟩
  show d.read l key e.value = _
  rw [read_eq]
  dsimp only
  cases (l.classify key).bind fun r => entityOf? r e.value with
  | none => rfl
  | some u => rfl

end Draft

/-! ## The parts of a draft -/

/-- The host that an entity is. -/
def host? : Upsert → Option Host
  | .host h => some h
  | _ => none

/-- The listener that an entity is. -/
def listener? : Upsert → Option Listener
  | .listener x => some x
  | _ => none

/-- The server that an entity is, with the name of its backend. -/
def server? : Upsert → Option (String × Server)
  | .server parent s => some (parent, s)
  | _ => none

/-- The gate that an entity is, with the name of its frontend. -/
def gate? : Upsert → Option (String × Gate)
  | .gate parent g => some (parent, g)
  | _ => none

/-- The groups with a backend filed. -/
def fileBackend (gs : Dictionary Group) : Upsert → Dictionary Group
  | .backend b => gs.insert b.id ⟨b, []⟩
  | _ => gs

/-- The sites with a frontend filed. -/
def fileFrontend (ss : Dictionary Site) : Upsert → Dictionary Site
  | .frontend f => ss.insert f.id ⟨f, []⟩
  | _ => ss

namespace Draft

/-- A kind that is lined up stands in the order in which it came, whatever came in between. -/
theorem foldl_add_lined {β : Type} (part : Draft → List β) (of? : Upsert → Option β)
    (hpart : ∀ d u, part (d.add u) = part d ++ (of? u).toList) (us : List Upsert) (d : Draft) :
    part (us.foldl add d) = part d ++ us.filterMap of? := by
  induction us generalizing d with
  | nil => rw [List.foldl_nil, List.filterMap_nil, List.append_nil]
  | cons u us ih =>
    rw [List.foldl_cons, ih, hpart, List.filterMap_cons]
    cases of? u with
    | none => rw [Option.toList_none, List.append_nil]
    | some x => rw [Option.toList_some, List.append_assoc, List.singleton_append]

theorem foldl_add_filed {β : Type} (part : Draft → β) (file : β → Upsert → β)
    (hpart : ∀ d u, part (d.add u) = file (part d) u) (us : List Upsert) (d : Draft) :
    part (us.foldl add d) = us.foldl file (part d) :=
  (List.foldl_hom part fun d u => (hpart d u).symm).symm

/-- The draft of entities keeps them apart by their kinds. -/
theorem foldl_add (us : List Upsert) :
    us.foldl add empty =
      ⟨us.filterMap host?, us.filterMap listener?, us.foldl fileBackend .empty,
        us.filterMap server?, us.foldl fileFrontend .empty, us.filterMap gate?⟩ := by
  have hhosts := foldl_add_lined hosts host?
    (fun d u => by cases u <;> simp [add, host?]) us empty
  have hlisteners := foldl_add_lined listeners listener?
    (fun d u => by cases u <;> simp [add, listener?]) us empty
  have hservers := foldl_add_lined servers server?
    (fun d u => by cases u <;> simp [add, server?]) us empty
  have hgates := foldl_add_lined gates gate?
    (fun d u => by cases u <;> simp [add, gate?]) us empty
  have hgroups := foldl_add_filed groups fileBackend
    (fun d u => by cases u <;> rfl) us empty
  have hsites := foldl_add_filed sites fileFrontend
    (fun d u => by cases u <;> rfl) us empty
  generalize us.foldl add empty = d at hhosts hlisteners hservers hgates hgroups hsites
  cases d
  simp_all [empty]

end Draft

/-! ## The snapshot -/

/-- The groups with a server put into its own. -/
def fileServer (gs : Dictionary Group) : Upsert → Dictionary Group
  | .server parent s => Snapshot.addServer gs parent s
  | _ => gs

/-- The sites with a gate put into its own. -/
def fileGate (ss : Dictionary Site) : Upsert → Dictionary Site
  | .gate parent g => Snapshot.addGate ss parent g
  | _ => ss

/-- The snapshot of entities in the order of their keys. -/
def Snapshot.ofEntities (revision : Nat) (us : List Upsert) : Snapshot where
  revision := revision
  hosts := us.filterMap host?
  listeners := us.filterMap listener?
  groups := us.foldl fileServer (us.foldl fileBackend .empty)
  sites := us.foldl fileGate (us.foldl fileFrontend .empty)

/-- To put the servers into groups one by one is to pass over all that is no server. -/
theorem foldl_fileServer (us : List Upsert) (gs : Dictionary Group) :
    (us.filterMap server?).foldl (fun gs (parent, s) => Snapshot.addServer gs parent s) gs =
      us.foldl fileServer gs := by
  rw [List.foldl_filterMap]
  congr 1
  funext gs u
  cases u <;> rfl

/-- So it is with gates and sites. -/
theorem foldl_fileGate (us : List Upsert) (ss : Dictionary Site) :
    (us.filterMap gate?).foldl (fun ss (parent, g) => Snapshot.addGate ss parent g) ss =
      us.foldl fileGate ss := by
  rw [List.foldl_filterMap]
  congr 1
  funext ss u
  cases u <;> rfl

/-- The snapshot of a store is that of the entities that it lists. -/
theorem Layout.snapshot_eq (l : Layout) (s : Store) :
    l.snapshot s = .ofEntities s.revision (l.entities (s.list l.root)) := by
  unfold snapshot
  rw [Draft.foldl_read, Draft.foldl_add, Draft.finish, foldl_fileServer, foldl_fileGate]
  rfl

end Turnpike.Feed
