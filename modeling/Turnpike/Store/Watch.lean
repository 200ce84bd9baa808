/-
  Watches — the mutations under a prefix, as they happen.

  A watch starts after a revision.  What the history already holds is its backlog and comes first;
  after that it follows the live mutations, of which only so many may wait to be looked at.  It ends
  with one error, when it is broken or when too many mutations wait, and with nothing after that.
-/
import Turnpike.Store.Basic

namespace Turnpike.Store

/-- The number of live mutations that may wait. -/
def liveLimit : Nat := 4096

/-- An open watch. -/
structure Watch where
  stem : String
  /-- Mutations from the history, still to be delivered. -/
  backlog : List Mutation
  /-- The revision of the last mutation delivered, or the one it started after. -/
  last : Nat
  /-- The revision of the last live mutation looked at. -/
  seen : Nat
  /-- How often watches had been broken when it was opened. -/
  breaks : Nat
  ended : Bool
  deriving DecidableEq, Repr, Inhabited

/-- What a watch has to say. -/
inductive Notice where
  | mutation (m : Mutation)
  | pending
  | failed (e : Error)
  | over
  deriving DecidableEq, Repr

/-- Does the mutation belong to a watch that has come so far? -/
def concerns (stem : String) (last : Nat) (m : Mutation) : Bool :=
  last < m.revision && under stem m.key

/-- Opens a watch on a prefix after a revision.  Fails when a later mutation has already left the
    history. -/
def watch (s : Store) (stem : String) (after : Nat) : Result Watch :=
  match s.compacted? after with
  | some oldest =>
    .error (.feed s!"revision {after} has been compacted, oldest is {oldest.revision}")
  | none =>
    .ok {
      stem := stem
      backlog := s.history.filter (concerns stem after)
      last := after
      seen := s.revision
      breaks := s.breaks
      ended := false }

/-- The first live mutation that concerns the watch; those before it are passed over. -/
def Watch.follow (w : Watch) : List Mutation → Watch × Notice
  | [] => (w, .pending)
  | m :: r =>
    if concerns w.stem w.last m then ({ w with seen := m.revision, last := m.revision }, .mutation m)
    else { w with seen := m.revision }.follow r

/-- Looks at a watch once. -/
def Watch.poll (w : Watch) (s : Store) : Watch × Notice :=
  if w.ended then (w, .over)
  else
    match w.backlog with
    | m :: r => ({ w with backlog := r, last := m.revision }, .mutation m)
    | [] =>
      if w.breaks < s.breaks then
        ({ w with ended := true }, .failed (.feed "watch connection lost"))
      else if w.seen + liveLimit < s.revision then
        ({ w with ended := true },
          .failed (.feed s!"watch lagged by {s.revision - w.seen - liveLimit} events"))
      else w.follow (s.since w.seen)

end Turnpike.Store
