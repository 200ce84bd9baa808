/-
  The order of keys.

  In the order of keys a backend stands before its servers, a frontend before its gates, and all
  backends before all frontends.  Nothing in the program says so: it follows from the words that
  were chosen for the keys.  When everything under a prefix is deleted, from the last key to the
  first, it is what makes the deletions safe, since nothing is deleted before what needs it.

  1. **Which goes first** (`LeavesFirst`).  The relation is stated for the names of entities, and it
     is that of need: a server needs its backend, a gate its frontend, and a frontend some backend.

  2. **Where keys part.**  Two keys are texts of parts with slashes in between.  They compare by
     what stands behind a first part that they share (`lt_of_rest_lt`), and where two parts begin
     differently that decides (`lt_of_head_lt`).  A key may also be a beginning of the other, when
     it is a directory (`lt_of_more`).  So it is always a word of the layout that decides, and never
     an identifier: that is the crux, as identifiers may hold characters that are smaller than a
     slash.

  3. **Keys of both forms** (`lt_of_leavesFirst`).  A host, a backend or a frontend has two keys,
     its own and its directory; both come before the keys of what belongs to it.

  4. **Clearing** (`deleteUnder_childrenFirst`).  The mutations of a clearing come in the reverse
     order of their keys, whatever the layout under which the keys are read afterwards.
-/
import Turnpike.Proofs.Feed.Keys
import Turnpike.Proofs.Store.Clearing

namespace Turnpike.Feed

open Turnpike.Entity Turnpike.Store

/-! ## Where keys part -/

namespace Layout

/-- The first entity has to go before the second: a server before its backend, a gate before its
    frontend, and any frontend before any backend. -/
def LeavesFirst : Ref → Ref → Prop
  | .server backend _, .backend id => backend = id
  | .gate frontend _, .frontend id => frontend = id
  | .frontend _, .backend _ => True
  | _, _ => False

section Order

variable {l : Layout} {p q : String} {ps qs : List String}

/-- The text of parts begins with the first of them. -/
theorem exists_toList_intercalate (p : String) (ps : List String) :
    ∃ t, ("/".intercalate (p :: ps)).toList = p.toList ++ t ∧ (ps ≠ [] → t ≠ []) := by
  rw [String.toList_intercalate]
  cases ps with
  | nil => exact ⟨[], by simp, absurd rfl⟩
  | cons q ps => exact ⟨_, List.intercalate_cons_cons.trans (List.append_assoc _ _ _), by simp⟩

/-- Texts of parts compare by what stands behind a first part that they share. -/
theorem lt_of_rest_lt (h : "/".intercalate (q :: ps) < "/".intercalate (p :: qs)) (w : String) :
    "/".intercalate (w :: q :: ps) < "/".intercalate (w :: p :: qs) := by
  rw [String.lt_iff, String.toList_intercalate, String.toList_intercalate] at h ⊢
  rw [List.map_cons, List.map_cons, List.map_cons, List.map_cons, List.intercalate_cons_cons,
    List.intercalate_cons_cons]
  exact List.append_left_lt h

/-- A part that stands alone comes before all that begins with it. -/
theorem lt_of_more (p : String) (hne : ps ≠ []) :
    "/".intercalate [p] < "/".intercalate (p :: ps) := by
  obtain ⟨t, ht, hmore⟩ := exists_toList_intercalate p ps
  obtain ⟨c, t, rfl⟩ := List.exists_cons_of_ne_nil (hmore hne)
  rw [String.lt_iff, ht, String.toList_intercalate, List.map_singleton, List.intercalate_singleton]
  have hlt : p.toList ++ [] < p.toList ++ c :: t := List.append_left_lt (List.nil_lt_cons c t)
  rwa [List.append_nil] at hlt

/-- Where two first parts begin differently, that decides. -/
theorem lt_of_head_lt {c d : Char} (hp : p.toList.head? = some c) (hq : q.toList.head? = some d)
    (hlt : c < d) : "/".intercalate (p :: ps) < "/".intercalate (q :: qs) := by
  obtain ⟨t, ht, -⟩ := exists_toList_intercalate p ps
  obtain ⟨t', ht', -⟩ := exists_toList_intercalate q qs
  obtain ⟨a, ha⟩ := List.head?_eq_some_iff.mp hp
  obtain ⟨b, hb⟩ := List.head?_eq_some_iff.mp hq
  rw [String.lt_iff, ht, ht', ha, hb, List.cons_append, List.cons_append]
  exact List.cons_lt_cons_iff.mpr (Or.inl hlt)

/-- Keys compare by what stands behind their root. -/
theorem root_lt (h : "/".intercalate ps < "/".intercalate qs) :
    l.root ++ "/".intercalate ps < l.root ++ "/".intercalate qs := by
  rw [String.lt_iff] at h ⊢
  rw [String.toList_append, String.toList_append]
  exact List.append_left_lt h

/-- The parts of an entity come before those of what belongs to it, if they part in that order. -/
theorem lt_of_child {w id own kids child : String} {c d : Char} (hown : own.toList.head? = some c)
    (hkids : kids.toList.head? = some d) (hlt : c < d) (h : ps = [w, id, own] ∨ ps = [w, id]) :
    "/".intercalate ps < "/".intercalate [w, id, kids, child] := by
  -- either the own word and the word of the children part, or the directory ends
  rcases h with rfl | rfl
  · exact lt_of_rest_lt (lt_of_rest_lt (lt_of_head_lt hown hkids hlt) id) w
  · exact lt_of_rest_lt (lt_of_more id (List.cons_ne_nil _ _)) w

end Order

/-- What goes first has the greater key. -/
theorem lt_of_leavesFirst {l : Layout} {r r' : Ref} {key key' : String} (h : LeavesFirst r r')
    (hkey : l.Spells r key) (hkey' : l.Spells r' key') : key' < key := by
  obtain ⟨ps, hps, rfl⟩ := spells_iff.mp hkey
  obtain ⟨qs, hqs, rfl⟩ := spells_iff.mp hkey'
  rw [refOf?_eq_some_iff] at hps hqs
  refine root_lt ?_
  unfold LeavesFirst at h
  -- by what goes before what; a server and a gate have one form of key only
  split at h
  case h_1 backend server id =>
    subst h
    obtain rfl : ps = ["backends", backend, "servers", server] := hps.resolve_right nofun
    have hqs : qs = ["backends", backend, "backend"] ∨ qs = ["backends", backend] :=
      hqs.imp_right fun h => (Option.some.inj h).symm
    exact lt_of_child (c := 'b') (d := 's') rfl rfl (by decide) hqs
  case h_2 frontend gate id =>
    subst h
    obtain rfl : ps = ["frontends", frontend, "middlewares", gate] := hps.resolve_right nofun
    have hqs : qs = ["frontends", frontend, "frontend"] ∨ qs = ["frontends", frontend] :=
      hqs.imp_right fun h => (Option.some.inj h).symm
    exact lt_of_child (c := 'f') (d := 'm') rfl rfl (by decide) hqs
  case h_3 frontend backend =>
    obtain ⟨ps, rfl⟩ : ∃ rest, ps = "frontends" :: rest := by
      rcases hps with rfl | hdirectory
      · exact ⟨_, rfl⟩
      · exact ⟨_, (Option.some.inj hdirectory).symm⟩
    obtain ⟨qs, rfl⟩ : ∃ rest, qs = "backends" :: rest := by
      rcases hqs with rfl | hdirectory
      · exact ⟨_, rfl⟩
      · exact ⟨_, (Option.some.inj hdirectory).symm⟩
    exact lt_of_head_lt (c := 'b') (d := 'f') rfl rfl (by decide)
  case h_4 => exact h.elim

end Layout

/-! ## Clearing -/

/-- A listing shows the entries under its prefix in the order of their keys.  When they are all
    deleted, each key is deleted once, by one mutation after the other; and under whichever layout
    the keys are read, a server goes before its backend, a gate before its frontend, and every
    frontend before every backend. -/
theorem deleteUnder_childrenFirst (s : Store) (stem : String) :
    Lists s stem (s.list stem) ∧
    Clears s stem (s.deleteUnder stem) (s.countUnder stem) ∧
    ∀ (l : Layout) (r r' : Ref) (m m' : Mutation), Layout.LeavesFirst r r' →
      m ∈ (s.deleteUnder stem).since s.revision → m' ∈ (s.deleteUnder stem).since s.revision →
      l.Spells r m.key → l.Spells r' m'.key → m.revision < m'.revision := by
  have hclears : Clears s stem (s.deleteUnder stem) (s.countUnder stem) :=
    clears_deleteUnder s stem
  refine ⟨lists_list s stem, hclears, fun l r r' m m' hfirst hm hm' hkey hkey' => ?_⟩
  exact hclears.revision_lt hm hm' (Layout.lt_of_leavesFirst hfirst hkey hkey')

/-- A store with a backend, a server of it, and a frontend. -/
def furnished : Store :=
  (((make 9).put "/hw/backends/b/backend" "{}").put "/hw/backends/b/servers/s" "{}").put
    "/hw/frontends/f/frontend" "{}"

/-- Of the two keys of a backend the one of its server goes first. -/
theorem deleteUnder_childrenFirst_furnished :
    let cleared := furnished.deleteUnder "/hw/"
    let server : Mutation := ⟨"/hw/backends/b/servers/s", none, 5⟩
    let backend : Mutation := ⟨"/hw/backends/b/backend", none, 6⟩
    Layout.LeavesFirst (.server "b" "s") (.backend "b") ∧
      cleared.since furnished.revision =
        [⟨"/hw/frontends/f/frontend", none, 4⟩, server, backend] ∧
      server.revision < backend.revision ∧ furnished.countUnder "/hw/" = 3 := by
  have hsince : (furnished.deleteUnder "/hw/").since furnished.revision =
      [⟨"/hw/frontends/f/frontend", none, 4⟩, ⟨"/hw/backends/b/servers/s", none, 5⟩,
        ⟨"/hw/backends/b/backend", none, 6⟩] := by
    decide +kernel
  obtain ⟨-, hclears, hfirst⟩ := deleteUnder_childrenFirst furnished "/hw/"
  refine ⟨rfl, hsince, ?_, ?_⟩
  · exact hfirst (.ofPrefix "/hw") (.server "b" "s") (.backend "b") _ _ rfl
      (by rw [hsince]; simp) (by rw [hsince]; simp) (Or.inl (by decide)) (Or.inl (by decide))
  · rw [hclears.count]
    decide +kernel

end Turnpike.Feed
