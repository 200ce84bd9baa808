/-
  Looking routes up: nothing wrong is found, and nothing is missed.

  A router keeps its routes in two trees, and a look-up walks through them byte by byte.  What it
  should find can be said without them: an entry serves a request when its conditions let the
  request pass and its pattern spells the path (`Entry.Serves`).

  1. **The walk.**  A look-up goes through the routes of the tree in a certain order, and takes the
     first one that fits (`route?_eq`).  That has been shown for every tree.

  2. **The routes.**  In every router that calls lead to, the routes of the tree are the entries
     (`Sound.mem_routes_iff`), and a route fits as its entry serves requests
     (`Sound.fit?_eq_some_iff`).  For that the path must be text: then what is captured between
     bytes is captured between characters.

  3. **Outcome** (`route?_spells`).  What a look-up finds is an entry that serves the request with
     the captured values, and when it finds nothing there is no such entry.  Which of several is
     found is another question.

  4. **Where values end.**  A value goes on to the next slash or to the end of the path.  A look-up
     does not try shorter ones, so a path may be spelled by a pattern and still be missed
     (`route?_misses_shorter_value`).
-/
import Turnpike.Proofs.Route.Search
import Turnpike.Proofs.Route.Table

namespace Turnpike.Route

open Turnpike.Text Turnpike.Http

variable {α : Type}

/-! ## Entries and requests -/

/-- The path as it is read: the empty one stands for a slash. -/
def readPath (path : String) : String := if path.toList = [] then "/" else path

/-- The entry lets the request pass, and its pattern spells the path with these values. -/
def Entry.Serves (ends : List UInt8 → Prop) (e : Entry α) (v : View) (path : String)
    (params : List (String × String)) : Prop :=
  e.pattern.filter.accepts v = true ∧
    Spells ends e.pattern.path params (Utf8.bytes (readPath path))

namespace Router

/-- The match that an entry with these values makes. -/
def matchOf (x : Entry α × List (String × String)) : Match α := ⟨x.1.target, x.1.key, x.2⟩

/-- A look-up takes the first route of the tree that fits. -/
theorem route?_eq (r : Router α) (method : Method) (host : Option String) (path : String) :
    r.route? method host path =
      (r.trie.routes.findSome? (Forest.fit? (fun e => e.filter.accepts ⟨method, host⟩)
        (Utf8.bytes (readPath path)))).map matchOf := by
  have hbytes : (if path.toList = [] then [slash] else Utf8.bytes path) =
      Utf8.bytes (readPath path) := by
    unfold readPath
    split
    · rfl
    · rfl
  rw [route?, hbytes, Forest.find?_eq]
  rfl

/-- The routes of the trie are the entries. -/
theorem Sound.mem_routes_iff {r : Router α} (h : r.Sound) {x : List Segment × Entry α} :
    x ∈ r.trie.routes ↔ ∃ e ∈ r.entries, leafOf e = x := by
  rw [h.held.mem_routes_iff, List.mem_map]
  constructor
  · rintro ⟨-, hx⟩
    exact hx
  · rintro ⟨e, he, rfl⟩
    exact ⟨h.path_ne_nil he, e, he, rfl⟩

/-- The trie matches an entry as the entry serves requests. -/
theorem Sound.fit?_eq_some_iff {r : Router α} (h : r.Sound) {e e' : Entry α} (he : e ∈ r.entries)
    {v : View} {path : String} {params : List (String × String)} :
    Forest.fit? (fun e => e.filter.accepts v) (Utf8.bytes (readPath path)) (leafOf e) =
      some (e', params) ↔ e = e' ∧ e.Serves AtBorder v path params := by
  obtain ⟨s, t, hs, hf⟩ := h.parsed e he
  have hfilter : e.filter = e.pattern.filter := by rw [hf]; rfl
  -- a textual path captures what it spells
  rw [Forest.fit?_eq_some, leafOf, Utf8.bytes, (textual_of_parse hs).1.capture?_eq_some_iff]
  constructor
  · rintro ⟨rfl, ha, hc⟩
    exact ⟨rfl, by rw [← hfilter]; exact ha, hc⟩
  · rintro ⟨rfl, ha, hc⟩
    exact ⟨rfl, by rw [hfilter]; exact ha, hc⟩

/-! ## Soundness and completeness -/

/-- A look-up finds only entries that serve the request, and misses none that does. -/
theorem route?_spells (edits : List (Edit α)) (method : Method) (host : Option String)
    (path : String) :
    (∀ m, (ofEdits edits).route? method host path = some m →
      ∃ e ∈ (ofEdits edits).entries, m.route = e.key ∧ m.target = e.target ∧
        e.Serves AtBorder ⟨method, host⟩ path m.params) ∧
    ((ofEdits edits).route? method host path = none →
      ∀ e ∈ (ofEdits edits).entries, ∀ params, ¬ e.Serves AtBorder ⟨method, host⟩ path params) := by
  have hsound := sound_ofEdits edits
  -- of the calls it only matters that they made a sound router
  generalize ofEdits edits = r at hsound
  rw [route?_eq]
  constructor
  · intro m hm
    obtain ⟨⟨e', params⟩, hfound, rfl⟩ := Option.map_eq_some_iff.mp hm
    obtain ⟨x, hx, hfit⟩ := List.exists_of_findSome?_eq_some hfound
    obtain ⟨e, he, rfl⟩ := hsound.mem_routes_iff.mp hx
    obtain ⟨rfl, hserves⟩ := (hsound.fit?_eq_some_iff he).mp hfit
    exact ⟨e, he, rfl, rfl, hserves⟩
  · intro hnone e he params hserves
    have hfound := Option.map_eq_none_iff.mp hnone
    have hfit := List.findSome?_eq_none_iff.mp hfound (leafOf e)
      (hsound.mem_routes_iff.mpr ⟨e, he, rfl⟩)
    rw [(hsound.fit?_eq_some_iff he).mpr ⟨rfl, hserves⟩] at hfit
    cases hfit

/-- The path `/a.md` is spelled by the pattern `/<n>.md`, with the value `a`.  It is not found: the
    parameter takes `a.md`, and then the path is used up. -/
theorem route?_misses_shorter_value :
    ¬ ((ofEdits [.add "Path(`/<n>.md`)" 1]).route? .get none "/a.md" = none →
      ∀ e ∈ (ofEdits [.add "Path(`/<n>.md`)" 1]).entries, ∀ params,
        ¬ e.Serves (fun _ => True) ⟨.get, none⟩ "/a.md" params) := by
  have hsegments : segments 0 ['/', '<', 'n', '>', '.', 'm', 'd'] =
      .ok [.byte 47, .param "n", .byte 46, .byte 109, .byte 100] := by
    rw [segments_char (by decide) (by decide), segments_param rfl rfl,
      segments_char (by decide) (by decide), segments_char (by decide) (by decide),
      segments_char (by decide) (by decide), segments]
    rfl
  have hparse : Pattern.parse "Path(`/<n>.md`)" =
      .ok ⟨none, none, [.byte 47, .param "n", .byte 46, .byte 109, .byte 100]⟩ :=
    parse_path ['/', '<', 'n', '>', '.', 'm', 'd'] rfl (by decide) (by decide) hsegments
  have hadd : (empty : Router Nat).add "Path(`/<n>.md`)" 1 = .ok (empty.push (.ofPattern _ 1)) :=
    add_eq_ok.mpr ⟨_, hparse, fun _ h => absurd h List.not_mem_nil, rfl⟩
  rw [ofEdits, List.foldl_cons, List.foldl_nil, edit, hadd]
  intro h
  refine h ?_ _ List.mem_cons_self [("n", "a")] ⟨rfl, ?_⟩
  -- it is not found, by running the look-up
  · rw [route?_eq]
    decide
  -- and yet it is spelled
  · have hbytes : Utf8.bytes (readPath "/a.md") = 47 :: (Utf8.bytes "a" ++ [46, 109, 100]) := by
      decide
    rw [hbytes]
    exact .byte 47 (.param "n" "a" (by decide) (by decide) trivial
      (.byte 46 (.byte 109 (.byte 100 .done))))

end Router

end Turnpike.Route
