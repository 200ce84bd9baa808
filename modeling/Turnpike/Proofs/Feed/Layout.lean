/-
  Keys and entities.

  A layout is a prefix under which every entity has a key: words of the layout and identifiers, with
  slashes in between.  This module shows what the key says of the entity, and what the value under
  it says.

  1. **Parts.**  `parts` writes the parts of a key and `refOf?` reads them; one undoes the other
     (`refOf?_parts`), and the parts hold the identifiers (`mem_of_refOf?`).  Words and identifiers
     are all that there is in a key (`mem_parts`), and the words are fit to stand between slashes.

  2. **Keys** (`classify_eq_some`).  A key is read by taking it apart, and it names an entity when
     its parts do, and none of them is empty or holds a slash.  The statement is in terms of the
     parts that a key is put together of, so that the search for slashes is met in this one proof
     only.

  3. **Values** (`ref_of_entityOf?`).  What a value under a key describes is an entity of the name
     that was asked for, because the reader puts it under that name whatever name stands in the
     document.

  4. **Telling** (`Layout.change_put`, `Layout.change_delete`).  A mutation of a key that names an
     entity is told as the entity that its value describes, or as the deletion of that name; a value
     that describes none is an error (`Layout.change_garbled`).
-/
import Turnpike.Feed.Classify
import Turnpike.Proofs.Result
import Turnpike.Proofs.Text.Split

namespace Turnpike.Feed

open Turnpike.Text Turnpike.Entity

namespace Layout

/-! ## Naming -/

/-- The identifiers in a reference. -/
def ids : Ref → List String
  | .host name => [name]
  | .listener id | .backend id | .frontend id => [id]
  | .server parent id | .gate parent id => [parent, id]

/-- Whether an identifier can stand between slashes. -/
def Plain (id : String) : Prop := id ≠ "" ∧ '/' ∉ id.toList

instance : DecidablePred Plain := fun id =>
  inferInstanceAs (Decidable (id ≠ "" ∧ '/' ∉ id.toList))

theorem refOf?_parts (r : Ref) : refOf? (parts r) = some r := by
  cases r with
  | _ => rfl

/-- The parts of a key hold the identifiers of the entity that they name. -/
theorem mem_of_refOf? {ps : List String} {r : Ref} (h : refOf? ps = some r) :
    ∀ id ∈ ids r, id ∈ ps := by
  unfold refOf? at h
  split at h
  all_goals
    first
    | cases h
      simp [ids]
    | cases h

/-- The words of keys. -/
def words : List String :=
  ["hosts", "host", "listeners", "backends", "backend", "servers", "frontends", "frontend",
    "middlewares"]

theorem plain_of_mem_words : ∀ word ∈ words, Plain word := by decide

theorem mem_parts {r : Ref} : ∀ part ∈ parts r, part ∈ words ∨ part ∈ ids r := by
  cases r with
  | _ => simp [parts, ids, words]

/-- The characters of a key. -/
theorem toList_join (l : Layout) (ps : List String) :
    (l.root ++ "/".intercalate ps).toList =
      l.root.toList ++ ['/'].intercalate (ps.map String.toList) := by
  rw [String.toList_append, String.toList_intercalate]
  rfl

/-- A key is read by the parts that it is put together of. -/
theorem classify_eq_some {l : Layout} {key : String} {r : Ref} :
    l.classify key = some r ↔ ∃ ps, refOf? ps = some r ∧ (∀ part ∈ ps, Plain part) ∧
      key = l.root ++ "/".intercalate ps := by
  unfold classify
  constructor
  · intro h
    split at h
    case h_1 => cases h
    case h_2 rest hrest =>
      dsimp only at h
      split at h
      case isTrue => cases h
      case isFalse hfull =>
        refine ⟨_, h, fun part hpart => ⟨?_, ?_⟩, ?_⟩
        · rintro rfl
          exact hfull (List.contains_iff_mem.mpr hpart)
        · obtain ⟨p, hp, rfl⟩ := List.mem_map.mp hpart
          rw [String.toList_ofList]
          exact not_mem_of_mem_splitAll hp
        -- the parts as texts have the characters that were found between slashes
        · have hback : ((splitAll '/' rest).map String.ofList).map String.toList =
              splitAll '/' rest := by
            rw [List.map_map]
            exact List.map_id'' (fun _ => String.toList_ofList) _
          rw [← String.toList_inj, toList_join, hback, intercalate_splitAll,
            eq_append_of_after? hrest]
  · rintro ⟨ps, href, hplain, rfl⟩
    have hne : ps.map String.toList ≠ [] := by
      intro hnil
      rw [List.map_eq_nil_iff.mp hnil] at href
      cases href
    -- no part holds a slash, so that the key comes apart into just these
    have hsplit : splitAll '/' (['/'].intercalate (ps.map String.toList)) =
        ps.map String.toList := by
      refine splitAll_intercalate hne fun p hp => ?_
      obtain ⟨part, hpart, rfl⟩ := List.mem_map.mp hp
      exact (hplain part hpart).2
    have hparts : (ps.map String.toList).map String.ofList = ps := by
      rw [List.map_map]
      exact List.map_id'' (fun _ => String.ofList_toList) _
    rw [toList_join, after?_append]
    dsimp only
    rw [hsplit, hparts, if_neg]
    · exact href
    -- and none of them is empty
    · exact fun hnil => (hplain "" (List.contains_iff_mem.mp hnil)).1 rfl

/-- The key of an entity names it when its identifiers can stand between slashes. -/
theorem classify_key_iff {l : Layout} {r : Ref} :
    l.classify (l.key r) = some r ↔ ∀ id ∈ ids r, Plain id := by
  rw [classify_eq_some]
  constructor
  · rintro ⟨ps, href, hplain, -⟩
    exact fun id hid => hplain id (mem_of_refOf? href id hid)
  · intro hplain
    refine ⟨parts r, refOf?_parts r, fun part hpart => ?_, rfl⟩
    rcases mem_parts part hpart with hword | hid
    · exact plain_of_mem_words part hword
    · exact hplain part hid

/-- A key of the layout lies under the root. -/
theorem under_of_classify {l : Layout} {key : String} {r : Ref} (h : l.classify key = some r) :
    Store.under l.root key = true := by
  unfold classify at h
  split at h
  case h_1 => cases h
  case h_2 rest hrest =>
    rw [Store.under, List.isPrefixOf_iff_prefix, eq_append_of_after? hrest]
    exact List.prefix_append _ _

end Layout

/-! ## Describing -/

/-- The name of the entity is the one that was asked for. -/
theorem ref_of_entityOf? {r : Ref} {value : String} {u : Upsert} (h : entityOf? r value = some u) :
    u.ref = r := by
  cases r with
  | _ =>
    obtain ⟨x, -, rfl⟩ := Option.map_eq_some_iff.mp h
    rfl

/-- A value that is put is told as the entity that it describes. -/
theorem Layout.change_put {l : Layout} {key value : String} {n : Nat} {r : Ref} {c : Change}
    (hr : l.classify key = some r) :
    l.change (.ofMutation ⟨key, some value, n⟩) = .ok (some c) ↔
      ∃ u, entityOf? r value = some u ∧ c = .upsert u := by
  unfold Layout.change Report.ofMutation
  dsimp only
  rw [hr]
  dsimp only
  rw [Result.map_eq_ok]
  unfold decode
  constructor
  · rintro ⟨u, hu, hc⟩
    split at hu
    case h_1 v hv =>
      cases hu
      exact ⟨u, hv, (Option.some.inj hc).symm⟩
    case h_2 => cases hu
  · rintro ⟨u, hu, rfl⟩
    rw [hu]
    exact ⟨u, rfl, rfl⟩

/-- What is put and cannot be told describes no entity. -/
theorem Layout.change_garbled {l : Layout} {key value : String} {n : Nat} {r : Ref} {e : Error}
    (hr : l.classify key = some r) (h : l.change (.ofMutation ⟨key, some value, n⟩) = .error e) :
    entityOf? r value = none := by
  cases hu : entityOf? r value with
  | none => rfl
  | some u =>
    rw [(Layout.change_put hr).mpr ⟨u, hu, rfl⟩] at h
    cases h

/-- A key that is deleted is told as the deletion of what it names. -/
theorem Layout.change_delete {l : Layout} {key : String} {n : Nat} {r : Ref} {c : Change}
    (hr : l.classify key = some r) :
    l.change (.ofMutation ⟨key, none, n⟩) = .ok (some c) ↔ c = .delete r := by
  show Except.ok ((l.classify key).map Change.delete) = _ ↔ _
  rw [hr]
  constructor
  · intro h
    exact (Option.some.inj (Except.ok.inj h)).symm
  · rintro rfl
    rfl

end Turnpike.Feed
