/-
  Which keys an entity has.

  All that is stored is stored under keys, and a key is read back when a mutation of it is told, or
  when it comes up in a listing.  Which entity a key is about has to be read from the key alone.

  1. **Spelling** (`Spells`).  An entity is spelled by its own key, and a host, a backend or a
     frontend also by its directory, which is the key without its last word.  This is the
     specification: it says what a key may look like, and nothing of how it is read.

  2. **Proper identifiers** (`Proper`).  An identifier that is empty or holds a slash cannot stand
     between slashes, and its key would be taken for another one.

  3. **Reading.**  Keys are read by their parts: the text is taken apart at its slashes, and what it
     names is decided by matching the parts (`refOf?`).  What the parts name is known from the match
     (`refOf?_eq_some_iff`); that the parts are those of the text holds as long as none of them has
     a slash (`classify_eq_some`).  The two together are the main equivalence
     (`classify_iff_spells`).

  4. **The prefix** (`ofPrefix_eq_iff`).  Slashes at the end of a prefix make no difference, because
     its stem is the prefix without them.

  5. **Consequences** (`classify_undoes_spelling`).  Every entity is found again by its key, and two
     entities never share one, whatever words their identifiers are: an identifier may be a word of
     the layout, since words are told by their places.
-/
import Turnpike.Proofs.Feed.Layout

namespace Turnpike.Feed.Layout

open Turnpike.Text Turnpike.Entity

/-! ## Spelling -/

/-- The parts of the directory of an entity, behind the root, where the directory stands for it. -/
def directory? : Ref → Option (List String)
  | .host name => some ["hosts", name]
  | .backend id => some ["backends", id]
  | .frontend id => some ["frontends", id]
  | .listener _ | .server .. | .gate .. => none

/-- The key is the one of the entity, or its directory. -/
def Spells (l : Layout) (r : Ref) (key : String) : Prop :=
  key = l.key r ∨ ∃ ps, directory? r = some ps ∧ key = l.root ++ "/".intercalate ps

/-- All identifiers in a reference can stand between slashes. -/
def Proper (r : Ref) : Prop := ∀ id ∈ ids r, Plain id

instance : DecidablePred Proper := fun r => inferInstanceAs (Decidable (∀ id ∈ ids r, Plain id))

/-- Parts name an entity when they are those of its key or of its directory. -/
theorem refOf?_eq_some_iff {ps : List String} {r : Ref} :
    refOf? ps = some r ↔ ps = parts r ∨ directory? r = some ps := by
  constructor
  · intro h
    unfold refOf? at h
    split at h
    -- the three patterns that are directories
    case h_2 | h_5 | h_7 => cases h; exact Or.inr rfl
    case h_10 => cases h
    all_goals cases h; exact Or.inl rfl
  · rintro (rfl | h)
    · exact refOf?_parts r
    · cases r with
      | host | backend | frontend => cases h; rfl
      | listener | server | gate => cases h

/-- The parts of a directory are words and identifiers, as those of a key are. -/
theorem mem_directory? {r : Ref} {ps : List String} (h : directory? r = some ps) :
    ∀ part ∈ ps, part ∈ words ∨ part ∈ ids r := by
  cases r with
  | host | backend | frontend => cases h; simp [ids, words]
  | listener | server | gate => cases h

/-- The parts that name an entity can stand between slashes when its identifiers can. -/
theorem plain_parts_iff {ps : List String} {r : Ref} (h : refOf? ps = some r) :
    (∀ part ∈ ps, Plain part) ↔ Proper r := by
  constructor
  · exact fun hplain id hid => hplain id (mem_of_refOf? h id hid)
  · intro hproper part hpart
    -- a part is a word of the layout or an identifier; words are plain
    have hmem : part ∈ words ∨ part ∈ ids r := by
      rcases refOf?_eq_some_iff.mp h with rfl | hdirectory
      · exact mem_parts part hpart
      · exact mem_directory? hdirectory part hpart
    rcases hmem with hword | hid
    · exact plain_of_mem_words part hword
    · exact hproper part hid

/-! ## Reading keys -/

/-- What spells an entity is put together of parts that name it. -/
theorem spells_iff {l : Layout} {key : String} {r : Ref} :
    l.Spells r key ↔ ∃ ps, refOf? ps = some r ∧ key = l.root ++ "/".intercalate ps := by
  constructor
  · rintro (rfl | ⟨ps, hdirectory, rfl⟩)
    · exact ⟨parts r, refOf?_parts r, rfl⟩
    · exact ⟨ps, refOf?_eq_some_iff.mpr (Or.inr hdirectory), rfl⟩
  · rintro ⟨ps, href, rfl⟩
    rcases refOf?_eq_some_iff.mp href with rfl | hdirectory
    · exact Or.inl rfl
    · exact Or.inr ⟨ps, hdirectory, rfl⟩

/-- The keys that name an entity are those that spell it, if it has proper identifiers. -/
theorem classify_iff_spells {l : Layout} {key : String} {r : Ref} :
    l.classify key = some r ↔ l.Spells r key ∧ Proper r := by
  rw [classify_eq_some, spells_iff]
  constructor
  · rintro ⟨ps, href, hplain, hkey⟩
    exact ⟨⟨ps, href, hkey⟩, (plain_parts_iff href).mp hplain⟩
  · rintro ⟨⟨ps, href, hkey⟩, hproper⟩
    exact ⟨ps, href, (plain_parts_iff href).mpr hproper, hkey⟩

/-! ## The prefix -/

/-- A prefix is the stem of its layout with slashes behind it, and the stem does not end in one. -/
theorem ofPrefix_eq_iff {s : String} {l : Layout} :
    ofPrefix s = l ↔ (∃ n, s.toList = l.stem.toList ++ List.replicate n '/') ∧
      l.stem.toList.getLast? ≠ some '/' := by
  obtain ⟨stem⟩ := l
  rw [ofPrefix, Layout.mk.injEq, ← String.toList_inj, String.toList_ofList]
  exact trimEnd_eq_iff

/-! ## Naming by keys -/

/-- Under any prefix, whether or not slashes stand at its end: what a key names is an entity that it
    spells, with proper identifiers, and every such key names its entity.  So every entity is found
    again by its key, and no key belongs to two entities. -/
theorem classify_undoes_spelling (s : String) :
    ((∃ n, s.toList = (ofPrefix s).stem.toList ++ List.replicate n '/') ∧
      (ofPrefix s).stem.toList.getLast? ≠ some '/') ∧
    (∀ key r, (ofPrefix s).classify key = some r ↔ (ofPrefix s).Spells r key ∧ Proper r) ∧
    (∀ r, Proper r → (ofPrefix s).classify ((ofPrefix s).key r) = some r) ∧
    ∀ r r' key, Proper r → Proper r' → (ofPrefix s).Spells r key → (ofPrefix s).Spells r' key →
      r = r' := by
  refine ⟨ofPrefix_eq_iff.mp rfl, fun key r => classify_iff_spells, fun r hr => ?_, ?_⟩
  · exact classify_iff_spells.mpr ⟨Or.inl rfl, hr⟩
  · intro r r' key hr hr' hkey hkey'
    -- a key that spells both names both, and it names one
    have hname := classify_iff_spells.mpr ⟨hkey, hr⟩
    rw [classify_iff_spells.mpr ⟨hkey', hr'⟩] at hname
    exact (Option.some.inj hname).symm

/-- Identifiers may be words of the layout. -/
theorem classify_undoes_spelling_words :
    let l := ofPrefix "/hw//"
    Proper (.server "servers" "backend") ∧ Proper (.backend "backend") ∧
      l.classify "/hw/backends/servers/servers/backend" = some (.server "servers" "backend") ∧
      l.classify "/hw/backends/backend" = some (.backend "backend") ∧
      l.key (.backend "servers") ≠ l.key (.server "servers" "backend") := by
  obtain ⟨-, hnames, hfound, hsole⟩ := classify_undoes_spelling "/hw//"
  refine ⟨by decide, by decide, ?_, ?_, fun h => ?_⟩
  · exact hfound (.server "servers" "backend") (by decide)
  · exact (hnames _ _).mpr ⟨Or.inr ⟨["backends", "backend"], rfl, by decide⟩, by decide⟩
  · exact absurd (hsole _ _ _ (by decide) (by decide) (Or.inl h) (Or.inl rfl)) (by decide)

end Turnpike.Feed.Layout
