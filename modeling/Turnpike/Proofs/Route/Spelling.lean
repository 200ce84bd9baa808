/-
  Matching one path pattern, on its own.

  A pattern is a row of literal bytes and parameters.  `Spells ends path params bytes` says that the
  pattern `path` spells the request path `bytes` when its parameters are replaced, in order, by the
  values in `params`.  No value holds a slash, every parameter is entered while some of the path is
  left, and `ends` says what may stand behind a value.  Routes are matched with `AtBorder`: a value
  goes on to the next slash or to the end.

  1. **Step by step** (`capture?`).  The same is done segment by segment, as the trie does it: a
     literal byte must be there, and a parameter takes all up to the next slash.

  2. **Bytes and characters.**  A request path is a text, but it is matched byte by byte, and what a
     parameter takes is made a text again.  That could go wrong in the middle of a character.  It
     does not for patterns of whole characters (`Textual`): what is left of the path after some
     characters is the path of a text again, and up to a slash it has whole characters
     (`takeWhile_encode`), because the byte of a slash occurs in no other character.

  3. **Outcome** (`capture?_eq_some_iff`).  On such patterns the two agree: each value is read back
     as it was written.
-/
import Turnpike.Proofs.Text.Utf8
import Turnpike.Route.Trie

namespace Turnpike.Route

open Turnpike.Text

/-! ## Spelling -/

/-- Behind the value of a parameter the path ends, or goes on with a slash. -/
def AtBorder (rest : List UInt8) : Prop := rest = [] ∨ rest.head? = some slash

/-- The pattern spells the path, its parameters having these values. -/
inductive Spells (ends : List UInt8 → Prop) :
    List Segment → List (String × String) → List UInt8 → Prop where
  | done : Spells ends [] [] []
  | byte (b : UInt8) {path : List Segment} {params : List (String × String)} {rest : List UInt8} :
      Spells ends path params rest → Spells ends (.byte b :: path) params (b :: rest)
  | param (name value : String) {path : List Segment} {params : List (String × String)}
      {rest : List UInt8} :
      slash ∉ Utf8.bytes value → Utf8.bytes value ++ rest ≠ [] → ends rest →
      Spells ends path params rest →
      Spells ends (.param name :: path) ((name, value) :: params) (Utf8.bytes value ++ rest)

/-- The values that a pattern captures of a path; `none` when it does not match the whole path. -/
def capture? : List Segment → List UInt8 → Option (List (String × String))
  | [], [] => some []
  | [], _ :: _ => none
  | s :: path, bytes =>
    match Forest.take? s bytes with
    | none => none
    | some (captured, rest) => (capture? path rest).map (captured ++ ·)

/-- At the end of a pattern the path must be at its end. -/
theorem capture?_nil_eq_some {bytes : List UInt8} {params : List (String × String)}
    (h : capture? [] bytes = some params) : params = [] ∧ bytes = [] := by
  cases bytes with
  | nil => exact ⟨(Option.some.inj h).symm, rfl⟩
  | cons b r => cases h

/-! ## Literal bytes -/

/-- A literal byte stands at the head of every path that it matches. -/
theorem capture?_byte_eq_some {b : UInt8} {path : List Segment} {bytes : List UInt8}
    {params : List (String × String)} (h : capture? (.byte b :: path) bytes = some params) :
    ∃ rest, bytes = b :: rest ∧ capture? path rest = some params := by
  cases bytes with
  | nil => cases h
  | cons c r =>
    by_cases hc : b = c
    · subst hc
      refine ⟨r, rfl, ?_⟩
      simpa [capture?, Forest.take?] using h
    · simp [capture?, Forest.take?, hc] at h

/-- A run of literal bytes stands at the head of every path that it matches. -/
theorem capture?_bytes_eq_some {bs : List UInt8} {path : List Segment} {bytes : List UInt8}
    {params : List (String × String)} (h : capture? (bs.map .byte ++ path) bytes = some params) :
    ∃ rest, bytes = bs ++ rest ∧ capture? path rest = some params := by
  induction bs generalizing bytes with
  | nil => exact ⟨bytes, rfl, h⟩
  | cons b bs ih =>
    obtain ⟨r, rfl, hr⟩ := capture?_byte_eq_some h
    obtain ⟨rest, rfl, hrest⟩ := ih hr
    exact ⟨rest, rfl, hrest⟩

/-- A run of literal bytes spells itself. -/
theorem Spells.bytes {ends : List UInt8 → Prop} {path : List Segment}
    {params : List (String × String)} {rest : List UInt8} (h : Spells ends path params rest)
    (bs : List UInt8) : Spells ends (bs.map .byte ++ path) params (bs ++ rest) := by
  induction bs with
  | nil => exact h
  | cons b bs ih => exact .byte b ih

/-! ## Slashes among the bytes of a text -/

/-- Only the slash has the byte of a slash. -/
theorem slash_mem_char_iff (c : Char) : slash ∈ String.utf8EncodeChar c ↔ c = '/' :=
  (Utf8.ascii_mem_char_iff (by decide) c).trans ⟨fun h => Char.toNat_inj.mp h, fun h => h ▸ rfl⟩

/-- No other character has it. -/
theorem char_bytes_ne_slash {c : Char} (h : c ≠ '/') :
    ∀ b ∈ String.utf8EncodeChar c, (b != slash) = true := by
  intro b hb
  rw [bne_iff_ne]
  rintro rfl
  exact h ((slash_mem_char_iff c).mp hb)

/-- Up to its first slash a text has whole characters. -/
theorem takeWhile_encode (s : List Char) :
    (Utf8.encode s).takeWhile (· != slash) = Utf8.encode (s.takeWhile (· != '/')) := by
  induction s with
  | nil => rfl
  | cons c s ih =>
    rw [Utf8.encode_cons]
    by_cases hc : c = '/'
    · subst hc
      have hslash : String.utf8EncodeChar '/' = [slash] := by decide
      rw [hslash, List.singleton_append, List.takeWhile_cons_of_neg (by simp),
        List.takeWhile_cons_of_neg (by simp)]
      rfl
    · rw [List.takeWhile_append_of_pos (char_bytes_ne_slash hc), ih,
        List.takeWhile_cons_of_pos (by simpa using hc), Utf8.encode_cons]

/-- From its first slash on as well. -/
theorem dropWhile_encode (s : List Char) :
    (Utf8.encode s).dropWhile (· != slash) = Utf8.encode (s.dropWhile (· != '/')) := by
  induction s with
  | nil => rfl
  | cons c s ih =>
    rw [Utf8.encode_cons]
    by_cases hc : c = '/'
    · subst hc
      have hslash : String.utf8EncodeChar '/' = [slash] := by decide
      rw [hslash, List.singleton_append, List.dropWhile_cons_of_neg (by simp),
        List.dropWhile_cons_of_neg (by simp), Utf8.encode_cons, hslash, List.singleton_append]
    · rw [List.dropWhile_append_of_pos (char_bytes_ne_slash hc), ih,
        List.dropWhile_cons_of_pos (by simpa using hc)]

/-! ## Paths of whole characters -/

/-- The literal bytes of the pattern make whole characters. -/
inductive Textual : List Segment → Prop where
  | nil : Textual []
  | char (c : Char) {path : List Segment} :
      Textual path → Textual ((String.utf8EncodeChar c).map .byte ++ path)
  | param (name : String) {path : List Segment} : Textual path → Textual (.param name :: path)

/-- A value without a slash, with a border behind it, is taken whole. -/
theorem takeWhile_append_border {v rest : List UInt8} (hv : slash ∉ v) (hr : AtBorder rest) :
    (v ++ rest).takeWhile (· != slash) = v ∧ (v ++ rest).dropWhile (· != slash) = rest := by
  have hpos : ∀ b ∈ v, (b != slash) = true := fun b hb => bne_iff_ne.mpr fun e => hv (e ▸ hb)
  rw [List.takeWhile_append_of_pos hpos, List.dropWhile_append_of_pos hpos]
  rcases hr with rfl | hr
  · simp
  · obtain ⟨r, rfl⟩ := List.head?_eq_some_iff.mp hr
    simp

/-- What is spelled is captured. -/
theorem Spells.capture? {path : List Segment} {params : List (String × String)}
    {bytes : List UInt8} (h : Spells AtBorder path params bytes) :
    capture? path bytes = some params := by
  induction h with
  | done => rfl
  | byte b _ ih => simpa [Route.capture?, Forest.take?] using ih
  | @param name value path params rest hv hne hr _ ih =>
    obtain ⟨ht, hd⟩ := takeWhile_append_border hv hr
    have htext : Utf8.text (Utf8.bytes value) = value := by
      rw [Utf8.bytes, Utf8.text_encode, String.ofList_toList]
    have htake : Forest.take? (.param name) (Utf8.bytes value ++ rest) =
        some ([(name, value)], rest) := by
      rw [Forest.take?, ht, hd, htext]
      exact hne
    rw [Route.capture?, htake]
    simp [ih]

/-- Of the path of a text, a pattern of whole characters captures what it is to capture. -/
theorem Textual.spells {path : List Segment} (hp : Textual path) {s : List Char}
    {params : List (String × String)} (h : capture? path (Utf8.encode s) = some params) :
    Spells AtBorder path params (Utf8.encode s) := by
  -- along the characters of the pattern, so that what is left of the path is text
  induction hp generalizing s params with
  | nil =>
    obtain ⟨rfl, hs⟩ := capture?_nil_eq_some h
    rw [hs]
    exact .done
  | @char c path _ ih =>
    obtain ⟨rest, he, hrest⟩ := capture?_bytes_eq_some h
    -- the text begins with this character, so the rest is the path of a text again
    have hs : s = c :: Utf8.decode rest := by
      rw [← Utf8.decode_encode s, he, Utf8.decode_char_append]
    have hr : rest = Utf8.encode (Utf8.decode rest) := by
      rw [hs, Utf8.encode_cons] at he
      exact (List.append_cancel_left he).symm
    rw [hr] at hrest
    rw [he, hr]
    exact (ih hrest).bytes _
  | @param name path _ ih =>
    cases hs : Utf8.encode s with
    | nil => rw [hs] at h; cases h
    | cons b r =>
      have htake : Forest.take? (.param name) (Utf8.encode s) =
          some ([(name, Utf8.text (Utf8.encode (s.takeWhile (· != '/'))))],
            Utf8.encode (s.dropWhile (· != '/'))) := by
        rw [← takeWhile_encode, ← dropWhile_encode, hs, Forest.take?]
        exact List.cons_ne_nil b r
      rw [Route.capture?, htake] at h
      obtain ⟨params', hparams, rfl⟩ := Option.map_eq_some_iff.mp h
      rw [← hs]
      have hsplit : Utf8.encode s = Utf8.bytes (Utf8.text (Utf8.encode (s.takeWhile (· != '/')))) ++
          Utf8.encode (s.dropWhile (· != '/')) := by
        rw [Utf8.bytes_text_encode, ← Utf8.encode_append, List.takeWhile_append_dropWhile]
      have hne : Utf8.encode s ≠ [] := by rw [hs]; exact List.cons_ne_nil b r
      rw [hsplit] at hne ⊢
      -- the value has no slash, and behind it there is one, or nothing
      refine .param name _ ?_ hne ?_ (ih hparams)
      · rw [Utf8.bytes_text_encode, ← takeWhile_encode]
        intro hmem
        simpa using List.all_eq_true.mp List.all_takeWhile _ hmem
      · rw [← dropWhile_encode]
        cases hd : (Utf8.encode s).dropWhile (· != slash) with
        | nil => exact Or.inl rfl
        | cons d r' =>
          have := List.head?_dropWhile_not (· != slash) (Utf8.encode s)
          rw [hd] at this
          exact Or.inr (by simpa using this)

theorem Textual.capture?_eq_some_iff {path : List Segment} (hp : Textual path) {s : List Char}
    {params : List (String × String)} :
    capture? path (Utf8.encode s) = some params ↔ Spells AtBorder path params (Utf8.encode s) :=
  ⟨hp.spells, fun h => h.capture?⟩

end Turnpike.Route
