/-
  Headers by their names.

  A set of headers is a list of names with values, in which a name may come up again.  Programs ask
  for the first value of a name, for all of them, or put one in place of all; nothing they do
  depends on how the values of one name stand among those of another.

  1. **Names** (`IsHeaderName`).  A header name is a token in lower case, and it is stated in
     letters of any case.  Whether a text states a given name can be decided by its small letters
     alone (`IsHeaderName.headerName?_eq_some_iff`), since a letter is a token character in either
     case.

  2. **Values** (`values`, `Headers.Same`).  What a set of headers says is which values each name
     has, in which order.  Two sets that agree in that are the same, whatever the order among names;
     the questions that a program asks are answered by the values of one name (`get?_eq`,
     `text?_eq`).

  3. **Changes.**  So a change is known by the values that it leaves to each name.  A value that is
     set stands in the place of all that the name had (`values_set`), one that is appended comes
     last (`values_append`), a name that is erased has none (`values_erase`), and all other names
     keep theirs.  A filter by names is the general case of which erasing is one (`values_filter`).
     What the proxy does to the headers of a request or response is a row of such changes, and its
     effect is a row of rewrites with these.
-/
import Turnpike.Http.Header

namespace Turnpike.Http

open Turnpike.Text

/-! ## Names -/

/-- The text is a header name: a token without capitals. -/
structure IsHeaderName (name : String) : Prop where
  ne_nil : name.toList ≠ []
  token : name.toList.all isTokenChar = true
  lower : lowerAscii name = name

instance : DecidablePred IsHeaderName := fun name =>
  decidable_of_iff (name.toList.isEmpty = false ∧ name.toList.all isTokenChar = true ∧
      lowerAscii name = name)
    ⟨fun ⟨hne, htoken, hlower⟩ => ⟨List.isEmpty_eq_false_iff.mp hne, htoken, hlower⟩,
      fun h => ⟨List.isEmpty_eq_false_iff.mpr h.ne_nil, h.token, h.lower⟩⟩

/-- Letters are token characters in either case. -/
theorem isTokenChar_toLower (c : Char) : isTokenChar c.toLower = isTokenChar c := by
  have hsmall : ∀ n < 91, isTokenChar (Char.ofNat n).toLower = isTokenChar (Char.ofNat n) := by
    decide
  -- capitals are below 91; what is above is its own small letter
  by_cases h : c.toNat < 91
  · rw [← Char.ofNat_toNat c]
    exact hsmall c.toNat h
  · have hc : c.toLower = c := by
      refine dif_neg fun hz => h ?_
      have hle : c.toNat ≤ 90 := UInt32.le_iff_toNat_le.mp hz.2
      exact Nat.lt_succ_of_le hle
    rw [hc]

/-- A text that is a header name in small letters is a token. -/
theorem IsHeaderName.token_of_lower {s name : String} (h : IsHeaderName name)
    (hs : lowerAscii s = name) : s.toList ≠ [] ∧ s.toList.all isTokenChar = true := by
  have hne := h.ne_nil
  have htoken := h.token
  -- what is said of the name is said of the small letters of the text
  rw [← hs, toList_lowerAscii] at hne htoken
  rw [List.all_map] at htoken
  simp only [Function.comp_def, isTokenChar_toLower] at htoken
  exact ⟨mt List.map_eq_nil_iff.mpr hne, htoken⟩

/-- A header name is stated in letters of any case. -/
theorem IsHeaderName.headerName?_eq_some_iff {s name : String} (h : IsHeaderName name) :
    headerName? s = some name ↔ lowerAscii s = name := by
  unfold headerName?
  constructor
  · intro hs
    split at hs
    case isTrue => exact Option.some.inj hs
    case isFalse => cases hs
  · intro hs
    rw [if_pos (h.token_of_lower hs), hs]

/-! ## Values -/

namespace Headers

/-- Each name has the same values in both. -/
def Same (h k : Headers) : Prop := ∀ name, h.values name = k.values name

theorem get?_eq (h : Headers) (name : String) : h.get? name = (h.values name).head? := by
  unfold get? values
  rw [List.head?_map, List.head?_filter]

theorem text?_eq (h : Headers) (name : String) :
    h.text? name = (h.values name).head?.filter isReadable := by
  rw [text?, get?_eq]

/-- Of the headers whose names pass a test, each name has all its values or none. -/
theorem values_filter (h : Headers) (p : String → Bool) (name : String) :
    (Headers.mk (h.fields.filter fun f => p f.1)).values name =
      if p name then h.values name else [] := by
  unfold values
  rw [List.filter_filter]
  split
  case isTrue hp =>
    -- of one name all headers pass, or none
    have hsame : h.fields.filter (fun f => f.1 == name && p f.1) =
        h.fields.filter (fun f => f.1 == name) := by
      refine List.filter_congr fun f _ => ?_
      by_cases hname : f.1 = name
      · rw [hname, hp, Bool.and_true]
      · rw [beq_false_of_ne hname, Bool.false_and]
    rw [hsame]
  case isFalse hp =>
    rw [List.map_eq_nil_iff, List.filter_eq_nil_iff]
    intro f _ hf
    rw [Bool.and_eq_true, beq_iff_eq] at hf
    exact hp (hf.1 ▸ hf.2)

/-- A header in front gives its name one more value, before the others. -/
theorem values_cons (name value : String) (fields : List (String × String)) (other : String) :
    (Headers.mk ((name, value) :: fields)).values other =
      (if other = name then [value] else []) ++ (Headers.mk fields).values other := by
  show (((name, value) :: fields).filter fun f => f.1 == other).map (fun f => f.2) = _
  split
  case isTrue heq => rw [List.filter_cons_of_pos (by exact beq_iff_eq.mpr heq.symm)]; rfl
  case isFalse hne => rw [List.filter_cons_of_neg (by simpa using Ne.symm hne)]; rfl

/-- A header at the end gives its name one more value, behind the others. -/
theorem values_append (h : Headers) (name value other : String) :
    (h.append name value).values other = h.values other ++ if other = name then [value] else [] := by
  -- by itself the new header gives its name one value
  have hlast := values_cons name value [] other
  rw [show (Headers.mk []).values other = [] from rfl, List.append_nil] at hlast
  rw [← hlast]
  unfold values append
  rw [List.filter_append, List.map_append]

/-- A name that is erased has no values, and the others keep theirs. -/
theorem values_erase (h : Headers) (name other : String) :
    (h.erase name).values other = if other = name then [] else h.values other := by
  rw [erase, values_filter h (· != name) other]
  simp only [bne_iff_ne, ne_eq, ite_not]

/-- A name that is set has one value, and the others keep theirs. -/
theorem values_set (h : Headers) (name value other : String) :
    (h.set name value).values other = if other = name then [value] else h.values other := by
  rw [set, values_append, values_erase]
  split
  case isTrue => rfl
  case isFalse => exact List.append_nil _

theorem get?_set (h : Headers) (name value : String) :
    (h.set name value).get? name = some value := by
  rw [get?_eq, values_set, if_pos rfl]
  rfl

end Headers

end Turnpike.Http
