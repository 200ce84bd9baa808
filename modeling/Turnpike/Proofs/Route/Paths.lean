/-
  Which texts are paths, and what they mean.

  The reader of paths goes through a text and stops with an error when a bracket is out of place or
  a name is missing.  `Denotes` says without it that a text is a path with these segments.

  1. **Parameters** (`Names`).  A parameter is a name in angle brackets, and before the name there
     may be its kind, with a colon.  There is only one kind.  A name must not be empty, and no slash
     and no other bracket may stand between the brackets.

  2. **Paths** (`Denotes`).  All other characters stand for their bytes.  There is one rule for each
     of the two, and one for the end.

  3. **The reader** knows exactly these texts and gives them these segments (`segments_eq_ok_iff`).
     One direction follows the reading, the other one the rules.
-/
import Turnpike.Proofs.Route.Expression
import Turnpike.Proofs.Text.Split

namespace Turnpike.Route

open Turnpike.Text

/-! ## Parameters -/

/-- The text in the brackets of a parameter, and its name: the text itself, or what follows the
    kind. -/
inductive Names : List Char → List Char → Prop where
  | plain {name : List Char} : ':' ∉ name → Names name name
  | string {name : List Char} : Names ("string:".toList ++ name) name

/-- A name is read when the text in the brackets names it and it is not empty. -/
theorem parameterName_eq_ok_iff {o : Nat} {inner : List Char} {name : String} :
    parameterName o inner = .ok name ↔ Names inner name.toList ∧ name.toList ≠ [] := by
  constructor
  · intro h
    -- without a colon all of it is the name, and with one what follows the kind
    unfold parameterName at h
    split at h
    case h_1 hs =>
      cases inner with
      | nil => cases h
      | cons c inner =>
        cases h
        rw [String.toList_ofList]
        exact ⟨.plain (splitFirst?_eq_none_iff.mp hs), List.cons_ne_nil c inner⟩
    case h_2 kind rest hs =>
      obtain ⟨rfl, -⟩ := splitFirst?_eq_some_iff.mp hs
      split at h
      case isFalse => cases h
      case isTrue hkind =>
        cases rest with
        | nil => cases h
        | cons c rest =>
          cases h
          rw [String.toList_ofList, hkind]
          exact ⟨.string, List.cons_ne_nil c rest⟩
  · rintro ⟨hnames, hne⟩
    unfold parameterName
    generalize htext : name.toList = text at hnames hne
    obtain rfl : name = String.ofList text := by rw [← htext, String.ofList_toList]
    cases hnames with
    | plain hcolon =>
      rw [splitFirst?_eq_none_iff.mpr hcolon]
      cases inner with
      | nil => exact absurd rfl hne
      | cons c inner => rfl
    | string =>
      have hs : splitFirst? ':' ("string:".toList ++ text) = some ("string".toList, text) :=
        splitFirst?_eq_some_iff.mpr ⟨rfl, by decide⟩
      rw [hs]
      cases text with
      | nil => exact absurd rfl hne
      | cons c text => rfl

/-! ## Paths -/

/-- The text is a path with these segments. -/
inductive Denotes : List Char → List Segment → Prop where
  | nil : Denotes [] []
  | char {c : Char} {s : List Char} {path : List Segment} :
      c ≠ '<' → c ≠ '>' → Denotes s path →
      Denotes (c :: s) ((String.utf8EncodeChar c).map .byte ++ path)
  | param {inner s : List Char} {name : String} {path : List Segment} :
      '>' ∉ inner → '/' ∉ inner → '<' ∉ inner → Names inner name.toList → name.toList ≠ [] →
      Denotes s path → Denotes ('<' :: (inner ++ '>' :: s)) (.param name :: path)

theorem endsParameter_eq_false_iff {c : Char} :
    endsParameter c = false ↔ c ≠ '>' ∧ c ≠ '/' ∧ c ≠ '<' := by
  simp only [endsParameter, Bool.or_eq_false_iff, beq_eq_false_iff_ne, and_assoc]

/-- What is read is a path. -/
theorem denotes_of_segments {o : Nat} {s : List Char} {path : List Segment}
    (h : segments o s = .ok path) : Denotes s path := by
  fun_induction segments o s generalizing path
  case case1 => cases h; exact .nil
  case case2 => cases h
  case case3 o r inner r' hr name hname ih =>
    obtain ⟨path, hs, rfl⟩ := Result.map_eq_ok.mp h
    obtain ⟨hnames, hne⟩ := parameterName_eq_ok_iff.mp hname
    have hinner : ∀ c ∈ inner, c ≠ '>' ∧ c ≠ '/' ∧ c ≠ '<' := by
      intro c hc
      have := List.all_eq_true.mp List.all_takeWhile c hc
      exact endsParameter_eq_false_iff.mp ((Bool.not_eq_true' _).mp this)
    have hd := Denotes.param (fun hc => (hinner _ hc).1 rfl) (fun hc => (hinner _ hc).2.1 rfl)
      (fun hc => (hinner _ hc).2.2 rfl) hnames hne (ih hs)
    rwa [← hr, List.takeWhile_append_dropWhile] at hd
  case case4 => cases h
  case case5 => cases h
  case case6 o c r hlt hgt ih =>
    obtain ⟨path, hs, rfl⟩ := Result.map_eq_ok.mp h
    exact .char hlt hgt (ih hs)

/-- A path is read, and to its segments. -/
theorem Denotes.segments {s : List Char} {path : List Segment} (h : Denotes s path) (o : Nat) :
    Route.segments o s = .ok path := by
  induction h generalizing o with
  | nil => rw [Route.segments]
  | char hlt hgt _ ih => rw [segments_char hlt hgt, ih]; rfl
  | @param inner s name path hgt hslash hlt hnames hne _ ih =>
    have hinner : ∀ c ∈ inner, (!endsParameter c) = true := by
      intro c hc
      rw [endsParameter_eq_false_iff.mpr ⟨fun h => hgt (h ▸ hc), fun h => hslash (h ▸ hc),
        fun h => hlt (h ▸ hc)⟩]
      rfl
    -- the brackets enclose nothing that would end the parameter before
    have hdrop : (inner ++ '>' :: s).dropWhile (!endsParameter ·) = '>' :: s := by
      rw [List.dropWhile_append_of_pos hinner]
      rfl
    have htake : (inner ++ '>' :: s).takeWhile (!endsParameter ·) = inner := by
      rw [List.takeWhile_append_of_pos hinner]
      exact List.append_nil inner
    have hname : parameterName o inner = .ok name := parameterName_eq_ok_iff.mpr ⟨hnames, hne⟩
    rw [segments_param hdrop (by rw [htake, hname]), ih]
    rfl

/-- The reader of paths reads exactly the texts that are paths. -/
theorem segments_eq_ok_iff {o : Nat} {s : List Char} {path : List Segment} :
    segments o s = .ok path ↔ Denotes s path :=
  ⟨denotes_of_segments, fun h => h.segments o⟩

end Turnpike.Route
