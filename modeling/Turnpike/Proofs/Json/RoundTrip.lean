/-
  JSON texts read back.

  The store holds texts, and what is put there has been written from a value.  What is read again
  must be that value: strings through their escapes, whole numbers of 64 bits by their digits,
  arrays and objects item by item (`parse?_text`).

  1. **Strings** (`readString_escapeChar`).  Every character is read back from its escape, whatever
     follows it, so a string is, up to its closing quote.

  2. **Numbers** (`readLiteral_toDigits`).  A number is read as far as it goes, so it matters what
     follows it; inside a text that is a comma or a closing bracket (`Ended`).  Digits have the
     value that they were written from, as long as this fits into 64 bits; and a number with a zero
     in front is refused, which only zero itself has (`head?_toDigits`).

  3. **Values** (`Whole.readsBack`).  The induction is on the value, and its hypothesis says that
     the text is read whatever follows it.  The writer joins texts with commas and the reader takes
     one item after the other, so arrays and objects go by rows (`readItems_row`, `readFields_row`).
     The fuel of the reader is the length of the text: no value needs more than its own text is
     long, and that is part of the hypothesis, too.

  4. **Settling** (`Settled.settle?_tree`).  The reader yields a tree of what stands in the text,
     where an object may have a field twice.  A value whose objects have their fields in order
     settles to itself, if it is not nested too deep.
-/
import Mathlib.Algebra.Group.Nat.Defs
import Mathlib.Data.List.DropRight
import Mathlib.Tactic.SplitIfs
import Turnpike.Json.Reader
import Turnpike.Json.Writer
import Turnpike.Proofs.Dictionary
import Turnpike.Proofs.Lists
import Turnpike.Proofs.Text.Letters
import Turnpike.Proofs.Text.Quoted

namespace Turnpike.Json

open Turnpike.Text

/-! ## Strings -/

theorem isHex_hexDigit : ∀ n < 16, isHex (Quoted.hexDigit n) = true := by decide

/-- Every character is read back, whatever follows. -/
theorem readString_escapeChar (c : Char) (t : List Char) :
    readString (escapeChar c ++ t) = (readString t).map fun (us, r) => (.char c :: us, r) := by
  unfold escapeChar
  -- one case for each escape, then the control characters and the others
  split_ifs with hquote hback hbell hpage hfeed hreturn htab hcontrol
  · rw [hquote]; rfl
  · rw [hback]; rfl
  · rw [hbell]; rfl
  · rw [hpage]; rfl
  · rw [hfeed]; rfl
  · rw [hreturn]; rfl
  · rw [htab]; rfl
  · have hhigh : c.toNat / 16 < 16 := by omega
    have hlow : c.toNat % 16 < 16 := by omega
    -- four digits give the character back: two zeros and its two halves
    have hvalue : ((hexValue '0' * 16 + hexValue '0') * 16 +
        hexValue (Quoted.hexDigit (c.toNat / 16))) * 16 +
        hexValue (Quoted.hexDigit (c.toNat % 16)) = c.toNat := by
      rw [Quoted.hexValue_hexDigit _ hhigh, Quoted.hexValue_hexDigit _ hlow]
      show ((0 * 16 + 0) * 16 + c.toNat / 16) * 16 + c.toNat % 16 = c.toNat
      omega
    have hunit : unitOf c.toNat = .char c := by
      rw [unitOf, if_neg (by simp; omega), Char.ofNat_toNat]
    show readString ('\\' :: 'u' :: '0' :: '0' :: _ :: _ :: t) = _
    rw [readString, if_pos (by rw [isHex_hexDigit _ hhigh, isHex_hexDigit _ hlow]; rfl), hvalue]
    dsimp only
    rw [hunit]
  · show readString (c :: t) = _
    rw [readString, if_neg hquote, if_neg hcontrol]
    · exact fun _ _ _ _ _ h => absurd h hback
    · exact fun _ _ h => absurd h hback

/-- A string is read up to its closing quote. -/
theorem readString_flatMap (s r : List Char) :
    readString (s.flatMap escapeChar ++ '\x22' :: r) = some (s.map .char, r) := by
  induction s with
  | nil => rfl
  | cons c s ih =>
    rw [List.flatMap_cons, List.append_assoc, readString_escapeChar, ih]
    rfl

/-- Characters spell the string that they are from. -/
theorem spelled_chars (s : String) : spelled (s.toList.map .char) = some s := by
  have hjoin (cs : List Char) : joinPairs (cs.map .char) = some cs := by
    induction cs with
    | nil => rfl
    | cons c cs ih => rw [List.map_cons, joinPairs, ih, Option.map_some]
  rw [spelled, hjoin, Option.map_some, String.ofList_toList]

/-! ## Numbers -/

/-- What follows a number that has come to its end. -/
def Ended (r : List Char) : Prop := ∀ c, r.head? = some c → c = ',' ∨ c = ']' ∨ c = '\x7d'

/-- A comma ends a number, and so does a closing bracket. -/
theorem ended_cons {c : Char} (h : c = ',' ∨ c = ']' ∨ c = '\x7d') (r : List Char) :
    Ended (c :: r) := by
  rintro d hd
  cases hd
  exact h

/-- Only zero has a zero in front. -/
theorem head?_toDigits {n : Nat} (h : (Nat.toDigits 10 n).head? = some '0') :
    Nat.toDigits 10 n = ['0'] := by
  induction n using Nat.strongRecOn with
  | ind n ih =>
    rw [Nat.toDigits_eq_if (by decide)] at h ⊢
    split
    case isTrue hn =>
      rw [if_pos hn, List.head?_cons] at h
      exact congrArg (· :: []) (Option.some.inj h)
    case isFalse hn =>
      -- the digits in front would be zero alone
      rw [if_neg hn, List.head?_append, Option.or_of_isSome (by simp)] at h
      have hzero := ih (n / 10) (by omega) h
      have hvalue := congrArg (Nat.ofDigitChars 10 · 0) hzero
      rw [Nat.ofDigitChars_toDigits (by decide) (by decide)] at hvalue
      have hsmall : n / 10 = 0 := hvalue
      omega

/-- The digits of a number are read as far as they go. -/
theorem readLiteral_toDigits {r : List Char} (hr : Ended r) (negative : Bool) (n : Nat) :
    readLiteral negative (Nat.toDigits 10 n ++ r) =
      some (⟨negative, Nat.toDigits 10 n, [], none⟩, r) := by
  have hdigits : ∀ c ∈ Nat.toDigits 10 n, c.isDigit = true := fun c hc =>
    Nat.isDigit_of_mem_toDigits (by decide) (by decide) hc
  have hstop : ∀ c, r.head? = some c → c.isDigit = false := by
    intro c hc
    rcases hr c hc with rfl | rfl | rfl <;> decide
  obtain ⟨htake, hdrop⟩ := Lists.span_append hdigits hstop
  -- there are digits, and none is a zero in front of others
  have hwell : ¬(Nat.toDigits 10 n = [] ||
      ((Nat.toDigits 10 n).head? = some '0' && 1 < (Nat.toDigits 10 n).length)) = true := by
    rw [Bool.or_eq_true, Bool.and_eq_true, decide_eq_true_eq, decide_eq_true_eq, decide_eq_true_eq]
    rintro (hnil | ⟨hzero, hlong⟩)
    · exact Nat.toDigits_ne_nil hnil
    · rw [head?_toDigits hzero] at hlong
      exact absurd hlong (by decide)
  unfold readLiteral
  dsimp only
  rw [htake, hdrop, if_neg hwell]
  cases r with
  | nil => rfl
  | cons c r => rcases hr c rfl with rfl | rfl | rfl <;> rfl

/-- The value of digits is that of the library, from whatever has been read before. -/
theorem decimalFrom_eq (acc : Nat) (ds : List Char) :
    decimalFrom acc ds = Nat.ofDigitChars 10 ds acc := by
  rw [decimalFrom, Nat.ofDigitChars_eq_foldl]
  congr 1
  funext n c
  rw [Nat.mul_comm]
  rfl

/-- Digits of a number below the limit are all taken. -/
theorem absorb_eq {n : Nat} {ds : List Char} (h : decimalFrom n ds < wordLimit) :
    absorb n ds = (decimalFrom n ds, 0) := by
  -- what has been read never gets smaller, so it is below the limit all along
  have hle (ds : List Char) (m : Nat) : m ≤ decimalFrom m ds := by
    induction ds generalizing m with
    | nil => exact Nat.le_refl m
    | cons c ds ih =>
      have hrest : m * 10 + digitValue c ≤ decimalFrom m (c :: ds) := ih _
      omega
  induction ds generalizing n with
  | nil => rfl
  | cons c ds ih =>
    have hfits : n * 10 + digitValue c < wordLimit := Nat.lt_of_le_of_lt (hle ds _) h
    rw [absorb, if_pos hfits]
    exact ih h

theorem absorb_toDigits {n : Nat} (h : n < wordLimit) : absorb 0 (Nat.toDigits 10 n) = (n, 0) := by
  have hvalue : decimalFrom 0 (Nat.toDigits 10 n) = n := by
    rw [decimalFrom_eq, Nat.ofDigitChars_toDigits (by decide) (by decide)]
  rw [absorb_eq (by rwa [hvalue]), hvalue]

/-- A whole number of 64 bits, with a sign or without. -/
inductive Number.Whole : Number → Prop where
  | nat {n : Nat} (h : n < 2 ^ 64) : Whole (.nat n)
  | neg {n : Nat} (hpos : 0 < n) (h : n ≤ 2 ^ 63) : Whole (.neg n)

/-- They are a whole number without a sign. -/
theorem number?_nat {n : Nat} (h : n < 2 ^ 64) :
    Literal.number? ⟨false, Nat.toDigits 10 n, [], none⟩ = some (.nat n) := by
  unfold Literal.number?
  rw [absorb_toDigits h]
  rfl

/-- Behind a sign they are one, too, when the number is neither zero nor too large. -/
theorem number?_neg {n : Nat} (hpos : 0 < n) (h : n ≤ 2 ^ 63) :
    Literal.number? ⟨true, Nat.toDigits 10 n, [], none⟩ = some (.neg n) := by
  have hrange : (decide (0 < n) && decide (n ≤ 0x8000000000000000)) = true := by
    rw [Bool.and_eq_true, decide_eq_true_eq, decide_eq_true_eq]
    exact ⟨hpos, h⟩
  unfold Literal.number?
  rw [absorb_toDigits (show n < 2 ^ 64 by omega)]
  show (if (decide (0 < n) && decide (n ≤ 0x8000000000000000)) = true then _ else _) = _
  rw [if_pos hrange]

/-! ## Values -/

/-- All numbers in the value are whole. -/
inductive Whole : Json → Prop where
  | null : Whole .null
  | bool (b : Bool) : Whole (.bool b)
  | num {n : Number} (h : n.Whole) : Whole (.num n)
  | str (s : String) : Whole (.str s)
  | arr {items : List Json} (h : ∀ v ∈ items, Whole v) : Whole (.arr items)
  | obj {fields : List (String × Json)} (h : ∀ f ∈ fields, Whole f.2) : Whole (.obj fields)

/-- The writer goes through the items. -/
theorem itemTexts_eq (items : List Json) : itemTexts items = items.map text := by
  induction items with
  | nil => rfl
  | cons v r ih => rw [itemTexts, ih, List.map_cons]

/-- It goes through the fields. -/
theorem fieldTexts_eq (fields : List (String × Json)) :
    fieldTexts fields = fields.map fun f => stringText f.1 ++ ":" ++ text f.2 := by
  induction fields with
  | nil => rfl
  | cons f r ih => rw [fieldTexts, ih, List.map_cons]

/-- So it is with the trees of items. -/
theorem treeItems_eq (items : List Json) : treeItems items = items.map tree := by
  induction items with
  | nil => rfl
  | cons v r ih => rw [treeItems, ih, List.map_cons]

/-- And with those of fields. -/
theorem treeFields_eq (fields : List (String × Json)) :
    treeFields fields = fields.map fun f => (some f.1, f.2.tree) := by
  induction fields with
  | nil => rfl
  | cons f r ih => rw [treeFields, ih, List.map_cons]

/-- The characters of a string between quotes. -/
def quotedChars (s : String) : List Char := '\x22' :: (s.toList.flatMap escapeChar ++ ['\x22'])

theorem toList_stringText (s : String) : (stringText s).toList = quotedChars s :=
  String.toList_ofList

/-- The texts of items one behind the other, with commas between them. -/
def row (parts : List (List Char)) : List Char := [','].intercalate parts

/-- A row begins with its first part, and a comma if there are more. -/
theorem row_cons (part part' : List Char) (parts : List (List Char)) :
    row (part :: part' :: parts) = part ++ ',' :: row (part' :: parts) :=
  List.intercalate_cons_cons.trans (List.append_assoc _ _ _)

theorem row_singleton (part : List Char) : row [part] = part := List.intercalate_singleton

/-- The characters of a field. -/
def fieldChars (f : String × Json) : List Char := quotedChars f.1 ++ ':' :: f.2.text.toList

/-- An array is written as the row of its items. -/
theorem toList_text_arr (items : List Json) :
    (Json.arr items).text.toList = '[' :: (row (items.map (·.text.toList)) ++ [']']) := by
  rw [text, itemTexts_eq, String.toList_append, String.toList_append, String.toList_intercalate,
    List.map_map]
  rfl

/-- An object is written as the row of its fields. -/
theorem toList_text_obj (fields : List (String × Json)) :
    (Json.obj fields).text.toList = '\x7b' :: (row (fields.map fieldChars) ++ ['\x7d']) := by
  have hfield : (String.toList ∘ fun f : String × Json => stringText f.1 ++ ":" ++ text f.2) =
      fieldChars := by
    funext f
    rw [Function.comp_apply, String.toList_append, String.toList_append, toList_stringText,
      List.append_assoc]
    rfl
  rw [text, fieldTexts_eq, String.toList_append, String.toList_append, String.toList_intercalate,
    List.map_map, hfield]
  rfl

/-- What is behind blanks does not depend on them. -/
theorem readValue_skipBlanks (fuel : Nat) (s : List Char) :
    readValue fuel (skipBlanks s) = readValue fuel s := by
  cases fuel with
  | zero => rfl
  | succ fuel =>
    have hskip : skipBlanks (skipBlanks s) = skipBlanks s := List.dropWhile_idempotent _ _
    rw [readValue, readValue, hskip]

/-- Nor does what is read of items. -/
theorem readItems_skipBlanks (fuel : Nat) (s : List Char) :
    readItems fuel (skipBlanks s) = readItems fuel s := by
  cases fuel with
  | zero => rfl
  | succ fuel => rw [readItems, readItems, readValue_skipBlanks]

/-- A text that does not begin with a letter, a quote, a sign or a bracket is read as a number. -/
theorem readValue_digit {c : Char} (hc : c.isDigit = true) (fuel : Nat) (t : List Char) :
    readValue (fuel + 1) (c :: t) =
      (readLiteral false (c :: t)).map fun (l, r) => (.num l.number?, r) := by
  have hskip : skipBlanks (c :: t) = c :: t := by
    refine List.dropWhile_cons_of_neg fun hblank => ?_
    simp only [isBlank, Bool.or_eq_true, beq_iff_eq] at hblank
    rcases hblank with ((rfl | rfl) | rfl) | rfl <;> exact absurd hc (by decide)
  rw [readValue, hskip]
  split
  case h_8 => rfl
  -- no letter, quote, sign or bracket is a digit
  all_goals
    rename_i heq
    cases heq
    exact absurd hc (by decide)

/-- A whole number is read where it ends. -/
theorem readValue_number {n : Number} (hn : n.Whole) {r : List Char} (hr : Ended r) (fuel : Nat) :
    readValue (fuel + 1) (n.text.toList ++ r) = some (.num (some n), r) := by
  cases hn with
  | @nat n h =>
    have htext : (Number.nat n).text.toList = Nat.toDigits 10 n := by
      rw [Number.text, Nat.toString_eq_repr, Nat.toList_repr]
    obtain ⟨c, ds, hds⟩ := List.exists_cons_of_ne_nil (Nat.toDigits_ne_nil (n := n) (b := 10))
    have hc : c.isDigit = true :=
      Nat.isDigit_of_mem_toDigits (b := 10) (n := n) (by decide) (by decide) (by simp [hds])
    rw [htext, hds, List.cons_append, readValue_digit hc, ← List.cons_append, ← hds,
      readLiteral_toDigits hr, Option.map_some]
    dsimp only
    rw [number?_nat h]
  | @neg n hpos h =>
    have htext : (Number.neg n).text.toList = '-' :: Nat.toDigits 10 n := by
      rw [Number.text, String.toList_append, Nat.toString_eq_repr, Nat.toList_repr]
      rfl
    rw [htext, List.cons_append]
    show (readLiteral true (Nat.toDigits 10 n ++ r)).map _ = _
    rw [readLiteral_toDigits hr, Option.map_some]
    dsimp only
    rw [number?_neg hpos h]

/-- The value is read from its text, whatever follows, with fuel for the length of its text. -/
def ReadsBack (j : Json) : Prop :=
  ∀ fuel r, j.text.toList.length ≤ fuel → Ended r →
    readValue fuel (j.text.toList ++ r) = some (j.tree, r)

/-- A row of items is read up to the closing bracket. -/
theorem readItems_row {v : Json} {vs : List Json} (hv : ReadsBack v) (hvs : ∀ w ∈ vs, ReadsBack w)
    {fuel : Nat} (hfuel : (row ((v :: vs).map (·.text.toList))).length < fuel) (r : List Char) :
    readItems fuel (row ((v :: vs).map (·.text.toList)) ++ ']' :: r) =
      some ((v :: vs).map tree, r) := by
  -- on the items behind the first; each takes one unit of fuel
  induction vs generalizing v fuel with
  | nil =>
    obtain ⟨fuel, rfl⟩ := Nat.exists_eq_succ_of_ne_zero (Nat.ne_zero_of_lt hfuel)
    rw [List.map_singleton, row_singleton] at hfuel ⊢
    rw [readItems, hv fuel _ (Nat.le_of_lt_succ hfuel) (ended_cons (by decide) r)]
    rfl
  | cons w vs ih =>
    obtain ⟨fuel, rfl⟩ := Nat.exists_eq_succ_of_ne_zero (Nat.ne_zero_of_lt hfuel)
    obtain ⟨hw, hvs⟩ := List.forall_mem_cons.mp hvs
    rw [List.map_cons, List.map_cons, row_cons] at hfuel ⊢
    rw [List.length_append, List.length_cons] at hfuel
    rw [List.append_assoc, List.cons_append, readItems,
      hv fuel _ (by omega) (ended_cons (by decide) _)]
    show (readItems fuel (row ((w :: vs).map (·.text.toList)) ++ ']' :: r)).map _ = _
    rw [ih hw hvs (by rw [List.map_cons]; omega)]
    rfl

/-- A field is read up to what follows it: the end of the object, or some more fields. -/
theorem readFields_field {f : String × Json} (hf : ReadsBack f.2) {fuel : Nat}
    (hfuel : (fieldChars f).length ≤ fuel) (r : List Char) :
    readFields (fuel + 1) (fieldChars f ++ '\x7d' :: r) = some ([(some f.1, f.2.tree)], r) ∧
    ∀ fs r', readFields fuel r = some (fs, r') →
      readFields (fuel + 1) (fieldChars f ++ ',' :: r) = some ((some f.1, f.2.tree) :: fs, r') := by
  have hlength : f.2.text.toList.length ≤ fuel := by
    rw [fieldChars, List.length_append, List.length_cons] at hfuel
    omega
  have hchars (t : List Char) : fieldChars f ++ t =
      '\x22' :: (f.1.toList.flatMap escapeChar ++ '\x22' :: ':' :: (f.2.text.toList ++ t)) := by
    simp [fieldChars, quotedChars]
  have hquote (t : List Char) : skipBlanks ('\x22' :: t) = '\x22' :: t := rfl
  have hcolon (t : List Char) : skipBlanks (':' :: t) = ':' :: t := rfl
  constructor
  · have hvalue := hf fuel ('\x7d' :: r) hlength (ended_cons (by decide) r)
    have hbrace : skipBlanks ('\x7d' :: r) = '\x7d' :: r := rfl
    rw [hchars, readFields, hquote]
    simp only [readString_flatMap, hcolon, hvalue, hbrace, spelled_chars]
  · intro fs r' hrest
    have hvalue := hf fuel (',' :: r) hlength (ended_cons (by decide) r)
    have hcomma : skipBlanks (',' :: r) = ',' :: r := rfl
    rw [hchars, readFields, hquote]
    simp only [readString_flatMap, hcolon, hvalue, hcomma, spelled_chars, hrest, Option.map_some]

/-- A row of fields is read up to the closing brace. -/
theorem readFields_row {f : String × Json} {fs : List (String × Json)} (hf : ReadsBack f.2)
    (hfs : ∀ g ∈ fs, ReadsBack g.2) {fuel : Nat}
    (hfuel : (row ((f :: fs).map fieldChars)).length < fuel) (r : List Char) :
    readFields fuel (row ((f :: fs).map fieldChars) ++ '\x7d' :: r) =
      some ((f :: fs).map fun g => (some g.1, g.2.tree), r) := by
  induction fs generalizing f fuel with
  | nil =>
    obtain ⟨fuel, rfl⟩ := Nat.exists_eq_succ_of_ne_zero (Nat.ne_zero_of_lt hfuel)
    rw [List.map_singleton, row_singleton] at hfuel ⊢
    exact (readFields_field hf (Nat.le_of_lt_succ hfuel) r).1
  | cons g fs ih =>
    obtain ⟨fuel, rfl⟩ := Nat.exists_eq_succ_of_ne_zero (Nat.ne_zero_of_lt hfuel)
    obtain ⟨hg, hfs⟩ := List.forall_mem_cons.mp hfs
    rw [List.map_cons, List.map_cons, row_cons] at hfuel ⊢
    rw [List.length_append, List.length_cons] at hfuel
    rw [List.append_assoc, List.cons_append]
    exact (readFields_field hf (by omega) _).2 _ r
      (ih hg hfs (by rw [List.map_cons]; omega))

/-- An array with some items is read item by item. -/
theorem readValue_items {v : Json} {vs : List Json} (hv : ReadsBack v)
    (hvs : ∀ w ∈ vs, ReadsBack w) {fuel : Nat}
    (hfuel : (row ((v :: vs).map (·.text.toList))).length < fuel) (r : List Char) :
    readValue (fuel + 1) ('[' :: (row ((v :: vs).map (·.text.toList)) ++ ']' :: r)) =
      some (.arr ((v :: vs).map tree), r) := by
  have hitems := readItems_row hv hvs hfuel r
  rw [← readItems_skipBlanks] at hitems
  have hopen (t : List Char) : skipBlanks ('[' :: t) = '[' :: t := rfl
  simp only [readValue, hopen]
  split
  case h_1 r' hclosed =>
    -- no item begins with the closing bracket
    rw [hclosed] at hitems
    have hnone (n : Nat) : readValue n (']' :: r') = none := by cases n <;> rfl
    obtain ⟨fuel, rfl⟩ := Nat.exists_eq_succ_of_ne_zero (Nat.ne_zero_of_lt hfuel)
    rw [readItems, hnone] at hitems
    cases hitems
  case h_2 => rw [hitems]; rfl

/-- An object with some fields is read field by field. -/
theorem readValue_fields {f : String × Json} {fs : List (String × Json)} (hf : ReadsBack f.2)
    (hfs : ∀ g ∈ fs, ReadsBack g.2) {fuel : Nat}
    (hfuel : (row ((f :: fs).map fieldChars)).length < fuel) (r : List Char) :
    readValue (fuel + 1) ('\x7b' :: (row ((f :: fs).map fieldChars) ++ '\x7d' :: r)) =
      some (.obj ((f :: fs).map fun g => (some g.1, g.2.tree)), r) := by
  have hfields := readFields_row hf hfs hfuel r
  obtain ⟨t, ht⟩ : ∃ t, row ((f :: fs).map fieldChars) ++ '\x7d' :: r = '\x22' :: t := by
    cases fs with
    | nil => exact ⟨_, rfl⟩
    | cons g fs => exact ⟨_, rfl⟩
  rw [ht] at hfields ⊢
  show (readFields fuel ('\x22' :: t)).map _ = _
  rw [hfields]
  rfl

/-- A value with whole numbers is read from its text, whatever follows. -/
theorem Whole.readsBack {j : Json} (h : Whole j) : ReadsBack j := by
  induction h with
  | null =>
    intro fuel r hfuel _
    obtain ⟨fuel, rfl⟩ := Nat.exists_eq_succ_of_ne_zero (Nat.ne_zero_of_lt hfuel)
    rfl
  | bool b =>
    intro fuel r hfuel _
    cases b with
    | false =>
      obtain ⟨fuel, rfl⟩ := Nat.exists_eq_succ_of_ne_zero (Nat.ne_zero_of_lt hfuel)
      rfl
    | true =>
      obtain ⟨fuel, rfl⟩ := Nat.exists_eq_succ_of_ne_zero (Nat.ne_zero_of_lt hfuel)
      rfl
  | @num n hn =>
    intro fuel r hfuel hr
    -- no number is written without a digit, so there is fuel for one step
    have hpos : 0 < n.text.toList.length := by
      cases hn with
      | nat => rw [Number.text, Nat.toString_eq_repr, Nat.toList_repr]; exact Nat.length_toDigits_pos
      | neg => rw [Number.text, String.toList_append]; simp
    have hmore : 0 < fuel := Nat.lt_of_lt_of_le hpos hfuel
    obtain ⟨fuel, rfl⟩ := Nat.exists_eq_succ_of_ne_zero (Nat.ne_zero_of_lt hmore)
    exact readValue_number hn hr fuel
  | str s =>
    intro fuel r hfuel _
    rw [text, toList_stringText] at hfuel ⊢
    obtain ⟨fuel, rfl⟩ := Nat.exists_eq_succ_of_ne_zero (Nat.ne_zero_of_lt hfuel)
    rw [quotedChars, List.cons_append, List.append_assoc]
    show (readString (s.toList.flatMap escapeChar ++ '\x22' :: r)).map _ = _
    rw [readString_flatMap, Option.map_some]
    dsimp only
    rw [spelled_chars, tree]
  | @arr items _ ih =>
    intro fuel r hfuel _
    rw [toList_text_arr, List.length_cons, List.length_append, List.length_singleton] at hfuel
    rw [toList_text_arr, tree, treeItems_eq, List.cons_append, List.append_assoc]
    obtain ⟨fuel, rfl⟩ := Nat.exists_eq_succ_of_ne_zero (Nat.ne_zero_of_lt hfuel)
    cases items with
    | nil => rfl
    | cons v vs =>
      obtain ⟨hv, hvs⟩ := List.forall_mem_cons.mp ih
      exact readValue_items hv hvs (by omega) r
  | @obj fields _ ih =>
    intro fuel r hfuel _
    rw [toList_text_obj, List.length_cons, List.length_append, List.length_singleton] at hfuel
    rw [toList_text_obj, tree, treeFields_eq, List.cons_append, List.append_assoc]
    obtain ⟨fuel, rfl⟩ := Nat.exists_eq_succ_of_ne_zero (Nat.ne_zero_of_lt hfuel)
    cases fields with
    | nil => rfl
    | cons f fs =>
      obtain ⟨hf, hfs⟩ := List.forall_mem_cons.mp ih
      exact readValue_fields hf hfs (by omega) r

/-- The text of a value with whole numbers says that value. -/
theorem parse?_text {j : Json} (h : Whole j) : Tree.parse? j.text = some j.tree := by
  have hread := h.readsBack (j.text.toList.length + 1) [] (Nat.le_succ _) nofun
  rw [List.append_nil] at hread
  rw [Tree.parse?, hread]
  rfl

/-! ## Settling -/

/-- Objects have their fields in the order of their names, and arrays and objects are nested at most
    so deep. -/
inductive Settled : Nat → Json → Prop where
  | null {d : Nat} : Settled d .null
  | bool {d : Nat} (b : Bool) : Settled d (.bool b)
  | num {d : Nat} (n : Number) : Settled d (.num n)
  | str {d : Nat} (s : String) : Settled d (.str s)
  | arr {d : Nat} {items : List Json} (h : ∀ v ∈ items, Settled d v) : Settled (d + 1) (.arr items)
  | obj {d : Nat} {fields : List (String × Json)} (ordered : Pairs.Ordered fields)
      (h : ∀ f ∈ fields, Settled d f.2) : Settled (d + 1) (.obj fields)

/-- What is not nested deeper than one bound is not nested deeper than a larger one. -/
theorem Settled.mono {d e : Nat} {j : Json} (h : Settled d j) (hle : d ≤ e) : Settled e j := by
  induction h generalizing e with
  | null => exact .null
  | bool b => exact .bool b
  | num n => exact .num n
  | str s => exact .str s
  | arr _ ih =>
    obtain ⟨e, rfl⟩ := Nat.exists_eq_succ_of_ne_zero (Nat.ne_zero_of_lt hle)
    exact .arr fun v hv => ih v hv (Nat.le_of_succ_le_succ hle)
  | obj ordered _ ih =>
    obtain ⟨e, rfl⟩ := Nat.exists_eq_succ_of_ne_zero (Nat.ne_zero_of_lt hle)
    exact .obj ordered fun f hf => ih f hf (Nat.le_of_succ_le_succ hle)

/-- Items that settle to themselves do so together. -/
theorem settleItems?_map {d : Nat} {items : List Json}
    (h : ∀ v ∈ items, v.tree.settle? d = some v) :
    Tree.settleItems? d (items.map tree) = some items := by
  induction items with
  | nil => rfl
  | cons v r ih =>
    obtain ⟨hv, hr⟩ := List.forall_mem_cons.mp h
    rw [List.map_cons, Tree.settleItems?, hv, ih hr]

/-- So do fields. -/
theorem settleFields?_map {d : Nat} {fields : List (String × Json)}
    (h : ∀ f ∈ fields, f.2.tree.settle? d = some f.2) :
    Tree.settleFields? d (fields.map fun f => (some f.1, f.2.tree)) = some fields := by
  induction fields with
  | nil => rfl
  | cons f r ih =>
    obtain ⟨hf, hr⟩ := List.forall_mem_cons.mp h
    unfold Tree.settleFields?
    rw [List.map_cons]
    dsimp only
    rw [hf, ih hr]

/-- Fields in the order of their names are the fields of their object. -/
theorem object_of_ordered {fields : List (String × Json)} (h : Pairs.Ordered fields) :
    object fields = .obj fields :=
  congrArg Json.obj (Pairs.foldl_put (show Pairs.Ordered ([] ++ fields) from h))

/-- A settled value is what its text settles to, if it is not nested too deep. -/
theorem Settled.settle?_tree {d : Nat} {j : Json} (h : Settled d j) :
    j.tree.settle? d = some j := by
  induction h with
  | null => rfl
  | bool b => rfl
  | num n => rfl
  | str s => rfl
  | arr _ ih =>
    rw [tree, treeItems_eq, Tree.settle?, settleItems?_map ih, Option.map_some]
  | obj ordered _ ih =>
    rw [tree, treeFields_eq, Tree.settle?, settleFields?_map ih, Option.map_some,
      object_of_ordered ordered]

end Turnpike.Json
