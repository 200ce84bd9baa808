/-
  What is quoted can be read back.

  Routes and conditions have a canonical form, and the texts in it stand in quotes.  That two of
  them with one canonical form mean the same rests on quoting: from what is written between the
  quotes the text must come out again, and it must be plain where it ends.

  1. **A reader** (`first?`).  The program only ever writes such text, so that a reader is made here
     to prove with: it takes one character from what stands between quotes, be it by itself, behind
     a backslash, or as a number in braces, and finds none at the closing quote.

  2. **Characters** (`first?_escape`).  Every character is read back, whatever follows it.  There
     are as many cases as there are ways to write one; all but the last two are finite.  For the
     number in braces it is needed that its digits are read back (`number_hex`), and that none of
     them is the brace that ends them (`brace_not_mem_hex`).

  3. **Texts** (`quote_append_inj`).  Two quoted texts, each with something behind it, are read side
     by side: the first characters are equal, then the rest is, and the quote comes in both at once.
     This is more than that quoting is one-to-one, since it also tells where the text has ended; so
     it can be used for texts within texts.
-/
import Turnpike.Proofs.Text.Split
import Turnpike.Text.Quoted

namespace Turnpike.Text.Quoted

@[simp] theorem toList_quoted (s : String) : (quoted s).toList = quote s.toList :=
  String.toList_ofList

/-! ## Numbers -/

/-- The number that hexadecimal digits spell. -/
def number (ds : List Char) : Nat := ds.foldl (fun n d => n * 16 + hexValue d) 0

theorem hexValue_hexDigit : ∀ n < 16, hexValue (hexDigit n) = n := by decide

theorem hexDigit_ne_brace : ∀ n < 16, hexDigit n ≠ '\x7d' := by decide

/-- The digits of a number spell it. -/
theorem number_hex (n : Nat) : number (hex n) = n := by
  induction n using hex.induct with
  | case1 n hn =>
    rw [hex, if_pos hn]
    show 0 * 16 + hexValue (hexDigit n) = n
    rw [hexValue_hexDigit n hn, Nat.zero_mul, Nat.zero_add]
  | case2 n hn ih =>
    -- all digits but the last spell the number divided by 16
    rw [hex, if_neg hn, number, List.foldl_append]
    show number (hex (n / 16)) * 16 + hexValue (hexDigit (n % 16)) = n
    rw [ih, hexValue_hexDigit _ (Nat.mod_lt n (by decide)), Nat.div_add_mod']

/-- The digits of a number end before the brace behind them. -/
theorem brace_not_mem_hex (n : Nat) : '\x7d' ∉ hex n := by
  induction n using hex.induct with
  | case1 n hn =>
    rw [hex, if_pos hn, List.mem_singleton]
    exact (hexDigit_ne_brace n hn).symm
  | case2 n hn ih =>
    rw [hex, if_neg hn, List.mem_append, List.mem_singleton, not_or]
    exact ⟨ih, (hexDigit_ne_brace _ (Nat.mod_lt n (by decide))).symm⟩

/-! ## Characters -/

/-- The character that a backslash stands for with what follows it, and what is left. -/
def escaped? : List Char → Option (Char × List Char)
  | '0' :: r => some ('\x00', r)
  | 't' :: r => some ('\t', r)
  | 'n' :: r => some ('\n', r)
  | 'r' :: r => some ('\r', r)
  | 'u' :: '\x7b' :: r =>
    (splitFirst? '\x7d' r).map fun (digits, rest) => (Char.ofNat (number digits), rest)
  | c :: r => some (c, r)
  | [] => none

/-- The first character of what stands between quotes, and what is left; `none` at the end. -/
def first? : List Char → Option (Char × List Char)
  | '\\' :: r => escaped? r
  | c :: r => if c = '\x22' then none else some (c, r)
  | [] => none

/-- Every character is read back, whatever follows. -/
theorem first?_escape (c : Char) (r : List Char) : first? (escape c ++ r) = some (c, r) := by
  -- the characters with a form of their own
  by_cases hzero : c = '\x00'
  · rw [hzero]; rfl
  by_cases htab : c = '\t'
  · rw [htab]; rfl
  by_cases hfeed : c = '\n'
  · rw [hfeed]; rfl
  by_cases hreturn : c = '\r'
  · rw [hreturn]; rfl
  by_cases hback : c = '\\'
  · rw [hback]; rfl
  by_cases hquote : c = '\x22'
  · rw [hquote]; rfl
  rw [escape, if_neg hzero, if_neg htab, if_neg hfeed, if_neg hreturn, if_neg hback, if_neg hquote]
  -- shown as it is, or by its number
  split
  case isTrue =>
    rw [List.singleton_append, first?, if_neg hquote]
    exact hback
  case isFalse =>
    have hsplit : splitFirst? '\x7d' (hex c.toNat ++ '\x7d' :: r) = some (hex c.toNat, r) :=
      splitFirst?_eq_some_iff.mpr ⟨rfl, brace_not_mem_hex _⟩
    rw [List.append_assoc, List.append_assoc, List.singleton_append]
    show (splitFirst? '\x7d' (hex c.toNat ++ '\x7d' :: r)).map _ = _
    rw [hsplit, Option.map_some]
    dsimp only
    rw [number_hex, Char.ofNat_toNat]

/-! ## Texts -/

/-- The first character of what stands between quotes is read, and the rest is left. -/
theorem first?_body_cons (c : Char) (s r : List Char) :
    first? (body (c :: s) ++ r) = some (c, body s ++ r) := by
  rw [body, List.flatMap_cons, List.append_assoc, first?_escape]
  rfl

/-- What stands between quotes can be told from what stands behind them. -/
theorem body_append_inj {s t r r' : List Char}
    (h : body s ++ '\x22' :: r = body t ++ '\x22' :: r') : s = t ∧ r = r' := by
  -- at the closing quote there is no character to be read
  have hquote : ∀ r, first? (body [] ++ '\x22' :: r) = none := fun _ => rfl
  have hfirst := congrArg first? h
  -- on both texts: either they end at once, or they have one first character
  induction s generalizing t with
  | nil =>
    cases t with
    | nil => exact ⟨rfl, (List.cons.inj h).2⟩
    | cons d t =>
      rw [hquote, first?_body_cons] at hfirst
      cases hfirst
  | cons c s ih =>
    cases t with
    | nil =>
      rw [hquote, first?_body_cons] at hfirst
      cases hfirst
    | cons d t =>
      rw [first?_body_cons, first?_body_cons, Option.some.injEq, Prod.mk.injEq] at hfirst
      obtain ⟨rfl, hrest⟩ := hfirst
      obtain ⟨rfl, hr⟩ := ih hrest (congrArg first? hrest)
      exact ⟨rfl, hr⟩

/-- The quoted text, and what stands behind it, can be told from the two together. -/
theorem quote_append_inj {s t r r' : List Char} (h : quote s ++ r = quote t ++ r') :
    s = t ∧ r = r' := by
  have hquote : ∀ s r, quote s ++ r = '\x22' :: (body s ++ '\x22' :: r) := by
    intro s r
    rw [quote, List.append_assoc, List.cons_append, List.singleton_append]
  rw [hquote, hquote] at h
  exact body_append_inj (List.cons.inj h).2

end Turnpike.Text.Quoted
