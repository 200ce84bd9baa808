/-
  Which texts are made of tokens.

  The scanner goes through a text and stops with an error when it cannot go on.  `Lexes` says
  without it that a text is a sequence of tokens, each in one of the ways in which it can be
  written, with any blanks before, between and behind them.

  1. **Tokens as they are written** (`Token.Written`).  Most tokens can be written in one way only;
     a text can be written between backticks as it stands, or between double quotes with escapes
     (`Quotes`).

  2. **What is read** (`lexes_of_scan`).  The scanner reads only texts of tokens, by its own
     recursion.  Each of its cases is one rule of the grammar, or an error.

  3. **What can be read** (`Lexes.scan`).  It does not read all of them.  A text may be taken apart
     in several ways: two identifiers that touch would be read as one.  So it is asked that no
     identifier follows directly on another (`Apart`).  That is enough, since an identifier ends
     where another token or a blank begins (`Lexes.stops`), and all other tokens have ends of their
     own.
-/
import Mathlib.Data.List.Chain
import Turnpike.Proofs.Lists
import Turnpike.Proofs.Route.Expression
import Turnpike.Proofs.Text.Letters

namespace Turnpike.Route

open Turnpike.Text

/-! ## Tokens as they are written -/

/-- The escapes of a literal between double quotes: the letter, and what it stands for. -/
def escapes : List (Char × Char) :=
  [('n', '\n'), ('t', '\t'), ('\x22', '\x22'), ('\\', '\\'), ('/', '/')]

/-- What is written between double quotes, and the text that it stands for. -/
inductive Quotes : List Char → List Char → Prop where
  | nil : Quotes [] []
  | plain {c : Char} {w v : List Char} :
      c ≠ '\x22' → c ≠ '\\' → Quotes w v → Quotes (c :: w) (c :: v)
  | escape {c d : Char} {w v : List Char} :
      (c, d) ∈ escapes → Quotes w v → Quotes ('\\' :: c :: w) (d :: v)

/-- The ways in which a token can be written. -/
inductive Token.Written : Token → List Char → Prop where
  | ident {c : Char} {more : List Char} :
      isIdentStart c = true → (∀ d ∈ more, isIdentPart d = true) →
      Written (.ident (String.ofList (c :: more))) (c :: more)
  | openParen : Written .openParen ['(']
  | closeParen : Written .closeParen [')']
  | comma : Written .comma [',']
  | and : Written .and ['&', '&']
  | quoted {w v : List Char} :
      Quotes w v → Written (.text (String.ofList v)) ('\x22' :: (w ++ ['\x22']))
  | raw {v : List Char} :
      '\x60' ∉ v → Written (.text (String.ofList v)) ('\x60' :: (v ++ ['\x60']))

/-- The text is a sequence of these tokens, with blanks anywhere around them. -/
inductive Lexes : List Char → List Token → Prop where
  | nil : Lexes [] []
  | blank {c : Char} {s : List Char} {ts : List Token} :
      isBlank c = true → Lexes s ts → Lexes (c :: s) ts
  | token {t : Token} {w s : List Char} {ts : List Token} :
      t.Written w → Lexes s ts → Lexes (w ++ s) (t :: ts)

/-! ## Literals -/

/-- The scanner knows the escapes of the table. -/
theorem unescape_eq_some_iff {c d : Char} : unescape c = some d ↔ (c, d) ∈ escapes := by
  constructor
  · intro h
    unfold unescape at h
    split at h <;> cases h <;> decide
  · intro h
    simp only [escapes, List.mem_cons, Prod.mk.injEq, List.not_mem_nil, or_false] at h
    rcases h with ⟨rfl, rfl⟩ | ⟨rfl, rfl⟩ | ⟨rfl, rfl⟩ | ⟨rfl, rfl⟩ | ⟨rfl, rfl⟩ <;> rfl

/-- What is read between double quotes has been spelled there. -/
theorem quotes_of_scanQuoted {start o : Nat} {s : List Char} {l : Literal}
    (h : scanQuoted start o s = .ok l) : ∃ w, s = w ++ '\x22' :: l.rest ∧ Quotes w l.value := by
  fun_induction scanQuoted start o s generalizing l with
  | case1 => cases h
  | case2 => cases h
  | case3 => cases h
  | case4 o c r d hd ih =>
    obtain ⟨l', hl, rfl⟩ := Result.map_eq_ok.mp h
    obtain ⟨w, rfl, hw⟩ := ih hl
    exact ⟨'\\' :: c :: w, rfl, .escape (unescape_eq_some_iff.mp hd) hw⟩
  | case5 o r =>
    cases h
    exact ⟨[], rfl, .nil⟩
  | case6 o c r hc hq ih =>
    obtain ⟨l', hl, rfl⟩ := Result.map_eq_ok.mp h
    obtain ⟨w, rfl, hw⟩ := ih hl
    exact ⟨c :: w, rfl, .plain hq (fun heq => hc heq) hw⟩

/-- What is spelled between double quotes is read. -/
theorem Quotes.scan {w v : List Char} (h : Quotes w v) (start o : Nat) (r : List Char) :
    ∃ o', scanQuoted start o (w ++ '\x22' :: r) = .ok ⟨v, o', r⟩ := by
  induction h generalizing o with
  | nil =>
    refine ⟨o + 1, ?_⟩
    rw [List.nil_append, scanQuoted, if_pos rfl]
    intro heq
    exact absurd heq (by decide)
  | @plain c w v hq hb _ ih =>
    obtain ⟨o', ho⟩ := ih (o + c.utf8Size)
    refine ⟨o', ?_⟩
    rw [List.cons_append, scanQuoted, if_neg hq, ho]
    · rfl
    · exact fun heq => absurd heq hb
  | @escape c d w v hmem _ ih =>
    obtain ⟨o', ho⟩ := ih (o + 1 + c.utf8Size)
    refine ⟨o', ?_⟩
    rw [List.cons_append, List.cons_append, scanQuoted, unescape_eq_some_iff.mpr hmem]
    dsimp only
    rw [ho]
    rfl

/-- What is read between backticks stands there. -/
theorem raw_of_scanRaw {start o : Nat} {s : List Char} {l : Literal}
    (h : scanRaw start o s = .ok l) : s = l.value ++ '\x60' :: l.rest ∧ '\x60' ∉ l.value := by
  fun_induction scanRaw start o s generalizing l with
  | case1 => cases h
  | case2 o r =>
    cases h
    exact ⟨rfl, List.not_mem_nil⟩
  | case3 o c r hq ih =>
    obtain ⟨l', hl, rfl⟩ := Result.map_eq_ok.mp h
    obtain ⟨rfl, hw⟩ := ih hl
    exact ⟨rfl, List.not_mem_cons_of_ne_of_not_mem (Ne.symm hq) hw⟩

/-! ## Whole texts -/

/-- What the scanner reads is made of tokens. -/
theorem lexes_of_scan {o : Nat} {s : List Char} {ts : List Token} (h : scan o s = .ok ts) :
    Lexes s ts := by
  fun_induction scan o s generalizing ts
  case case1 => cases h; exact .nil
  case case2 hb ih => exact .blank hb (ih h)
  case case3 ih =>
    obtain ⟨ts, hs, rfl⟩ := Result.map_eq_ok.mp h
    exact .token .openParen (ih hs)
  case case4 ih =>
    obtain ⟨ts, hs, rfl⟩ := Result.map_eq_ok.mp h
    exact .token .closeParen (ih hs)
  case case5 ih =>
    obtain ⟨ts, hs, rfl⟩ := Result.map_eq_ok.mp h
    exact .token .comma (ih hs)
  case case6 ih =>
    obtain ⟨ts, hs, rfl⟩ := Result.map_eq_ok.mp h
    exact .token .and (ih hs)
  case case7 => cases h
  case case8 => cases h
  case case9 o r l hl _ _ _ _ _ ih =>
    obtain ⟨ts, hs, rfl⟩ := Result.map_eq_ok.mp h
    obtain ⟨w, rfl, hw⟩ := quotes_of_scanQuoted hl
    have hlexes := Lexes.token (.quoted hw) (ih hs)
    rwa [List.cons_append, List.append_assoc] at hlexes
  case case10 => cases h
  case case11 o r l hl _ _ _ _ _ _ ih =>
    obtain ⟨ts, hs, rfl⟩ := Result.map_eq_ok.mp h
    obtain ⟨rfl, hw⟩ := raw_of_scanRaw hl
    have hlexes := Lexes.token (.raw hw) (ih hs)
    rwa [List.cons_append, List.append_assoc] at hlexes
  case case12 hstart more ih =>
    obtain ⟨ts, hs, rfl⟩ := Result.map_eq_ok.mp h
    have hmore : ∀ d ∈ more, isIdentPart d = true := List.all_eq_true.mp List.all_takeWhile
    have hlexes := Lexes.token (.ident hstart hmore) (ih hs)
    rwa [List.cons_append, List.takeWhile_append_dropWhile] at hlexes
  case case13 => cases h
  case case14 => cases h

/-! ## Every text of tokens -/

/-- Identifiers are made of letters, digits and underscores. -/
theorem isIdentPart_iff {c : Char} : isIdentPart c = true ↔
    (65 ≤ c.toNat ∧ c.toNat ≤ 90) ∨ (97 ≤ c.toNat ∧ c.toNat ≤ 122) ∨
      (48 ≤ c.toNat ∧ c.toNat ≤ 57) ∨ c.toNat = 95 := by
  have hline : c = '_' ↔ c.toNat = 95 := ⟨fun h => h ▸ rfl, fun h => Char.toNat_inj.mp h⟩
  rw [isIdentPart, Bool.or_eq_true, isAlphanum_iff, beq_iff_eq, hline, or_assoc, or_assoc]

theorem isBlank_of_isIdentPart {c : Char} (h : isIdentPart c = true) : isBlank c = false := by
  have hrange := isIdentPart_iff.mp h
  exact isBlank_of_printable (by omega) (by omega)

/-- With what an identifier begins it may go on. -/
theorem isIdentPart_of_isIdentStart {c : Char} (h : isIdentStart c = true) :
    isIdentPart c = true := by
  unfold isIdentStart at h
  unfold isIdentPart Char.isAlphanum
  rw [Bool.or_right_comm, h]
  rfl

/-- The text does not go on with an identifier. -/
def Stops (s : List Char) : Prop := ∀ c, s.head? = some c → isIdentPart c = false

theorem scan_blank {c : Char} (h : isBlank c = true) (o : Nat) (s : List Char) :
    scan o (c :: s) = scan (o + c.utf8Size) s := by
  rw [scan.eq_def]
  simp only [h, if_true]

/-- An identifier goes on as far as it can. -/
theorem scan_ident {c : Char} (hc : isIdentStart c = true) {more s : List Char}
    (hmore : ∀ d ∈ more, isIdentPart d = true) (hs : Stops s) (o : Nat) :
    scan o (c :: (more ++ s)) =
      (scan (o + 1 + more.length) s).map (.ident (String.ofList (c :: more)) :: ·) := by
  -- it begins with none of the characters that are tokens of their own
  have hne : ∀ d, isIdentStart d = false → c ≠ d := by
    rintro d hd rfl
    rw [hc] at hd
    cases hd
  obtain ⟨htake, hdrop⟩ := Lists.span_append hmore hs
  rw [scan.eq_def]
  simp only [isBlank_of_isIdentPart (isIdentPart_of_isIdentStart hc), Bool.false_eq_true, if_false,
    if_neg (hne '(' (by decide)), if_neg (hne ')' (by decide)), if_neg (hne ',' (by decide)),
    if_neg (hne '&' (by decide)), if_neg (hne '\x22' (by decide)), if_neg (hne '\x60' (by decide)),
    hc, if_true, htake, hdrop]

/-- A double quote opens a literal. -/
theorem scan_quote {o o' : Nat} {s r v : List Char}
    (h : scanQuoted o (o + 1) s = .ok ⟨v, o', r⟩) :
    scan o ('\x22' :: s) = (scan o' r).map (.text (String.ofList v) :: ·) := by
  have hblank : isBlank '\x22' = false := by decide
  rw [scan.eq_def]
  simp only [hblank, Bool.false_eq_true, if_false, if_true, Char.reduceEq]
  split
  case h_1 e he => rw [h] at he; cases he
  case h_2 l hl =>
    rw [h] at hl
    cases hl
    rfl

/-- A token is read as it was written, if what follows cannot be taken for a part of it. -/
theorem Token.Written.scan {t : Token} {w : List Char} (h : t.Written w) {s : List Char}
    (hs : ∀ n, t = .ident n → Stops s) (o : Nat) :
    ∃ o', Route.scan o (w ++ s) = (Route.scan o' s).map (t :: ·) := by
  -- one case for each way of writing, and the scanner decides by the first character
  cases h with
  | @ident c more hc hmore => exact ⟨_, scan_ident hc hmore (hs _ rfl) o⟩
  | openParen =>
    have hblank : isBlank '(' = false := by decide
    refine ⟨o + 1, ?_⟩
    rw [List.singleton_append, scan.eq_def]
    simp only [hblank, Bool.false_eq_true, if_false, if_true]
  | closeParen =>
    have hblank : isBlank ')' = false := by decide
    refine ⟨o + 1, ?_⟩
    rw [List.singleton_append, scan.eq_def]
    simp only [hblank, Bool.false_eq_true, if_false, if_true, Char.reduceEq]
  | comma =>
    have hblank : isBlank ',' = false := by decide
    refine ⟨o + 1, ?_⟩
    rw [List.singleton_append, scan.eq_def]
    simp only [hblank, Bool.false_eq_true, if_false, if_true, Char.reduceEq]
  | and =>
    have hblank : isBlank '&' = false := by decide
    refine ⟨o + 2, ?_⟩
    rw [List.cons_append, List.singleton_append, scan.eq_def]
    simp only [hblank, Bool.false_eq_true, if_false, if_true, Char.reduceEq]
  | @quoted w v hw =>
    obtain ⟨o', ho⟩ := hw.scan o (o + 1) s
    refine ⟨o', ?_⟩
    rw [List.cons_append, List.append_assoc, List.singleton_append, scan_quote ho]
  | @raw v hv =>
    obtain ⟨o', ho⟩ := scanRaw_append o (o + 1) hv s
    refine ⟨o', ?_⟩
    rw [List.cons_append, List.append_assoc, List.singleton_append, scan_backtick ho]

/-- No identifier follows directly on an identifier. -/
def Apart (ts : List Token) : Prop :=
  ts.IsChain fun t u => ∀ n, t = .ident n → ∀ m, u ≠ .ident m

/-- An identifier ends before anything but another one. -/
theorem Lexes.stops {s : List Char} {ts : List Token} (h : Lexes s ts)
    (hts : ∀ n, ts.head? ≠ some (.ident n)) : Stops s := by
  cases h with
  | nil => exact fun _ hc => nomatch hc
  | blank hb _ =>
    rintro c ⟨⟩
    refine Bool.eq_false_iff.mpr fun hpart => ?_
    rw [isBlank_of_isIdentPart hpart] at hb
    cases hb
  | token hw _ =>
    cases hw with
    | ident => exact absurd rfl (hts _)
    | openParen | closeParen | comma | and | quoted | raw => rintro c ⟨⟩; decide

/-- Every text of tokens is read, if no two identifiers in it can touch. -/
theorem Lexes.scan {s : List Char} {ts : List Token} (h : Lexes s ts) (hts : Apart ts) (o : Nat) :
    Route.scan o s = .ok ts := by
  induction h generalizing o with
  | nil => rw [Route.scan]
  | blank hb _ ih => rw [scan_blank hb, ih hts]
  | @token t w s ts hw hs ih =>
    obtain ⟨hnext, hrest⟩ := List.isChain_cons.mp hts
    have hstops : ∀ n, t = .ident n → Stops s := by
      intro n ht
      refine hs.stops fun m hhead => ?_
      exact hnext _ hhead n ht m rfl
    obtain ⟨o', ho⟩ := hw.scan hstops o
    rw [ho, ih hrest]
    rfl

end Turnpike.Route
