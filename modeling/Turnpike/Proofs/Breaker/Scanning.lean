/-
  Which texts are made of the tokens of a condition.

  A trip condition is cut into tokens before it is read.  The scanner looks at the next character
  and decides by it, and by the one behind it, which token comes; names and numbers then take all
  that they can.  What a text of tokens is should be said without an order of decisions.

  1. **Tokens as they are written** (`Token.Written`).  A name is a letter with letters and digits
     behind it, a number some digits with a point among them or without (`Decimal`), and the others
     are given by their characters.

  2. **Texts** (`Lexes`).  A text is a sequence of tokens, each as it is written, with any blanks
     before, between and behind them.  A token never stops where it could go on (`Token.Ends`): a
     number takes all digits and points that follow, a name all letters and digits, and an operator
     the equality sign.  This settles where every token ends.

  3. **What the scanner reads** is made of tokens (`lexes_of_scan`).  The induction is that of the
     scanner, with a case for each of its decisions.

  4. **Every text of tokens is read** (`Lexes.scan`).  Here it has to be shown that no earlier
     decision takes the token away: what begins a name or a number is neither blank nor a token by
     itself nor the first half of one (`isWordPart`), and a token of one character does not form
     another one with what follows its end (`headPair?_of_ends`).

  So a text has the tokens that are scanned and no others (`scan_eq_ok_iff`).
-/
import Turnpike.Breaker.Compile
import Turnpike.Proofs.Lists
import Turnpike.Proofs.Result
import Turnpike.Proofs.Text.Letters

namespace Turnpike.Breaker

open Turnpike.Text Turnpike.Number

/-! ## Tokens as they are written -/

/-- The ways in which a decimal can be written, with its value: some digits, with a point anywhere
    among them or with none. -/
inductive Decimal : List Char → Nat → Prop where
  | whole {ds : List Char} :
      ds ≠ [] → (∀ d ∈ ds, d.isDigit = true) → Decimal ds (ofDecimal (decimal ds) 0)
  | pointed {ds fs : List Char} :
      ds ++ fs ≠ [] → (∀ d ∈ ds, d.isDigit = true) → (∀ d ∈ fs, d.isDigit = true) →
      Decimal (ds ++ '.' :: fs) (ofDecimal (decimal (ds ++ fs)) (-fs.length))

/-- How an operator is written. -/
def Operator.text : Operator → List Char
  | gt => ['>']
  | ge => ['>', '=']
  | lt => ['<']
  | le => ['<', '=']
  | eq => ['=', '=']
  | ne => ['!', '=']

/-- The ways in which a token can be written. -/
inductive Token.Written : Token → List Char → Prop where
  | ident {c : Char} {more : List Char} :
      c.isAlpha = true → (∀ d ∈ more, d.isAlphanum = true) →
      Written (.ident (String.ofList (c :: more))) (c :: more)
  | number {w : List Char} {v : Nat} : Decimal w v → Written (.number v) w
  | openParen : Written .openParen ['(']
  | closeParen : Written .closeParen [')']
  | comma : Written .comma [',']
  | and : Written .and ['&', '&']
  | or : Written .or ['|', '|']
  | operator (o : Operator) : Written (.operator o) o.text

/-- Would the token go on with the character? -/
def Token.takes : Token → Char → Bool
  | .ident _, c => c.isAlphanum
  | .number _, c => isNumberPart c
  | .operator .gt, c | .operator .lt, c => c == '='
  | _, _ => false

/-- The token ends where the text begins. -/
def Token.Ends (t : Token) (s : List Char) : Prop := ∀ c, s.head? = some c → t.takes c = false

/-- The text is a sequence of these tokens, each as long as it can be, with blanks anywhere around
    them. -/
inductive Lexes : List Char → List Token → Prop where
  | nil : Lexes [] []
  | blank {c : Char} {s : List Char} {ts : List Token} :
      isBlank c = true → Lexes s ts → Lexes (c :: s) ts
  | token {t : Token} {w s : List Char} {ts : List Token} :
      t.Written w → t.Ends s → Lexes s ts → Lexes (w ++ s) (t :: ts)

/-! ## Numbers -/

/-- A number is made of digits and points. -/
theorem isNumberPart_iff {c : Char} : isNumberPart c = true ↔ c.isDigit = true ∨ c = '.' := by
  rw [isNumberPart, Bool.or_eq_true, beq_iff_eq]

/-- A decimal is made of these, and is not empty. -/
theorem Decimal.parts {w : List Char} {v : Nat} (h : Decimal w v) :
    w ≠ [] ∧ ∀ c ∈ w, isNumberPart c = true := by
  cases h with
  | whole hne hds => exact ⟨hne, fun c hc => isNumberPart_iff.mpr (.inl (hds c hc))⟩
  | pointed _ hds hfs =>
    refine ⟨List.append_ne_nil_of_right_ne_nil _ (List.cons_ne_nil _ _), ?_⟩
    rw [List.forall_mem_append, List.forall_mem_cons]
    exact ⟨fun c hc => isNumberPart_iff.mpr (.inl (hds c hc)), rfl,
      fun c hc => isNumberPart_iff.mpr (.inl (hfs c hc))⟩

/-- Parts of a number are digits, or digits up to a first point and what follows it. -/
theorem digits_or_pointed {w : List Char} (hw : ∀ c ∈ w, isNumberPart c = true) :
    (∀ c ∈ w, c.isDigit = true) ∨
      ∃ ds fs, w = ds ++ '.' :: fs ∧ ∀ d ∈ ds, d.isDigit = true := by
  -- to the first point, if there is one
  induction w with
  | nil => exact .inl fun _ hc => nomatch hc
  | cons c w ih =>
    obtain ⟨hc, hw⟩ := List.forall_mem_cons.mp hw
    rcases isNumberPart_iff.mp hc with hdigit | rfl
    · rcases ih hw with hall | ⟨ds, fs, rfl, hds⟩
      · exact .inl (List.forall_mem_cons.mpr ⟨hdigit, hall⟩)
      · exact .inr ⟨c :: ds, fs, rfl, List.forall_mem_cons.mpr ⟨hdigit, hds⟩⟩
    · exact .inr ⟨[], w, rfl, fun _ hd => nomatch hd⟩

/-- Digits have the value of the number that they write. -/
theorem literalBits?_digits {ds : List Char} (hds : ∀ d ∈ ds, d.isDigit = true) :
    literalBits? ds = if ds = [] then none else some (ofDecimal (decimal ds) 0) := by
  obtain ⟨htake, hdrop⟩ := Lists.span_append hds (s := []) nofun
  rw [List.append_nil] at htake hdrop
  unfold literalBits?
  simp only [htake, hdrop]

/-- Digits behind a first point count as the fraction, if they are digits and there are any in all.
    -/
theorem literalBits?_pointed {ds : List Char} (hds : ∀ d ∈ ds, d.isDigit = true)
    (fs : List Char) : literalBits? (ds ++ '.' :: fs) =
      if fs.all Char.isDigit && !(ds = [] && fs = []) then
        some (ofDecimal (decimal (ds ++ fs)) (-fs.length))
      else none := by
  obtain ⟨htake, hdrop⟩ := Lists.span_append hds (s := '.' :: fs) fun c hc => by cases hc; rfl
  unfold literalBits?
  simp only [htake, hdrop]

/-- The literals that have a value are the decimals. -/
theorem literalBits?_eq_some_iff {w : List Char} {v : Nat} (hw : ∀ c ∈ w, isNumberPart c = true) :
    literalBits? w = some v ↔ Decimal w v := by
  constructor
  · intro h
    rcases digits_or_pointed hw with hds | ⟨ds, fs, rfl, hds⟩
    · rw [literalBits?_digits hds] at h
      split at h
      case isTrue => cases h
      case isFalse hne =>
        cases h
        exact .whole hne hds
    · rw [literalBits?_pointed hds] at h
      split at h
      case isFalse => cases h
      case isTrue hok =>
        cases h
        rw [Bool.and_eq_true, List.all_eq_true] at hok
        exact .pointed (by simpa [imp_iff_not_or] using hok.2) hds hok.1
  · intro h
    cases h with
    | whole hne hds => rw [literalBits?_digits hds, if_neg hne]
    | pointed hne hds hfs =>
      have hok : List.all _ Char.isDigit = true := List.all_eq_true.mpr hfs
      rw [literalBits?_pointed hds, hok, if_pos]
      simpa [imp_iff_not_or] using hne

/-! ## Reading tokens -/

/-- A token of two characters has taken the next one. -/
theorem headPair?_eq_some {c : Char} {s r : List Char} {t : Token} (h : headPair? c s = some (t, r)) :
    ∃ d, s = d :: r ∧ pairToken? c d = some t := by
  cases s with
  | nil => cases h
  | cons d s =>
    simp only [headPair?, Option.map_eq_some_iff, Prod.mk.injEq] at h
    obtain ⟨t, ht, rfl, rfl⟩ := h
    exact ⟨d, rfl, ht⟩

/-- Two characters that form a token are all of it. -/
theorem written_of_pairToken? {c d : Char} {t : Token} (h : pairToken? c d = some t)
    (s : List Char) : t.Written [c, d] ∧ t.Ends s := by
  unfold pairToken? at h
  split at h <;> cases h
  case h_1 => exact ⟨.and, fun _ _ => rfl⟩
  case h_2 => exact ⟨.or, fun _ _ => rfl⟩
  case h_3 => exact ⟨.operator .ge, fun _ _ => rfl⟩
  case h_4 => exact ⟨.operator .le, fun _ _ => rfl⟩
  case h_5 => exact ⟨.operator .eq, fun _ _ => rfl⟩
  case h_6 => exact ⟨.operator .ne, fun _ _ => rfl⟩

/-- A character that forms a token by itself is all of it, if it does not form one with the next. -/
theorem written_of_singleToken? {c : Char} {t : Token} (h : singleToken? c = some t)
    {s : List Char} (hs : headPair? c s = none) : t.Written [c] ∧ t.Ends s := by
  -- with an equality sign behind it, it would have been an operator of two
  have hne {d : Char} (hc : pairToken? c '=' ≠ none) (hd : s.head? = some d) : (d == '=') = false := by
    cases s with
    | nil => cases hd
    | cons e s =>
      cases hd
      refine beq_false_of_ne ?_
      rintro rfl
      exact hc (Option.map_eq_none_iff.mp hs)
  unfold singleToken? at h
  split at h <;> cases h
  case h_1 => exact ⟨.openParen, fun _ _ => rfl⟩
  case h_2 => exact ⟨.closeParen, fun _ _ => rfl⟩
  case h_3 => exact ⟨.comma, fun _ _ => rfl⟩
  case h_4 => exact ⟨.operator .gt, fun d hd => hne (by decide) hd⟩
  case h_5 => exact ⟨.operator .lt, fun d hd => hne (by decide) hd⟩

/-- A token that has taken all it can ends there. -/
theorem ends_dropWhile (p : Char → Bool) {t : Token} (ht : t.takes = p) (s : List Char) :
    t.Ends (s.dropWhile p) := by
  intro c hc
  have hnot := List.head?_dropWhile_not p s
  rw [hc] at hnot
  rw [ht]
  exact hnot

/-- What the scanner reads is made of tokens. -/
theorem lexes_of_scan {o : Nat} {s : List Char} {ts : List Token} (h : scan o s = .ok ts) :
    Lexes s ts := by
  fun_induction scan o s generalizing ts
  case case1 => cases h; exact .nil
  case case2 hb ih => exact .blank hb (ih h)
  -- a token of two characters, and then one of one
  case case3 hpair ih =>
    obtain ⟨ts, hs, rfl⟩ := Result.map_eq_ok.mp h
    obtain ⟨d, rfl, ht⟩ := headPair?_eq_some hpair
    obtain ⟨hw, hends⟩ := written_of_pairToken? ht _
    exact .token hw hends (ih hs)
  case case4 hpair t ht ih =>
    obtain ⟨ts, hs, rfl⟩ := Result.map_eq_ok.mp h
    obtain ⟨hw, hends⟩ := written_of_singleToken? ht hpair
    exact .token hw hends (ih hs)
  case case5 => cases h
  -- a number: what has been taken from the text is put back
  case case6 c r _ _ _ hc more v hv ih =>
    obtain ⟨ts, hs, rfl⟩ := Result.map_eq_ok.mp h
    have hparts : ∀ d ∈ c :: more, isNumberPart d = true :=
      List.forall_mem_cons.mpr ⟨hc, List.all_eq_true.mp List.all_takeWhile⟩
    have hw := (literalBits?_eq_some_iff hparts).mp hv
    have hlexes := Lexes.token (.number hw) (ends_dropWhile isNumberPart rfl r) (ih hs)
    rwa [List.cons_append, List.takeWhile_append_dropWhile] at hlexes
  -- a name
  case case7 c r _ _ _ _ hc more ih =>
    obtain ⟨ts, hs, rfl⟩ := Result.map_eq_ok.mp h
    have hmore : ∀ d ∈ more, d.isAlphanum = true := List.all_eq_true.mp List.all_takeWhile
    have hlexes := Lexes.token (.ident hc hmore) (ends_dropWhile Char.isAlphanum rfl r) (ih hs)
    rwa [List.cons_append, List.takeWhile_append_dropWhile] at hlexes
  case case8 => cases h

/-! ## Every text of tokens -/

/-- A letter, a digit or a point: they make up names and numbers. -/
def isWordPart (c : Char) : Bool := c.isAlphanum || c == '.'

theorem isWordPart_of_isAlpha {c : Char} (h : c.isAlpha = true) : isWordPart c = true := by
  rw [isWordPart, Char.isAlphanum, h, Bool.true_or, Bool.true_or]

/-- Digits and points make up numbers. -/
theorem isWordPart_of_isNumberPart {c : Char} (h : isNumberPart c = true) :
    isWordPart c = true := by
  rcases isNumberPart_iff.mp h with hdigit | rfl
  · rw [isWordPart, Char.isAlphanum, hdigit, Bool.or_true, Bool.true_or]
  · rfl

/-- Such a character is not blank. -/
theorem isBlank_of_isWordPart {c : Char} (h : isWordPart c = true) : isBlank c = false := by
  rw [isWordPart, Bool.or_eq_true, isAlphanum_iff, beq_iff_eq] at h
  rcases h with h | rfl
  · exact isBlank_of_printable (by omega) (by omega)
  · rfl

/-- No such character belongs to a token of two characters. -/
theorem headPair?_of_isWordPart {c : Char} (h : isWordPart c = true) (s : List Char) :
    headPair? c s = none := by
  cases s with
  | nil => rfl
  | cons d s =>
    rw [headPair?, Option.map_eq_none_iff]
    unfold pairToken?
    split
    case h_7 => rfl
    all_goals exact absurd h (by decide)

/-- No such character is a token by itself. -/
theorem singleToken?_of_isWordPart {c : Char} (h : isWordPart c = true) :
    singleToken? c = none := by
  unfold singleToken?
  split
  case h_6 => rfl
  all_goals exact absurd h (by decide)

/-- No number begins with a letter. -/
theorem isNumberPart_of_isAlpha {c : Char} (h : c.isAlpha = true) : isNumberPart c = false := by
  refine Bool.eq_false_iff.mpr fun hpart => ?_
  rcases isNumberPart_iff.mp hpart with hdigit | rfl
  · rw [isDigit_iff] at hdigit
    rw [isAlpha_iff] at h
    omega
  · exact absurd h (by decide)

theorem scan_blank {c : Char} (h : isBlank c = true) (o : Nat) (s : List Char) :
    scan o (c :: s) = scan (o + c.utf8Size) s := by
  rw [scan.eq_def]
  simp only [h, if_true]

/-- A token of two characters is read. -/
theorem scan_pair {c d : Char} {t : Token} (hb : isBlank c = false)
    (h : pairToken? c d = some t) (o : Nat) (s : List Char) :
    scan o (c :: d :: s) = (scan (o + 2) s).map (t :: ·) := by
  have hpair : headPair? c (d :: s) = some (t, s) := by rw [headPair?, h]; rfl
  rw [scan.eq_def]
  simp only [hb, Bool.false_eq_true, if_false]
  split
  case h_1 he =>
    rw [hpair] at he
    cases he
    rfl
  case h_2 he => rw [hpair] at he; cases he

/-- So is one of one character, where it does not form another one with the next. -/
theorem scan_single {c : Char} {t : Token} {s : List Char} (hb : isBlank c = false)
    (hpair : headPair? c s = none) (h : singleToken? c = some t) (o : Nat) :
    scan o (c :: s) = (scan (o + 1) s).map (t :: ·) := by
  rw [scan.eq_def]
  simp only [hb, Bool.false_eq_true, if_false]
  split
  case h_1 he => rw [hpair] at he; cases he
  case h_2 => simp only [h]

/-- So is a number, up to its end. -/
theorem scan_number {c : Char} {more s : List Char} {v : Nat}
    (hparts : ∀ d ∈ c :: more, isNumberPart d = true) (hv : literalBits? (c :: more) = some v)
    (hs : (Token.number v).Ends s) (o : Nat) :
    scan o (c :: (more ++ s)) = (scan (o + 1 + more.length) s).map (.number v :: ·) := by
  obtain ⟨hc, hmore⟩ := List.forall_mem_cons.mp hparts
  have hword := isWordPart_of_isNumberPart hc
  have hpair := headPair?_of_isWordPart hword (more ++ s)
  obtain ⟨htake, hdrop⟩ := Lists.span_append hmore hs
  rw [scan.eq_def]
  simp only [isBlank_of_isWordPart hword, Bool.false_eq_true, if_false]
  split
  case h_1 he => rw [hpair] at he; cases he
  case h_2 => simp only [singleToken?_of_isWordPart hword, hc, if_true, htake, hdrop, hv]

/-- So is a name. -/
theorem scan_ident {c : Char} {more s : List Char} (hc : c.isAlpha = true)
    (hmore : ∀ d ∈ more, d.isAlphanum = true)
    (hs : ∀ d, s.head? = some d → d.isAlphanum = false) (o : Nat) :
    scan o (c :: (more ++ s)) =
      (scan (o + 1 + more.length) s).map (.ident (String.ofList (c :: more)) :: ·) := by
  have hword := isWordPart_of_isAlpha hc
  have hpair := headPair?_of_isWordPart hword (more ++ s)
  obtain ⟨htake, hdrop⟩ := Lists.span_append hmore hs
  rw [scan.eq_def]
  simp only [isBlank_of_isWordPart hword, Bool.false_eq_true, if_false]
  split
  case h_1 he => rw [hpair] at he; cases he
  case h_2 =>
    simp only [singleToken?_of_isWordPart hword, isNumberPart_of_isAlpha hc, Bool.false_eq_true,
      if_false, hc, if_true, htake, hdrop]

/-- A token of one character does not form another with what follows its end. -/
theorem headPair?_of_ends {c : Char} {t : Token} (h : singleToken? c = some t) {s : List Char}
    (hs : t.Ends s) : headPair? c s = none := by
  cases s with
  | nil => rfl
  | cons d s =>
    have hd := hs d rfl
    rw [headPair?, Option.map_eq_none_iff]
    unfold singleToken? at h
    split at h <;> cases h
    case h_1 | h_2 | h_3 => rfl
    case h_4 | h_5 =>
      have hne : d ≠ '=' := ne_of_beq_false hd
      simp [pairToken?, hne]

/-- A token is read as it was written, where it ends. -/
theorem Token.Written.scan {t : Token} {w : List Char} (h : t.Written w) {s : List Char}
    (hs : t.Ends s) (o : Nat) :
    ∃ o', Breaker.scan o (w ++ s) = (Breaker.scan o' s).map (t :: ·) := by
  have hsingle {c : Char} (hb : isBlank c = false) (hc : singleToken? c = some t) :
      ∃ o', Breaker.scan o (c :: s) = (Breaker.scan o' s).map (t :: ·) :=
    ⟨o + 1, scan_single hb (headPair?_of_ends hc hs) hc o⟩
  have hpair {c d : Char} (hb : isBlank c = false) (hcd : pairToken? c d = some t) :
      ∃ o', Breaker.scan o (c :: d :: s) = (Breaker.scan o' s).map (t :: ·) :=
    ⟨o + 2, scan_pair hb hcd o s⟩
  cases h with
  | ident hc hmore => exact ⟨_, scan_ident hc hmore hs o⟩
  | @number w v hw =>
    obtain ⟨hne, hparts⟩ := hw.parts
    -- a number has a first character, by which it is known
    obtain ⟨c, more, rfl⟩ := List.exists_cons_of_ne_nil hne
    exact ⟨_, scan_number hparts ((literalBits?_eq_some_iff hparts).mpr hw) hs o⟩
  | openParen | closeParen | comma => exact hsingle (by decide) rfl
  | and | or => exact hpair (by decide) rfl
  | operator op =>
    cases op with
    | gt | lt => exact hsingle (by decide) rfl
    | ge | le | eq | ne => exact hpair (by decide) rfl

/-- A text of tokens is read, from whatever offset. -/
theorem Lexes.scan {s : List Char} {ts : List Token} (h : Lexes s ts) (o : Nat) :
    Breaker.scan o s = .ok ts := by
  induction h generalizing o with
  | nil => rw [Breaker.scan]
  | blank hb _ ih => rw [scan_blank hb, ih]
  | token hw hends _ ih =>
    obtain ⟨o', ho⟩ := hw.scan hends o
    rw [ho, ih]
    rfl

/-- The scanner reads the texts that are made of tokens, and finds just these tokens. -/
theorem scan_eq_ok_iff {o : Nat} {s : List Char} {ts : List Token} :
    scan o s = .ok ts ↔ Lexes s ts := ⟨lexes_of_scan, fun h => h.scan o⟩

end Turnpike.Breaker
