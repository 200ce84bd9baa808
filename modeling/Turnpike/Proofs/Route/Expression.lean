/-
  What expressions compile to.

  Most of what is proved of routers looks at patterns only, and takes from the compiler of
  expressions what it needs to know of their paths.  That is little, and can be had without saying
  which expressions there are.

  1. **Paths are text** (`textual_of_parse`).  The path of every expression is made of whole
     characters: a character is taken over with all its bytes, or it belongs to the name of a
     parameter.  And a path is not empty.  Both are kept by the calls of an expression, since only
     one of them says anything about the path, and it says it once (`Draft.Sound.apply`).

  2. **A single call** (`parse_path`).  An expression of the form Path(`...`) compiles to what
     stands between the backticks, as it stands.  It is followed through the scanner and the reader
     of calls step by step.

  The second part is for what follows: expressions of that form are what a path is written as when
  it is to be found again, and they make good examples.
-/
import Turnpike.Proofs.Result
import Turnpike.Proofs.Route.Spelling
import Turnpike.Route.Compile

namespace Turnpike.Route

open Turnpike.Text

/-! ## Paths -/

/-- What the reader of paths makes is made of whole characters. -/
theorem textual_of_segments {o : Nat} {s : List Char} {path : List Segment}
    (h : segments o s = .ok path) : Textual path := by
  -- along the reading: a name or a character is put in front, or it stops with an error
  fun_induction segments o s generalizing path
  case case1 => cases h; exact .nil
  case case2 => cases h
  case case3 name _ ih =>
    obtain ⟨path', hs, rfl⟩ := Result.map_eq_ok.mp h
    exact .param name (ih hs)
  case case4 => cases h
  case case5 => cases h
  case case6 c r _ _ ih =>
    obtain ⟨path', hs, rfl⟩ := Result.map_eq_ok.mp h
    exact .char c (ih hs)

/-- It makes something of every text that is not empty. -/
theorem segments_ne_nil {o : Nat} {s : List Char} {path : List Segment}
    (h : segments o s = .ok path) (hs : s ≠ []) : path ≠ [] := by
  fun_induction segments o s generalizing path
  case case1 => exact absurd rfl hs
  case case2 => cases h
  case case3 name _ _ =>
    obtain ⟨path', -, rfl⟩ := Result.map_eq_ok.mp h
    exact List.cons_ne_nil _ _
  case case4 => cases h
  case case5 => cases h
  case case6 c r _ _ _ =>
    obtain ⟨path', -, rfl⟩ := Result.map_eq_ok.mp h
    intro e
    obtain ⟨hc, -⟩ := List.append_eq_nil_iff.mp e
    exact String.utf8EncodeChar_ne_nil (List.map_eq_nil_iff.mp hc)

/-- What is known of the path of a draft, once it is stated. -/
def Draft.Sound (d : Draft) : Prop := ∀ path, d.path = some path → Textual path ∧ path ≠ []

/-- One more call does not spoil the path. -/
theorem Draft.Sound.apply {d d' : Draft} (hd : d.Sound) {c : Call} (h : d.apply c = .ok d') :
    d'.Sound := by
  -- only a call of the first kind says something of the path
  unfold Draft.apply at h
  split at h
  case isTrue =>
    split at h
    case isTrue => cases h
    case isFalse =>
      split at h
      case h_1 => cases h
      case h_2 text _ =>
        obtain ⟨path, hp, rfl⟩ := Result.map_eq_ok.mp h
        unfold pathSegments at hp
        split at hp
        case isTrue => cases hp
        case isFalse hne =>
          rintro path' ⟨⟩
          exact ⟨textual_of_segments hp, segments_ne_nil hp hne⟩
  case isFalse =>
    split at h
    case isTrue =>
      split at h
      case isTrue => cases h
      case isFalse =>
        split at h
        case isTrue => cases h
        case isFalse =>
          obtain ⟨methods, -, rfl⟩ := Result.map_eq_ok.mp h
          exact hd
    case isFalse =>
      split at h
      case isTrue =>
        split at h
        case isTrue => cases h
        case isFalse =>
          split at h
          case h_1 => cases h
          case h_2 =>
            split at h
            case isTrue => cases h
            case isFalse => cases h; exact hd
      case isFalse => cases h

/-- Nor do any number of calls. -/
theorem Draft.Sound.applyAll {d d' : Draft} (hd : d.Sound) {ts : List Token}
    (h : d.applyAll ts = .ok d') : d'.Sound := by
  fun_induction Draft.applyAll d ts
  case case1 => cases h
  case case2 => cases h
  case case3 => cases h; exact hd.apply ‹_›
  case case4 ih => exact ih (hd.apply ‹_›) h
  case case5 => cases h

/-- The path of an expression is made of whole characters, and there is something of it. -/
theorem textual_of_parse {s : String} {p : Pattern} (h : Pattern.parse s = .ok p) :
    Textual p.path ∧ p.path ≠ [] := by
  unfold Pattern.parse at h
  split at h
  case h_1 => cases h
  case h_2 ts _ =>
    split at h
    case h_1 => cases h
    case h_2 d hd =>
      have hsound : d.Sound := Draft.Sound.applyAll (by rintro path ⟨⟩) hd
      unfold Draft.pattern at h
      split at h
      case h_1 => cases h
      case h_2 path hpath => cases h; exact hsound path hpath

/-- A character that is no bracket is taken over byte by byte. -/
theorem segments_char {o : Nat} {c : Char} (h : c ≠ '<') (h' : c ≠ '>') (r : List Char) :
    segments o (c :: r) =
      (segments (o + c.utf8Size) r).map ((String.utf8EncodeChar c).map .byte ++ ·) := by
  rw [segments.eq_def]
  simp only [if_neg h, if_neg h']

/-- What stands between two brackets is a name. -/
theorem segments_param {o : Nat} {r r' : List Char} {name : String}
    (hr : r.dropWhile (!endsParameter ·) = '>' :: r')
    (hname : parameterName o (r.takeWhile (!endsParameter ·)) = .ok name) :
    segments o ('<' :: r) =
      (segments (o + 2 + byteLength (r.takeWhile (!endsParameter ·))) r').map
        (.param name :: ·) := by
  rw [segments.eq_def]
  simp only [if_pos]
  split
  case h_1 r'' h =>
    rw [hr] at h
    cases h
    rw [hname]
  case h_2 h => exact absurd hr (h r')

/-! ## A single call -/

/-- An expression may be a single call of `Path`. -/
theorem parse_of_path {s text : String} {path : List Segment}
    (hs : tokens s = .ok [.ident "Path", .openParen, .text text, .closeParen])
    (hp : pathSegments text = .ok path) : Pattern.parse s = .ok ⟨none, none, path⟩ := by
  have hcall : readCall [.ident "Path", .openParen, .text text, .closeParen] =
      .ok (⟨"Path", [text]⟩, []) := rfl
  have happly : ({} : Draft).apply ⟨"Path", [text]⟩ = .ok { path := some path } := by
    simp [Draft.apply, oneArgument, hp, Except.map]
  -- the call is the last one, so nothing is read after it
  have hall : ({} : Draft).applyAll [.ident "Path", .openParen, .text text, .closeParen] =
      .ok { path := some path } := by
    rw [Draft.applyAll]
    split
    case h_1 e h => rw [hcall] at h; cases h
    case h_2 c r h =>
      rw [hcall] at h
      cases h
      rw [happly]
  rw [Pattern.parse, hs]
  dsimp only
  rw [hall]
  rfl

/-- A raw string ends at the first backtick. -/
theorem scanRaw_append (start o : Nat) {cs : List Char} (h : '\x60' ∉ cs) (r : List Char) :
    ∃ o', scanRaw start o (cs ++ '\x60' :: r) = .ok ⟨cs, o', r⟩ := by
  induction cs generalizing o with
  | nil => exact ⟨o + 1, by rw [List.nil_append, scanRaw, if_pos rfl]⟩
  | cons c cs ih =>
    rw [List.mem_cons, not_or] at h
    obtain ⟨o', ho⟩ := ih (o + c.utf8Size) h.2
    refine ⟨o', ?_⟩
    rw [List.cons_append, scanRaw, if_neg (Ne.symm h.1), ho]
    rfl

/-- A backtick opens a raw string. -/
theorem scan_backtick {o o' : Nat} {s r cs : List Char}
    (h : scanRaw o (o + 1) s = .ok ⟨cs, o', r⟩) :
    scan o ('\x60' :: s) = (scan o' r).map (.text (String.ofList cs) :: ·) := by
  have hblank : isBlank '\x60' = false := by decide
  rw [scan.eq_def]
  simp only [hblank, Bool.false_eq_true, if_false, if_true, Char.reduceEq]
  split
  case h_1 e he => rw [h] at he; cases he
  case h_2 l hl =>
    rw [h] at hl
    cases hl
    rfl

/-- The raw string and the bracket that closes the call are two tokens. -/
theorem scan_raw (o : Nat) {cs : List Char} (h : '\x60' ∉ cs) :
    scan o ('\x60' :: (cs ++ ['\x60', ')'])) = .ok [.text (String.ofList cs), .closeParen] := by
  obtain ⟨o', ho⟩ := scanRaw_append o (o + 1) h [')']
  have hclose : scan o' [')'] = .ok [.closeParen] := by
    rw [scan.eq_def]
    simp [isBlank, blankRuns, scan, Except.map]
  rw [scan_backtick ho, hclose]
  rfl

/-- The tokens of a call of `Path` with a raw string. -/
theorem tokens_path {s : String} {cs : List Char}
    (hs : s.toList = "Path(`".toList ++ (cs ++ ['\x60', ')'])) (h : '\x60' ∉ cs) :
    tokens s = .ok [.ident "Path", .openParen, .text (String.ofList cs), .closeParen] := by
  have hpath : "Path(`".toList = ['P', 'a', 't', 'h', '(', '\x60'] := rfl
  have hblank : isBlank 'P' = false ∧ isBlank '(' = false := by decide
  have hstart : isIdentStart 'P' = true := by decide
  -- the name ends where the bracket opens, whatever follows
  have htake (r : List Char) : ('a' :: 't' :: 'h' :: '(' :: r).takeWhile isIdentPart =
      ['a', 't', 'h'] := rfl
  have hdrop (r : List Char) : ('a' :: 't' :: 'h' :: '(' :: r).dropWhile isIdentPart =
      '(' :: r := rfl
  rw [tokens, hs, hpath]
  simp only [List.cons_append, List.nil_append]
  rw [scan.eq_def]
  simp only [hblank.1, hstart, Bool.false_eq_true, if_false, if_true, Char.reduceEq]
  rw [htake, hdrop, scan.eq_def]
  simp only [hblank.2, Bool.false_eq_true, if_false, if_true]
  rw [scan_raw _ h]
  rfl

/-- What stands between backticks is read as it stands. -/
theorem parse_path {s : String} (cs : List Char) {path : List Segment}
    (hs : s.toList = "Path(`".toList ++ (cs ++ ['\x60', ')'])) (h : '\x60' ∉ cs) (hne : cs ≠ [])
    (hp : segments 0 cs = .ok path) : Pattern.parse s = .ok ⟨none, none, path⟩ := by
  refine parse_of_path (tokens_path hs h) ?_
  rw [pathSegments, String.toList_ofList, if_neg hne, hp]

end Turnpike.Route
