/-
  A pattern is read back from its canonical form.

  Canonical forms are written by the router and shown to people.  They look like expressions, and
  one may want to use them as such.  Here it is shown that this works: the canonical form of a
  pattern compiles back to the pattern, if there is nothing in it that is written in another way
  than it is read.

  1. **What could go wrong.**  Quoted text has escapes that the literals of an expression do not
     know.  Printable ASCII, line feeds and tabs are spelled alike in both (`Quotes.escaped`), so
     texts of these characters are read back (`written_quote`).  And a path is written without
     escapes: bytes outside of ASCII come out as other characters, and a name with a colon would be
     taken for one behind a kind.  A pattern in which none of this occurs is `Printable`.

  2. **Calls** (`Pattern.calls`).  The canonical form is the text of a conjunction of calls with
     quoted arguments (`toList_canonical_eq`), and from such a text the calls are read
     (`reads_of_writable`).  That uses the grammar and not the compiler: the tokens are derived from
     the calls and written as they stand.

  3. **What they state** (`states_calls`).  The calls of a pattern state the pattern.  It must be
     one that some expression states, since there are patterns that none does, with an empty path or
     a host in capitals.

  4. **Outcome** (`parse_canonical`).  Reading what has been written gives back what was written.
-/
import Turnpike.Proofs.Route.Canonical
import Turnpike.Proofs.Text.Letters

namespace Turnpike.Route

open Turnpike.Text Turnpike.Http

/-! ## Quoted text as a literal -/

/-- A printable character of ASCII, a line feed or a tab. -/
def Printable (c : Char) : Prop := c = '\n' ∨ c = '\t' ∨ 32 ≤ c.toNat ∧ c.toNat ≤ 126

instance : DecidablePred Printable := fun c =>
  inferInstanceAs (Decidable (c = '\n' ∨ c = '\t' ∨ 32 ≤ c.toNat ∧ c.toNat ≤ 126))

/-- A text of such characters. -/
def PrintableText (s : List Char) : Prop := ∀ c ∈ s, Printable c

-- the characters of the text are gone through, not all that there are
instance (s : List Char) : Decidable (PrintableText s) := List.decidableBAll Printable s

/-- A printable character is quoted as a literal spells it. -/
theorem Quotes.escaped {c : Char} (hc : Printable c) {w v : List Char} (h : Quotes w v) :
    Quotes (Quoted.escape c ++ w) (c :: v) := by
  rcases hc with rfl | rfl | ⟨hlow, hhigh⟩
  · show Quotes ('\\' :: 'n' :: w) _
    exact .escape (by decide) h
  · show Quotes ('\\' :: 't' :: w) _
    exact .escape (by decide) h
  · by_cases hback : c = '\\'
    · subst hback
      show Quotes ('\\' :: '\\' :: w) _
      exact .escape (by decide) h
    by_cases hquote : c = '\x22'
    · subst hquote
      show Quotes ('\\' :: '\x22' :: w) _
      exact .escape (by decide) h
    have hne : ∀ d : Char, d.toNat < 32 → c ≠ d := by
      rintro d hd rfl
      omega
    have hshown : isShown c = true := isShown_of_ascii hlow (by omega)
    rw [Quoted.escape, if_neg (hne '\x00' (by decide)), if_neg (hne '\t' (by decide)),
      if_neg (hne '\n' (by decide)), if_neg (hne '\r' (by decide)), if_neg hback, if_neg hquote,
      if_pos hshown]
    exact .plain hquote hback h

/-- A text of printable characters is quoted as a literal spells it. -/
theorem quotes_body {v : List Char} (h : PrintableText v) : Quotes (Quoted.body v) v := by
  induction v with
  | nil => exact .nil
  | cons c v ih =>
    obtain ⟨hc, hv⟩ := List.forall_mem_cons.mp h
    exact (ih hv).escaped hc

/-- Quoted text is a literal of an expression. -/
theorem written_quote {v : String} (h : PrintableText v.toList) :
    (Token.text v).Written (Quoted.quote v.toList) := by
  have hwritten : (Token.text (String.ofList v.toList)).Written (Quoted.quote v.toList) :=
    .quoted (quotes_body h)
  rwa [String.ofList_toList] at hwritten

/-! ## The text of calls -/

/-- The text of a call, with its arguments quoted. -/
def Call.written (c : Call) : List Char :=
  c.name.toList ++
    '(' :: ([','].intercalate (c.arguments.map fun v => Quoted.quote v.toList) ++ [')'])

/-- A name is written as it stands. -/
theorem written_ident {name : String} (d : Char) (more : List Char)
    (hname : name.toList = d :: more) (hstart : isIdentStart d = true)
    (hmore : more.all isIdentPart = true) : (Token.ident name).Written name.toList := by
  have hwritten : (Token.ident (String.ofList (d :: more))).Written (d :: more) :=
    .ident hstart (List.all_eq_true.mp hmore)
  rwa [← hname, String.ofList_toList] at hwritten

/-- The call can be read back: its name is an identifier, and it has arguments, all printable. -/
structure Call.Writable (c : Call) : Prop where
  name : (Token.ident c.name).Written c.name.toList
  arguments : c.arguments ≠ []
  printable : ∀ v ∈ c.arguments, PrintableText v.toList

/-- Quoted arguments are read as they are, whatever follows. -/
theorem exists_arguments {vs : List String} (hne : vs ≠ [])
    (hvs : ∀ v ∈ vs, PrintableText v.toList) :
    ∃ ts, Arguments vs ts ∧ ∀ s us, Lexes s us →
      Lexes ([','].intercalate (vs.map fun v => Quoted.quote v.toList) ++ s) (ts ++ us) := by
  induction vs with
  | nil => exact absurd rfl hne
  | cons v vs ih =>
    obtain ⟨hv, hvs⟩ := List.forall_mem_cons.mp hvs
    cases vs with
    | nil =>
      refine ⟨_, .one, ?_⟩
      intro s us hs
      rw [List.map_singleton, List.intercalate_singleton]
      exact .token (written_quote hv) hs
    | cons v' vs =>
      obtain ⟨ts, hts, hlexes⟩ := ih (List.cons_ne_nil v' vs) hvs
      refine ⟨_, hts.more, ?_⟩
      intro s us hs
      rw [List.map_cons, List.map_cons, List.intercalate_cons_cons, List.append_assoc,
        List.append_assoc]
      exact .token (written_quote hv) (.token .comma (hlexes s us hs))

/-- The text of a call has the tokens that are derived from it. -/
theorem Call.Writable.exists_derives {c : Call} (h : c.Writable) :
    ∃ ts, c.Derives ts ∧ ∀ s us, Lexes s us → Lexes (c.written ++ s) (ts ++ us) := by
  obtain ⟨name, vs⟩ := c
  obtain ⟨ts, hts, hlexes⟩ := exists_arguments h.arguments h.printable
  refine ⟨_, .applied hts, ?_⟩
  intro s us hs
  have hclose : Lexes (')' :: s) (.closeParen :: us) := .token .closeParen hs
  rw [written, List.append_assoc, List.cons_append, List.append_assoc, List.singleton_append,
    List.cons_append, List.cons_append, List.append_assoc, List.singleton_append]
  exact .token h.name (.token .openParen (hlexes _ _ hclose))

/-- A conjunction of calls is read back from their text. -/
theorem reads_of_writable {s : String} {cs : List Call} (hne : cs ≠ [])
    (hcs : ∀ c ∈ cs, c.Writable)
    (hs : s.toList = [' ', '&', '&', ' '].intercalate (cs.map Call.written)) : Reads s cs := by
  unfold Reads
  rw [hs]
  clear hs
  induction cs with
  | nil => exact absurd rfl hne
  | cons c cs ih =>
    obtain ⟨hc, hcs⟩ := List.forall_mem_cons.mp hcs
    obtain ⟨ts, hts, hlexes⟩ := hc.exists_derives
    cases cs with
    | nil =>
      refine ⟨ts, ?_, .one hts⟩
      have hone := hlexes [] [] .nil
      rw [List.append_nil, List.append_nil] at hone
      rwa [List.map_singleton, List.intercalate_singleton]
    | cons c' cs =>
      obtain ⟨us, hus, hconj⟩ := ih (List.cons_ne_nil c' cs) hcs
      refine ⟨_, ?_, hconj.more hts⟩
      rw [List.map_cons, List.map_cons, List.intercalate_cons_cons, List.append_assoc]
      have hblank : isBlank ' ' = true := by decide
      have hand : Lexes (['&', '&'] ++ ' ' :: _) (.and :: us) := .token .and (.blank hblank hus)
      exact hlexes _ _ (.blank hblank hand)

/-! ## Printable patterns -/

/-- The segment is spelled with printable characters, and its name, if it has one, cannot be taken
    for one behind a kind. -/
def Segment.Printable : Segment → Prop
  | .byte b => Route.Printable (Char.ofNat b.toNat)
  | .param name => PrintableText name.toList ∧ ':' ∉ name.toList

instance : DecidablePred Segment.Printable
  | .byte b => inferInstanceAs (Decidable (Route.Printable (Char.ofNat b.toNat)))
  | .param name => inferInstanceAs (Decidable (PrintableText name.toList ∧ ':' ∉ name.toList))

/-- The path and the host are spelled with printable characters. -/
structure Pattern.Printable (p : Pattern) : Prop where
  path : ∀ g ∈ p.path, g.Printable
  host : ∀ h, p.host = some h → PrintableText h.toList

/-- The characters of methods are printable. -/
theorem printable_of_isTokenChar {c : Char} (h : isTokenChar c = true) : Printable c := by
  have hascii : PrintableText "!#$%&'*+-.^_\x60|~".toList := by decide
  rcases (Bool.or_eq_true _ _).mp h with halnum | hmark
  · have hpart : isIdentPart c = true := (Bool.or_eq_true _ _).mpr (.inl halnum)
    have hrange := isIdentPart_iff.mp hpart
    right; right
    omega
  · exact hascii c (List.contains_iff_mem.mp hmark)

/-- A character whose bytes are printable is one byte. -/
theorem exists_byte_of_printable {c : Char}
    (h : ∀ b ∈ String.utf8EncodeChar c, Printable (Char.ofNat b.toNat)) :
    ∃ b : UInt8, String.utf8EncodeChar c = [b] ∧ Char.ofNat b.toNat = c := by
  obtain ⟨b, bs, hbytes⟩ := List.exists_cons_of_ne_nil (String.utf8EncodeChar_ne_nil (c := c))
  have hmem : b ∈ String.utf8EncodeChar c := hbytes ▸ List.mem_cons_self
  -- printable characters are ASCII, and an ASCII byte is a character of its own
  have hb : b.toNat < 0x80 := by
    have hnat := toNat_ofNat_toNat b
    rcases h b hmem with heq | heq | ⟨-, hhigh⟩
    · rw [heq] at hnat
      rw [← hnat]
      decide
    · rw [heq] at hnat
      rw [← hnat]
      decide
    · omega
  have hc : c.toNat = b.toNat := (Utf8.ascii_mem_char_iff hb c).mp hmem
  refine ⟨UInt8.ofNat c.toNat, Utf8.char_bytes_of_ascii (by omega), ?_⟩
  rw [Utf8.toNat_byte (by omega), Char.ofNat_toNat]

/-- The text of a printable path is a path, and means what it is the text of. -/
theorem Denotes.of_printable {s : List Char} {path : List Segment} (h : Denotes s path)
    (hpath : ∀ g ∈ path, g.Printable) : Denotes (pathText path) path := by
  induction h with
  | nil => exact .nil
  | @char c s path hlt hgt _ ih =>
    obtain ⟨hbytes, hrest⟩ := List.forall_mem_append.mp hpath
    obtain ⟨b, hb, hc⟩ := exists_byte_of_printable fun b hb =>
      hbytes (.byte b) (List.mem_map_of_mem hb)
    have htext : pathText ((String.utf8EncodeChar c).map .byte ++ path) = c :: pathText path := by
      rw [hb, ← hc]
      rfl
    rw [htext]
    exact .char hlt hgt (ih hrest)
  | @param inner s name path hgt hslash hlt hnames hne _ ih =>
    obtain ⟨hname, hrest⟩ := List.forall_mem_cons.mp hpath
    have htext : pathText (.param name :: path) = '<' :: (name.toList ++ '>' :: pathText path) :=
      Segment.text_param_append name (pathText path)
    rw [htext]
    exact .param (hnames.not_mem hgt) (hnames.not_mem hslash) (hnames.not_mem hlt) (.plain hname.2)
      hne (ih hrest)

/-! ## The calls of a pattern -/

/-- The calls that state the parts of a pattern, in their fixed order. -/
def Pattern.calls (p : Pattern) : List Call :=
  (p.methods.map fun ms => ⟨"Method", ms.map (·.name)⟩).toList ++
    (p.host.map fun h => ⟨"Host", [h]⟩).toList ++ [⟨"Path", [String.ofList (pathText p.path)]⟩]

/-- A call of a pattern states one of its parts. -/
theorem mem_calls {p : Pattern} {c : Call} : c ∈ p.calls ↔
    (∃ ms, p.methods = some ms ∧ c = ⟨"Method", ms.map (·.name)⟩) ∨
      (∃ h, p.host = some h ∧ c = ⟨"Host", [h]⟩) ∨
        c = ⟨"Path", [String.ofList (pathText p.path)]⟩ := by
  unfold Pattern.calls
  rw [List.mem_append, List.mem_append, List.mem_singleton, Option.mem_toList, Option.mem_toList,
    Option.map_eq_some_iff, Option.map_eq_some_iff, or_assoc]
  simp only [eq_comm]

theorem Call.written_one (name v : String) : Call.written ⟨name, [v]⟩ =
    name.toList ++ '(' :: (Quoted.quote v.toList ++ [')']) := by
  unfold written
  rw [List.map_singleton, List.intercalate_singleton]

/-- The canonical form is the text of these calls. -/
theorem toList_canonical_eq (p : Pattern) :
    p.canonical.toList = [' ', '&', '&', ' '].intercalate (p.calls.map Call.written) := by
  obtain ⟨methods, host, path⟩ := p
  -- every part of the form is the text of one call, with a conjunction behind it or at the end
  have hpath : pathCall path = Call.written ⟨"Path", [String.ofList (pathText path)]⟩ := by
    rw [Call.written_one, @String.toList_ofList (pathText path)]
    rfl
  have hhost : ∀ h, (hostText h).toList =
      Call.written ⟨"Host", [h]⟩ ++ [' ', '&', '&', ' '] := by
    intro h
    have hname : "Host(".toList = "Host".toList ++ ['('] := rfl
    have hend : ") && ".toList = [')'] ++ [' ', '&', '&', ' '] := rfl
    rw [hostText, String.toList_append, String.toList_append, Quoted.toList_quoted,
      Call.written_one, hname, hend]
    simp only [List.append_assoc, List.cons_append, List.nil_append]
  have hmethods : ∀ ms : List Method, (methodsText ms).toList =
      Call.written ⟨"Method", ms.map (·.name)⟩ ++ [' ', '&', '&', ' '] := by
    intro ms
    have hname : "Method(".toList = "Method".toList ++ ['('] := rfl
    have hend : " && ".toList = [' ', '&', '&', ' '] := rfl
    rw [toList_methodsText, Call.written, hname, hend]
    simp only [List.map_map, Function.comp_def, List.append_assoc, List.cons_append,
      List.nil_append]
  rw [toList_canonical]
  simp only [hhost, hmethods]
  unfold Pattern.calls
  -- each of the calls in front is there or not
  cases methods with
  | none =>
    cases host with
    | none =>
      show pathCall path = [' ', '&', '&', ' '].intercalate [Call.written _]
      rw [List.intercalate_singleton, hpath]
    | some h =>
      show Call.written _ ++ _ ++ pathCall path =
        [' ', '&', '&', ' '].intercalate [Call.written _, Call.written _]
      rw [List.intercalate_cons_cons, List.intercalate_singleton, hpath]
  | some ms =>
    cases host with
    | none =>
      show Call.written _ ++ _ ++ pathCall path =
        [' ', '&', '&', ' '].intercalate [Call.written _, Call.written _]
      rw [List.intercalate_cons_cons, List.intercalate_singleton, hpath]
    | some h =>
      show Call.written _ ++ _ ++ (Call.written _ ++ _ ++ pathCall path) =
        [' ', '&', '&', ' '].intercalate [Call.written _, Call.written _, Call.written _]
      rw [List.intercalate_cons_cons, List.intercalate_cons_cons, List.intercalate_singleton, hpath]

/-- The calls of a printable pattern can be read back. -/
theorem writable_calls {p : Pattern} (hp : p.Printable)
    (hmethods : ∀ ms, p.methods = some ms → ms ≠ []) : ∀ c ∈ p.calls, c.Writable := by
  obtain ⟨methods, host, path⟩ := p
  have hsegments : PrintableText (pathText path) := by
    intro d hd
    obtain ⟨g, hg, hd⟩ := List.mem_flatMap.mp hd
    have hprintable := hp.path g hg
    cases g with
    | byte b =>
      rw [List.mem_singleton.mp hd]
      exact hprintable
    | param name =>
      rw [Segment.text, List.mem_append, List.mem_cons, List.mem_singleton] at hd
      rcases hd with (rfl | hd) | rfl
      · decide
      · exact hprintable.1 d hd
      · decide
  have hmethod : (Token.ident "Method").Written "Method".toList :=
    written_ident 'M' ['e', 't', 'h', 'o', 'd'] rfl (by decide) (by decide)
  have hhost : (Token.ident "Host").Written "Host".toList :=
    written_ident 'H' ['o', 's', 't'] rfl (by decide) (by decide)
  have hpath : (Token.ident "Path").Written "Path".toList :=
    written_ident 'P' ['a', 't', 'h'] rfl (by decide) (by decide)
  intro c hc
  rcases mem_calls.mp hc with ⟨ms, hms, rfl⟩ | ⟨h, hh, rfl⟩ | rfl
  · refine ⟨hmethod, ?_, ?_⟩
    · exact mt List.map_eq_nil_iff.mp (hmethods ms hms)
    · intro v hv d hd
      obtain ⟨m, -, rfl⟩ := List.mem_map.mp hv
      exact printable_of_isTokenChar (List.all_eq_true.mp m.token.2 d hd)
  · refine ⟨hhost, List.cons_ne_nil _ _, ?_⟩
    intro v hv d hd
    rw [List.mem_singleton.mp hv] at hd
    exact hp.host h hh d hd
  · refine ⟨hpath, List.cons_ne_nil _ _, ?_⟩
    intro v hv d hd
    rw [List.mem_singleton.mp hv, String.toList_ofList] at hd
    exact hsegments d hd

/-- What the calls of a pattern state is the pattern, if an expression states it. -/
theorem states_calls {p : Pattern} {cs : List Call} (hp : p.Printable)
    (h : States cs ⟨p.methods, p.host, some p.path⟩) :
    States p.calls ⟨p.methods, p.host, some p.path⟩ := by
  obtain ⟨methods, host, path⟩ := p
  obtain ⟨-, ⟨vs, -, v, -, hv, hdenotes⟩, hmethods, hhost⟩ := h
  have hpath : SaysPath [String.ofList (pathText path)] path := by
    have hprinted := hdenotes.of_printable hp.path
    refine ⟨_, rfl, ?_, ?_⟩
    · intro hnil
      rw [String.toList_ofList] at hnil
      rw [hnil] at hprinted
      cases hprinted
      exact segments_ne_nil (hdenotes.segments 0) hv rfl
    · rwa [String.toList_ofList]
  have hmethods' : ∀ ms, methods = some ms → SaysMethods (ms.map (·.name)) ms := by
    rintro ms rfl
    obtain ⟨vs, -, hne, -, hnames⟩ := hmethods
    refine ⟨?_, ?_, ?_⟩
    · rw [hnames]
      exact mt List.map_eq_nil_iff.mp hne
    · intro v hv
      obtain ⟨m, -, rfl⟩ := List.mem_map.mp hv
      exact m.token
    · -- the names are in capitals already
      rw [hnames, List.map_map]
      exact List.map_congr_left fun v _ => (upperAscii_upperAscii v).symm
  have hhost' : ∀ h, host = some h → SaysHost [h] h := by
    rintro h rfl
    obtain ⟨vs, -, v, -, hne, rfl⟩ := hhost
    refine ⟨_, rfl, ?_, (lowerAscii_lowerAscii v).symm⟩
    rw [toList_lowerAscii]
    exact mt List.map_eq_nil_iff.mp hne
  have hknown : ∀ c ∈ Pattern.calls ⟨methods, host, path⟩,
      c.name ∈ ["Path", "Method", "Host"] := by
    intro c hc
    rcases mem_calls.mp hc with ⟨ms, -, rfl⟩ | ⟨h, -, rfl⟩ | rfl
    · exact List.mem_cons_of_mem _ List.mem_cons_self
    · exact List.mem_cons_of_mem _ (List.mem_cons_of_mem _ List.mem_cons_self)
    · exact List.mem_cons_self
  -- for the rest it is plain which calls there are
  refine ⟨hknown, ⟨_, ?_, hpath⟩, ?_, ?_⟩
  · cases methods <;> cases host <;> rfl
  · cases methods with
    | none => cases host <;> rfl
    | some ms => exact ⟨_, by cases host <;> rfl, hmethods' ms rfl⟩
  · cases host with
    | none => cases methods <;> rfl
    | some h => exact ⟨_, by cases methods <;> rfl, hhost' h rfl⟩

/-- The canonical form of a printable pattern compiles back to it. -/
theorem parse_canonical {s : String} {p : Pattern} (h : Pattern.parse s = .ok p)
    (hp : p.Printable) : Pattern.parse p.canonical = .ok p := by
  obtain ⟨cs, hcs⟩ := reads_of_parse h
  have hstates := hcs.parse_eq_ok_iff.mp h
  have hreads : Reads p.canonical p.calls :=
    reads_of_writable (List.append_ne_nil_of_right_ne_nil _ (List.cons_ne_nil _ _))
      (writable_calls hp fun _ => hstates.methods_ne_nil) (toList_canonical_eq p)
  exact hreads.parse_eq_ok_iff.mpr (states_calls hp hstates)

/-- A pattern with quotes, backslashes, blanks and conjunctions in its parts. -/
def marked : Pattern where
  methods := some [⟨"X-Y", by decide⟩]
  host := some "a\"&&b"
  path := [.byte 47, .byte 32, .byte 96, .byte 10, .param "\"n\\ &&m", .byte 92, .byte 9]

/-- An expression for it, with its calls in another order. -/
def markedText : String :=
  "Path(\"/ `\\n<string:\\\"n\\\\ &&m>\\\\\\t\") && Host(\"A\\\"&&B\") && Method(`x-y`)"

/-- It compiles to this pattern, and is read back from its canonical form. -/
theorem parse_canonical_marked :
    Pattern.parse markedText = .ok marked ∧ marked.Printable ∧
      Pattern.parse marked.canonical = .ok marked := by
  have hparse : Pattern.parse markedText = .ok marked := by decide +kernel
  have hprintable : marked.Printable := by
    refine ⟨by decide, ?_⟩
    rintro h ⟨⟩
    decide
  exact ⟨hparse, hprintable, parse_canonical hparse hprintable⟩

end Turnpike.Route
