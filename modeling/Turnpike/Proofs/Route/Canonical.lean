/-
  Canonical forms tell patterns apart.

  A router keeps, refuses and removes routes by the canonical forms of their patterns.  If two
  patterns had one form, a route could be refused because of another one, or another one be removed
  in its place.  That this does not happen is shown here, for all patterns that expressions compile
  to.

  1. **What could go wrong.**  In the canonical form the conditions stand in a fixed order, each
     quoted, and the path is written with its parameters in angle brackets.  Quoting can be undone.
     But a path is written without any escapes: a literal byte that is an opening bracket, or a name
     that holds a closing one, would look like a parameter.

  2. **Clear segments** (`Segment.Clear`).  In a path that comes from an expression neither occurs,
     since the reader of paths takes every opening bracket for the start of a parameter and the next
     closing one for its end (`clear_of_parse`).

  3. **Taking a form apart.**  All lemmas on the way have one shape: when two texts with something
     behind them are the same, the texts are the same, and so is what is behind them
     (`Segment.text_append_inj`, `quotes_append_inj`, `methodsText_append_inj`,
     `hostText_append_inj`).  So they can be used one after the other, from the left to the right.
     A condition that may be absent needs in addition that it does not start as what comes after it
     does (`optional_append_inj`).

  4. **Patterns** (`canonical_inj`).  Patterns with clear paths have the same form only when they
     are the same.

  5. **Routers** (`canonical_eq_iff`).  All rows of a router have come from expressions, whatever
     calls made it.  So every call means the row of its pattern, and no other one.
-/
import Turnpike.Proofs.Route.Grammar
import Turnpike.Proofs.Route.Rows
import Turnpike.Proofs.Text.Quoted

namespace Turnpike.Route

open Turnpike.Text Turnpike.Http

/-! ## Paths -/

/-- The segment can be told from others by its text: its brackets are the only ones. -/
def Segment.Clear : Segment → Prop
  | .byte b => b.toNat ≠ 60
  | .param name => '>' ∉ name.toList

/-- What does not occur between the brackets does not occur in the name that stands there. -/
theorem Names.not_mem {c : Char} {inner name : List Char} (h : Names inner name) (hc : c ∉ inner) :
    c ∉ name := by
  cases h with
  | plain => exact hc
  | string => exact fun hmem => hc (List.mem_append_right _ hmem)

/-- A path that a text denotes has clear segments. -/
theorem Denotes.clear {s : List Char} {path : List Segment} (h : Denotes s path) :
    ∀ g ∈ path, g.Clear := by
  induction h with
  | nil => exact nofun
  | @char c s path hlt _ _ ih =>
    intro g hg
    rcases List.mem_append.mp hg with hg | hg
    · obtain ⟨b, hb, rfl⟩ := List.mem_map.mp hg
      intro heq
      -- an ASCII byte occurs only in the character that it is
      have hc : c.toNat = b.toNat := (Utf8.ascii_mem_char_iff (by omega) c).mp hb
      exact hlt (Char.toNat_inj.mp (hc.trans heq))
    · exact ih g hg
  | @param inner s name path hgt _ _ hnames _ _ ih =>
    intro g hg
    rcases List.mem_cons.mp hg with rfl | hg
    · exact hnames.not_mem hgt
    · exact ih g hg

/-- The segments of an expression are clear. -/
theorem clear_of_parse {s : String} {p : Pattern} (h : Pattern.parse s = .ok p) :
    ∀ g ∈ p.path, g.Clear := by
  obtain ⟨cs, hcs⟩ := reads_of_parse h
  obtain ⟨vs, -, v, -, -, hpath⟩ := (hcs.parse_eq_ok_iff.mp h).path
  exact hpath.clear

/-- Every byte is the number of a character. -/
theorem toNat_ofNat_toNat (b : UInt8) : (Char.ofNat b.toNat).toNat = b.toNat := by
  have hlt : b.toNat < 256 := b.toNat_lt
  have hvalid : b.toNat.isValidChar := .inl (by omega)
  unfold Char.ofNat
  rw [dif_pos hvalid]
  rfl

theorem Segment.text_byte_append (b : UInt8) (r : List Char) :
    (Segment.byte b).text ++ r = Char.ofNat b.toNat :: r := rfl

theorem Segment.text_param_append (name : String) (r : List Char) :
    (Segment.param name).text ++ r = '<' :: (name.toList ++ '>' :: r) := by
  rw [text, List.append_assoc, List.cons_append, List.singleton_append]

/-- The text of a clear segment can be told, whatever comes behind it. -/
theorem Segment.text_append_inj {g g' : Segment} (hg : g.Clear) (hg' : g'.Clear)
    {r r' : List Char} (h : g.text ++ r = g'.text ++ r') : g = g' ∧ r = r' := by
  have hopen : ∀ b : UInt8, b.toNat ≠ 60 → Char.ofNat b.toNat ≠ '<' := by
    intro b hb heq
    exact hb (by rw [← toNat_ofNat_toNat, heq]; rfl)
  -- a byte and a parameter differ in the first character, and two parameters are told by where the
  -- bracket closes
  cases g with
  | byte b =>
    rw [text_byte_append] at h
    cases g' with
    | byte b' =>
      rw [text_byte_append] at h
      obtain ⟨hfirst, hrest⟩ := List.cons.inj h
      have hb := congrArg Char.toNat hfirst
      rw [toNat_ofNat_toNat, toNat_ofNat_toNat, UInt8.toNat_inj] at hb
      exact ⟨congrArg Segment.byte hb, hrest⟩
    | param name' =>
      rw [text_param_append] at h
      exact absurd (List.cons.inj h).1 (hopen b hg)
  | param name =>
    rw [text_param_append] at h
    cases g' with
    | byte b' =>
      rw [text_byte_append] at h
      exact absurd (List.cons.inj h).1.symm (hopen b' hg')
    | param name' =>
      rw [text_param_append] at h
      obtain ⟨hname, hrest⟩ := append_cons_inj hg hg' (List.cons.inj h).2
      exact ⟨congrArg Segment.param (String.toList_inj.mp hname), hrest⟩

/-- A path of clear segments can be told by its text. -/
theorem pathText_inj {p q : List Segment} (hp : ∀ g ∈ p, g.Clear) (hq : ∀ g ∈ q, g.Clear)
    (h : pathText p = pathText q) : p = q := by
  induction p generalizing q with
  | nil =>
    cases q with
    | nil => rfl
    | cons g q => cases g <;> cases h
  | cons g p ih =>
    cases q with
    | nil => cases g <;> cases h
    | cons g' q =>
      obtain ⟨hg, hclear⟩ := List.forall_mem_cons.mp hp
      obtain ⟨hg', hclear'⟩ := List.forall_mem_cons.mp hq
      obtain ⟨rfl, hrest⟩ := Segment.text_append_inj hg hg'
        (show g.text ++ pathText p = g'.text ++ pathText q from h)
      rw [ih hclear hclear' hrest]

/-! ## Conditions -/

/-- Separators stand before all texts but the first. -/
theorem intercalate_cons (sep q : List Char) (qs : List (List Char)) :
    sep.intercalate (q :: qs) = q ++ qs.flatMap (sep ++ ·) := by
  induction qs generalizing q with
  | nil => rw [List.intercalate_singleton, List.flatMap_nil, List.append_nil]
  | cons q' qs ih =>
    rw [List.intercalate_cons_cons, ih, List.flatMap_cons, List.append_assoc, List.append_assoc]

/-- The texts behind the first one of an argument list, up to the closing bracket, can be told. -/
theorem tails_append_inj {vs ws : List (List Char)} {r r' : List Char}
    (h : vs.flatMap (',' :: Quoted.quote ·) ++ ')' :: r =
      ws.flatMap (',' :: Quoted.quote ·) ++ ')' :: r') : vs = ws ∧ r = r' := by
  induction vs generalizing ws with
  | nil =>
    cases ws with
    | nil => exact ⟨rfl, (List.cons.inj h).2⟩
    | cons w ws => cases (List.cons.inj h).1
  | cons v vs ih =>
    cases ws with
    | nil => cases (List.cons.inj h).1
    | cons w ws =>
      rw [List.flatMap_cons, List.flatMap_cons, List.append_assoc, List.append_assoc] at h
      obtain ⟨rfl, hrest⟩ := Quoted.quote_append_inj (List.cons.inj h).2
      obtain ⟨rfl, hr⟩ := ih hrest
      exact ⟨rfl, hr⟩

/-- The texts of an argument list, up to the closing bracket, can be told. -/
theorem quotes_append_inj {vs ws : List (List Char)} {r r' : List Char}
    (h : [','].intercalate (vs.map Quoted.quote) ++ ')' :: r =
      [','].intercalate (ws.map Quoted.quote) ++ ')' :: r') : vs = ws ∧ r = r' := by
  have hcons : ∀ v vs, [','].intercalate ((v :: vs).map Quoted.quote) =
      Quoted.quote v ++ vs.flatMap (',' :: Quoted.quote ·) := by
    intro v vs
    rw [List.map_cons, intercalate_cons, List.flatMap_map]
    rfl
  -- only the first argument has no comma before it
  cases vs with
  | nil =>
    cases ws with
    | nil => exact ⟨rfl, (List.cons.inj h).2⟩
    | cons w ws =>
      rw [hcons] at h
      cases (List.cons.inj h).1
  | cons v vs =>
    rw [hcons] at h
    cases ws with
    | nil => cases (List.cons.inj h).1
    | cons w ws =>
      rw [hcons, List.append_assoc, List.append_assoc] at h
      obtain ⟨rfl, hrest⟩ := Quoted.quote_append_inj h
      obtain ⟨rfl, hr⟩ := tails_append_inj hrest
      exact ⟨rfl, hr⟩

/-- The condition on methods, taken apart. -/
theorem toList_methodsText (ms : List Method) : (methodsText ms).toList =
    "Method(".toList ++ ([','].intercalate ((ms.map (·.name.toList)).map Quoted.quote) ++
      ')' :: " && ".toList) := by
  have hquotes : (ms.map fun m => Quoted.quoted m.name).map String.toList =
      (ms.map (·.name.toList)).map Quoted.quote := by
    rw [List.map_map, List.map_map]
    exact List.map_congr_left fun m _ => Quoted.toList_quoted m.name
  rw [methodsText, String.toList_append, String.toList_append, String.toList_intercalate, hquotes,
    List.append_assoc]
  rfl

/-- The text of a condition on methods can be told. -/
theorem methodsText_append_inj {ms ms' : List Method} {r r' : List Char}
    (h : (methodsText ms).toList ++ r = (methodsText ms').toList ++ r') : ms = ms' ∧ r = r' := by
  have hname : Function.Injective fun m : Method => m.name.toList := by
    rintro ⟨a, _⟩ ⟨b, _⟩ hab
    cases String.toList_inj.mp hab
    rfl
  rw [toList_methodsText, toList_methodsText, List.append_assoc, List.append_assoc,
    List.append_assoc, List.append_assoc] at h
  obtain ⟨hnames, hrest⟩ := quotes_append_inj (List.append_cancel_left h)
  exact ⟨List.map_injective_iff.mpr hname hnames, List.append_cancel_left hrest⟩

/-- So can that of a condition on the host. -/
theorem hostText_append_inj {host host' : String} {r r' : List Char}
    (h : (hostText host).toList ++ r = (hostText host').toList ++ r') : host = host' ∧ r = r' := by
  have htext : ∀ host : String, (hostText host).toList =
      "Host(".toList ++ (Quoted.quote host.toList ++ ") && ".toList) := by
    intro host
    rw [hostText, String.toList_append, String.toList_append, Quoted.toList_quoted,
      List.append_assoc]
  rw [htext, htext, List.append_assoc, List.append_assoc, List.append_assoc, List.append_assoc] at h
  obtain ⟨hhost, hrest⟩ := Quoted.quote_append_inj (List.append_cancel_left h)
  exact ⟨String.toList_inj.mp hhost, List.append_cancel_left hrest⟩

/-- A text that may be absent can be told, if it starts as nothing behind it does. -/
theorem optional_append_inj {β : Type} {text : β → List Char} {c : Char}
    (hstart : ∀ b, (text b).head? = some c)
    (hinj : ∀ b b' r r', text b ++ r = text b' ++ r' → b = b' ∧ r = r') {o o' : Option β}
    {r r' : List Char} (hr : r.head? ≠ some c) (hr' : r'.head? ≠ some c)
    (h : (o.map text).getD [] ++ r = (o'.map text).getD [] ++ r') : o = o' ∧ r = r' := by
  have hhead : ∀ b s, (text b ++ s).head? = some c := by
    intro b s
    rw [List.head?_append, hstart]
    rfl
  cases o with
  | none =>
    cases o' with
    | none => exact ⟨rfl, h⟩
    | some b' => exact absurd ((congrArg List.head? h).trans (hhead b' r')) hr
  | some b =>
    cases o' with
    | none => exact absurd ((congrArg List.head? h).symm.trans (hhead b r)) hr'
    | some b' =>
      obtain ⟨rfl, hrest⟩ := hinj b b' r r' h
      exact ⟨rfl, hrest⟩

/-! ## Canonical forms -/

/-- The call that states the path, which stands last. -/
def pathCall (path : List Segment) : List Char :=
  "Path(".toList ++ (Quoted.quote (pathText path) ++ [')'])

/-- A canonical form is made of three texts, and the first two may be absent. -/
theorem toList_canonical (p : Pattern) : p.canonical.toList =
    (p.methods.map fun ms => (methodsText ms).toList).getD [] ++
      ((p.host.map fun h => (hostText h).toList).getD [] ++ pathCall p.path) := by
  have hoptional : ∀ {β : Type} (text : β → String) (o : Option β),
      ((o.map text).getD "").toList = (o.map fun b => (text b).toList).getD [] := by
    intro β text o
    cases o <;> rfl
  have hquote : (String.ofList (Quoted.quote (pathText p.path))).toList =
      Quoted.quote (pathText p.path) := String.toList_ofList
  rw [Pattern.canonical, String.toList_append, String.toList_append, String.toList_append,
    String.toList_append, hoptional, hoptional, hquote, List.append_assoc, List.append_assoc,
    List.append_assoc]
  rfl

/-- Patterns of expressions have the same canonical form only when they are the same. -/
theorem canonical_inj {p q : Pattern} (hp : ∀ g ∈ p.path, g.Clear) (hq : ∀ g ∈ q.path, g.Clear)
    (h : p.canonical = q.canonical) : p = q := by
  have htext := congrArg String.toList h
  rw [toList_canonical, toList_canonical] at htext
  -- no two of the calls start alike
  have hmethods : ∀ ms, (methodsText ms).toList.head? = some 'M' := by
    intro ms
    rw [toList_methodsText]
    rfl
  have hhosts : ∀ host, (hostText host).toList.head? = some 'H' := by
    intro host
    rw [hostText, String.toList_append, String.toList_append]
    rfl
  have hpath : ∀ path, (pathCall path).head? = some 'P' := fun _ => rfl
  have hbehind : ∀ host path,
      ((Option.map (fun h => (hostText h).toList) host).getD [] ++ pathCall path).head? ≠
        some 'M' := by
    intro host path heq
    cases host with
    | none => cases heq
    | some host =>
      have hhead : ((hostText host).toList ++ pathCall path).head? = some 'M' := heq
      rw [List.head?_append, hhosts] at hhead
      cases hhead
  obtain ⟨hm, hrest⟩ := optional_append_inj hmethods (fun _ _ _ _ => methodsText_append_inj)
    (hbehind _ _) (hbehind _ _) htext
  obtain ⟨hh, hcall⟩ := optional_append_inj hhosts (fun _ _ _ _ => hostText_append_inj)
    (by rw [hpath]; decide) (by rw [hpath]; decide) hrest
  obtain ⟨hquote, -⟩ := Quoted.quote_append_inj (List.append_cancel_left hcall)
  obtain ⟨methods, host, path⟩ := p
  obtain ⟨methods', host', path'⟩ := q
  cases hm
  cases hh
  cases pathText_inj hp hq hquote
  rfl

/-! ## Routers -/

namespace Router

variable {α : Type} {rows : Rows α} {s t : String} {p q : Pattern}

section

variable (hparsed : ∀ row ∈ rows, ∃ s, Pattern.parse s = .ok row.pattern)
include hparsed

/-- A row has the key of a pattern when it has the pattern. -/
theorem key_eq_canonical_iff (hp : Pattern.parse s = .ok p) {row : Row α} (hrow : row ∈ rows) :
    row.key = p.canonical ↔ row.pattern = p := by
  obtain ⟨s', hs'⟩ := hparsed row hrow
  refine ⟨canonical_inj (clear_of_parse hs') (clear_of_parse hp), ?_⟩
  rintro rfl
  rfl

theorem namedBy_eq (hp : Pattern.parse s = .ok p) {row : Row α} (hrow : row ∈ rows) :
    Row.namedBy s row = decide (row.pattern = p) := by
  rw [Bool.eq_iff_iff, decide_eq_true_iff, namedBy_iff hp]
  exact key_eq_canonical_iff hparsed hp hrow

/-- A route is refused only for the row of its own pattern. -/
theorem add_ofRows_iff (hp : Pattern.parse s = .ok p) (target : α) :
    (∃ r, (ofRows rows).add s target = .ok r) ↔ ∀ row ∈ rows, row.pattern ≠ p := by
  constructor
  · rintro ⟨r, hr⟩ row hrow heq
    obtain ⟨p', hp', hfree, -⟩ := add_eq_ok.mp hr
    cases hp.symm.trans hp'
    exact hfree row.entry (List.mem_map_of_mem hrow)
      ((key_eq_canonical_iff hparsed hp hrow).mpr heq)
  · intro hfree
    refine ⟨_, add_eq_ok.mpr ⟨p, hp, fun e he hkey => ?_, rfl⟩⟩
    obtain ⟨row, hrow, rfl⟩ := List.mem_map.mp he
    exact hfree row hrow ((key_eq_canonical_iff hparsed hp hrow).mp hkey)

/-- Removal strikes out the row of the pattern. -/
theorem rows_remove (hkeys : (rows.map Row.key).Nodup) (hp : Pattern.parse s = .ok p) :
    ((ofRows rows).edit (.remove s)).rows = rows.filter fun row => decide (row.pattern ≠ p) := by
  rw [(call_remove hkeys s).2, rows_ofRows]
  refine List.filter_congr fun row hrow => ?_
  rw [namedBy_eq hparsed hp hrow, decide_not]

/-- A pattern is taken when a row has it, and not the row that is to be replaced. -/
theorem taken_iff_pattern (hp : Pattern.parse s = .ok p) (hq : Pattern.parse t = .ok q) :
    (∃ row ∈ rows, row.key = q.canonical ∧ Row.namedBy s row = false) ↔
      q ≠ p ∧ ∃ row ∈ rows, row.pattern = q := by
  constructor
  · rintro ⟨row, hrow, hkey, hnamed⟩
    rw [namedBy_eq hparsed hp hrow, decide_eq_false_iff_not] at hnamed
    have hpattern := (key_eq_canonical_iff hparsed hq hrow).mp hkey
    exact ⟨hpattern ▸ hnamed, row, hrow, hpattern⟩
  · rintro ⟨hne, row, hrow, rfl⟩
    refine ⟨row, hrow, rfl, ?_⟩
    rw [namedBy_eq hparsed hp hrow, decide_eq_false_iff_not]
    exact hne

/-- A replacement is refused only for the row of the new pattern, and writes over the row of the
    old one. -/
theorem replace_ofRows (hkeys : (rows.map Row.key).Nodup) (hp : Pattern.parse s = .ok p)
    (hq : Pattern.parse t = .ok q) (target : α) :
    ((∃ r, (ofRows rows).replace s t target = .ok r) ↔ q = p ∨ ∀ row ∈ rows, row.pattern ≠ q) ∧
    ∀ r, (ofRows rows).replace s t target = .ok r → r.rows =
      if ∃ row ∈ rows, row.pattern = p then
        rows.map fun row => if row.pattern = p then ⟨q, target⟩ else row
      else rows ++ [⟨q, target⟩] := by
  have htaken := taken_iff_pattern hparsed hp hq
  obtain ⟨hanswer, hedit⟩ := call_replace hkeys s t target
  rw [answer, Rows.call, hq] at hanswer
  rw [edit, Rows.call, hq] at hedit
  dsimp only at hanswer hedit
  -- it is refused, or it writes over a row, or it adds one
  by_cases hrow : ∃ row ∈ rows, row.key = q.canonical ∧ Row.namedBy s row = false
  · rw [if_pos hrow] at hanswer
    obtain ⟨hne, row, hmem, hpattern⟩ := htaken.mp hrow
    have hrefused : ∀ r, (ofRows rows).replace s t target ≠ .ok r := by
      intro r hr
      rw [hr] at hanswer
      cases hanswer
    refine ⟨iff_of_false (not_exists.mpr hrefused) ?_, fun r hr => absurd hr (hrefused r)⟩
    rintro (heq | hfree)
    · exact hne heq
    · exact hfree row hmem hpattern
  · rw [if_neg hrow] at hanswer hedit
    have hfree : q = p ∨ ∀ row ∈ rows, row.pattern ≠ q := by
      by_cases heq : q = p
      · exact .inl heq
      · exact .inr fun row hmem hpattern => hrow (htaken.mpr ⟨heq, row, hmem, hpattern⟩)
    have hany : rows.any (Row.namedBy s) = true ↔ ∃ row ∈ rows, row.pattern = p := by
      rw [List.any_eq_true]
      refine exists_congr fun row => and_congr_right fun hmem => ?_
      rw [namedBy_eq hparsed hp hmem, decide_eq_true_iff]
    obtain ⟨r, hr, hrows⟩ : ∃ r, (ofRows rows).replace s t target = .ok r ∧ r.rows =
        if ∃ row ∈ rows, row.pattern = p then
          rows.map fun row => if row.pattern = p then ⟨q, target⟩ else row
        else rows ++ [⟨q, target⟩] := by
      by_cases hold : rows.any (Row.namedBy s) = true
      · rw [if_pos hold] at hanswer hedit
        obtain ⟨r, hr, -⟩ := Result.map_eq_ok.mp hanswer
        rw [hr] at hedit
        have hmap : r = ofRows
            (rows.map fun row => if Row.namedBy s row then ⟨q, target⟩ else row) := hedit
        refine ⟨r, hr, ?_⟩
        rw [if_pos (hany.mp hold), hmap, rows_ofRows]
        refine List.map_congr_left fun row hmem => ?_
        rw [namedBy_eq hparsed hp hmem]
        exact if_congr decide_eq_true_iff rfl rfl
      · rw [if_neg hold] at hanswer hedit
        obtain ⟨r, hr, -⟩ := Result.map_eq_ok.mp hanswer
        rw [hr] at hedit
        have hlast : r = ofRows (rows ++ [⟨q, target⟩]) := hedit
        refine ⟨r, hr, ?_⟩
        rw [if_neg (fun h => hold (hany.mpr h)), hlast, rows_ofRows]
    refine ⟨iff_of_true ⟨r, hr⟩ hfree, fun r' hr' => ?_⟩
    cases hr.symm.trans hr'
    exact hrows

end

/-- Two expressions have the same canonical form exactly when they compile to the same pattern.  So
    every call means the row of its own pattern, whatever calls made the router: a route is refused
    only when its pattern is there already; removal strikes out the row of the pattern, and leaves
    the others; and a replacement is refused only when another row has the new pattern, and
    otherwise takes the place of the row with the old one, or the last place. -/
theorem canonical_eq_iff (hp : Pattern.parse s = .ok p) (hq : Pattern.parse t = .ok q) :
    (p.canonical = q.canonical ↔ p = q) ∧
    ∀ {α : Type} (edits : List (Edit α)) (target : α),
      ((∃ r, (ofEdits edits).add s target = .ok r) ↔
        ∀ row ∈ (ofEdits edits).rows, row.pattern ≠ p) ∧
      ((ofEdits edits).edit (.remove s)).rows =
        (ofEdits edits).rows.filter (fun row => decide (row.pattern ≠ p)) ∧
      ((∃ r, (ofEdits edits).replace s t target = .ok r) ↔
        q = p ∨ ∀ row ∈ (ofEdits edits).rows, row.pattern ≠ q) ∧
      ∀ r, (ofEdits edits).replace s t target = .ok r → r.rows =
        if ∃ row ∈ (ofEdits edits).rows, row.pattern = p then
          (ofEdits edits).rows.map fun row => if row.pattern = p then ⟨q, target⟩ else row
        else (ofEdits edits).rows ++ [⟨q, target⟩] := by
  refine ⟨⟨canonical_inj (clear_of_parse hp) (clear_of_parse hq), congrArg _⟩, ?_⟩
  intro α edits target
  -- every row has been parsed once, so all of the above applies
  have hsound := sound_ofEdits edits
  have hkeys := hsound.keys
  rw [ofEdits_eq, keys_ofRows] at hkeys
  have hparsed : ∀ row ∈ Rows.ofEdits edits, ∃ s, Pattern.parse s = .ok row.pattern := by
    intro row hrow
    obtain ⟨s, -, hs, -⟩ := hsound.parsed row.entry
      (by rw [ofEdits_eq]; exact List.mem_map_of_mem hrow)
    exact ⟨s, hs⟩
  rw [ofEdits_eq, rows_ofRows]
  exact ⟨add_ofRows_iff hparsed hp target, rows_remove hparsed hkeys hp,
    replace_ofRows hparsed hkeys hp hq target⟩

/-- A parameter has another canonical form than its name as it stands. -/
theorem canonical_ne_of_parameter :
    Pattern.parse "Path(`/<id>`)" = .ok ⟨none, none, [.byte 47, .param "id"]⟩ ∧
    Pattern.parse "Path(`/id`)" = .ok ⟨none, none, [.byte 47, .byte 105, .byte 100]⟩ ∧
    (⟨none, none, [.byte 47, .param "id"]⟩ : Pattern).canonical ≠
      (⟨none, none, [.byte 47, .byte 105, .byte 100]⟩ : Pattern).canonical := by
  have hparam : segments 0 ['/', '<', 'i', 'd', '>'] = .ok [.byte 47, .param "id"] := by
    rw [segments_char (by decide) (by decide), segments_param rfl rfl, segments]
    rfl
  have hbytes : segments 0 ['/', 'i', 'd'] = .ok [.byte 47, .byte 105, .byte 100] := by
    rw [segments_char (by decide) (by decide), segments_char (by decide) (by decide),
      segments_char (by decide) (by decide), segments]
    rfl
  have hp := parse_path (s := "Path(`/<id>`)") _ rfl (by decide) (by decide) hparam
  have hq := parse_path (s := "Path(`/id`)") _ rfl (by decide) (by decide) hbytes
  exact ⟨hp, hq, fun h => absurd ((canonical_eq_iff hp hq).1.mp h) (by decide)⟩

end Router

end Turnpike.Route
