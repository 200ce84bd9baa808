/-
  What a route expression is.

  The compiler of expressions is a program: it scans, reads calls, and applies each to a draft of
  the pattern, and it may stop with an error at every step.  Here the language is described without
  it, by a grammar and by conditions, and the two descriptions are shown to be the same.

  1. **The grammar** (`Arguments`, `Call.Derives`, `Conjunction`).  An expression is a conjunction
     of calls, and each call holds its arguments between brackets.  The grammar derives tokens from
     calls.  Which texts have these tokens has been said before (`Lexes`); both together are
     `Reads`.

  2. **Reading** (`Conjunction.applyAll`, `conjunction_of_applyAll`).  What is read from derived
     tokens is the calls, one after the other; and tokens that can be read are derived.  The first
     goes by induction on the derivation, the second along the reading.

  3. **Conditions** (`Admissible`, `States`).  Which calls make a pattern, and which pattern they
     state.  Both look at all calls of one name together, and not at the order of calls.

  4. **Applying** (`Draft.apply_eq_ok_iff`, `foldlM_apply_eq_ok_iff`).  A call can be applied when
     nothing has been stated of what it states.  So a list of calls can be applied, one after the
     other, exactly when no two of them state the same; that is shown call by call from the front
     (`states_snoc_iff`).

  5. **Outcome** (`parse_ok_iff_reads`).  What compiles, and to what; and that the order of calls
     makes no difference, which is plain once the program is gone.
-/
import Turnpike.Proofs.Route.Paths
import Turnpike.Proofs.Route.Scanning

namespace Turnpike.Route

open Turnpike.Text Turnpike.Http

/-! ## The grammar -/

/-- Arguments: strings with commas between them. -/
inductive Arguments : List String → List Token → Prop where
  | one {v : String} : Arguments [v] [.text v]
  | more {v : String} {vs : List String} {ts : List Token} :
      Arguments vs ts → Arguments (v :: vs) (.text v :: .comma :: ts)

/-- A call: a name, and its arguments, if any, between brackets. -/
inductive Call.Derives : Call → List Token → Prop where
  | bare {name : String} : Derives ⟨name, []⟩ [.ident name, .openParen, .closeParen]
  | applied {name : String} {vs : List String} {ts : List Token} :
      Arguments vs ts →
      Derives ⟨name, vs⟩ (.ident name :: .openParen :: (ts ++ [.closeParen]))

/-- An expression: one or more calls with the conjunction between them. -/
inductive Conjunction : List Call → List Token → Prop where
  | one {c : Call} {ts : List Token} : c.Derives ts → Conjunction [c] ts
  | more {c : Call} {cs : List Call} {ts us : List Token} :
      c.Derives ts → Conjunction cs us → Conjunction (c :: cs) (ts ++ .and :: us)

/-! ## Reading calls -/

/-- Derived arguments are read up to the bracket that closes them. -/
theorem Arguments.read {vs : List String} {ts : List Token} (h : Arguments vs ts) (name : String)
    (first : Bool) (r : List Token) :
    readArguments name first (ts ++ .closeParen :: r) = .ok (vs, r) := by
  induction h generalizing first with
  | one => rfl
  | more _ ih =>
    rw [List.cons_append, List.cons_append, readArguments, ih false]
    rfl

/-- Arguments that are read are derived, or there are none. -/
theorem arguments_of_readArguments {name : String} {first : Bool} {ts r : List Token}
    {vs : List String} (h : readArguments name first ts = .ok (vs, r)) :
    (first = true ∧ vs = [] ∧ ts = .closeParen :: r) ∨
      ∃ us, Arguments vs us ∧ ts = us ++ .closeParen :: r := by
  fun_induction readArguments name first ts generalizing vs r
  case case2 ih =>
    obtain ⟨⟨vs', r'⟩, hread, he⟩ := Result.map_eq_ok.mp h
    cases he
    rcases ih hread with ⟨hfirst, -⟩ | ⟨us, hus, rfl⟩
    · cases hfirst
    · exact .inr ⟨_, hus.more, rfl⟩
  case case3 =>
    cases h
    exact .inr ⟨_, .one, rfl⟩
  case case7 =>
    cases h
    exact .inl ⟨rfl, rfl, rfl⟩
  all_goals cases h

/-- A derived call is read, whatever comes after it. -/
theorem Call.Derives.read {c : Call} {ts : List Token} (h : c.Derives ts) (r : List Token) :
    readCall (ts ++ r) = .ok (c, r) := by
  cases h with
  | bare => rfl
  | @applied name vs ts hvs =>
    rw [List.cons_append, List.cons_append, List.append_assoc, readCall,
      List.singleton_append, hvs.read]
    rfl

/-- A call that is read is derived. -/
theorem derives_of_readCall {c : Call} {ts r : List Token} (h : readCall ts = .ok (c, r)) :
    ∃ us, c.Derives us ∧ ts = us ++ r := by
  unfold readCall at h
  split at h
  case h_2 name r' =>
    obtain ⟨⟨vs, r''⟩, hread, he⟩ := Result.map_eq_ok.mp h
    cases he
    rcases arguments_of_readArguments hread with ⟨-, rfl, rfl⟩ | ⟨us, hus, rfl⟩
    · exact ⟨_, .bare, rfl⟩
    · refine ⟨_, .applied hus, ?_⟩
      rw [List.cons_append, List.cons_append, List.append_assoc, List.singleton_append]
  all_goals cases h

/-! ## Reading expressions -/

/-- The last call is applied, and that is all. -/
theorem Draft.applyAll_last {d : Draft} {c : Call} {ts : List Token}
    (h : readCall ts = .ok (c, [])) : d.applyAll ts = d.apply c := by
  rw [Draft.applyAll]
  split
  case h_1 e he => rw [h] at he; cases he
  case h_2 c' r he =>
    rw [h] at he
    cases he
    cases d.apply c <;> rfl

/-- After any other call, reading goes on behind the conjunction. -/
theorem Draft.applyAll_more {d : Draft} {c : Call} {ts r : List Token}
    (h : readCall ts = .ok (c, .and :: r)) :
    d.applyAll ts = d.apply c >>= fun d' => d'.applyAll r := by
  rw [Draft.applyAll]
  split
  case h_1 e he => rw [h] at he; cases he
  case h_2 c' r' he =>
    rw [h] at he
    cases he
    cases d.apply c <;> rfl

/-- From derived tokens the calls are read and applied, one after the other. -/
theorem Conjunction.applyAll {cs : List Call} {ts : List Token} (h : Conjunction cs ts)
    (d : Draft) : d.applyAll ts = cs.foldlM Draft.apply d := by
  induction h generalizing d with
  | @one c ts hc =>
    have hread := hc.read []
    rw [List.append_nil] at hread
    rw [Draft.applyAll_last hread, List.foldlM_cons]
    cases d.apply c <;> rfl
  | more hc _ ih =>
    rw [Draft.applyAll_more (hc.read _), List.foldlM_cons]
    exact bind_congr ih

/-- Tokens that are read are derived. -/
theorem conjunction_of_applyAll {d d' : Draft} {ts : List Token} (h : d.applyAll ts = .ok d') :
    ∃ cs, Conjunction cs ts := by
  fun_induction Draft.applyAll d ts
  case case1 => cases h
  case case2 => cases h
  case case3 hread _ =>
    obtain ⟨us, hc, rfl⟩ := derives_of_readCall hread
    rw [List.append_nil]
    exact ⟨_, .one hc⟩
  case case4 hread _ ih =>
    obtain ⟨us, hc, rfl⟩ := derives_of_readCall hread
    obtain ⟨cs, hcs⟩ := ih h
    exact ⟨_, .more hc hcs⟩
  case case5 => cases h

/-! ## The text of an expression -/

theorem Apart.cons {t : Token} {ts : List Token} (hts : Apart ts) (ht : ∀ n, t ≠ .ident n) :
    Apart (t :: ts) :=
  List.isChain_cons.mpr ⟨fun _ _ n hn => absurd hn (ht n), hts⟩

/-- Tokens that stand apart may have a conjunction between them. -/
theorem Apart.append_and {ts us : List Token} (hts : Apart ts) (hus : Apart us) :
    Apart (ts ++ .and :: us) := by
  refine List.isChain_append.mpr ⟨hts, hus.cons (fun _ => nofun), ?_⟩
  rintro t - u hu n - m rfl
  cases hu

/-- Derived arguments stand apart. -/
theorem Arguments.apart {vs : List String} {ts : List Token} (h : Arguments vs ts) :
    Apart (ts ++ [.closeParen]) := by
  have hclose : Apart [.closeParen] := List.IsChain.singleton _
  induction h with
  | one => exact hclose.cons fun _ => nofun
  | @more v vs ts _ ih =>
    have hcomma : Apart (.comma :: (ts ++ [.closeParen])) := ih.cons fun _ => nofun
    exact hcomma.cons fun _ => nofun

/-- The tokens of a call stand apart: a bracket follows the name. -/
theorem Call.Derives.apart {c : Call} {ts : List Token} (h : c.Derives ts) : Apart ts := by
  have hident : ∀ {name us}, Apart us → Apart (.ident name :: .openParen :: us) := by
    intro name us hus
    refine List.isChain_cons.mpr ⟨?_, hus.cons fun _ => nofun⟩
    rintro t ⟨⟩ n - m
    exact nofun
  -- two names never stand side by side: after a name there is a bracket
  cases h with
  | bare => exact hident (List.IsChain.singleton _)
  | applied hvs => exact hident hvs.apart

/-- The tokens of an expression stand apart. -/
theorem Conjunction.apart {cs : List Call} {ts : List Token} (h : Conjunction cs ts) :
    Apart ts := by
  induction h with
  | one hc => exact hc.apart
  | more hc _ ih => exact hc.apart.append_and ih

/-- There are no empty expressions. -/
theorem Conjunction.ne_nil {cs : List Call} {ts : List Token} (h : Conjunction cs ts) :
    ts ≠ [] := by
  cases h with
  | one hc => cases hc <;> exact List.cons_ne_nil _ _
  | more => exact List.append_ne_nil_of_right_ne_nil _ (List.cons_ne_nil _ _)

/-- The text is an expression, and these are its calls. -/
def Reads (s : String) (cs : List Call) : Prop :=
  ∃ ts, Lexes s.toList ts ∧ Conjunction cs ts

/-- Compiling an expression is applying its calls. -/
theorem Reads.parse {s : String} {cs : List Call} (h : Reads s cs) :
    Pattern.parse s = cs.foldlM Draft.apply {} >>= Draft.pattern := by
  obtain ⟨ts, hlexes, hcs⟩ := h
  have htokens : tokens s = .ok ts := by
    rw [tokens, hlexes.scan hcs.apart]
    cases ts with
    | nil => exact absurd rfl hcs.ne_nil
    | cons => rfl
  rw [Pattern.parse, htokens, ← hcs.applyAll]
  dsimp only
  cases ({} : Draft).applyAll ts <;> rfl

/-- What compiles is an expression. -/
theorem reads_of_parse {s : String} {p : Pattern} (h : Pattern.parse s = .ok p) :
    ∃ cs, Reads s cs := by
  unfold Pattern.parse at h
  split at h
  case h_1 => cases h
  case h_2 ts hts =>
    split at h
    case h_1 => cases h
    case h_2 d hd =>
      obtain ⟨cs, hcs⟩ := conjunction_of_applyAll hd
      unfold tokens at hts
      split at hts
      case h_1 => cases hts
      case h_2 => exact ⟨cs, ts, lexes_of_scan hts, hcs⟩

/-! ## Conditions on the calls -/

/-- The calls of that name: there is none, or there is one, and its arguments say what is stated. -/
def Stated {β : Type} (cs : List Call) (name : String) (Says : List String → β → Prop) :
    Option β → Prop
  | none => cs.filter (·.name == name) = []
  | some b => ∃ vs, cs.filter (·.name == name) = [⟨name, vs⟩] ∧ Says vs b

/-- There is one argument, it is not empty, and it is a path with these segments. -/
def SaysPath (vs : List String) (path : List Segment) : Prop :=
  ∃ v, vs = [v] ∧ v.toList ≠ [] ∧ Denotes v.toList path

/-- One or more token characters. -/
def IsToken (v : String) : Prop := v.toList ≠ [] ∧ v.toList.all isTokenChar = true

/-- There are arguments, all of them tokens, and in capitals they name these methods. -/
def SaysMethods (vs : List String) (ms : List Method) : Prop :=
  vs ≠ [] ∧ (∀ v ∈ vs, IsToken v) ∧ ms.map Method.name = vs.map upperAscii

/-- There is one argument, it is not empty, and in small letters it is this host. -/
def SaysHost (vs : List String) (host : String) : Prop :=
  ∃ v, vs = [v] ∧ v.toList ≠ [] ∧ host = lowerAscii v

/-- The calls are of the three known functions, each of them occurs once at most, and they state
    what the draft holds. -/
structure States (cs : List Call) (d : Draft) : Prop where
  known : ∀ c ∈ cs, c.name ∈ ["Path", "Method", "Host"]
  path : Stated cs "Path" SaysPath d.path
  methods : Stated cs "Method" SaysMethods d.methods
  host : Stated cs "Host" SaysHost d.host

/-- The calls make a pattern: they are of the three known functions; `Path` occurs once, with one
    argument, and that is a path; `Method` and `Host` occur once at most, and have the arguments
    that they need. -/
structure Admissible (cs : List Call) : Prop where
  known : ∀ c ∈ cs, c.name ∈ ["Path", "Method", "Host"]
  path : ∃ v, cs.filter (·.name == "Path") = [⟨"Path", [v]⟩] ∧ v.toList ≠ [] ∧
    ∃ path, Denotes v.toList path
  methods : cs.filter (·.name == "Method") = [] ∨
    ∃ vs, cs.filter (·.name == "Method") = [⟨"Method", vs⟩] ∧ vs ≠ [] ∧ ∀ v ∈ vs, IsToken v
  host : cs.filter (·.name == "Host") = [] ∨
    ∃ v, cs.filter (·.name == "Host") = [⟨"Host", [v]⟩] ∧ v.toList ≠ []

section Stated

variable {β : Type} {cs : List Call} {c : Call} {name : String}
  {Says : List String → β → Prop} {o : Option β}

theorem stated_nil_iff : Stated [] name Says o ↔ o = none := by
  cases o with
  | none => exact iff_of_true rfl rfl
  | some b => exact iff_of_false (fun ⟨_, h, _⟩ => nomatch h) nofun

/-- A call of another name makes no difference. -/
theorem stated_snoc_of_ne (h : c.name ≠ name) :
    Stated (cs ++ [c]) name Says o ↔ Stated cs name Says o := by
  have hfilter : (cs ++ [c]).filter (·.name == name) = cs.filter (·.name == name) := by
    rw [List.filter_append, List.filter_cons_of_neg (by simpa using h), List.filter_nil,
      List.append_nil]
  unfold Stated
  rw [hfilter]

/-- A call of that name states something only when it is the first one. -/
theorem stated_snoc_of_eq (h : c.name = name) :
    Stated (cs ++ [c]) name Says o ↔
      Stated cs name Says none ∧ ∃ b, o = some b ∧ Says c.arguments b := by
  have hfilter : (cs ++ [c]).filter (·.name == name) = cs.filter (·.name == name) ++ [c] := by
    rw [List.filter_append, List.filter_cons_of_pos (by simpa using h), List.filter_nil]
  -- with this call there is one of the name, and there must be no other
  cases o with
  | none =>
    refine iff_of_false ?_ fun ⟨_, _, hb, _⟩ => nomatch hb
    unfold Stated
    rw [hfilter]
    exact List.append_ne_nil_of_right_ne_nil _ (List.cons_ne_nil c [])
  | some b =>
    constructor
    · rintro ⟨vs, hs, hsays⟩
      rw [hfilter] at hs
      obtain ⟨hnone, hc⟩ := List.append_inj' (hs.trans (List.nil_append _).symm) rfl
      cases hc
      exact ⟨hnone, b, rfl, hsays⟩
    · rintro ⟨hs, b', hb, hsays⟩
      cases hb
      refine ⟨c.arguments, ?_, hsays⟩
      rw [hfilter, hs, ← h]
      rfl

end Stated

/-! ## Arguments -/

/-- A small letter may stand in a method just as its capital may. -/
theorem isTokenChar_toUpper (c : Char) : isTokenChar c.toUpper = isTokenChar c := by
  have hsmall : ∀ n < 123, isTokenChar (Char.ofNat n).toUpper = isTokenChar (Char.ofNat n) := by
    decide
  -- capitals are made of ASCII letters only, and these can be tried
  by_cases h : c.toNat < 123
  · rw [← Char.ofNat_toNat c]
    exact hsmall c.toNat h
  · have hc : c.toUpper = c := by
      refine dif_neg fun hz => h ?_
      have hle : c.toNat ≤ 122 := UInt32.le_iff_toNat_le.mp hz.2
      exact Nat.lt_succ_of_le hle
    rw [hc]

/-- A method is made of its own name only. -/
theorem ofString?_eq_some_iff {s : String} {m : Method} :
    Method.ofString? s = some m ↔ m.name = s := by
  refine ⟨Method.name_of_ofString?, ?_⟩
  rintro rfl
  exact dif_pos m.token

theorem isToken_upperAscii {v : String} : IsToken (upperAscii v) ↔ IsToken v := by
  unfold IsToken
  rw [toList_upperAscii, Ne, List.map_eq_nil_iff, List.all_map]
  simp only [Function.comp_def, isTokenChar_toUpper]

/-- Texts name methods when they are tokens. -/
theorem exists_methods_iff {vs : List String} :
    (∃ ms : List Method, ms.map Method.name = vs.map upperAscii) ↔ ∀ v ∈ vs, IsToken v := by
  constructor
  · rintro ⟨ms, hms⟩ v hv
    obtain ⟨m, -, hm⟩ := List.mem_map.mp (hms ▸ List.mem_map_of_mem hv)
    exact isToken_upperAscii.mp (hm ▸ m.token)
  · intro hvs
    induction vs with
    | nil => exact ⟨[], rfl⟩
    | cons v vs ih =>
      obtain ⟨hv, hvs⟩ := List.forall_mem_cons.mp hvs
      obtain ⟨ms, hms⟩ := ih hvs
      refine ⟨⟨upperAscii v, isToken_upperAscii.mpr hv⟩ :: ms, ?_⟩
      rw [List.map_cons, List.map_cons, hms]

/-- The methods that are read are those that the capitals name. -/
theorem readMethods_eq_ok_iff {vs : List String} {ms : List Method} :
    readMethods vs = .ok ms ↔ ms.map Method.name = vs.map upperAscii := by
  induction vs generalizing ms with
  | nil =>
    rw [List.map_nil, List.map_eq_nil_iff]
    exact ⟨fun h => by cases h; rfl, fun h => by rw [h]; rfl⟩
  | cons v vs ih =>
    rw [readMethods, List.map_cons]
    constructor
    · intro h
      split at h
      case h_1 => cases h
      case h_2 m hm =>
        obtain ⟨ms, hms, rfl⟩ := Result.map_eq_ok.mp h
        rw [List.map_cons, ofString?_eq_some_iff.mp hm, ih.mp hms]
    · intro h
      obtain ⟨m, ms, rfl, hm, hms⟩ := List.map_eq_cons_iff.mp h
      rw [ofString?_eq_some_iff.mpr hm, ih.mpr hms]
      rfl

/-- What arguments say of methods is what is read from them. -/
theorem saysMethods_iff {vs : List String} {ms : List Method} :
    SaysMethods vs ms ↔ vs ≠ [] ∧ readMethods vs = .ok ms := by
  rw [SaysMethods, readMethods_eq_ok_iff]
  exact and_congr_right fun _ => and_iff_right_of_imp fun h => exists_methods_iff.mp ⟨ms, h⟩

/-- One argument is one argument. -/
theorem oneArgument_eq_ok_iff {name v : String} {vs : List String} :
    oneArgument name vs = .ok v ↔ vs = [v] := by
  unfold oneArgument
  split
  case h_1 u => exact ⟨fun h => by cases h; rfl, fun h => by cases h; rfl⟩
  case h_2 hone => exact iff_of_false nofun (hone v)

/-- A path is read as what the text denotes. -/
theorem pathSegments_eq_ok_iff {v : String} {path : List Segment} :
    pathSegments v = .ok path ↔ v.toList ≠ [] ∧ Denotes v.toList path := by
  unfold pathSegments
  split
  case isTrue hnil => exact iff_of_false nofun fun h => h.1 hnil
  case isFalse hne => rw [segments_eq_ok_iff, and_iff_right hne]

/-! ## Applying calls -/

/-- What one more call can do: it states what had not been stated before. -/
theorem Draft.apply_eq_ok_iff {d d' : Draft} {c : Call} : d.apply c = .ok d' ↔
    (c.name = "Path" ∧ d.path = none ∧
      ∃ path, SaysPath c.arguments path ∧ d' = { d with path := some path }) ∨
    (c.name = "Method" ∧ d.methods = none ∧
      ∃ ms, SaysMethods c.arguments ms ∧ d' = { d with methods := some ms }) ∨
    (c.name = "Host" ∧ d.host = none ∧
      ∃ host, SaysHost c.arguments host ∧ d' = { d with host := some host }) := by
  constructor
  · intro h
    unfold Draft.apply at h
    split at h
    case isTrue hname =>
      refine .inl ⟨hname, ?_⟩
      split at h
      case isTrue => cases h
      case isFalse hfree =>
        split at h
        case h_1 => cases h
        case h_2 v hv =>
          obtain ⟨path, hpath, rfl⟩ := Result.map_eq_ok.mp h
          exact ⟨Option.not_isSome_iff_eq_none.mp hfree, path,
            ⟨v, oneArgument_eq_ok_iff.mp hv, pathSegments_eq_ok_iff.mp hpath⟩, rfl⟩
    case isFalse =>
      refine .inr ?_
      split at h
      case isTrue hname =>
        refine .inl ⟨hname, ?_⟩
        split at h
        case isTrue => cases h
        case isFalse hfree =>
          split at h
          case isTrue => cases h
          case isFalse hne =>
            obtain ⟨ms, hms, rfl⟩ := Result.map_eq_ok.mp h
            exact ⟨Option.not_isSome_iff_eq_none.mp hfree, ms, saysMethods_iff.mpr ⟨hne, hms⟩, rfl⟩
      case isFalse =>
        refine .inr ?_
        split at h
        case isFalse => cases h
        case isTrue hname =>
          refine ⟨hname, ?_⟩
          split at h
          case isTrue => cases h
          case isFalse hfree =>
            split at h
            case h_1 => cases h
            case h_2 v hv =>
              split at h
              case isTrue => cases h
              case isFalse hne =>
                cases h
                exact ⟨Option.not_isSome_iff_eq_none.mp hfree, _,
                  ⟨v, oneArgument_eq_ok_iff.mp hv, hne, rfl⟩, rfl⟩
  -- the other way about, what may be applied is applied
  · obtain ⟨name, vs⟩ := c
    obtain ⟨methods, host, path⟩ := d
    rintro (⟨rfl, rfl, segs, ⟨v, rfl, hv⟩, rfl⟩ | ⟨rfl, rfl, ms, hms, rfl⟩ |
      ⟨rfl, rfl, h, ⟨v, rfl, hne, rfl⟩, rfl⟩)
    · simp [Draft.apply, oneArgument, pathSegments_eq_ok_iff.mpr hv, Except.map]
    · obtain ⟨hne, hread⟩ := saysMethods_iff.mp hms
      simp [Draft.apply, hne, hread, Except.map]
    · simp [Draft.apply, oneArgument, hne]

/-- With one more call at the end, the calls state what they stated before and what it adds. -/
theorem states_snoc_iff {cs : List Call} {c : Call} {d' : Draft} :
    States (cs ++ [c]) d' ↔ ∃ d, States cs d ∧ d.apply c = .ok d' := by
  have hpm : "Path" ≠ "Method" := by decide
  have hph : "Path" ≠ "Host" := by decide
  have hmh : "Method" ≠ "Host" := by decide
  constructor
  · rintro ⟨hknown, hpath, hmethods, hhost⟩
    obtain ⟨methods, host, path⟩ := d'
    have hcs : ∀ c ∈ cs, c.name ∈ ["Path", "Method", "Host"] :=
      fun c hc => hknown c (List.mem_append_left _ hc)
    have hname := hknown c (List.mem_append_right cs List.mem_cons_self)
    simp only [List.mem_cons, List.not_mem_nil, or_false] at hname
    -- what the call states comes from it, and the rest has been stated before
    rcases hname with hname | hname | hname
    · obtain ⟨hnone, segs, rfl, hsays⟩ := (stated_snoc_of_eq hname).mp hpath
      have hm := (stated_snoc_of_ne (hname ▸ hpm)).mp hmethods
      have hh := (stated_snoc_of_ne (hname ▸ hph)).mp hhost
      exact ⟨⟨methods, host, none⟩, ⟨hcs, hnone, hm, hh⟩,
        Draft.apply_eq_ok_iff.mpr (.inl ⟨hname, rfl, segs, hsays, rfl⟩)⟩
    · obtain ⟨hnone, ms, rfl, hsays⟩ := (stated_snoc_of_eq hname).mp hmethods
      have hp := (stated_snoc_of_ne (hname ▸ hpm.symm)).mp hpath
      have hh := (stated_snoc_of_ne (hname ▸ hmh)).mp hhost
      exact ⟨⟨none, host, path⟩, ⟨hcs, hp, hnone, hh⟩,
        Draft.apply_eq_ok_iff.mpr (.inr (.inl ⟨hname, rfl, ms, hsays, rfl⟩))⟩
    · obtain ⟨hnone, h, rfl, hsays⟩ := (stated_snoc_of_eq hname).mp hhost
      have hp := (stated_snoc_of_ne (hname ▸ hph.symm)).mp hpath
      have hm := (stated_snoc_of_ne (hname ▸ hmh.symm)).mp hmethods
      exact ⟨⟨methods, none, path⟩, ⟨hcs, hp, hm, hnone⟩,
        Draft.apply_eq_ok_iff.mpr (.inr (.inr ⟨hname, rfl, h, hsays, rfl⟩))⟩
  · rintro ⟨⟨methods, host, path⟩, ⟨hknown, hpath, hmethods, hhost⟩, happly⟩
    have hcs (hc : c.name ∈ ["Path", "Method", "Host"]) :
        ∀ c' ∈ cs ++ [c], c'.name ∈ ["Path", "Method", "Host"] := by
      intro c' hc'
      rcases List.mem_append.mp hc' with hc' | hc'
      · exact hknown c' hc'
      · rwa [List.mem_singleton.mp hc']
    rcases Draft.apply_eq_ok_iff.mp happly with ⟨hname, rfl, segs, hsays, rfl⟩ |
      ⟨hname, rfl, ms, hsays, rfl⟩ | ⟨hname, rfl, h, hsays, rfl⟩
    · exact ⟨hcs (by rw [hname]; decide), (stated_snoc_of_eq hname).mpr ⟨hpath, segs, rfl, hsays⟩,
        (stated_snoc_of_ne (hname ▸ hpm)).mpr hmethods,
        (stated_snoc_of_ne (hname ▸ hph)).mpr hhost⟩
    · exact ⟨hcs (by rw [hname]; decide), (stated_snoc_of_ne (hname ▸ hpm.symm)).mpr hpath,
        (stated_snoc_of_eq hname).mpr ⟨hmethods, ms, rfl, hsays⟩,
        (stated_snoc_of_ne (hname ▸ hmh)).mpr hhost⟩
    · exact ⟨hcs (by rw [hname]; decide), (stated_snoc_of_ne (hname ▸ hph.symm)).mpr hpath,
        (stated_snoc_of_ne (hname ▸ hmh.symm)).mpr hmethods,
        (stated_snoc_of_eq hname).mpr ⟨hhost, h, rfl, hsays⟩⟩

/-- What calls state is what is left of applying them one after the other. -/
theorem foldlM_apply_eq_ok_iff {cs : List Call} {d : Draft} :
    cs.foldlM Draft.apply {} = .ok d ↔ States cs d := by
  -- from the end, for a call is applied to what those before it have stated
  induction cs using List.reverseRecOn generalizing d with
  | nil =>
    constructor
    · rintro ⟨⟩
      exact ⟨nofun, rfl, rfl, rfl⟩
    · rintro ⟨-, hpath, hmethods, hhost⟩
      obtain ⟨methods, host, path⟩ := d
      cases stated_nil_iff.mp hpath
      cases stated_nil_iff.mp hmethods
      cases stated_nil_iff.mp hhost
      rfl
  | append_singleton cs c ih =>
    rw [List.foldlM_append, Result.bind_eq_ok, states_snoc_iff]
    refine exists_congr fun d' => and_congr ih ?_
    rw [List.foldlM_cons]
    cases d'.apply c <;> exact Iff.rfl

/-- A draft is finished when it has a path. -/
theorem pattern_eq_ok_iff {d : Draft} {p : Pattern} :
    d.pattern = .ok p ↔ d = ⟨p.methods, p.host, some p.path⟩ := by
  obtain ⟨methods, host, path⟩ := d
  cases path with
  | none => exact iff_of_false nofun nofun
  | some path =>
    constructor
    · intro h
      cases h
      rfl
    · intro h
      cases h
      rfl

/-- An expression compiles to the pattern that its calls state. -/
theorem Reads.parse_eq_ok_iff {s : String} {cs : List Call} (h : Reads s cs) {p : Pattern} :
    Pattern.parse s = .ok p ↔ States cs ⟨p.methods, p.host, some p.path⟩ := by
  rw [h.parse, Result.bind_eq_ok]
  constructor
  · rintro ⟨d, hd, hp⟩
    rw [← pattern_eq_ok_iff.mp hp]
    exact foldlM_apply_eq_ok_iff.mp hd
  · intro hstates
    exact ⟨_, foldlM_apply_eq_ok_iff.mpr hstates, pattern_eq_ok_iff.mpr rfl⟩

/-- Calls that state a pattern make one. -/
theorem States.admissible {cs : List Call} {p : Pattern}
    (h : States cs ⟨p.methods, p.host, some p.path⟩) : Admissible cs := by
  obtain ⟨hknown, ⟨vs, hpath, v, rfl, hne, hdenotes⟩, hmethods, hhost⟩ := h
  refine ⟨hknown, ⟨v, hpath, hne, p.path, hdenotes⟩, ?_, ?_⟩
  · cases hms : p.methods with
    | none => rw [hms] at hmethods; exact .inl hmethods
    | some ms =>
      rw [hms] at hmethods
      obtain ⟨vs, hone, hvs, htokens, -⟩ := hmethods
      exact .inr ⟨vs, hone, hvs, htokens⟩
  · cases hh : p.host with
    | none => rw [hh] at hhost; exact .inl hhost
    | some host =>
      rw [hh] at hhost
      obtain ⟨vs, hone, v, rfl, hv, -⟩ := hhost
      exact .inr ⟨v, hone, hv⟩

/-- When methods are stated, there is one at least. -/
theorem States.methods_ne_nil {cs : List Call} {d : Draft} (h : States cs d) {ms : List Method}
    (hms : d.methods = some ms) : ms ≠ [] := by
  rintro rfl
  have hmethods := h.methods
  rw [hms] at hmethods
  obtain ⟨vs, -, hne, -, hnames⟩ := hmethods
  exact hne (List.map_eq_nil_iff.mp hnames.symm)

/-- Calls that make a pattern state one. -/
theorem Admissible.exists_states {cs : List Call} (h : Admissible cs) :
    ∃ p : Pattern, States cs ⟨p.methods, p.host, some p.path⟩ := by
  obtain ⟨v, hone, hne, path, hdenotes⟩ := h.path
  have hmethods : ∃ o, Stated cs "Method" SaysMethods o := by
    rcases h.methods with hnone | ⟨vs, hone, hvs, htokens⟩
    · exact ⟨none, hnone⟩
    · obtain ⟨ms, hms⟩ := exists_methods_iff.mpr htokens
      exact ⟨some ms, vs, hone, hvs, htokens, hms⟩
  have hhost : ∃ o, Stated cs "Host" SaysHost o := by
    rcases h.host with hnone | ⟨v, hone, hv⟩
    · exact ⟨none, hnone⟩
    · exact ⟨some (lowerAscii v), [v], hone, v, rfl, hv, rfl⟩
  -- the three parts can be chosen one by one
  obtain ⟨methods, hmethods⟩ := hmethods
  obtain ⟨host, hhost⟩ := hhost
  exact ⟨⟨methods, host, path⟩, h.known, ⟨[v], hone, v, rfl, hne, hdenotes⟩, hmethods, hhost⟩

/-- What the calls of a name state does not depend on where they stand. -/
theorem Stated.perm {β : Type} {cs cs' : List Call} (h : cs.Perm cs') {name : String}
    {Says : List String → β → Prop} {o : Option β} (hs : Stated cs name Says o) :
    Stated cs' name Says o := by
  have hfilter := h.filter (·.name == name)
  cases o with
  | none =>
    have hnil : cs.filter (·.name == name) = [] := hs
    rw [hnil] at hfilter
    exact hfilter.nil_eq.symm
  | some b =>
    obtain ⟨vs, hone, hsays⟩ := hs
    rw [hone] at hfilter
    exact ⟨vs, hfilter.singleton_eq.symm, hsays⟩

theorem States.perm {cs cs' : List Call} (h : cs.Perm cs') {d : Draft} (hs : States cs d) :
    States cs' d :=
  ⟨fun c hc => hs.known c (h.mem_iff.mpr hc), hs.path.perm h, hs.methods.perm h, hs.host.perm h⟩

/-- A text compiles exactly when it is a conjunction of calls that make a pattern, and then to the
    pattern that the calls state.  In which order they stand makes no difference. -/
theorem parse_ok_iff_reads (s : String) :
    ((∃ p, Pattern.parse s = .ok p) ↔ ∃ cs, Reads s cs ∧ Admissible cs) ∧
    (∀ p, Pattern.parse s = .ok p ↔
      ∃ cs, Reads s cs ∧ States cs ⟨p.methods, p.host, some p.path⟩) ∧
    ∀ s' cs cs', Reads s cs → Reads s' cs' → cs.Perm cs' →
      ∀ p, Pattern.parse s = .ok p ↔ Pattern.parse s' = .ok p := by
  have hparse : ∀ p, Pattern.parse s = .ok p ↔
      ∃ cs, Reads s cs ∧ States cs ⟨p.methods, p.host, some p.path⟩ := by
    intro p
    constructor
    · intro hp
      obtain ⟨cs, hcs⟩ := reads_of_parse hp
      exact ⟨cs, hcs, hcs.parse_eq_ok_iff.mp hp⟩
    · rintro ⟨cs, hcs, hstates⟩
      exact hcs.parse_eq_ok_iff.mpr hstates
  refine ⟨⟨?_, ?_⟩, hparse, ?_⟩
  · rintro ⟨p, hp⟩
    obtain ⟨cs, hcs, hstates⟩ := (hparse p).mp hp
    exact ⟨cs, hcs, hstates.admissible⟩
  · rintro ⟨cs, hcs, hadmissible⟩
    obtain ⟨p, hstates⟩ := hadmissible.exists_states
    exact ⟨p, hcs.parse_eq_ok_iff.mpr hstates⟩
  · intro s' cs cs' hcs hcs' hperm p
    rw [hcs.parse_eq_ok_iff, hcs'.parse_eq_ok_iff]
    exact ⟨States.perm hperm, States.perm hperm.symm⟩

end Turnpike.Route
