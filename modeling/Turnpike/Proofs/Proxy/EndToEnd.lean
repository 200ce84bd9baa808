/-
  Headers of one connection.

  A proxy hands on the headers of a request, but some of them concern the connection on which they
  came and must not go on.  Which ones these are is partly said by the headers themselves, in lists
  that anybody may have written, so what can be read there should neither be missed nor take
  anything else away.

  1. **What concerns one connection** (`OfOneConnection`).  A fixed set of names, and the names that
     the connection headers list, in letters of any case, between commas and among blanks and tabs
     (`Mentions`).  A value that cannot be read lists nothing.

  2. **Reading lists** (`mem_listedNames_iff`).  A list is cut at its commas, which can be done in
     one way only, and each item is trimmed.  The crux is that a header name has no gaps in it: so
     an item is a name among gaps just when trimming leaves that name.

  3. **What is left** (`values_endToEnd`).  Headers that concern one connection are left out, all of
     them, and every other name keeps all its values: what cannot be read, or names no header, is
     passed over without touching the rest.

  4. **Once is enough** (`endToEnd_endToEnd`).  No connection header is left, so that nothing is
     listed any more, and leaving out the fixed set again changes nothing.
-/
import Turnpike.Proofs.Http.Header
import Turnpike.Proofs.Lists
import Turnpike.Proofs.Text.Split
import Turnpike.Proxy.Headers

namespace Turnpike.Proxy

open Turnpike.Text Turnpike.Http

/-! ## Lists of names -/

/-- A blank or a tab. -/
def isGap (c : Char) : Bool := c == ' ' || c == '\t'

/-- The value is a list with that name on it: one of the items between its commas is the name, in
    letters of any case, among blanks and tabs. -/
def Mentions (value name : String) : Prop :=
  ∃ items : List (List Char), value.toList = [','].intercalate items ∧ (∀ i ∈ items, ',' ∉ i) ∧
    ∃ before word after, before ++ word ++ after ∈ items ∧ lowerAscii (String.ofList word) = name ∧
      (∀ c ∈ before, isGap c = true) ∧ ∀ c ∈ after, isGap c = true

/-- A connection header that can be read lists the name. -/
def NamedByConnection (h : Headers) (name : String) : Prop :=
  ∃ value ∈ h.values "connection", isReadable value = true ∧ Mentions value name

/-- Headers of that name concern one connection only. -/
def OfOneConnection (h : Headers) (name : String) : Prop :=
  name ∈ ["connection", "proxy-authenticate", "proxy-authorization", "te", "trailer",
    "transfer-encoding", "upgrade", "keep-alive"] ∨ NamedByConnection h name

/-- There are no gaps in a header name. -/
theorem isGap_of_isTokenChar {c : Char} (h : isTokenChar c = true) : isGap c = false := by
  unfold isGap
  rw [Bool.or_eq_false_iff, beq_eq_false_iff_ne, beq_eq_false_iff_ne]
  constructor
  · rintro rfl
    exact absurd h (by decide)
  · rintro rfl
    exact absurd h (by decide)

/-- A word without gaps is what is left when the gaps around it are trimmed. -/
theorem trimmed_append {before word after : List Char} (hbefore : ∀ c ∈ before, isGap c = true)
    (hword : ∀ c ∈ word, isGap c = false) (hne : word ≠ []) (hafter : ∀ c ∈ after, isGap c = true) :
    trimmed (before ++ word ++ after) = word := by
  show ((((before ++ word ++ after).dropWhile isGap).reverse).dropWhile isGap).reverse = word
  -- first the gaps in front, then, from the other end, those behind
  have hfirst : (before ++ word ++ after).dropWhile isGap = word ++ after := by
    rw [List.append_assoc]
    obtain ⟨d, rest, rfl⟩ := List.exists_cons_of_ne_nil hne
    refine (Lists.span_append hbefore fun c hc => ?_).2
    obtain rfl : d = c := Option.some.inj hc
    exact hword d List.mem_cons_self
  have hlast : (after.reverse ++ word.reverse).dropWhile isGap = word.reverse := by
    refine (Lists.span_append (fun c hc => hafter c (List.mem_reverse.mp hc)) fun c hc => ?_).2
    exact hword c (List.mem_reverse.mp (List.mem_of_head? hc))
  rw [hfirst, List.reverse_append, hlast, List.reverse_reverse]

/-- What is trimmed off a text are gaps. -/
theorem exists_trimmed (s : List Char) : ∃ before after, before ++ trimmed s ++ after = s ∧
    (∀ c ∈ before, isGap c = true) ∧ ∀ c ∈ after, isGap c = true := by
  have hgaps (t : List Char) : ∀ c ∈ t.takeWhile isGap, isGap c = true :=
    List.all_eq_true.mp List.all_takeWhile
  refine ⟨s.takeWhile isGap, ((s.dropWhile isGap).reverse.takeWhile isGap).reverse, ?_, hgaps s,
    fun c hc => hgaps _ c (List.mem_reverse.mp hc)⟩
  show s.takeWhile isGap ++ ((s.dropWhile isGap).reverse.dropWhile isGap).reverse ++ _ = s
  rw [List.append_assoc, ← List.reverse_append, List.takeWhile_append_dropWhile,
    List.reverse_reverse, List.takeWhile_append_dropWhile]

/-- What is read of a list are the header names on it. -/
theorem mem_listedNames_iff {value name : String} (hname : IsHeaderName name) :
    name ∈ listedNames value ↔ Mentions value name := by
  unfold listedNames
  rw [List.mem_filterMap]
  constructor
  · rintro ⟨item, hitem, hread⟩
    obtain ⟨before, after, htrimmed, hbefore, hafter⟩ := exists_trimmed item
    exact ⟨splitAll ',' value.toList, (intercalate_splitAll ',' _).symm,
      fun _ => not_mem_of_mem_splitAll, before, trimmed item, after, htrimmed.symm ▸ hitem,
      hname.headerName?_eq_some_iff.mp hread, hbefore, hafter⟩
  · rintro ⟨items, hvalue, hcommas, before, word, after, hitem, hword, hbefore, hafter⟩
    have hsplit : splitAll ',' value.toList = items := by
      rw [hvalue]
      exact splitAll_intercalate (List.ne_nil_of_mem hitem) hcommas
    -- the word is made of token characters, for so is the name
    obtain ⟨hne, htoken⟩ := hname.token_of_lower hword
    rw [String.toList_ofList] at hne htoken
    have hgapless : ∀ c ∈ word, isGap c = false := fun c hc =>
      isGap_of_isTokenChar (List.all_eq_true.mp htoken c hc)
    refine ⟨before ++ word ++ after, hsplit.symm ▸ hitem, ?_⟩
    rw [trimmed_append hbefore hgapless hne hafter]
    exact hname.headerName?_eq_some_iff.mpr hword

/-- The names that are read are those that a connection header lists. -/
theorem mem_connectionNames_iff {h : Headers} {name : String} (hname : IsHeaderName name) :
    name ∈ connectionNames h ↔ NamedByConnection h name := by
  unfold connectionNames NamedByConnection
  rw [List.mem_flatMap]
  simp only [List.mem_filter, mem_listedNames_iff hname, and_assoc]

/-! ## What is left -/

theorem connectionNames_congr {h k : Headers} (heq : h.values "connection" = k.values "connection") :
    connectionNames h = connectionNames k := by
  rw [connectionNames, connectionNames, heq]

/-- Of some names nothing is left, and of the others everything. -/
theorem values_without (h : Headers) (names : List String) (name : String) :
    (without h names).values name = if name ∈ names then [] else h.values name := by
  rw [without, Headers.values_filter h (!names.contains ·) name]
  simp only [Bool.not_eq_true', List.contains_eq_mem, decide_eq_false_iff_not, ite_not]

theorem values_endToEnd (h : Headers) (name : String) :
    (endToEnd h).values name = if name ∈ connectionNames h ++ hopByHop then [] else h.values name :=
  values_without h _ name

/-- In what is left nothing is listed. -/
theorem connectionNames_endToEnd (h : Headers) : connectionNames (endToEnd h) = [] := by
  have hnone : (endToEnd h).values "connection" = [] := by
    have hmem : "connection" ∈ hopByHop := by decide
    rw [values_endToEnd, if_pos (List.mem_append_right _ hmem)]
  rw [connectionNames, hnone]
  rfl

/-- To leave out the headers of one connection once more changes nothing. -/
theorem endToEnd_endToEnd (h : Headers) : endToEnd (endToEnd h) = endToEnd h := by
  have hagain : endToEnd (endToEnd h) = without (endToEnd h) hopByHop := by
    rw [endToEnd, connectionNames_endToEnd, List.nil_append]
  -- the fixed set is left out already
  rw [hagain, endToEnd, without, without, List.filter_filter]
  refine congrArg Headers.mk (List.filter_congr fun f _ => ?_)
  rw [List.contains_append, Bool.not_or, Bool.and_comm, Bool.and_assoc, Bool.and_self]

/-- The names that are left out are those that concern one connection. -/
theorem ofOneConnection_iff {h : Headers} {name : String} (hname : IsHeaderName name) :
    name ∈ connectionNames h ++ hopByHop ↔ OfOneConnection h name := by
  rw [List.mem_append, mem_connectionNames_iff hname, or_comm]
  rfl

/-- Nothing is left of a header that concerns one connection. -/
theorem values_endToEnd_of_one {h : Headers} {name : String} (hname : IsHeaderName name)
    (hone : OfOneConnection h name) : (endToEnd h).values name = [] := by
  rw [values_endToEnd, if_pos ((ofOneConnection_iff hname).mpr hone)]

theorem values_endToEnd_of_not {h : Headers} {name : String} (hname : IsHeaderName name)
    (hmany : ¬OfOneConnection h name) : (endToEnd h).values name = h.values name := by
  rw [values_endToEnd, if_neg (mt (ofOneConnection_iff hname).mp hmany)]

/-- For every set of headers: of a header name that concerns one connection only nothing is left,
    every other header name keeps all its values in their order, and to leave out once more what
    concerns one connection changes nothing. -/
theorem endToEnd_exact (h : Headers) :
    (∀ name, IsHeaderName name →
      (OfOneConnection h name → (endToEnd h).values name = []) ∧
      (¬OfOneConnection h name → (endToEnd h).values name = h.values name)) ∧
    endToEnd (endToEnd h) = endToEnd h :=
  ⟨fun _ hname => ⟨values_endToEnd_of_one hname, values_endToEnd_of_not hname⟩,
    endToEnd_endToEnd h⟩

/-- Two connection headers, of which the second cannot be read, and the first lists more than header
    names. -/
def crowded : Headers :=
  .ofList [("connection", "close,\tX-Private ,bad name,,"), ("connection", "accept, é"),
    ("x-private", "1"), ("accept", "*/*"), ("x-private", "2"), ("accept", "text/html")]

/-- The private header goes with both its values; that of the list which cannot be read stays. -/
theorem endToEnd_exact_crowded :
    IsHeaderName "x-private" ∧ (endToEnd crowded).values "x-private" = [] ∧
    IsHeaderName "accept" ∧ (endToEnd crowded).values "accept" = ["*/*", "text/html"] := by
  have hprivate : IsHeaderName "x-private" := by decide
  have haccept : IsHeaderName "accept" := by decide
  obtain ⟨hexact, -⟩ := endToEnd_exact crowded
  have hgone : OfOneConnection crowded "x-private" := (ofOneConnection_iff hprivate).mp (by decide)
  have hkept : ¬OfOneConnection crowded "accept" :=
    mt (ofOneConnection_iff haccept).mpr (by decide)
  exact ⟨hprivate, (hexact _ hprivate).1 hgone, haccept, (hexact _ haccept).2 hkept⟩

end Turnpike.Proxy
