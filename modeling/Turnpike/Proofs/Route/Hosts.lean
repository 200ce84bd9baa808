/-
  Routes and the hosts that they ask for.

  A route with a condition on hosts should let the requests for that host pass (`AsksFor`): its
  letters may be in either case, and a port may follow.  For most hosts it does.  For some of them
  it does not, and here it is said exactly for which.

  1. **Two sides.**  The host of a request and the host of a condition are not put into one form.
     The port is cut off the request's side only, and capitals outside ASCII are made small on the
     condition's side only; then the two are compared up to the case of ASCII letters
     (`forHost_accepts_iff`).

  2. **What is needed.**  If the requests for a host pass, then the one without a port and one with
     a port do.  From the first it follows that nothing of the host is cut off and nothing of it
     changed; the second is needed for a bracket that is not closed: such a host stays whole, but so
     does a port behind it.  Lengths decide: making letters small does not make a text shorter, and
     cutting a port off does not make it longer.

  3. **What is enough.**  For a host without a port and without such capitals both sides come to the
     host in small letters (`forHost_accepts_own_iff`).

  4. **Routes** (`accepts_own_host_iff`).  Of the other conditions of a route only the methods
     matter, and a route that states methods states one.  Two routes that refuse their own host
     stand at the end (`refuses_own_host`).
-/
import Turnpike.Proofs.Route.Ports
import Turnpike.Proofs.Route.Printing

namespace Turnpike.Route

open Turnpike.Text Turnpike.Http

/-! ## Requests for a host -/

/-- The request is for that host: up to the case of ASCII letters it is the host, as it stands or
    with a colon and decimal digits behind it. -/
def AsksFor (host request : String) : Prop :=
  ∃ name, sameLetters name host = true ∧
    (request = name ∨
      ∃ port, port ≠ "" ∧ port.toList.all Char.isDigit = true ∧ request = name ++ ":" ++ port)

/-- The methods of the pattern, if it states any, include this one. -/
def Pattern.Allows (p : Pattern) (m : Method) : Prop := ∀ ms, p.methods = some ms → m ∈ ms

theorem toList_port (name port : String) :
    (name ++ ":" ++ port).toList = name.toList ++ ':' :: port.toList := by
  rw [String.toList_append, String.toList_append, List.append_assoc]
  rfl

/-! ## What a filter accepts -/

/-- A condition on the host compares what is left of both sides. -/
theorem forHost_accepts_iff {host request : String} {m : Method} :
    (Filter.forHost host).accepts ⟨m, some request⟩ = true ↔
      (withoutPort request.toList).map Char.toLower =
        (lowerFrom [] host.toList).map Char.toLower := by
  show sameLetters (stripPort request) (lowercase host) = true ↔ _
  rw [sameLetters_iff, lowerAscii_eq_iff, stripPort, lowercase, String.toList_ofList,
    String.toList_ofList]

/-- A pattern lets a request pass when its methods and its host do. -/
theorem Pattern.filter_accepts_iff {p : Pattern} {v : View} : p.filter.accepts v = true ↔
    p.Allows v.method ∧ ∀ h, p.host = some h → (Filter.forHost h).accepts v = true := by
  rw [Pattern.filter, Filter.accepts, Filter.acceptsAll_eq, List.all_append, Bool.and_eq_true]
  refine and_congr ?_ ?_
  · unfold Pattern.Allows
    cases p.methods <;> simp [Filter.accepts]
  · cases p.host <;> simp

/-- A host is kept as it is when it has no capitals outside ASCII. -/
theorem lowerFrom_lower_iff {host : String} :
    (lowerFrom [] (lowerAscii host).toList).map Char.toLower = (lowerAscii host).toList ↔
      ∀ c ∈ host.toList, IsCapital c → c.toNat < 128 := by
  rw [lower_lowerFrom_iff, toList_lowerAscii, List.forall_mem_map]
  exact forall₂_congr fun _ _ => not_isCapital_toLower_iff

/-- Requests for a host are let pass by the condition on it just when the host is portless and has
    no capitals outside ASCII. -/
theorem forHost_accepts_own_iff {host : String} {m : Method} :
    (∀ request, AsksFor host request →
        (Filter.forHost (lowerAscii host)).accepts ⟨m, some request⟩ = true) ↔
      Portless host.toList ∧ ∀ c ∈ host.toList, IsCapital c → c.toNat < 128 := by
  rw [← lowerFrom_lower_iff]
  simp only [forHost_accepts_iff]
  constructor
  · intro h
    have hself : sameLetters host host = true := sameLetters_iff.mpr rfl
    have halone := h host ⟨host, hself, .inl rfl⟩
    have hbefore := h (host ++ ":" ++ "0") ⟨host, hself, .inr ⟨"0", by decide, by decide, rfl⟩⟩
    rw [toList_port, ← halone] at hbefore
    -- what is expected is no shorter than the host, and what is left of the host no longer
    have hexpected := length_le_lowerFrom [] (lowerAscii host).toList
    have hleft := (withoutPort_isPrefix host.toList).length_le
    have hlength := congrArg List.length halone
    have hlength' := congrArg List.length hbefore
    rw [List.length_map, List.length_map] at hlength hlength'
    rw [toList_lowerAscii, List.length_map, ← toList_lowerAscii] at hexpected
    have hportless : Portless host.toList := by
      have hzero : "0".toList.all Char.isDigit = true := by decide
      refine portless_of_length hzero ?_ ?_
      · omega
      · omega
    refine ⟨hportless, ?_⟩
    rw [← halone, hportless.withoutPort_eq, toList_lowerAscii]
  · rintro ⟨hportless, hsmall⟩ request ⟨name, hname, hrequest⟩
    rw [hsmall, toList_lowerAscii]
    have hsame := lowerAscii_eq_iff.mp (sameLetters_iff.mp hname)
    have hportless' := hportless.of_lower hsame
    rcases hrequest with rfl | ⟨port, -, hport, rfl⟩
    · rw [hportless'.withoutPort_eq, hsame]
    · rw [toList_port, hportless'.withoutPort_port hport, hsame]

/-- The host that is stated is that of the call, in small letters. -/
theorem Stated.host {cs : List Call} {o : Option String} {host : String}
    (h : Stated cs "Host" SaysHost o) (hcs : ⟨"Host", [host]⟩ ∈ cs) :
    o = some (lowerAscii host) := by
  have hmem : ⟨"Host", [host]⟩ ∈ cs.filter (·.name == "Host") :=
    List.mem_filter.mpr ⟨hcs, rfl⟩
  cases o with
  | none =>
    rw [show cs.filter (·.name == "Host") = [] from h] at hmem
    cases hmem
  | some compiled =>
    obtain ⟨vs, hone, v, rfl, -, rfl⟩ := h
    rw [hone, List.mem_singleton] at hmem
    cases hmem
    rfl

/-- A pattern that calls state allows some method. -/
theorem States.exists_allowed {cs : List Call} {d : Draft} (h : States cs d) {p : Pattern}
    (hp : p.methods = d.methods) : ∃ m, p.Allows m := by
  -- any method will do when none is stated
  cases hms : p.methods with
  | none => exact ⟨⟨"GET", by decide⟩, fun _ he => nomatch hms.symm.trans he⟩
  | some ms =>
    obtain ⟨m, rest, rfl⟩ := List.exists_cons_of_ne_nil (h.methods_ne_nil (hp.symm.trans hms))
    refine ⟨m, ?_⟩
    intro ms' hms'
    cases hms.symm.trans hms'
    exact List.mem_cons_self

/-- Every request for the host of a route is accepted exactly when the host is portless and has no
    capitals outside ASCII. -/
theorem accepts_own_host_iff {s host : String} {p : Pattern} {cs : List Call}
    (h : Pattern.parse s = .ok p) (hcs : Reads s cs) (hhost : ⟨"Host", [host]⟩ ∈ cs) :
    (∀ m request, p.Allows m → AsksFor host request →
        p.filter.accepts ⟨m, some request⟩ = true) ↔
      Portless host.toList ∧ ∀ c ∈ host.toList, IsCapital c → c.toNat < 128 := by
  have hstates := hcs.parse_eq_ok_iff.mp h
  have hcompiled : p.host = some (lowerAscii host) := hstates.host.host hhost
  have hfilter : ∀ {m request}, p.Allows m → (p.filter.accepts ⟨m, some request⟩ = true ↔
      (Filter.forHost (lowerAscii host)).accepts ⟨m, some request⟩ = true) := by
    intro m request hm
    rw [Pattern.filter_accepts_iff, hcompiled]
    simp [hm]
  -- for the first part some method is needed to ask with
  obtain ⟨m, hm⟩ := hstates.exists_allowed (p := p) rfl
  constructor
  · intro haccepts
    exact (forHost_accepts_own_iff (m := m)).mp fun request hrequest =>
      (hfilter hm).mp (haccepts m request hm hrequest)
  · intro hhost m request hm hrequest
    exact (hfilter hm).mpr (forHost_accepts_own_iff.mpr hhost request hrequest)

/-- The calls of a route with a condition on the host. -/
def hostCalls (host path : String) : List Call := [⟨"Host", [host]⟩, ⟨"Path", [path]⟩]

/-- Their tokens. -/
def hostTokens (host path : String) : List Token :=
  [.ident "Host", .openParen, .text host, .closeParen, .and,
    .ident "Path", .openParen, .text path, .closeParen]

theorem reads_hostCalls {s host path : String}
    (hs : scan 0 s.toList = .ok (hostTokens host path)) : Reads s (hostCalls host path) :=
  ⟨_, lexes_of_scan hs, .more (.applied .one) (.one (.applied .one))⟩

/-- The requests for a host with ASCII capitals pass. -/
theorem accepts_own_host_iff_capital :
    ∃ p, Pattern.parse "Host(\"Example.COM\") && Path(\"/\")" = .ok p ∧
      Reads "Host(\"Example.COM\") && Path(\"/\")" (hostCalls "Example.COM" "/") ∧
      ((∀ m request, p.Allows m → AsksFor "Example.COM" request →
          p.filter.accepts ⟨m, some request⟩ = true) ↔
        Portless "Example.COM".toList ∧
          ∀ c ∈ "Example.COM".toList, IsCapital c → c.toNat < 128) := by
  have hparse : Pattern.parse "Host(\"Example.COM\") && Path(\"/\")" =
      .ok ⟨none, some "example.com", [.byte 47]⟩ := by decide +kernel
  have hreads : Reads "Host(\"Example.COM\") && Path(\"/\")" (hostCalls "Example.COM" "/") :=
    reads_hostCalls (by decide +kernel)
  exact ⟨_, hparse, hreads, accepts_own_host_iff hparse hreads List.mem_cons_self⟩

/-- Routes that let no request for their own host pass as it stands: the host of the one has a
    port, and that of the other a capital outside ASCII. -/
theorem refuses_own_host :
    (∃ p, Pattern.parse "Host(\"a.com:8080\") && Path(\"/\")" = .ok p ∧
      Reads "Host(\"a.com:8080\") && Path(\"/\")" (hostCalls "a.com:8080" "/") ∧
      AsksFor "a.com:8080" "a.com:8080" ∧
      ∀ m, p.Allows m ∧ p.filter.accepts ⟨m, some "a.com:8080"⟩ = false) ∧
    ∃ p, Pattern.parse "Host(\"É.com\") && Path(\"/\")" = .ok p ∧
      Reads "Host(\"É.com\") && Path(\"/\")" (hostCalls "É.com" "/") ∧
      AsksFor "É.com" "É.com" ∧
      ∀ m, p.Allows m ∧ p.filter.accepts ⟨m, some "É.com"⟩ = false := by
  refine ⟨⟨⟨none, some "a.com:8080", [.byte 47]⟩, by decide +kernel, ?_, ?_, ?_⟩,
    ⟨⟨none, some "É.com", [.byte 47]⟩, by decide +kernel, ?_, ?_, ?_⟩⟩
  · exact reads_hostCalls (by decide +kernel)
  · exact ⟨_, sameLetters_iff.mpr rfl, .inl rfl⟩
  · intro m
    refine ⟨nofun, ?_⟩
    show (sameLetters (stripPort "a.com:8080") (lowercase "a.com:8080") && true) = false
    decide +kernel
  · exact reads_hostCalls (by decide +kernel)
  · exact ⟨_, sameLetters_iff.mpr rfl, .inl rfl⟩
  · intro m
    refine ⟨nofun, ?_⟩
    show (sameLetters (stripPort "É.com") (lowercase "É.com") && true) = false
    decide +kernel

end Turnpike.Route
