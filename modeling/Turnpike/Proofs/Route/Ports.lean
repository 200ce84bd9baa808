/-
  Hosts and the ports behind them.

  Before a host is compared, the port behind it is cut off.  A host may contain colons of its own,
  as addresses do, so where to cut is not plain, and the cut may take more than a port.

  1. **The cut** (`Cut`).  What is left is told case by case: an address in brackets ends where they
     close, a name ends at the last colon when only digits follow, or nothing, and any other text
     stays.  Each text falls under exactly one of these cases, and cutting does what the case says
     (`Cut.withoutPort_eq`, `cut_withoutPort`).

  2. **What is known of it.**  What is left is a first part of the host (`withoutPort_isPrefix`),
     and where it ends does not depend on the case of letters (`withoutPort_lower`), because neither
     brackets nor colons nor digits are letters.

  3. **Hosts that stay** (`Portless`).  A host of which nothing is taken for a port is left whole,
     with a port behind it and without one (`Portless.withoutPort_port`); and these are all such
     hosts (`portless_of_length`).  Both are needed: a bracket that is not closed stays, but then so
     does a port behind it.
-/
import Turnpike.Proofs.Text.Letters
import Turnpike.Proofs.Text.Split
import Turnpike.Route.Filter

namespace Turnpike.Route

open Turnpike.Text

/-! ## Cutting a port off -/

/-- The second text is the first one without the port that follows it. -/
inductive Cut : List Char → List Char → Prop where
  | closed {a b : List Char} : ']' ∉ a → Cut ('[' :: (a ++ ']' :: b)) ('[' :: (a ++ [']']))
  | unclosed {s : List Char} : ']' ∉ s → Cut ('[' :: s) ('[' :: s)
  | port {name port : List Char} : name.head? ≠ some '[' → port.all Char.isDigit = true →
      Cut (name ++ ':' :: port) name
  | plain {s : List Char} : s.head? ≠ some '[' →
      (∀ name port, s = name ++ ':' :: port → port.all Char.isDigit = false) → Cut s s

/-- A colon is no digit, so what follows the last colon decides. -/
theorem colon_not_mem {port : List Char} (h : port.all Char.isDigit = true) : ':' ∉ port :=
  fun hmem => absurd (List.all_eq_true.mp h ':' hmem) (by decide)

/-- A port behind it does not change how a host begins. -/
theorem head?_port {name port : List Char} :
    (name ++ ':' :: port).head? = some '[' ↔ name.head? = some '[' := by
  cases name with
  | nil => exact iff_of_false (by decide : some ':' ≠ some '[') nofun
  | cons c name => exact Iff.rfl

/-- After an opening bracket the closing one decides. -/
theorem withoutPort_bracket (s : List Char) :
    withoutPort ('[' :: s) =
      ((splitFirst? ']' s).map fun parts => '[' :: (parts.1 ++ [']'])).getD ('[' :: s) := by
  rw [withoutPort]
  cases splitFirst? ']' s <;> rfl

/-- Without a bracket the last colon decides. -/
theorem withoutPort_of_head {s : List Char} (h : s.head? ≠ some '[') :
    withoutPort s = match splitLast? ':' s with
      | some (name, port) => if port.all Char.isDigit then name else s
      | none => s := by
  unfold withoutPort
  split
  case h_1 r => exact absurd rfl h
  case h_2 => rfl

/-- What is left is what the case says. -/
theorem Cut.withoutPort_eq {s t : List Char} (h : Cut s t) : withoutPort s = t := by
  cases h with
  | closed ha =>
    rw [withoutPort_bracket, splitFirst?_eq_some_iff.mpr ⟨rfl, ha⟩]
    rfl
  | unclosed hs =>
    rw [withoutPort_bracket, splitFirst?_eq_none_iff.mpr hs]
    rfl
  | port hname hport =>
    rw [withoutPort_of_head (mt head?_port.mp hname),
      splitLast?_eq_some_iff.mpr ⟨rfl, colon_not_mem hport⟩]
    exact if_pos hport
  | plain hhead hplain =>
    rw [withoutPort_of_head hhead]
    split
    case h_2 => rfl
    case h_1 name port hsplit =>
      rw [hplain name port (splitLast?_eq_some_iff.mp hsplit).1]
      rfl

/-- Every host falls under some case. -/
theorem cut_withoutPort (s : List Char) : Cut s (withoutPort s) := by
  -- is it an address in brackets?
  by_cases hhead : s.head? = some '['
  · obtain ⟨r, rfl⟩ := List.head?_eq_some_iff.mp hhead
    rw [withoutPort_bracket]
    cases hsplit : splitFirst? ']' r with
    | none => exact .unclosed (splitFirst?_eq_none_iff.mp hsplit)
    | some parts =>
      obtain ⟨rfl, ha⟩ := splitFirst?_eq_some_iff.mp hsplit
      exact .closed ha
  · rw [withoutPort_of_head hhead]
    cases hsplit : splitLast? ':' s with
    | none =>
      refine .plain hhead ?_
      rintro name port rfl
      exact absurd (List.mem_append_right _ List.mem_cons_self) (splitLast?_eq_none_iff.mp hsplit)
    | some parts =>
      obtain ⟨name, port⟩ := parts
      obtain ⟨rfl, hport⟩ := splitLast?_eq_some_iff.mp hsplit
      dsimp only
      split
      case isTrue hdigits => exact .port (mt head?_port.mpr hhead) hdigits
      case isFalse hdigits =>
        -- another colon would leave this one behind it, which is no digit
        refine .plain hhead ?_
        intro name' port' he
        cases hall : port'.all Char.isDigit with
        | false => rfl
        | true =>
          rw [splitLast?_eq_some_iff.mpr ⟨he, colon_not_mem hall⟩] at hsplit
          cases hsplit
          exact absurd hall hdigits

/-! ## What is left of a host -/

/-- What is left is a first part of the host. -/
theorem withoutPort_isPrefix (s : List Char) : withoutPort s <+: s := by
  have hcut := cut_withoutPort s
  generalize withoutPort s = t at hcut
  cases hcut with
  | @closed a b =>
    refine ⟨b, ?_⟩
    rw [List.cons_append, List.append_assoc, List.singleton_append]
  | unclosed => exact List.prefix_rfl
  | port => exact List.prefix_append _ _
  | plain => exact List.prefix_rfl

theorem head?_lower {s : List Char} :
    (s.map Char.toLower).head? = some '[' ↔ s.head? = some '[' := by
  rw [List.head?_map, Option.map_eq_some_iff]
  simp [toLower_eq_iff (d := '[') (by decide)]

/-- Small letters are cut as capitals are. -/
theorem Cut.lower {s t : List Char} (h : Cut s t) :
    Cut (s.map Char.toLower) (t.map Char.toLower) := by
  have hclose : ∀ {a : List Char}, ']' ∉ a → ']' ∉ a.map Char.toLower :=
    mt (mem_lower_iff (by decide)).mp
  cases h with
  | closed ha =>
    simp only [List.map_cons, List.map_append]
    exact .closed (hclose ha)
  | unclosed hs => exact .unclosed (hclose hs)
  | port hname hport =>
    simp only [List.map_cons, List.map_append]
    refine .port (mt head?_lower.mp hname) ?_
    rw [all_isDigit_lower, hport]
  | plain hhead hplain =>
    refine .plain (mt head?_lower.mp hhead) ?_
    intro name port he
    obtain ⟨name', rest, rfl, rfl, hrest⟩ := List.map_eq_append_iff.mp he
    obtain ⟨c, port', rfl, hc, rfl⟩ := List.map_eq_cons_iff.mp hrest
    rw [toLower_eq_iff (by decide)] at hc
    rw [all_isDigit_lower, hplain name' port' (by rw [hc])]

/-- The case of letters makes no difference to where a host is cut. -/
theorem withoutPort_lower (s : List Char) :
    withoutPort (s.map Char.toLower) = (withoutPort s).map Char.toLower :=
  (cut_withoutPort s).lower.withoutPort_eq

/-! ## Hosts that stay -/

/-- Nothing of the host is taken for a port: it is an address in brackets that close at its end, or
    it does not begin with a bracket and no colon in it has only digits behind it, or nothing. -/
def Portless (host : List Char) : Prop :=
  (∃ address, host = '[' :: (address ++ [']']) ∧ ']' ∉ address) ∨
    host.head? ≠ some '[' ∧
      ∀ name port, host = name ++ ':' :: port → port.all Char.isDigit = false

/-- A portless host is left whole. -/
theorem Portless.withoutPort_eq {host : List Char} (h : Portless host) :
    withoutPort host = host := by
  rcases h with ⟨address, rfl, haddress⟩ | ⟨hhead, hplain⟩
  · exact (Cut.closed haddress).withoutPort_eq
  · exact (Cut.plain hhead hplain).withoutPort_eq

/-- A port behind it is cut off, and nothing else. -/
theorem Portless.withoutPort_port {host port : List Char} (h : Portless host)
    (hport : port.all Char.isDigit = true) : withoutPort (host ++ ':' :: port) = host := by
  rcases h with ⟨address, rfl, haddress⟩ | ⟨hhead, -⟩
  · rw [List.cons_append, List.append_assoc, List.singleton_append]
    exact (Cut.closed haddress).withoutPort_eq
  · exact (Cut.port hhead hport).withoutPort_eq

/-- A host of which nothing is lost, with a port behind it and without one, is portless. -/
theorem portless_of_length {host port : List Char} (hport : port.all Char.isDigit = true)
    (halone : (withoutPort host).length = host.length)
    (hbefore : (withoutPort (host ++ ':' :: port)).length = host.length) : Portless host := by
  have hcut := cut_withoutPort host
  generalize withoutPort host = t at hcut halone
  cases hcut with
  | @closed a b ha =>
    have hb : b = [] := by simpa using halone
    rw [hb]
    exact .inl ⟨a, rfl, ha⟩
  | @unclosed s hs =>
    -- the bracket is not closed behind the port either, so the port stays
    have hopen : ']' ∉ s ++ ':' :: port := by
      rw [List.mem_append, List.mem_cons, not_or, not_or]
      exact ⟨hs, by decide, fun hmem => absurd (List.all_eq_true.mp hport ']' hmem) (by decide)⟩
    rw [List.cons_append, (Cut.unclosed hopen).withoutPort_eq] at hbefore
    simp at hbefore
  | @port name port' =>
    rw [List.length_append, List.length_cons] at halone
    omega
  | plain hhead hplain => exact .inr ⟨hhead, hplain⟩

/-- Being portless does not depend on the case of letters. -/
theorem Portless.of_lower {host host' : List Char} (h : Portless host)
    (hsame : host'.map Char.toLower = host.map Char.toLower) : Portless host' := by
  have hlength : host'.length = host.length := by
    have := congrArg List.length hsame
    rwa [List.length_map, List.length_map] at this
  -- lengths are the same in small letters
  have hcut : ∀ s t : List Char, s.map Char.toLower = t.map Char.toLower →
      (withoutPort s).length = (withoutPort t).length := by
    intro s t hst
    rw [← List.length_map Char.toLower, ← withoutPort_lower, hst, withoutPort_lower,
      List.length_map]
  have hnone : [].all Char.isDigit = true := rfl
  refine portless_of_length hnone ?_ ?_
  · rw [hcut _ _ hsame, h.withoutPort_eq, hlength]
  · rw [hcut _ (host ++ [':']), h.withoutPort_port hnone, hlength]
    rw [List.map_append, List.map_append, hsame]

end Turnpike.Route
