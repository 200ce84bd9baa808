/-
  The text of a URL determines its authority.

  When a server is put again, the pool of its backend compares the texts of the two URLs only, and
  leaves the endpoint as it is when they are the same.  But requests are sent to a host and a port.
  URLs with one text may have been given in different spellings, and the text leaves out a port that
  is the usual one.  So one may ask whether the endpoint could be left at a place that is not the
  one of the new URL.

  1. **Separators** (`Lacks`).  In the text of an HTTP URL the authority ends at the first slash,
     the user part at the only at sign before it, and the host at its colon or, for an address of
     version 6, at its closing bracket.  The text can be taken apart if none of these characters
     occurs in what stands before it.

  2. **How texts come about.**  Users and passwords are encoded, with all separators among what is
     encoded (`lacks_encodeText`).  Addresses are digits with dots or colons, and in the names of
     hosts separators are forbidden; these are the two forms of `HostText`.  The path begins with a
     slash.

  3. **Parsed URLs** (`Regular`).  So every HTTP URL that was parsed has parts that its text can be
     taken apart by (`regular_of_parse`).  That is followed through the parser, along the branch for
     this scheme.

  4. **Taking apart.**  From the left to the right: the user part (`userText_inj`), and then the
     host and the port (`hostText_inj`).

  5. **Outcome** (`authority_eq_of_text`).  URLs that are written alike have the same host and the
     same port, the usual one where none is written.  So whether requests can be sent to a server
     depends on the text of its URL only (`reachable_of_text`).
-/
import Mathlib.Data.List.Basic
import Turnpike.Proofs.Balance.Pool
import Turnpike.Proofs.Result
import Turnpike.Proofs.Text.Split
import Turnpike.Url.Parser

namespace Turnpike.Url

open Turnpike.Text Turnpike.Address

/-! ## Digits and separators -/

/-- None of these characters occurs in the text. -/
def Lacks (marks s : List Char) : Prop := ∀ c ∈ s, c ∉ marks

-- the characters of the text are gone through, not all that there are
instance (marks s : List Char) : Decidable (Lacks marks s) := List.decidableBAll (· ∉ marks) s

/-- What occurs in neither part does not occur in the whole. -/
theorem Lacks.append {marks s t : List Char} (hs : Lacks marks s) (ht : Lacks marks t) :
    Lacks marks (s ++ t) := by
  intro c hc
  rcases List.mem_append.mp hc with h | h
  · exact hs c h
  · exact ht c h

theorem Lacks.mono {marks marks' s : List Char} (h : Lacks marks s)
    (hsub : marks' ⊆ marks) : Lacks marks' s := fun c hc hmark => h c hc (hsub hmark)

theorem Lacks.not_mem {marks s : List Char} (h : Lacks marks s) {c : Char} (hc : c ∈ marks) :
    c ∉ s := fun hmem => h c hmem hc

/-- Parts and separators that lack characters make a text that lacks them. -/
theorem lacks_intercalate {marks sep : List Char} {ls : List (List Char)}
    (hsep : Lacks marks sep) (h : ∀ l ∈ ls, Lacks marks l) : Lacks marks (sep.intercalate ls) := by
  induction ls with
  | nil => exact nofun
  | cons l ls ih =>
    cases ls with
    | nil =>
      rw [List.intercalate_singleton]
      exact h l List.mem_cons_self
    | cons l' ls =>
      rw [List.intercalate_cons_cons]
      exact ((h l List.mem_cons_self).append hsep).append
        (ih fun x hx => h x (List.mem_cons_of_mem _ hx))

/-- What may not occur in the text of a host, but for the brackets and colons of version 6. -/
def marks : List Char := ['/', '@', '[', ']', ':']

/-- Numbers are written without separators. -/
theorem lacks_toDigits (n : Nat) : Lacks marks (Nat.toDigits 10 n) := by
  intro c hc hmark
  have hdigit := Nat.isDigit_of_mem_toDigits (by decide) (by decide) hc
  have hnone : marks.all (fun m => !m.isDigit) = true := by decide
  have hnot := List.all_eq_true.mp hnone c hmark
  rw [hdigit] at hnot
  cases hnot

theorem hexDigit_not_mem_marks : ∀ n < 16, Quoted.hexDigit n ∉ marks := by decide

theorem toUpper_hexDigit_not_mem_marks : ∀ n < 16, (Quoted.hexDigit n).toUpper ∉ marks := by decide

/-- Hexadecimal numbers are written without separators. -/
theorem lacks_hex (n : Nat) : Lacks marks (Quoted.hex n) := by
  induction n using Quoted.hex.induct with
  | case1 n hn =>
    rw [Quoted.hex, if_pos hn]
    intro c hc
    obtain rfl := List.mem_singleton.mp hc
    exact hexDigit_not_mem_marks n hn
  | case2 n hn ih =>
    rw [Quoted.hex, if_neg hn]
    refine ih.append fun c hc => ?_
    obtain rfl := List.mem_singleton.mp hc
    exact hexDigit_not_mem_marks _ (Nat.mod_lt _ (by decide))

/-- So are bytes that are encoded. -/
theorem lacks_percent (b : UInt8) : Lacks marks (percent b) := by
  have hb : b.toNat < 256 := UInt8.toNat_lt b
  intro c hc
  rw [percent, List.mem_cons, List.mem_cons, List.mem_singleton] at hc
  rcases hc with rfl | rfl | rfl
  · decide
  · exact toUpper_hexDigit_not_mem_marks _ (by omega)
  · exact toUpper_hexDigit_not_mem_marks _ (by omega)

/-- Whatever the set holds besides, its characters do not occur in what it encodes. -/
theorem lacks_encodeText {set : Char → Bool} {ms : List Char} (hms : ms ⊆ marks)
    (hset : ms.all set = true) (s : List Char) : Lacks ms (encodeText set s) := by
  intro c hc hmark
  obtain ⟨d, -, hd⟩ := List.mem_flatMap.mp hc
  unfold encodeChar at hd
  -- a character is encoded, or it was none of these
  split at hd
  case isTrue =>
    obtain ⟨b, -, hb⟩ := List.mem_flatMap.mp hd
    exact lacks_percent b c hb (hms hmark)
  case isFalse hplain =>
    obtain rfl := List.mem_singleton.mp hd
    rw [List.all_eq_true.mp hset c hmark, Bool.or_true] at hplain
    exact hplain rfl

/-! ## Hosts -/

/-- What may not occur between the brackets of an address of version 6. -/
def innerMarks : List Char := ['/', '@', '[', ']']

/-- The text of a host: without separators, or in brackets. -/
inductive HostText : List Char → Prop where
  | plain {s : List Char} : Lacks marks s → HostText s
  | bracketed {s : List Char} : Lacks innerMarks s → HostText ('[' :: (s ++ [']']))

/-- Groups of version 6 have colons between them, and nothing else. -/
theorem lacks_groupsText (gs : List Nat) : Lacks innerMarks (groupsText gs).toList := by
  rw [groupsText, String.toList_intercalate]
  refine lacks_intercalate (by decide) fun l hl => ?_
  obtain ⟨t, ht, rfl⟩ := List.mem_map.mp hl
  obtain ⟨n, -, rfl⟩ := List.mem_map.mp ht
  rw [groupText, String.toList_ofList]
  exact (lacks_hex n).mono (by decide)

/-- So do groups of which zeros are left out. -/
theorem lacks_compressed (gs : List Nat) : Lacks innerMarks (compressed gs).toList := by
  unfold compressed
  dsimp only
  split
  case isTrue =>
    rw [String.toList_append, String.toList_append]
    exact ((lacks_groupsText _).append (by decide)).append (lacks_groupsText _)
  case isFalse => exact lacks_groupsText gs

/-- Addresses of version 4 have dots between their numbers. -/
theorem lacks_dottedText (a b c d : Nat) : Lacks marks (dottedText a b c d).toList := by
  rw [dottedText, String.toList_intercalate]
  refine lacks_intercalate (by decide) fun l hl => ?_
  obtain ⟨t, ht, rfl⟩ := List.mem_map.mp hl
  obtain ⟨n, -, rfl⟩ := List.mem_map.mp ht
  show Lacks marks n.repr.toList
  rw [Nat.toList_repr]
  exact lacks_toDigits n

/-- An address of version 6 stands in brackets. -/
theorem hostText_of_bracketed {s : List Char} {h : Host} (hs : bracketed s = .ok h) :
    HostText h.text.toList := by
  unfold bracketed at hs
  split at hs
  case h_1 =>
    split at hs
    case h_1 gs _ =>
      cases hs
      rw [Host.text, String.toList_append, String.toList_append]
      exact .bracketed (lacks_compressed gs)
    case h_2 => cases hs
  case h_2 => cases hs

/-- A name that is an address is one of version 4. -/
theorem v4_of_nameAddress? {name : List Char} {ip : Ip} (h : nameAddress? name = some ip) :
    ∃ a b c d, ip = .v4 a b c d := by
  obtain ⟨ns, -, hns⟩ := Option.bind_eq_some_iff.mp h
  unfold assembleV4 at hns
  split at hns
  case h_1 => cases hns
  case h_2 =>
    dsimp only at hns
    split at hns
    case isTrue => cases hns
    case isFalse => cases hns; exact ⟨_, _, _, _, rfl⟩

/-- In names separators are forbidden. -/
theorem lacks_asciiName? {name ascii : List Char} (h : asciiName? name = some ascii) :
    Lacks marks ascii := by
  simp only [asciiName?, Option.bind_eq_bind, Option.bind_eq_some_iff, Option.ite_none_right_eq_some,
    Option.some.injEq] at h
  obtain ⟨-, -, labels, -, hclean, rfl⟩ := h
  intro c hc hmark
  have hforbidden : marks.all isForbidden = true := by decide
  simp only [Bool.and_eq_true, Bool.not_eq_true'] at hclean
  exact absurd (List.any_eq_true.mpr ⟨c, hc, List.all_eq_true.mp hforbidden c hmark⟩)
    (by simp [hclean.2])

/-- A host of one of the known schemes has one of the two forms. -/
theorem hostText_of_specialHost {s : List Char} {h : Host} (hs : specialHost s = .ok h) :
    HostText h.text.toList := by
  unfold specialHost at hs
  split at hs
  case h_1 => exact hostText_of_bracketed hs
  case h_2 =>
    split at hs
    case h_1 => cases hs
    case h_2 => cases hs
    case h_3 name _ hname =>
      split at hs
      case isTrue =>
        split at hs
        case h_1 ip hip =>
          cases hs
          obtain ⟨a, b, c, d, rfl⟩ := v4_of_nameAddress? hip
          exact .plain (lacks_dottedText a b c d)
        case h_2 => cases hs
      case isFalse =>
        cases hs
        rw [Host.text, String.toList_ofList]
        exact .plain (lacks_asciiName? hname)

/-! ## Whole URLs -/

/-- The parts of an HTTP URL that its text can be taken apart by. -/
structure Regular (u : Url) : Prop where
  scheme : u.scheme = "http"
  user : u.userText = "" ∨ ∃ w, u.userText.toList = w ++ ['@'] ∧ Lacks ['/', '@'] w
  host : ∃ h, u.host = some h ∧ HostText h.text.toList
  path : ∃ r, u.path.toList = '/' :: r

/-- A path with segments has some when its dots are resolved. -/
theorem resolve_ne_nil {done ls : List (List Char)} (h : done ≠ [] ∨ ls ≠ []) :
    resolve done ls ≠ [] := by
  fun_induction resolve done ls with
  | case1 done => simpa using h
  | case2 => simp
  | case3 => simp
  | case4 => simp
  | case5 done s r hr hdouble ih => exact ih (Or.inr hr)
  | case6 done s r hr hdouble hsingle ih => exact ih (Or.inr hr)
  | case7 done s r hr hdouble hsingle ih => exact ih (Or.inr hr)

/-- A path begins with a slash. -/
theorem pathText_cons (special : Bool) (s : List Char) : ∃ r, pathText special s = '/' :: r := by
  have hcons : ∀ ls : List (List Char), ls ≠ [] → ∃ r, ls.flatMap ('/' :: ·) = '/' :: r := by
    intro ls hls
    obtain ⟨l, ls, rfl⟩ := List.exists_cons_of_ne_nil hls
    exact ⟨_, rfl⟩
  refine hcons _ (resolve_ne_nil (Or.inr ?_))
  exact fun hnil => splitAll_ne_nil _ _ (List.map_eq_nil_iff.mp hnil)

/-- The user part ends with the only at sign in it. -/
theorem userText_of_userParts (u : Url) (user : List Char)
    (hname : u.username = (userParts user).1) (hpass : u.password = (userParts user).2) :
    u.userText = "" ∨ ∃ w, u.userText.toList = w ++ ['@'] ∧ Lacks ['/', '@'] w := by
  have hencoded (s : List Char) : Lacks ['/', '@'] (encodeText inUser s) :=
    lacks_encodeText (by decide) (by decide) s
  unfold userText
  split
  case isTrue => exact Or.inl rfl
  case isFalse =>
    refine Or.inr ⟨(u.username ++ (u.password.map (":" ++ ·)).getD "").toList, ?_, ?_⟩
    · rw [String.toList_append]
      rfl
    · rw [String.toList_append, hname, hpass]
      unfold userParts
      dsimp only
      have hcolon : Lacks ['/', '@'] ":".toList := by decide
      split
      case h_1 =>
        rw [String.toList_ofList, Option.map_none, Option.getD_none]
        exact (hencoded _).append (by decide)
      case h_2 =>
        rw [String.toList_ofList, Option.map_none, Option.getD_none]
        exact (hencoded _).append (by decide)
      case h_3 name password _ _ =>
        rw [String.toList_ofList, Option.map_some, Option.getD_some, String.toList_append,
          String.toList_ofList (l := encodeText inUser password)]
        exact (hencoded _).append (hcolon.append (hencoded _))

/-- An authority has been read as a user, a host and a port. -/
theorem withAuthority_eq_ok {u v : Url} {text : List Char} (h : withAuthority u text = .ok v) :
    ∃ user host port h p, readHost (isSpecial u.scheme) host port = .ok h ∧
      v = { u with username := (userParts user).1, password := (userParts user).2,
                   host := some h, port := p } := by
  unfold withAuthority at h
  dsimp only at h
  split at h
  all_goals
    split at h
    case isTrue => cases h
    case isFalse =>
      obtain ⟨host, hhost, h⟩ := Result.bind_eq_ok.mp h
      split at h
      case isTrue => cases h
      case isFalse =>
        obtain ⟨port, -, h⟩ := Result.bind_eq_ok.mp h
        cases h
        exact ⟨_, _, _, host, port, hhost, rfl⟩

/-- A host that was read has one of the two forms. -/
theorem hostText_of_readHost {host port : List Char} {h : Host}
    (hhost : readHost true host port = .ok h) : HostText h.text.toList := by
  rw [readHost, if_pos rfl] at hhost
  split at hhost
  case isTrue => cases hhost
  case isFalse => exact hostText_of_specialHost hhost

/-- What is read behind the scheme has the parts that are needed. -/
theorem regular_of_readRest {u v : Url} {s : List Char} (hu : u.scheme = "http")
    (h : readRest u s = .ok v) : Regular v := by
  unfold readRest at h
  obtain ⟨w, hw, h⟩ := Result.bind_eq_ok.mp h
  obtain ⟨user, host, port, a, p, hhost, rfl⟩ := withAuthority_eq_ok hw
  cases h
  have hspecial : isSpecial u.scheme = true := by rw [hu]; decide
  rw [hspecial] at hhost
  refine ⟨hu, userText_of_userParts _ user rfl rfl, ⟨a, rfl, hostText_of_readHost hhost⟩, ?_⟩
  unfold withTail
  dsimp only
  rw [hspecial, String.toList_ofList]
  exact pathText_cons true _

/-- The rest does not change the scheme. -/
theorem scheme_of_readRest {u v : Url} {s : List Char} (h : readRest u s = .ok v) :
    v.scheme = u.scheme := by
  unfold readRest at h
  obtain ⟨w, hw, h⟩ := Result.bind_eq_ok.mp h
  obtain ⟨user, host, port, a, p, -, rfl⟩ := withAuthority_eq_ok hw
  cases h
  rfl

/-- Nor does it for files. -/
theorem scheme_of_readFile {u v : Url} {s : List Char} (h : readFile u s = .ok v) :
    v.scheme = u.scheme := by
  unfold readFile at h
  dsimp only at h
  split at h
  case h_1 =>
    split at h
    case isTrue =>
      split at h
      case h_1 => cases h; rfl
      case h_2 =>
        obtain ⟨host, -, h⟩ := Result.bind_eq_ok.mp h
        cases h
        rfl
    case isFalse => cases h; rfl
  case h_2 => cases h; rfl

/-- Every HTTP URL that is parsed can be taken apart. -/
theorem regular_of_parse {s : String} {u : Url} (h : parse s = .ok u) (hu : u.scheme = "http") :
    Regular u := by
  unfold parse at h
  -- files have no authority of this form, and they are no HTTP URLs
  split at h
  case h_1 => cases h
  case h_2 scheme r _ =>
    dsimp only at h
    split at h
    case isTrue hfile =>
      have hscheme := scheme_of_readFile h
      rw [hu, hfile] at hscheme
      exact absurd hscheme (by decide)
    case isFalse =>
      split at h
      case isTrue =>
        have hscheme := scheme_of_readRest h
        exact regular_of_readRest (hscheme.symm.trans hu) h
      case isFalse hplain =>
        -- `http` is special, so this is not its branch
        have hscheme : u.scheme = scheme := by
          split at h
          case h_1 => exact scheme_of_readRest h
          case h_2 => cases h; rfl
          case h_3 => cases h; rfl
        rw [← hscheme, hu] at hplain
        exact absurd (by decide) hplain

/-! ## Taking a text apart -/

/-- The port as it is written behind the host. -/
def portText (u : Url) : List Char := (u.port.map fun p => ':' :: Nat.toDigits 10 p).getD []

/-- A port is a colon and digits. -/
theorem lacks_portText (u : Url) : Lacks ['/', '@', '[', ']'] u.portText := by
  unfold portText
  cases u.port with
  | none => exact nofun
  | some p =>
    intro c hc
    rcases List.mem_cons.mp hc with rfl | hc
    · decide
    · exact (lacks_toDigits p).mono (by decide) c hc

/-- The text of an HTTP URL, taken apart. -/
theorem Regular.text_eq {u : Url} (hu : Regular u) : ∃ h r, u.host = some h ∧
    HostText h.text.toList ∧ u.text.toList =
      "http://".toList ++ ((u.userText.toList ++ (h.text.toList ++ u.portText)) ++ '/' :: r) := by
  obtain ⟨h, hhost, htext⟩ := hu.host
  obtain ⟨r, hr⟩ := hu.path
  refine ⟨h, r ++ ((u.query.map ("?" ++ ·)).getD "").toList ++
    ((u.fragment.map ("#" ++ ·)).getD "").toList, hhost, htext, ?_⟩
  have hport : ((u.port.map fun p => ":" ++ toString p).getD "").toList = u.portText := by
    unfold portText
    cases u.port with
    | none => rfl
    | some p =>
      rw [Option.map_some, Option.map_some, Option.getD_some, Option.getD_some,
        String.toList_append]
      show ":".toList ++ p.repr.toList = _
      rw [Nat.toList_repr]
      rfl
  unfold text
  rw [hhost, hu.scheme]
  simp only [String.toList_append, hport, hr, List.append_assoc, List.cons_append]
  rfl

/-- The user part reaches to the first at sign before the path. -/
theorem userText_inj {u v : Url} (hu : u.userText = "" ∨ ∃ w, u.userText.toList = w ++ ['@'] ∧
      Lacks ['/', '@'] w) (hv : v.userText = "" ∨ ∃ w, v.userText.toList = w ++ ['@'] ∧
      Lacks ['/', '@'] w) {s t : List Char} (hs : '@' ∉ s) (ht : '@' ∉ t)
    (h : u.userText.toList ++ s = v.userText.toList ++ t) : s = t := by
  -- without a user there is no at sign at all
  rcases hu with hu | ⟨w, hw, hlacks⟩
  · rcases hv with hv | ⟨w', hw', hlacks'⟩
    · rw [hu, hv] at h
      exact h
    · rw [hu, hw'] at h
      have hmem : '@' ∈ s := by
        show '@' ∈ "".toList ++ s
        rw [h]
        simp
      exact absurd hmem hs
  · rcases hv with hv | ⟨w', hw', hlacks'⟩
    · rw [hv, hw] at h
      have hmem : '@' ∈ t := by
        show '@' ∈ "".toList ++ t
        rw [← h]
        simp
      exact absurd hmem ht
    · rw [hw, hw', List.append_assoc, List.append_assoc] at h
      exact (append_cons_inj (hlacks.not_mem (by decide)) (hlacks'.not_mem (by decide)) h).2

/-- A host ends at the colon of the port, unless it is in brackets. -/
theorem hostText_inj {s t p q : List Char} (hs : HostText s) (ht : HostText t)
    (hp : p = [] ∨ ∃ r, p = ':' :: r) (hq : q = [] ∨ ∃ r, q = ':' :: r)
    (h : s ++ p = t ++ q) : s = t ∧ p = q := by
  have hopen {s t p : List Char} (hs : Lacks marks s) (hp : p = [] ∨ ∃ r, p = ':' :: r) :
      s ++ p ≠ '[' :: t := by
    intro heq
    cases s with
    | cons c s =>
      obtain rfl := (List.cons.inj heq).1
      exact hs '[' List.mem_cons_self (by decide)
    | nil =>
      rcases hp with rfl | ⟨r, rfl⟩
      · cases heq
      · exact absurd (List.cons.inj heq).1 (by decide)
  cases hs with
  | plain hs =>
    cases ht with
    | bracketed ht => exact absurd h (hopen hs hp)
    | plain ht =>
      have hcs : ':' ∉ s := hs.not_mem (by decide)
      have hct : ':' ∉ t := ht.not_mem (by decide)
      rcases hp with rfl | ⟨r, rfl⟩
      · rcases hq with rfl | ⟨r', rfl⟩
        · rw [List.append_nil, List.append_nil] at h
          exact ⟨h, rfl⟩
        · rw [List.append_nil] at h
          exact absurd (by rw [h]; simp) hcs
      · rcases hq with rfl | ⟨r', rfl⟩
        · rw [List.append_nil] at h
          exact absurd (by rw [← h]; simp) hct
        · obtain ⟨rfl, rfl⟩ := append_cons_inj hcs hct h
          exact ⟨rfl, rfl⟩
  | bracketed hs =>
    rename_i s
    cases ht with
    | plain ht => exact absurd h.symm (hopen ht hq)
    | bracketed ht =>
      rename_i t
      have hinner : s ++ ']' :: p = t ++ ']' :: q := by simpa using h
      obtain ⟨rfl, rfl⟩ :=
        append_cons_inj (hs.not_mem (by decide)) (ht.not_mem (by decide)) hinner
      exact ⟨rfl, rfl⟩

/-- There is no slash in a host, and no at sign. -/
theorem HostText.not_mem {s : List Char} (hs : HostText s) {c : Char} (hc : c = '/' ∨ c = '@') :
    c ∉ s := by
  cases hs with
  | plain hs => exact hs.not_mem (by rcases hc with rfl | rfl <;> decide)
  | bracketed hs =>
    have hinner := hs.not_mem (c := c) (by rcases hc with rfl | rfl <;> decide)
    rcases hc with rfl | rfl
    · simpa using hinner
    · simpa using hinner

/-- There is no slash before the path, and no at sign behind the user part. -/
theorem not_mem_authority {u : Url} {h : Host} (hu : Regular u) (hh : HostText h.text.toList) :
    '/' ∉ u.userText.toList ++ (h.text.toList ++ u.portText) ∧
      '@' ∉ h.text.toList ++ u.portText := by
  have huser : '/' ∉ u.userText.toList := by
    rcases hu.user with hnil | ⟨w, hw, hlacks⟩
    · rw [hnil]
      decide
    · have hslash : '/' ∉ w := hlacks.not_mem (by decide)
      rw [hw]
      simp [hslash]
  have hslash := hh.not_mem (Or.inl rfl)
  have hat := hh.not_mem (Or.inr rfl)
  have hport : '/' ∉ u.portText := (lacks_portText u).not_mem (by decide)
  have hport' : '@' ∉ u.portText := (lacks_portText u).not_mem (by decide)
  simp [huser, hslash, hat, hport, hport']

/-- A port is not written, or it begins with a colon. -/
theorem portText_cases (u : Url) : u.portText = [] ∨ ∃ r, u.portText = ':' :: r := by
  unfold portText
  cases u.port with
  | none => exact Or.inl rfl
  | some p => exact Or.inr ⟨_, rfl⟩

/-- The port that is meant, by what is written. -/
theorem toList_effectivePort {u : Url} (hu : u.scheme = "http") :
    ':' :: (toString u.effectivePort).toList =
      if u.portText = [] then ":80".toList else u.portText := by
  unfold effectivePort portText
  rw [hu]
  cases u.port with
  | none => rfl
  | some p =>
    rw [Option.map_some, Option.getD_some, Option.getD_some, if_neg (List.cons_ne_nil _ _)]
    show ':' :: p.repr.toList = _
    rw [Nat.toList_repr]

/-- The place to send requests to is the host and the port that is meant. -/
theorem toList_authorityOf {u : Url} {h : Host} (hu : u.scheme = "http") (hh : u.host = some h) :
    (Balance.authorityOf u).toList =
      h.text.toList ++ if u.portText = [] then ":80".toList else u.portText := by
  have hcolon : ":".toList = [':'] := rfl
  rw [Balance.authorityOf, hh, Option.map_some, Option.getD_some, String.toList_append,
    String.toList_append, List.append_assoc, hcolon, List.singleton_append,
    toList_effectivePort hu]

/-- HTTP URLs that are written alike lead to the same host and port. -/
theorem authority_eq_of_text {u v : Url} (hu : Regular u) (hv : Regular v)
    (h : u.text = v.text) : Balance.authorityOf u = Balance.authorityOf v := by
  obtain ⟨a, r, ha, hat, hut⟩ := hu.text_eq
  obtain ⟨b, r', hb, hbt, hvt⟩ := hv.text_eq
  obtain ⟨hslash, hmark⟩ := not_mem_authority hu hat
  obtain ⟨hslash', hmark'⟩ := not_mem_authority hv hbt
  rw [h, hvt] at hut
  have hauthority := (append_cons_inj hslash' hslash (List.append_cancel_left hut)).1
  have hhostport := userText_inj hv.user hu.user hmark' hmark hauthority
  obtain ⟨hhost, hport⟩ := hostText_inj hbt hat (portText_cases v) (portText_cases u) hhostport
  rw [← String.toList_inj, toList_authorityOf hu.scheme ha, toList_authorityOf hv.scheme hb, hhost,
    hport]

/-- The URL of a server can be taken apart. -/
theorem regular_of_parsedUrl {s : Entity.Server} {u : Url} (h : s.parsedUrl = .ok u) :
    Regular u := by
  unfold Entity.Server.parsedUrl at h
  split at h
  case h_1 v hparse =>
    split at h
    case isTrue hhttp =>
      cases h
      exact regular_of_parse hparse hhttp.1
    case isFalse => cases h
  case h_2 => cases h

/-- Whether requests can be sent to a server depends on the text of its URL only. -/
theorem reachable_of_text {s s' : Entity.Server} {u v : Url} (h : Balance.Reachable s u)
    (hv : s'.parsedUrl = .ok v) (htext : u.text = v.text) : Balance.Reachable s' v := by
  refine ⟨hv, ?_⟩
  rw [← authority_eq_of_text (regular_of_parsedUrl h.1) (regular_of_parsedUrl hv) htext]
  exact h.2

end Turnpike.Url
