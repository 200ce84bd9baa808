/-
  Tokens of hosts.

  A limiter that counts by host should charge all requests for one host to one token, whichever
  port, user or case of letters they were written with.  What it does charge them to is worked out
  here.

  1. **Authorities** (`Authority`).  The authority of a request is a host, maybe with a user before
     it and a port behind it.  The user may have colons, an address of version 6 has some of its
     own, and what can be taken for a port is cut off without looking at where it stands.  But
     behind a colon of the user there is the at sign, and behind one of an address the bracket that
     closes it, so nothing but the port is cut (`Authority.withoutPort_text`).

  2. **The token** (`token_requestHost`).  The token is cut from the whole authority: the port goes,
     and letters become small, but the part before the at sign stays.

  3. **What that means** (`token_requestHost_iff`).  A host cannot contain an at sign, so the user
     and the host can be told from what is left (`siteText_inj_iff`).  So the token is that of the
     host exactly when no user stands before it, and requests share a token exactly when they have
     the same host and the same user (`user_changes_token`).
-/
import Turnpike.Proofs.Route.Ports
import Turnpike.Proofs.Url.Authority
import Turnpike.Traffic.Payer

namespace Turnpike.Traffic

open Turnpike.Text Turnpike.Http Turnpike.Route
open Turnpike.Url (Lacks)

/-! ## Authorities -/

/-- A host: a name, or an address of version 4, which have no colons; or an address of version 6 in
    brackets. -/
inductive IsHost : List Char → Prop where
  | name {s : List Char} : s ≠ [] → Lacks [':', '[', ']', '@'] s → IsHost s
  | literal {s : List Char} : Lacks ['[', ']', '@'] s → IsHost ('[' :: (s ++ [']']))

/-- An authority: a host, maybe with a user before it and a port behind it. -/
structure Authority where
  user : Option String
  host : String
  port : Option String
  user_lacks : ∀ u, user = some u → Lacks ['[', ']', '@'] u.toList
  isHost : IsHost host.toList
  port_digits : ∀ p, port = some p → p.toList.all Char.isDigit = true

/-- A host, and the user before it, if there is one. -/
def siteText (user : Option String) (host : String) : List Char :=
  match user with
  | none => host.toList
  | some u => u.toList ++ '@' :: host.toList

/-- What stands before the port. -/
def Authority.site (a : Authority) : List Char := siteText a.user a.host

/-- How the authority is written. -/
def Authority.text (a : Authority) : String :=
  match a.port with
  | none => String.ofList a.site
  | some p => String.ofList (a.site ++ ':' :: p.toList)

theorem IsHost.ne_nil {s : List Char} (h : IsHost s) : s ≠ [] := by
  cases h with
  | name hne => exact hne
  | literal => exact List.cons_ne_nil _ _

/-- There is no at sign in a host. -/
theorem IsHost.at_not_mem {s : List Char} (h : IsHost s) : '@' ∉ s := by
  cases h with
  | name _ hlacks => exact hlacks.not_mem (by decide)
  | literal hlacks =>
    have hat : '@' ∉ _ := hlacks.not_mem (by decide)
    simpa using hat

/-- What has something else in it does not consist of digits. -/
theorem all_isDigit_eq_false {c : Char} {port : List Char} (hc : c ∈ port)
    (hdigit : c.isDigit = false) : port.all Char.isDigit = false := by
  refine List.all_eq_false.mpr ⟨c, hc, ?_⟩
  rw [hdigit]
  exact Bool.false_ne_true

/-- Behind a colon of a host stands the bracket that closes it. -/
theorem IsHost.behind_colon {s name port : List Char} (h : IsHost s)
    (hs : s = name ++ ':' :: port) : ']' ∈ port := by
  cases h with
  | name _ hlacks =>
    have hcolon : ':' ∉ s := hlacks.not_mem (by decide)
    rw [hs] at hcolon
    exact absurd (List.mem_append_right name List.mem_cons_self) hcolon
  | @literal s =>
    have hclose : ('[' :: s) ++ [']'] = name ++ ':' :: port := hs
    -- the last character is the bracket, so it is behind any colon
    rcases port.eq_nil_or_concat with rfl | ⟨init, last, rfl⟩
    · have hlast := (List.append_inj' hclose rfl).2
      exact absurd (List.cons.inj hlast).1 (by decide)
    · rw [List.concat_eq_append, ← List.cons_append, ← List.append_assoc] at hclose
      rw [List.concat_eq_append, ← (List.append_inj' hclose rfl).2]
      exact List.mem_append_right init List.mem_cons_self

/-- A host by itself has no port. -/
theorem IsHost.portless {s : List Char} (h : IsHost s) : Portless s := by
  cases h with
  | @name s hne hlacks =>
    refine .inr ⟨?_, ?_⟩
    · intro hhead
      exact hlacks.not_mem (c := '[') (by decide) (List.mem_of_head? hhead)
    · intro name port hs
      exact all_isDigit_eq_false ((IsHost.name hne hlacks).behind_colon hs) (by decide)
  | literal hlacks => exact .inl ⟨_, rfl, hlacks.not_mem (by decide)⟩

/-- With a user before it a host has no port either: a colon of the user has the at sign behind
    it. -/
theorem IsHost.portless_user {u s : List Char} (h : IsHost s) (hu : Lacks ['[', ']', '@'] u) :
    Portless (u ++ '@' :: s) := by
  refine .inr ⟨?_, ?_⟩
  · cases u with
    | nil => exact fun hhead => absurd (Option.some.inj hhead) (by decide)
    | cons c u =>
      intro hhead
      rw [Option.some.inj hhead] at hu
      exact hu '[' List.mem_cons_self (by decide)
  · intro name port he
    rcases List.append_eq_append_iff.mp he with ⟨x, -, hx⟩ | ⟨x, -, hx⟩
    · cases x with
      | nil => exact absurd (List.cons.inj hx).1 (by decide)
      | cons c x =>
        obtain ⟨-, hs⟩ := List.cons.inj hx
        exact all_isDigit_eq_false (h.behind_colon hs) (by decide)
    · cases x with
      | nil => exact absurd (List.cons.inj hx).1 (by decide)
      | cons c x =>
        obtain ⟨-, hport⟩ := List.cons.inj hx
        rw [hport]
        exact all_isDigit_eq_false (List.mem_append_right x List.mem_cons_self) (by decide)

/-- Of what stands before the port, nothing is taken for one. -/
theorem Authority.portless_site (a : Authority) : Portless a.site := by
  unfold site siteText
  cases hu : a.user with
  | none => exact a.isHost.portless
  | some u => exact a.isHost.portless_user (a.user_lacks u hu)

/-- Something does stand there. -/
theorem Authority.site_ne_nil (a : Authority) : a.site ≠ [] := by
  unfold site siteText
  cases a.user with
  | none => exact a.isHost.ne_nil
  | some u => exact List.append_ne_nil_of_right_ne_nil _ (List.cons_ne_nil _ _)

/-- Without the port, what stands before it is left. -/
theorem Authority.withoutPort_text (a : Authority) : withoutPort a.text.toList = a.site := by
  unfold text
  cases hp : a.port with
  | none => rw [String.toList_ofList, a.portless_site.withoutPort_eq]
  | some p => rw [String.toList_ofList, a.portless_site.withoutPort_port (a.port_digits p hp)]

/-- The user and the host become small, each by itself. -/
theorem siteText_lower (user : Option String) (host : String) :
    (siteText user host).map Char.toLower = siteText (user.map lowerAscii) (lowerAscii host) := by
  cases user with
  | none => exact (toList_lowerAscii host).symm
  | some u =>
    show _ = (lowerAscii u).toList ++ '@' :: (lowerAscii host).toList
    rw [toList_lowerAscii, toList_lowerAscii, siteText, List.map_append, List.map_cons]
    rfl

/-- The host begins behind the last at sign, if there is one. -/
theorem siteText_inj_iff {user user' : Option String} {host host' : String}
    (hhost : '@' ∉ host.toList) (hhost' : '@' ∉ host'.toList) :
    siteText user host = siteText user' host' ↔ host = host' ∧ user = user' := by
  have hsplit : ∀ {user host}, '@' ∉ host.toList →
      splitLast? '@' (siteText user host) = user.map fun u => (u.toList, host.toList) := by
    intro user host hhost
    cases user with
    | none => exact splitLast?_eq_none_iff.mpr hhost
    | some u => exact splitLast?_eq_some_iff.mpr ⟨rfl, hhost⟩
  constructor
  · intro h
    have hparts := congrArg (splitLast? '@') h
    rw [hsplit hhost, hsplit hhost'] at hparts
    cases user with
    | none =>
      obtain rfl := Option.map_eq_none_iff.mp hparts.symm
      exact ⟨String.toList_inj.mp h, rfl⟩
    | some u =>
      obtain ⟨u', rfl, hu⟩ := Option.map_eq_some_iff.mp hparts.symm
      rw [Prod.mk.injEq, String.toList_inj, String.toList_inj] at hu
      exact ⟨hu.2.symm, congrArg some hu.1.symm⟩
  · rintro ⟨rfl, rfl⟩
    rfl

/-- Up to the case of letters, what stands before the port is the user and the host. -/
theorem Authority.lower_site_inj_iff {a b : Authority} :
    a.site.map Char.toLower = b.site.map Char.toLower ↔
      lowerAscii a.host = lowerAscii b.host ∧ a.user.map lowerAscii = b.user.map lowerAscii := by
  have hat : ∀ c : Authority, '@' ∉ (lowerAscii c.host).toList := by
    intro c
    rw [toList_lowerAscii]
    exact mt (mem_lower_iff (by decide)).mp c.isHost.at_not_mem
  unfold site
  rw [siteText_lower, siteText_lower, siteText_inj_iff (hat a) (hat b)]

/-! ## Tokens -/

/-- The token is what stands before the port, in small letters. -/
theorem token_requestHost {a : Authority} {r : Request} (h : r.uri.authority = some a.text) :
    Payer.requestHost.token r = .ok (String.ofList (a.site.map Char.toLower)) := by
  have hhost : r.host? = some a.text := by rw [Request.host?, h]
  have hlower : lowerAscii (stripPort a.text) = String.ofList (a.site.map Char.toLower) := by
    rw [lowerAscii, stripPort, String.toList_ofList, a.withoutPort_text]
  have hne : String.ofList (a.site.map Char.toLower) ≠ "" := by
    intro hempty
    have hnil := congrArg String.toList hempty
    rw [String.toList_ofList] at hnil
    exact a.site_ne_nil (List.map_eq_nil_iff.mp hnil)
  have htoken : Payer.hostToken? a.text = some (String.ofList (a.site.map Char.toLower)) := by
    unfold Payer.hostToken?
    rw [hlower]
    exact if_neg hne
  unfold Payer.token
  rw [hhost, Option.bind_some, htoken]

/-- The token of a request is its host in small letters just when the request names no user.  Two
    requests have the same token just when they have the same host and the same user, up to the case
    of letters; their ports make no difference. -/
theorem token_requestHost_iff {a : Authority} {r : Request} (h : r.uri.authority = some a.text) :
    (Payer.requestHost.token r = .ok (lowerAscii a.host) ↔ a.user = none) ∧
      ∀ (b : Authority) (r' : Request), r'.uri.authority = some b.text →
        (Payer.requestHost.token r' = Payer.requestHost.token r ↔
          lowerAscii b.host = lowerAscii a.host ∧
            b.user.map lowerAscii = a.user.map lowerAscii) := by
  rw [token_requestHost h]
  refine ⟨?_, ?_⟩
  · -- the same authority without its user is written with the host only
    let host : Authority := { a with user := none, user_lacks := nofun }
    have hsite : lowerAscii a.host = String.ofList (host.site.map Char.toLower) := rfl
    rw [hsite, Except.ok.injEq, String.ofList_inj, Authority.lower_site_inj_iff]
    exact (and_iff_right rfl).trans Option.map_eq_none_iff
  -- the tokens agree when all that is left of both authorities does
  · intro b r' h'
    rw [token_requestHost h', Except.ok.injEq, String.ofList_inj, Authority.lower_site_inj_iff]

/-- An authority with a user and a port. -/
def namedUser : Authority where
  user := some "u"
  host := "a.com"
  port := some "80"
  user_lacks := by
    rintro u ⟨⟩
    decide
  isHost := .name (by decide) (by decide)
  port_digits := by
    rintro p ⟨⟩
    decide

/-- It is the authority of a request that is not charged to its host alone. -/
theorem token_requestHost_iff_namedUser :
    ∃ u, Uri.parse? "http://u@a.com:80/" = some u ∧ u.authority = some namedUser.text ∧
      (Payer.requestHost.token { uri := u } = .ok (lowerAscii namedUser.host) ↔
        namedUser.user = none) ∧
      ∀ (b : Authority) (r' : Request), r'.uri.authority = some b.text →
        (Payer.requestHost.token r' = Payer.requestHost.token { uri := u } ↔
          lowerAscii b.host = lowerAscii namedUser.host ∧
            b.user.map lowerAscii = namedUser.user.map lowerAscii) := by
  have huri : Uri.parse? "http://u@a.com:80/" =
      some { scheme := some "http", authority := some "u@a.com:80", path := "/" } := by
    decide +kernel
  exact ⟨_, huri, rfl, token_requestHost_iff rfl⟩

/-- Two requests that differ only in the user before their host are charged to different tokens. -/
theorem user_changes_token :
    ∃ r r', Request.ofTexts? "GET" "http://u@a.com/" [] = some r ∧
      Request.ofTexts? "GET" "http://a.com/" [] = some r' ∧
      Payer.requestHost.token r = .ok "u@a.com" ∧ Payer.requestHost.token r' = .ok "a.com" := by
  refine ⟨_, _, rfl, rfl, ?_, ?_⟩
  · decide +kernel
  · decide +kernel

end Turnpike.Traffic
