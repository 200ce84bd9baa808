/-
  Where a request comes from.

  Three headers state the client, the protocol and the host of a request.  A client may have written
  them itself, and so may proxies on the way.  Whether this is believed is decided by the frontend.

  1. **Clients that are not trusted** (`origin_untrusted`).  What a client states has no influence:
     whatever stood there, the server gets what the proxy knows.  This is a statement on two
     requests that differ in these headers alone (`SameBesidesOrigin`); their headers come out the
     same.  What is stated is known besides, header by header (`values_withOrigin_untrusted`).

  2. **The steps.**  Each header is written by a step of its own, which leaves all others as they
     are.  So for one of the three only its own step has to be looked at, and for any other header
     none.  Headers that concern the connection are left out before that, and what these are does
     not depend on the three, even when a connection header lists them.

  3. **Clients that are trusted** (`values_withClient_trusted`).  The address of such a client is
     put behind those that the request came with.  Only the first of these headers is read, and the
     new one takes the place of all: so nothing is lost when there is one of them at most, and every
     further one is lost (`client_appended_iff`).  That the texts then differ is seen from their
     lengths (`length_lt_intercalate`).
-/
import Turnpike.Proofs.Proxy.EndToEnd

namespace Turnpike.Proxy

open Turnpike.Text Turnpike.Http Turnpike.Entity

/-! ## Headers that state the origin -/

/-- The headers that state where a request comes from. -/
def originNames : List String := ["x-forwarded-for", "x-forwarded-proto", "x-forwarded-host"]

section Steps

variable {trust : Bool} {name : String}

/-- Stating the client leaves the other headers. -/
theorem values_withClient_of_ne (hne : name ≠ "x-forwarded-for") (client : Option Address.Socket)
    (h : Headers) : (withClient trust client h).values name = h.values name := by
  unfold withClient
  split
  · rw [Headers.values_set, if_neg hne]
  · split
    · rfl
    · rw [Headers.values_erase, if_neg hne]

/-- Stating the protocol leaves the others, too. -/
theorem values_withProtocol_of_ne (hne : name ≠ "x-forwarded-proto") (h : Headers) :
    (withProtocol trust h).values name = h.values name := by
  unfold withProtocol
  split
  · rfl
  · rw [Headers.values_set, if_neg hne]

/-- And so does stating the host. -/
theorem values_withHost_of_ne (hne : name ≠ "x-forwarded-host") (host : Option String)
    (h : Headers) : (withHost trust host h).values name = h.values name := by
  unfold withHost
  split
  · rfl
  · split
    · rw [Headers.values_set, if_neg hne]
    · rw [Headers.values_erase, if_neg hne]

/-- What states the origin leaves all other headers as they are. -/
theorem values_withOrigin_of_not_mem (hname : name ∉ originNames) (r : Request) (h : Headers) :
    (withOrigin trust r h).values name = h.values name := by
  rw [originNames, List.mem_cons, List.mem_cons, List.mem_singleton, not_or, not_or] at hname
  obtain ⟨hclient, hprotocol, hhost⟩ := hname
  rw [withOrigin, values_withHost_of_ne hhost, values_withProtocol_of_ne hprotocol,
    values_withClient_of_ne hclient]

/-- What is stated of the client is decided in the first step. -/
theorem values_withOrigin_client (r : Request) (h : Headers) :
    (withOrigin trust r h).values "x-forwarded-for" =
      (withClient trust r.client h).values "x-forwarded-for" := by
  rw [withOrigin, values_withHost_of_ne (by decide), values_withProtocol_of_ne (by decide)]

end Steps

/-! ## Clients that are not trusted -/

/-- The requests are the same but for what their headers state of their origin. -/
structure SameBesidesOrigin (r r' : Request) : Prop where
  request : r' = { r with headers := r'.headers }
  headers : ∀ name, name ∉ originNames → r.headers.values name = r'.headers.values name

/-- The headers that go on with a request, but for the host that they name. -/
def onward (s : FrontendSettings) (r : Request) : Headers :=
  withOrigin s.trustForwarded r (endToEnd r.headers)

variable {s : FrontendSettings} {r r' : Request}

/-- What goes on are these headers, with the host or with the server. -/
theorem outboundHeaders_eq (s : FrontendSettings) (r : Request) (authority : String) :
    outboundHeaders s r authority =
      if s.passHost then onward s r else (onward s r).set "host" authority := rfl

/-- So they differ in nothing but that. -/
theorem values_outboundHeaders_of_ne {name : String} (hne : name ≠ "host") (authority : String) :
    (outboundHeaders s r authority).values name = (onward s r).values name := by
  rw [outboundHeaders_eq]
  split
  · rfl
  · rw [Headers.values_set, if_neg hne]

/-- Such requests are for the same host. -/
theorem SameBesidesOrigin.host?_eq (h : SameBesidesOrigin r r') : r.host? = r'.host? := by
  rw [h.request, Request.host?, Request.host?]
  dsimp only
  rw [Headers.text?_eq, Headers.text?_eq, h.headers "host" (by decide)]

/-- The same headers are left out of both, and the same are left. -/
theorem SameBesidesOrigin.values_endToEnd_eq (h : SameBesidesOrigin r r') {name : String}
    (hname : name ∉ originNames) :
    (endToEnd r.headers).values name = (endToEnd r'.headers).values name := by
  rw [values_endToEnd, values_endToEnd, connectionNames_congr (h.headers "connection" (by decide)),
    h.headers name hname]

/-- Without trust the proxy states what it knows, whatever was stated before. -/
theorem values_withOrigin_untrusted (r : Request) (h : Headers) :
    (withOrigin false r h).values "x-forwarded-for" = (r.client.map fun c => c.ip.text).toList ∧
    (withOrigin false r h).values "x-forwarded-proto" = ["http"] ∧
    (withOrigin false r h).values "x-forwarded-host" = (r.host?.filter isReadable).toList := by
  refine ⟨?_, ?_, ?_⟩
  · rw [values_withOrigin_client]
    unfold withClient
    cases r.client with
    | none => exact Headers.values_erase h _ _
    | some c =>
      dsimp only [Option.map_some, Option.toList_some]
      rw [Headers.values_set, if_pos rfl]
      cases h.text? "x-forwarded-for" <;> rfl
  · rw [withOrigin, values_withHost_of_ne (by decide)]
    exact Headers.values_set _ _ _ _
  · unfold withOrigin withHost
    rw [Bool.false_and, if_neg Bool.false_ne_true]
    cases r.host?.filter isReadable with
    | none => exact Headers.values_erase _ _ _
    | some name => exact Headers.values_set _ _ _ _

/-- Frontends that do not trust what clients state, and requests that differ in that only: the
    headers that go on with them are the same, to whatever server.  They state the address of the
    client, if it is known, the protocol of the proxy, and the host of the request, if there is one
    that can be read; and nothing besides. -/
theorem origin_untrusted (htrust : s.trustForwarded = false) (h : SameBesidesOrigin r r') :
    (onward s r).Same (onward s r') ∧
    (onward s r).values "x-forwarded-for" = (r.client.map fun c => c.ip.text).toList ∧
    (onward s r).values "x-forwarded-proto" = ["http"] ∧
    (onward s r).values "x-forwarded-host" = (r.host?.filter isReadable).toList ∧
    ∀ authority, (outboundHeaders s r authority).Same (outboundHeaders s r' authority) := by
  have honward (r : Request) : onward s r = withOrigin false r (endToEnd r.headers) := by
    rw [onward, htrust]
  have hclient : r.client = r'.client := by rw [h.request]
  obtain ⟨hfor, hproto, hhost⟩ := values_withOrigin_untrusted r (endToEnd r.headers)
  obtain ⟨hfor', hproto', hhost'⟩ := values_withOrigin_untrusted r' (endToEnd r'.headers)
  have hsame : (onward s r).Same (onward s r') := by
    intro name
    rw [honward, honward]
    -- the three headers are known, and the others were the same before
    by_cases hname : name ∈ originNames
    · rw [originNames, List.mem_cons, List.mem_cons, List.mem_singleton] at hname
      obtain rfl | rfl | rfl := hname
      · rw [hfor, hfor', hclient]
      · rw [hproto, hproto']
      · rw [hhost, hhost', h.host?_eq]
    · rw [values_withOrigin_of_not_mem hname, values_withOrigin_of_not_mem hname,
        h.values_endToEnd_eq hname]
  refine ⟨hsame, honward r ▸ hfor, honward r ▸ hproto, honward r ▸ hhost, ?_⟩
  intro authority name
  rw [outboundHeaders_eq, outboundHeaders_eq]
  split
  · exact hsame name
  · rw [Headers.values_set, Headers.values_set, hsame name]

/-- A client that states an origin, part of it in a header that cannot be read, and has another part
    dropped as of one connection. -/
def pretender : Request where
  headers := .ofList [("x-forwarded-for", "1.1.1.1"), ("host", "a.com"), ("x-forwarded-for", "é"),
    ("connection", "X-Forwarded-Host"), ("x-forwarded-host", "b.com"),
    ("x-forwarded-proto", "https")]
  client := some ⟨.v4 10 0 0 1, 5000⟩

/-- The same client when it states nothing. -/
def quiet : Request :=
  { pretender with headers := .ofList [("connection", "X-Forwarded-Host"), ("host", "a.com")] }

/-- Apart from what it states, the client sends the same. -/
theorem sameBesidesOrigin_quiet : SameBesidesOrigin pretender quiet where
  request := rfl
  headers := by
    intro name hname
    rw [originNames, List.mem_cons, List.mem_cons, List.mem_singleton, not_or, not_or] at hname
    by_cases hhost : name = "host"
    · subst hhost
      rfl
    by_cases hconnection : name = "connection"
    · subst hconnection
      rfl
    simp [pretender, quiet, Headers.ofList, Headers.values_cons, hname, hhost, hconnection]

/-- What it states is not believed. -/
theorem origin_untrusted_quiet :
    ({} : FrontendSettings).trustForwarded = false ∧ SameBesidesOrigin pretender quiet ∧
    (onward {} pretender).Same (onward {} quiet) ∧
    (onward {} pretender).values "x-forwarded-for" = ["10.0.0.1"] ∧
    (onward {} pretender).values "x-forwarded-host" = ["a.com"] := by
  obtain ⟨hsame, hfor, -, hhost, -⟩ := origin_untrusted (s := {}) rfl sameBesidesOrigin_quiet
  exact ⟨rfl, sameBesidesOrigin_quiet, hsame, hfor, hhost⟩

/-! ## Clients that are trusted -/

/-- Texts that are joined are longer than the last of them. -/
theorem length_lt_intercalate {sep : List Char} (hsep : sep ≠ []) (first last : List Char)
    (ls : List (List Char)) : last.length < (sep.intercalate (first :: (ls ++ [last]))).length := by
  have hpos := List.length_pos_iff.mpr hsep
  induction ls generalizing first with
  | nil =>
    rw [List.nil_append, List.intercalate_cons_cons, List.intercalate_singleton, List.length_append,
      List.length_append]
    omega
  | cons l ls ih =>
    have hrest := ih l
    rw [List.cons_append, List.intercalate_cons_cons, List.length_append]
    omega

/-- To keep only the first of the texts before the last is to keep all just when there is one at
    most: every further one makes the joined text longer. -/
theorem joined_first_iff (texts : List String) (last : String) :
    ", ".intercalate (texts.take 1 ++ [last]) = ", ".intercalate (texts ++ [last]) ↔
      texts.length ≤ 1 := by
  match texts with
  | [] => exact iff_of_true rfl (Nat.zero_le 1)
  | [first] => exact iff_of_true rfl (Nat.le_refl 1)
  | first :: second :: rest =>
    refine iff_of_false (fun heq => ?_) (by rw [List.length_cons, List.length_cons]; omega)
    have hsep : ", ".toList ≠ [] := by decide
    have hlong := length_lt_intercalate hsep second.toList last.toList (rest.map String.toList)
    have hchars := congrArg String.toList heq
    rw [String.toList_intercalate, String.toList_intercalate, List.map_append, List.map_append,
      List.map_singleton] at hchars
    -- behind the first text, the rest would be the last one alone
    have hshort : last.toList = ", ".toList.intercalate
        (second.toList :: (rest.map String.toList ++ [last.toList])) := by
      have hsplit := List.intercalate_cons_cons.symm.trans (hchars.trans List.intercalate_cons_cons)
      rw [List.intercalate_singleton] at hsplit
      exact List.append_cancel_left hsplit
    rw [← hshort] at hlong
    exact Nat.lt_irrefl _ hlong

/-- A trusted client is stated behind the first that the request came with. -/
theorem values_withClient_trusted (c : Address.Socket) {h : Headers}
    (hreadable : ∀ value ∈ h.values "x-forwarded-for", isReadable value = true) :
    (withClient true (some c) h).values "x-forwarded-for" =
      [", ".intercalate ((h.values "x-forwarded-for").take 1 ++ [c.ip.text])] := by
  show (h.set "x-forwarded-for" _).values "x-forwarded-for" = _
  rw [Headers.values_set, if_pos rfl, Headers.text?_eq]
  cases hvalues : h.values "x-forwarded-for" with
  | nil => rfl
  | cons first rest =>
    have hfirst : isReadable first = true := hreadable first (hvalues ▸ List.mem_cons_self)
    rw [List.head?_cons, Option.filter_some, if_pos hfirst]
    rfl

/-- A frontend that trusts what clients state, and a request of a known client: what the server is
    told are the client's address and, before it, the first of the headers that the request came
    with.  These are all of them, in their order, just when there is one at most. -/
theorem client_appended_iff {c : Address.Socket} (htrust : s.trustForwarded = true)
    (hclient : r.client = some c)
    (hreadable : ∀ value ∈ r.headers.values "x-forwarded-for", isReadable value = true)
    (hkept : ¬NamedByConnection r.headers "x-forwarded-for") (authority : String) :
    (outboundHeaders s r authority).values "x-forwarded-for" =
      [", ".intercalate ((r.headers.values "x-forwarded-for").take 1 ++ [c.ip.text])] ∧
    (", ".intercalate ((outboundHeaders s r authority).values "x-forwarded-for") =
        ", ".intercalate (r.headers.values "x-forwarded-for" ++ [c.ip.text]) ↔
      (r.headers.values "x-forwarded-for").length ≤ 1) := by
  -- the header is not left out with those of one connection
  have hprior : (endToEnd r.headers).values "x-forwarded-for" =
      r.headers.values "x-forwarded-for" :=
    values_endToEnd_of_not (by decide) fun hone => hone.elim (by decide) hkept
  have houtbound : (outboundHeaders s r authority).values "x-forwarded-for" =
      [", ".intercalate ((r.headers.values "x-forwarded-for").take 1 ++ [c.ip.text])] := by
    rw [values_outboundHeaders_of_ne (by decide), onward, htrust, values_withOrigin_client, hclient,
      values_withClient_trusted c (hprior.symm ▸ hreadable), hprior]
  refine ⟨houtbound, ?_⟩
  rw [houtbound, String.intercalate_singleton]
  exact joined_first_iff _ _

/-- A frontend that trusts what clients state. -/
def trusting : FrontendSettings := { trustForwarded := true }

/-- A request that comes through other proxies, with these headers of theirs. -/
def relayed (noted : List String) : Request where
  headers := .ofList (noted.map fun value => ("x-forwarded-for", value))
  client := some ⟨.v4 10 0 0 1, 5000⟩

/-- No connection header, and so none that lists anything. -/
theorem not_named_relayed (noted : List String) :
    ¬NamedByConnection (relayed noted).headers "x-forwarded-for" := by
  have hnone : (relayed noted).headers.values "connection" = [] := by
    unfold relayed Headers.ofList
    induction noted with
    | nil => rfl
    | cons value noted ih => rw [List.map_cons, Headers.values_cons, if_neg (by decide), ih]; rfl
  rintro ⟨value, hvalue, -⟩
  rw [hnone] at hvalue
  cases hvalue

/-- Clients that are noted in one header all reach the server. -/
theorem client_appended_iff_joined :
    trusting.trustForwarded = true ∧
    (relayed ["1.1.1.1, 2.2.2.2"]).client = some ⟨.v4 10 0 0 1, 5000⟩ ∧
    (∀ value ∈ (relayed ["1.1.1.1, 2.2.2.2"]).headers.values "x-forwarded-for",
      isReadable value = true) ∧
    ¬NamedByConnection (relayed ["1.1.1.1, 2.2.2.2"]).headers "x-forwarded-for" ∧
    ", ".intercalate ((outboundHeaders trusting (relayed ["1.1.1.1, 2.2.2.2"]) "up").values
      "x-forwarded-for") = ", ".intercalate ["1.1.1.1, 2.2.2.2", "10.0.0.1"] := by
  have hreadable : ∀ value ∈ (relayed ["1.1.1.1, 2.2.2.2"]).headers.values "x-forwarded-for",
      isReadable value = true := by decide
  have hkept := not_named_relayed ["1.1.1.1, 2.2.2.2"]
  obtain ⟨-, happended⟩ := client_appended_iff (s := trusting) rfl rfl hreadable hkept "up"
  exact ⟨rfl, rfl, hreadable, hkept, happended.mpr (by decide)⟩

/-- Of two headers the second is lost, with the client that it notes. -/
theorem second_client_lost :
    trusting.trustForwarded = true ∧
    (relayed ["1.1.1.1", "2.2.2.2"]).client = some ⟨.v4 10 0 0 1, 5000⟩ ∧
    (relayed ["1.1.1.1", "2.2.2.2"]).headers.values "x-forwarded-for" = ["1.1.1.1", "2.2.2.2"] ∧
    isReadable "1.1.1.1" = true ∧ isReadable "2.2.2.2" = true ∧
    ¬NamedByConnection (relayed ["1.1.1.1", "2.2.2.2"]).headers "x-forwarded-for" ∧
    ", ".intercalate ((outboundHeaders trusting (relayed ["1.1.1.1", "2.2.2.2"]) "up").values
      "x-forwarded-for") = "1.1.1.1, 10.0.0.1" ∧
    ", ".intercalate ((outboundHeaders trusting (relayed ["1.1.1.1", "2.2.2.2"]) "up").values
      "x-forwarded-for") ≠ ", ".intercalate ["1.1.1.1", "2.2.2.2", "10.0.0.1"] := by
  have hkept := not_named_relayed ["1.1.1.1", "2.2.2.2"]
  have hsent : ", ".intercalate ((outboundHeaders trusting (relayed ["1.1.1.1", "2.2.2.2"])
      "up").values "x-forwarded-for") = "1.1.1.1, 10.0.0.1" := by decide
  refine ⟨rfl, rfl, rfl, by decide, by decide, hkept, hsent, ?_⟩
  rw [hsent]
  decide

end Turnpike.Proxy
