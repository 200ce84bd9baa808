/-
  Pools by their servers.

  A pool is edited by putting and removing servers, while requests use it.  What a proxy needs to
  know of an edit is what the pool answers afterwards when it is asked for a server; what those who
  select need to know is that the others stay as they are, in their order.

  1. **Endpoints** (`Reachable`).  An endpoint can be made of a server when its URL can be parsed
     and its host and port can stand in a request.  This is the only way in which a valid server can
     fail to be put, and it is a property of the server alone, so that a server that could be put
     once can be put into any pool (`exists_upsert`).

  2. **Putting** (`upsert_eq_ok`).  All that can come of it is said once: the server is there
     already with the same URL and the pool is as it was, or it gets a new endpoint, in the place of
     the one of its identifier or at the end.  Every other statement on putting takes these two
     cases.

  3. **Removing** (`remove_eq_ok`).  Only a server that is there can be removed, and then the others
     are left.
-/
import Turnpike.Balance.Pool
import Turnpike.Proofs.Result

namespace Turnpike.Balance

open Turnpike.Entity Turnpike.Http

/-! ## Endpoints -/

/-- Host and port of a URL, as they are written in a request. -/
def authorityOf (u : Url) : String :=
  (u.host.map Url.Host.text).getD "" ++ ":" ++ toString u.effectivePort

/-- Requests can be sent to the server. -/
def Reachable (s : Server) (u : Url) : Prop :=
  s.parsedUrl = .ok u ∧ isAuthority (authorityOf u).toList = true

/-- An endpoint has the identifier of its server, and requests can be sent to it. -/
theorem Endpoint.make_eq_ok {n : Nat} {s : Server} {e : Endpoint} (h : Endpoint.make n s = .ok e) :
    e.id = s.id ∧ Reachable s e.url := by
  unfold Endpoint.make at h
  obtain ⟨u, hu, h⟩ := Result.bind_eq_ok.mp h
  dsimp only at h
  split at h
  case isTrue hauth => cases h; exact ⟨rfl, hu, hauth⟩
  case isFalse => cases h

/-- An endpoint can be made of every server that requests can be sent to. -/
theorem Reachable.make {s : Server} {u : Url} (h : Reachable s u) (n : Nat) :
    ∃ e, Endpoint.make n s = .ok e ∧ e.id = s.id ∧ e.url = u := by
  have hok : ∃ e, Endpoint.make n s = .ok e := by
    unfold Endpoint.make
    rw [h.1]
    show ∃ e, (if isAuthority (authorityOf u).toList = true then _ else _) = _
    rw [if_pos h.2]
    exact ⟨_, rfl⟩
  obtain ⟨e, he⟩ := hok
  obtain ⟨hid, hparsed, -⟩ := Endpoint.make_eq_ok he
  rw [h.1] at hparsed
  exact ⟨e, he, hid, (Except.ok.inj hparsed).symm⟩

namespace Pool

/-! ## Putting a server -/

/-- A server that is put is valid, and is either there already or gets a new endpoint. -/
theorem upsert_eq_ok {p q : Pool} {s : Server} (h : p.upsert s = .ok q) :
    s.check = .ok () ∧ ∃ u, s.parsedUrl = .ok u ∧
      ((∃ e, p.get? s.id = some e ∧ e.url.text = u.text ∧ q = p) ∨
        ∃ e, Endpoint.make p.nextSerial s = .ok e ∧ q = p.place e) := by
  unfold upsert at h
  obtain ⟨⟨⟩, hcheck, h⟩ := Result.bind_eq_ok.mp h
  obtain ⟨u, hu, h⟩ := Result.bind_eq_ok.mp h
  refine ⟨hcheck, u, hu, ?_⟩
  split at h
  case isTrue hsame =>
    obtain ⟨e, he, htext⟩ := (Option.any_eq_true _ _).mp hsame
    cases h
    exact Or.inl ⟨e, he, eq_of_beq htext, rfl⟩
  case isFalse =>
    obtain ⟨e, he, h⟩ := Result.bind_eq_ok.mp h
    cases h
    exact Or.inr ⟨e, he, rfl⟩

/-- A valid server that requests can be sent to can be put into any pool. -/
theorem exists_upsert {s : Server} {u : Url} (hcheck : s.check = .ok ()) (h : Reachable s u)
    (p : Pool) : ∃ q, p.upsert s = .ok q := by
  unfold upsert
  rw [hcheck, h.1]
  show ∃ q, (if (p.get? s.id).any (fun e => e.url.text == u.text) = true then _ else _) = _
  split
  case isTrue => exact ⟨p, rfl⟩
  case isFalse =>
    obtain ⟨e, he, -⟩ := h.make p.nextSerial
    exact ⟨p.place e, by rw [he]; rfl⟩

/-- A pool keeps its name and its settings. -/
theorem id_of_upsert {p q : Pool} {s : Server} (h : p.upsert s = .ok q) :
    q.id = p.id ∧ q.settings = p.settings := by
  obtain ⟨-, u, -, ⟨e, -, -, rfl⟩ | ⟨e, -, rfl⟩⟩ := upsert_eq_ok h
  · exact ⟨rfl, rfl⟩
  · exact ⟨rfl, rfl⟩

/-- An endpoint that was put is found, and the others as before. -/
theorem get?_place (p : Pool) (e : Endpoint) (id : String) :
    (p.place e).get? id = if id = e.id then some e else p.get? id := by
  unfold get? place
  dsimp only
  split
  case isTrue hany =>
    -- an endpoint that gives way has the identifier of `e`
    have hsame : ((·.id == id) ∘ fun f : Endpoint => if f.id = e.id then e else f) =
        (·.id == id) := by
      funext f
      by_cases hf : f.id = e.id
      · simp [hf]
      · simp [hf]
    rw [List.find?_map, hsame]
    -- the one that was put, or another; that one is in no one's way
    by_cases hid : id = e.id
    · subst hid
      obtain ⟨f, hf, hfid⟩ := List.any_eq_true.mp hany
      have hsome : (p.endpoints.find? (·.id == e.id)).isSome :=
        List.find?_isSome.mpr ⟨f, hf, hfid⟩
      obtain ⟨d, hd⟩ := Option.isSome_iff_exists.mp hsome
      have hdid : d.id = e.id := by simpa using List.find?_some hd
      rw [hd, if_pos rfl, Option.map_some, if_pos hdid]
    · rw [if_neg hid]
      cases hd : p.endpoints.find? (·.id == id) with
      | none => rfl
      | some d =>
        have hdid : d.id = id := by simpa using List.find?_some hd
        rw [Option.map_some, if_neg (by rw [hdid]; exact hid)]
  case isFalse hany =>
    rw [List.find?_append, List.find?_singleton]
    by_cases hid : id = e.id
    · subst hid
      have hnone : p.endpoints.find? (·.id == e.id) = none := by
        rw [List.find?_eq_none]
        intro f hf hfid
        exact hany (List.any_eq_true.mpr ⟨f, hf, hfid⟩)
      simp [hnone]
    · have hne : (e.id == id) = false := beq_false_of_ne (Ne.symm hid)
      simp [hid, hne]

/-- After a server has been put, its URL is the one of the server. -/
theorem url_of_upsert {p q : Pool} {s : Server} (h : p.upsert s = .ok q) (id : String) :
    (q.get? id).map (·.url.text) =
      if id = s.id then (s.parsedUrl.toOption).map Url.text else (p.get? id).map (·.url.text) := by
  obtain ⟨-, u, hu, ⟨e, he, htext, rfl⟩ | ⟨e, he, rfl⟩⟩ := upsert_eq_ok h
  · split
    case isTrue hid =>
      rw [hid, he, hu]
      exact congrArg some htext
    case isFalse => rfl
  · obtain ⟨hid, hparsed, -⟩ := Endpoint.make_eq_ok he
    rw [get?_place, hid]
    split
    case isTrue => rw [hparsed]; rfl
    case isFalse => rfl

/-- Whatever server is put, the others stay as they are, in their order. -/
theorem filter_place (p : Pool) (e : Endpoint) :
    (p.place e).endpoints.filter (·.id != e.id) = p.endpoints.filter (·.id != e.id) := by
  unfold place
  dsimp only
  split
  case isTrue =>
    -- in its place, or at the end: either way it is left out by the filter
    induction p.endpoints with
    | nil => rfl
    | cons f fs ih =>
      rw [List.map_cons, List.filter_cons, List.filter_cons, ih]
      by_cases hf : f.id = e.id
      · simp [hf]
      · simp [hf]
  case isFalse => simp

/-- Putting a server leaves the others, in their order. -/
theorem filter_upsert {p q : Pool} {s : Server} (h : p.upsert s = .ok q) :
    q.endpoints.filter (·.id != s.id) = p.endpoints.filter (·.id != s.id) := by
  obtain ⟨-, u, -, ⟨e, -, -, rfl⟩ | ⟨e, he, rfl⟩⟩ := upsert_eq_ok h
  · rfl
  · rw [← (Endpoint.make_eq_ok he).1, filter_place]

theorem turn_of_upsert {p q : Pool} {s : Server} (h : p.upsert s = .ok q) : q.turn = p.turn := by
  obtain ⟨-, u, -, ⟨e, -, -, rfl⟩ | ⟨e, -, rfl⟩⟩ := upsert_eq_ok h
  · rfl
  · rfl

/-! ## Removing a server -/

/-- A server that is removed was there, and the others are left. -/
theorem remove_eq_ok {p q : Pool} {id : String} (h : p.remove id = .ok q) :
    (∃ e, p.get? id = some e) ∧ q = { p with endpoints := p.endpoints.filter (·.id != id) } := by
  unfold remove at h
  split at h
  case h_1 e he => cases h; exact ⟨⟨e, he⟩, rfl⟩
  case h_2 => cases h

/-- A server that was removed is not found, and the others as before. -/
theorem get?_remove {p q : Pool} {id : String} (h : p.remove id = .ok q) (other : String) :
    q.get? other = if other = id then none else p.get? other := by
  obtain ⟨-, rfl⟩ := remove_eq_ok h
  unfold get?
  rw [List.find?_filter]
  split
  case isTrue heq =>
    rw [List.find?_eq_none]
    intro e _
    simp [heq]
  case isFalse hne =>
    congr 1
    funext e
    by_cases he : e.id = other
    · simp [he, hne]
    · simp [he]

end Pool

end Turnpike.Balance
