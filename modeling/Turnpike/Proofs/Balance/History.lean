/-
  Pools through their history.

  A pool is edited by calls that put a server, remove one or change the settings, and in between
  round trips are recorded on its endpoints.  The calls come in any order, and some of them fail.
  What is to be known is which servers there are afterwards, in which order, and what each of them
  has counted: its counters must go back to nothing when it gets another URL, and must not when it
  is put again as it was.

  1. **Calls** (`Call`).  A run is a list of calls, and a call that fails leaves the pool as it was
     (`Pool.after`).  What a call does to the list of servers is said without the pool, of
     identifiers alone (`Call.placed`), and what it records, of one serial number (`Call.trip?`).

  2. **One step** (`mem_after`).  An endpoint after a call is one that was there before, with at
     most a round trip more, or it is new, and then its server was not there or had another URL
     (`Founds`).  The crux is the second: putting the same server again does nothing, so a call that
     has given away a serial number cannot have been one of these (`founds_of_place`).

  3. **A whole run** (`Account`).  The account of an endpoint is the call that founded it, that it
     has been there ever since, and that it counts what was recorded on its serial number since.
     Every endpoint has one (`exists_account`): the induction is on the run from its end, and the
     last call either founds the endpoint or leaves it the account that it had.

  4. **Counters of the pool** (`figure_stats`).  They are the sums of those of the servers.
     Counters are words and may overflow, so the sums are those of numbers only as long as they fit.

  All of it is put together in `servers_kept`.
-/
import Mathlib.Data.List.Infix
import Turnpike.Proofs.Balance.Selection
import Turnpike.Proofs.Lists
import Turnpike.Proofs.Stats

namespace Turnpike

/-! ## Sums of counters -/

namespace Stats

/-- All counters. -/
def figures : List (Stats → UInt64) :=
  [requests, networkErrors, status2xx, status3xx, status4xx, status5xx, latencyMicros]

variable {f : Stats → UInt64}

theorem figure_zero (hf : f ∈ figures) : f {} = 0 := by
  simp only [figures, List.mem_cons, List.not_mem_nil, or_false] at hf
  rcases hf with rfl | rfl | rfl | rfl | rfl | rfl | rfl <;> rfl

theorem figure_merge (hf : f ∈ figures) (a b : Stats) : f (a.merge b) = f a + f b := by
  simp only [figures, List.mem_cons, List.not_mem_nil, or_false] at hf
  rcases hf with rfl | rfl | rfl | rfl | rfl | rfl | rfl <;> rfl

end Stats

namespace Balance

open Turnpike.Entity

/-! ## Calls -/

/-- What is done to a pool: its servers and settings are edited, and round trips are recorded on
    endpoints. -/
inductive Call where
  | upsert (s : Server)
  | remove (id : String)
  | configure (settings : BackendSettings)
  | record (serial : Nat) (o : Outcome) (nanos : Nat)

namespace Call

/-- Where a call leaves the servers: one that is there keeps its place, and a new one goes last. -/
def placed (names : List String) : Call → List String
  | .upsert s => if s.id ∈ names then names else names ++ [s.id]
  | .remove id => names.filter (· != id)
  | .configure _ => names
  | .record .. => names

/-- The round trip that a call records on the endpoint of a serial number. -/
def trip? (n : Nat) : Call → Option RoundTrip
  | .record m o nanos => if n = m then some (o, nanos) else none
  | _ => none

end Call

/-- The endpoint after a call that leaves it its server and URL. -/
def Endpoint.told (e : Endpoint) (c : Call) : Endpoint :=
  (c.trip? e.serial).elim e fun t => e.record t.1 t.2

/-- Such a call changes nothing but what is counted. -/
theorem Endpoint.id_told (e : Endpoint) (c : Call) :
    (e.told c).id = e.id ∧ (e.told c).serial = e.serial ∧ (e.told c).url = e.url := by
  unfold told
  cases c.trip? e.serial with
  | none => exact ⟨rfl, rfl, rfl⟩
  | some t => exact ⟨rfl, rfl, rfl⟩

/-- An endpoint that has counted some round trips counts what the next call records on it too. -/
theorem Endpoint.stats_told {e : Endpoint} {ts : List RoundTrip}
    (h : e.stats = Stats.ofRoundTrips ts) (c : Call) :
    (e.told c).stats = Stats.ofRoundTrips (ts ++ (c.trip? e.serial).toList) := by
  unfold told
  cases c.trip? e.serial with
  | none => rw [Option.toList_none, List.append_nil]; exact h
  | some t =>
    rw [Option.toList_some, Stats.ofRoundTrips_snoc ts t.1 t.2, ← h]
    rfl

/-- A new endpoint has counted nothing. -/
theorem Endpoint.stats_make {n : Nat} {s : Server} {e : Endpoint} (h : Endpoint.make n s = .ok e) :
    e.stats = {} := by
  unfold Endpoint.make at h
  obtain ⟨u, -, h⟩ := Result.bind_eq_ok.mp h
  dsimp only at h
  split at h
  case isTrue => cases h; rfl
  case isFalse => cases h

namespace Pool

variable {p q : Pool} {c : Call} {e : Endpoint} {s : Server} {f : Stats → UInt64}

/-- Counters are added to others one by one, in words. -/
theorem figure_foldl (hf : f ∈ Stats.figures) (es : List Endpoint) (s : Stats) :
    f (es.foldl (fun s e => s.merge e.stats) s) =
      .ofNat ((f s).toNat + (es.map fun e => (f e.stats).toNat).sum) := by
  induction es generalizing s with
  | nil => simp
  | cons e es ih =>
    rw [List.foldl_cons, ih, Stats.figure_merge hf, List.map_cons, List.sum_cons]
    -- words are added modulo their number, so it does not matter when the rest is taken
    refine UInt64.toNat_inj.mp ?_
    rw [UInt64.toNat_ofNat', UInt64.toNat_ofNat', UInt64.toNat_add]
    omega

/-- As long as they fit into a word, the counters of a pool are the sums of those of its servers. -/
theorem figure_stats (hf : f ∈ Stats.figures)
    (hfit : (p.endpoints.map fun e => (f e.stats).toNat).sum < 2 ^ 64) :
    (f p.stats).toNat = (p.endpoints.map fun e => (f e.stats).toNat).sum := by
  rw [stats, figure_foldl hf, Stats.figure_zero hf, UInt64.toNat_ofNat', UInt64.toNat_zero,
    Nat.zero_add, Nat.mod_eq_of_lt hfit]

/-! ## Runs of calls -/

/-- What a call makes of a pool, if it does not fail. -/
def call (p : Pool) : Call → Result Pool
  | .upsert s => p.upsert s
  | .remove id => p.remove id
  | .configure settings => .ok (p.configure settings).1
  | .record n o nanos => .ok (p.record n o nanos)

/-- The pool after a call, which may have failed. -/
def after (p : Pool) (c : Call) : Pool :=
  match p.call c with
  | .ok q => q
  | .error _ => p

/-- The pool after some calls. -/
def run (p : Pool) (cs : List Call) : Pool := cs.foldl after p

/-- The last call of a run comes to what the others have made. -/
theorem run_snoc (p : Pool) (cs : List Call) (c : Call) : p.run (cs ++ [c]) = (p.run cs).after c :=
  List.foldl_concat ..

theorem after_of_ok (h : p.call c = .ok q) : p.after c = q := by rw [after, h]

theorem after_of_error {err : Error} (h : p.call c = .error err) : p.after c = p := by rw [after, h]

/-! ## Places -/

/-- The identifiers of the servers, in their order. -/
def ids (p : Pool) : List String := p.endpoints.map (·.id)

theorem mem_ids {id : String} : id ∈ p.ids ↔ ∃ e ∈ p.endpoints, e.id = id := List.mem_map

/-- An endpoint is placed where its identifier is, or else at the end. -/
theorem ids_place (p : Pool) (e : Endpoint) :
    (p.place e).ids = if e.id ∈ p.ids then p.ids else p.ids ++ [e.id] := by
  have hthere : p.endpoints.any (·.id == e.id) = true ↔ e.id ∈ p.ids := by
    simp only [mem_ids, List.any_eq_true, beq_iff_eq]
  by_cases h : e.id ∈ p.ids
  · rw [if_pos h, place, if_pos (hthere.mpr h)]
    show List.map _ (List.map _ _) = List.map _ _
    rw [List.map_map]
    refine List.map_congr_left fun d _ => ?_
    by_cases hd : d.id = e.id
    · simp [hd]
    · simp [hd]
  · rw [if_neg h, place, if_neg (h ∘ hthere.mp)]
    exact List.map_append

/-- An endpoint that is found is there, and has the identifier. -/
theorem mem_of_get? {id : String} (h : p.get? id = some e) : e ∈ p.endpoints ∧ e.id = id :=
  ⟨List.mem_of_find?_eq_some h, by simpa using List.find?_some h⟩

/-- Recording is done at every endpoint, as far as the record concerns it. -/
theorem record_eq (p : Pool) (n : Nat) (o : Outcome) (nanos : Nat) :
    p.record n o nanos =
      { p with endpoints := p.endpoints.map (Endpoint.told · (.record n o nanos)) } := by
  unfold record modify
  congr 1
  refine List.map_congr_left fun e _ => ?_
  by_cases hn : e.serial = n
  · simp [Endpoint.told, Call.trip?, hn]
  · simp [Endpoint.told, Call.trip?, hn]

/-- A call that succeeds leaves the servers where it should. -/
theorem ids_of_call (h : p.call c = .ok q) : q.ids = c.placed p.ids := by
  cases c with
  | upsert s =>
    show _ = if s.id ∈ p.ids then _ else _
    -- the server was there with this URL, or a new endpoint has been placed
    obtain ⟨-, u, -, ⟨e, he, -, rfl⟩ | ⟨e, he, rfl⟩⟩ := upsert_eq_ok h
    · rw [if_pos (mem_ids.mpr ⟨e, mem_of_get? he⟩)]
    · rw [ids_place, (Endpoint.make_eq_ok he).1]
  | remove id =>
    obtain ⟨-, rfl⟩ := remove_eq_ok h
    show _ = List.filter _ (List.map _ _)
    rw [List.filter_map]
    rfl
  | configure settings => cases h; rfl
  | record n o nanos =>
    cases h
    exact map_modify (f := (·.record o nanos)) (fun _ => rfl) p n

/-- A server that has been put is there, with its URL. -/
theorem exists_put (h : p.upsert s = .ok q) :
    ∃ e, q.get? s.id = some e ∧ s.parsedUrl.toOption.map Url.text = some e.url.text := by
  have hurl := url_of_upsert h s.id
  obtain ⟨-, u, hu, -⟩ := upsert_eq_ok h
  rw [if_pos rfl, hu] at hurl
  obtain ⟨e, he, htext⟩ := Option.map_eq_some_iff.mp hurl
  rw [hu]
  exact ⟨e, he, congrArg some htext.symm⟩

/-! ## One step -/

theorem Distinct.get?_of_mem (h : p.Distinct) (he : e ∈ p.endpoints) : p.get? e.id = some e :=
  Lists.find?_key h.ids he

/-- Recording leaves endpoints that can be told apart. -/
theorem Distinct.record (h : p.Distinct) (n : Nat) (o : Outcome) (nanos : Nat) :
    (p.record n o nanos).Distinct := by
  have hbare : (p.record n o nanos).endpoints.map Endpoint.bare = p.endpoints.map Endpoint.bare :=
    map_modify (f := (·.record o nanos)) (fun _ => rfl) p n
  exact h.of_bare (congrArg (fun es => { p with endpoints := es, turn := 0 }) hbare)

/-- So does every call, whether or not it fails. -/
theorem Distinct.after (h : p.Distinct) (c : Call) : (p.after c).Distinct := by
  cases hc : p.call c with
  | error err => rwa [after_of_error hc]
  | ok q =>
    rw [after_of_ok hc]
    cases c with
    | upsert s => exact h.upsert hc
    | remove id => exact h.remove hc
    | configure settings => cases hc; exact ⟨h.ids, h.serials, h.below⟩
    | record n o nanos => cases hc; exact h.record n o nanos

theorem Distinct.run (h : p.Distinct) (cs : List Call) : (p.run cs).Distinct := by
  induction cs generalizing p with
  | nil => exact h
  | cons c cs ih => exact ih (h.after c)

/-- A server that is put with the same URL, in whatever spelling, is left as it is. -/
theorem upsert_same {u : Url} (hcheck : s.check = .ok ()) (hu : s.parsedUrl = .ok u)
    (he : p.get? s.id = some e) (htext : e.url.text = u.text) : p.upsert s = .ok p := by
  unfold upsert
  rw [hcheck, hu, he]
  show (if (e.url.text == u.text) = true then _ else _) = _
  rw [if_pos (beq_iff_eq.mpr htext)]

/-- Putting the server makes the endpoint: the server was not there, or had another URL. -/
structure Founds (p : Pool) (s : Server) (e : Endpoint) : Prop where
  id_eq : s.id = e.id
  parsed : s.parsedUrl = .ok e.url
  url_ne : ∀ d, p.get? s.id = some d → d.url.text ≠ e.url.text

/-- A call that has placed a new endpoint has founded it. -/
theorem founds_of_place (h : p.upsert s = .ok (p.place e))
    (he : Endpoint.make p.nextSerial s = .ok e) : Founds p s e := by
  obtain ⟨hid, hu, -⟩ := Endpoint.make_eq_ok he
  refine ⟨hid.symm, hu, fun d hd htext => ?_⟩
  obtain ⟨hcheck, -⟩ := upsert_eq_ok h
  -- otherwise nothing would have been done, but a serial number has been given away
  have hsame : p.place e = p := Except.ok.inj (h.symm.trans (upsert_same hcheck hu hd htext))
  have hserial : p.nextSerial + 1 = p.nextSerial := congrArg Pool.nextSerial hsame
  omega

/-- After placing there is nothing but what was there and what was placed. -/
theorem mem_place {d : Endpoint} (h : d ∈ (p.place e).endpoints) : d ∈ p.endpoints ∨ d = e := by
  unfold place at h
  dsimp only at h
  split at h
  case isTrue =>
    obtain ⟨f, hf, rfl⟩ := List.mem_map.mp h
    split
    case isTrue => exact .inr rfl
    case isFalse => exact .inl hf
  case isFalse => simpa using h

/-- An endpoint was there before, and has at most one more round trip recorded; or it is new. -/
theorem mem_after (he : e ∈ (p.after c).endpoints) :
    (∃ d ∈ p.endpoints, e = d.told c) ∨ ∃ s, c = .upsert s ∧ Founds p s e ∧ e.stats = {} := by
  -- a call that fails, and then the four that do not
  cases hc : p.call c with
  | error err =>
    rw [after_of_error hc] at he
    cases c with
    | record n o nanos => cases hc
    | upsert s => exact .inl ⟨e, he, rfl⟩
    | remove id => exact .inl ⟨e, he, rfl⟩
    | configure settings => exact .inl ⟨e, he, rfl⟩
  | ok q =>
    rw [after_of_ok hc] at he
    cases c with
    | upsert s =>
      obtain ⟨-, u, -, ⟨-, -, -, rfl⟩ | ⟨d, hd, rfl⟩⟩ := upsert_eq_ok hc
      · exact .inl ⟨e, he, rfl⟩
      · rcases mem_place he with hmem | rfl
        · exact .inl ⟨e, hmem, rfl⟩
        · exact .inr ⟨s, rfl, founds_of_place hc hd, Endpoint.stats_make hd⟩
    | remove id =>
      obtain ⟨-, rfl⟩ := remove_eq_ok hc
      exact .inl ⟨e, List.mem_of_mem_filter he, rfl⟩
    | configure settings => cases hc; exact .inl ⟨e, he, rfl⟩
    | record n o nanos =>
      cases hc
      rw [record_eq] at he
      obtain ⟨d, hd, heq⟩ := List.mem_map.mp he
      exact .inl ⟨d, hd, heq.symm⟩

/-! ## A whole run -/

/-- An endpoint stands for its server since a call that founded it, and counts what has been recorded
    on it since. -/
structure Account (p : Pool) (before : List Call) (s : Server) (since : List Call) (e : Endpoint) :
    Prop where
  founded : Founds (p.run before) s e
  stands : ∀ cs, cs <+: since → ∃ d, (p.run (before ++ .upsert s :: cs)).get? e.id = some d ∧
    d.serial = e.serial ∧ d.url = e.url
  counts : e.stats = Stats.ofRoundTrips (since.filterMap (Call.trip? e.serial))

/-- The account of an endpoint goes on, as long as the endpoint is there. -/
theorem Account.told {before since : List Call} (h : Account p before s since e)
    (hthere : (p.run (before ++ .upsert s :: (since ++ [c]))).get? e.id = some (e.told c)) :
    Account p before s (since ++ [c]) (e.told c) := by
  obtain ⟨hid, hserial, hurl⟩ := e.id_told c
  refine ⟨⟨?_, ?_, ?_⟩, fun cs hcs => ?_, ?_⟩
  · rw [hid]
    exact h.founded.id_eq
  · rw [hurl]
    exact h.founded.parsed
  · rw [hurl]
    exact h.founded.url_ne
  · rw [hid, hserial, hurl]
    -- only at the very end there is something new to be seen
    rcases List.prefix_concat_iff.mp hcs with rfl | hcs
    · exact ⟨_, hthere, hserial, hurl⟩
    · exact h.stands cs hcs
  · rw [hserial, Endpoint.stats_told h.counts c, List.filterMap_append]
    cases hc : c.trip? e.serial <;> simp [hc]

/-- Every endpoint has an account, from some call on. -/
theorem exists_account (b : Backend) (cs : List Call) (he : e ∈ ((ofBackend b).run cs).endpoints) :
    ∃ before s since, cs = before ++ .upsert s :: since ∧
      Account (ofBackend b) before s since e := by
  -- from the end: the last call founds the endpoint or finds it there
  induction cs using List.reverseRecOn generalizing e with
  | nil => cases he
  | append_singleton cs c ih =>
    have hthere := ((Distinct.ofBackend b).run (cs ++ [c])).get?_of_mem he
    rw [run_snoc] at he
    rcases mem_after he with ⟨d, hd, rfl⟩ | ⟨s, rfl, hfounds, hstats⟩
    · obtain ⟨before, s, since, rfl, haccount⟩ := ih hd
      rw [(d.id_told c).1, List.append_assoc] at hthere
      exact ⟨before, s, since ++ [c], List.append_assoc .., haccount.told hthere⟩
    · refine ⟨cs, s, [], rfl, hfounds, fun kept hkept => ?_, hstats⟩
      obtain rfl := List.prefix_nil.mp hkept
      exact ⟨e, hthere, rfl, rfl⟩

/-- However a pool has been edited, its servers have distinct identifiers and each counts the round
    trips recorded on it since it was added or its URL changed.  The next call leaves every server its
    place, and a server that it puts has its URL; or it fails and changes nothing.  The counters of the
    pool sum up those of the servers. -/
theorem servers_kept (b : Backend) (cs : List Call) :
    ((ofBackend b).run cs).ids.Nodup ∧
    (∀ c q, ((ofBackend b).run cs).call c = .ok q →
      (ofBackend b).run (cs ++ [c]) = q ∧ q.ids = c.placed ((ofBackend b).run cs).ids) ∧
    (∀ s q, ((ofBackend b).run cs).call (.upsert s) = .ok q →
      ∃ e, q.get? s.id = some e ∧ s.parsedUrl.toOption.map Url.text = some e.url.text) ∧
    (∀ c err, ((ofBackend b).run cs).call c = .error err →
      (ofBackend b).run (cs ++ [c]) = (ofBackend b).run cs) ∧
    (∀ e ∈ ((ofBackend b).run cs).endpoints, ∃ before s since, cs = before ++ .upsert s :: since ∧
      Account (ofBackend b) before s since e) ∧
    ∀ f ∈ Stats.figures,
      (((ofBackend b).run cs).endpoints.map fun e => (f e.stats).toNat).sum < 2 ^ 64 →
      (f ((ofBackend b).run cs).stats).toNat =
        (((ofBackend b).run cs).endpoints.map fun e => (f e.stats).toNat).sum := by
  refine ⟨((Distinct.ofBackend b).run cs).ids, fun c q hc => ?_, fun s q hs => exists_put hs,
    fun c err hc => ?_, fun e he => exists_account b cs he, fun f hf hfit => figure_stats hf hfit⟩
  · rw [run_snoc]
    exact ⟨after_of_ok hc, ids_of_call hc⟩
  · rw [run_snoc, after_of_error hc]

end Pool

end Balance

end Turnpike
