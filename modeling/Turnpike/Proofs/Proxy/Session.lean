/-
  What is seen of a proxy.

  A proxy is used for requests and changes, at times that do not go back.  Nobody sees what is
  inside of its gates, but only what they say.  So if two proxies differ in nothing but what of
  their gates does not count any more, they should look the same, however long they are used and for
  whatever.

  1. **Being alike** (`Alike`).  Proxies are alike from some time on when they agree in all but the
     states of their gates, and those agree in what counts from then on.  That is an equation,
     between what is left of both when everything that does not count is taken away; so it can be
     rewritten with, and passes through maps over gates, chains and services.

  2. **Chains and plazas.**  Taking away what does not count goes well with all that is done to
     chains: it does not change labels, and putting and removing gates may come before it or after
     it (`Chain.upsert_since`, `Chain.remove_since`).  The gates of two such chains stand alike on
     their plazas, and when they have been called there, they are alike again.

  3. **Requests** (`answer_alike`).  A request does the same at gates that are alike, so it gets the
     same response, and the proxies stay alike.  This follows the handling of a request part by
     part: the visit, the target, the delivery, and what the gates are told.

  4. **Changes** (`apply_alike`).  Only frontends and gates are concerned.  For all other entities
     the two proxies are the same where the change looks, and every way in which it may end is the
     same for both.

  5. **Sessions** (`session_eq`).  One use looks the same and leaves proxies that are alike, now and
     at any later time (`Alike.mono`).  So by induction all uses do.  What is seen of each is a
     `Sight`.
-/
import Mathlib.Data.List.Basic
import Turnpike.Proofs.Dictionary
import Turnpike.Proofs.Gate.Chain
import Turnpike.Proofs.Gate.Likeness
import Turnpike.Proofs.Proxy.Account
import Turnpike.Proxy.Apply

namespace Turnpike

open Turnpike.Gate Turnpike.Http

/-! ## Chains -/

namespace Gate

/-- What of a gate in a chain counts from `now` on. -/
def Entry.since (now : Nat) (e : Entry Instance) : Entry Instance :=
  { e with gate := e.gate.since now }

/-- What of the gates of a chain counts from `now` on. -/
def Chain.since (now : Nat) (c : Chain Instance) : Chain Instance :=
  ⟨c.entries.map (Entry.since now)⟩

namespace Chain

variable {c d : Chain Instance} {now later : Nat}

/-- From a later time on, it makes no difference what counted from an earlier one. -/
theorem since_since (h : now ≤ later) (c : Chain Instance) :
    (c.since now).since later = c.since later := by
  have hentry (e : Entry Instance) : (e.since now).since later = e.since later :=
    congrArg (fun g => { e with gate := g }) (e.gate.since_since h)
  unfold since
  rw [List.map_map]
  exact congrArg Chain.mk (List.map_congr_left fun e _ => hentry e)

theorem labels_since (now : Nat) (c : Chain Instance) : (c.since now).labels = c.labels := by
  unfold labels since
  rw [List.map_map]
  rfl

/-- A gate is found by its identifier, and what counts of it. -/
theorem get?_since (now : Nat) (c : Chain Instance) (id : String) :
    (c.since now).get? id = (c.get? id).map (Entry.since now) := by
  unfold get? since
  rw [List.find?_map]
  rfl

/-- The order of gates does not depend on what counts of them. -/
theorem ofEntries_since (now : Nat) (es : List (Entry Instance)) :
    (ofEntries es).since now = ofEntries (es.map (Entry.since now)) := by
  unfold ofEntries since
  refine congrArg Chain.mk (List.map_mergeSort fun a _ b _ => ?_)
  rfl

/-- Nor does the place of one that is replaced. -/
theorem replaceIn_since (now : Nat) (e : Entry Instance) (es : List (Entry Instance)) :
    (replaceIn e es).map (Entry.since now) =
      replaceIn (e.since now) (es.map (Entry.since now)) := by
  have hfind : (es.map (Entry.since now)).findIdx? (·.id == (e.since now).id) =
      es.findIdx? (·.id == e.id) := by
    rw [List.findIdx?_map]
    rfl
  unfold replaceIn
  rw [hfind]
  split
  · exact List.map_set
  · rfl

/-- What counts after a gate is put is what counted before, with what counts of that gate. -/
theorem upsert_since (now : Nat) (c : Chain Instance) (e : Entry Instance) :
    (c.upsert e).since now = (c.since now).upsert (e.since now) := by
  have hget : (c.since now).get? (e.since now).id = (c.get? e.id).map (Entry.since now) :=
    get?_since now c e.id
  unfold upsert
  rw [hget]
  cases c.get? e.id with
  | none =>
    dsimp only [Option.map_none]
    rw [ofEntries_since, List.map_append]
    rfl
  | some d =>
    dsimp only [Option.map_some]
    rw [ofEntries_since, replaceIn_since]
    rfl

/-- What counts after one is removed is what counted of the others. -/
theorem remove_since (now : Nat) (c : Chain Instance) (id : String) :
    (c.since now).remove id = (c.remove id).map (since now) := by
  unfold remove
  rw [get?_since]
  cases c.get? id with
  | none => rfl
  | some e =>
    dsimp only [Option.map_some]
    have herase : (c.since now).entries.eraseP (·.id == id) =
        (c.entries.eraseP (·.id == id)).map (Entry.since now) := by
      unfold since
      rw [List.eraseP_map]
      rfl
    rw [herase, ← ofEntries_since]
    rfl

end Chain

end Gate

namespace Proxy

open Turnpike.Entity Turnpike.Balance

/-! ## Gates of a service -/

section Plaza

variable {c d : Chain Instance} {now : Nat}

/-- Gates that agree in what counts stand alike on their plazas. -/
theorem alike_openPlaza {a : Ambient} (ha : a.now = now) (h : c.since now = d.since now) :
    (openPlaza a c).Alike now (openPlaza a d) where
  ambient := rfl
  time := ha
  gates := by
    intro n
    have hgate (c : Chain Instance) : ((openPlaza a c).gate? n).map (Instance.since now) =
        ((c.since now).entries[n]?).map (·.gate) := by
      unfold Plaza.gate? openPlaza Chain.since
      rw [List.getElem?_toArray, List.getElem?_map, List.getElem?_map, Option.map_map,
        Option.map_map]
      rfl
    rw [hgate, hgate, h]

/-- The numbers of gates have nothing to do with what counts of them. -/
theorem numbered_since (now : Nat) (c : Chain Instance) : numbered (c.since now) = numbered c := by
  unfold numbered Chain.since
  rw [List.zipIdx_map, List.map_map]
  rfl

/-- What counts of the gates as they stand on a plaza. -/
theorem since_closePlaza (p : Plaza) (c : Chain Instance) :
    (closePlaza p c).since now =
      ⟨(c.since now).entries.zipIdx.map fun x =>
        { x.1 with gate := ((p.gate? x.2).map (Instance.since now)).getD x.1.gate }⟩ := by
  unfold closePlaza Chain.since
  rw [List.zipIdx_map, List.map_map, List.map_map]
  refine congrArg Chain.mk (List.map_congr_left fun x _ => ?_)
  show Entry.since now { x.1 with gate := (p.gate? x.2).getD x.1.gate } =
    { x.1 with gate := ((p.gate? x.2).map (Instance.since now)).getD (x.1.gate.since now) }
  rw [Option.getD_map]
  rfl

/-- Gates that have been called alike agree in what counts. -/
theorem alike_closePlaza {p q : Plaza} (h : p.Alike now q) (hc : c.since now = d.since now) :
    (closePlaza p c).since now = (closePlaza q d).since now := by
  rw [since_closePlaza, since_closePlaza, hc]
  refine congrArg Chain.mk (List.map_congr_left fun x _ => ?_)
  rw [h.gates x.2]

end Plaza

/-! ## Services -/

/-- What of the gates of a service counts from `now` on. -/
def Service.since (now : Nat) (s : Service) : Service := { s with chain := s.chain.since now }

/-- Services that are alike agree in all but their gates, and those agree in what counts. -/
theorem Service.parts_of_since {now : Nat} {s t : Service} (h : s.since now = t.since now) :
    s.serial = t.serial ∧ s.spec = t.spec ∧ s.cluster = t.cluster ∧
      s.chain.since now = t.chain.since now ∧ s.stats = t.stats := Service.mk.inj h

section Course

variable {now : Nat} {a : Ambient} {s t : Service}

/-- A visit comes to the same at services that are alike. -/
theorem visit_alike (ha : a.now = now) (h : s.since now = t.since now) (r : Request) :
    (visit a s r).1 = (visit a t r).1 ∧ (visit a s r).2.2 = (visit a t r).2.2 ∧
      (visit a s r).2.1.1.Alike now (visit a t r).2.1.1 := by
  obtain ⟨-, -, -, hchain, -⟩ := Service.parts_of_since h
  -- the same numbers stand in both chains
  have hnumbered : numbered s.chain = numbered t.chain := by
    rw [← numbered_since now, hchain, numbered_since]
  obtain ⟨hspipe, hsplaza, hstarget⟩ := Pipeline.visit_noted Plaza.hooks
    (.enter (numbered s.chain) r) (openPlaza a s.chain) [] r.uri
  obtain ⟨htpipe, htplaza, httarget⟩ := Pipeline.visit_noted Plaza.hooks
    (.enter (numbered t.chain) r) (openPlaza a t.chain) [] r.uri
  unfold visit
  rw [hspipe, hsplaza, hstarget, htpipe, htplaza, httarget, hnumbered]
  exact (respects_alike now).visit (alike_openPlaza ha hchain) _ r.uri

/-- A request has the same target at both. -/
theorem target_alike (ha : a.now = now) (h : s.since now = t.since now) (r : Request)
    (body : String) :
    target a s r body = target a t r body := by
  obtain ⟨-, hspec, -⟩ := Service.parts_of_since h
  unfold target
  rw [hspec, (visit_alike ha h r).2.1]

/-- What the gates are told leaves them alike. -/
theorem course_alike (ha : a.now = now) (h : s.since now = t.since now) (r : Request)
    (body : String) (o : Option Outcome) (nanos : Nat) :
    (course a s r body o nanos).1.Alike now (course a t r body o nanos).1 := by
  obtain ⟨-, hspec, -, hchain, -⟩ := Service.parts_of_since h
  obtain ⟨hpipeline, -, hplaza⟩ := visit_alike ha h r
  unfold course
  rw [hspec, hpipeline]
  split
  case isTrue =>
    rcases hs : (visit a s r).2.1 with ⟨p, es⟩
    rcases ht : (visit a t r).2.1 with ⟨q, fs⟩
    rw [hs, ht] at hplaza
    rw [Pipeline.leave_noted, Pipeline.leave_noted]
    exact (respects_alike now).leave hplaza _
  case isFalse => exact alike_openPlaza ha hchain

/-- Services that are alike stay alike when a request has ended. -/
theorem after_alike (ha : a.now = now) (h : s.since now = t.since now) (r : Request)
    (body : String) (o : Option Outcome) (nanos : Nat) :
    (s.after a r body o nanos).since now = (t.after a r body o nanos).since now := by
  obtain ⟨-, -, -, hchain, -⟩ := Service.parts_of_since h
  have hgates := alike_closePlaza (course_alike ha h r body o nanos) hchain
  have hafter (s : Service) (p : Plaza) :
      (Service.record { s with chain := closePlaza p s.chain } o (r.age + nanos)).since now =
        Service.record { s.since now with chain := (closePlaza p s.chain).since now } o
          (r.age + nanos) := by
    cases o <;> rfl
  unfold Service.after
  rw [hafter, hafter, h, hgates]

end Course

/-! ## Proxies that are alike -/

/-- Proxies that agree in all but what of their gates does not count from `now` on. -/
structure Alike (now : Nat) (p q : Proxy) : Prop where
  rest : q = { p with frontends := q.frontends }
  frontends : p.frontends.mapValues (Service.since now) = q.frontends.mapValues (Service.since now)

namespace Alike

variable {now later : Nat} {p q : Proxy}

theorem refl (p : Proxy) : p.Alike now p := ⟨rfl, rfl⟩

/-- What is alike from some time on is alike from a later time on. -/
theorem mono (h : p.Alike now q) (hle : now ≤ later) : p.Alike later q where
  rest := h.rest
  frontends := by
    have hlater (p : Proxy) : p.frontends.mapValues (Service.since later) =
        (p.frontends.mapValues (Service.since now)).mapValues (Service.since later) := by
      refine Dictionary.ext fun id => ?_
      rw [Dictionary.get?_mapValues, Dictionary.get?_mapValues, Dictionary.get?_mapValues,
        Option.map_map]
      refine congrArg (Option.map · _) (funext fun s => ?_)
      exact congrArg (fun c => { s with chain := c }) (Chain.since_since hle s.chain).symm
    rw [hlater p, h.frontends, ← hlater q]

theorem cases (h : p.Alike now q) : ∃ d : Dictionary Service, q = { p with frontends := d } ∧
    p.frontends.mapValues (Service.since now) = d.mapValues (Service.since now) :=
  ⟨q.frontends, h.rest, h.frontends⟩

/-- Frontends of the same name are alike, or there is none in either. -/
theorem get? (h : p.Alike now q) (id : String) :
    (p.frontends.get? id).map (Service.since now) =
      (q.frontends.get? id).map (Service.since now) := by
  rw [← Dictionary.get?_mapValues, h.frontends, Dictionary.get?_mapValues]

/-- So are services of the same serial number. -/
theorem service? (h : p.Alike now q) (serial : Nat) :
    (p.service? serial).map (Service.since now) = (q.service? serial).map (Service.since now) := by
  have hmap (p : Proxy) : (p.service? serial).map (Service.since now) =
      (p.frontends.mapValues (Service.since now)).values.find? (·.serial == serial) := by
    rw [Dictionary.values_mapValues, List.find?_map]
    rfl
  rw [hmap, hmap, h.frontends]

/-- Services that are alike are put beside services that are alike. -/
theorem insert {d e : Dictionary Service} {s t : Service}
    (h : d.mapValues (Service.since now) = e.mapValues (Service.since now))
    (hs : s.since now = t.since now) (id : String) :
    (d.insert id s).mapValues (Service.since now) =
      (e.insert id t).mapValues (Service.since now) := by
  rw [Dictionary.mapValues_insert, Dictionary.mapValues_insert, h, hs]

/-- Services that are alike take the place of services that are alike. -/
theorem setService {s t : Service} (h : p.Alike now q) (hs : s.since now = t.since now) :
    (p.setService s).Alike now (q.setService t) := by
  obtain ⟨d, rfl, hd⟩ := h.cases
  refine ⟨rfl, ?_⟩
  obtain ⟨hserial, -⟩ := Service.parts_of_since hs
  -- what counts is taken away before or after the service is put in its place
  have hmap (e : Dictionary Service) (s : Service) :
      (e.mapValues fun u => if u.serial = s.serial then s else u).mapValues (Service.since now) =
        (e.mapValues (Service.since now)).mapValues fun u =>
          if u.serial = s.serial then s.since now else u := by
    refine Dictionary.ext fun id => ?_
    simp only [Dictionary.get?_mapValues, Option.map_map]
    refine congrArg (Option.map · _) (funext fun u => ?_)
    show Service.since now (if u.serial = s.serial then s else u) =
      if u.serial = s.serial then s.since now else u.since now
    split <;> rfl
  show (p.frontends.mapValues _).mapValues _ = (d.mapValues _).mapValues _
  rw [hmap, hmap, hd, hs, hserial]

end Alike

/-! ## Requests -/

section Requests

variable {now : Nat} {a : Ambient} {p q : Proxy} {s t : Service}

/-- What is shared and the response are the same, and the proxies are alike. -/
structure Handled.Alike (now : Nat) (x y : Handled) : Prop where
  ambient : x.ambient = y.ambient
  proxy : x.proxy.Alike now y.proxy
  response : x.response = y.response

/-- Servers see no difference between them. -/
theorem deliver_alike (h : p.Alike now q) (hs : s.since now = t.since now) (r : Request)
    (body : String) (net : Network) (v : Except Response Uri) :
    (p.deliver s r body net v).2 = (q.deliver t r body net v).2 ∧
      (p.deliver s r body net v).1.Alike now (q.deliver t r body net v).1 := by
  obtain ⟨-, hspec, hcluster, -⟩ := Service.parts_of_since hs
  cases v with
  | error resp => exact ⟨rfl, h⟩
  | ok u =>
    obtain ⟨d, rfl, hd⟩ := h.cases
    -- the clusters are the same, as only frontends may differ
    have hfind : Proxy.cluster? { p with frontends := d } t.cluster = p.cluster? t.cluster := rfl
    unfold deliver
    dsimp only
    rw [hspec, hcluster, hfind]
    cases p.cluster? t.cluster with
    | none => exact ⟨rfl, rfl, hd⟩
    | some c => exact ⟨rfl, rfl, hd⟩

/-- A request that is served by services that are alike leaves proxies that are. -/
theorem serve_alike (h : p.Alike now q) (ha : a.now = now) (hs : s.since now = t.since now)
    (r : Request) (body : String) (net : Network) :
    (p.serve a s r body net).Alike now (q.serve a t r body net) := by
  rw [serve_eq, serve_eq, target_alike ha hs]
  obtain ⟨hd, hproxy⟩ := deliver_alike h hs r body net (target a t r body)
  rcases hp : p.deliver s r body net (target a t r body) with ⟨p', resp, o, nanos⟩
  rcases hq : q.deliver t r body net (target a t r body) with ⟨q', resp', o', nanos'⟩
  rw [hp, hq] at hd hproxy
  cases hd
  exact {
    ambient := congrArg (countRequest · r resp o) (course_alike ha hs r body o nanos).ambient
    proxy := hproxy.setService (after_alike ha hs r body o nanos)
    response := rfl }

/-- So does one that is handled. -/
theorem handle_alike (h : p.Alike now q) (ha : a.now = now) (r : Request) (body : String)
    (net : Network) :
    (p.handle a r body net).Alike now (q.handle a r body net) := by
  -- the same router leads to services that are alike
  have hroute : (p.route? r.method r.host? r.uri.routePath).map
      (fun m => (m.1.since now, m.2)) =
        (q.route? r.method r.host? r.uri.routePath).map fun m => (m.1.since now, m.2) := by
    have hmatch := h.service?
    obtain ⟨d, rfl, -⟩ := h.cases
    unfold route?
    dsimp only
    cases p.router.route? r.method r.host? r.uri.routePath with
    | none => rfl
    | some m =>
      have hm := congrArg (Option.map fun s => (s, m.params)) (hmatch m.target)
      rw [Option.map_map, Option.map_map] at hm
      dsimp only
      rw [Option.map_map, Option.map_map]
      exact hm
  unfold handle
  rcases cases_of_map_eq hroute with ⟨hp, hq⟩ | ⟨⟨s, params⟩, ⟨t, params'⟩, hp, hq, heq⟩
  · rw [hp, hq]
    exact ⟨rfl, h, rfl⟩
  · obtain ⟨hs, rfl⟩ := Prod.mk.inj heq
    obtain ⟨-, hspec, -⟩ := Service.parts_of_since hs
    rw [hp, hq]
    dsimp only
    rw [hspec]
    exact serve_alike h ha hs _ body net

/-- What is left out of a response is left out of both. -/
theorem Handled.Alike.cut {x y : Handled} (h : x.Alike now y) (r : Request) :
    (x.cut r).Alike now (y.cut r) := by
  unfold Handled.cut
  rw [h.response]
  split
  case isTrue => exact ⟨h.ambient, h.proxy, rfl⟩
  case isFalse => exact h

/-- Both responses get the same identifier. -/
theorem Handled.Alike.identify {x y : Handled} (h : x.Alike now y) (r : Request) :
    (x.identify r).Alike now (y.identify r) := by
  unfold Handled.identify
  rw [h.response]
  split
  case h_1 id _ =>
    split
    case isTrue => exact h
    case isFalse => exact ⟨h.ambient, h.proxy, rfl⟩
  case h_2 => exact h

/-- Proxies that are alike answer a request in the same way, and stay alike. -/
theorem answer_alike (h : p.Alike now q) (ha : a.now = now) (r : Request) (body fresh : String)
    (net : Network) :
    (p.answer a r body fresh net).Alike now (q.answer a r body fresh net) := by
  unfold answer
  dsimp only
  refine Handled.Alike.identify (Handled.Alike.cut ?_ _) _
  split
  · exact handle_alike h ha _ body net
  · exact ⟨rfl, h, rfl⟩

end Requests

/-! ## Changes -/

section Changes

variable {g : Ground} {now time : Nat} {p q : Proxy}

/-- A change could be applied to both proxies or fails alike, and the proxies are alike after it. -/
def AlikeDone (now : Nat) (d e : Done) : Prop := d.2 = e.2 ∧ d.1.Alike now e.1

/-- A frontend is put into both, or into neither. -/
theorem upsertFrontend_alike (h : p.Alike now q) (f : Frontend) :
    AlikeDone now (p.upsertFrontend f) (q.upsertFrontend f) := by
  have hget := h.get? f.id
  obtain ⟨d, rfl, hd⟩ := h.cases
  unfold upsertFrontend
  dsimp only at hget ⊢
  cases f.check with
  | error e => exact ⟨rfl, h⟩
  | ok =>
    cases p.backends.get? f.backendId with
    | none => exact ⟨rfl, h⟩
    | some c =>
      rcases cases_of_map_eq hget with ⟨hp, hq⟩ | ⟨s, t, hp, hq, hs⟩
      · -- the new service has no gates yet
        rw [hp, hq]
        unfold addFrontend
        dsimp only
        cases p.router.add f.route p.nextSerial with
        | error e => exact ⟨rfl, h⟩
        | ok router => exact ⟨rfl, rfl, Alike.insert hd rfl f.id⟩
      · obtain ⟨hserial, hspec, hcluster, hchain, hstats⟩ := Service.parts_of_since hs
        rw [hp, hq]
        unfold updateFrontend reroute moved clusterAfter
        dsimp only
        rw [hspec, hserial, hcluster]
        -- the frontend is the new one in both, and the gates are alike
        have hput (n : Nat) :
            Service.since now { s with serial := t.serial, spec := f, cluster := n } =
              Service.since now { t with spec := f, cluster := n } := by
          unfold Service.since
          dsimp only
          rw [hchain, hstats]
        cases (if t.spec.route = f.route then Except.ok p.router
            else p.router.replace t.spec.route f.route t.serial : Result (Route.Router Nat)) with
        | error e => exact ⟨rfl, h⟩
        | ok router => exact ⟨rfl, rfl, Alike.insert hd (hput _) f.id⟩

/-- So is a gate. -/
theorem upsertGate_alike (h : p.Alike now q) (frontend : String) (gate : Entity.Gate) :
    AlikeDone now (p.upsertGate g time frontend gate) (q.upsertGate g time frontend gate) := by
  have hget := h.get? frontend
  obtain ⟨d, rfl, hd⟩ := h.cases
  unfold upsertGate
  dsimp only at hget ⊢
  cases gate.check with
  | error e => exact ⟨rfl, h⟩
  | ok =>
    rcases cases_of_map_eq hget with ⟨hp, hq⟩ | ⟨s, t, hp, hq, hs⟩
    · rw [hp, hq]
      exact ⟨rfl, h⟩
    · obtain ⟨hserial, hspec, hcluster, hchain, hstats⟩ := Service.parts_of_since hs
      rw [hp, hq]
      dsimp only
      cases g.registry.build gate.kind gate.settings time with
      | error e => exact ⟨rfl, h⟩
      | ok i =>
        refine ⟨rfl, rfl, Alike.insert hd ?_ frontend⟩
        unfold Service.since
        dsimp only
        rw [Chain.upsert_since, Chain.upsert_since, hserial, hspec, hcluster, hchain, hstats]

/-- A frontend is deleted from both, or from neither. -/
theorem deleteFrontend_alike (h : p.Alike now q) (id : String) :
    AlikeDone now (p.deleteFrontend id) (q.deleteFrontend id) := by
  have hget := h.get? id
  obtain ⟨d, rfl, hd⟩ := h.cases
  unfold deleteFrontend
  dsimp only at hget ⊢
  rcases cases_of_map_eq hget with ⟨hp, hq⟩ | ⟨s, t, hp, hq, hs⟩
  · rw [hp, hq]
    exact ⟨rfl, h⟩
  · obtain ⟨-, hspec, -⟩ := Service.parts_of_since hs
    rw [hp, hq]
    dsimp only
    rw [hspec]
    refine ⟨rfl, rfl, ?_⟩
    show (p.frontends.erase id).mapValues _ = (d.erase id).mapValues _
    rw [Dictionary.mapValues_erase, Dictionary.mapValues_erase, hd]

/-- So is a gate. -/
theorem deleteGate_alike (h : p.Alike now q) (frontend id : String) :
    AlikeDone now (p.deleteGate frontend id) (q.deleteGate frontend id) := by
  have hget := h.get? frontend
  obtain ⟨d, rfl, hd⟩ := h.cases
  unfold deleteGate
  dsimp only at hget ⊢
  rcases cases_of_map_eq hget with ⟨hp, hq⟩ | ⟨s, t, hp, hq, hs⟩
  · rw [hp, hq]
    exact ⟨rfl, h⟩
  · obtain ⟨hserial, hspec, hcluster, hchain, hstats⟩ := Service.parts_of_since hs
    -- the gate is in both chains, or in neither
    have hremove : (s.chain.remove id).map (Chain.since now) =
        (t.chain.remove id).map (Chain.since now) := by
      rw [← Chain.remove_since, hchain, Chain.remove_since]
    rw [hp, hq]
    dsimp only
    rcases Result.cases_of_map_eq hremove with ⟨e, hs, ht⟩ | ⟨c, c', hs, ht, hc⟩
    · rw [hs, ht]
      exact ⟨rfl, h⟩
    · rw [hs, ht]
      refine ⟨rfl, rfl, Alike.insert hd ?_ frontend⟩
      unfold Service.since
      dsimp only
      rw [hc, hserial, hspec, hcluster, hstats]

/-- Proxies that are alike stay so when an entity is put. -/
theorem upsert_alike (h : p.Alike now q) (u : Upsert) :
    AlikeDone now (p.upsert g time u) (q.upsert g time u) := by
  cases u with
  | frontend f => exact upsertFrontend_alike h f
  | gate frontend gate => exact upsertGate_alike h frontend gate
  | host x =>
    obtain ⟨d, rfl, hd⟩ := h.cases
    show AlikeDone now (p.upsertHost x) (upsertHost _ x)
    unfold upsertHost
    split
    · exact ⟨rfl, h⟩
    · exact ⟨rfl, rfl, hd⟩
  | listener l =>
    obtain ⟨d, rfl, hd⟩ := h.cases
    have hrival : rival? { p with frontends := d } l = p.rival? l := rfl
    show AlikeDone now (p.upsertListener g l) (upsertListener g _ l)
    unfold upsertListener
    dsimp only
    rw [hrival]
    split
    · exact ⟨rfl, h⟩
    · split
      · exact ⟨rfl, h⟩
      · split
        · exact ⟨rfl, rfl, hd⟩
        · split
          · exact ⟨rfl, rfl, hd⟩
          · split
            · exact ⟨rfl, rfl, hd⟩
            · exact ⟨rfl, h⟩
  | backend b =>
    obtain ⟨d, rfl, hd⟩ := h.cases
    show AlikeDone now (p.upsertBackend b) (upsertBackend _ b)
    unfold upsertBackend
    dsimp only
    split
    · exact ⟨rfl, h⟩
    · split
      · exact ⟨rfl, rfl, hd⟩
      · exact ⟨rfl, rfl, hd⟩
  | server backend x =>
    obtain ⟨d, rfl, hd⟩ := h.cases
    show AlikeDone now (p.upsertServer backend x) (upsertServer _ backend x)
    unfold upsertServer
    dsimp only
    split
    · split
      · exact ⟨rfl, h⟩
      · exact ⟨rfl, rfl, hd⟩
    · split
      · exact ⟨rfl, h⟩
      · exact ⟨rfl, rfl, hd⟩

/-- Proxies that are alike stay so when an entity is deleted. -/
theorem delete_alike (h : p.Alike now q) (r : Ref) : AlikeDone now (p.delete r) (q.delete r) := by
  cases r with
  | frontend id => exact deleteFrontend_alike h id
  | gate frontend id => exact deleteGate_alike h frontend id
  | host name =>
    obtain ⟨d, rfl, hd⟩ := h.cases
    show AlikeDone now (p.deleteHost name) (deleteHost _ name)
    unfold deleteHost
    dsimp only
    split
    · exact ⟨rfl, rfl, hd⟩
    · exact ⟨rfl, h⟩
  | listener id =>
    obtain ⟨d, rfl, hd⟩ := h.cases
    show AlikeDone now (p.deleteListener id) (deleteListener _ id)
    unfold deleteListener
    dsimp only
    split
    · exact ⟨rfl, rfl, hd⟩
    · exact ⟨rfl, h⟩
  | backend id =>
    obtain ⟨d, rfl, hd⟩ := h.cases
    show AlikeDone now (p.deleteBackend id) (deleteBackend _ id)
    unfold deleteBackend
    dsimp only
    split
    · exact ⟨rfl, h⟩
    · split
      · exact ⟨rfl, h⟩
      · exact ⟨rfl, rfl, hd⟩
  | server backend id =>
    obtain ⟨d, rfl, hd⟩ := h.cases
    show AlikeDone now (p.deleteServer backend id) (deleteServer _ backend id)
    unfold deleteServer
    dsimp only
    split
    · exact ⟨rfl, h⟩
    · split
      · exact ⟨rfl, h⟩
      · exact ⟨rfl, rfl, hd⟩

/-- A change does the same to proxies that are alike. -/
theorem apply_alike (h : p.Alike now q) (c : Change) :
    AlikeDone now (p.apply g time c) (q.apply g time c) := by
  cases c with
  | upsert u => exact upsert_alike h u
  | delete r => exact delete_alike h r

end Changes

/-! ## Sessions -/

/-- A use of a proxy. -/
inductive Use where
  | request (r : Request) (body fresh : String) (net : Network)
  | change (g : Ground) (c : Change)

/-- What is seen of a proxy from outside: all of it but the inside of its gates. -/
def outside (p : Proxy) : Proxy × List (List (String × Int × String)) :=
  ({ p with frontends := p.frontends.mapValues fun s => { s with chain := .empty } },
    p.frontends.values.map (·.chain.labels))

/-- What is seen of a use. -/
structure Sight where
  /-- The response, or whether the change could be applied. -/
  reply : Response ⊕ Result Unit
  ambient : Ambient
  outside : Proxy × List (List (String × Int × String))

/-- A proxy is used at some time, with what it shares with others. -/
def use (a : Ambient) (p : Proxy) (now : Nat) : Use → Proxy × Sight
  | .request r body fresh net =>
    let h := p.answer { a with now := now } r body fresh net
    (h.proxy, ⟨.inl h.response, h.ambient, h.proxy.outside⟩)
  | .change g c =>
    let d := p.apply g now c
    (d.1, ⟨.inr d.2, { a with now := now }, d.1.outside⟩)

/-- What is seen of a proxy that is used several times, one after the other. -/
def session (a : Ambient) (p : Proxy) : List (Nat × Use) → List Sight
  | [] => []
  | (now, u) :: us => (p.use a now u).2 :: (p.use a now u).1.session (p.use a now u).2.ambient us

section Sessions

variable {now : Nat} {p q : Proxy}

/-- From outside, proxies that are alike look the same. -/
theorem outside_alike (h : p.Alike now q) : p.outside = q.outside := by
  have hface (p : Proxy) : p.frontends.mapValues (fun s => { s with chain := .empty }) =
      (p.frontends.mapValues (Service.since now)).mapValues
        fun s => { s with chain := .empty } := by
    refine Dictionary.ext fun id => ?_
    rw [Dictionary.get?_mapValues, Dictionary.get?_mapValues, Dictionary.get?_mapValues,
      Option.map_map]
    rfl
  have hlabels (p : Proxy) : p.frontends.values.map (·.chain.labels) =
      (p.frontends.mapValues (Service.since now)).values.map (·.chain.labels) := by
    rw [Dictionary.values_mapValues, List.map_map]
    exact List.map_congr_left fun s _ => (Chain.labels_since now s.chain).symm
  unfold outside
  rw [hface p, hlabels p, h.frontends, ← hface q, ← hlabels q, h.rest]

/-- A use looks the same and leaves proxies that are alike. -/
theorem use_alike (h : p.Alike now q) (a : Ambient) (u : Use) :
    (p.use a now u).2 = (q.use a now u).2 ∧ (p.use a now u).1.Alike now (q.use a now u).1 := by
  cases u with
  | request r body fresh net =>
    have hanswer := answer_alike (a := { a with now := now }) h rfl r body fresh net
    refine ⟨?_, hanswer.proxy⟩
    unfold use
    dsimp only
    rw [hanswer.response, hanswer.ambient, outside_alike hanswer.proxy]
  | change g c =>
    obtain ⟨hresult, hproxy⟩ := apply_alike (g := g) h c
    refine ⟨?_, hproxy⟩
    unfold use
    dsimp only
    rw [hresult, outside_alike hproxy]

/-- Proxies that are alike look the same in every session that begins later. -/
theorem session_eq (h : p.Alike now q) (a : Ambient) {us : List (Nat × Use)}
    (hlater : ∀ u ∈ us, now ≤ u.1) (hordered : us.Pairwise fun u v => u.1 ≤ v.1) :
    p.session a us = q.session a us := by
  induction us generalizing p q now a with
  | nil => rfl
  | cons u us ih =>
    obtain ⟨time, u⟩ := u
    obtain ⟨hfirst, hordered⟩ := List.pairwise_cons.mp hordered
    -- the first use comes later, and proxies that were alike before still are
    have htime : now ≤ time := hlater (time, u) List.mem_cons_self
    obtain ⟨hsight, hproxy⟩ := use_alike (h.mono htime) a u
    unfold session
    rw [ih hproxy _ hfirst hordered, hsight]

end Sessions

end Proxy

end Turnpike
