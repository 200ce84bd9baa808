/-
  The picture of a proxy.

  Two proxies that have come about in different ways are to be compared by what they show of their
  configuration, and not by serial numbers, counters or the order in which things have been put.

  1. **Pictures** (`picture`).  Everything that was put and can be seen: hosts, listeners, the
     settings of backends, the URLs of servers in normal form, frontends, and for each frontend its
     gates in order, but not the states that the gates are in.

  2. **Facets** (`facet?`).  What is shown of a single entity.  Facets make the picture: proxies
     that show the same of every entity show the same in all (`picture_eq`).  The order of gates is
     the only thing that does not stand in the facets, and it follows from them, since chains are in
     order.

  3. **One change, one facet** (`Applied.facet?_eq`).  A change that is applied alters the facet of
     its own entity and no other.  A proxy keeps each entity in a place, and a change touches one
     place only (`Touches`), so all that has to be looked at is the content of that place, and there
     the entities besides the one that is named (`Renewed.facet?_eq`).

  4. **What must be clear** (`Clear`).  Without further ado this is wrong in two cases: a server
     brings a backend with it where there is none, and what is deleted takes along what is under it.
     So it is asked that the backend be there, and that nothing be left.  Frontends are not
     concerned by this (`Applied.facet?_frontend`).
-/
import Turnpike.Proofs.Proxy.Places

namespace Turnpike.Proxy

open Turnpike.Entity Turnpike.Balance

/-! ## Pictures -/

/-- The configuration of a proxy. -/
structure Picture where
  hosts : Dictionary Host
  listeners : Dictionary Listener
  backends : Dictionary BackendSettings
  /-- For each backend the URL of a server in normal form, by the identifier of the server. -/
  servers : Dictionary (String → Option String)
  frontends : Dictionary Frontend
  /-- For each frontend identifier, priority and kind of its gates, in order. -/
  gates : Dictionary (List (String × Int × String))

/-- What a proxy shows of its configuration. -/
def picture (p : Proxy) : Picture where
  hosts := p.hosts
  listeners := p.listeners.mapValues (·.spec)
  backends := p.backends.mapValues (·.pool.settings)
  servers := p.backends.mapValues fun c id => (c.pool.get? id).map (·.url.text)
  frontends := p.frontends.mapValues (·.spec)
  gates := p.frontends.mapValues (·.chain.labels)

/-! ## Facets -/

/-- What a proxy shows of an entity. -/
inductive Facet where
  | host (h : Host)
  | listener (l : Listener)
  | backend (s : BackendSettings)
  /-- The URL in normal form. -/
  | server (url : String)
  | frontend (f : Frontend)
  /-- Identifier, priority and kind. -/
  | gate (label : String × Int × String)

/-- What the content of a place shows of an entity. -/
def Content.facet? : Content → Ref → Option Facet
  | .host h, .host _ => some (.host h)
  | .listener l, .listener _ => some (.listener l)
  | .group pool, .backend _ => some (.backend pool.settings)
  | .group pool, .server _ id => (pool.get? id).map (.server ·.url.text)
  | .site f _, .frontend _ => some (.frontend f)
  | .site _ chain, .gate _ id => (chain.get? id).map (.gate ·.label)
  | _, _ => none

/-- What a proxy shows of an entity, if it is there. -/
def facet? (p : Proxy) (r : Ref) : Option Facet := (p.content? (placeOf r)).bind (·.facet? r)

/-- What is shown of an entity that was put. -/
def facetOf : Upsert → Facet
  | .host h => .host h
  | .listener l => .listener l
  | .backend b => .backend b.settings
  | .server _ s => .server ((s.parsedUrl.toOption.map Url.text).getD "")
  | .frontend f => .frontend f
  | .gate _ t => .gate (t.id, t.priority, t.kind)

/-- What is shown of the entity of a change. -/
def facetAfter? : Change → Option Facet
  | .upsert u => some (facetOf u)
  | .delete _ => none

variable {g : Ground} {now : Nat} {p q : Proxy}

/-- What is shown of a host. -/
theorem facet?_host (p : Proxy) (name : String) :
    p.facet? (.host name) = (p.hosts.get? name).map .host := by
  unfold facet?
  rw [placeOf, content?]
  cases p.hosts.get? name with
  | none => rfl
  | some h => rfl

/-- What is shown of a listener. -/
theorem facet?_listener (p : Proxy) (id : String) :
    p.facet? (.listener id) = (p.listeners.get? id).map (.listener ·.spec) := by
  unfold facet?
  rw [placeOf, content?]
  cases p.listeners.get? id with
  | none => rfl
  | some e => rfl

/-- What is shown of a backend are its settings. -/
theorem facet?_backend (p : Proxy) (b : String) :
    p.facet? (.backend b) = (p.backends.get? b).map (.backend ·.pool.settings) := by
  unfold facet?
  rw [placeOf, content?]
  cases p.backends.get? b with
  | none => rfl
  | some c => rfl

/-- What is shown of a server is its URL. -/
theorem facet?_server (p : Proxy) (b id : String) :
    p.facet? (.server b id) =
      (p.backends.get? b).bind fun c => (c.pool.get? id).map (.server ·.url.text) := by
  unfold facet?
  rw [placeOf, content?]
  cases p.backends.get? b with
  | none => rfl
  | some c => rfl

/-- What is shown of a frontend is what was put. -/
theorem facet?_frontend (p : Proxy) (f : String) :
    p.facet? (.frontend f) = (p.frontends.get? f).map (.frontend ·.spec) := by
  unfold facet?
  rw [placeOf, content?]
  cases p.frontends.get? f with
  | none => rfl
  | some s => rfl

/-- What is shown of a gate is its label. -/
theorem facet?_gate (p : Proxy) (f id : String) :
    p.facet? (.gate f id) =
      (p.frontends.get? f).bind fun s => (s.chain.get? id).map (.gate ·.label) := by
  unfold facet?
  rw [placeOf, content?]
  cases p.frontends.get? f with
  | none => rfl
  | some s => rfl

/-! ## Facets make the picture -/

/-- Values that look the same as facets are the same. -/
theorem map_eq_of_facet {α β : Type} {f : α → β} {facet : β → Facet}
    (hfacet : Function.Injective facet) {o o' : Option α}
    (h : o.map (fun a => facet (f a)) = o'.map (fun a => facet (f a))) : o.map f = o'.map f := by
  refine Option.map_injective hfacet ?_
  rw [Option.map_map, Option.map_map]
  exact h

/-- Values that are there at the same keys, and agree in `k` where they are, agree in `k`. -/
theorem map_eq_of_map_eq {α β γ : Type} {f : α → β} {k : α → γ} {o o' : Option α}
    (h : o.map f = o'.map f) (hk : ∀ a a', o = some a → o' = some a' → k a = k a') :
    o.map k = o'.map k := by
  cases o with
  | none =>
    cases o' with
    | none => rfl
    | some a' => cases h
  | some a =>
    cases o' with
    | none => cases h
    | some a' => exact congrArg some (hk a a' rfl rfl)

/-- Sane proxies that show the same of all entities show the same picture. -/
theorem picture_eq (hp : p.Sane) (hq : q.Sane) (h : ∀ r, p.facet? r = q.facet? r) :
    p.picture = q.picture := by
  have hhosts : p.hosts = q.hosts := by
    refine Dictionary.ext fun name => ?_
    have hname := h (.host name)
    rw [facet?_host, facet?_host] at hname
    exact Option.map_injective (fun _ _ => Facet.host.inj) hname
  have hlisteners (id : String) :
      (p.listeners.get? id).map (·.spec) = (q.listeners.get? id).map (·.spec) := by
    have hid := h (.listener id)
    rw [facet?_listener, facet?_listener] at hid
    exact map_eq_of_facet (fun _ _ => Facet.listener.inj) hid
  have hbackends (b : String) : (p.backends.get? b).map (·.pool.settings) =
      (q.backends.get? b).map (·.pool.settings) := by
    have hb := h (.backend b)
    rw [facet?_backend, facet?_backend] at hb
    exact map_eq_of_facet (fun _ _ => Facet.backend.inj) hb
  -- the backends are the same, and under each of them the servers are
  have hservers (b : String) :
      (p.backends.get? b).map (fun c id => (c.pool.get? id).map (·.url.text)) =
        (q.backends.get? b).map fun c id => (c.pool.get? id).map (·.url.text) := by
    refine map_eq_of_map_eq (hbackends b) fun c d hc hd => funext fun id => ?_
    have hid := h (.server b id)
    rw [facet?_server, facet?_server, hc, hd, Option.bind_some, Option.bind_some] at hid
    exact map_eq_of_facet (fun _ _ => Facet.server.inj) hid
  have hfrontends (f : String) :
      (p.frontends.get? f).map (·.spec) = (q.frontends.get? f).map (·.spec) := by
    have hf := h (.frontend f)
    rw [facet?_frontend, facet?_frontend] at hf
    exact map_eq_of_facet (fun _ _ => Facet.frontend.inj) hf
  have hgates (f : String) :
      (p.frontends.get? f).map (·.chain.labels) = (q.frontends.get? f).map (·.chain.labels) := by
    refine map_eq_of_map_eq (hfrontends f) fun s t hs ht => ?_
    have hordered : s.chain.Ordered := hp.sound _ _ (content?_site hs)
    have hordered' : t.chain.Ordered := hq.sound _ _ (content?_site ht)
    -- the gates are the same, and their order follows
    refine hordered.labels_eq hordered' fun id => ?_
    have hid := h (.gate f id)
    rw [facet?_gate, facet?_gate, hs, ht, Option.bind_some, Option.bind_some] at hid
    exact map_eq_of_facet (fun _ _ => Facet.gate.inj) hid
  unfold picture
  rw [hhosts, Dictionary.mapValues_congr hlisteners, Dictionary.mapValues_congr hbackends,
    Dictionary.mapValues_congr hservers, Dictionary.mapValues_congr hfrontends,
    Dictionary.mapValues_congr hgates]

/-! ## What a change does to facets -/

/-- The entity that an entity is part of. -/
def owner? : Ref → Option Ref
  | .server b _ => some (.backend b)
  | .gate f _ => some (.frontend f)
  | _ => none

/-- A server finds its backend there, and nothing is left under what is deleted. -/
def Clear (p : Proxy) : Change → Prop
  | .upsert (.server b _) => p.facet? (.backend b) ≠ none
  | .upsert _ => True
  | .delete r => ∀ r', owner? r' = some r → p.facet? r' = none

/-- In the place of a host there is nothing else. -/
theorem eq_of_placeOf_host {r : Ref} {name : String} (h : placeOf r = .host name) :
    r = .host name := by
  cases r with
  | host n => exact congrArg _ (Place.host.inj h)
  | _ => cases h

/-- Nor in that of a listener. -/
theorem eq_of_placeOf_listener {r : Ref} {id : String} (h : placeOf r = .listener id) :
    r = .listener id := by
  cases r with
  | listener n => exact congrArg _ (Place.listener.inj h)
  | _ => cases h

/-- In the place of a backend there are its servers, too. -/
theorem eq_of_placeOf_group {r : Ref} {b : String} (h : placeOf r = .group b) :
    r = .backend b ∨ ∃ id, r = .server b id := by
  cases r with
  | backend n => exact Or.inl (congrArg _ (Place.group.inj h))
  | server n id => exact Or.inr ⟨id, by rw [Place.group.inj h]⟩
  | _ => cases h

/-- In the place of a frontend there are its gates, too. -/
theorem eq_of_placeOf_site {r : Ref} {f : String} (h : placeOf r = .site f) :
    r = .frontend f ∨ ∃ id, r = .gate f id := by
  cases r with
  | frontend n => exact Or.inl (congrArg _ (Place.site.inj h))
  | gate n id => exact Or.inr ⟨id, by rw [Place.site.inj h]⟩
  | _ => cases h

variable {x y : Option Content}

/-- In the place that a change touches, the facet of its entity is altered and no other. -/
theorem Renewed.facet?_eq {c : Change} (h : Renewed g now c x y)
    (hx : ∀ d, x = some d → d.Sound) (hhome : ∀ b s, c = .upsert (.server b s) → x ≠ none)
    (hempty : ∀ r r', c = .delete r → owner? r' = some r → x.bind (·.facet? r') = none) {r : Ref}
    (hr : placeOf r = placeOf c.ref) :
    y.bind (·.facet? r) = if r = c.ref then facetAfter? c else x.bind (·.facet? r) := by
  cases h with
  | host =>
    obtain rfl := eq_of_placeOf_host hr
    exact (if_pos rfl).symm
  | dropHost =>
    obtain rfl := eq_of_placeOf_host hr
    exact (if_pos rfl).symm
  | listener =>
    obtain rfl := eq_of_placeOf_listener hr
    exact (if_pos rfl).symm
  | dropListener =>
    obtain rfl := eq_of_placeOf_listener hr
    exact (if_pos rfl).symm
  | backend =>
    obtain rfl | ⟨id, rfl⟩ := eq_of_placeOf_group hr
    · exact (if_pos rfl).symm
    · exact (if_neg nofun).symm
  | newBackend =>
    obtain rfl | ⟨id, rfl⟩ := eq_of_placeOf_group hr
    · exact (if_pos rfl).symm
    · exact (if_neg nofun).symm
  -- nothing was left under it, and nothing is
  | @dropBackend b pool =>
    obtain rfl | ⟨id, rfl⟩ := eq_of_placeOf_group hr
    · exact (if_pos rfl).symm
    · exact (hempty _ (.server b id) rfl rfl).symm.trans (if_neg nofun).symm
  -- the backend has kept its settings; of its servers, one may be another
  | @server b s pool pool' placed =>
    obtain rfl | ⟨id, rfl⟩ := eq_of_placeOf_group hr
    · refine Eq.trans ?_ (if_neg nofun).symm
      show some (Facet.backend pool'.settings) = some (.backend pool.settings)
      rw [(Pool.id_of_upsert placed).2]
    · obtain ⟨-, u, hu, -⟩ := Pool.upsert_eq_ok placed
      have hurl := congrArg (Option.map Facet.server) (Pool.url_of_upsert placed id)
      rw [Option.map_map, hu] at hurl
      by_cases hid : id = s.id
      · subst hid
        refine Eq.trans ?_ (if_pos rfl).symm
        rw [if_pos rfl] at hurl
        rw [facetAfter?, facetOf, hu]
        exact hurl
      · refine Eq.trans ?_ (if_neg fun heq => hid (Ref.server.inj heq).2).symm
        rw [if_neg hid, Option.map_map] at hurl
        exact hurl
  | newServer =>
    -- it would bring a backend with it
    exact absurd rfl (hhome _ _ rfl)
  | @dropServer b id pool pool' removed =>
    obtain rfl | ⟨other, rfl⟩ := eq_of_placeOf_group hr
    · obtain ⟨-, rfl⟩ := Pool.remove_eq_ok removed
      exact (if_neg nofun).symm
    · show (pool'.get? other).map (Facet.server ·.url.text) = _
      rw [Pool.get?_remove removed]
      by_cases hid : other = id
      · subst hid
        rw [if_pos rfl]
        exact (if_pos rfl).symm
      · rw [if_neg hid]
        exact (if_neg fun heq => hid (Ref.server.inj heq).2).symm
  | newFrontend =>
    obtain rfl | ⟨id, rfl⟩ := eq_of_placeOf_site hr
    · exact (if_pos rfl).symm
    · exact (if_neg nofun).symm
  | frontend =>
    obtain rfl | ⟨id, rfl⟩ := eq_of_placeOf_site hr
    · exact (if_pos rfl).symm
    · exact (if_neg nofun).symm
  | @dropFrontend f _ _ =>
    obtain rfl | ⟨id, rfl⟩ := eq_of_placeOf_site hr
    · exact (if_pos rfl).symm
    · exact (hempty _ (.gate f id) rfl rfl).symm.trans (if_neg nofun).symm
  -- the frontend is as it was; of its gates, one may be another
  | @gate f t _ chain i =>
    have hordered : chain.Ordered := hx _ rfl
    obtain rfl | ⟨id, rfl⟩ := eq_of_placeOf_site hr
    · exact (if_neg nofun).symm
    · show ((chain.upsert _).get? id).map (Facet.gate ·.label) = _
      rw [hordered.get?_upsert]
      by_cases hid : id = t.id
      · subst hid
        rw [if_pos rfl]
        exact (if_pos rfl).symm
      · rw [if_neg hid]
        exact (if_neg fun heq => hid (Ref.gate.inj heq).2).symm
  | @dropGate f id _ chain chain' removed =>
    have hordered : chain.Ordered := hx _ rfl
    obtain rfl | ⟨other, rfl⟩ := eq_of_placeOf_site hr
    · exact (if_neg nofun).symm
    · show (chain'.get? other).map (Facet.gate ·.label) = _
      rw [hordered.get?_remove removed]
      by_cases hid : other = id
      · subst hid
        rw [if_pos rfl]
        exact (if_pos rfl).symm
      · rw [if_neg hid]
        exact (if_neg fun heq => hid (Ref.gate.inj heq).2).symm

/-- A change alters the facet of its own entity and no other. -/
theorem Applied.facet?_eq {c : Change} (h : Applied g now p c q) (hp : p.Sane)
    (hclear : p.Clear c) (r : Ref) :
    q.facet? r = if r = c.ref then facetAfter? c else p.facet? r := by
  obtain ⟨y, htouches, hrenewed⟩ := h.renewed
  rw [facet?, htouches]
  by_cases hr : placeOf r = placeOf c.ref
  · -- in this place the renewal says what is shown; the other places are as they were
    have hhome : ∀ b s, c = .upsert (.server b s) → p.content? (placeOf c.ref) ≠ none := by
      rintro b s rfl hnone
      refine hclear ?_
      rw [facet?, show p.content? (placeOf (.backend b)) = none from hnone, Option.bind_none]
    have hempty : ∀ d r', c = .delete d → owner? r' = some d →
        (p.content? (placeOf c.ref)).bind (·.facet? r') = none := by
      rintro d r' rfl howner
      have hplace : placeOf r' = placeOf d := by
        cases r' with
        | server b id => cases howner; rfl
        | gate f id => cases howner; rfl
        | _ => cases howner
      show (p.content? (placeOf d)).bind (·.facet? r') = none
      rw [← hplace]
      exact hclear r' howner
    rw [if_pos hr, hrenewed.facet?_eq (hp.sound _) hhome hempty hr, facet?, hr]
  · rw [if_neg hr, if_neg fun heq => hr (congrArg placeOf heq)]
    rfl

/-- In the place of a frontend, only a change of the frontend itself makes a difference to it. -/
theorem Renewed.facet?_frontend {c : Change} {f : String} (h : Renewed g now c x y)
    (hplace : placeOf c.ref = .site f) :
    y.bind (·.facet? (.frontend f)) =
      if c.ref = .frontend f then facetAfter? c else x.bind (·.facet? (.frontend f)) := by
  cases h with
  | newFrontend =>
    cases hplace
    exact (if_pos rfl).symm
  | frontend =>
    cases hplace
    exact (if_pos rfl).symm
  | dropFrontend =>
    cases hplace
    exact (if_pos rfl).symm
  | gate => exact (if_neg nofun).symm
  | dropGate => exact (if_neg nofun).symm
  | _ => cases hplace

/-- A change alters the facet of a frontend only when it is a change of that frontend, whatever else
    stands in the proxy. -/
theorem Applied.facet?_frontend {c : Change} (h : Applied g now p c q) (f : String) :
    q.facet? (.frontend f) =
      if c.ref = .frontend f then facetAfter? c else p.facet? (.frontend f) := by
  obtain ⟨y, htouches, hrenewed⟩ := h.renewed
  rw [facet?, htouches]
  by_cases hplace : placeOf (.frontend f) = placeOf c.ref
  · rw [if_pos hplace, hrenewed.facet?_frontend hplace.symm, facet?, hplace]
  · rw [if_neg hplace, if_neg fun heq => hplace (congrArg placeOf heq).symm]
    rfl

end Turnpike.Proxy
