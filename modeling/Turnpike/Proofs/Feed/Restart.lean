/-
  What a restart does to the answers.

  A proxy follows a store from the beginning, and every change that it is told can be applied.  Then
  a new proxy starts from the snapshot of the store.  One would like it to answer as the other one
  does; but in between the store may have been used freely, and a snapshot says what is stored and
  nothing of how it came there.

  1. **Following** (`Traces`).  Unlike in `Follows`, servers may bring their backends with them,
     entities may be deleted in any order, and values may be put that describe no entity, of which
     the proxy is told nothing.

  2. **What is lost and what changes.**  A frontend is lost when nothing in the store leads to its
     backend any more, although the backend is still there in the first proxy, and so is one whose
     value has been overwritten by one that cannot be read (`Kept`).  And the routes of the others
     are added in the order of the identifiers, while in the first proxy they stand in the order of
     the history; where several routes serve one request, that may decide which of them does.
     Nothing else is different (`Resumes`).

  3. **The invariant** (`Tracks`).  The entities of the store are fit to be put, and the proxy shows
     its frontends.  It is weaker than that of following with care: the proxy may show more than the
     store holds.  Every step is an instance of one lemma (`Tracks.step`), which asks for what
     becomes of the one name that changes.

  4. **Starting again** (`resumes_restarted`).  The snapshot of such entities can be played back as
     far as frontends find their backends, and therefore it is known which frontends are in service
     then, and in which order.  Answers are compared by the tables alone: a request that only one
     frontend can answer is answered as before just when that one is kept, and when all are kept in
     the order that they had, every request is.

  5. **A run in which both happen** (`traces_reordered`) shows that neither can be left out.
-/
import Turnpike.Proofs.Feed.Housing
import Turnpike.Proofs.Feed.Replay

namespace Turnpike.Feed

open Turnpike.Entity Turnpike.Proxy

/-! ## Following -/

/-- What a store and a new proxy that follows it, in whichever phase, can come to.  Only keys of
    entities are put and deleted; to delete what is not there does nothing.  The proxy applies every
    change that it is told; a value that describes no entity tells of none. -/
inductive Traces (l : Layout) (id : Nat) (o : Options) : Store → Proxy → Prop where
  | start (history : Nat) (phase : Phase) :
      Traces l id o (.make history) { make id o with phase := phase }
  | put {s : Store} {p : Proxy} {r : Ref} {value : String} {c : Change} (g : Ground) (now : Nat)
      (before : Traces l id o s p) (named : l.classify (l.key r) = some r)
      (told : l.change (.ofMutation ⟨l.key r, some value, s.revision + 1⟩) = .ok (some c))
      (applied : (p.apply g now c).2 = .ok ()) :
      Traces l id o (s.put (l.key r) value) (p.apply g now c).1
  | garbled {s : Store} {p : Proxy} {r : Ref} {value : String} {e : Error}
      (before : Traces l id o s p) (named : l.classify (l.key r) = some r)
      (told : l.change (.ofMutation ⟨l.key r, some value, s.revision + 1⟩) = .error e) :
      Traces l id o (s.put (l.key r) value) p
  | delete {s : Store} {p : Proxy} {r : Ref} {c : Change} (g : Ground) (now : Nat)
      (before : Traces l id o s p) (named : l.classify (l.key r) = some r)
      (there : s.entries.contains (l.key r) = true)
      (told : l.change (.ofMutation ⟨l.key r, none, s.revision + 1⟩) = .ok (some c))
      (applied : (p.apply g now c).2 = .ok ()) :
      Traces l id o (s.delete (l.key r)) (p.apply g now c).1

/-- A value that describes an entity is put under the key of that entity. -/
theorem Traces.put_entity {l : Layout} {id : Nat} {o : Options} {s : Store} {p : Proxy}
    (h : Traces l id o s p) (g : Ground) (now : Nat) {r : Ref} {value : String} {u : Upsert}
    (hids : ∀ i ∈ Layout.ids r, Layout.Plain i) (hu : entityOf? r value = some u)
    (happlied : (p.apply g now (.upsert u)).2 = .ok ()) :
    Traces l id o (s.put (l.key r) value) (p.apply g now (.upsert u)).1 := by
  have hr : l.classify (l.key r) = some r := Layout.classify_key_iff.mpr hids
  exact h.put g now hr ((Layout.change_put hr).mpr ⟨u, hu, rfl⟩) happlied

/-- The key of an entity is deleted. -/
theorem Traces.delete_entity {l : Layout} {id : Nat} {o : Options} {s : Store} {p : Proxy}
    (h : Traces l id o s p) (g : Ground) (now : Nat) {r : Ref}
    (hids : ∀ i ∈ Layout.ids r, Layout.Plain i) (hthere : s.entries.contains (l.key r) = true)
    (happlied : (p.apply g now (.delete r)).2 = .ok ()) :
    Traces l id o (s.delete (l.key r)) (p.apply g now (.delete r)).1 := by
  have hr : l.classify (l.key r) = some r := Layout.classify_key_iff.mpr hids
  exact h.delete g now hr hthere ((Layout.change_delete hr).mpr rfl) happlied

/-- A new proxy that starts from the snapshot of a store, each change at the time that a clock then
    shows. -/
def restarted (l : Layout) (s : Store) (g : Ground) (clock : Nat → Nat) (id : Nat) (o : Options) :
    Proxy :=
  (make id o).playOn g clock (l.snapshot s).changes

/-- The frontend can be read in the store, and its backend or a server of it too. -/
def Kept (l : Layout) (s : Store) (f : Frontend) : Prop :=
  entityAt? l s (.frontend f.id) = some (.frontend f) ∧
    ((∃ u, entityAt? l s (.backend f.backendId) = some u) ∨
      ∃ i u, entityAt? l s (.server f.backendId i) = some u)

/-- How a proxy that starts from the store compares with the one that has followed it. -/
structure Resumes (l : Layout) (s : Store) (p q : Proxy) : Prop where
  /-- Of the frontends those that are kept are in service. -/
  table : ∀ f, f ∈ q.table ↔ f ∈ p.table ∧ Kept l s f
  /-- They stand in the order of their identifiers. -/
  sorted : q.table.Pairwise (·.id < ·.id)
  /-- When all are kept, and have stood in that order before, all requests are answered alike. -/
  alike : (∀ f ∈ p.table, Kept l s f) → p.table.Pairwise (·.id < ·.id) →
    ∀ method host path, q.answer? method host path = p.answer? method host path
  /-- Whoever answers has been there before. -/
  answer : ∀ method host path f, q.answer? method host path = some f →
    f ∈ p.table ∧ Kept l s f ∧ f.Answers method host path
  /-- Nobody answers when nobody is kept who could. -/
  none_iff : ∀ method host path, q.answer? method host path = none ↔
    ∀ f ∈ p.table, Kept l s f → ¬ f.Answers method host path
  /-- A request that only one of them can answer is answered as before just when that one is
      kept. -/
  alone : ∀ method host path,
    (∀ f ∈ p.table, ∀ f' ∈ p.table, f.Answers method host path → f'.Answers method host path →
      f = f') →
    (q.answer? method host path = p.answer? method host path ↔
      ∀ f ∈ p.table, f.Answers method host path → Kept l s f)

/-! ## The invariant -/

/-- The entities of the store are fit to be put, and its frontends are in the proxy. -/
structure Tracks (l : Layout) (s : Store) (p : Proxy) : Prop where
  tied : p.skeleton.Tied
  sound : ∀ x d, p.content? x = some d → d.Sound
  named : Named l s
  fit : ∀ r u, entityAt? l s r = some u → Fit u
  shown : ∀ f, entityAt? l s (.frontend f.id) = some (.frontend f) →
    p.facet? (.frontend f.id) = some (.frontend f)

/-- What is valid is fit to be put. -/
theorem fit_of_valid {g : Ground} {u : Upsert} (h : Valid g u) : Fit u := by
  cases u with
  | backend b => exact h
  | server b s => exact h
  | frontend f => exact h
  | _ => trivial

section Tracks

variable {g : Ground} {now : Nat} {l : Layout} {s s' : Store} {p q : Proxy} {r : Ref}

/-- At the beginning there is nothing to be shown. -/
theorem tracks_start (id : Nat) (o : Options) (history : Nat) (phase : Phase) :
    Tracks l (.make history) { make id o with phase := phase } := by
  refine ⟨tied_make id o, sound_make id o, nofun, fun r u hu => ?_, fun f hf => ?_⟩
  · rw [entityAt?_make] at hu
    cases hu
  · rw [entityAt?_make] at hf
    cases hf

/-- One entity of the store is as stated, and the proxy shows it if it is a frontend; the others
    are as they were. -/
theorem Tracks.step (h : Tracks l s p) {x : Option Upsert} (tied : q.skeleton.Tied)
    (sound : ∀ x d, q.content? x = some d → d.Sound) (named : Named l s')
    (hat : ∀ r', entityAt? l s' r' = if r' = r then x else entityAt? l s r')
    (hfit : ∀ u, x = some u → Fit u)
    (hshown : ∀ f, r = .frontend f.id → x = some (.frontend f) →
      q.facet? (.frontend f.id) = some (.frontend f))
    (hrest : ∀ f, r ≠ .frontend f → q.facet? (.frontend f) = p.facet? (.frontend f)) :
    Tracks l s' q := by
  refine ⟨tied, sound, named, fun r' u hu => ?_, fun f hf => ?_⟩
  · rw [hat] at hu
    split at hu
    case isTrue => exact hfit u hu
    case isFalse => exact h.fit r' u hu
  · rw [hat] at hf
    split at hf
    case isTrue heq => exact hshown f heq.symm hf
    -- another entity: neither the store nor the proxy has changed in it
    case isFalse hne =>
      rw [hrest f.id (Ne.symm hne)]
      exact h.shown f hf

/-- An entity that is put is shown if it is a frontend. -/
theorem Tracks.put (h : Tracks l s p) (hr : l.classify (l.key r) = some r) {value : String}
    {u : Upsert} (hu : entityOf? r value = some u) (ha : Applied g now p (.upsert u) q) :
    Tracks l (s.put (l.key r) value) q := by
  have href : (Change.upsert u).ref = r := ref_of_entityOf? hu
  obtain ⟨y, -, hrenewed⟩ := ha.renewed
  refine h.step (tied_applied h.tied ha) (ha.sound h.sound) (h.named.put hr value)
    (entityAt?_put hr hu) (fun v hv => ?_) (fun f hf hv => ?_) fun f hf => ?_
  · cases hv
    exact fit_of_valid (hrenewed.valid (h.sound _))
  · cases hv
    rw [ha.facet?_frontend]
    exact if_pos rfl
  · rw [ha.facet?_frontend, href, if_neg hf]

/-- What cannot be read is as good as deleted in the store, but not in the proxy. -/
theorem Tracks.garbled (h : Tracks l s p) (hr : l.classify (l.key r) = some r) {value : String}
    (hu : entityOf? r value = none) : Tracks l (s.put (l.key r) value) p := by
  have hat (r' : Ref) : entityAt? l (s.put (l.key r) value) r' =
      if r' = r then none else entityAt? l s r' := by
    rw [entityAt?_of_get? hr (Store.get?_put s (l.key r) value), Option.bind_some, hu]
  -- the proxy was told nothing
  exact h.step h.tied h.sound (h.named.put hr value) hat nofun nofun fun _ _ => rfl

/-- What is deleted in the store need not be shown. -/
theorem Tracks.delete (h : Tracks l s p) (hr : l.classify (l.key r) = some r)
    (ha : Applied g now p (.delete r) q) : Tracks l (s.delete (l.key r)) q := by
  refine h.step (tied_applied h.tied ha) (ha.sound h.sound) (h.named.delete _)
    (entityAt?_delete hr) nofun nofun fun f hf => ?_
  rw [ha.facet?_frontend]
  exact if_neg hf

/-- A frontend of the store is in service. -/
theorem Tracks.mem_table (h : Tracks l s p) {f : Frontend}
    (hf : entityAt? l s (.frontend f.id) = some (.frontend f)) : f ∈ p.table := by
  have hshown := h.shown f hf
  rw [facet?_frontend] at hshown
  obtain ⟨t, ht, hspec⟩ := Option.map_eq_some_iff.mp hshown
  exact (Proxy.mem_table h.tied).mpr ⟨t, ht, Facet.frontend.inj hspec⟩

theorem checkId_of_plain {what i : String} (h : Layout.Plain i) : checkId what i = .ok () := by
  unfold checkId
  rw [if_neg h.1, if_neg fun hslash => h.2 (List.contains_iff_mem.mp hslash)]

/-- The entities of the store can be put as far as frontends find their backends. -/
theorem Tracks.loose (h : Tracks l s p) : Loose (l.entities (s.list l.root)) where
  distinct := h.named.distinct
  fit := fun u hu => h.fit u.ref u (h.named.mem_entities.mp hu)
  homes := by
    intro b t ht
    obtain ⟨hr, -⟩ := entityAt?_eq_some.mp (h.named.mem_entities.mp ht)
    -- the name of a backend is a part of the key of its server
    have hplain : Layout.Plain b := Layout.classify_key_iff.mp hr b List.mem_cons_self
    exact checkId_of_plain hplain
  routes := by
    intro f f' hf hf' hroute
    have hat := h.named.mem_entities.mp hf
    have hat' := h.named.mem_entities.mp hf'
    have hsame : f = f' := eq_of_canonical? h.tied (h.mem_table hat) (h.mem_table hat') hroute
    rw [hsame]

/-- The frontends of the store that find their backends there. -/
theorem Tracks.kept_iff (h : Tracks l s p) {f : Frontend} :
    Kept l s f ↔ .frontend f ∈ l.entities (s.list l.root) ∧
      ∃ u ∈ l.entities (s.list l.root), brings? u = some f.backendId := by
  unfold Kept
  rw [h.named.mem_entities]
  refine and_congr_right fun _ => ?_
  constructor
  · rintro (⟨u, hu⟩ | ⟨i, u, hu⟩)
    · have href := ref_of_entityAt? hu
      refine ⟨u, h.named.mem_of_entityAt? hu, ?_⟩
      -- only a backend or a server of that name brings it
      cases u with
      | backend b => exact congrArg some (Ref.backend.inj href)
      | _ => cases href
    · have href := ref_of_entityAt? hu
      refine ⟨u, h.named.mem_of_entityAt? hu, ?_⟩
      cases u with
      | server b t => exact congrArg some (Ref.server.inj href).1
      | _ => cases href
  · rintro ⟨u, hu, hb⟩
    have hat := h.named.mem_entities.mp hu
    cases u with
    | backend b =>
      rw [← Option.some.inj hb]
      exact .inl ⟨_, hat⟩
    | server b t =>
      rw [← Option.some.inj hb]
      exact .inr ⟨t.id, _, hat⟩
    | _ => cases hb

end Tracks

/-- A proxy that has followed a store tracks it. -/
theorem tracks_of_traces {l : Layout} {id : Nat} {o : Options} {s : Store} {p : Proxy}
    (h : Traces l id o s p) : Tracks l s p := by
  induction h with
  | start history phase => exact tracks_start id o history phase
  | put g now _ named told applied ih =>
    obtain ⟨u, hu, rfl⟩ := (Layout.change_put named).mp told
    exact ih.put named hu (applied_of_ok applied)
  -- the proxy was told nothing, so it keeps what it had
  | garbled _ named told ih => exact ih.garbled named (Layout.change_garbled named told)
  | delete g now _ named _ told applied ih =>
    obtain rfl := (Layout.change_delete named).mp told
    exact ih.delete named (applied_of_ok applied)

/-! ## Starting again -/

section Restarted

variable {l : Layout} {s : Store} {p : Proxy} {f : Frontend}

/-- The snapshot is played back as far as frontends find their backends. -/
theorem Tracks.salvaged (h : Tracks l s p) (g : Ground) (clock : Nat → Nat) (id : Nat)
    (o : Options) :
    Salvaged (restarted l s g clock id o) (l.snapshot s).upserts := by
  have horderly : Orderly ([] ++ (l.snapshot s).upserts) := by
    rw [l.snapshot_eq]
    exact Snapshot.orderly_upserts h.loose
  exact (salvaged_make id o).playOn horderly

/-- The frontends in service after a restart are those that are kept. -/
theorem Tracks.mem_table_restarted (h : Tracks l s p) (g : Ground) (clock : Nat → Nat) (id : Nat)
    (o : Options) :
    f ∈ (restarted l s g clock id o).table ↔ f ∈ p.table ∧ Kept l s f := by
  rw [(h.salvaged g clock id o).table, h.kept_iff, l.snapshot_eq]
  refine (Snapshot.mem_housedOf_upserts h.named.distinct).trans ⟨fun hf => ⟨?_, hf⟩, And.right⟩
  have hat := h.named.mem_entities.mp hf.1
  exact h.mem_table hat

/-- They are in the order of their identifiers. -/
theorem Tracks.sorted_restarted (h : Tracks l s p) (g : Ground) (clock : Nat → Nat) (id : Nat)
    (o : Options) :
    (restarted l s g clock id o).table.Pairwise (·.id < ·.id) := by
  rw [(h.salvaged g clock id o).table, l.snapshot_eq]
  exact (Snapshot.sorted_upserts _ _).filter _

/-- Where a frontend is the only one that can answer, it does so before and after, unless it is
    lost. -/
theorem answer?_eq_iff_of_alone {q : Proxy} (hp : p.skeleton.Tied) (hq : q.skeleton.Tied)
    (htable : ∀ f, f ∈ q.table ↔ f ∈ p.table ∧ Kept l s f) {method : Http.Method}
    {host : Option String} {path : String}
    (halone : ∀ f ∈ p.table, ∀ f' ∈ p.table, f.Answers method host path →
      f'.Answers method host path → f = f') :
    q.answer? method host path = p.answer? method host path ↔
      ∀ f ∈ p.table, f.Answers method host path → Kept l s f := by
  constructor
  · intro heq f hf hanswers
    -- `f` could answer, so somebody has, and that was `f`
    cases hanswer : p.answer? method host path with
    | none => exact absurd hanswers ((answer?_eq_none_iff hp).mp hanswer f hf)
    | some f' =>
      obtain ⟨hf', hanswers'⟩ := mem_of_answer? hp hanswer
      obtain rfl := halone f hf f' hf' hanswers hanswers'
      obtain ⟨hmem, -⟩ := mem_of_answer? hq (heq.trans hanswer)
      exact ((htable f).mp hmem).2
  · intro hkept
    -- whoever answers now could answer before, and there is only one who could
    cases hanswer : q.answer? method host path with
    | none =>
      refine ((answer?_eq_none_iff hp).mpr fun f hf hanswers => ?_).symm
      have hmem := (htable f).mpr ⟨hf, hkept f hf hanswers⟩
      exact (answer?_eq_none_iff hq).mp hanswer f hmem hanswers
    | some f =>
      obtain ⟨hmem, hanswers⟩ := mem_of_answer? hq hanswer
      have hf := ((htable f).mp hmem).1
      cases hanswer' : p.answer? method host path with
      | none => exact absurd hanswers ((answer?_eq_none_iff hp).mp hanswer' f hf)
      | some f' =>
        obtain ⟨hf', hanswers'⟩ := mem_of_answer? hp hanswer'
        rw [halone f hf f' hf' hanswers hanswers']

/-- A restart keeps the frontends whose backends can still be found in the store, and puts them in
    the order of their identifiers. -/
theorem resumes_restarted {id : Nat} {o : Options} (h : Traces l id o s p) (g : Ground)
    (clock : Nat → Nat) (id' : Nat) (o' : Options) : Resumes l s p (restarted l s g clock id' o') := by
  have htracks := tracks_of_traces h
  have htied : (restarted l s g clock id' o').skeleton.Tied := (htracks.salvaged g clock id' o').tied
  have htable (f : Frontend) := htracks.mem_table_restarted (f := f) g clock id' o'
  have hsorted := htracks.sorted_restarted g clock id' o'
  refine ⟨htable, hsorted, fun hkept horder method host path => ?_,
    fun method host path f hf => ?_, fun method host path => ?_, fun method host path halone => ?_⟩
  · -- two lists in the same order with the same frontends are equal
    have hne : ∀ f f' : Frontend, f.id < f'.id → f ≠ f' := by
      rintro f f' hlt rfl
      exact String.lt_irrefl _ hlt
    -- no identifier comes twice in either table
    have hperm : (restarted l s g clock id' o').table.Perm p.table := by
      refine (List.perm_ext_iff_of_nodup (hsorted.imp (hne _ _)) (horder.imp (hne _ _))).mpr ?_
      intro f
      rw [htable]
      exact and_iff_left_of_imp (hkept f)
    have hsame : (restarted l s g clock id' o').table = p.table := by
      refine hperm.eq_of_pairwise (fun f f' _ _ hlt hgt => ?_) hsorted horder
      exact absurd (String.lt_trans hlt hgt) (String.lt_irrefl _)
    exact answer?_congr htied htracks.tied hsame method host path
  · obtain ⟨hmem, hanswers⟩ := mem_of_answer? htied hf
    obtain ⟨hf, hkept⟩ := (htable f).mp hmem
    exact ⟨hf, hkept, hanswers⟩
  · rw [answer?_eq_none_iff htied]
    exact forall_congr' fun f => by rw [htable, and_imp]
  · exact answer?_eq_iff_of_alone htracks.tied htied htable halone

end Restarted

/-- A frontend `z` is put before `a`, and both can answer `/a`; the server that has brought the
    backend of `l` is deleted. -/
theorem traces_reordered : ∃ s p, Traces ⟨"/t"⟩ 0 {} s p ∧
    p.table.map (·.id) = ["z", "a", "l"] ∧
    (restarted ⟨"/t"⟩ s ⟨.standard, fun _ => true⟩ (7 + ·) 1 {}).table.map (·.id) = ["a", "z"] ∧
    (p.answer? .get none "/a").map (·.id) = some "z" ∧
    ((restarted ⟨"/t"⟩ s ⟨.standard, fun _ => true⟩ (7 + ·) 1 {}).answer? .get none "/a").map (·.id) =
      some "a" ∧
    (p.answer? .get none "/l/l").map (·.id) = some "l" ∧
    (restarted ⟨"/t"⟩ s ⟨.standard, fun _ => true⟩ (7 + ·) 1 {}).answer? .get none "/l/l" = none := by
  have hb : entityOf? (.backend "b") "\x7b\x7d" = some (.backend ⟨"b", {}⟩) := rfl
  have hz : entityOf? (.frontend "z")
      "\x7b\"route\":\"Path(\x60/<x>\x60)\",\"backend_id\":\"b\"\x7d" =
      some (.frontend ⟨"z", "Path(\x60/<x>\x60)", "b", {}⟩) := by
    have hread : ofText? Frontend.read?
        "\x7b\"route\":\"Path(\x60/<x>\x60)\",\"backend_id\":\"b\"\x7d" =
        some ⟨"", "Path(\x60/<x>\x60)", "b", {}⟩ := by decide +kernel
    rw [entityOf?, hread]
    rfl
  have ha : entityOf? (.frontend "a")
      "\x7b\"route\":\"Path(\x60/a\x60)\",\"backend_id\":\"b\"\x7d" =
      some (.frontend ⟨"a", "Path(\x60/a\x60)", "b", {}⟩) := by
    have hread : ofText? Frontend.read?
        "\x7b\"route\":\"Path(\x60/a\x60)\",\"backend_id\":\"b\"\x7d" =
        some ⟨"", "Path(\x60/a\x60)", "b", {}⟩ := by decide +kernel
    rw [entityOf?, hread]
    rfl
  have hs : entityOf? (.server "c" "s") "\x7b\"url\":\"http://h\"\x7d" =
      some (.server "c" ⟨"s", "http://h"⟩) := by
    have hread : ofText? Server.read? "\x7b\"url\":\"http://h\"\x7d" = some ⟨"", "http://h"⟩ := by
      decide +kernel
    rw [entityOf?, hread]
    rfl
  have hl : entityOf? (.frontend "l")
      "\x7b\"route\":\"Path(\x60/l/l\x60)\",\"backend_id\":\"c\"\x7d" =
      some (.frontend ⟨"l", "Path(\x60/l/l\x60)", "c", {}⟩) := by
    have hread : ofText? Frontend.read?
        "\x7b\"route\":\"Path(\x60/l/l\x60)\",\"backend_id\":\"c\"\x7d" =
        some ⟨"", "Path(\x60/l/l\x60)", "c", {}⟩ := by decide +kernel
    rw [entityOf?, hread]
    rfl
  -- the run, change by change
  have h0 : Traces ⟨"/t"⟩ 0 {} _ _ := .start 1 .active
  have h1 := h0.put_entity ⟨.standard, fun _ => true⟩ 0 (by decide) hb (by decide +kernel)
  have h2 := h1.put_entity ⟨.standard, fun _ => true⟩ 1 (by decide) hz (by decide +kernel)
  have h3 := h2.put_entity ⟨.standard, fun _ => true⟩ 2 (by decide) ha (by decide +kernel)
  have h4 := h3.put_entity ⟨.standard, fun _ => true⟩ 3 (by decide) hs (by decide +kernel)
  have h5 := h4.put_entity ⟨.standard, fun _ => true⟩ 4 (by decide) hl (by decide +kernel)
  have h6 := h5.delete_entity ⟨.standard, fun _ => true⟩ 5 (r := .server "c" "s") (by decide)
    (by decide +kernel) (by decide +kernel)
  exact ⟨_, _, h6, by decide +kernel⟩

/-- A restart of that run, with frontends in another order and one that is lost. -/
theorem resumes_restarted_reordered : ∃ s p, Traces ⟨"/t"⟩ 0 {} s p ∧
    p.table.map (·.id) = ["z", "a", "l"] ∧
    (restarted ⟨"/t"⟩ s ⟨.standard, fun _ => true⟩ (7 + ·) 1 {}).table.map (·.id) = ["a", "z"] ∧
    Resumes ⟨"/t"⟩ s p (restarted ⟨"/t"⟩ s ⟨.standard, fun _ => true⟩ (7 + ·) 1 {}) := by
  obtain ⟨s, p, h, htable, htable', -⟩ := traces_reordered
  exact ⟨s, p, h, htable, htable', resumes_restarted h _ (7 + ·) 1 {}⟩

/-- Answers need not be the same, and there need not be one where there was one before. -/
theorem restarted_answers_otherwise :
    (¬ ∀ l id o s p, Traces l id o s p → ∀ g clock id' o' method host path,
      (restarted l s g clock id' o').answer? method host path = p.answer? method host path) ∧
    ¬ ∀ l id o s p, Traces l id o s p → ∀ g clock id' o' method host path,
      (restarted l s g clock id' o').answer? method host path = none →
        p.answer? method host path = none := by
  obtain ⟨s, p, h, -, -, hfirst, hother, hthere, hlost⟩ := traces_reordered
  constructor
  · intro hall
    rw [hall _ _ _ _ _ h, hfirst] at hother
    exact absurd hother (by decide)
  · intro hall
    rw [hall _ _ _ _ _ h _ _ _ _ _ _ _ hlost] at hthere
    cases hthere

end Turnpike.Feed
