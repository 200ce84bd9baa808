/-
  A snapshot is the configuration in another order.

  A snapshot is made of the entities that a store lists, in the order of their keys.  It keeps
  servers in groups with their backends, gates in sites with their frontends, and when it is played
  back it puts first the groups, then hosts and listeners, then the sites.  Up to that order nothing
  may be lost.

  1. **Parts** (`gathered_groups`, `gathered_sites`).  Groups and sites are made by walks, and what
     they hold is what the general lemmas on walks say, once it is shown that these walks are such:
     what they skip, what each entity needs, and what a step does.  Each of these is a goal with a
     name of its own, and a case split on the kind of one entity.

  2. **What is kept** (`settled`).  Of the backends and frontends of one name the last one, of the
     gates those that have a frontend, and all others.  Rank by rank this is what groups and sites
     hold (`settled_perm`), so that the snapshot holds it, with one plain backend for each that
     servers name and nobody has put (`upserts_perm_settled`).

  3. **Entities that fit together** (`upserts_perm`).  When every server has its backend among the
     entities, every gate its frontend, and no name comes twice, then nothing is added and nothing
     left out.

  4. **The order** (`ranked_upserts`).  Played back, a snapshot puts each entity behind those that
     it refers to, because it goes from rank to rank; a rank is never left for an earlier one.
-/
import Turnpike.Proofs.Feed.Entities
import Turnpike.Proofs.Feed.Gathering
import Turnpike.Proofs.Lists

namespace Turnpike.Feed

open Turnpike.Entity Turnpike.Proxy

/-! ## The parts of a snapshot -/

namespace Snapshot

variable {g : Ground} {n : Nat} {us : List Upsert}

/-- The backend of a group. -/
def headOf (x : Group) : Upsert := .backend x.backend

/-- The servers of a group. -/
def serversOf (x : Group) : List Upsert := x.servers.map (.server x.backend.id)

/-- The frontend of a site. -/
def frontOf (x : Site) : Upsert := .frontend x.frontend

/-- The gates of a site. -/
def gatesOf (x : Site) : List Upsert := x.gates.map (.gate x.frontend.id)

/-- A group of a plain backend. -/
def plainGroup (b : String) : Group := ⟨{ id := b }, []⟩

/-- Servers whose backend is not there bring a plain one. -/
theorem gathered_groups (n : Nat) (us : List Upsert) :
    ∃ ids, Missing .backend (kind 0 (outlasting us)) (kind 1 us) ids ∧
    Gathered headOf serversOf .backend (ofEntities n us).groups
      (kind 0 (outlasting us) ++ ids.map fun b => headOf (plainGroup b)) (kind 1 us) := by
  unfold ofEntities
  dsimp only
  have hinj : Function.Injective Ref.backend := fun _ _ => Ref.backend.inj
  -- the walk over servers, on what the walk over backends has gathered
  refine Gathered.fold_bring (n := 1) hinj ?skip ?needs (fun _ => ⟨rfl, rfl⟩) ?servers
    (Gathered.fold_insert (n := 0) hinj ?home ?skipOther ?backends us) us
  case home =>
    intro r hr
    cases r with
    | backend b => rfl
    | _ => cases hr
  case skipOther =>
    intro d u hu
    cases u with
    | backend b => exact absurd rfl hu
    | _ => rfl
  case backends =>
    intro d u hu
    cases u with
    | backend b => exact ⟨b.id, ⟨b, []⟩, rfl, rfl, rfl, rfl⟩
    | _ => cases hu
  case skip =>
    intro d u hu
    cases u with
    | server b s => exact absurd rfl hu
    | _ => rfl
  case needs =>
    intro u hu
    cases u with
    | server b s => exact ⟨b, rfl⟩
    | _ => cases hu
  case servers =>
    rintro d u k w hneeds hu rfl href
    cases u with
    | server b s =>
      obtain rfl : b = k := Ref.backend.inj (Option.some.inj hneeds)
      refine ⟨Group.push ((d.get? b).getD (plainGroup b)) s, rfl, rfl, ?_⟩
      generalize (d.get? b).getD (plainGroup b) = w at href
      have hid : w.backend.id = b := Ref.backend.inj href
      show (w.servers ++ [s]).map (Upsert.server w.backend.id) = _
      rw [List.map_append, serversOf, hid]
      rfl
    | _ => cases hu

/-- The sites before gates are added. -/
def fronts (us : List Upsert) : Dictionary Site := us.foldl fileFrontend .empty

/-- The frontends that count are gathered, without gates. -/
theorem gathered_fronts (us : List Upsert) :
    Gathered frontOf gatesOf .frontend (fronts us) (kind 4 (outlasting us)) [] := by
  refine Gathered.fold_insert (n := 4) (fun _ _ => Ref.frontend.inj) ?home ?skip ?frontends us
  case home =>
    intro r hr
    cases r with
    | frontend f => rfl
    | _ => cases hr
  case skip =>
    intro d u hu
    cases u with
    | frontend f => exact absurd rfl hu
    | _ => rfl
  case frontends =>
    intro d u hu
    cases u with
    | frontend f => exact ⟨f.id, ⟨f, []⟩, rfl, rfl, rfl, rfl⟩
    | _ => cases hu

/-- Gates whose frontend is not there are left out. -/
theorem gathered_sites (n : Nat) (us : List Upsert) :
    Gathered frontOf gatesOf .frontend (ofEntities n us).sites (kind 4 (outlasting us))
      ((kind 5 us).filter fun u =>
        (needs? u).any fun r => (kind 4 (outlasting us)).any (·.ref == r)) := by
  unfold ofEntities
  dsimp only
  refine Gathered.fold_extend (n := 5) (fun _ _ => Ref.frontend.inj) ?skip ?needs
    ?absent ?gates (gathered_fronts us) us
  case skip =>
    intro d u hu
    cases u with
    | gate f t => exact absurd rfl hu
    | _ => rfl
  case needs =>
    intro u hu
    cases u with
    | gate f t => exact ⟨f, rfl⟩
    | _ => cases hu
  -- a gate whose frontend is not there changes nothing
  case absent =>
    intro d u k hneeds hu hget
    cases u with
    | gate f t =>
      obtain rfl : f = k := Ref.frontend.inj (Option.some.inj hneeds)
      show addGate d f t = d
      rw [addGate, Dictionary.modify, hget]
    | _ => cases hu
  case gates =>
    intro d u k w hneeds hu hw href
    cases u with
    | gate f t =>
      obtain rfl : f = k := Ref.frontend.inj (Option.some.inj hneeds)
      have hid : w.frontend.id = f := Ref.frontend.inj href
      refine ⟨{ w with gates := w.gates ++ [t] }, ?_, rfl, ?_⟩
      · show addGate d f t = _
        rw [addGate, Dictionary.modify, hw]
      · show (w.gates ++ [t]).map (Upsert.gate w.frontend.id) = _
        rw [List.map_append, gatesOf, hid]
        rfl
    | _ => cases hu

/-- The hosts of a snapshot. -/
theorem hosts_eq (n : Nat) (us : List Upsert) :
    (ofEntities n us).hosts.map Upsert.host = kind 2 us := by
  refine Lists.map_filterMap_eq_filter (fun u => ?_) us
  cases u with
  | _ => rfl

/-- The listeners of a snapshot. -/
theorem listeners_eq (n : Nat) (us : List Upsert) :
    (ofEntities n us).listeners.map Upsert.listener = kind 3 us := by
  refine Lists.map_filterMap_eq_filter (fun u => ?_) us
  cases u with
  | _ => rfl

theorem rank_lt (r : Ref) : rank r < 6 := by
  unfold rank
  split
  all_goals decide

/-! ## What is kept -/

/-- Is the frontend of a gate among the entities?  Other entities need none. -/
def isHoused (us : List Upsert) : Upsert → Bool
  | .gate f _ => us.any (·.ref == .frontend f)
  | _ => true

/-- The entities that a snapshot keeps: of the backends and frontends of one name the last one, of
    the gates those that have a frontend, and all others. -/
def settled (us : List Upsert) : List Upsert := (outlasting us).filter (isHoused us)

/-- What is kept of a rank is what counts and has a home. -/
theorem kind_settled (n : Nat) (us : List Upsert) :
    kind n (settled us) = (kind n (outlasting us)).filter (isHoused us) := by
  unfold kind settled
  rw [List.filter_filter, List.filter_filter]
  exact List.filter_congr fun u _ => Bool.and_comm _ _

/-- Only gates need to have a home. -/
theorem kind_settled_of_ne (hn : n ≠ 5) (us : List Upsert) :
    kind n (settled us) = kind n (outlasting us) := by
  rw [kind_settled, List.filter_eq_self]
  intro u hu
  cases u with
  | gate f t => exact absurd (mem_kind.mp hu).2.symm hn
  | _ => rfl

/-- The gates that are kept are those whose frontend counts. -/
theorem kind_settled_gates (us : List Upsert) :
    kind 5 (settled us) = (kind 5 us).filter fun u =>
      (needs? u).any fun r => (kind 4 (outlasting us)).any (·.ref == r) := by
  have hnone : ∀ r, rank r = 5 → isHome r = false := by
    intro r hr
    cases r with
    | gate f t => rfl
    | _ => cases hr
  rw [kind_settled, kind_outlasting hnone]
  refine List.filter_congr fun u hu => ?_
  cases u with
  | gate f t =>
    show us.any _ = (kind 4 (outlasting us)).any _
    rw [Bool.eq_iff_iff, any_ref_eq_true, any_ref_eq_true, mem_refs_kind (n := 4) rfl,
      mem_refs_outlasting]
  | _ => cases (mem_kind.mp hu).2

/-- What is kept, rank by rank. -/
theorem settled_perm (us : List Upsert) : (settled us).Perm
    (kind 0 (outlasting us) ++ (kind 1 us ++ (kind 2 us ++ (kind 3 us ++
      (kind 4 (outlasting us) ++ kind 5 (settled us)))))) := by
  -- all that is kept is of one of the six ranks
  have hkinds := Lists.flatMap_filter_perm (fun u : Upsert => rank u.ref) 6 (l := settled us)
    fun u _ => rank_lt u.ref
  have hnone : ∀ r, rank r = 1 ∨ rank r = 2 ∨ rank r = 3 → isHome r = false := by
    intro r hr
    cases r with
    | backend b => rcases hr with hr | hr | hr <;> cases hr
    | frontend f => rcases hr with hr | hr | hr <;> cases hr
    | _ => rfl
  refine hkinds.symm.trans (List.Perm.of_eq ?_)
  show kind 0 (settled us) ++ (kind 1 (settled us) ++ (kind 2 (settled us) ++
    (kind 3 (settled us) ++ (kind 4 (settled us) ++ (kind 5 (settled us) ++ []))))) = _
  rw [kind_settled_of_ne (by decide), kind_settled_of_ne (by decide),
    kind_settled_of_ne (by decide), kind_settled_of_ne (by decide),
    kind_settled_of_ne (by decide), kind_outlasting fun r hr => hnone r (.inl hr),
    kind_outlasting fun r hr => hnone r (.inr (.inl hr)),
    kind_outlasting fun r hr => hnone r (.inr (.inr hr)), List.append_nil]

/-- A snapshot holds what it keeps of its entities, and one plain backend for each that servers name
    and that is not among the entities. -/
theorem upserts_perm_settled (n : Nat) (us : List Upsert) : ∃ ids : List String, ids.Nodup ∧
    (∀ b, b ∈ ids ↔ (∃ t, .server b t ∈ us) ∧ Ref.backend b ∉ us.map Upsert.ref) ∧
    (ofEntities n us).upserts.Perm
      (settled us ++ ids.map fun b => Upsert.backend { id := b }) := by
  obtain ⟨ids, hmissing, hgroups⟩ := gathered_groups n us
  have hsites := gathered_sites n us
  refine ⟨ids, hmissing.nodup, fun b => ?_, ?_⟩
  · rw [hmissing.mem_iff, mem_refs_kind (n := 0) rfl, mem_refs_outlasting]
    refine and_congr_left' ?_
    constructor
    · rintro ⟨u, hu, hneeds⟩
      obtain ⟨hu, hrank⟩ := mem_kind.mp hu
      cases u with
      | server c t =>
        cases hneeds
        exact ⟨t, hu⟩
      | _ => cases hrank
    · rintro ⟨t, ht⟩
      exact ⟨.server b t, mem_kind.mpr ⟨ht, rfl⟩, rfl⟩
  · rw [← kind_settled_gates] at hsites
    -- heads and parts of groups, hosts, listeners, heads and parts of sites
    have hparts := ((((hgroups.heads.append hgroups.parts).append_right (kind 2 us)).append_right
      (kind 3 us)).append hsites.heads).append hsites.parts
    unfold upserts
    rw [hosts_eq, listeners_eq]
    refine hparts.trans (List.Perm.trans ?_ ((settled_perm us).symm.append_right _))
    simp only [List.append_assoc]
    refine List.Perm.append_left _ (List.perm_append_comm.trans ?_)
    simp only [List.append_assoc]
    exact .refl _

/-- Of entities that fit together all are kept. -/
theorem settled_of_consistent (hus : Consistent g us) : settled us = us := by
  unfold settled
  rw [outlasting_of_nodup hus.distinct, List.filter_eq_self]
  intro u hu
  cases u with
  | gate f t => exact any_ref_eq_true.mpr (hus.backed _ hu _ rfl)
  | _ => rfl

/-- A snapshot of entities that fit together holds just these. -/
theorem upserts_perm (hus : Consistent g us) : (ofEntities n us).upserts.Perm us := by
  obtain ⟨ids, -, hids, hperm⟩ := upserts_perm_settled n us
  -- no server lacks its backend, so that no plain one is brought
  have hnone : ids = [] := by
    refine List.eq_nil_iff_forall_not_mem.mpr fun b hb => ?_
    obtain ⟨⟨t, ht⟩, hmissing⟩ := (hids b).mp hb
    exact hmissing (hus.backed _ ht _ rfl)
  rw [settled_of_consistent hus, hnone, List.map_nil, List.append_nil] at hperm
  exact hperm

/-! ## The order of a snapshot -/

/-- The entities are in order, and none is of a kind beyond this one. -/
def RankedTo (n : Nat) (us : List Upsert) : Prop := Ranked us ∧ ∀ u ∈ us, rank u.ref ≤ n

/-- Entities of a later kind may follow. -/
theorem RankedTo.append {m : Nat} {vs : List Upsert} (h : RankedTo n us) (hnm : n ≤ m)
    (hvs : ∀ v ∈ vs, rank v.ref = m) : RankedTo m (us ++ vs) := by
  refine ⟨List.pairwise_append.mpr ⟨h.1, ?_, fun u hu v hv => ?_⟩, fun u hu => ?_⟩
  · refine List.pairwise_of_forall_mem_list fun a ha b hb => ?_
    exact Nat.le_of_eq ((hvs a ha).trans (hvs b hb).symm)
  · rw [hvs v hv]
    exact Nat.le_trans (h.2 u hu) hnm
  · rcases List.mem_append.mp hu with hu | hu
    · exact Nat.le_trans (h.2 u hu) hnm
    · exact Nat.le_of_eq (hvs u hu)

/-- Played back, a snapshot puts everything after what it refers to. -/
theorem ranked_upserts (s : Snapshot) : Ranked s.upserts := by
  have hnil : RankedTo 0 [] := ⟨List.Pairwise.nil, nofun⟩
  -- rank by rank, in the order in which a snapshot is played back
  have hheads : ∀ u ∈ s.groups.values.map headOf, rank u.ref = 0 :=
    List.forall_mem_map.mpr fun _ _ => rfl
  have hservers : ∀ u ∈ s.groups.values.flatMap serversOf, rank u.ref = 1 := by
    intro u hu
    obtain ⟨x, -, hx⟩ := List.mem_flatMap.mp hu
    obtain ⟨t, -, rfl⟩ := List.mem_map.mp hx
    rfl
  have hhosts : ∀ u ∈ s.hosts.map Upsert.host, rank u.ref = 2 :=
    List.forall_mem_map.mpr fun _ _ => rfl
  have hlisteners : ∀ u ∈ s.listeners.map Upsert.listener, rank u.ref = 3 :=
    List.forall_mem_map.mpr fun _ _ => rfl
  have hfronts : ∀ u ∈ s.sites.values.map frontOf, rank u.ref = 4 :=
    List.forall_mem_map.mpr fun _ _ => rfl
  have hgates : ∀ u ∈ s.sites.values.flatMap gatesOf, rank u.ref = 5 := by
    intro u hu
    obtain ⟨x, -, hx⟩ := List.mem_flatMap.mp hu
    obtain ⟨t, -, rfl⟩ := List.mem_map.mp hx
    rfl
  exact ((((((hnil.append (by decide) hheads).append (by decide) hservers).append (by decide)
    hhosts).append (by decide) hlisteners).append (by decide) hfronts).append (by decide)
    hgates).1

end Snapshot

end Turnpike.Feed
