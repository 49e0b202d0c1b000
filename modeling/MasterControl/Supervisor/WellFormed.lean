import MasterControl.Foundation.Runs
import MasterControl.Foundation.Separators
import MasterControl.Supervisor.Tables

/-!
# Well-formed tables, and the reap pass as a sequence of moves

* **Well-formed tables** (`WellFormed`).  Pools are filed under their own valid id;
  instance ids are `pool#serial` with a serial already given out, so no id occurs
  twice in the supervisor; a healthy instance has its child record, and a child record
  belongs to a listed instance.
* **The reap pass.**  Its first half is a sequence of `Death`s and its second a
  sequence of `Refill`s, each carrying what the source knows when it makes the move
  (`reapDead_deaths`, `reapDeadInstancesLocked_refills`).
* **Runs.**  `supervisorSystem` performs one operation per step, with its `Host`;
  every state of every run is well formed (`reachable_wellFormed`).
-/

namespace MasterControl
namespace Supervisor

open Foundation Relation

variable {host : Host} {s : WorkerSupervisor} {p q : String}

/-! ## Instance ids -/

theorem hash_notMem_of_safe {p : String} (h : isSafeUrlSegmentId p = true) :
    '#' ∉ p.toList := by
  intro hmem
  have hall := (Bool.and_eq_true _ _ ▸ h : _ ∧ _).2
  have := List.all_eq_true.mp hall '#' hmem
  exact absurd this (by decide)

/-- An instance id names its pool and its serial. -/
theorem instanceIdOf_inj {p q : String} {k l : ℕ} (hp : isSafeUrlSegmentId p = true)
    (hq : isSafeUrlSegmentId q = true) (h : instanceIdOf p k = instanceIdOf q l) :
    p = q ∧ k = l := by
  obtain ⟨hpq, hkl⟩ := string_append_inj_left (a := '#') ⟨[], by decide⟩
    (hash_notMem_of_safe hp) (hash_notMem_of_safe hq) h
  exact ⟨hpq, toString_injective hkl⟩

/-! ## Well-formed tables -/

/-- What `upsertPool` has checked of a pool. -/
structure ValidPool (pool : ManagedEndpointPool) : Prop where
  safe : isSafeUrlSegmentId pool.poolId = true
  min_nonneg : 0 ≤ pool.scalePolicy.minInstances
  one_le_max : 1 ≤ pool.scalePolicy.maxInstances
  min_le_max : pool.scalePolicy.minInstances ≤ pool.scalePolicy.maxInstances

theorem validPool_of_accepted {pool : ManagedEndpointPool} (h : upsertRejection pool = none) :
    ValidPool pool := by
  unfold upsertRejection at h
  split_ifs at h with h₁ h₂ h₃ h₄ h₅
  refine ⟨?_, by omega, by omega, by omega⟩
  simpa using h₂

/-- The invariant of the supervisor's tables. -/
structure WellFormed (s : WorkerSupervisor) : Prop where
  /-- Pools are valid and filed under their own id. -/
  registered : ∀ {p pool}, s.pools.find? p = some pool → pool.poolId = p ∧ ValidPool pool
  /-- A listed instance carries a serial of its pool already given out. -/
  issued : ∀ {p i}, i ∈ instancesOf s p →
    ∃ k, k < s.nextInstanceSerial ∧ i.instanceId = instanceIdOf p k
  /-- No pool lists an id twice. -/
  distinct : ∀ p, (instancesOf s p).Pairwise fun i j => i.instanceId ≠ j.instanceId
  /-- A child record belongs to a listed instance. -/
  childListed : ∀ {id child}, s.children.find? id = some child →
    ∃ p i, i ∈ instancesOf s p ∧ i.instanceId = id
  /-- A healthy instance has a child record. -/
  healthyChild : ∀ {p i}, i ∈ instancesOf s p → i.healthy = true → hasChild s i = true

theorem wellFormed_empty : WellFormed {} where
  registered h := by cases h
  issued h := by cases h
  distinct _ := List.Pairwise.nil
  childListed h := by cases h
  healthyChild h := by cases h

theorem WellFormed.safe_of_mem (h : WellFormed s) {i : EndpointInstance}
    (hi : i ∈ instancesOf s p) : isSafeUrlSegmentId p = true := by
  obtain ⟨pool, hp, -⟩ := exists_pool_of_mem hi
  obtain ⟨rfl, hvalid⟩ := h.registered hp
  exact hvalid.safe

theorem WellFormed.nodup (h : WellFormed s) (p : String) : (instancesOf s p).Nodup :=
  (h.distinct p).imp fun hne heq => hne (congrArg EndpointInstance.instanceId heq)

/-- **Ids are global.**  Two listed instances with one id are the same instance of the
same pool. -/
theorem WellFormed.eq_of_instanceId_eq (h : WellFormed s) {i j : EndpointInstance}
    (hi : i ∈ instancesOf s p) (hj : j ∈ instancesOf s q)
    (hij : i.instanceId = j.instanceId) : p = q ∧ i = j := by
  obtain ⟨k, -, hk⟩ := h.issued hi
  obtain ⟨l, -, hl⟩ := h.issued hj
  obtain ⟨rfl, -⟩ := instanceIdOf_inj (h.safe_of_mem hi) (h.safe_of_mem hj)
    (hk.symm.trans (hij.trans hl))
  refine ⟨rfl, ?_⟩
  by_contra hne
  have : Std.Symm fun i j : EndpointInstance => i.instanceId ≠ j.instanceId :=
    ⟨fun _ _ hab hba => hab hba.symm⟩
  exact (h.distinct p).forall hi hj hne hij

/-- A child record carries a serial already given out. -/
theorem WellFormed.childIssued (h : WellFormed s) {id : String} {child : ChildProcess}
    (hc : s.children.find? id = some child) :
    ∃ p k, isSafeUrlSegmentId p = true ∧ k < s.nextInstanceSerial ∧ id = instanceIdOf p k := by
  obtain ⟨p, i, hi, rfl⟩ := h.childListed hc
  obtain ⟨k, hk, hik⟩ := h.issued hi
  exact ⟨p, k, h.safe_of_mem hi, hk, hik⟩

/-- The next serial is fresh: no child record carries it. -/
theorem WellFormed.children_next (h : WellFormed s) (hp : isSafeUrlSegmentId p = true) :
    s.children.find? (instanceIdOf p s.nextInstanceSerial) = none := by
  by_contra hne
  obtain ⟨child, hc⟩ := Option.ne_none_iff_exists'.mp hne
  obtain ⟨q, k, hq, hk, hid⟩ := h.childIssued hc
  obtain ⟨-, hkl⟩ := instanceIdOf_inj hp hq hid
  omega

/-! ## Restricting the tables

Most operations only take entries away or relabel them.  What such an operation does
is recorded once, and every invariant of the tables is preserved for that reason. -/

/-- The tables lost entries or had them relabelled, and lost exactly the child records of
the entries that went; no serial was given out. -/
structure Shrinks (s s' : WorkerSupervisor) : Prop where
  tables : ∀ p, ∃ (l : List EndpointInstance) (g : EndpointInstance → EndpointInstance),
    l.Sublist (instancesOf s p) ∧ instancesOf s' p = l.map g ∧
      ∀ i, (g i).instanceId = i.instanceId ∧ ((g i).healthy = true → i.healthy = true)
  serial : s'.nextInstanceSerial = s.nextInstanceSerial
  children : ∀ {id child}, s'.children.find? id = some child →
    ∃ child', s.children.find? id = some child'
  kept : ∀ {p i}, i ∈ instancesOf s' p → hasChild s i = true → hasChild s' i = true
  listed : ∀ {p i}, i ∈ instancesOf s p → hasChild s' i = true →
    ∃ i' ∈ instancesOf s' p, i'.instanceId = i.instanceId

/-- Shrunken tables whose pools were there before, with the same id and scale policy. -/
structure Restricts (s s' : WorkerSupervisor) : Prop extends Shrinks s s' where
  pools : ∀ {p pool'}, s'.pools.find? p = some pool' → ∃ pool, s.pools.find? p = some pool ∧
    pool'.poolId = pool.poolId ∧ pool'.scalePolicy = pool.scalePolicy

/-- A table left alone, in the shape `Shrinks.tables` asks for. -/
theorem table_unchanged {l l' : List EndpointInstance} (h : l' = l) :
    ∃ (m : List EndpointInstance) (g : EndpointInstance → EndpointInstance),
      m.Sublist l ∧ l' = m.map g ∧
        ∀ i, (g i).instanceId = i.instanceId ∧ ((g i).healthy = true → i.healthy = true) :=
  ⟨l, id, List.Sublist.refl _, by rw [h, List.map_id], fun _ => ⟨rfl, fun hi => hi⟩⟩

/-- A table that only lost entries, in the same shape. -/
theorem table_sublist {l l' : List EndpointInstance} (h : l'.Sublist l) :
    ∃ (m : List EndpointInstance) (g : EndpointInstance → EndpointInstance),
      m.Sublist l ∧ l' = m.map g ∧
        ∀ i, (g i).instanceId = i.instanceId ∧ ((g i).healthy = true → i.healthy = true) :=
  ⟨l', id, h, (List.map_id _).symm, fun _ => ⟨rfl, fun hi => hi⟩⟩

theorem WellFormed.shrink {s' : WorkerSupervisor} (h : WellFormed s) (hs : Shrinks s s')
    (hreg : ∀ {p pool}, s'.pools.find? p = some pool → pool.poolId = p ∧ ValidPool pool) :
    WellFormed s' where
  registered := hreg
  issued {p i} hi := by
    obtain ⟨l, g, hsub, heq, hg⟩ := hs.tables p
    rw [heq] at hi
    obtain ⟨j, hj, rfl⟩ := List.mem_map.mp hi
    obtain ⟨k, hk, hid⟩ := h.issued (hsub.subset hj)
    exact ⟨k, hs.serial ▸ hk, (hg j).1.trans hid⟩
  distinct p := by
    obtain ⟨l, g, hsub, heq, hg⟩ := hs.tables p
    rw [heq, List.pairwise_map]
    refine ((h.distinct p).sublist hsub).imp fun {i j} hij => ?_
    rw [(hg i).1, (hg j).1]
    exact hij
  childListed {id child} hc := by
    obtain ⟨child', hc'⟩ := hs.children hc
    obtain ⟨p, i, hi, rfl⟩ := h.childListed hc'
    obtain ⟨i', hi', hid⟩ := hs.listed hi (by rw [hasChild, hc, Option.isSome_some])
    exact ⟨p, i', hi', hid⟩
  healthyChild {p i} hi hh := by
    refine hs.kept hi ?_
    obtain ⟨l, g, hsub, heq, hg⟩ := hs.tables p
    rw [heq] at hi
    obtain ⟨j, hj, rfl⟩ := List.mem_map.mp hi
    have hj' := h.healthyChild (hsub.subset hj) ((hg j).2 hh)
    rwa [hasChild, (hg j).1]

/-- **Restricting the tables keeps them well formed.** -/
theorem WellFormed.restrict {s' : WorkerSupervisor} (h : WellFormed s) (hs : Restricts s s') :
    WellFormed s' := by
  refine h.shrink hs.toShrinks fun {p pool'} hp => ?_
  obtain ⟨pool, hpool, hid, hpolicy⟩ := hs.pools hp
  obtain ⟨rfl, hv⟩ := h.registered hpool
  refine ⟨hid, hid ▸ hv.safe, ?_, ?_, ?_⟩
  · rw [hpolicy]; exact hv.min_nonneg
  · rw [hpolicy]; exact hv.one_le_max
  · rw [hpolicy]; exact hv.min_le_max

/-- Only pools, child records and the serial counter matter. -/
theorem restricts_of_eq {s' : WorkerSupervisor} (hp : s'.pools = s.pools)
    (hc : s'.children = s.children) (hn : s'.nextInstanceSerial = s.nextInstanceSerial) :
    Restricts s s' where
  tables q := table_unchanged (by rw [instancesOf, instancesOf, hp])
  serial := hn
  children {_ child} hchild := ⟨child, hc ▸ hchild⟩
  kept _ hi := by rwa [hasChild, hc]
  listed {q i} hi _ := ⟨i, by rwa [instancesOf, hp], rfl⟩
  pools {_ pool} hpool := ⟨pool, hp ▸ hpool, rfl, rfl⟩

theorem restricts_modifyPool {f : ManagedEndpointPool → ManagedEndpointPool}
    (hid : ∀ pool, (f pool).poolId = pool.poolId)
    (hpolicy : ∀ pool, (f pool).scalePolicy = pool.scalePolicy)
    {g : EndpointInstance → EndpointInstance}
    (hf : ∀ pool, (f pool).instances = pool.instances.map g)
    (hg : ∀ i, (g i).instanceId = i.instanceId ∧ ((g i).healthy = true → i.healthy = true)) :
    Restricts s (modifyPool p f s) where
  tables q := by
    rw [instancesOf_modifyPool (g := fun l => l.map g) f hf rfl]
    split_ifs
    · exact ⟨_, g, List.Sublist.refl _, rfl, hg⟩
    · exact table_unchanged rfl
  serial := modifyPool_nextInstanceSerial f
  children {_ child} hc := ⟨child, by rwa [modifyPool_children] at hc⟩
  kept _ hi := by rwa [hasChild, modifyPool_children]
  listed {q i} hi _ := by
    rw [instancesOf_modifyPool (g := fun l => l.map g) f hf rfl]
    split_ifs
    · exact ⟨g i, List.mem_map_of_mem hi, (hg i).1⟩
    · exact ⟨i, hi, rfl⟩
  pools {q pool'} hq := by
    rw [find?_modifyPool] at hq
    split_ifs at hq
    · obtain ⟨pool, hpool, rfl⟩ := Option.map_eq_some_iff.mp hq
      exact ⟨pool, hpool, hid pool, hpolicy pool⟩
    · exact ⟨pool', hq, rfl, rfl⟩

/-- Bringing `updatedAtUtc` up to date changes nothing that matters. -/
theorem restricts_touch (s : WorkerSupervisor) (p utc : String) :
    Restricts s (modifyPool p (fun pool => { pool with updatedAtUtc := utc }) s) :=
  restricts_modifyPool (g := id) (fun _ => rfl) (fun _ => rfl) (fun _ => (List.map_id _).symm)
    fun _ => ⟨rfl, fun hi => hi⟩

theorem WellFormed.restricts_removeDead (h : WellFormed s) {i : EndpointInstance} {code : ℕ}
    (hi : i ∈ instancesOf s p) : Restricts s (removeDead host p i code s) where
  tables q := by
    rw [instancesOf_removeDead]
    split_ifs
    · exact table_sublist List.erase_sublist
    · exact table_unchanged rfl
  serial := removeDead_nextInstanceSerial i code
  children {_ child} hc := by
    rw [removeDead_children, OrdMap.find?_erase] at hc
    split_ifs at hc
    exact ⟨child, hc⟩
  kept {q j} hj hc := by
    -- the child that goes is the dead instance's own, and ids are global
    have hne : j.instanceId ≠ i.instanceId := by
      intro heq
      rw [instancesOf_removeDead] at hj
      split_ifs at hj with hpq
      · obtain ⟨-, rfl⟩ := h.eq_of_instanceId_eq (List.mem_of_mem_erase hj) hi heq
        rw [← hpq] at hj
        exact (List.Nodup.not_mem_erase (h.nodup p)) hj
      · exact hpq (h.eq_of_instanceId_eq hj hi heq).1.symm
    rwa [hasChild, removeDead_children, OrdMap.find?_erase_of_ne _ hne]
  listed {q j} hj hc := by
    have hne : j ≠ i := by
      rintro rfl
      rw [hasChild, removeDead_children, OrdMap.find?_erase_self] at hc
      cases hc
    rw [instancesOf_removeDead]
    split_ifs
    · exact ⟨j, (List.mem_erase_of_ne hne).mpr hj, rfl⟩
    · exact ⟨j, hj, rfl⟩
  pools {q pool'} hq := by
    rw [find?_removeDead] at hq
    split_ifs at hq
    · obtain ⟨pool, hpool, rfl⟩ := Option.map_eq_some_iff.mp hq
      exact ⟨pool, hpool, rfl, rfl⟩
    · exact ⟨pool', hq, rfl, rfl⟩

/-! ## Starting an instance keeps the tables well formed -/

/-- Which instances have a child record after a start: those that had one, and the new
instance if its launch succeeded. -/
theorem WellFormed.hasChild_spawnOne (h : WellFormed s) {pool : ManagedEndpointPool}
    (hp : s.pools.find? p = some pool) (i : EndpointInstance) :
    hasChild (spawnOne host p s) i =
      (hasChild s i ||
        (launchSucceeds (host.launch s.nextInstanceSerial) pool.template &&
          decide (instanceIdOf p s.nextInstanceSerial = i.instanceId))) := by
  obtain ⟨rfl, hvalid⟩ := h.registered hp
  obtain ⟨child, hchild⟩ := spawnOne_children host hp
  rw [hasChild, hchild]
  cases launchSucceeds (host.launch s.nextInstanceSerial) pool.template with
  | false => simp [hasChild]
  | true =>
    rw [if_pos rfl, OrdMap.emplace_of_none (h.children_next hvalid.safe), OrdMap.find?_insert]
    split_ifs with hid <;> simp [hasChild, hid]

theorem WellFormed.spawnOne (h : WellFormed s) : WellFormed (spawnOne host p s) := by
  cases hp : s.pools.find? p with
  | none => rwa [spawnOne_of_none hp]
  | some pool =>
    obtain ⟨hid, hvalid⟩ := h.registered hp
    have hsafe : isSafeUrlSegmentId p = true := hid ▸ hvalid.safe
    have hnext : (Supervisor.spawnOne host p s).nextInstanceSerial = s.nextInstanceSerial + 1 :=
      spawnOne_nextInstanceSerial hp
    refine ⟨fun {q pool'} hq => ?_, fun {q i} hi => ?_, fun q => ?_, fun {id child} hc => ?_,
      fun {q i} hi hh => ?_⟩
    · rw [find?_spawnOne hp] at hq
      split_ifs at hq with hpq
      · cases hq
        exact ⟨hid.trans hpq, hvalid.safe, hvalid.min_nonneg, hvalid.one_le_max,
          hvalid.min_le_max⟩
      · exact h.registered hq
    · rw [hnext]
      rw [instancesOf_spawnOne hp] at hi
      split_ifs at hi with hpq
      · rcases List.mem_append.mp hi with hi | hi
        · obtain ⟨k, hk, hik⟩ := h.issued hi
          exact ⟨k, by omega, hik⟩
        · rw [List.mem_singleton.mp hi, startInstanceLocked_instanceId, hid, ← hpq]
          exact ⟨_, Nat.lt_succ_self _, rfl⟩
      · obtain ⟨k, hk, hik⟩ := h.issued hi
        exact ⟨k, by omega, hik⟩
    · rw [instancesOf_spawnOne hp]
      split_ifs with hpq
      · refine List.pairwise_append.mpr
          ⟨h.distinct q, List.pairwise_singleton _ _, fun i hi j hj => ?_⟩
        -- the new serial is not yet given out
        rw [List.mem_singleton.mp hj, startInstanceLocked_instanceId, hid]
        obtain ⟨k, hk, hik⟩ := h.issued hi
        intro heq
        have hinj := instanceIdOf_inj (h.safe_of_mem hi) hsafe (hik.symm.trans heq)
        omega
      · exact h.distinct q
    · have hold : ∀ {r j}, j ∈ instancesOf s r →
          j ∈ instancesOf (Supervisor.spawnOne host p s) r := by
        intro r j hj
        rw [instancesOf_spawnOne hp]
        split_ifs
        · exact List.mem_append_left _ hj
        · exact hj
      obtain ⟨child', hchild⟩ := spawnOne_children host hp
      rw [hchild] at hc
      split_ifs at hc
      · rw [OrdMap.emplace_of_none (h.children_next hvalid.safe), OrdMap.find?_insert] at hc
        split_ifs at hc with hid'
        · refine ⟨p, (startInstanceLocked host pool s).1, ?_, ?_⟩
          · rw [instancesOf_spawnOne hp, if_pos rfl]
            exact List.mem_append_right _ (List.mem_singleton_self _)
          · rw [startInstanceLocked_instanceId, hid']
        · obtain ⟨r, j, hj, hjid⟩ := h.childListed hc
          exact ⟨r, j, hold hj, hjid⟩
      · obtain ⟨r, j, hj, hjid⟩ := h.childListed hc
        exact ⟨r, j, hold hj, hjid⟩
    · rw [h.hasChild_spawnOne hp, Bool.or_eq_true]
      rw [instancesOf_spawnOne hp] at hi
      split_ifs at hi with hpq
      · rcases List.mem_append.mp hi with hi | hi
        · exact Or.inl (h.healthyChild hi hh)
        · obtain rfl := List.mem_singleton.mp hi
          rw [startInstanceLocked_healthy] at hh
          refine Or.inr ?_
          rw [hh, startInstanceLocked_instanceId, hid]
          simp
      · exact Or.inl (h.healthyChild hi hh)

theorem WellFormed.respawnOne (h : WellFormed s) : WellFormed (respawnOne host p s) :=
  h.spawnOne.restrict
    (restricts_of_eq respawnOne_pools respawnOne_children respawnOne_nextInstanceSerial)

/-! ## The reap pass as moves -/

/-- One move of the first half: a listed instance found dead is removed. -/
inductive Death (host : Host) : WorkerSupervisor → WorkerSupervisor → Prop
  | intro {s : WorkerSupervisor} {p : String} {i : EndpointInstance} {code : ℕ} :
    i ∈ instancesOf s p → exited host s i = some code → Death host s (removeDead host p i code s)

/-- One move of the second half: a pool below its floor and not quarantined gets one
more instance, or a pool's `updatedAtUtc` moves. -/
inductive Refill (host : Host) : WorkerSupervisor → WorkerSupervisor → Prop
  | respawn {s : WorkerSupervisor} {p : String} {pool : ManagedEndpointPool} :
    s.pools.find? p = some pool → s.shuttingDown = false →
    isPoolQuarantinedLocked s p host.steadyNow = false →
    (healthyInstanceCountLocked pool : ℤ) < max 0 pool.scalePolicy.minInstances →
    Refill host s (respawnOne host p s)
  | touch {s : WorkerSupervisor} {p : String} :
    Refill host s (modifyPool p (fun pool => { pool with updatedAtUtc := host.utcNow }) s)

theorem WellFormed.death {t : WorkerSupervisor} (h : WellFormed s) (hst : Death host s t) :
    WellFormed t := by
  cases hst with
  | intro hi _ => exact h.restrict (h.restricts_removeDead hi)

theorem WellFormed.refill {t : WorkerSupervisor} (h : WellFormed s) (hst : Refill host s t) :
    WellFormed t := by
  cases hst with
  | respawn _ _ _ _ => exact h.respawnOne
  | touch => exact h.restrict (restricts_touch _ _ _)

/-- The pass over a part of a pool's table is a sequence of deaths: what is still to be
visited is still listed, since removing one instance leaves the others. -/
theorem foldl_reapInstance_deaths (h : WellFormed s) (l : List EndpointInstance)
    (hnodup : l.Nodup) (hsub : ∀ i ∈ l, i ∈ instancesOf s p) :
    ReflTransGen (Death host) s (l.foldl (reapInstance host p) s) := by
  induction l generalizing s with
  | nil => exact ReflTransGen.refl
  | cons i l ih =>
    obtain ⟨hil, hl⟩ := List.nodup_cons.mp hnodup
    have hi := hsub i List.mem_cons_self
    rw [List.foldl_cons, reapInstance]
    cases hcode : exited host s i with
    | none => exact ih h hl fun j hj => hsub j (List.mem_cons_of_mem _ hj)
    | some code =>
      refine (ReflTransGen.single (Death.intro hi hcode)).trans
        (ih (h.restrict (h.restricts_removeDead hi)) hl fun j hj => ?_)
      have hne : j ≠ i := fun heq => hil (heq ▸ hj)
      rw [instancesOf_removeDead, if_pos rfl]
      exact (List.mem_erase_of_ne hne).mpr (hsub j (List.mem_cons_of_mem _ hj))

theorem reapPool_deaths (h : WellFormed s) (p : String) :
    ReflTransGen (Death host) s (reapPool host s p) := by
  unfold reapPool
  cases hp : s.pools.find? p with
  | none => exact ReflTransGen.refl
  | some pool =>
    have hlist := instancesOf_of_find? hp
    exact foldl_reapInstance_deaths h pool.instances (hlist ▸ h.nodup p)
      fun i hi => hlist.symm ▸ hi

/-- **The first half of the pass is a sequence of deaths.** -/
theorem reapDead_deaths (h : WellFormed s) : ReflTransGen (Death host) s (reapDead host s) :=
  moves_foldl (I := WellFormed) (fun _ _ => WellFormed.death) (fun _ p hs => reapPool_deaths hs p)
    _ h

theorem healthyInstanceCountLocked_append (pool : ManagedEndpointPool) (i : EndpointInstance) :
    healthyInstanceCountLocked { pool with instances := pool.instances ++ [i] } =
      healthyInstanceCountLocked pool + if i.healthy then 1 else 0 := by
  simp [healthyInstanceCountLocked, List.countP_append, List.countP_singleton]

/-- The pool under an id lacks at least `n` healthy instances. -/
def Lacks (p : String) (n : ℕ) (s : WorkerSupervisor) : Prop :=
  ∃ pool, s.pools.find? p = some pool ∧
    (n = 0 ∨ (healthyInstanceCountLocked pool : ℤ) + n ≤ max 0 pool.scalePolicy.minInstances)

theorem lacks_shortfall {pool : ManagedEndpointPool} (hp : s.pools.find? p = some pool) :
    Lacks p (shortfall pool) s := by
  refine ⟨pool, hp, ?_⟩
  unfold shortfall
  omega

/-- One start: the pool lacks one instance less, since a start adds at most one healthy
instance. -/
theorem Lacks.spawnOne {n : ℕ} (h : Lacks p (n + 1) s) :
    ∃ pool, s.pools.find? p = some pool ∧
      (healthyInstanceCountLocked pool : ℤ) < max 0 pool.scalePolicy.minInstances ∧
      Lacks p n (spawnOne host p s) := by
  obtain ⟨pool, hp, h0 | hle⟩ := h
  · omega
  · refine ⟨pool, hp, by push_cast at hle; omega,
      { pool with instances := pool.instances ++ [(startInstanceLocked host pool s).1] }, ?_,
      Or.inr ?_⟩
    · rw [find?_spawnOne hp, if_pos rfl]
    · rw [healthyInstanceCountLocked_append]
      push_cast at hle ⊢
      split_ifs <;> omega

theorem respawnOne_iterate_refills {pool : ManagedEndpointPool}
    (hp : s.pools.find? p = some pool) (hs : s.shuttingDown = false)
    (hq : isPoolQuarantinedLocked s p host.steadyNow = false) :
    ReflTransGen (Refill host) s ((respawnOne host p)^[shortfall pool] s) := by
  refine moves_iterate
    (J := fun n t => Lacks p n t ∧ t.shuttingDown = false ∧
      isPoolQuarantinedLocked t p host.steadyNow = false)
    (fun n t ht => ?_) _ ⟨lacks_shortfall hp, hs, hq⟩
  obtain ⟨hlacks, hs, hq⟩ := ht
  obtain ⟨pool, hp, hlt, pool', hp', hle⟩ := hlacks.spawnOne
  refine ⟨Refill.respawn hp hs hq hlt, ⟨pool', ?_, hle⟩, ?_, ?_⟩
  · rwa [respawnOne_pools]
  · rwa [respawnOne_shuttingDown]
  · rwa [isPoolQuarantinedLocked, respawnOne_poolQuarantineUntil]

theorem respawnPool_refills (hs : s.shuttingDown = false) (reapedAny : Bool) (p : String) :
    ReflTransGen (Refill host) s (respawnPool host reapedAny s p) := by
  unfold respawnPool
  cases hp : s.pools.find? p with
  | none => exact ReflTransGen.refl
  | some pool =>
    dsimp only
    split_ifs with hq hr
    · exact ReflTransGen.refl
    · exact (respawnOne_iterate_refills hp hs (by simpa using hq)).tail Refill.touch
    · exact respawnOne_iterate_refills hp hs (by simpa using hq)

theorem Refill.shuttingDown {t : WorkerSupervisor} (h : Refill host s t) :
    t.shuttingDown = s.shuttingDown := by
  cases h with
  | respawn _ _ _ _ => exact respawnOne_shuttingDown
  | touch => exact modifyPool_shuttingDown _

/-- **The second half of the pass is a sequence of refills.** -/
theorem reapDeadInstancesLocked_refills :
    ReflTransGen (Refill host) (reapDead host s) (reapDeadInstancesLocked host s) := by
  rw [reapDeadInstancesLocked]
  split_ifs with hs
  · exact ReflTransGen.refl
  · exact moves_foldl (I := fun t => t.shuttingDown = false)
      (fun _ _ ht hst => hst.shuttingDown.trans ht)
      (fun _ p ht => respawnPool_refills ht _ p) _ (by simpa using hs)

/-- An invariant of the two kinds of moves is an invariant of the pass. -/
theorem reapDeadInstancesLocked_invariant {I : WorkerSupervisor → Prop}
    (hdeath : ∀ s t, I s → Death host s t → I t) (hrefill : ∀ s t, I s → Refill host s t → I t)
    (h : WellFormed s) (hs : I s) : I (reapDeadInstancesLocked host s) :=
  invariant_of_moves hrefill reapDeadInstancesLocked_refills
    (invariant_of_moves hdeath (reapDead_deaths h) hs)

theorem WellFormed.reapDead (h : WellFormed s) : WellFormed (reapDead host s) :=
  invariant_of_moves (I := WellFormed) (fun _ _ => WellFormed.death) (reapDead_deaths h) h

theorem WellFormed.reapDeadInstancesLocked (h : WellFormed s) :
    WellFormed (reapDeadInstancesLocked host s) :=
  reapDeadInstancesLocked_invariant (fun _ _ => WellFormed.death) (fun _ _ => WellFormed.refill)
    h h

end Supervisor
end MasterControl
