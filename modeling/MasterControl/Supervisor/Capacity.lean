import MasterControl.Foundation.Counting
import MasterControl.Supervisor.Runs

/-!
# How many workers a pool runs

A live worker of a pool is a child record whose instance belongs to the pool
(`liveWorkers`).  The supervisor compares `scalePolicy.maxInstances` with the *healthy*
instances only, and a draining instance is not healthy although its process still runs.
So the live workers split as healthy plus lingering (`liveWorkers_eq`), and the cap holds
along a run as long as every start finds room for the lingering ones too
(`StartsHaveRoom`, `liveWorkers_le_maxInstances`).  Without that condition it does not:
`overfullSupervisor` is a pool of one instance with two workers.
-/

namespace MasterControl
namespace Supervisor

open Foundation Relation

variable {host : Host} {s t : WorkerSupervisor} {p q : String}

/-! ## Counting -/

/-- The child records whose instance belongs to a pool. -/
def workersOf (s : WorkerSupervisor) (p : String) : List String :=
  s.children.keys.filter fun id => id ∈ (instancesOf s p).map EndpointInstance.instanceId

/-- How many worker processes of a pool the supervisor holds. -/
def liveWorkers (s : WorkerSupervisor) (p : String) : ℕ := (workersOf s p).length

theorem mem_workersOf {id : String} :
    id ∈ workersOf s p ↔ ∃ i ∈ instancesOf s p, i.instanceId = id ∧ hasChild s i = true := by
  simp only [workersOf, List.mem_filter, decide_eq_true_eq, OrdMap.mem_keys_iff, List.mem_map]
  constructor
  · rintro ⟨⟨child, hchild⟩, i, hi, rfl⟩
    exact ⟨i, hi, rfl, by rw [hasChild, hchild, Option.isSome_some]⟩
  · rintro ⟨i, hi, rfl, hc⟩
    exact ⟨Option.isSome_iff_exists.mp hc, i, hi, rfl⟩

/-- The healthy instances of a pool. -/
def healthyCount (s : WorkerSupervisor) (p : String) : ℕ :=
  (instancesOf s p).countP EndpointInstance.healthy

/-- The live workers that do not count as capacity: the draining ones. -/
def lingering (s : WorkerSupervisor) (p : String) : ℕ :=
  (instancesOf s p).countP fun i => !i.healthy && hasChild s i

theorem healthyInstanceCountLocked_eq {pool : ManagedEndpointPool}
    (hp : s.pools.find? p = some pool) : healthyInstanceCountLocked pool = healthyCount s p := by
  rw [healthyInstanceCountLocked, healthyCount, instancesOf_of_find? hp]

/-- **Live workers are the listed instances with a child record.** -/
theorem WellFormed.liveWorkers_eq_listed (h : WellFormed s) (p : String) :
    liveWorkers s p = (instancesOf s p).countP (hasChild s) := by
  have hids : ((instancesOf s p).map EndpointInstance.instanceId).Nodup :=
    List.pairwise_map.mpr (h.distinct p)
  rw [liveWorkers, workersOf, ← List.countP_eq_length_filter,
    countP_mem_comm (OrdMap.nodup_keys _) hids, List.countP_map]
  refine List.countP_congr fun i _ => ?_
  simp only [Function.comp_apply, decide_eq_true_eq, OrdMap.mem_keys_iff, hasChild,
    Option.isSome_iff_exists]

/-- **Live workers are the healthy ones and the lingering ones.** -/
theorem WellFormed.liveWorkers_eq (h : WellFormed s) (p : String) :
    liveWorkers s p = healthyCount s p + lingering s p := by
  rw [h.liveWorkers_eq_listed]
  exact countP_split_of_imp fun _ hi hh => h.healthyChild hi hh

/-! ### Counts after a restriction -/

/-- Shrunken tables have no new worker. -/
theorem workersOf_subset (h : Shrinks s t) (p : String) : workersOf t p ⊆ workersOf s p := by
  intro id hid
  obtain ⟨i, hi, rfl, hc⟩ := mem_workersOf.mp hid
  obtain ⟨l, g, hsub, heq, hg⟩ := h.tables p
  rw [heq] at hi
  obtain ⟨j, hj, rfl⟩ := List.mem_map.mp hi
  obtain ⟨child, hchild⟩ := Option.isSome_iff_exists.mp hc
  obtain ⟨child', hchild'⟩ := h.children hchild
  rw [(hg j).1] at hchild' ⊢
  exact mem_workersOf.mpr ⟨j, hsub.subset hj, rfl, by rw [hasChild, hchild', Option.isSome_some]⟩

theorem WellFormed.liveWorkers_le (hwf : WellFormed s) (h : Restricts s t) (p : String) :
    liveWorkers t p ≤ liveWorkers s p := by
  obtain ⟨l, g, hsub, heq, hg⟩ := h.tables p
  rw [hwf.liveWorkers_eq_listed, (hwf.restrict h).liveWorkers_eq_listed, heq, List.countP_map]
  refine le_trans (List.countP_mono_left fun i _ hi => ?_) hsub.countP_le
  rw [Function.comp_apply, hasChild, (hg i).1] at hi
  obtain ⟨child, hchild⟩ := Option.isSome_iff_exists.mp hi
  obtain ⟨child', hchild'⟩ := h.children hchild
  rw [hasChild, hchild', Option.isSome_some]

/-! ### Counts after a start -/

section Spawn

variable {pool : ManagedEndpointPool}

theorem healthyCount_spawnOne (hp : s.pools.find? p = some pool) (q : String) :
    healthyCount (spawnOne host p s) q = healthyCount s q +
      if p = q ∧ launchSucceeds (host.launch s.nextInstanceSerial) pool.template = true then 1
      else 0 := by
  rw [healthyCount, instancesOf_spawnOne hp]
  by_cases hpq : p = q
  · rw [if_pos hpq, List.countP_append, List.countP_singleton, startInstanceLocked_healthy]
    simp [healthyCount, hpq]
  · simp [healthyCount, hpq]

/-- The child record of a start belongs to the new instance alone. -/
theorem hasChild_spawnOne_of_mem (h : WellFormed s)
    (hp : s.pools.find? p = some pool) {i : EndpointInstance} (hi : i ∈ instancesOf s q) :
    hasChild (spawnOne host p s) i = hasChild s i := by
  have hsafe : isSafeUrlSegmentId p = true := by
    obtain ⟨rfl, hv⟩ := h.registered hp
    exact hv.safe
  have hne : instanceIdOf p s.nextInstanceSerial ≠ i.instanceId := by
    obtain ⟨k, hk, hik⟩ := h.issued hi
    intro heq
    have := (instanceIdOf_inj hsafe (h.safe_of_mem hi) (heq.trans hik)).2
    omega
  rw [h.hasChild_spawnOne hp]
  simp [hne]

/-- A start in one pool starts no worker of another. -/
theorem workersOf_spawnOne_subset (h : WellFormed s) (hp : s.pools.find? p = some pool)
    (hpq : p ≠ q) : workersOf (spawnOne host p s) q ⊆ workersOf s q := by
  intro id hid
  obtain ⟨i, hi, rfl, hc⟩ := mem_workersOf.mp hid
  rw [instancesOf_spawnOne hp, if_neg hpq] at hi
  rw [hasChild_spawnOne_of_mem h hp hi] at hc
  exact mem_workersOf.mpr ⟨i, hi, rfl, hc⟩

/-- **A start does not change the lingering workers**: a started instance is healthy, and
one that failed has no child. -/
theorem lingering_spawnOne (h : WellFormed s) (hp : s.pools.find? p = some pool)
    (q : String) : lingering (spawnOne host p s) q = lingering s q := by
  have hold : ∀ i ∈ instancesOf s q,
      (!i.healthy && hasChild (spawnOne host p s) i) = (!i.healthy && hasChild s i) :=
    fun i hi => by rw [hasChild_spawnOne_of_mem h hp hi]
  have hcount : (instancesOf s q).countP
        (fun i => !i.healthy && hasChild (spawnOne host p s) i) = lingering s q :=
    List.countP_congr fun i hi => by rw [hold i hi]
  rw [lingering, instancesOf_spawnOne hp]
  by_cases hpq : p = q
  · obtain ⟨hid, hv⟩ := h.registered hp
    rw [if_pos hpq, List.countP_append, hcount, List.countP_singleton, h.hasChild_spawnOne hp,
      startInstanceLocked_healthy]
    have hnone : hasChild s (startInstanceLocked host pool s).1 = false := by
      rw [hasChild, startInstanceLocked_instanceId, h.children_next hv.safe]
      rfl
    rw [hnone]
    cases launchSucceeds (host.launch s.nextInstanceSerial) pool.template <;> simp
  · rw [if_neg hpq, hcount]

end Spawn

/-! ## The cap on live workers -/

/-- No pool runs more workers than its policy allows. -/
def MaxInstancesRespected (s : WorkerSupervisor) : Prop :=
  ∀ p pool, s.pools.find? p = some pool →
    (liveWorkers s p : ℤ) ≤ pool.scalePolicy.maxInstances

/-- Filling the pool up to its floor would leave room for its lingering workers. -/
def RoomForFloor (s : WorkerSupervisor) (p : String) : Prop :=
  ∀ pool, s.pools.find? p = some pool →
    (healthyInstanceCountLocked pool : ℤ) < max 0 pool.scalePolicy.minInstances →
    (lingering s p : ℤ) + max 0 pool.scalePolicy.minInstances ≤ pool.scalePolicy.maxInstances

/-- One more instance would leave room for the pool's lingering workers. -/
def RoomForOne (s : WorkerSupervisor) (p : String) : Prop :=
  ∀ pool, s.pools.find? p = some pool →
    (healthyInstanceCountLocked pool : ℤ) < max 0 pool.scalePolicy.maxInstances →
    (lingering s p : ℤ) + healthyInstanceCountLocked pool < pool.scalePolicy.maxInstances

/-- The respawns of a reap pass leave room: what counts is the state with the dead
instances already removed, and only pools the pass respawns. -/
def PassHasRoom (host : Host) (s : WorkerSupervisor) : Prop :=
  (reapDead host s).shuttingDown = false →
    ∀ p, isPoolQuarantinedLocked (reapDead host s) p host.steadyNow = false →
      RoomForFloor (reapDead host s) p

/-- A known pool is registered again with the scale policy it has. -/
def PolicyKept (s : WorkerSupervisor) (step : SupervisorStep) : Prop :=
  match step.call with
  | .upsertPool pool =>
    ∀ known, s.pools.find? pool.poolId = some known → pool.scalePolicy = known.scalePolicy
  | _ => True

/-- Every start this step may make leaves room for the workers that still drain. -/
def StartsHaveRoom (s : WorkerSupervisor) (step : SupervisorStep) : Prop :=
  match step.call with
  | .ensureMinInstances p =>
    s.shuttingDown = false →
      PassHasRoom step.host s ∧ RoomForFloor (reapDeadInstancesLocked step.host s) p
  | .scaleUpOnce p =>
    s.shuttingDown = false →
      PassHasRoom step.host s ∧ RoomForOne (reapDeadInstancesLocked step.host s) p
  | .findPool _ => PassHasRoom step.host s
  | .listPools => PassHasRoom step.host s
  | .watchdogReap => PassHasRoom step.host s
  | _ => True

theorem MaxInstancesRespected.restrict (h : MaxInstancesRespected s) (hwf : WellFormed s)
    (hr : Restricts s t) : MaxInstancesRespected t := by
  intro p pool' hp
  obtain ⟨pool, hpool, -, hpolicy⟩ := hr.pools hp
  have hle := hwf.liveWorkers_le hr p
  have hcap := h p pool hpool
  rw [hpolicy]
  omega

/-- One start under the floor, with room for the floor, keeps the cap and the room. -/
theorem cap_spawnOne {pool : ManagedEndpointPool} (h : WellFormed s)
    (hcap : MaxInstancesRespected s) (hp : s.pools.find? p = some pool)
    (hlt : (lingering s p : ℤ) + healthyInstanceCountLocked pool <
      pool.scalePolicy.maxInstances) : MaxInstancesRespected (spawnOne host p s) := by
  intro q pool' hq
  rw [h.spawnOne.liveWorkers_eq, lingering_spawnOne h hp, healthyCount_spawnOne hp]
  rw [healthyInstanceCountLocked_eq hp] at hlt
  rw [find?_spawnOne hp] at hq
  split_ifs at hq with hpq
  · cases hq
    rw [← hpq]
    push_cast
    split_ifs <;> omega
  · have := hcap q pool' hq
    rw [h.liveWorkers_eq] at this
    rw [if_neg fun hboth => hpq hboth.1]
    omega

/-- The room for a pool's floor is the same after one start under the floor. -/
theorem roomForFloor_spawnOne {pool : ManagedEndpointPool} (h : WellFormed s)
    (hp : s.pools.find? p = some pool)
    (hlt : (healthyInstanceCountLocked pool : ℤ) < max 0 pool.scalePolicy.minInstances)
    (hroom : RoomForFloor s q) : RoomForFloor (spawnOne host p s) q := by
  intro pool' hq hlt'
  rw [lingering_spawnOne h hp]
  rw [find?_spawnOne hp] at hq
  split_ifs at hq with hpq
  · cases hq
    subst hpq
    exact hroom pool hp hlt
  · exact hroom pool' hq hlt'

theorem lingering_congr (hp : t.pools = s.pools) (hc : t.children = s.children) (q : String) :
    lingering t q = lingering s q := by
  simp only [lingering, instancesOf, hp, hasChild, hc]

theorem RoomForFloor.congr (h : RoomForFloor s q) (hp : t.pools = s.pools)
    (hc : t.children = s.children) : RoomForFloor t q := by
  intro pool hq hlt
  rw [lingering_congr hp hc]
  exact h pool (hp ▸ hq) hlt

/-- Touching a pool moves no instance. -/
theorem roomForFloor_touch (utc : String) (h : RoomForFloor s q) :
    RoomForFloor (modifyPool p (fun pool => { pool with updatedAtUtc := utc }) s) q := by
  intro pool hq hlt
  have hling : lingering (modifyPool p (fun pool => { pool with updatedAtUtc := utc }) s) q =
      lingering s q := by
    simp only [lingering, instancesOf_touch, hasChild, modifyPool_children]
  rw [hling]
  rw [find?_modifyPool] at hq
  split_ifs at hq
  · obtain ⟨pool', hpool', rfl⟩ := Option.map_eq_some_iff.mp hq
    exact h pool' hpool' hlt
  · exact h pool hq hlt

/-- **The pass keeps the cap**, if its respawns have room. -/
theorem cap_reapDeadInstancesLocked (h : WellFormed s) (hcap : MaxInstancesRespected s)
    (hroom : PassHasRoom host s) : MaxInstancesRespected (reapDeadInstancesLocked host s) := by
  -- the deaths only take workers away
  have hdead : WellFormed (reapDead host s) ∧ MaxInstancesRespected (reapDead host s) := by
    refine invariant_of_moves (I := fun t => WellFormed t ∧ MaxInstancesRespected t)
      (fun t u ht htu => ⟨ht.1.death htu, ?_⟩) (reapDead_deaths h) ⟨h, hcap⟩
    cases htu with
    | intro hi _ => exact ht.2.restrict ht.1 (ht.1.restricts_removeDead hi)
  -- each respawn stays under the floor of its pool, which has room
  refine (invariant_of_moves (I := fun t => WellFormed t ∧ MaxInstancesRespected t ∧
      (t.shuttingDown = false → ∀ p, isPoolQuarantinedLocked t p host.steadyNow = false →
        RoomForFloor t p)) (fun t u ht htu => ?_) reapDeadInstancesLocked_refills
      ⟨hdead.1, hdead.2, hroom⟩).2.1
  obtain ⟨hwf, hcap, hroom⟩ := ht
  refine ⟨hwf.refill htu, ?_⟩
  cases htu with
  | @respawn p pool hp hs hq hlt =>
    have hfits : (lingering t p : ℤ) + healthyInstanceCountLocked pool <
        pool.scalePolicy.maxInstances := by
      have := hroom hs p hq pool hp hlt
      omega
    refine ⟨(cap_spawnOne hwf hcap hp hfits).restrict hwf.spawnOne (restricts_of_eq respawnOne_pools
      respawnOne_children respawnOne_nextInstanceSerial), fun hs' q hq' => ?_⟩
    rw [isPoolQuarantinedLocked, respawnOne_poolQuarantineUntil] at hq'
    exact (roomForFloor_spawnOne hwf hp hlt (hroom hs q hq')).congr respawnOne_pools
      respawnOne_children
  | touch =>
    refine ⟨hcap.restrict hwf (restricts_touch _ _ _), fun hs' q hq' => ?_⟩
    rw [modifyPool_shuttingDown] at hs'
    rw [isPoolQuarantinedLocked, modifyPool_poolQuarantineUntil] at hq'
    exact roomForFloor_touch _ (hroom hs' q hq')

theorem cap_ensureMinInstances (h : WellFormed s) (hcap : MaxInstancesRespected s)
    (hpass : s.shuttingDown = false →
      PassHasRoom host s ∧ RoomForFloor (reapDeadInstancesLocked host s) p) :
    MaxInstancesRespected (ensureMinInstances host p s).2 := by
  cases hs : s.shuttingDown with
  | true => rwa [ensureMinInstances_of_shuttingDown hs]
  | false =>
    obtain ⟨hroom, hfloor⟩ := hpass hs
    refine (invariant_of_moves (I := fun t => WellFormed t ∧ MaxInstancesRespected t ∧
      RoomForFloor t p) (fun t u ht htu => ?_) (ensureMinInstances_starts host p hs)
      ⟨h.reapDeadInstancesLocked, cap_reapDeadInstancesLocked h hcap hroom, hfloor⟩).2.1
    obtain ⟨hwf, hcap, hroom⟩ := ht
    refine ⟨hwf.start htu, ?_⟩
    cases htu with
    | spawn hp hlt =>
      have hfits := hroom _ hp hlt
      exact ⟨cap_spawnOne hwf hcap hp (by omega), roomForFloor_spawnOne hwf hp hlt hroom⟩
    | touch => exact ⟨hcap.restrict hwf (restricts_touch _ _ _), roomForFloor_touch _ hroom⟩

theorem cap_scaleUpOnce (h : WellFormed s) (hcap : MaxInstancesRespected s)
    (hpass : s.shuttingDown = false →
      PassHasRoom host s ∧ RoomForOne (reapDeadInstancesLocked host s) p) :
    MaxInstancesRespected (scaleUpOnce host p s).2 := by
  cases hs : s.shuttingDown with
  | true =>
    have heq : scaleUpOnce host p s = ("", s) := by rw [scaleUpOnce, if_pos hs]
    rwa [heq]
  | false =>
    obtain ⟨hroom, hone⟩ := hpass hs
    have hpassed := cap_reapDeadInstancesLocked h hcap hroom
    rcases scaleUpOnce_cases host p s with heq | heq | ⟨pool, hp, -, hlt, heq⟩
    · rwa [heq]
    · rwa [heq]
    · rw [heq]
      exact (cap_spawnOne h.reapDeadInstancesLocked hpassed hp (hone pool hp hlt)).restrict
        h.reapDeadInstancesLocked.spawnOne (restricts_touch _ _ _)

theorem cap_upsertPool (h : WellFormed s) (hcap : MaxInstancesRespected s)
    {pool : ManagedEndpointPool}
    (hkept : ∀ known, s.pools.find? pool.poolId = some known →
      pool.scalePolicy = known.scalePolicy) :
    MaxInstancesRespected (upsertPool host pool s).2 := by
  rcases upsertPool_cases host pool s with heq | ⟨stored, heq, hrej, -, hpolicy, -, hinst⟩
  · rwa [heq]
  · have hwf : WellFormed (upsertPool host pool s).2 := h.upsertPool pool
    rw [heq] at hwf ⊢
    intro q pool' hq
    have hsame : liveWorkers { s with pools := s.pools.insert pool.poolId stored } q =
        liveWorkers s q := by
      have htable : instancesOf { s with pools := s.pools.insert pool.poolId stored } q =
          instancesOf s q := by
        rw [instancesOf, OrdMap.find?_insert]
        split_ifs with hpq
        · exact hpq ▸ hinst
        · rfl
      rw [liveWorkers, liveWorkers, workersOf, workersOf, htable]
    rw [hsame]
    rw [OrdMap.find?_insert] at hq
    split_ifs at hq with hpq
    · cases hq
      rw [hpolicy, ← hpq]
      cases hknown : s.pools.find? pool.poolId with
      | none =>
        have hmax := (validPool_of_accepted hrej).one_le_max
        rw [h.liveWorkers_eq_listed, instancesOf_of_none hknown, List.countP_nil]
        push_cast
        omega
      | some known =>
        rw [hkept known hknown]
        exact hcap _ known hknown
    · exact hcap q pool' hq

/-- **Every step keeps the cap**, if policies are kept and its starts have room. -/
theorem MaxInstancesRespected.perform (hcap : MaxInstancesRespected s) (h : WellFormed s)
    {step : SupervisorStep} (hkept : PolicyKept s step) (hroom : StartsHaveRoom s step) :
    MaxInstancesRespected (perform s step) := by
  obtain ⟨host, call⟩ := step
  cases call with
  | upsertPool pool => exact cap_upsertPool h hcap hkept
  | removePool poolId => exact hcap.restrict h (h.restricts_removePool poolId)
  | ensureMinInstances poolId => exact cap_ensureMinInstances h hcap hroom
  | drainPool poolId => exact hcap.restrict h (restricts_drainPool host poolId s)
  | scaleUpOnce poolId => exact cap_scaleUpOnce h hcap hroom
  | findPool poolId => exact cap_reapDeadInstancesLocked h hcap hroom
  | listPools => exact cap_reapDeadInstancesLocked h hcap hroom
  | shutdownAll =>
    have hflag : Restricts s { s with shuttingDown := true } := restricts_of_eq rfl rfl rfl
    exact (invariant_foldl (I := fun t => WellFormed t ∧ MaxInstancesRespected t)
      (fun _ p ht => ⟨ht.1.restrict (ht.1.restricts_terminateInstancesLocked p),
        ht.2.restrict ht.1 (ht.1.restricts_terminateInstancesLocked p)⟩) _
      ⟨h.restrict hflag, hcap.restrict h hflag⟩).2
  | watchdogReap => exact cap_reapDeadInstancesLocked h hcap hroom
  | pruneCrashWindows => exact hcap.restrict h (restricts_of_eq rfl rfl rfl)
  | stdinWriteFailed instanceId =>
    exact hcap.restrict h (h.restricts_stdinWriteFailed host instanceId)
  | handshakeConfirmed instanceId =>
    exact hcap.restrict h (restricts_handshakeConfirmed host instanceId s)
  | drainSupervisorEvents => exact hcap.restrict h (restricts_of_eq rfl rfl rfl)

theorem maxInstancesRespected_empty : MaxInstancesRespected {} := by
  intro p pool hp
  cases hp

/-- **The process bound.**  In every run that keeps the scale policies and starts
instances only where the draining workers leave room, no pool ever runs more workers
than `scalePolicy.maxInstances`. -/
theorem liveWorkers_le_maxInstances
    (h : supervisorSystem.ReachableBy (fun s step => PolicyKept s step ∧ StartsHaveRoom s step) s)
    {pool : ManagedEndpointPool} (hp : s.pools.find? p = some pool) :
    (liveWorkers s p : ℤ) ≤ pool.scalePolicy.maxInstances := by
  have hinv : WellFormed s ∧ MaxInstancesRespected s :=
    h.invariant (I := fun s => WellFormed s ∧ MaxInstancesRespected s)
      ⟨wellFormed_empty, maxInstancesRespected_empty⟩ fun _ step hs hG =>
        ⟨hs.1.perform step, hs.2.perform hs.1 hG.1 hG.2⟩
  exact hinv.2 p pool hp

/-! ### A run within the cap, and one that breaks it

The pool of one instance is filled by a pass and drained; the next pass finds no healthy
instance and starts a second worker beside the draining one. -/

/-- The pool is registered and filled, on a machine where launches work. -/
def filledSupervisor : WorkerSupervisor :=
  supervisorSystem.run {} [⟨workingHost, .upsertPool singlePool⟩, ⟨workingHost, .watchdogReap⟩]

/-- The filled pool is drained, and a pass follows. -/
def overfullSupervisor : WorkerSupervisor :=
  supervisorSystem.run filledSupervisor
    [⟨workingHost, .drainPool "p"⟩, ⟨workingHost, .watchdogReap⟩]

/-- Without child records nothing lingers, and every floor has room. -/
theorem roomForFloor_of_no_children (h : WellFormed s) (hc : s.children = OrdMap.empty)
    (p : String) : RoomForFloor s p := by
  intro pool hp _
  have hzero : lingering s p = 0 := by
    refine List.countP_eq_zero.mpr fun i _ => ?_
    rw [hasChild, hc, OrdMap.find?_empty]
    simp
  have hv := (h.registered hp).2
  have hmin := hv.min_le_max
  have hmax := hv.one_le_max
  omega

theorem liveWorkers_filledSupervisor :
    ∃ pool, filledSupervisor.pools.find? "p" = some pool ∧ liveWorkers filledSupervisor "p" = 1 ∧
      (liveWorkers filledSupervisor "p" : ℤ) ≤ pool.scalePolicy.maxInstances := by
  refine ⟨_, rfl, by decide, liveWorkers_le_maxInstances (p := "p") ?_ rfl⟩
  have hwf := wellFormed_empty.perform ⟨workingHost, .upsertPool singlePool⟩
  refine TransitionSystem.ReachableBy.init.run _
    ⟨⟨fun known hk => (by cases hk), trivial⟩, ⟨trivial, fun _ q _ => ?_⟩, trivial⟩
  exact roomForFloor_of_no_children hwf.reapDead rfl q

theorem overfullSupervisor_exceeds_maxInstances :
    ¬ ∀ s, supervisorSystem.ReachableBy PolicyKept s → MaxInstancesRespected s := by
  intro h
  have hfilled : supervisorSystem.ReachableBy PolicyKept filledSupervisor :=
    TransitionSystem.ReachableBy.init.run _
      ⟨fun known hk => (by cases hk), trivial, trivial⟩
  have hreach : supervisorSystem.ReachableBy PolicyKept overfullSupervisor :=
    hfilled.run _ ⟨trivial, trivial, trivial⟩
  have hle := h overfullSupervisor hreach "p" _ rfl
  have hlive : liveWorkers overfullSupervisor "p" = 2 := by decide
  rw [hlive] at hle
  exact absurd hle (by decide)

end Supervisor
end MasterControl
