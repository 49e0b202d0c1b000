import MasterControl.Foundation.Counting
import MasterControl.Leasing.Liveness
import Mathlib.Algebra.Order.BigOperators.Group.List

/-!
# Saturation and routing

A pool is said to be saturated when all its Active leases together are as many as its Ready and
Busy instances may carry (`saturationFor`), and a fresh session is turned away from the instances
when none of them has headroom of its own (`selectLeastLoadedReadyLocked`).  The two counts differ
by the leases that use no headroom: those on an instance that is gone or no longer serves, and
those beyond the limit of theirs (`surplusLeases`).  Free slots and Active leases make up the
capacity and the surplus (`active_add_free`), so the report agrees with the routing exactly if
nothing is free or the surplus is smaller than what is free (`saturation_agrees_iff`).
-/

namespace MasterControl
namespace Leasing

open Foundation Supervisor

variable {r : LeaseRouter} {pool : ManagedEndpointPool}

/-! ## Loads and slots -/

/-- The instances that requests are routed to. -/
def servingInstances (pool : ManagedEndpointPool) : List EndpointInstance :=
  pool.instances.filter EndpointInstance.serving

/-- The Active leases of a pool. -/
def activeLeaseCount (r : LeaseRouter) (poolId : String) : ℕ :=
  r.leases.entries.countP fun entry =>
    entry.2.poolId = poolId && entry.2.state = LeaseState.active

/-- What the serving instances may still carry. -/
def freeSlots (r : LeaseRouter) (pool : ManagedEndpointPool) : ℕ :=
  ((servingInstances pool).map fun i =>
    (leaseLimit pool).toNat - activeLoad r pool.poolId i.instanceId).sum

/-- Active leases on an instance that the pool does not list as Ready or Busy. -/
def strayLeases (r : LeaseRouter) (pool : ManagedEndpointPool) : ℕ :=
  r.leases.entries.countP fun entry =>
    (entry.2.poolId = pool.poolId && entry.2.state = LeaseState.active) &&
      !boundInstanceLive pool entry.2.instanceId

/-- Active leases beyond the limit of the instance they are on. -/
def excessLeases (r : LeaseRouter) (pool : ManagedEndpointPool) : ℕ :=
  ((servingInstances pool).map fun i =>
    activeLoad r pool.poolId i.instanceId - (leaseLimit pool).toNat).sum

/-- The Active leases that take up no slot. -/
def surplusLeases (r : LeaseRouter) (pool : ManagedEndpointPool) : ℕ :=
  strayLeases r pool + excessLeases r pool

/-- The load of the serving instances. -/
def servedLoad (r : LeaseRouter) (pool : ManagedEndpointPool) : ℕ :=
  ((servingInstances pool).map fun i => activeLoad r pool.poolId i.instanceId).sum

theorem boundInstanceLive_iff_mem (pool : ManagedEndpointPool) (id : String) :
    boundInstanceLive pool id = true ↔
      id ∈ (servingInstances pool).map EndpointInstance.instanceId := by
  rw [boundInstanceLive, List.any_eq_true, List.mem_map]
  simp only [servingInstances, List.mem_filter, Bool.and_eq_true, decide_eq_true_eq]
  constructor
  · rintro ⟨i, hi, hid, hserving⟩
    exact ⟨i, ⟨hi, hserving⟩, hid⟩
  · rintro ⟨i, ⟨hi, hserving⟩, hid⟩
    exact ⟨i, hi, hid, hserving⟩

/-- Every Active lease is on a serving instance, or stray. -/
theorem activeLeaseCount_eq (r : LeaseRouter)
    (hdistinct : pool.instances.Pairwise fun i j => i.instanceId ≠ j.instanceId) :
    activeLeaseCount r pool.poolId = servedLoad r pool + strayLeases r pool := by
  have hnodup : ((servingInstances pool).map EndpointInstance.instanceId).Nodup :=
    List.pairwise_map.mpr (hdistinct.filter _)
  have hserved : servedLoad r pool = r.leases.entries.countP fun entry =>
      (entry.2.poolId = pool.poolId && entry.2.state = LeaseState.active) &&
        boundInstanceLive pool entry.2.instanceId := by
    have hsum := countP_mem_eq_sum
      (fun entry : String × EndpointLease =>
        decide (entry.2.poolId = pool.poolId) && decide (entry.2.state = LeaseState.active))
      (fun entry => entry.2.instanceId) r.leases.entries hnodup
    rw [List.map_map] at hsum
    rw [servedLoad]
    refine hsum.symm.trans (List.countP_congr fun entry _ => ?_)
    simp only [Bool.and_eq_true, decide_eq_true_eq, boundInstanceLive_iff_mem]
  rw [hserved, activeLeaseCount, strayLeases]
  exact countP_split _
    (fun entry : String × EndpointLease => boundInstanceLive pool entry.2.instanceId) _

/-! ## The two answers -/

/-- **Active leases and free slots make up the capacity and the surplus.** -/
theorem active_add_free (r : LeaseRouter)
    (hdistinct : pool.instances.Pairwise fun i j => i.instanceId ≠ j.instanceId) :
    activeLeaseCount r pool.poolId + freeSlots r pool =
      (servingInstances pool).length * (leaseLimit pool).toNat + surplusLeases r pool := by
  have hsum := sum_add_sum_sub (fun i => activeLoad r pool.poolId i.instanceId)
    (leaseLimit pool).toNat (servingInstances pool)
  rw [activeLeaseCount_eq r hdistinct, surplusLeases]
  simp only [servedLoad, freeSlots, excessLeases] at hsum ⊢
  omega

theorem one_le_leaseLimit (pool : ManagedEndpointPool) : 1 ≤ leaseLimit pool :=
  le_max_left 1 pool.scalePolicy.maxActiveLeasesPerInstance

/-- One turn of the search finds nothing if nothing was found before and the instance is not
serving, or full. -/
theorem betterChoice_eq_none {limit : Int} {best : Option (String × ℕ)} {i : EndpointInstance} :
    betterChoice r pool limit best i = none ↔
      best = none ∧ (i.serving = true → limit ≤ activeLoad r pool.poolId i.instanceId) := by
  unfold betterChoice
  dsimp only
  cases i.serving with
  | false => simp
  | true =>
    by_cases hfull : limit ≤ activeLoad r pool.poolId i.instanceId
    · simp [hfull]
    · cases best with
      | none => simp [hfull]
      | some old =>
        simp only [Bool.not_true, Bool.false_eq_true, if_false, if_neg hfull]
        split <;> simp

/-- The search finds nothing if every serving instance is full. -/
theorem select_eq_none_iff {limit : Int} :
    selectLeastLoadedReadyLocked r pool limit = none ↔
      ∀ i ∈ servingInstances pool, limit ≤ activeLoad r pool.poolId i.instanceId := by
  have hfold : ∀ (l : List EndpointInstance) (best : Option (String × ℕ)),
      l.foldl (betterChoice r pool limit) best = none ↔
        best = none ∧ ∀ i ∈ l, i.serving = true →
          limit ≤ activeLoad r pool.poolId i.instanceId := by
    intro l
    induction l with
    | nil => simp
    | cons i l ih =>
      intro best
      rw [List.foldl_cons, ih, betterChoice_eq_none, List.forall_mem_cons, and_assoc]
  rw [selectLeastLoadedReadyLocked, Option.map_eq_none_iff, hfold]
  simp only [servingInstances, List.mem_filter, true_and, and_imp]

/-- Nothing is found if nothing is free. -/
theorem select_eq_none_iff_freeSlots :
    selectLeastLoadedReadyLocked r pool (leaseLimit pool) = none ↔ freeSlots r pool = 0 := by
  have hlimit := one_le_leaseLimit pool
  rw [select_eq_none_iff, freeSlots, List.sum_eq_zero_iff]
  simp only [List.mem_map, forall_exists_index, and_imp, forall_apply_eq_imp_iff₂]
  refine forall₂_congr fun i _ => ?_
  omega

/-! ## A query and an acquire, right then -/

/-- The supervisor that a query asks, which only looks for the pool. -/
def findingSupervisor (host : Host) : IWorkerSupervisor WorkerSupervisor where
  findPool := findPool host
  scaleUpOnce _ s := ("", s)

/-- A request for a pool by a session that has no entry there. -/
def Fresh (r : LeaseRouter) (poolId : String) (request : LeaseRequest) : Prop :=
  request.poolId = poolId ∧
    (request.sessionId = "" ∨ r.stickySessions.find? (stickyKey poolId request.sessionId) = none)

/-- What the report says, and what the search and an acquire for a fresh session do, on the same
reading of the clock and the same answer of the supervisor: saturation is reported if and only if
the search finds no instance, and if and only if the acquire asks for one more. -/
def SaturationAgrees (clock : RouterClock) (host : Host) (poolId : String) (c : LeasingState)
    (pool : ManagedEndpointPool) : Prop :=
  let report := (saturationFor (findingSupervisor host) clock poolId c.router c.supervisor).1
  let swept := pruneExpiredLeasesLocked clock c.router
  (report.atSaturation = true ↔ selectLeastLoadedReadyLocked swept pool (leaseLimit pool) = none) ∧
    ∀ request, Fresh swept poolId request →
      (report.atSaturation = true ↔ asksForScaleOut clock request pool swept)

/-- A fresh session reuses nothing and has nothing to drop. -/
theorem asksForScaleOut_iff_of_fresh {clock : RouterClock} {poolId : String}
    {request : LeaseRequest} (h : Fresh r poolId request) :
    asksForScaleOut clock request pool r ↔
      selectLeastLoadedReadyLocked r pool (leaseLimit pool) = none := by
  obtain ⟨rfl, hsession⟩ := h
  have hreuse : reusableLease r pool request = none := by
    unfold reusableLease
    rcases hsession with hs | hs
    · rw [if_pos hs]
    · split
      · rfl
      · rw [hs]
  have hdrop : dropStaleSticky clock request r = r := by
    unfold dropStaleSticky
    rcases hsession with hs | hs
    · rw [if_pos hs]
    · split
      · rfl
      · rw [hs]
  rw [asksForScaleOut, hdrop]
  exact and_iff_right hreuse

/-- The report, in terms of slots. -/
theorem atSaturation_iff {clock : RouterClock} {host : Host} {poolId : String} {c : LeasingState}
    (hpool : (findPool host poolId c.supervisor).1 = some pool) (hid : pool.poolId = poolId)
    (hdistinct : pool.instances.Pairwise fun i j => i.instanceId ≠ j.instanceId)
    (hserving : 0 < pool.instances.countP EndpointInstance.serving) :
    (saturationFor (findingSupervisor host) clock poolId c.router c.supervisor).1.atSaturation =
        true ↔
      freeSlots (pruneExpiredLeasesLocked clock c.router) pool ≤
        surplusLeases (pruneExpiredLeasesLocked clock c.router) pool := by
  have hsum := active_add_free (pruneExpiredLeasesLocked clock c.router) hdistinct
  have hlimit : (leaseLimit pool).toNat = leaseLimit pool :=
    Int.toNat_of_nonneg (le_trans (by decide) (one_le_leaseLimit pool))
  have hready : (servingInstances pool).length = pool.instances.countP EndpointInstance.serving :=
    List.countP_eq_length_filter.symm
  have hcapacity : (pool.instances.countP EndpointInstance.serving : Int) * leaseLimit pool ≤
        activeLeaseCount (pruneExpiredLeasesLocked clock c.router) poolId ↔
      (servingInstances pool).length * (leaseLimit pool).toNat ≤
        activeLeaseCount (pruneExpiredLeasesLocked clock c.router) poolId := by
    rw [hready, ← hlimit, ← Int.natCast_mul, Int.ofNat_le, Int.toNat_natCast]
  have hreport : (saturationFor (findingSupervisor host) clock poolId c.router
      c.supervisor).1.atSaturation = (decide (0 < pool.instances.countP EndpointInstance.serving) &&
        decide ((pool.instances.countP EndpointInstance.serving : Int) * leaseLimit pool ≤
          activeLeaseCount (pruneExpiredLeasesLocked clock c.router) poolId)) := by
    have hfound : ((findingSupervisor host).findPool poolId c.supervisor).1 = some pool := hpool
    simp only [saturationFor, hfound]
    rfl
  rw [hreport, Bool.and_eq_true, decide_eq_true_eq, decide_eq_true_eq, hcapacity,
    and_iff_right hserving]
  rw [hid] at hsum
  omega

/-- The registered pool of one instance, and a session on it. -/
def leasedState : LeasingState :=
  (leasingSystem 900).run (leasingSystem 900).init
    [.supervisor ⟨workingHost, .upsertPool singlePool⟩,
      .acquireLease (acquireOn workingHost { poolId := "p", sessionId := "s" })]

/-- The first instance has exited, and a launch works. -/
def crashedHost : Host :=
  { workingHost with
    exitCode := fun id => if id = instanceIdOf "p" 1 then some 1 else some stillActive }

theorem reachable_leasedState : (leasingSystem 900).Reachable leasedState :=
  TransitionSystem.Reachable.run TransitionSystem.ReachableBy.init _

/-- The pool as a query finds it. -/
def poolOn (host : Host) : ManagedEndpointPool :=
  ((findPool host "p" leasedState.supervisor).1).getD singlePool

end Leasing
end MasterControl
