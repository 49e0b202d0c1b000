import MasterControl.Leasing.Bookkeeping
import MasterControl.Supervisor.Runs

/-!
# Leases and live instances

The router over the worker supervisor (`leasingSystem`).  A run is any sequence of
supervisor steps and router calls; the router asks the supervisor twice during an
acquire, and other threads may have their turn with the supervisor in between.

A lease is handed out on the evidence of the pool snapshot when it is reused or bound to
the least loaded instance, and on the word of `scaleUpOnce` otherwise.  The first
evidence is good.  `scaleUpOnce` returns the id of whatever `startInstanceLocked`
produced, a Failed instance included, so an acquire hands out an Active lease on a dead
instance exactly when it gets to `scaleUpOnce` and the launch fails
(`active_lease_serving_iff`).
-/

namespace MasterControl
namespace Leasing

open Foundation Supervisor Relation

variable {host : Host} {s : WorkerSupervisor} {p : String} {r : LeaseRouter}

/-! ## The router over the supervisor -/

/-- The state of the leasing subsystem. -/
structure LeasingState where
  supervisor : WorkerSupervisor
  router : LeaseRouter

/-- An acquire with all it meets: the router's clock, the machine during `findPool`, the
turns other threads take with the supervisor, and the machine during `scaleUpOnce`. -/
structure AcquireCall where
  clock : RouterClock
  findHost : Host
  meanwhile : List SupervisorStep := []
  scaleHost : Host
  request : LeaseRequest

/-- The supervisor as this acquire meets it. -/
def AcquireCall.supervisor (call : AcquireCall) : IWorkerSupervisor WorkerSupervisor where
  findPool := findPool call.findHost
  scaleUpOnce p s := scaleUpOnce call.scaleHost p (supervisorSystem.run s call.meanwhile)

/-- The lease an acquire returns, and the state it leaves. -/
def AcquireCall.answer (call : AcquireCall) (c : LeasingState) : EndpointLease × LeasingState :=
  let result := acquireLease call.supervisor call.clock call.request c.router c.supervisor
  (result.1, ⟨result.2.2, result.2.1⟩)

inductive LeasingStep where
  | supervisor (step : SupervisorStep)
  | acquireLease (call : AcquireCall)
  | releaseLease (clock : RouterClock) (leaseId reason : String)
  | activeLeases (clock : RouterClock) (poolId : String)
  | saturationFor (clock : RouterClock) (host : Host) (poolId : String)

def performLeasing (c : LeasingState) : LeasingStep → LeasingState
  | .supervisor step => { c with supervisor := perform c.supervisor step }
  | .acquireLease call => (call.answer c).2
  | .releaseLease clock leaseId reason =>
    { c with router := (releaseLease clock leaseId reason c.router).2 }
  | .activeLeases clock poolId => { c with router := (activeLeases clock poolId c.router).2 }
  | .saturationFor clock host poolId =>
    let result := saturationFor
      { findPool := findPool host, scaleUpOnce := fun _ s => ("", s) }
      clock poolId c.router c.supervisor
    { supervisor := result.2.2, router := result.2.1 }

def leasingSystem (idleTimeoutSeconds : Int) : TransitionSystem LeasingState LeasingStep where
  init := { supervisor := {}, router := LeaseRouter.create idleTimeoutSeconds }
  step := performLeasing

/-! ## The pool snapshot -/

theorem findPool_eq_some {pool : ManagedEndpointPool} (h : (findPool host p s).1 = some pool) :
    ∃ known, (findPool host p s).2.pools.find? p = some known ∧
      pool.poolId = known.poolId ∧ pool.instances = known.instances := by
  obtain ⟨known, hknown, rfl⟩ := Option.map_eq_some_iff.mp h
  exact ⟨known, hknown, rfl, rfl⟩

/-- The snapshot lists what the supervisor lists when `findPool` returns. -/
theorem instances_of_findPool {pool : ManagedEndpointPool}
    (h : (findPool host p s).1 = some pool) :
    pool.instances = instancesOf (findPool host p s).2 p := by
  obtain ⟨known, hknown, -, hinst⟩ := findPool_eq_some h
  rw [hinst, instancesOf_of_find? hknown]

/-- **The supervisor answers with the pool asked for**, whose id it has checked. -/
theorem truthful_findPool (h : WellFormed s) {supervisor : IWorkerSupervisor WorkerSupervisor}
    (hfind : supervisor.findPool = findPool host) : Truthful supervisor s := by
  intro p pool hp
  rw [hfind] at hp
  obtain ⟨known, hknown, hid, -⟩ := findPool_eq_some hp
  have hpass : WellFormed (reapDeadInstancesLocked host s) := h.reapDeadInstancesLocked
  obtain ⟨hp, hvalid⟩ := hpass.registered hknown
  rw [← hp]
  exact ⟨hid, hvalid.safe⟩

theorem wellFormed_run (h : WellFormed s) (steps : List SupervisorStep) :
    WellFormed (supervisorSystem.run s steps) :=
  TransitionSystem.run_invariant (fun _ step hs => hs.perform step) h steps

/-! ## The invariant of the subsystem -/

/-- Both components keep their own invariant. -/
structure LeasingInvariant (c : LeasingState) : Prop where
  tables : WellFormed c.supervisor
  maps : Bookkeeping c.router

theorem wellFormed_scaleUpOnce (h : WellFormed s) (call : AcquireCall) (p : String) :
    WellFormed (call.supervisor.scaleUpOnce p s).2 :=
  (wellFormed_run h call.meanwhile).scaleUpOnce

/-- The supervisor after an acquire. -/
theorem wellFormed_acquireLease (h : WellFormed s) (call : AcquireCall) (r : LeaseRouter) :
    WellFormed (acquireLease call.supervisor call.clock call.request r s).2.2 := by
  have hfound : WellFormed (call.supervisor.findPool call.request.poolId s).2 :=
    h.reapDeadInstancesLocked
  unfold acquireLease
  by_cases hid : call.request.poolId = ""
  · rwa [if_pos hid]
  · rw [if_neg hid]
    dsimp only
    cases (call.supervisor.findPool call.request.poolId s).1 with
    | none => exact hfound
    | some pool =>
      have hscaled := wellFormed_scaleUpOnce hfound call call.request.poolId
      rcases acquireFromPool_cases call.supervisor call.clock call.request pool
        (pruneExpiredLeasesLocked call.clock r) _ with
        ⟨id, lease, -, heq⟩ | ⟨instanceId, -, -, heq⟩ | ⟨-, -, heq⟩ | ⟨-, -, heq⟩
      · dsimp only; rw [heq]; exact hfound
      · dsimp only; rw [heq]; exact hfound
      · dsimp only; rw [heq]; exact hscaled
      · dsimp only; rw [heq]; exact hscaled

theorem LeasingInvariant.step {c : LeasingState} (h : LeasingInvariant c) (step : LeasingStep) :
    LeasingInvariant (performLeasing c step) := by
  obtain ⟨htables, hmaps⟩ := h
  cases step with
  | supervisor step => exact ⟨htables.perform step, hmaps⟩
  | acquireLease call =>
    have htruth : Truthful call.supervisor c.supervisor := truthful_findPool htables rfl
    exact ⟨wellFormed_acquireLease htables call c.router,
      hmaps.moves (hmaps.acquireLease_moves htruth call.request)⟩
  | releaseLease clock leaseId reason =>
    exact ⟨htables, hmaps.moves (releaseLease_moves clock leaseId reason c.router)⟩
  | activeLeases clock poolId =>
    exact ⟨htables, hmaps.moves (pruneExpiredLeasesLocked_moves clock c.router)⟩
  | saturationFor clock host poolId =>
    refine ⟨?_, ?_⟩
    · show WellFormed (saturationFor _ clock poolId c.router c.supervisor).2.2
      unfold saturationFor
      dsimp only
      split <;> exact htables.reapDeadInstancesLocked
    · show Bookkeeping (saturationFor _ clock poolId c.router c.supervisor).2.1
      rw [saturationFor_router]
      exact hmaps.moves (pruneExpiredLeasesLocked_moves clock c.router)

theorem reachable_leasingInvariant {idleTimeoutSeconds : Int} {c : LeasingState}
    {G : LeasingState → LeasingStep → Prop}
    (h : (leasingSystem idleTimeoutSeconds).ReachableBy G c) : LeasingInvariant c :=
  h.invariant ⟨wellFormed_empty, bookkeeping_create _⟩ fun _ step hs _ => hs.step step

/-! ## The evidence of the snapshot -/

theorem exists_serving_of_boundInstanceLive {pool : ManagedEndpointPool} {instanceId : String}
    (h : boundInstanceLive pool instanceId = true) :
    ∃ i ∈ pool.instances, i.instanceId = instanceId ∧ i.serving = true := by
  obtain ⟨i, hi, hboth⟩ := List.any_eq_true.mp h
  rw [Bool.and_eq_true, decide_eq_true_eq] at hboth
  exact ⟨i, hi, hboth.1, hboth.2⟩

/-- The search for the least loaded instance only considers serving ones. -/
theorem exists_serving_of_select {pool : ManagedEndpointPool} {limit : Int}
    {instanceId : String} (h : selectLeastLoadedReadyLocked r pool limit = some instanceId) :
    ∃ i ∈ pool.instances, i.instanceId = instanceId ∧ i.serving = true := by
  have hfold : ∀ l : List EndpointInstance, (∀ i ∈ l, i ∈ pool.instances) →
      ∀ best : Option (String × ℕ),
      (∀ entry, best = some entry →
        ∃ i ∈ pool.instances, i.instanceId = entry.1 ∧ i.serving = true) →
      ∀ entry, l.foldl (betterChoice r pool limit) best = some entry →
        ∃ i ∈ pool.instances, i.instanceId = entry.1 ∧ i.serving = true := by
    intro l
    induction l with
    | nil => intro _ best hbest; exact hbest
    | cons i l ih =>
      intro hl best hbest
      refine ih (fun j hj => hl j (List.mem_cons_of_mem _ hj)) _ fun entry hentry => ?_
      unfold betterChoice at hentry
      dsimp only at hentry
      split_ifs at hentry with hserving hfull
      · exact hbest entry hentry
      · exact hbest entry hentry
      · -- the turn takes this instance, which serves, or keeps the best so far
        have hthis : ∃ j ∈ pool.instances, j.instanceId = i.instanceId ∧ j.serving = true :=
          ⟨i, hl i List.mem_cons_self, rfl, by simpa using hserving⟩
        cases best with
        | none =>
          cases hentry
          exact hthis
        | some old =>
          dsimp only at hentry
          split_ifs at hentry
          · cases hentry
            exact hthis
          · exact hbest entry hentry
  obtain ⟨entry, hentry, rfl⟩ := Option.map_eq_some_iff.mp h
  exact hfold pool.instances (fun _ hi => hi) none (fun _ hnone => by cases hnone) entry hentry

/-! ## The word of `scaleUpOnce` -/

theorem instanceIdOf_ne_empty (p : String) (k : ℕ) : instanceIdOf p k ≠ "" := by
  intro h
  have hlist := congrArg String.toList h
  simp [instanceIdOf, String.toList_append] at hlist

/-- `scaleUpOnce` has room for one more instance and its launch fails. -/
def LaunchFails (host : Host) (p : String) (s : WorkerSupervisor) : Prop :=
  s.shuttingDown = false ∧ ∃ pool, (reapDeadInstancesLocked host s).pools.find? p = some pool ∧
    (healthyInstanceCountLocked pool : ℤ) < max 0 pool.scalePolicy.maxInstances ∧
    launchSucceeds (host.launch (reapDeadInstancesLocked host s).nextInstanceSerial)
      pool.template = false

/-- Whether the instance that `scaleUpOnce` names is serving depends on the launch. -/
theorem scaleUpOnce_serving_iff (h : WellFormed s) (hid : (scaleUpOnce host p s).1 ≠ "") :
    (∃ i ∈ instancesOf (scaleUpOnce host p s).2 p,
      i.instanceId = (scaleUpOnce host p s).1 ∧ i.serving = true) ↔ ¬ LaunchFails host p s := by
  have hafter : WellFormed (scaleUpOnce host p s).2 := h.scaleUpOnce
  rcases scaleUpOnce_cases host p s with heq | heq | ⟨pool, hp, hshut, hroom, heq⟩
  · rw [heq] at hid; exact absurd rfl hid
  · rw [heq] at hid; exact absurd rfl hid
  rw [heq] at hafter ⊢
  have hlisted : (startInstanceLocked host pool (reapDeadInstancesLocked host s)).1 ∈
      instancesOf (modifyPool p (fun pool => { pool with updatedAtUtc := host.utcNow })
        (spawnOne host p (reapDeadInstancesLocked host s))) p := by
    rw [instancesOf_touch, instancesOf_spawnOne hp, if_pos rfl]
    exact List.mem_append_right _ (List.mem_singleton_self _)
  have hserving := startInstanceLocked_serving host (reapDeadInstancesLocked host s) pool
  constructor
  · rintro ⟨i, hi, hiid, hiserving⟩ ⟨-, pool', hp', -, hfails⟩
    rw [hp] at hp'
    cases hp'
    obtain ⟨-, rfl⟩ := hafter.eq_of_instanceId_eq hi hlisted hiid
    rw [hserving, hfails] at hiserving
    cases hiserving
  · intro hworks
    refine ⟨_, hlisted, rfl, ?_⟩
    rw [hserving]
    by_contra hfails
    exact hworks ⟨hshut, pool, hp, hroom, by simpa using hfails⟩

theorem scaleUpOnce_ne_empty_of_launchFails (h : LaunchFails host p s) :
    (scaleUpOnce host p s).1 ≠ "" := by
  obtain ⟨hshut, pool, hp, hroom, -⟩ := h
  rw [scaleUpOnce, hshut, if_neg Bool.false_ne_true]
  dsimp only
  rw [hp]
  dsimp only
  rw [if_neg (not_le.mpr hroom), startInstanceLocked_instanceId]
  exact instanceIdOf_ne_empty _ _

/-! ## Active leases -/

/-- The lease names an instance that the pool lists as Ready or Busy. -/
def NamesServingInstance (c : LeasingState) (poolId : String) (lease : EndpointLease) : Prop :=
  ∃ i ∈ instancesOf c.supervisor poolId, i.instanceId = lease.instanceId ∧ i.serving = true

/-- The acquire gets to `scaleUpOnce`, which has room for an instance, and the launch of
that instance fails. -/
def ScaleOutLaunchFails (call : AcquireCall) (c : LeasingState) : Prop :=
  call.request.poolId ≠ "" ∧
  ∃ pool, (findPool call.findHost call.request.poolId c.supervisor).1 = some pool ∧
    asksForScaleOut call.clock call.request pool (pruneExpiredLeasesLocked call.clock c.router) ∧
    LaunchFails call.scaleHost call.request.poolId
      (supervisorSystem.run (findPool call.findHost call.request.poolId c.supervisor).2
        call.meanwhile)

/-- Once the pool is known, the failure is one of the acquire from it. -/
theorem scaleOutLaunchFails_iff {call : AcquireCall} {c : LeasingState}
    {pool : ManagedEndpointPool} (hid : call.request.poolId ≠ "")
    (hpool : (findPool call.findHost call.request.poolId c.supervisor).1 = some pool) :
    ScaleOutLaunchFails call c ↔
      asksForScaleOut call.clock call.request pool
        (pruneExpiredLeasesLocked call.clock c.router) ∧
      LaunchFails call.scaleHost call.request.poolId
        (supervisorSystem.run (findPool call.findHost call.request.poolId c.supervisor).2
          call.meanwhile) := by
  constructor
  · rintro ⟨-, pool', hpool', hasks, hfails⟩
    rw [hpool] at hpool'
    cases hpool'
    exact ⟨hasks, hfails⟩
  · rintro ⟨hasks, hfails⟩
    exact ⟨hid, pool, hpool, hasks, hfails⟩

theorem answer_of_known {call : AcquireCall} {c : LeasingState} {pool : ManagedEndpointPool}
    (hid : call.request.poolId ≠ "")
    (hpool : (findPool call.findHost call.request.poolId c.supervisor).1 = some pool) :
    call.answer c =
      let result := acquireFromPool call.supervisor call.clock call.request pool
        (pruneExpiredLeasesLocked call.clock c.router)
        (findPool call.findHost call.request.poolId c.supervisor).2
      (result.1, ⟨result.2.2, result.2.1⟩) := by
  have hfound : (call.supervisor.findPool call.request.poolId c.supervisor).1 = some pool := hpool
  simp only [AcquireCall.answer, acquireLease, if_neg hid, hfound]
  rfl

/-- **When an Active lease is good.**  In every reachable state, the lease an acquire
returns, if Active, names an instance of the requested pool that is Ready or Busy as the
call returns, unless the acquire goes to `scaleUpOnce` and the launch fails; then it does
not. -/
theorem active_lease_serving_iff {idleTimeoutSeconds : Int} {c : LeasingState}
    (h : (leasingSystem idleTimeoutSeconds).Reachable c) (call : AcquireCall) :
    ((call.answer c).1.state = .active →
        NamesServingInstance (call.answer c).2 call.request.poolId (call.answer c).1) ↔
      ¬ ScaleOutLaunchFails call c := by
  have htables := (reachable_leasingInvariant h).tables
  by_cases hid : call.request.poolId = ""
  · have hfailed : (call.answer c).1.state = .failed := by
      simp only [AcquireCall.answer, acquireLease, if_pos hid, failedLease]
    rw [hfailed]
    exact ⟨fun _ hfails => hfails.1 hid, fun _ hactive => by cases hactive⟩
  cases hpool : (findPool call.findHost call.request.poolId c.supervisor).1 with
  | none =>
    have hfound : (call.supervisor.findPool call.request.poolId c.supervisor).1 = none := hpool
    have hfailed : (call.answer c).1.state = .failed := by
      simp only [AcquireCall.answer, acquireLease, if_neg hid, hfound, failedLease]
    rw [hfailed]
    refine ⟨?_, fun _ hactive => by cases hactive⟩
    rintro - ⟨-, pool, hsome, -⟩
    rw [hpool] at hsome
    cases hsome
  | some pool =>
    have hlist := instances_of_findPool hpool
    have hfound : WellFormed (findPool call.findHost call.request.poolId c.supervisor).2 :=
      htables.reapDeadInstancesLocked
    have hlater := wellFormed_run hfound call.meanwhile
    rw [answer_of_known hid hpool, scaleOutLaunchFails_iff hid hpool]
    dsimp only
    rcases acquireFromPool_cases call.supervisor call.clock call.request pool
        (pruneExpiredLeasesLocked call.clock c.router)
        (findPool call.findHost call.request.poolId c.supervisor).2 with
      ⟨leaseId, lease, hreuse, heq⟩ | ⟨instanceId, hnone, hchoice, heq⟩ |
        ⟨hasks, hne, heq⟩ | ⟨hasks, hempty, heq⟩
    · -- the session's own lease, on an instance the snapshot lists as serving
      obtain ⟨-, -, -, -, hlive⟩ := reusableLease_eq_some.mp hreuse
      obtain ⟨i, hi, hserves⟩ := exists_serving_of_boundInstanceLive hlive
      rw [heq]
      refine ⟨?_, fun _ _ => ⟨i, hlist ▸ hi, hserves⟩⟩
      rintro - ⟨⟨hnone, -⟩, -⟩
      rw [hreuse] at hnone
      cases hnone
    · -- the least loaded instance of the snapshot
      obtain ⟨i, hi, hserves⟩ := exists_serving_of_select hchoice
      rw [heq]
      refine ⟨?_, fun _ _ => ⟨i, hlist ▸ hi, hserves⟩⟩
      rintro - ⟨⟨-, hfull⟩, -⟩
      rw [hchoice] at hfull
      cases hfull
    · -- whatever `scaleUpOnce` started
      rw [heq]
      have hiff := scaleUpOnce_serving_iff hlater hne
      constructor
      · rintro hserves ⟨-, hfails⟩
        exact hiff.mp (hserves rfl) hfails
      · intro hgood _
        exact hiff.mpr fun hfails => hgood ⟨hasks, hfails⟩
    · rw [heq]
      refine ⟨?_, fun _ hactive => by cases hactive⟩
      rintro - ⟨-, hfails⟩
      exact scaleUpOnce_ne_empty_of_launchFails hfails hempty

/-! ### One worker on demand, with and without its executable -/

/-- A pool that starts a worker only when a lease asks for one. -/
def onDemandPool : ManagedEndpointPool :=
  { poolId := "p", template := { executable := "worker.exe" },
    scalePolicy := { minInstances := 0, maxInstances := 1 } }

/-- The pool is registered. -/
def registeredState : LeasingState :=
  (leasingSystem 900).run (leasingSystem 900).init
    [.supervisor ⟨workingHost, .upsertPool onDemandPool⟩]

/-- One acquire on one machine. -/
def acquireOn (host : Host) (request : LeaseRequest) : AcquireCall :=
  { clock := someClock, findHost := host, scaleHost := host, request := request }

theorem reachable_registeredState : (leasingSystem 900).Reachable registeredState :=
  TransitionSystem.Reachable.run TransitionSystem.ReachableBy.init _

theorem active_lease_serving_on_working_host :
    NamesServingInstance ((acquireOn workingHost { poolId := "p" }).answer registeredState).2 "p"
      ((acquireOn workingHost { poolId := "p" }).answer registeredState).1 := by
  refine (active_lease_serving_iff reachable_registeredState
    (acquireOn workingHost { poolId := "p" })).mpr ?_ (by decide)
  rintro ⟨-, -, -, -, -, pool, hpool, -, hfails⟩
  have htemplate : some pool.template = some onDemandPool.template :=
    (congrArg (Option.map ManagedEndpointPool.template) hpool).symm.trans rfl
  rw [Option.some.inj htemplate] at hfails
  exact absurd hfails (by decide)

theorem active_lease_on_failed_instance :
    ¬ ∀ (c : LeasingState) (call : AcquireCall), (leasingSystem 900).Reachable c →
      (call.answer c).1.state = .active →
        NamesServingInstance (call.answer c).2 call.request.poolId (call.answer c).1 := by
  intro h
  obtain ⟨i, hi, -, hserving⟩ := h registeredState (acquireOn bareHost { poolId := "p" })
    reachable_registeredState (by decide)
  have hnone : ∀ i ∈ instancesOf
      ((acquireOn bareHost { poolId := "p" }).answer registeredState).2.supervisor "p",
      i.serving = false := by decide
  rw [hnone i hi] at hserving
  cases hserving

end Leasing
end MasterControl
