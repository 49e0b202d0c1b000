import MasterControl.Supervisor.Model

/-!
# The lease router

`LeaseRouter` keeps three maps: the leases by id, the sticky sessions by the joined text
`poolId::sessionId`, and the last activity of each lease.  It asks the worker supervisor
for a pool and, when no instance has headroom, for one more instance.

The supervisor is a parameter, `IWorkerSupervisor σ`, over a state `σ` of its own; the
router calls it while it holds its lock, so one acquire is one function of the router's
state and the supervisor's.  One reading of the clock serves a whole locked section.
-/

namespace MasterControl
namespace Leasing

open Foundation Supervisor

/-! ## Records -/

inductive LeaseState where
  | active
  | released
  | failed
  deriving DecidableEq

structure LeaseRequest where
  poolId : String
  sessionId : String := ""
  stateful : Bool := false
  clientIpAddress : String := ""
  clientType : String := ""
  deriving DecidableEq

structure EndpointLease where
  leaseId : String := ""
  poolId : String := ""
  instanceId : String := ""
  sessionId : String := ""
  state : LeaseState := .active
  acquiredAtUtc : String := ""
  releasedAtUtc : String := ""
  statusMessage : String := ""
  clientIpAddress : String := ""
  clientType : String := ""
  deriving DecidableEq

structure PoolSaturation where
  poolId : String
  instanceCount : Nat := 0
  readyInstanceCount : Nat := 0
  drainingInstanceCount : Nat := 0
  activeLeaseCount : Nat := 0
  maxActiveLeasesPerInstance : Int := 1
  atSaturation : Bool := false
  atMaxInstances : Bool := false
  deriving DecidableEq

/-- What the router uses of the worker supervisor. -/
structure IWorkerSupervisor (σ : Type) where
  findPool : String → σ → Option ManagedEndpointPool × σ
  /-- The id of the new instance; empty if none was started. -/
  scaleUpOnce : String → σ → String × σ

/-- The clock readings of one locked section. -/
structure RouterClock where
  steadyNow : TimePoint
  utcNow : String

/-- The state `mutex_` guards, and the idle window. -/
structure LeaseRouter where
  leases : OrdMap String EndpointLease := OrdMap.empty
  stickySessions : OrdMap String String := OrdMap.empty
  leaseActivity : OrdMap String TimePoint := OrdMap.empty
  nextLeaseSerial : Nat := 1
  leaseIdleTimeout : TimePoint

/-- The constructor: a negative window counts as zero. -/
def LeaseRouter.create (idleTimeoutSeconds : Int) : LeaseRouter :=
  { leaseIdleTimeout := seconds (max 0 idleTimeoutSeconds) }

def stickyKey (poolId sessionId : String) : String := poolId ++ "::" ++ sessionId

/-- The id of the lease with a given serial. -/
def leaseIdOf (serial : Nat) : String := "lease-" ++ toString serial

/-! ## Releasing and sweeping -/

/-- A lease record once it is released. -/
def EndpointLease.release (clock : RouterClock) (message : String) (lease : EndpointLease) :
    EndpointLease :=
  { lease with state := .released, releasedAtUtc := clock.utcNow, statusMessage := message }

/-- What `releaseLease` and the sweep do to an Active lease: release the record, drop the
session's sticky entry, stamp the time. -/
def markReleased (clock : RouterClock) (leaseId : String) (lease : EndpointLease)
    (message : String) (r : LeaseRouter) : LeaseRouter :=
  { r with
    leases := r.leases.insert leaseId (lease.release clock message)
    stickySessions :=
      if lease.sessionId = "" then r.stickySessions
      else r.stickySessions.erase (stickyKey lease.poolId lease.sessionId)
    leaseActivity := r.leaseActivity.insert leaseId clock.steadyNow }

/-- Whether a lease has seen no activity for the whole idle window. -/
def idleExpired (clock : RouterClock) (r : LeaseRouter) (leaseId : String) : Bool :=
  r.leaseIdleTimeout ≤
    clock.steadyNow - (r.leaseActivity.find? leaseId).getD clock.steadyNow

/-- The sweep at one lease: an idle Active lease expires, an old Released one goes. -/
def pruneLease (clock : RouterClock) (r : LeaseRouter) (leaseId : String) : LeaseRouter :=
  match r.leases.find? leaseId with
  | none => r
  | some lease =>
    if idleExpired clock r leaseId then
      if lease.state = .active then
        markReleased clock leaseId lease
          "Lease expired after the idle timeout with no session activity." r
      else
        { r with
          leases := r.leases.erase leaseId
          leaseActivity := r.leaseActivity.erase leaseId }
    else r

def pruneExpiredLeasesLocked (clock : RouterClock) (r : LeaseRouter) : LeaseRouter :=
  r.leases.keys.foldl (pruneLease clock) r

/-! ## Acquiring -/

/-- Whether a pool lists an instance as Ready or Busy. -/
def boundInstanceLive (pool : ManagedEndpointPool) (instanceId : String) : Bool :=
  pool.instances.any fun i => i.instanceId = instanceId && i.serving

/-- The sticky branch when it reuses a lease: the session's lease, with the id it is
filed under, if it is Active and its instance is live. -/
def reusableLease (r : LeaseRouter) (pool : ManagedEndpointPool) (request : LeaseRequest) :
    Option (String × EndpointLease) :=
  if request.sessionId = "" then none
  else
    match r.stickySessions.find? (stickyKey request.poolId request.sessionId) with
    | none => none
    | some leaseId =>
      match r.leases.find? leaseId with
      | none => none
      | some lease =>
        if lease.state = .active && boundInstanceLive pool lease.instanceId then
          some (leaseId, lease)
        else none

/-- The sticky branch when it does not: a stale entry goes, and an Active lease behind it
is released. -/
def dropStaleSticky (clock : RouterClock) (request : LeaseRequest) (r : LeaseRouter) :
    LeaseRouter :=
  if request.sessionId = "" then r
  else
    match r.stickySessions.find? (stickyKey request.poolId request.sessionId) with
    | none => r
    | some leaseId =>
      let r : LeaseRouter :=
        match r.leases.find? leaseId with
        | none => r
        | some lease =>
          if lease.state = .active then
            { r with
              leases := r.leases.insert leaseId (lease.release clock
                "Sticky lease released: bound instance is no longer live; session rebinds.")
              leaseActivity := r.leaseActivity.insert leaseId clock.steadyNow }
          else r
      { r with
        stickySessions := r.stickySessions.erase (stickyKey request.poolId request.sessionId) }

/-- How many Active leases a pool's instance carries. -/
def activeLoad (r : LeaseRouter) (poolId instanceId : String) : Nat :=
  r.leases.entries.countP fun entry =>
    entry.2.poolId = poolId && entry.2.state = LeaseState.active && entry.2.instanceId = instanceId

/-- One turn of the search for the least loaded instance. -/
def betterChoice (r : LeaseRouter) (pool : ManagedEndpointPool) (maxLeasesPerInstance : Int)
    (best : Option (String × Nat)) (i : EndpointInstance) : Option (String × Nat) :=
  let load := activeLoad r pool.poolId i.instanceId
  if !i.serving then best
  else if maxLeasesPerInstance ≤ load then best
  else
    match best with
    | none => some (i.instanceId, load)
    | some (_, bestLoad) => if load < bestLoad then some (i.instanceId, load) else best

def selectLeastLoadedReadyLocked (r : LeaseRouter) (pool : ManagedEndpointPool)
    (maxLeasesPerInstance : Int) : Option String :=
  (pool.instances.foldl (betterChoice r pool maxLeasesPerInstance) none).map Prod.fst

/-- `maxActiveLeasesPerInstance`, at least one. -/
def leaseLimit (pool : ManagedEndpointPool) : Int :=
  max 1 pool.scalePolicy.maxActiveLeasesPerInstance

/-- The lease `bindLeaseLocked` creates. -/
def boundLease (clock : RouterClock) (poolId instanceId : String) (request : LeaseRequest)
    (scaleOutTriggered : Bool) (r : LeaseRouter) : EndpointLease where
  leaseId := leaseIdOf r.nextLeaseSerial
  poolId := poolId
  instanceId := instanceId
  state := .active
  acquiredAtUtc := clock.utcNow
  -- a request without a session id leaves the field empty, whether stateful or not
  sessionId := if request.stateful || request.sessionId ≠ "" then request.sessionId else ""
  clientIpAddress := request.clientIpAddress
  clientType := request.clientType
  statusMessage :=
    if scaleOutTriggered then "Lease bound to freshly-spawned instance after pool scale-out."
    else "Lease bound to least-loaded Ready instance."

@[simp] theorem boundLease_sessionId (clock : RouterClock) (poolId instanceId : String)
    (request : LeaseRequest) (scaleOut : Bool) (r : LeaseRouter) :
    (boundLease clock poolId instanceId request scaleOut r).sessionId = request.sessionId := by
  show (if request.stateful || request.sessionId ≠ "" then request.sessionId else "") = _
  by_cases hs : request.sessionId = ""
  · rw [hs, ite_self]
  · rw [decide_eq_true hs, Bool.or_true, if_pos rfl]

def bindLeaseLocked (clock : RouterClock) (poolId instanceId : String) (request : LeaseRequest)
    (scaleOutTriggered : Bool) (r : LeaseRouter) : EndpointLease × LeaseRouter :=
  let lease := boundLease clock poolId instanceId request scaleOutTriggered r
  (lease,
    { r with
      leases := r.leases.insert lease.leaseId lease
      stickySessions :=
        if lease.sessionId = "" then r.stickySessions
        else r.stickySessions.insert (stickyKey poolId lease.sessionId) lease.leaseId
      leaseActivity := r.leaseActivity.insert lease.leaseId clock.steadyNow
      nextLeaseSerial := r.nextLeaseSerial + 1 })

/-- The lease an acquire returns when it could not bind one. -/
def failedLease (poolId message : String) : EndpointLease :=
  { poolId := poolId, state := .failed, statusMessage := message }

/-- An acquire after the sweep, once the pool is known. -/
def acquireFromPool {σ : Type} (supervisor : IWorkerSupervisor σ) (clock : RouterClock)
    (request : LeaseRequest) (pool : ManagedEndpointPool) (r : LeaseRouter) (s : σ) :
    EndpointLease × LeaseRouter × σ :=
  match reusableLease r pool request with
  | some (leaseId, lease) =>
    (lease, { r with leaseActivity := r.leaseActivity.insert leaseId clock.steadyNow }, s)
  | none =>
    let r := dropStaleSticky clock request r
    match selectLeastLoadedReadyLocked r pool (leaseLimit pool) with
    | some instanceId =>
      let bound := bindLeaseLocked clock pool.poolId instanceId request false r
      (bound.1, bound.2, s)
    | none =>
      let started := supervisor.scaleUpOnce request.poolId s
      if started.1 ≠ "" then
        let bound := bindLeaseLocked clock pool.poolId started.1 request true r
        (bound.1, bound.2, started.2)
      else
        (failedLease pool.poolId
          "Pool saturated; at scalePolicy.maxInstances. Retry after existing leases release.",
          r, started.2)

def acquireLease {σ : Type} (supervisor : IWorkerSupervisor σ) (clock : RouterClock)
    (request : LeaseRequest) (r : LeaseRouter) (s : σ) : EndpointLease × LeaseRouter × σ :=
  if request.poolId = "" then
    (failedLease "" "LeaseRequest is missing poolId.", r, s)
  else
    let r := pruneExpiredLeasesLocked clock r
    let found := supervisor.findPool request.poolId s
    match found.1 with
    | none => (failedLease request.poolId "Unknown pool.", r, found.2)
    | some pool => acquireFromPool supervisor clock request pool r found.2

/-! ## The other operations -/

def releaseLease (clock : RouterClock) (leaseId reason : String) (r : LeaseRouter) :
    OperationResult × LeaseRouter :=
  match r.leases.find? leaseId with
  | none => (⟨false, false, "Unknown lease id."⟩, r)
  | some lease =>
    if lease.state ≠ .active then (⟨true, false, "Lease already released."⟩, r)
    else
      (⟨true, false, "Lease released."⟩,
        markReleased clock leaseId lease (if reason = "" then "Lease released." else reason) r)

/-- The Active leases of a pool, oldest first. -/
def activeLeases (clock : RouterClock) (poolId : String) (r : LeaseRouter) :
    List EndpointLease × LeaseRouter :=
  let r := pruneExpiredLeasesLocked clock r
  ((r.leases.entries.map Prod.snd).filter (fun lease =>
      lease.poolId = poolId && lease.state = LeaseState.active) |>.mergeSort
        fun a b => a.acquiredAtUtc ≤ b.acquiredAtUtc, r)

def saturationFor {σ : Type} (supervisor : IWorkerSupervisor σ) (clock : RouterClock)
    (poolId : String) (r : LeaseRouter) (s : σ) : PoolSaturation × LeaseRouter × σ :=
  let r := pruneExpiredLeasesLocked clock r
  let found := supervisor.findPool poolId s
  match found.1 with
  | none => ({ poolId := poolId }, r, found.2)
  | some pool =>
    let ready := pool.instances.countP EndpointInstance.serving
    let active := r.leases.entries.countP fun entry =>
      entry.2.poolId = poolId && entry.2.state = LeaseState.active
    ({ poolId := poolId
       instanceCount := pool.instances.length
       readyInstanceCount := ready
       drainingInstanceCount := pool.instances.countP fun i => i.state = .draining
       activeLeaseCount := active
       maxActiveLeasesPerInstance := leaseLimit pool
       atSaturation := 0 < ready && (ready : Int) * leaseLimit pool ≤ active
       atMaxInstances := max 0 pool.scalePolicy.maxInstances ≤ pool.instances.length },
      r, found.2)

/-! ## What an acquire can do -/

section Acquire

variable {σ : Type} (supervisor : IWorkerSupervisor σ) (clock : RouterClock)
  (request : LeaseRequest) (pool : ManagedEndpointPool) (r : LeaseRouter) (s : σ)

/-- A request that is not served from the session's own lease and finds no instance with
headroom: it goes to the supervisor for one more. -/
def asksForScaleOut : Prop :=
  reusableLease r pool request = none ∧
    selectLeastLoadedReadyLocked (dropStaleSticky clock request r) pool (leaseLimit pool) = none

/-- **The four ways an acquire ends once the pool is known**: it reuses the session's
lease, or binds a new one to the least loaded instance, or to a new instance, or fails. -/
theorem acquireFromPool_cases :
    (∃ leaseId lease, reusableLease r pool request = some (leaseId, lease) ∧
      acquireFromPool supervisor clock request pool r s =
        (lease, { r with leaseActivity := r.leaseActivity.insert leaseId clock.steadyNow }, s)) ∨
    (∃ instanceId, reusableLease r pool request = none ∧
      selectLeastLoadedReadyLocked (dropStaleSticky clock request r) pool (leaseLimit pool) =
        some instanceId ∧
      acquireFromPool supervisor clock request pool r s =
        ((bindLeaseLocked clock pool.poolId instanceId request false
            (dropStaleSticky clock request r)).1,
          (bindLeaseLocked clock pool.poolId instanceId request false
            (dropStaleSticky clock request r)).2, s)) ∨
    (asksForScaleOut clock request pool r ∧
      (supervisor.scaleUpOnce request.poolId s).1 ≠ "" ∧
      acquireFromPool supervisor clock request pool r s =
        ((bindLeaseLocked clock pool.poolId (supervisor.scaleUpOnce request.poolId s).1 request
            true (dropStaleSticky clock request r)).1,
          (bindLeaseLocked clock pool.poolId (supervisor.scaleUpOnce request.poolId s).1 request
            true (dropStaleSticky clock request r)).2,
          (supervisor.scaleUpOnce request.poolId s).2)) ∨
    (asksForScaleOut clock request pool r ∧
      (supervisor.scaleUpOnce request.poolId s).1 = "" ∧
      acquireFromPool supervisor clock request pool r s =
        (failedLease pool.poolId
          "Pool saturated; at scalePolicy.maxInstances. Retry after existing leases release.",
          dropStaleSticky clock request r, (supervisor.scaleUpOnce request.poolId s).2)) := by
  unfold acquireFromPool
  cases hreuse : reusableLease r pool request with
  | some entry => exact Or.inl ⟨entry.1, entry.2, rfl, rfl⟩
  | none =>
    right
    dsimp only
    cases hchoice : selectLeastLoadedReadyLocked (dropStaleSticky clock request r) pool
        (leaseLimit pool) with
    | some instanceId => exact Or.inl ⟨instanceId, rfl, rfl, rfl⟩
    | none =>
      right
      dsimp only
      by_cases hid : (supervisor.scaleUpOnce request.poolId s).1 = ""
      · rw [if_neg (not_not.mpr hid)]
        exact Or.inr ⟨⟨hreuse, hchoice⟩, hid, rfl⟩
      · rw [if_pos hid]
        exact Or.inl ⟨⟨hreuse, hchoice⟩, hid, rfl⟩

end Acquire

end Leasing
end MasterControl
