import MasterControl.Supervisor.Model
import Mathlib.Logic.Function.Iterate

/-!
# The worker supervisor: operations

Each definition is one function of `WorkerSupervisor` run under `mutex_`, as a
function of the state and of the `Host` that answers its system calls.

The reap pass is a fold of one small move, `reapInstance`, over the instances of
every pool, followed by a fold of `respawnPool` over the pools; `ensureMinInstances`
and `scaleUpOnce` run the same pass first.  So everything that ever happens to the
instance tables is `removeDead`, `spawnOne`, a drain, a termination, or the clean-up
after a failed write on a child's stdin.
-/

namespace MasterControl
namespace Supervisor

open Foundation

/-! ## Starting an instance -/

/-- `resolveWorkerExecutable`: an empty name never resolves. -/
def resolveWorkerExecutable (answers : LaunchAnswers) (executable : String) :
    Option ResolvedExecutable :=
  if executable = "" then none else answers.searchExecutable executable

/-- Whether the executable is a batch script, which `cmd.exe` launches. -/
def launchesViaCmd (exe : ResolvedExecutable) : Bool :=
  let extension := exe.extension.toList.map Char.toLower
  extension = ".cmd".toList || extension = ".bat".toList

/-- The first argument that `cmd.exe` would read as command syntax. -/
def rejectedArgument (args : List String) : Option String :=
  args.find? fun arg => arg.toList.any fun c => c ∈ "&|<>^\r\n".toList

/-- How a launch attempt ends. -/
inductive LaunchOutcome where
  /-- No process runs; the text is the instance's status message. -/
  | refused (message : String)
  /-- A process runs under its job object, with or without a stdio bridge. -/
  | started (processId : Nat) (bridgeAvailable : Bool)
  deriving DecidableEq

/-- The exits of `startInstanceLocked`, in the order the source takes them. -/
def launchOutcome (answers : LaunchAnswers) (template : EndpointTemplate) : LaunchOutcome :=
  match resolveWorkerExecutable answers template.executable with
  | none =>
    .refused <|
      if template.executable = "" then
        "Pool template executable is empty; no worker process was spawned."
      else
        "Pool template executable '" ++ template.executable ++
          "' was not found (checked as absolute/relative path and via Windows " ++
          "PATH search with .exe/.cmd/.bat probing); no worker process was spawned."
  | some exe =>
    match if launchesViaCmd exe then rejectedArgument template.args else none with
    | some arg =>
      .refused <|
        "Pool template argument '" ++ arg ++ "' contains cmd control " ++
          "characters (& | < > ^) that cannot be passed safely to a " ++
          ".cmd/.bat worker; no worker process was spawned."
    | none =>
      if !answers.createJobObject then
        .refused "CreateJobObjectW failed; refusing to start an unsupervised worker."
      else if !answers.setInformationJobObject then
        .refused "SetInformationJobObject failed; refusing to start an unsupervised worker."
      else if !answers.allocateEnvironmentBlock then
        .refused "Failed to allocate worker environment block."
      else
        match answers.createProcess with
        | none => .refused "CreateProcessW failed for the configured pool template."
        | some processId =>
          if !answers.assignProcessToJobObject then
            .refused
              "AssignProcessToJobObject failed; worker was terminated before entering Ready."
          else .started processId answers.createPipes

/-- Whether a launch attempt leaves a running worker. -/
def launchSucceeds (answers : LaunchAnswers) (template : EndpointTemplate) : Bool :=
  match launchOutcome answers template with
  | .refused _ => false
  | .started _ _ => true

/-- The id of the instance with a given serial. -/
def instanceIdOf (poolId : String) (serial : Nat) : String :=
  poolId ++ "#" ++ toString serial

/-- `startInstanceLocked`: the instance record, and the state with the serial used up
and the child recorded if there is one. -/
def startInstanceLocked (host : Host) (pool : ManagedEndpointPool) (s : WorkerSupervisor) :
    EndpointInstance × WorkerSupervisor :=
  let serial := s.nextInstanceSerial
  let s := { s with nextInstanceSerial := serial + 1 }
  let fresh : EndpointInstance :=
    { instanceId := instanceIdOf pool.poolId serial, poolId := pool.poolId, state := .starting,
      startedAtUtc := host.utcNow, lastTransitionAtUtc := host.utcNow,
      statusMessage := "Instance starting." }
  match launchOutcome (host.launch serial) pool.template with
  | .refused message =>
    (transitionInstanceLocked host { fresh with supervised := false } .failed message, s)
  | .started processId bridgeAvailable =>
    (transitionInstanceLocked host
        { fresh with processId := processId, supervised := true, healthProbePassed := false,
                     healthProbeAtUtc := "" }
        .ready
        (if bridgeAvailable then
          "Instance started under MCOS Job Object supervision (stdio bridge active)."
        else "Instance started under MCOS Job Object supervision (stdio bridge unavailable)."),
      { s with children := s.children.emplace fresh.instanceId { stdioPipes := bridgeAvailable } })

/-- Rewrite one pool in place. -/
def modifyPool (poolId : String) (f : ManagedEndpointPool → ManagedEndpointPool)
    (s : WorkerSupervisor) : WorkerSupervisor :=
  match s.pools.find? poolId with
  | none => s
  | some pool => { s with pools := s.pools.insert poolId (f pool) }

/-- Start one instance and append it to its pool's table, whatever became of it. -/
def spawnOne (host : Host) (poolId : String) (s : WorkerSupervisor) : WorkerSupervisor :=
  match s.pools.find? poolId with
  | none => s
  | some pool =>
    let started := startInstanceLocked host pool s
    modifyPool poolId (fun pool => { pool with instances := pool.instances ++ [started.1] })
      started.2

/-- The instances a pool lacks to reach `scalePolicy.minInstances`: the number of turns
of a loop that counts up from the healthy instances to the floor. -/
def shortfall (pool : ManagedEndpointPool) : Nat :=
  (max 0 pool.scalePolicy.minInstances - healthyInstanceCountLocked pool).toNat

/-! ## The crash circuit breaker -/

/-- `isPoolQuarantinedLocked`. -/
def isPoolQuarantinedLocked (s : WorkerSupervisor) (poolId : String) (now : TimePoint) : Bool :=
  match s.poolQuarantineUntil.find? poolId with
  | none => false
  | some deadline => now < deadline

/-- `quarantineExpiryUtcLocked`. -/
def quarantineExpiryUtcLocked (host : Host) (s : WorkerSupervisor) (poolId : String) : String :=
  match s.poolQuarantineUntil.find? poolId with
  | none => ""
  | some deadline =>
    if deadline ≤ host.steadyNow then "" else host.utcAfter (deadline - host.steadyNow)

/-- Whether a timestamp is still inside the rolling window. -/
def inCrashWindow (now t : TimePoint) : Bool := now - seconds kCrashWindowSeconds ≤ t

/-- Count one death of the pool, and quarantine it at the threshold. -/
def registerFailure (host : Host) (poolId : String) (s : WorkerSupervisor) : WorkerSupervisor :=
  let now := host.steadyNow
  let timestamps :=
    ((s.poolFailureTimestamps.find? poolId).getD [] ++ [now]).filter (inCrashWindow now)
  let s := { s with poolFailureTimestamps := s.poolFailureTimestamps.insert poolId timestamps }
  if kCrashThreshold ≤ timestamps.length && !isPoolQuarantinedLocked s poolId now then
    { s with
      poolQuarantineUntil :=
        s.poolQuarantineUntil.insert poolId (now + seconds kQuarantineCooldownSeconds)
      quarantineLog := s.quarantineLog ++
        [⟨poolId, timestamps.length, kCrashWindowSeconds, kQuarantineCooldownSeconds⟩] }
  else s

/-- `pruneCrashWindowsLocked`, run by the watchdog after each pass. -/
def pruneCrashWindowsLocked (host : Host) (s : WorkerSupervisor) : WorkerSupervisor :=
  { s with
    poolFailureTimestamps := s.poolFailureTimestamps.map fun _ timestamps =>
      timestamps.filter (inCrashWindow host.steadyNow)
    poolQuarantineUntil := s.poolQuarantineUntil.filterMap fun _ deadline =>
      if deadline ≤ host.steadyNow then none else some deadline }

/-! ## The reap pass -/

/-- The exit code the reap pass finds for a listed instance, if it takes the instance
for dead.  A supervised instance without a child record counts as dead too. -/
def exited (host : Host) (s : WorkerSupervisor) (i : EndpointInstance) : Option Nat :=
  match s.children.find? i.instanceId with
  | some _ =>
    match host.exitCode i.instanceId with
    | none => some 0
    | some code => if code = stillActive then none else some code
  | none =>
    if i.supervised && i.state ≠ .stopped && i.state ≠ .failed then some 0 else none

/-- What the reap pass does with a dead instance: drop the child and the table entry,
log the death, count it. -/
def removeDead (host : Host) (poolId : String) (i : EndpointInstance) (code : Nat)
    (s : WorkerSupervisor) : WorkerSupervisor :=
  let s := modifyPool poolId (fun pool => { pool with instances := pool.instances.erase i }) s
  registerFailure host poolId
    { s with
      children := s.children.erase i.instanceId
      deathLog := s.deathLog ++ [⟨poolId, i.instanceId, i.state.toString, code⟩] }

/-- The pass at one instance. -/
def reapInstance (host : Host) (poolId : String) (s : WorkerSupervisor) (i : EndpointInstance) :
    WorkerSupervisor :=
  match exited host s i with
  | none => s
  | some code => removeDead host poolId i code s

/-- The pass over one pool's table. -/
def reapPool (host : Host) (s : WorkerSupervisor) (poolId : String) : WorkerSupervisor :=
  match s.pools.find? poolId with
  | none => s
  | some pool => pool.instances.foldl (reapInstance host poolId) s

/-- The first half of the pass: every dead instance goes. -/
def reapDead (host : Host) (s : WorkerSupervisor) : WorkerSupervisor :=
  s.pools.keys.foldl (reapPool host) s

/-- One respawn of the second half, with its log entry. -/
def respawnOne (host : Host) (poolId : String) (s : WorkerSupervisor) : WorkerSupervisor :=
  match s.pools.find? poolId with
  | none => s
  | some pool =>
    let spawned := spawnOne host poolId s
    { spawned with
      respawnLog :=
        spawned.respawnLog ++ [⟨poolId, (startInstanceLocked host pool s).1.instanceId⟩] }

/-- The second half of the pass at one pool: fill it up to its floor, unless it is
quarantined.  `reapedAny` says whether the first half removed anything at all. -/
def respawnPool (host : Host) (reapedAny : Bool) (s : WorkerSupervisor) (poolId : String) :
    WorkerSupervisor :=
  match s.pools.find? poolId with
  | none => s
  | some pool =>
    if isPoolQuarantinedLocked s poolId host.steadyNow then s
    else
      let s := (respawnOne host poolId)^[shortfall pool] s
      if reapedAny then
        modifyPool poolId (fun pool => { pool with updatedAtUtc := host.utcNow }) s
      else s

/-- `reapDeadInstancesLocked`.  One death is logged for each instance reaped. -/
def reapDeadInstancesLocked (host : Host) (s : WorkerSupervisor) : WorkerSupervisor :=
  let reaped := reapDead host s
  if reaped.shuttingDown then reaped
  else
    reaped.pools.keys.foldl
      (respawnPool host (decide (s.deathLog.length < reaped.deathLog.length))) reaped

/-! ## The operations of `IWorkerSupervisor` -/

/-- What a query returns of a pool. -/
def snapshot (host : Host) (s : WorkerSupervisor) (pool : ManagedEndpointPool) :
    ManagedEndpointPool :=
  { pool with quarantinedUntilUtc := quarantineExpiryUtcLocked host s pool.poolId }

def findPool (host : Host) (poolId : String) (s : WorkerSupervisor) :
    Option ManagedEndpointPool × WorkerSupervisor :=
  let s := reapDeadInstancesLocked host s
  ((s.pools.find? poolId).map (snapshot host s), s)

def listPools (host : Host) (s : WorkerSupervisor) :
    List ManagedEndpointPool × WorkerSupervisor :=
  let s := reapDeadInstancesLocked host s
  (s.pools.entries.map fun entry => snapshot host s entry.2, s)

/-- The checks of `upsertPool`, in order; `none` accepts the pool. -/
def upsertRejection (pool : ManagedEndpointPool) : Option String :=
  if pool.poolId = "" then some "Pool id is required."
  else if !isSafeUrlSegmentId pool.poolId then
    some ("Pool id is invalid. " ++ kSafeIdRejectionMessage)
  else if pool.scalePolicy.minInstances < 0 then some "scalePolicy.minInstances must be >= 0."
  else if pool.scalePolicy.maxInstances < 1 then some "scalePolicy.maxInstances must be >= 1."
  else if pool.scalePolicy.maxInstances < pool.scalePolicy.minInstances then
    some "scalePolicy.minInstances must be <= scalePolicy.maxInstances."
  else none

def upsertPool (host : Host) (pool : ManagedEndpointPool) (s : WorkerSupervisor) :
    OperationResult × WorkerSupervisor :=
  match upsertRejection pool with
  | some message => (⟨false, false, message⟩, s)
  | none =>
    let stored :=
      match s.pools.find? pool.poolId with
      | none =>
        { pool with createdAtUtc := host.utcNow, updatedAtUtc := host.utcNow, instances := [] }
      | some known =>
        { pool with createdAtUtc := known.createdAtUtc, updatedAtUtc := host.utcNow,
                    instances := known.instances }
    (⟨true, false, "Pool registered."⟩,
      { s with pools := s.pools.insert pool.poolId stored })

/-- `terminateInstancesLocked`: every child of the pool goes, and its table empties. -/
def terminateInstancesLocked (poolId : String) (s : WorkerSupervisor) : WorkerSupervisor :=
  match s.pools.find? poolId with
  | none => s
  | some pool =>
    modifyPool poolId (fun pool => { pool with instances := [] })
      { s with
        children := s.children.filterMap fun id child =>
          if id ∈ pool.instances.map EndpointInstance.instanceId then none else some child }

def removePool (poolId : String) (s : WorkerSupervisor) : OperationResult × WorkerSupervisor :=
  match s.pools.find? poolId with
  | none => (⟨false, false, "Unknown pool id."⟩, s)
  | some _ =>
    let s := terminateInstancesLocked poolId s
    (⟨true, false, "Pool removed."⟩, { s with pools := s.pools.erase poolId })

def ensureMinInstances (host : Host) (poolId : String) (s : WorkerSupervisor) :
    OperationResult × WorkerSupervisor :=
  if s.shuttingDown then
    (⟨false, false, "Supervisor is shutting down; no new instances will be started."⟩, s)
  else
    let s := reapDeadInstancesLocked host s
    match s.pools.find? poolId with
    | none => (⟨false, false, "Unknown pool id."⟩, s)
    | some pool =>
      if max 0 pool.scalePolicy.minInstances ≤ healthyInstanceCountLocked pool then
        (⟨true, false, "Pool already at or above minInstances."⟩, s)
      else
        let s := (spawnOne host poolId)^[shortfall pool] s
        (⟨true, false, "Pool scaled to minInstances."⟩,
          modifyPool poolId (fun pool => { pool with updatedAtUtc := host.utcNow }) s)

def drainPool (host : Host) (poolId : String) (s : WorkerSupervisor) :
    OperationResult × WorkerSupervisor :=
  match s.pools.find? poolId with
  | none => (⟨false, false, "Unknown pool id."⟩, s)
  | some _ =>
    (⟨true, false, "Pool draining."⟩,
      modifyPool poolId (fun pool => { pool with
        instances := pool.instances.map fun i =>
          transitionInstanceLocked host i .draining "Drain requested by supervisor." }) s)

/-- `scaleUpOnce`: the id of the instance it appended, or the empty string. -/
def scaleUpOnce (host : Host) (poolId : String) (s : WorkerSupervisor) :
    String × WorkerSupervisor :=
  if s.shuttingDown then ("", s)
  else
    let s := reapDeadInstancesLocked host s
    match s.pools.find? poolId with
    | none => ("", s)
    | some pool =>
      if max 0 pool.scalePolicy.maxInstances ≤ healthyInstanceCountLocked pool then ("", s)
      else
        let newInstanceId := (startInstanceLocked host pool s).1.instanceId
        (newInstanceId,
          modifyPool poolId (fun pool => { pool with updatedAtUtc := host.utcNow })
            (spawnOne host poolId s))

def shutdownAll (s : WorkerSupervisor) : OperationResult × WorkerSupervisor :=
  let s := { s with shuttingDown := true }
  (⟨true, false, "All pools shut down."⟩,
    s.pools.keys.foldl (fun s poolId => terminateInstancesLocked poolId s) s)

/-- The clean-up of `sendStdioJsonRpc` after a failed write on a child's stdin: the
child record goes, and from every pool the first table entry with its id, which is
logged as a death. -/
def stdinWriteFailed (host : Host) (instanceId : String) (s : WorkerSupervisor) :
    WorkerSupervisor :=
  let isIt (i : EndpointInstance) : Bool := i.instanceId = instanceId
  { s with
    children := s.children.erase instanceId
    pools := s.pools.map fun _ pool =>
      if pool.instances.any isIt then
        { pool with instances := pool.instances.eraseP isIt, updatedAtUtc := host.utcNow }
      else pool
    deathLog := s.deathLog ++ s.pools.entries.filterMap fun entry =>
      (entry.2.instances.find? isIt).map fun i => ⟨entry.1, instanceId, i.state.toString, 0⟩ }

/-- The table entry of an instance that has answered the handshake. -/
def confirmed (host : Host) (instanceId : String) (i : EndpointInstance) : EndpointInstance :=
  if i.instanceId = instanceId then
    { i with healthProbePassed := true, healthProbeAtUtc := host.utcNow }
  else i

/-- What `sendStdioJsonRpc` records after an answered `initialize` handshake. -/
def handshakeConfirmed (host : Host) (instanceId : String) (s : WorkerSupervisor) :
    WorkerSupervisor :=
  { s with
    children := s.children.map fun id child =>
      if id = instanceId then { child with mcpInitialized := true } else child
    pools := s.pools.map fun _ pool =>
      { pool with instances := pool.instances.map (confirmed host instanceId) } }

/-- The locked half of `drainAndEmitSupervisorEvents`: the logs are handed over. -/
def drainSupervisorEvents (s : WorkerSupervisor) : WorkerSupervisor :=
  { s with deathLog := [], respawnLog := [], quarantineLog := [] }

end Supervisor
end MasterControl
