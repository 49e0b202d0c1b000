import MasterControl.Foundation.OrdMap
import Mathlib.Data.String.Basic

/-!
# The worker supervisor: records and state

The data of `WorkerSupervisor`: the pools with their instance tables, the child
process records, the crash circuit breaker's two maps, and the three event logs that
wait for telemetry.  Pools and children are `std::map`s in the source and `OrdMap`s
here, so a loop over them runs in key order as it does there.

A record keeps the fields some modelled function reads or writes.  What the
supervisor only passes on to the operating system (working directory, environment
block, handles) is not kept; whether the operating system accepted it is part of
`Host`.

Everything the operating system decides during one locked section is a `Host`: the
clock reading, the exit code of every child asked about, and how each launch attempt
goes.  One reading of the clock serves a whole locked section.
-/

namespace MasterControl
namespace Supervisor

open Foundation

/-- A `steady_clock` reading or a duration, in nanoseconds. -/
abbrev TimePoint := Int

/-- The number of nanoseconds of a whole number of seconds. -/
def seconds (n : Int) : TimePoint := n * 1000000000

/-- The answer of an operation to its caller. -/
structure OperationResult where
  succeeded : Bool
  requiresConfirmation : Bool
  message : String
  deriving DecidableEq

inductive EndpointInstanceState where
  | configured
  | starting
  | ready
  | busy
  | draining
  | failed
  | stopped
  deriving DecidableEq

/-- The slug of a state, as the death log carries it. -/
def EndpointInstanceState.toString : EndpointInstanceState → String
  | .configured => "configured"
  | .starting => "starting"
  | .ready => "ready"
  | .busy => "busy"
  | .draining => "draining"
  | .failed => "failed"
  | .stopped => "stopped"

structure ScalePolicy where
  minInstances : Int := 0
  maxInstances : Int := 1
  maxActiveLeasesPerInstance : Int := 1
  deriving DecidableEq

structure EndpointTemplate where
  executable : String := ""
  args : List String := []
  deriving DecidableEq

structure EndpointInstance where
  instanceId : String
  poolId : String
  state : EndpointInstanceState := .configured
  processId : Nat := 0
  supervised : Bool := false
  startedAtUtc : String := ""
  lastTransitionAtUtc : String := ""
  statusMessage : String := ""
  healthProbePassed : Bool := false
  healthProbeAtUtc : String := ""
  deriving DecidableEq

structure ManagedEndpointPool where
  poolId : String
  template : EndpointTemplate := {}
  scalePolicy : ScalePolicy := {}
  instances : List EndpointInstance := []
  createdAtUtc : String := ""
  updatedAtUtc : String := ""
  quarantinedUntilUtc : String := ""
  deriving DecidableEq

/-- A supervised child.  Its process handle is open as long as the record is in the
map, so only the bridge is recorded: whether both pipe ends exist, and whether the
`initialize` handshake has been answered. -/
structure ChildProcess where
  stdioPipes : Bool
  mcpInitialized : Bool := false
  deriving DecidableEq

structure DeathLogEntry where
  poolId : String
  instanceId : String
  previousState : String
  exitCode : Nat
  deriving DecidableEq

structure RespawnLogEntry where
  poolId : String
  newInstanceId : String
  deriving DecidableEq

structure QuarantineLogEntry where
  poolId : String
  failureCountInWindow : Nat
  windowSeconds : Int
  cooldownSeconds : Int
  deriving DecidableEq

/-! ## What the operating system answers -/

/-- A worker executable found on disk: its path and the extension of its file name. -/
structure ResolvedExecutable where
  path : String
  extension : String
  deriving DecidableEq

/-- How one launch attempt goes: each system call in the order `startInstanceLocked`
makes it.  `createProcess` carries the process id. -/
structure LaunchAnswers where
  /-- What the file system and the PATH search know under a non-empty name. -/
  searchExecutable : String → Option ResolvedExecutable
  createJobObject : Bool
  setInformationJobObject : Bool
  createPipes : Bool
  allocateEnvironmentBlock : Bool
  createProcess : Option Nat
  assignProcessToJobObject : Bool

/-- The operating system during one locked section. -/
structure Host where
  /-- `steady_clock::now()`. -/
  steadyNow : TimePoint
  /-- The wall clock a duration from now, as an ISO-8601 text. -/
  utcAfter : TimePoint → String
  /-- `GetExitCodeProcess`, by instance: `none` when the call fails. -/
  exitCode : String → Option Nat
  /-- The launch attempt that carries a given instance serial. -/
  launch : Nat → LaunchAnswers

/-- `timestampNowUtc()`. -/
def Host.utcNow (host : Host) : String := host.utcAfter 0

/-- `STILL_ACTIVE`: the exit code of a process that has not exited. -/
def stillActive : Nat := 259

def kCrashThreshold : Nat := 5
def kCrashWindowSeconds : Int := 60
def kQuarantineCooldownSeconds : Int := 60

end Supervisor

open Foundation Supervisor in
/-- The state `mutex_` guards, and the teardown flag. -/
structure WorkerSupervisor where
  pools : OrdMap String ManagedEndpointPool := OrdMap.empty
  children : OrdMap String ChildProcess := OrdMap.empty
  nextInstanceSerial : Nat := 1
  shuttingDown : Bool := false
  poolFailureTimestamps : OrdMap String (List TimePoint) := OrdMap.empty
  poolQuarantineUntil : OrdMap String TimePoint := OrdMap.empty
  deathLog : List DeathLogEntry := []
  respawnLog : List RespawnLogEntry := []
  quarantineLog : List QuarantineLogEntry := []

namespace Supervisor

open Foundation

/-- Ids that may stand in a URL path segment: ASCII letters, digits, `-`, `_`, `.`,
and not empty. -/
def isSafeUrlSegmentId (value : String) : Bool :=
  value ≠ "" && value.toList.all fun c =>
    ('a' ≤ c && c ≤ 'z') || ('A' ≤ c && c ≤ 'Z') || ('0' ≤ c && c ≤ '9')
      || c = '-' || c = '_' || c = '.'

def kSafeIdRejectionMessage : String :=
  "Id must be ASCII letters, digits, '-', '_', or '.' (no slashes, whitespace, or other " ++
    "URL-unsafe characters)."

/-- Whether an instance counts as capacity: starting, ready or busy. -/
def EndpointInstance.healthy (i : EndpointInstance) : Bool :=
  i.state = .starting || i.state = .ready || i.state = .busy

/-- Whether traffic may be routed to an instance: ready or busy. -/
def EndpointInstance.serving (i : EndpointInstance) : Bool :=
  i.state = .ready || i.state = .busy

def healthyInstanceCountLocked (pool : ManagedEndpointPool) : Nat :=
  pool.instances.countP EndpointInstance.healthy

def transitionInstanceLocked (host : Host) (i : EndpointInstance)
    (target : EndpointInstanceState) (message : String) : EndpointInstance :=
  { i with state := target, lastTransitionAtUtc := host.utcNow, statusMessage := message }

end Supervisor
end MasterControl
