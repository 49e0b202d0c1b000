import MasterControl.Apple.Hosts
import MasterControl.Foundation.Runs

/-!
# Apple governance operations

An operation is a record that is published to a history of thirty.  A queued tool's operation
is then put into a queue, from which one worker takes it; a synchronous tool's operation is
executed by the thread that accepted it.  Whoever executes an operation has a copy of its
record, changes it, and publishes it whole.

The steps are those under one lock: `Service.step`.  What is lost with a process and what is
reported after a restart is in the last step: the history comes back from its file, and
operations that were queued or running are blocked.
-/

namespace MasterControl
namespace Apple

open Foundation

/-! ## Records -/

/-- `exec-<stamp>-<counter>`. -/
structure OperationId where
  stamp : Nat
  counter : Nat
deriving DecidableEq

inductive AppleOperationStatus where
  | queued
  | running
  | succeeded
  | failed
  | blocked
  | canceled
deriving DecidableEq

structure AppleOperationRecord where
  operationId : OperationId
  displayName : Bytes := []
  status : AppleOperationStatus := .queued
  summary : Bytes := []
  errorMessage : Bytes := []
  queuedAtUtc : Bytes := []
  startedAtUtc : Bytes := []
  completedAtUtc : Bytes := []
deriving DecidableEq

inductive GovernanceToolStatus where
  | passed
  | warning
  | failed
  | unsupported
deriving DecidableEq

structure GovernanceToolResult where
  status : GovernanceToolStatus := .failed
  succeeded : Bool := false
  summary : Bytes := []
  startedAtUtc : Bytes := []
  completedAtUtc : Bytes := []
  /-- The message of the first finding. -/
  finding : Option Bytes := none

/-- What keeps an operation from its host. -/
inductive Obstacle where
  | serviceUnavailable
  | noHost (platformKey : Bytes)
  | preferredHostUnavailable (preferredHostId : Bytes)
  | platformNotSupported (hostName platformKey : Bytes)
  | exception (what : Bytes)

/-! ## The record on its way -/

def queuedRecord (operationId : OperationId) (displayName nowUtc : Bytes) :
    AppleOperationRecord where
  operationId
  displayName
  status := .queued
  queuedAtUtc := nowUtc
  summary := asciiBytes "Queued Apple governance operation."

def runningRecord (host : AppleRemoteHost) (nowUtc : Bytes) (record : AppleOperationRecord) :
    AppleOperationRecord :=
  let transport : Bytes :=
    match host.transport with
    | .unknown => asciiBytes "unknown"
    | .ssh => asciiBytes "ssh"
    | .companionService => asciiBytes "companion_service"
  { record with
    status := .running
    startedAtUtc := nowUtc
    summary := asciiBytes "Running on Apple host '" ++ host.displayName ++ asciiBytes "' via " ++
      transport ++ asciiBytes "." }

def mapAppleOperationStatus (result : GovernanceToolResult) : AppleOperationStatus :=
  if result.succeeded then .succeeded
  else
    match result.status with
    | .warning | .unsupported => .blocked
    | .passed => .succeeded
    | .failed => .failed

/-- `completeAppleOperation`. -/
def completedRecord (result : GovernanceToolResult) (nowUtc : Bytes)
    (record : AppleOperationRecord) : AppleOperationRecord :=
  let errorMessage :=
    match result.succeeded, result.finding with
    | false, some message => message
    | _, _ => record.errorMessage
  { record with
    startedAtUtc :=
      if record.startedAtUtc = [] then result.startedAtUtc else record.startedAtUtc
    completedAtUtc := if result.completedAtUtc = [] then nowUtc else result.completedAtUtc
    status := mapAppleOperationStatus result
    summary := result.summary
    errorMessage :=
      if !result.succeeded && errorMessage = [] then result.summary else errorMessage }

/-- The result of a tool that does not get to its host. -/
def Obstacle.result : Obstacle → GovernanceToolResult
  | serviceUnavailable =>
    { status := .failed
      summary := asciiBytes "Apple remote host service is unavailable."
      finding := some (asciiBytes
        "The Apple remote host registry service is not available in the Forsetti runtime.") }
  | noHost platformKey =>
    { status := .warning
      summary := asciiBytes "No enabled Apple remote host is configured for platform " ++
        platformKey ++ asciiBytes "."
      finding := some (asciiBytes ("Configure an Apple remote host with either ssh or " ++
        "companion_service transport before using this governance lane.")) }
  | preferredHostUnavailable preferredHostId =>
    { status := .warning
      summary := asciiBytes "Preferred Apple remote host '" ++ preferredHostId ++
        asciiBytes "' is not available."
      finding := some (asciiBytes
        "The requested Apple remote host could not be loaded from the CLU host registry.") }
  | platformNotSupported hostName platformKey =>
    { status := .warning
      summary := asciiBytes "Apple host '" ++ hostName ++
        asciiBytes "' does not advertise support for " ++ platformKey ++ asciiBytes "."
      finding := some (asciiBytes
        "The selected Apple host does not declare the requested platform lane.") }
  | exception what => { status := .failed, summary := what }

/-- `markAppleOperationCanceled`. -/
def canceledRecord (message nowUtc : Bytes) (record : AppleOperationRecord) :
    AppleOperationRecord :=
  { record with
    status := .canceled
    completedAtUtc := nowUtc
    summary := message
    errorMessage := if record.errorMessage = [] then message else record.errorMessage }

/-- An operation that a restart interrupts. -/
def reconciledRecord (interruptedAtUtc : Bytes) (record : AppleOperationRecord) :
    AppleOperationRecord :=
  let blocked (summary errorMessage : String) : AppleOperationRecord :=
    { record with
      status := .blocked
      completedAtUtc := interruptedAtUtc
      summary := asciiBytes summary
      errorMessage :=
        if record.errorMessage = [] then asciiBytes errorMessage else record.errorMessage }
  match record.status with
  | .running =>
    blocked "Apple governance operation was interrupted by service restart."
      "Apple governance operation did not finish before restart."
  | .queued =>
    blocked "Queued Apple governance operation was interrupted by service restart."
      "Queued Apple governance operation did not resume after restart."
  | _ => record

/-- `persistAppleOperation`: the record goes to the front, and what is beyond thirty is dropped. -/
def publish (record : AppleOperationRecord) (history : List AppleOperationRecord) :
    List AppleOperationRecord :=
  (record :: history.eraseP (·.operationId = record.operationId)).take 30

/-! ## The service -/

/-- Where a thread is. -/
inductive Thread where
  | idle
  /-- `execute` has made the record of an operation. -/
  | numbered (record : AppleOperationRecord) (queued : Bool)
  /-- The record of a queued tool is published, but not in the queue yet. -/
  | published (record : AppleOperationRecord)
  /-- The tool is executed, and its record not marked as running yet. -/
  | taken (record : AppleOperationRecord)
  | executing (record : AppleOperationRecord)
  | finished (operationId : OperationId)
  /-- The queue is shutting down. -/
  | refused (record : AppleOperationRecord)
  /-- `cancelAppleOperation` has made its decision. -/
  | canceling (record : AppleOperationRecord)

structure Service where
  /-- The history file. -/
  file : List AppleOperationRecord := []
  recentAppleOperations : List AppleOperationRecord := []
  appleQueue : List AppleOperationRecord := []
  runningAppleOperationId : Option OperationId := none
  stopWorker : Bool := false
  /-- The next number of `generateExecutionId`. -/
  counter : Nat := 1
  /-- Thread zero is the worker. -/
  thread : Nat → Thread := fun _ => .idle
  /-- The status last published for an operation. -/
  status : OperationId → Option AppleOperationStatus := fun _ => none
  /-- The operations whose execution began. -/
  executed : List OperationId := []
  /-- The operations that remote commands were run for. -/
  commands : List OperationId := []
  /-- The operations whose cancellation was reported as a success. -/
  canceled : List OperationId := []
  /-- The latest stamp, of all and of the processes before this one. -/
  lastStamp : Nat := 0
  bootStamp : Nat := 0

inductive OperationStep where
  /-- `execute` begins: the tool's operation gets its id. -/
  | accept (thread : Nat) (queued : Bool) (displayName nowUtc : Bytes) (stamp : Nat)
  | publish (thread : Nat) (written : Bool)
  | enqueue (thread : Nat)
  /-- The worker takes the next operation. -/
  | pop
  | markRunning (thread : Nat) (host : AppleRemoteHost) (nowUtc : Bytes) (written : Bool)
  | remoteCommand (thread : Nat)
  /-- The tool does not get to its host. -/
  | giveUp (thread : Nat) (obstacle : Obstacle) (nowUtc : Bytes) (written : Bool)
  | complete (thread : Nat) (result : GovernanceToolResult) (nowUtc : Bytes) (written : Bool)
  | leave (thread : Nat)
  | cancel (thread : Nat) (operationId : OperationId)
  | markCanceled (thread : Nat) (nowUtc : Bytes) (written : Bool)
  | stop
  | restart (nowUtc : Bytes) (written : Bool)

namespace Service

variable (s : Service)

/-- A thread goes on. -/
def put (thread : Nat) (x : Thread) : Service :=
  { s with thread := Function.update s.thread thread x }

/-- A record is published. -/
def persist (written : Bool) (record : AppleOperationRecord) : Service :=
  let history := publish record s.recentAppleOperations
  { s with
    recentAppleOperations := history
    file := if written then history else s.file
    status := Function.update s.status record.operationId (some record.status) }

def accept (thread : Nat) (queued : Bool) (displayName nowUtc : Bytes) (stamp : Nat) : Service :=
  match thread, s.thread thread with
  | 0, _ => s
  | _ + 1, .idle =>
    { s.put thread (.numbered (queuedRecord ⟨stamp, s.counter⟩ displayName nowUtc) queued) with
      counter := s.counter + 1
      lastStamp := max s.lastStamp stamp }
  | _ + 1, _ => s

def publishNumbered (thread : Nat) (written : Bool) : Service :=
  match s.thread thread with
  | .numbered record true => (s.persist written record).put thread (.published record)
  | .numbered record false =>
    { (s.persist written record).put thread (.taken record) with
      executed := s.executed ++ [record.operationId] }
  | _ => s

def enqueue (thread : Nat) : Service :=
  match s.thread thread with
  | .published record =>
    if s.stopWorker then s.put thread (.refused record)
    else { s.put thread .idle with appleQueue := s.appleQueue ++ [record] }
  | _ => s

def pop : Service :=
  match s.thread 0, s.appleQueue with
  | .idle, record :: rest =>
    { s.put 0 (.taken record) with
      appleQueue := rest
      runningAppleOperationId := some record.operationId
      executed := s.executed ++ [record.operationId] }
  | _, _ => s

def markRunning (thread : Nat) (host : AppleRemoteHost) (nowUtc : Bytes) (written : Bool) :
    Service :=
  match s.thread thread with
  | .taken record =>
    (s.persist written (runningRecord host nowUtc record)).put thread
      (.executing (runningRecord host nowUtc record))
  | _ => s

def remoteCommand (thread : Nat) : Service :=
  match s.thread thread with
  | .taken record | .executing record =>
    { s with commands := s.commands ++ [record.operationId] }
  | _ => s

def giveUp (thread : Nat) (obstacle : Obstacle) (nowUtc : Bytes) (written : Bool) : Service :=
  match s.thread thread with
  | .taken record =>
    (s.persist written (completedRecord obstacle.result nowUtc record)).put thread
      (.finished record.operationId)
  | _ => s

def complete (thread : Nat) (result : GovernanceToolResult) (nowUtc : Bytes) (written : Bool) :
    Service :=
  match s.thread thread with
  | .executing record =>
    (s.persist written (completedRecord result nowUtc record)).put thread
      (.finished record.operationId)
  | _ => s

/-- The worker resets what it runs if it is still its own. -/
def leave (thread : Nat) : Service :=
  match thread, s.thread thread with
  | 0, .finished operationId =>
    { s.put 0 .idle with
      runningAppleOperationId :=
        if s.runningAppleOperationId = some operationId then none
        else s.runningAppleOperationId }
  | _ + 1, .finished _ => s.put thread .idle
  | _, _ => s

/-- The decision of `cancelAppleOperation`: the record to cancel, and the queue behind it, or
nothing where it fails. -/
def cancelDecision (operationId : OperationId) :
    Option (AppleOperationRecord × List AppleOperationRecord) :=
  match s.appleQueue.find? (·.operationId = operationId) with
  | some record => some (record, s.appleQueue.eraseP (·.operationId = operationId))
  | none =>
    match s.recentAppleOperations.find? (·.operationId = operationId) with
    | none => none
    | some record =>
      if s.runningAppleOperationId = some operationId ∨ record.status = .running then none
      else if record.status ≠ .queued then none
      else some (record, s.appleQueue)

def cancel (thread : Nat) (operationId : OperationId) : Service :=
  match thread, s.thread thread with
  | _ + 1, .idle =>
    match s.cancelDecision operationId with
    | some (record, queue) => { s.put thread (.canceling record) with appleQueue := queue }
    | none => s
  | _, _ => s

def markCanceled (thread : Nat) (nowUtc : Bytes) (written : Bool) : Service :=
  match s.thread thread with
  | .refused record =>
    (s.persist written (canceledRecord
      (asciiBytes "Apple governance queue is shutting down.") nowUtc record)).put thread .idle
  | .canceling record =>
    { (s.persist written (canceledRecord
        (asciiBytes "Apple governance operation was canceled.") nowUtc record)).put thread .idle
      with canceled := s.canceled ++ [record.operationId] }
  | _ => s

/-- A new process: the history comes from its file. -/
def restart (nowUtc : Bytes) (written : Bool) : Service :=
  let history := s.file.map (reconciledRecord nowUtc)
  { s with
    file := if written then history else s.file
    recentAppleOperations := history
    appleQueue := []
    runningAppleOperationId := none
    stopWorker := false
    counter := 1
    thread := fun _ => .idle
    status := fun operationId =>
      match history.find? (·.operationId = operationId) with
      | some record => some record.status
      | none => s.status operationId
    bootStamp := s.lastStamp }

def step : OperationStep → Service
  | .accept thread queued displayName nowUtc stamp =>
    s.accept thread queued displayName nowUtc stamp
  | .publish thread written => s.publishNumbered thread written
  | .enqueue thread => s.enqueue thread
  | .pop => s.pop
  | .markRunning thread host nowUtc written => s.markRunning thread host nowUtc written
  | .remoteCommand thread => s.remoteCommand thread
  | .giveUp thread obstacle nowUtc written => s.giveUp thread obstacle nowUtc written
  | .complete thread result nowUtc written => s.complete thread result nowUtc written
  | .leave thread => s.leave thread
  | .cancel thread operationId => s.cancel thread operationId
  | .markCanceled thread nowUtc written => s.markCanceled thread nowUtc written
  | .stop => { s with stopWorker := true }
  | .restart nowUtc written => s.restart nowUtc written

end Service

/-- The service from its first start. -/
def appleOperations : TransitionSystem Service OperationStep where
  init := {}
  step := Service.step

end Apple
end MasterControl
