import MasterControl.Foundation.KeyedList
import MasterControl.Foundation.Runs
import MasterControl.Supervisor.Model

/-!
# The governance approval queue

`GovernanceApprovalQueueService` stages mutations until an operator approves or rejects
them; an approved one is handed to the executor once.  An `approve` first claims the action
(status `approved`), then calls the executor, then records the outcome, all under the
queue's lock.

The executor is the environment's: a call returns a result or leaves by an exception
(`ExecutorOutcome`), and an exception leaves `approve` at that point.  What the queue hands
out is part of its state here: the records given to the audit sink, and the actions given to
the executor.
-/

namespace MasterControl
namespace Governance

open Foundation Supervisor

/-! ## Records -/

inductive GovernanceActionKind where
  | unknown
  | clientRegister
  | clientPrivilegeChange
  | clientAutonomousModeChange
  | clientRevoke
  | mcpServerCreate
  | mcpServerModify
  | mcpServerRemove
  | subAgentCreate
  | subAgentModify
  | subAgentRemove
  | moduleEnable
  | moduleDisable
  | governancePolicyChange
  | remoteInstall
  deriving DecidableEq

def GovernanceActionKind.toString : GovernanceActionKind → String
  | .unknown => "unknown"
  | .clientRegister => "client_register"
  | .clientPrivilegeChange => "client_privilege_change"
  | .clientAutonomousModeChange => "client_autonomous_mode_change"
  | .clientRevoke => "client_revoke"
  | .mcpServerCreate => "mcp_server_create"
  | .mcpServerModify => "mcp_server_modify"
  | .mcpServerRemove => "mcp_server_remove"
  | .subAgentCreate => "sub_agent_create"
  | .subAgentModify => "sub_agent_modify"
  | .subAgentRemove => "sub_agent_remove"
  | .moduleEnable => "module_enable"
  | .moduleDisable => "module_disable"
  | .governancePolicyChange => "governance_policy_change"
  | .remoteInstall => "remote_install"

/-- The values the queue writes into an action's status. -/
inductive ActionStatus where
  | pending
  | approved
  | rejected
  | executed
  | executeFailed
  deriving DecidableEq

def ActionStatus.toString : ActionStatus → String
  | .pending => "pending"
  | .approved => "approved"
  | .rejected => "rejected"
  | .executed => "executed"
  | .executeFailed => "execute-failed"

structure GovernanceDeferredAction where
  id : String := ""
  action : GovernanceActionKind := .unknown
  actor : String := ""
  targetId : String := ""
  payload : String := ""
  status : ActionStatus := .pending
  reason : String := ""
  createdAtUtc : String := ""
  decidedAtUtc : String := ""
  decidedBy : String := ""
  deriving DecidableEq

/-- One call of the audit sink. -/
structure AuditRecord where
  kind : String
  subjectId : String
  message : String
  deriving DecidableEq

/-- How a call of the executor ends. -/
inductive ExecutorOutcome where
  | returned (result : OperationResult)
  | threw (what : String)
  deriving DecidableEq

/-- What an executor does with an action. -/
abbrev Executor := GovernanceDeferredAction → ExecutorOutcome

/-- The queue, with what it has given to its audit sink and to its executor. -/
structure GovernanceApprovalQueueService where
  actions : List GovernanceDeferredAction := []
  nextSequence : Nat := 0
  audit : List AuditRecord := []
  invocations : List GovernanceDeferredAction := []

/-! ## Operations -/

/-- The id of the action with a given sequence number. -/
def deferredIdOf (sequence : Nat) : String := "deferred-" ++ toString sequence

/-- The record `stage` files. -/
def stagedAction (now : String) (sequence : Nat) (input : GovernanceDeferredAction) :
    GovernanceDeferredAction :=
  { input with id := deferredIdOf sequence, status := .pending, createdAtUtc := now }

def stage (now : String) (input : GovernanceDeferredAction)
    (q : GovernanceApprovalQueueService) :
    GovernanceDeferredAction × GovernanceApprovalQueueService :=
  let action := stagedAction now (q.nextSequence + 1) input
  (action,
    { q with
      nextSequence := q.nextSequence + 1
      actions := q.actions ++ [action]
      audit := q.audit ++
        [⟨"governance-deferred", action.id, "Staged " ++ action.action.toString ++
          " for operator approval (actor=" ++ action.actor ++ ")"⟩] })

def findById (id : String) (actions : List GovernanceDeferredAction) :
    Option GovernanceDeferredAction :=
  actions.find? fun action => action.id = id

/-- Write through the pointer that `findById` returns. -/
def modifyById (id : String) (f : GovernanceDeferredAction → GovernanceDeferredAction)
    (actions : List GovernanceDeferredAction) : List GovernanceDeferredAction :=
  updateFirst (fun action => action.id = id) f actions

/-- The name recorded for whoever decides. -/
def deciderName (operatorActor : String) : String :=
  if operatorActor = "" then "operator" else operatorActor

/-- An action once `approve` has claimed it. -/
def claimAction (now operatorActor : String) (action : GovernanceDeferredAction) :
    GovernanceDeferredAction :=
  { action with status := .approved, decidedAtUtc := now, decidedBy := deciderName operatorActor }

/-- An action once the executor's result is recorded. -/
def settleAction (execution : OperationResult) (action : GovernanceDeferredAction) :
    GovernanceDeferredAction :=
  { action with
    status := if execution.succeeded then .executed else .executeFailed
    reason :=
      if !execution.succeeded && action.reason = "" then execution.message else action.reason }

@[simp] theorem settleAction_status (execution : OperationResult)
    (action : GovernanceDeferredAction) : (settleAction execution action).status =
      if execution.succeeded then .executed else .executeFailed := rfl

/-- The answer to a decision on an action that is no longer pending. -/
def noLongerPending (action : GovernanceDeferredAction) : OperationResult :=
  ⟨false, false, "Deferred action is no longer pending (current status: " ++
    action.status.toString ++ ")."⟩

def approvedRecord (action : GovernanceDeferredAction) : AuditRecord :=
  ⟨"governance-approved", action.id, "Operator approved deferred " ++ action.action.toString ++
    " for actor=" ++ action.actor⟩

def outcomeRecord (execution : OperationResult) (id : String)
    (action : GovernanceDeferredAction) : AuditRecord :=
  if execution.succeeded then
    ⟨"governance-executed", id, "Executed approved " ++ action.action.toString⟩
  else
    ⟨"governance-execute-failed", id, "Execution of approved " ++ action.action.toString ++
      " failed: " ++ execution.message⟩

/-- The claim: the status, and the audit record. -/
def claim (now operatorActor id : String) (action : GovernanceDeferredAction)
    (q : GovernanceApprovalQueueService) : GovernanceApprovalQueueService :=
  { q with
    actions := modifyById id (claimAction now operatorActor) q.actions
    audit := q.audit ++ [approvedRecord action] }

/-- The outcome: the status, and the audit record. -/
def settle (execution : OperationResult) (id : String) (action : GovernanceDeferredAction)
    (q : GovernanceApprovalQueueService) : GovernanceApprovalQueueService :=
  { q with
    actions := modifyById id (settleAction execution) q.actions
    audit := q.audit ++ [outcomeRecord execution id action] }

/-- The answer after the executor has returned. -/
def executionAnswer (execution : OperationResult) : OperationResult :=
  if execution.succeeded then ⟨true, false, "Deferred action approved and executed."⟩
  else ⟨false, false, "Deferred action approved but execution failed: " ++ execution.message⟩

/-- `approve`; an exception of the executor leaves it as `.error`. -/
def approve (now : String) (executor : Option Executor) (deferredActionId operatorActor : String)
    (q : GovernanceApprovalQueueService) :
    Except String OperationResult × GovernanceApprovalQueueService :=
  match findById deferredActionId q.actions with
  | none => (.ok ⟨false, false, "Deferred action not found."⟩, q)
  | some action =>
    if action.status ≠ .pending then (.ok (noLongerPending action), q)
    else
      let q := claim now operatorActor deferredActionId action q
      match executor with
      | none => (.ok ⟨true, false, "Deferred action approved."⟩, q)
      | some execute =>
        let snapshot := claimAction now operatorActor action
        let q := { q with invocations := q.invocations ++ [snapshot] }
        match execute snapshot with
        | .threw what => (.error what, q)
        | .returned execution =>
          (.ok (executionAnswer execution), settle execution deferredActionId action q)

/-- An action once it is rejected. -/
def rejectAction (now operatorActor reason : String) (action : GovernanceDeferredAction) :
    GovernanceDeferredAction :=
  { action with
    status := .rejected
    decidedAtUtc := now
    decidedBy := deciderName operatorActor
    reason := reason }

def rejectedRecord (reason : String) (action : GovernanceDeferredAction) : AuditRecord :=
  ⟨"governance-rejected", action.id, "Operator rejected deferred " ++ action.action.toString ++
    " (reason=" ++ reason ++ ")"⟩

def reject (now deferredActionId operatorActor reason : String)
    (q : GovernanceApprovalQueueService) : OperationResult × GovernanceApprovalQueueService :=
  match findById deferredActionId q.actions with
  | none => (⟨false, false, "Deferred action not found."⟩, q)
  | some action =>
    if action.status ≠ .pending then (noLongerPending action, q)
    else
      (⟨true, false, "Deferred action rejected."⟩,
        { q with
          actions := modifyById deferredActionId (rejectAction now operatorActor reason) q.actions
          audit := q.audit ++ [rejectedRecord reason action] })

/-! ## The queue as a transition system -/

/-- A call, with the clock reading and, for `approve`, how the executor behaves. -/
inductive QueueCall where
  | stage (now : String) (input : GovernanceDeferredAction)
  | approve (now : String) (execute : Executor) (deferredActionId operatorActor : String)
  | reject (now deferredActionId operatorActor reason : String)

/-- A run of the queue: its state, and what `stage` has returned so far. -/
structure QueueRun where
  queue : GovernanceApprovalQueueService := {}
  staged : List GovernanceDeferredAction := []

/-- The executor that `approve` sees: the one of the call, if one was injected. -/
def injected (wired : Bool) (execute : Executor) : Option Executor :=
  if wired then some execute else none

def queueStep (wired : Bool) (run : QueueRun) : QueueCall → QueueRun
  | .stage now input =>
    { queue := (stage now input run.queue).2
      staged := run.staged ++ [(stage now input run.queue).1] }
  | .approve now execute id actor =>
    { run with queue := (approve now (injected wired execute) id actor run.queue).2 }
  | .reject now id actor reason =>
    { run with queue := (reject now id actor reason run.queue).2 }

/-- The queue from its construction on, with or without an executor. -/
def queueSystem (wired : Bool) : TransitionSystem QueueRun QueueCall where
  init := {}
  step := queueStep wired

end Governance
end MasterControl
