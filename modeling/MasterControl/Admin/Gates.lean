import MasterControl.Clients.Capabilities
import MasterControl.Governance.Enforcement

/-!
# The gates of the admin routes

A mutating route first asks for a privilege of its caller, then puts a question to the Command
Logic Unit, and does its work behind both.  A `Reply` is the answer of a route, the state it
leaves, and every question that was put on the way, with its decision.

What the Command Logic Unit decides is a parameter here, `CommandLogicUnit`.
-/

namespace MasterControl
namespace Admin

open Foundation Supervisor Clients Governance

/-- Who sends a request. -/
structure AuthenticatedRequestContext where
  privileges : LanClientPrivileges := {}
  capabilities : List String := []
  autonomousMode : Bool := false
  actor : String := "anonymous"
  deriving DecidableEq

/-- The context of a registered client. -/
def clientContext (client : LanClient) : AuthenticatedRequestContext where
  privileges := privilegesWithCapabilities client.privileges (capabilitiesForClient client)
  capabilities := capabilitiesForClient client
  autonomousMode := client.autonomousMode
  actor := client.clientId

abbrev CommandLogicUnit := GovernanceEnforcementRequest → GovernanceEnforcementDecision

inductive Answer where
  | privilegeMissing (actor privilegeName : String)
  | capabilityMissing (actor : String) (requiredCapabilities : List String)
  /-- The identity is unknown, or its client disabled. -/
  | identityFailure (errorMessage actor : String)
  /-- The Command Logic Unit does not allow it. -/
  | governanceRefused (decision : GovernanceEnforcementDecision) (actor : String)
  /-- It is staged for an operator. -/
  | governanceDeferred (decision : GovernanceEnforcementDecision) (actor : String)
  | operation (statusCode : Nat) (result : OperationResult)
  | notFound
  /-- The answer of a route that is not modelled. -/
  | elsewhere

/-- A question to the Command Logic Unit, with its decision. -/
structure Question where
  request : GovernanceEnforcementRequest
  decision : GovernanceEnforcementDecision

structure Reply (σ : Type) where
  answer : Answer
  state : σ
  asked : List Question := []

/-- `jsonResponse` of a result that did not come about. -/
def badRequest {σ : Type} (state : σ) (message : String) : Reply σ where
  answer := .operation 400 ⟨false, false, message⟩
  state

section Gates

variable {σ : Type} (context : AuthenticatedRequestContext)

def requirePrivilege (granted : Bool) (privilegeName : String) (state : σ) (next : Reply σ) :
    Reply σ :=
  if granted then next else { answer := .privilegeMissing context.actor privilegeName, state }

/-- The question of a caller. -/
def AuthenticatedRequestContext.question (action : GovernanceActionKind)
    (targetId source : String) : GovernanceEnforcementRequest where
  action
  targetId
  source
  actor := context.actor

def enforceGovernance (clu : CommandLogicUnit) (action : GovernanceActionKind)
    (targetId source : String) (state : σ) (next : Reply σ) : Reply σ :=
  let request := context.question action targetId source
  let decision := clu request
  match decision.outcome with
  | .allow => { next with asked := ⟨request, decision⟩ :: next.asked }
  | .requiresOperatorApproval =>
    { answer := .governanceDeferred decision context.actor, state, asked := [⟨request, decision⟩] }
  | .block =>
    { answer := .governanceRefused decision context.actor, state, asked := [⟨request, decision⟩] }

/-- The Command Logic Unit lets an action pass. -/
def Allows (clu : CommandLogicUnit) (request : GovernanceEnforcementRequest) : Prop :=
  (clu request).outcome = .allow

/-- The Command Logic Unit was asked for an action, and allowed it. -/
def Asked (clu : CommandLogicUnit) (about : GovernanceEnforcementRequest → Prop)
    (reply : Reply σ) : Prop :=
  ∃ q ∈ reply.asked, about q.request ∧ q.decision = clu q.request ∧ q.decision.outcome = .allow

variable {context} {clu : CommandLogicUnit} {action : GovernanceActionKind}
  {targetId source privilegeName : String} {granted : Bool} {state : σ} {next : Reply σ}

theorem requirePrivilege_of_granted (h : granted = true) :
    requirePrivilege context granted privilegeName state next = next := if_pos h

/-- Without the privilege nothing happens, and nothing is asked. -/
theorem requirePrivilege_of_not_granted (h : granted ≠ true) :
    requirePrivilege context granted privilegeName state next =
      { answer := .privilegeMissing context.actor privilegeName, state } := if_neg h

theorem enforceGovernance_of_allows (h : Allows clu (context.question action targetId source)) :
    enforceGovernance context clu action targetId source state next =
      { next with
        asked := ⟨context.question action targetId source,
          clu (context.question action targetId source)⟩ :: next.asked } := by
  unfold enforceGovernance
  dsimp only
  rw [h]

/-- What is not allowed does not happen. -/
theorem enforceGovernance_of_not_allows
    (h : ¬ Allows clu (context.question action targetId source)) :
    (enforceGovernance context clu action targetId source state next).state = state ∧
      (enforceGovernance context clu action targetId source state next).asked =
        [⟨context.question action targetId source,
          clu (context.question action targetId source)⟩] := by
  unfold enforceGovernance
  dsimp only
  split
  · next hallow => exact absurd hallow h
  · exact ⟨rfl, rfl⟩
  · exact ⟨rfl, rfl⟩

/-- A question is answered, and nothing else happens; or it lets the route pass. -/
theorem enforceGovernance_cases (context : AuthenticatedRequestContext) (clu : CommandLogicUnit)
    (action : GovernanceActionKind) (targetId source : String) (state : σ) (next : Reply σ) :
    (enforceGovernance context clu action targetId source state next).state = state ∧
        ¬ Allows clu (context.question action targetId source) ∨
      Allows clu (context.question action targetId source) ∧
        enforceGovernance context clu action targetId source state next =
          { next with
            asked := ⟨context.question action targetId source,
              clu (context.question action targetId source)⟩ :: next.asked } := by
  by_cases hallows : Allows clu (context.question action targetId source)
  · exact Or.inr ⟨hallows, enforceGovernance_of_allows hallows⟩
  · exact Or.inl ⟨(enforceGovernance_of_not_allows hallows).1, hallows⟩

end Gates

/-! ## Bodies -/

/-- What a route reads from a body: a record; or an id, where the record cannot be read; or
nothing. -/
inductive Body (α : Type) where
  | malformed (exception : String)
  | unreadable (id : String) (exception : String)
  | value (record : α)

end Admin
end MasterControl
