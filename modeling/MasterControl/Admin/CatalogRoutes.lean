import MasterControl.Admin.Gates
import MasterControl.Supervisor.Operations

/-!
# The routes of the runtime catalog

MCP servers and sub-agents have the same two routes, an upsert and a removal, each with its own
privileges, kinds of action and texts: `CatalogKind`.  An upsert looks its id up in the inventory
first, under the kind of the route: what is listed there is modified, the rest is created.  The
catalog then reads the same body by its own rules.

A sub-agent that comes with a command becomes a pool of the worker supervisor, and its removal
takes the pool away.  Groups of sub-agents have two routes with a privilege and no question.
-/

namespace MasterControl
namespace Admin

open Foundation Supervisor Clients Governance MasterControl.Configuration

/-- What a route asks of the supervisor. -/
inductive PoolCall where
  | upsertPool (pool : ManagedEndpointPool)
  | removePool (poolId : String)

structure CatalogRuntime where
  shared : SharedState := {}
  /-- `listEndpoints`: the endpoints as the inventory saw them last. -/
  inventory : List RuntimeEndpoint := []
  supervisor : WorkerSupervisor := {}
  /-- What the catalogs were asked. -/
  calls : List CatalogCall := []
  /-- What the supervisor was asked. -/
  poolCalls : List PoolCall := []

/-- The clock and the outcome of the write, and the host of the supervisor. -/
structure CatalogEnvironment where
  service : Environment
  host : Host

/-! ## Two kinds -/

inductive CatalogKind where
  | mcpServer
  | subAgent
  deriving DecidableEq

namespace CatalogKind

def endpointKind : CatalogKind → EndpointKind
  | mcpServer => .mcpServer
  | subAgent => .subAgent

def createAction : CatalogKind → GovernanceActionKind
  | mcpServer => .mcpServerCreate
  | subAgent => .subAgentCreate

def modifyAction : CatalogKind → GovernanceActionKind
  | mcpServer => .mcpServerModify
  | subAgent => .subAgentModify

def removeAction : CatalogKind → GovernanceActionKind
  | mcpServer => .mcpServerRemove
  | subAgent => .subAgentRemove

def canCreate (privileges : LanClientPrivileges) : CatalogKind → Bool
  | mcpServer => privileges.canCreateMcpServers
  | subAgent => privileges.canCreateSubAgents

def canModify (privileges : LanClientPrivileges) : CatalogKind → Bool
  | mcpServer => privileges.canModifyMcpServers
  | subAgent => privileges.canModifySubAgents

def canRemove (privileges : LanClientPrivileges) : CatalogKind → Bool
  | mcpServer => privileges.canRemoveMcpServers
  | subAgent => privileges.canRemoveSubAgents

def createPrivilege : CatalogKind → String
  | mcpServer => "canCreateMcpServers"
  | subAgent => "canCreateSubAgents"

def modifyPrivilege : CatalogKind → String
  | mcpServer => "canModifyMcpServers"
  | subAgent => "canModifySubAgents"

def removePrivilege : CatalogKind → String
  | mcpServer => "canRemoveMcpServers"
  | subAgent => "canRemoveSubAgents"

def upsertCall (endpoint : RuntimeEndpoint) : CatalogKind → CatalogCall
  | mcpServer => .upsertMcpServer endpoint
  | subAgent => .upsertSubAgent endpoint

def removeCall (id : String) : CatalogKind → CatalogCall
  | mcpServer => .removeMcpServer id
  | subAgent => .removeSubAgent id

def invalidUpsert : CatalogKind → String
  | mcpServer => "Invalid runtime MCP server payload: "
  | subAgent => "Invalid runtime sub-agent payload: "

def invalidRemoval : CatalogKind → String
  | mcpServer => "Invalid MCP server removal payload: "
  | subAgent => "Invalid sub-agent removal payload: "

def notFoundMessage : CatalogKind → String
  | mcpServer => "The requested MCP server was not found."
  | subAgent => "The requested sub-agent was not found."

end CatalogKind

/-! ## Upserts -/

/-- A call of the catalog. -/
def CatalogRuntime.perform (s : CatalogRuntime) (call : CatalogCall) (env : CatalogEnvironment) :
    OperationResult × CatalogRuntime :=
  let (result, shared) := (Call.catalog call).perform env.service s.shared
  (result, { s with shared, calls := s.calls ++ [call] })

/-- The pool that a sub-agent with a command becomes. -/
def autoPool (endpoint : RuntimeEndpoint) : ManagedEndpointPool where
  poolId := endpoint.id
  template := { executable := endpoint.command, args := endpoint.args }
  scalePolicy :=
    { minInstances := 0
      maxInstances := max 1 endpoint.autoscaleMaxInstances
      maxActiveLeasesPerInstance := max 1 endpoint.autoscaleMaxLeasesPerInstance }

/-- The body decides on the promotion, as it came. -/
def promotes (endpoint : RuntimeEndpoint) : Bool :=
  endpoint.kind = .subAgent && endpoint.id ≠ "" && endpoint.command ≠ ""

def CatalogRuntime.promote (s : CatalogRuntime) (env : CatalogEnvironment)
    (endpoint : RuntimeEndpoint) : CatalogRuntime :=
  if promotes endpoint then
    { s with
      supervisor := (upsertPool env.host (autoPool endpoint) s.supervisor).2
      poolCalls := s.poolCalls ++ [.upsertPool (autoPool endpoint)] }
  else s

/-- Whether the inventory lists an endpoint of the kind under the id. -/
def CatalogRuntime.knows (s : CatalogRuntime) (kind : CatalogKind) (requestedId : String) : Bool :=
  requestedId ≠ "" && s.inventory.any fun e => e.id = requestedId && e.kind = kind.endpointKind

/-- Create or modify: the privilege and the question that go with it.  In autonomous mode a
creation needs neither. -/
def createOrModify (kind : CatalogKind) (clu : CommandLogicUnit)
    (context : AuthenticatedRequestContext) (requestedId : String) (s : CatalogRuntime)
    (next : Reply CatalogRuntime) : Reply CatalogRuntime :=
  if s.knows kind requestedId then
    requirePrivilege context (kind.canModify context.privileges) kind.modifyPrivilege s <|
      enforceGovernance context clu kind.modifyAction requestedId "" s next
  else
    requirePrivilege context (kind.canCreate context.privileges || context.autonomousMode)
      kind.createPrivilege s <|
      if context.autonomousMode then next
      else enforceGovernance context clu kind.createAction requestedId "" s next

/-- The upsert behind the gates. -/
def upsertEndpoint (kind : CatalogKind) (env : CatalogEnvironment) (endpoint : RuntimeEndpoint)
    (s : CatalogRuntime) : Reply CatalogRuntime :=
  let (result, s) := s.perform (kind.upsertCall endpoint) env
  { answer := .operation (if result.succeeded then 200 else 400) result
    state :=
      match kind with
      | .mcpServer => s
      | .subAgent => if result.succeeded then s.promote env endpoint else s }

/-- `POST /api/runtime/mcp-servers` and `POST /api/runtime/subagents`. -/
def postEndpoint (kind : CatalogKind) (clu : CommandLogicUnit)
    (context : AuthenticatedRequestContext) (env : CatalogEnvironment)
    (body : Body RuntimeEndpoint) (s : CatalogRuntime) : Reply CatalogRuntime :=
  match body with
  | .malformed _ => badRequest s "Invalid JSON body."
  | .unreadable id exception =>
    createOrModify kind clu context id s (badRequest s (kind.invalidUpsert ++ exception))
  | .value endpoint =>
    createOrModify kind clu context endpoint.id s (upsertEndpoint kind env endpoint s)

/-! ## Removals -/

/-- The removal behind the gates. -/
def removeEndpoint (kind : CatalogKind) (env : CatalogEnvironment) (id : String)
    (s : CatalogRuntime) : Reply CatalogRuntime :=
  let (result, s) := s.perform (kind.removeCall id) env
  { answer := .operation
      (if result.succeeded then 200 else if result.message = kind.notFoundMessage then 404 else 400)
      result
    state :=
      match kind with
      | .mcpServer => s
      | .subAgent =>
        if result.succeeded && id ≠ "" then
          { s with
            supervisor := (removePool id s.supervisor).2
            poolCalls := s.poolCalls ++ [.removePool id] }
        else s }

/-- `POST /api/runtime/mcp-servers/remove` and `POST /api/runtime/subagents/remove`.  A body that
cannot be read still asks, with an empty id. -/
def postRemoval (kind : CatalogKind) (clu : CommandLogicUnit)
    (context : AuthenticatedRequestContext) (env : CatalogEnvironment)
    (body : Except String String) (s : CatalogRuntime) : Reply CatalogRuntime :=
  requirePrivilege context (kind.canRemove context.privileges) kind.removePrivilege s <|
    match body with
    | .error exception =>
      enforceGovernance context clu kind.removeAction "" "" s <|
        badRequest s (kind.invalidRemoval ++ exception)
    | .ok id =>
      enforceGovernance context clu kind.removeAction id "" s (removeEndpoint kind env id s)

/-! ## Groups -/

/-- `POST /api/runtime/subagent-groups`. -/
def postGroup (context : AuthenticatedRequestContext) (env : CatalogEnvironment)
    (body : Except String SubAgentGroupDefinition) (s : CatalogRuntime) : Reply CatalogRuntime :=
  requirePrivilege context context.privileges.canModifySubAgents "canModifySubAgents" s <|
    match body with
    | .error exception => badRequest s ("Invalid sub-agent group payload: " ++ exception)
    | .ok group =>
      let (result, s) := s.perform (.upsertGroup group) env
      { answer := .operation (if result.succeeded then 200 else 400) result, state := s }

/-- `POST /api/runtime/subagent-groups/remove`. -/
def postGroupRemoval (context : AuthenticatedRequestContext) (env : CatalogEnvironment)
    (body : Except String String) (s : CatalogRuntime) : Reply CatalogRuntime :=
  requirePrivilege context context.privileges.canModifySubAgents "canModifySubAgents" s <|
    match body with
    | .error exception => badRequest s ("Invalid sub-agent group removal payload: " ++ exception)
    | .ok groupId =>
      let (result, s) := s.perform (.removeGroup groupId) env
      { answer := .operation
          (if result.succeeded then 200
            else if result.message = "The requested sub-agent group was not found." then 404
            else 400) result
        state := s }

/-! ## Through the gates -/

section CreateOrModify

variable {kind : CatalogKind} {clu : CommandLogicUnit} {context : AuthenticatedRequestContext}
  {requestedId : String} {s : CatalogRuntime} {next : Reply CatalogRuntime}

/-- How the gates of an upsert are passed, and what is asked on the way. -/
inductive Passed (kind : CatalogKind) (clu : CommandLogicUnit)
    (context : AuthenticatedRequestContext) (requestedId : String) (s : CatalogRuntime) :
    List Question → Prop
  | modify (hknown : s.knows kind requestedId = true)
      (hcan : kind.canModify context.privileges = true)
      (hallows : Allows clu (context.question kind.modifyAction requestedId "")) :
      Passed kind clu context requestedId s
        [⟨context.question kind.modifyAction requestedId "",
          clu (context.question kind.modifyAction requestedId "")⟩]
  | autonomous (hknown : s.knows kind requestedId = false)
      (hauto : context.autonomousMode = true) : Passed kind clu context requestedId s []
  | create (hknown : s.knows kind requestedId = false)
      (hauto : context.autonomousMode = false)
      (hcan : kind.canCreate context.privileges = true)
      (hallows : Allows clu (context.question kind.createAction requestedId "")) :
      Passed kind clu context requestedId s
        [⟨context.question kind.createAction requestedId "",
          clu (context.question kind.createAction requestedId "")⟩]

/-- An upsert is stopped and does nothing, or passes and works. -/
theorem createOrModify_cases (kind : CatalogKind) (clu : CommandLogicUnit)
    (context : AuthenticatedRequestContext) (requestedId : String) (s : CatalogRuntime)
    (next : Reply CatalogRuntime) :
    (createOrModify kind clu context requestedId s next).state = s ∧
        (∀ asked, ¬ Passed kind clu context requestedId s asked) ∨
      ∃ asked, Passed kind clu context requestedId s asked ∧
        createOrModify kind clu context requestedId s next =
          { next with asked := asked ++ next.asked } := by
  unfold createOrModify
  cases hknown : s.knows kind requestedId with
  | true =>
    rw [if_pos rfl]
    by_cases hcan : kind.canModify context.privileges = true
    · rw [requirePrivilege_of_granted hcan]
      by_cases hallows : Allows clu (context.question kind.modifyAction requestedId "")
      · exact Or.inr ⟨_, .modify hknown hcan hallows, enforceGovernance_of_allows hallows⟩
      · refine Or.inl ⟨(enforceGovernance_of_not_allows hallows).1, fun asked hpassed => ?_⟩
        cases hpassed with
        | modify _ _ h => exact hallows h
        | autonomous h => rw [hknown] at h; cases h
        | create h => rw [hknown] at h; cases h
    · rw [requirePrivilege_of_not_granted hcan]
      refine Or.inl ⟨rfl, fun asked hpassed => ?_⟩
      cases hpassed with
      | modify _ h => exact hcan h
      | autonomous h => rw [hknown] at h; cases h
      | create h => rw [hknown] at h; cases h
  | false =>
    rw [if_neg Bool.false_ne_true]
    cases hauto : context.autonomousMode with
    | true =>
      rw [Bool.or_true, requirePrivilege_of_granted rfl, if_pos rfl]
      exact Or.inr ⟨[], .autonomous hknown hauto, rfl⟩
    | false =>
      rw [Bool.or_false, if_neg Bool.false_ne_true]
      by_cases hcan : kind.canCreate context.privileges = true
      · rw [requirePrivilege_of_granted hcan]
        by_cases hallows : Allows clu (context.question kind.createAction requestedId "")
        · exact Or.inr ⟨_, .create hknown hauto hcan hallows,
            enforceGovernance_of_allows hallows⟩
        · refine Or.inl ⟨(enforceGovernance_of_not_allows hallows).1, fun asked hpassed => ?_⟩
          cases hpassed with
          | modify h => rw [hknown] at h; cases h
          | autonomous _ h => rw [hauto] at h; cases h
          | create _ _ _ h => exact hallows h
      · rw [requirePrivilege_of_not_granted hcan]
        refine Or.inl ⟨rfl, fun asked hpassed => ?_⟩
        cases hpassed with
        | modify h => rw [hknown] at h; cases h
        | autonomous _ h => rw [hauto] at h; cases h
        | create _ _ h => exact hcan h

/-- The caller passes the gates of an upsert. -/
def MayPass (kind : CatalogKind) (clu : CommandLogicUnit) (context : AuthenticatedRequestContext)
    (requestedId : String) (s : CatalogRuntime) : Prop :=
  if s.knows kind requestedId then
    kind.canModify context.privileges = true ∧
      Allows clu (context.question kind.modifyAction requestedId "")
  else
    context.autonomousMode = true ∨
      kind.canCreate context.privileges = true ∧
        Allows clu (context.question kind.createAction requestedId "")

theorem mayPass_iff :
    MayPass kind clu context requestedId s ↔ ∃ asked, Passed kind clu context requestedId s asked
    := by
  unfold MayPass
  constructor
  · split
    · next hknown =>
      rintro ⟨hcan, hallows⟩
      exact ⟨_, .modify hknown hcan hallows⟩
    · next hknown =>
      have hunknown := Bool.eq_false_iff.mpr hknown
      intro hmay
      cases hauto : context.autonomousMode with
      | true => exact ⟨_, .autonomous hunknown hauto⟩
      | false =>
        rw [hauto] at hmay
        obtain ⟨hcan, hallows⟩ := hmay.resolve_left Bool.false_ne_true
        exact ⟨_, .create hunknown hauto hcan hallows⟩
  · rintro ⟨asked, hpassed⟩
    cases hpassed with
    | modify hknown hcan hallows =>
      rw [if_pos hknown]
      exact ⟨hcan, hallows⟩
    | autonomous hknown hauto =>
      rw [if_neg (Bool.eq_false_iff.mp hknown)]
      exact Or.inl hauto
    | create hknown _ hcan hallows =>
      rw [if_neg (Bool.eq_false_iff.mp hknown)]
      exact Or.inr ⟨hcan, hallows⟩

end CreateOrModify

end Admin
end MasterControl
