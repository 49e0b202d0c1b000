import MasterControl.Admin.ClientRoutes
import MasterControl.Admin.CreateOrModify
import MasterControl.Clients.ToolCapabilities
import MasterControl.Configuration.Entitlements

/-!
# While the posture is blocked

The routes of the catalog, of the client roster and of the modules put a question before they write
anything, and while the posture is blocked the answer is no.  So nothing changes, but for the
autonomous mode of a client, which may be switched off.

Two kinds of request are not asked about: a creation by a caller in autonomous mode, as the operator
at the machine is, and whatever concerns a group of sub-agents.  They are the only ones to change
anything (`frozen_iff`).
-/

namespace MasterControl
namespace Admin
namespace BlockedPosture

open Foundation Gateway Supervisor Clients Governance MasterControl.Configuration
open MasterControl.Configuration.Entitlements

/-! ## Modules -/

structure ModuleRuntime where
  manifestIds : List String := []
  active : List String := []
  /-- The file of the entitlements. -/
  file : StateFile := .absent
  /-- What is unlocked in memory. -/
  unlocked : EntitlementStateDocument := {}

/-- What the file system and the modules do during a call. -/
structure ModuleEnvironment where
  defaultState : EntitlementStateDocument := {}
  created : SaveOutcome := .written
  written : SaveOutcome := .written
  createdAgain : SaveOutcome := .written
  readFails : Bool := false
  readAgainFails : Bool := false
  /-- What is thrown if the file holds something else. -/
  typeError : String := ""
  deactivationThrows : Option String := none
  activationThrows : Option String := none

abbrev ModuleAction := ExceptT String (StateM ModuleRuntime)

section Modules

variable (env : ModuleEnvironment)

def ensureStateFile (outcome : SaveOutcome) : ModuleAction Unit :=
  modify fun m =>
    if m.file = .absent then { m with file := outcome.save env.defaultState } else m

/-- What a read of the file comes to. -/
def loadState (fails : Bool) : ModuleAction EntitlementStateDocument := do
  match readState env.defaultState fails (← get).file with
  | some state => return state
  | none => throw env.typeError

def refreshEntitlements : ModuleAction Unit := do
  ensureStateFile env env.createdAgain
  let state ← loadState env env.readAgainFails
  modify fun m => { m with unlocked := state }

def setModuleUnlocked (moduleId : String) (unlocked : Bool) : ModuleAction Unit := do
  ensureStateFile env env.created
  let state ← loadState env env.readFails
  modify fun m => { m with file := env.written.save (state.withModule moduleId unlocked) }
  refreshEntitlements env

def deactivateModule (moduleId : String) : ModuleAction Unit :=
  match env.deactivationThrows with
  | some exception => throw exception
  | none => modify fun m => { m with active := m.active.filter (· ≠ moduleId) }

def activateModule (moduleId : String) : ModuleAction Unit :=
  match env.activationThrows with
  | some exception => throw exception
  | none => modify fun m => { m with active := m.active ++ [moduleId] }

def isModuleActive (moduleId : String) : ModuleAction Bool :=
  return (← get).active.contains moduleId

/-- An action on a module, and what is said of it; nothing of an unknown one. -/
def applyModuleAction (moduleId normalizedAction : String) : ModuleAction (Option String) := do
  if normalizedAction = "install" || normalizedAction = "enable" then
    setModuleUnlocked env moduleId true
    if !(← isModuleActive moduleId) then
      activateModule env moduleId
    return some "Forsetti module is now installed and active."
  if normalizedAction = "update" || normalizedAction = "reload" then
    setModuleUnlocked env moduleId true
    if ← isModuleActive moduleId then
      deactivateModule env moduleId
    activateModule env moduleId
    return some "Forsetti module was refreshed in the live runtime."
  if normalizedAction = "disable" || normalizedAction = "remove" then
    if ← isModuleActive moduleId then
      deactivateModule env moduleId
    setModuleUnlocked env moduleId false
    return some "Forsetti module was disabled and removed from the unlocked set."
  return none

def protectedForsettiModuleIds : List String :=
  ["com.mastercontrol.configuration", "com.mastercontrol.runtime-inventory",
   "com.mastercontrol.command-logic-unit", "com.mastercontrol.dashboard-ui"]

def manageForsettiModule (moduleId action : String) (m : ModuleRuntime) :
    OperationResult × ModuleRuntime :=
  let normalizedAction := trimCopy action
  if moduleId = "" then
    (⟨false, false, "Select a Forsetti module before applying an action."⟩, m)
  else if !m.manifestIds.contains moduleId then
    (⟨false, false, "The selected Forsetti module was not found."⟩, m)
  else if normalizedAction = "" then
    (⟨false, false, "Select a Forsetti module action before continuing."⟩, m)
  else if (normalizedAction = "disable" || normalizedAction = "remove") &&
      protectedForsettiModuleIds.contains moduleId then
    (⟨false, false,
      "Core orchestration modules cannot be disabled from the guided module wizard."⟩, m)
  else
    match (applyModuleAction env moduleId normalizedAction).run.run m with
    | (.ok (some message), m) => (⟨true, false, message⟩, m)
    | (.ok none, m) => (⟨false, false, "Unknown Forsetti module action."⟩, m)
    | (.error exception, m) => (⟨false, false, exception⟩, m)

/-- What the route reads from its body.  What is thrown behind the parsing leaves the route. -/
inductive ModuleBody where
  | malformed (exception : String)
  | unreadable (exception : String)
  | value (moduleId action : String)

/-- `POST /api/forsetti/modules/state`. -/
def postModuleState (clu : CommandLogicUnit) (context : AuthenticatedRequestContext)
    (body : ModuleBody) (m : ModuleRuntime) : Reply ModuleRuntime :=
  requirePrivilege context context.privileges.canManageModules "canManageModules" m <|
    match body with
    | .malformed exception =>
      badRequest m ("Invalid Forsetti module state payload: " ++ exception)
    | .unreadable exception => { answer := .operation 500 ⟨false, false, exception⟩, state := m }
    | .value moduleId action =>
      enforceGovernance context clu
        (if action = "disable" || action = "remove" then .moduleDisable else .moduleEnable)
        moduleId "" m <|
        let (result, m) := manageForsettiModule env moduleId action m
        { answer := .operation
            (if result.succeeded then 200
              else if result.message = "The selected Forsetti module was not found." then 404
              else 400) result
          state := m }

end Modules

/-! ## Requests -/

structure AdminRuntime where
  catalog : CatalogRuntime := {}
  roster : List LanClient := []
  modules : ModuleRuntime := {}

structure AdminEnvironment where
  catalog : CatalogEnvironment
  roster : RosterEnvironment
  modules : ModuleEnvironment := {}

/-- What each route reads from the body, by its own rules. -/
structure AdminBody where
  endpoint : Body RuntimeEndpoint := .malformed ""
  removedId : CatalogKind → Except String String := fun _ => .error ""
  group : Except String SubAgentGroupDefinition := .error ""
  removedGroupId : Except String String := .error ""
  client : ClientBody := {}
  moduleState : ModuleBody := .malformed ""

structure AdminRequest where
  method : String
  path : String
  /-- `X-MCOS-Client-Id`, trimmed. -/
  headerClientId : String := ""
  isLocalRequest : Bool := false
  body : AdminBody := {}

inductive AdminRoute where
  | upsert (kind : CatalogKind)
  | removal (kind : CatalogKind)
  | group
  | groupRemoval
  | moduleState
  | client (route : ClientRoute)
  deriving DecidableEq

def AdminRoute.of (method path : String) : AdminRoute :=
  if method = "POST" && path = "/api/runtime/mcp-servers" then .upsert .mcpServer
  else if method = "POST" && path = "/api/runtime/mcp-servers/remove" then .removal .mcpServer
  else if method = "POST" && path = "/api/runtime/subagents" then .upsert .subAgent
  else if method = "POST" && path = "/api/runtime/subagents/remove" then .removal .subAgent
  else if method = "POST" && path = "/api/runtime/subagent-groups" then .group
  else if method = "POST" && path = "/api/runtime/subagent-groups/remove" then .groupRemoval
  else if method = "POST" && path = "/api/forsetti/modules/state" then .moduleState
  else .client (ClientRoute.of method path)

def AdminRequest.route (request : AdminRequest) : AdminRoute :=
  AdminRoute.of request.method request.path

def catalogPaths : List String :=
  ["/api/runtime/mcp-servers", "/api/runtime/mcp-servers/remove", "/api/runtime/subagents",
   "/api/runtime/subagents/remove", "/api/runtime/subagent-groups",
   "/api/runtime/subagent-groups/remove"]

/-- The rows of the policy table that these routes meet. -/
def requiredCapabilitiesForRoute (method path : String) : List String :=
  let path := stripQuery path
  if !isMutatingMethod method then []
  else if path = clientsPath || startsWith path clientPathStart then [kCapabilityClientsManage]
  else if path = "/api/forsetti/modules/state" then [kCapabilityInstallPackage]
  else if catalogPaths.contains path then [kCapabilityProcessExec]
  else []

/-! ## Callers -/

def allOperatorCapabilities : List String :=
  [kCapabilityProcessExec, kCapabilityFilesystemRead, kCapabilityFilesystemWrite,
   kCapabilityDesktopControl, kCapabilityInputSynthesize, kCapabilityScreenCapture,
   kCapabilityNetworkAdmin, kCapabilityInstallPackage, kCapabilityGovernanceModify,
   kCapabilityClientsManage, kCapabilitySupervisorAssign]

/-- `makeLocalOperatorContext`. -/
def localOperatorContext : AuthenticatedRequestContext where
  privileges :=
    { canCreateMcpServers := true
      canModifyMcpServers := true
      canRemoveMcpServers := true
      canCreateSubAgents := true
      canModifySubAgents := true
      canRemoveSubAgents := true
      canManageClients := true
      canManageModules := true
      canChangeGovernancePolicy := true }
  capabilities := allOperatorCapabilities
  autonomousMode := true
  actor := "local-operator"

/-- Who sends a request: nobody who is known, with what a mutating request of theirs is told; the
operator at the machine; or a client. -/
inductive Caller where
  | nobody (errorMessage actor : String)
  | localOperator
  | client (client : LanClient)

def AdminRequest.caller (request : AdminRequest) (roster : List LanClient) : Caller :=
  if request.headerClientId = "" then
    if request.isLocalRequest then .localOperator
    else .nobody "Authentication is required for mutating requests." "anonymous"
  else
    match getClient request.headerClientId roster with
    | none => .nobody "Unknown LAN client identity." "anonymous"
    | some client =>
      if client.enabled then .client client
      else .nobody ("LAN client is disabled: " ++ client.clientId) client.clientId

/-! ## Serving -/

/-- A reply about a part of the state. -/
def inside {σ τ : Type} (put : σ → τ) (reply : Reply σ) : Reply τ where
  answer := reply.answer
  state := put reply.state
  asked := reply.asked

def serve (clu : CommandLogicUnit) (context : AuthenticatedRequestContext)
    (env : AdminEnvironment) (request : AdminRequest) (s : AdminRuntime) : Reply AdminRuntime :=
  match request.route with
  | .upsert kind => inside (fun catalog => { s with catalog }) <|
    postEndpoint kind clu context env.catalog request.body.endpoint s.catalog
  | .removal kind => inside (fun catalog => { s with catalog }) <|
    postRemoval kind clu context env.catalog (request.body.removedId kind) s.catalog
  | .group => inside (fun catalog => { s with catalog }) <|
    postGroup context env.catalog request.body.group s.catalog
  | .groupRemoval => inside (fun catalog => { s with catalog }) <|
    postGroupRemoval context env.catalog request.body.removedGroupId s.catalog
  | .moduleState => inside (fun modules => { s with modules }) <|
    postModuleState env.modules clu context request.body.moduleState s.modules
  | .client route => inside (fun roster => { s with roster }) <|
    serveClients clu context env.roster s.roster route request.body.client

/-- What the identification leaves behind. -/
def identified (env : AdminEnvironment) (caller : Caller) (s : AdminRuntime) : AdminRuntime :=
  match caller with
  | .client client =>
    { s with roster := touchClient env.roster.timestampNowUtc client.clientId "" s.roster }
  | _ => s

def handleHttpRequest (clu : CommandLogicUnit) (env : AdminEnvironment) (request : AdminRequest)
    (s : AdminRuntime) : Reply AdminRuntime :=
  let caller := request.caller s.roster
  let s := identified env caller s
  match caller with
  | .nobody errorMessage actor =>
    if isMutatingMethod request.method then
      { answer := .identityFailure errorMessage actor, state := s }
    else serve clu {} env request s
  | .localOperator => serve clu localOperatorContext env request s
  | .client client =>
    let context := clientContext client
    let required := requiredCapabilitiesForRoute request.method request.path
    if required.all (hasCapability context.capabilities) then serve clu context env request s
    else { answer := .capabilityMissing context.actor required, state := s }

/-! ## The freeze -/

/-- A record without the sign of life that a request leaves behind. -/
def settled (client : LanClient) : LanClient := { client with lastSeenUtc := "" }

/-- The request asks to switch off the autonomous mode of the client with this id. -/
def SwitchesOff (request : AdminRequest) (id : String) : Prop :=
  ∃ clientId, request.route = .client (.autonomousMode clientId) ∧ normalizeId clientId = id ∧
    request.body.client.enabled = .ok false

/-- A record is as it was, or its autonomous mode was switched off on request. -/
def KeptClient (request : AdminRequest) (before after : LanClient) : Prop :=
  settled after = settled before ∨
    SwitchesOff request before.clientId ∧
      settled after = settled { before with autonomousMode := false }

structure Frozen (request : AdminRequest) (before after : AdminRuntime) : Prop where
  endpoints : after.catalog.shared.configuration.endpoints =
    before.catalog.shared.configuration.endpoints
  groups : after.catalog.shared.configuration.subAgentGroups =
    before.catalog.shared.configuration.subAgentGroups
  clients : List.Forall₂ (KeptClient request) before.roster after.roster
  unlocked : after.modules.unlocked = before.modules.unlocked

/-! ## The condition -/

/-- The context in which the route is reached. -/
def admitted (request : AdminRequest) (roster : List LanClient) :
    Option AuthenticatedRequestContext :=
  match request.caller roster with
  | .nobody _ _ => none
  | .localOperator => some localOperatorContext
  | .client client =>
    if (requiredCapabilitiesForRoute request.method request.path).all
        (hasCapability (clientContext client).capabilities) then
      some (clientContext client)
    else none

/-- The catalog accepts the endpoint, and does not list it like that. -/
def EditsEndpoint (kind : CatalogKind) (env : CatalogEnvironment) (endpoint : RuntimeEndpoint)
    (configuration : AppConfiguration) : Prop :=
  ((kind.upsertCall endpoint).edit env.service.timestampNowUtc).refusal configuration = none ∧
    configuration.endpoints.find? (fun e => e.id = trimCopy endpoint.id) ≠
      some (kind.normalized env.service.timestampNowUtc endpoint configuration)

/-- The catalog accepts the group, and does not list it like that, or lists its groups in another
order. -/
def EditsGroup (env : CatalogEnvironment) (group : SubAgentGroupDefinition)
    (configuration : AppConfiguration) : Prop :=
  (upsertGroup env.service.timestampNowUtc group).refusal configuration = none ∧
    ¬ (configuration.subAgentGroups.find? (fun candidate => candidate.groupId = group.groupId) =
        some (normalizedGroup env.service.timestampNowUtc group configuration) ∧
      configuration.subAgentGroups.Pairwise SubAgentGroupDefinition.listedBefore)

/-- In this context the request edits the catalog, and nobody is asked: it creates an endpoint in
autonomous mode, or is about a group. -/
def SkipsQuestion (context : AuthenticatedRequestContext) (env : CatalogEnvironment)
    (request : AdminRequest) (s : CatalogRuntime) : Prop :=
  match request.route with
  | .upsert kind =>
    context.autonomousMode = true ∧ ∃ endpoint, request.body.endpoint = .value endpoint ∧
      s.knows kind endpoint.id = false ∧ EditsEndpoint kind env endpoint s.shared.configuration
  | .group =>
    context.privileges.canModifySubAgents = true ∧ ∃ group, request.body.group = .ok group ∧
      EditsGroup env group s.shared.configuration
  | .groupRemoval =>
    context.privileges.canModifySubAgents = true ∧
      ∃ groupId, request.body.removedGroupId = .ok groupId ∧
        (removeGroup groupId).refusal s.shared.configuration = none
  | _ => False

def EditsUnasked (env : AdminEnvironment) (request : AdminRequest) (s : AdminRuntime) : Prop :=
  ∃ context, admitted request s.roster = some context ∧
    SkipsQuestion context env.catalog request s.catalog

/-! ## Behind a question -/

section Questions

variable {settings : GovernedSettings} {observed : Observed} {σ : Type}
  {context : AuthenticatedRequestContext} {action : GovernanceActionKind} {state : σ}
  {next : Reply σ}

/-- Where the posture decides, the answer is no. -/
theorem not_allows_of_blocked
    (hblocked : (currentGovernance settings observed).posture = .blocked)
    (haction : (postureMessage action).isSome = true) (targetId source : String) :
    ¬ Allows (enforceAction settings observed) (context.question action targetId source) :=
  fun hallows => (outcome_enforceAction_of_postureGoverned haction).mp hallows hblocked

theorem state_enforceGovernance
    (hblocked : (currentGovernance settings observed).posture = .blocked)
    (haction : (postureMessage action).isSome = true) (targetId source : String) :
    (enforceGovernance context (enforceAction settings observed) action targetId source state
      next).state = state :=
  (enforceGovernance_of_not_allows (not_allows_of_blocked hblocked haction targetId source)).1

theorem state_requirePrivilege {granted : Bool} {privilegeName : String}
    (h : next.state = state) :
    (requirePrivilege context granted privilegeName state next).state = state := by
  unfold requirePrivilege
  split_ifs
  · exact h
  · rfl

/-- Autonomous mode is not switched on. -/
theorem not_allows_enable (hblocked : (currentGovernance settings observed).posture = .blocked)
    (clientId : String) :
    ¬ Allows (enforceAction settings observed)
      (context.question .clientAutonomousModeChange clientId "enable") := by
  intro hallows
  rcases (outcome_enforceAction_autonomousMode rfl).mp hallows with hsource | ⟨hfree, -⟩
  · exact absurd hsource (by decide : ("enable" : String) ≠ "disable")
  · exact hfree hblocked

theorem state_postModuleState
    (hblocked : (currentGovernance settings observed).posture = .blocked)
    (env : ModuleEnvironment) (body : ModuleBody) (m : ModuleRuntime) :
    (postModuleState env (enforceAction settings observed) context body m).state = m := by
  unfold postModuleState
  refine state_requirePrivilege ?_
  cases body with
  | malformed exception | unreadable exception => rfl
  | value moduleId moduleAction =>
    refine state_enforceGovernance hblocked ?_ moduleId ""
    split_ifs <;> rfl

theorem state_postRemoval
    (hblocked : (currentGovernance settings observed).posture = .blocked) (kind : CatalogKind)
    (env : CatalogEnvironment) (body : Except String String) (s : CatalogRuntime) :
    (postRemoval kind (enforceAction settings observed) context env body s).state = s := by
  have haction : (postureMessage kind.removeAction).isSome = true := by cases kind <;> rfl
  unfold postRemoval
  refine state_requirePrivilege ?_
  cases body with
  | error exception => exact state_enforceGovernance hblocked haction "" ""
  | ok id => exact state_enforceGovernance hblocked haction id ""

end Questions

/-! ## The roster -/

section Roster

variable {settings : GovernedSettings} {observed : Observed}
  {context : AuthenticatedRequestContext} {env : RosterEnvironment} {request : AdminRequest}
  {before roster : List LanClient} {old new : LanClient}

theorem KeptClient.clientId (h : KeptClient request old new) : new.clientId = old.clientId := by
  have hid : (settled new).clientId = (settled old).clientId := by
    rcases h with h | ⟨-, h⟩ <;> rw [h]
    rfl
  exact hid

/-- Of a record that was kept the autonomous mode may still be switched off. -/
theorem KeptClient.switchOff (h : KeptClient request old new)
    (hoff : SwitchesOff request new.clientId) :
    KeptClient request old { new with autonomousMode := false } := by
  have hsettled : settled { new with autonomousMode := false } =
      settled { old with autonomousMode := false } := by
    rcases h with h | ⟨-, h⟩ <;>
      exact congrArg (fun client : LanClient => { client with autonomousMode := false }) h
  rw [h.clientId] at hoff
  exact .inr ⟨hoff, hsettled⟩

theorem forall₂_kept_refl (roster : List LanClient) :
    List.Forall₂ (KeptClient request) roster roster :=
  List.forall₂_same.mpr fun _ _ => .inl rfl

/-- A request that was identified leaves a sign of life. -/
theorem forall₂_identified (env : AdminEnvironment) (caller : Caller) (s : AdminRuntime) :
    List.Forall₂ (KeptClient request) s.roster (identified env caller s).roster := by
  cases caller with
  | nobody errorMessage actor | localOperator => exact forall₂_kept_refl s.roster
  | client client =>
    show List.Forall₂ _ _ (touchClient _ client.clientId "" s.roster)
    unfold touchClient
    split_ifs
    · exact forall₂_kept_refl s.roster
    · refine forall₂_updateFirst (fun _ _ => .inl rfl) fun old _ => .inl ?_
      unfold settled seen
      rw [if_pos rfl]

/-- Switching off changes one record, if it is asked for. -/
theorem forall₂_setAutonomousMode {clientId : String}
    (hroute : request.route = .client (.autonomousMode clientId))
    (henabled : request.body.client.enabled = .ok false)
    (h : List.Forall₂ (KeptClient request) before roster) :
    List.Forall₂ (KeptClient request) before
      ((setAutonomousMode clientId false).perform env.persisted roster).2 := by
  unfold RosterEdit.perform
  cases (setAutonomousMode clientId false).refusal roster with
  | some result => exact h
  | none =>
    refine forall₂_updateFirst_right h fun old new hkept hnamed => hkept.switchOff ?_
    exact ⟨clientId, hroute, (isNamed_iff.mp hnamed).symm, henabled⟩

theorem forall₂_postAutonomousMode {clientId : String}
    (hblocked : (currentGovernance settings observed).posture = .blocked)
    (hroute : request.route = .client (.autonomousMode clientId))
    (h : List.Forall₂ (KeptClient request) before roster) :
    List.Forall₂ (KeptClient request) before
      (postAutonomousMode (enforceAction settings observed) context env roster clientId
        request.body.client.enabled).state := by
  unfold postAutonomousMode requireManageClients requirePrivilege
  split_ifs
  · cases henabled : request.body.client.enabled with
    | error exception => exact h
    | ok enabled =>
      cases enabled with
      | true =>
        have hstate : (enforceGovernance context (enforceAction settings observed)
            .clientAutonomousModeChange clientId "enable" roster
            (editRoster env roster (setAutonomousMode clientId true) okOrNotFound)).state =
              roster :=
          (enforceGovernance_of_not_allows (not_allows_enable hblocked clientId)).1
        exact hstate.symm ▸ h
      | false =>
        rcases enforceGovernance_cases context (enforceAction settings observed)
          .clientAutonomousModeChange clientId "disable" roster
          (editRoster env roster (setAutonomousMode clientId false) okOrNotFound) with
          ⟨hstate, -⟩ | ⟨-, hpassed⟩
        · exact hstate.symm ▸ h
        · have hstate := congrArg Reply.state hpassed
          exact hstate.symm ▸ forall₂_setAutonomousMode hroute henabled h
  · exact h

/-- The other routes of the roster ask, and leave the roster alone. -/
theorem state_serveClients (hblocked : (currentGovernance settings observed).posture = .blocked)
    {route : ClientRoute} (hroute : ∀ clientId, route ≠ .autonomousMode clientId)
    (body : ClientBody) :
    (serveClients (enforceAction settings observed) context env roster route body).state =
      roster := by
  cases route with
  | upsert =>
    refine state_requirePrivilege ?_
    cases body.client with
    | malformed exception => exact state_enforceGovernance hblocked rfl "" ""
    | unreadable newClientId exception =>
      exact state_enforceGovernance hblocked rfl newClientId ""
    | value client => exact state_enforceGovernance hblocked rfl client.clientId ""
  | disable clientId | enable clientId | privileges clientId =>
    exact state_requirePrivilege (state_enforceGovernance hblocked rfl clientId "")
  | autonomousMode clientId => exact absurd rfl (hroute clientId)
  | delete clientId =>
    refine state_requirePrivilege ?_
    split_ifs
    · rfl
    · exact state_enforceGovernance hblocked rfl clientId ""
  | elsewhere => rfl

theorem forall₂_serveClients (hblocked : (currentGovernance settings observed).posture = .blocked)
    {route : ClientRoute} (hroute : request.route = .client route)
    (h : List.Forall₂ (KeptClient request) before roster) :
    List.Forall₂ (KeptClient request) before
      (serveClients (enforceAction settings observed) context env roster route
        request.body.client).state := by
  by_cases hmode : ∃ clientId, route = .autonomousMode clientId
  · obtain ⟨clientId, rfl⟩ := hmode
    exact forall₂_postAutonomousMode hblocked hroute h
  · rw [state_serveClients hblocked (not_exists.mp hmode)]
    exact h

end Roster

/-! ## The catalog -/

section Catalog

variable {settings : GovernedSettings} {observed : Observed} {kind : CatalogKind}
  {context : AuthenticatedRequestContext} {env : CatalogEnvironment} {s : CatalogRuntime}
  {endpoint : RuntimeEndpoint} {group : SubAgentGroupDefinition} {groupId : String}

/-- The catalog is as it was. -/
def SameCatalog (before after : CatalogRuntime) : Prop :=
  after.shared.configuration.endpoints = before.shared.configuration.endpoints ∧
    after.shared.configuration.subAgentGroups = before.shared.configuration.subAgentGroups

theorem sameCatalog_of_eq {after : CatalogRuntime} (h : after = s) : SameCatalog s after := by
  rw [h]
  exact ⟨rfl, rfl⟩

theorem sameCatalog_upsertEndpoint_iff :
    SameCatalog s (upsertEndpoint kind env endpoint s).state ↔
      ¬ EditsEndpoint kind env endpoint s.shared.configuration := by
  unfold EditsEndpoint
  cases hrefusal : ((kind.upsertCall endpoint).edit env.service.timestampNowUtc).refusal
      s.shared.configuration with
  | some result =>
    refine iff_of_true ?_ fun h => by cases h.1
    unfold SameCatalog
    rw [shared_upsertEndpoint, Edit.perform, hrefusal]
    exact ⟨rfl, rfl⟩
  | none =>
    have hid : (kind.normalized env.service.timestampNowUtc endpoint
        s.shared.configuration).id = trimCopy endpoint.id := by cases kind <;> rfl
    have hput := upsertFirst_eq_self_iff (l := s.shared.configuration.endpoints)
      (p := fun e => e.id = trimCopy endpoint.id) (decide_eq_true hid)
    have hgroups :
        (upsertEndpoint kind env endpoint s).state.shared.configuration.subAgentGroups =
          s.shared.configuration.subAgentGroups := by
      rw [shared_upsertEndpoint, Edit.perform, hrefusal]
      cases kind <;> rfl
    unfold SameCatalog
    rw [endpoints_upsertEndpoint hrefusal, hput]
    constructor
    · rintro ⟨hfind, -⟩ ⟨-, hne⟩
      exact hne hfind
    · intro h
      exact ⟨not_not.mp fun hne => h ⟨rfl, hne⟩, hgroups⟩

/-- What becomes of an upsert: nothing, or what the catalog makes of a creation that nobody was
asked about. -/
theorem state_postEndpoint (hblocked : (currentGovernance settings observed).posture = .blocked)
    (body : Body RuntimeEndpoint) :
    (postEndpoint kind (enforceAction settings observed) context env body s).state =
      match body with
      | .value endpoint =>
        if context.autonomousMode = true ∧ s.knows kind endpoint.id = false then
          (upsertEndpoint kind env endpoint s).state
        else s
      | _ => s := by
  cases body with
  | malformed exception => rfl
  | unreadable id exception => exact state_createOrModify_badRequest id _
  | value endpoint =>
    have hmodify : (postureMessage kind.modifyAction).isSome = true := by cases kind <;> rfl
    have hcreate : (postureMessage kind.createAction).isSome = true := by cases kind <;> rfl
    show (createOrModify kind _ context endpoint.id s (upsertEndpoint kind env endpoint s)).state =
      ite _ _ _
    rcases createOrModify_cases kind (enforceAction settings observed) context endpoint.id s
      (upsertEndpoint kind env endpoint s) with ⟨hstate, hstopped⟩ | ⟨asked, hpassed, he⟩
    · rw [hstate, if_neg fun h => hstopped [] (.autonomous h.2 h.1)]
    · rw [he]
      cases hpassed with
      | modify _ _ hallows => exact absurd hallows (not_allows_of_blocked hblocked hmodify _ _)
      | autonomous hknown hauto => exact (if_pos ⟨hauto, hknown⟩).symm
      | create _ _ _ hallows =>
        exact absurd hallows (not_allows_of_blocked hblocked hcreate _ _)

theorem listedBefore_iff {left right : SubAgentGroupDefinition} :
    left.listedBefore right ↔
      toLex (left.displayName, left.groupId) ≤ toLex (right.displayName, right.groupId) := by
  rw [Prod.Lex.le_iff]
  rfl

theorem groups_upsertGroup_iff (now : String) (configuration : AppConfiguration) :
    ((upsertGroup now group).apply configuration).subAgentGroups = configuration.subAgentGroups ↔
      configuration.subAgentGroups.find? (fun candidate => candidate.groupId = group.groupId) =
          some (normalizedGroup now group configuration) ∧
        configuration.subAgentGroups.Pairwise SubAgentGroupDefinition.listedBefore :=
  haveI : Std.Total SubAgentGroupDefinition.listedBefore :=
    ⟨fun left right => by
      rw [listedBefore_iff, listedBefore_iff]
      exact le_total _ _⟩
  haveI : IsTrans SubAgentGroupDefinition SubAgentGroupDefinition.listedBefore :=
    ⟨fun left middle right hleft hright => by
      rw [listedBefore_iff] at hleft hright ⊢
      exact hleft.trans hright⟩
  insertionSort_upsertFirst_eq_self_iff SubAgentGroupDefinition.listedBefore
    (decide_eq_true (rfl : (normalizedGroup now group configuration).groupId = group.groupId))

/-- A call that is refused leaves the configuration, any other edits it. -/
theorem configuration_perform (call : CatalogCall) :
    (s.perform call env).2.shared.configuration =
      match (call.edit env.service.timestampNowUtc).refusal s.shared.configuration with
      | some _ => s.shared.configuration
      | none => (call.edit env.service.timestampNowUtc).apply s.shared.configuration := by
  show (Edit.perform (call.edit _) env.service.write s.shared).2.configuration = _
  unfold Edit.perform
  cases (call.edit env.service.timestampNowUtc).refusal s.shared.configuration <;> rfl

theorem sameCatalog_upsertGroup_iff :
    SameCatalog s (s.perform (.upsertGroup group) env).2 ↔
      ¬ EditsGroup env group s.shared.configuration := by
  unfold SameCatalog EditsGroup
  rw [configuration_perform]
  dsimp only [CatalogCall.edit]
  cases hrefusal : (upsertGroup env.service.timestampNowUtc group).refusal
      s.shared.configuration with
  | some result => exact iff_of_true ⟨rfl, rfl⟩ fun h => by cases h.1
  | none =>
    rw [← groups_upsertGroup_iff]
    constructor
    · rintro ⟨-, hgroups⟩ ⟨-, hne⟩
      exact hne hgroups
    · intro h
      exact ⟨rfl, not_not.mp fun hne => h ⟨rfl, hne⟩⟩

/-- A removal that is not refused leaves fewer groups. -/
theorem sameCatalog_removeGroup_iff :
    SameCatalog s (s.perform (.removeGroup groupId) env).2 ↔
      ¬ (removeGroup groupId).refusal s.shared.configuration = none := by
  unfold SameCatalog
  rw [configuration_perform]
  dsimp only [CatalogCall.edit]
  cases hrefusal : (removeGroup groupId).refusal s.shared.configuration with
  | some result => exact iff_of_true ⟨rfl, rfl⟩ fun h => by cases h
  | none =>
    refine iff_of_false ?_ (not_not.mpr rfl)
    rintro ⟨-, hgroups⟩
    have hlength := congrArg List.length hgroups
    unfold removeGroup at hrefusal hlength
    dsimp only at hrefusal hlength
    rw [if_pos hlength] at hrefusal
    split_ifs at hrefusal <;> cases hrefusal

theorem sameCatalog_postGroup_iff (body : Except String SubAgentGroupDefinition) :
    SameCatalog s (postGroup context env body s).state ↔
      ¬ (context.privileges.canModifySubAgents = true ∧ ∃ group, body = .ok group ∧
        EditsGroup env group s.shared.configuration) := by
  unfold postGroup requirePrivilege
  split_ifs with hcan
  · cases body with
    | error exception =>
      refine iff_of_true ⟨rfl, rfl⟩ ?_
      rintro ⟨-, group, he, -⟩
      cases he
    | ok group =>
      refine sameCatalog_upsertGroup_iff.trans (not_congr ?_)
      constructor
      · exact fun h => ⟨hcan, group, rfl, h⟩
      · rintro ⟨-, other, he, h⟩
        cases he
        exact h
  · exact iff_of_true ⟨rfl, rfl⟩ fun h => hcan h.1

theorem sameCatalog_postGroupRemoval_iff (body : Except String String) :
    SameCatalog s (postGroupRemoval context env body s).state ↔
      ¬ (context.privileges.canModifySubAgents = true ∧ ∃ groupId, body = .ok groupId ∧
        (removeGroup groupId).refusal s.shared.configuration = none) := by
  unfold postGroupRemoval requirePrivilege
  split_ifs with hcan
  · cases body with
    | error exception =>
      refine iff_of_true ⟨rfl, rfl⟩ ?_
      rintro ⟨-, groupId, he, -⟩
      cases he
    | ok groupId =>
      refine sameCatalog_removeGroup_iff.trans (not_congr ?_)
      constructor
      · exact fun h => ⟨hcan, groupId, rfl, h⟩
      · rintro ⟨-, other, he, h⟩
        cases he
        exact h
  · exact iff_of_true ⟨rfl, rfl⟩ fun h => hcan h.1

theorem sameCatalog_postEndpoint_iff
    (hblocked : (currentGovernance settings observed).posture = .blocked)
    (body : Body RuntimeEndpoint) :
    SameCatalog s (postEndpoint kind (enforceAction settings observed) context env body s).state ↔
      ¬ (context.autonomousMode = true ∧ ∃ endpoint, body = .value endpoint ∧
        s.knows kind endpoint.id = false ∧ EditsEndpoint kind env endpoint s.shared.configuration)
    := by
  rw [state_postEndpoint hblocked]
  cases body with
  | malformed exception | unreadable id exception =>
    refine iff_of_true ⟨rfl, rfl⟩ ?_
    rintro ⟨-, endpoint, he, -⟩
    cases he
  | value endpoint =>
    dsimp only
    split_ifs with h
    · refine sameCatalog_upsertEndpoint_iff.trans (not_congr ?_)
      constructor
      · exact fun hedits => ⟨h.1, endpoint, rfl, h.2, hedits⟩
      · rintro ⟨-, other, he, -, hedits⟩
        cases he
        exact hedits
    · refine iff_of_true ⟨rfl, rfl⟩ ?_
      rintro ⟨hauto, other, he, hknown, -⟩
      cases he
      exact h ⟨hauto, hknown⟩

end Catalog

/-! ## The law -/

section Law

variable {settings : GovernedSettings} {observed : Observed} {env : AdminEnvironment}
  {request : AdminRequest} {s : AdminRuntime} {roster : List LanClient}

/-- Where only the catalog and signs of life may differ, the catalog decides. -/
theorem frozen_iff_sameCatalog (hroster : List.Forall₂ (KeptClient request) s.roster roster)
    (catalog : CatalogRuntime) :
    Frozen request s { s with roster, catalog } ↔ SameCatalog s.catalog catalog :=
  ⟨fun h => ⟨h.endpoints, h.groups⟩, fun h => ⟨h.1, h.2, hroster, rfl⟩⟩

theorem frozen_of_kept (hroster : List.Forall₂ (KeptClient request) s.roster roster) :
    Frozen request s { s with roster } := ⟨rfl, rfl, hroster, rfl⟩

/-- What a caller does who reaches the route. -/
theorem frozen_serve_iff (hblocked : (currentGovernance settings observed).posture = .blocked)
    (context : AuthenticatedRequestContext)
    (hroster : List.Forall₂ (KeptClient request) s.roster roster) :
    Frozen request s
        (serve (enforceAction settings observed) context env request { s with roster }).state ↔
      ¬ SkipsQuestion context env.catalog request s.catalog := by
  unfold serve SkipsQuestion
  cases hroute : request.route with
  | upsert kind =>
    exact (frozen_iff_sameCatalog hroster _).trans (sameCatalog_postEndpoint_iff hblocked _)
  | removal kind =>
    refine iff_of_true ((frozen_iff_sameCatalog hroster _).mpr ?_) not_false
    exact sameCatalog_of_eq (state_postRemoval hblocked kind _ _ _)
  | group => exact (frozen_iff_sameCatalog hroster _).trans (sameCatalog_postGroup_iff _)
  | groupRemoval =>
    exact (frozen_iff_sameCatalog hroster _).trans (sameCatalog_postGroupRemoval_iff _)
  | moduleState =>
    have hmodules : (postModuleState env.modules (enforceAction settings observed) context
        request.body.moduleState s.modules).state = s.modules :=
      state_postModuleState hblocked _ _ _
    exact iff_of_true ⟨rfl, rfl, hroster, congrArg ModuleRuntime.unlocked hmodules⟩ not_false
  | client route =>
    exact iff_of_true (frozen_of_kept (forall₂_serveClients hblocked hroute hroster)) not_false

theorem identified_eq (caller : Caller) :
    identified env caller s = { s with roster := (identified env caller s).roster } := by
  cases caller <;> rfl

/-- Without a context of its own a request does nothing unasked. -/
theorem not_skipsQuestion_default : ¬ SkipsQuestion {} env.catalog request s.catalog := by
  unfold SkipsQuestion
  cases request.route with
  | upsert kind | group | groupRemoval => exact fun h => Bool.false_ne_true h.1
  | removal kind | moduleState | client route => exact not_false

/-- **While the posture is blocked nothing changes**, unless the request edits the catalog
unasked. -/
theorem frozen_iff (settings : GovernedSettings) (observed : Observed) (env : AdminEnvironment)
    (request : AdminRequest) (s : AdminRuntime)
    (hblocked : (currentGovernance settings observed).posture = .blocked) :
    Frozen request s (handleHttpRequest (enforceAction settings observed) env request s).state ↔
      ¬ EditsUnasked env request s := by
  have hroster : List.Forall₂ (KeptClient request) s.roster
      (identified env (request.caller s.roster) s).roster := forall₂_identified env _ s
  unfold handleHttpRequest EditsUnasked admitted
  dsimp only
  rw [identified_eq]
  cases hcaller : request.caller s.roster with
  | nobody errorMessage actor =>
    rw [hcaller] at hroster
    refine iff_of_true ?_ fun ⟨context, he, _⟩ => by cases he
    dsimp only
    split_ifs
    · exact frozen_of_kept hroster
    · exact (frozen_serve_iff hblocked {} hroster).mpr not_skipsQuestion_default
  | localOperator =>
    rw [hcaller] at hroster
    refine (frozen_serve_iff hblocked localOperatorContext hroster).trans (not_congr ?_)
    constructor
    · exact fun h => ⟨localOperatorContext, rfl, h⟩
    · rintro ⟨context, he, h⟩
      cases he
      exact h
  | client client =>
    rw [hcaller] at hroster
    dsimp only
    split_ifs
    · refine (frozen_serve_iff hblocked (clientContext client) hroster).trans (not_congr ?_)
      constructor
      · exact fun h => ⟨clientContext client, rfl, h⟩
      · rintro ⟨context, he, h⟩
        cases he
        exact h
    · refine iff_of_true (frozen_of_kept hroster) ?_
      rintro ⟨context, he, -⟩
      cases he

end Law

/-! ### A processor share of nothing -/

def deniedProcessor : ResourceAllocationProfile := { cpuPercent := 0 }

def botOnly : AdminRuntime where
  catalog :=
    { shared :=
        { configuration :=
            { resourceAllocation := deniedProcessor
              subAgentGroups := [{ groupId := "team", displayName := "Team" }] } } }
  roster := [bot]

def adminEnvironment : AdminEnvironment where
  catalog := workingEnvironment
  roster := { timestampNowUtc := "2026-01-01T00:00:00Z", persisted := true }

/-- The client creates an MCP server. -/
def creation : AdminRequest where
  method := "POST"
  path := "/api/runtime/mcp-servers"
  headerClientId := "bot"
  body := { endpoint := .value { id := "files", displayName := "Files", port := 7300 } }

/-- The operator removes a group. -/
def dissolution : AdminRequest where
  method := "POST"
  path := "/api/runtime/subagent-groups/remove"
  isLocalRequest := true
  body := { removedGroupId := .ok "team" }

theorem blocked_deniedProcessor :
    (currentGovernance { resourceAllocation := deniedProcessor } {}).posture = .blocked := by
  decide +kernel

theorem frozen_iff_creation :
    Frozen creation botOnly (handleHttpRequest
        (enforceAction { resourceAllocation := deniedProcessor } {}) adminEnvironment creation
        botOnly).state ↔
      ¬ EditsUnasked adminEnvironment creation botOnly :=
  frozen_iff { resourceAllocation := deniedProcessor } {} adminEnvironment creation botOnly
    blocked_deniedProcessor

/-- An autonomous client adds a server, and the operator removes a group, while the posture is
blocked. -/
theorem creation_and_dissolution_not_frozen :
    (currentGovernance { resourceAllocation := deniedProcessor } {}).posture = .blocked ∧
      ¬ Frozen creation botOnly (handleHttpRequest
        (enforceAction { resourceAllocation := deniedProcessor } {}) adminEnvironment creation
        botOnly).state ∧
      ¬ Frozen dissolution botOnly (handleHttpRequest
        (enforceAction { resourceAllocation := deniedProcessor } {}) adminEnvironment dissolution
        botOnly).state := by
  refine ⟨blocked_deniedProcessor, fun h => ?_, fun h => ?_⟩
  · have hlength : (handleHttpRequest
        (enforceAction { resourceAllocation := deniedProcessor } {}) adminEnvironment creation
        botOnly).state.catalog.shared.configuration.endpoints.length = 1 := by decide +kernel
    rw [h.endpoints] at hlength
    cases hlength
  · have hlength : (handleHttpRequest
        (enforceAction { resourceAllocation := deniedProcessor } {}) adminEnvironment dissolution
        botOnly).state.catalog.shared.configuration.subAgentGroups.length = 0 := by decide +kernel
    rw [h.groups] at hlength
    cases hlength

end BlockedPosture
end Admin
end MasterControl
