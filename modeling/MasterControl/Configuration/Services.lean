import MasterControl.Foundation.Json
import MasterControl.Foundation.KeyedList
import MasterControl.Foundation.Trim
import MasterControl.Gateway.ToolNames
import MasterControl.Supervisor.Model
import Mathlib.Data.List.Sort

/-!
# The services that write the shared configuration

Five services hold one `SharedState` and one configuration file: the configuration service
itself, the resource allocation service, and the catalogs of sub-agents, MCP servers and
sub-agent groups.  Each of their eight mutating operations first checks its input and the
configuration, then edits the configuration in memory, and last writes the whole document
to the file; `Edit` is that shape and `Edit.perform` runs it.

An operation reads the clock at most once, and how its write ends is up to the file
system: both are its `Environment`.
-/

namespace MasterControl
namespace Configuration

open Foundation Gateway Supervisor

/-! ## Records -/

inductive EndpointKind where
  | host
  | gateway
  | mcpServer
  | subAgent
  | browserGateway
  | beacon
  deriving DecidableEq

inductive EndpointStatus where
  | unknown
  | online
  | offline
  | degraded
  | template
  deriving DecidableEq

structure RuntimeEndpoint where
  id : String := ""
  displayName : String := ""
  kind : EndpointKind := .mcpServer
  host : String := ""
  port : UInt16 := 0
  protocol : String := "http"
  status : EndpointStatus := .unknown
  description : String := ""
  lastCheckedUtc : String := ""
  routePath : String := ""
  specialization : String := ""
  userDefined : Bool := false
  isTemplate : Bool := false
  requiredCapabilities : List String := []
  risk : String := ""
  highRisk : Bool := false
  command : String := ""
  args : List String := []
  workingDirectory : String := ""
  environment : List (String × String) := []
  autoscaleMaxInstances : Int := 4
  autoscaleMaxLeasesPerInstance : Int := 2
  deriving DecidableEq

structure SubAgentGroupDefinition where
  groupId : String := ""
  displayName : String := ""
  description : String := ""
  memberTargetIds : List String := []
  updatedAtUtc : String := ""
  deriving DecidableEq

structure ResourceAllocationProfile where
  cpuPercent : Int := 50
  memoryPercent : Int := 50
  bandwidthPercent : Int := 50
  storagePercent : Int := 50
  deriving DecidableEq

structure ManagedNodeProfile where
  environmentName : String := ""
  preferredBindAddress : String := ""
  macAddress : String := ""
  seededEndpoints : List RuntimeEndpoint := []
  deriving DecidableEq

/-- The configuration document.  `others` are the members that no operation here reads. -/
structure AppConfiguration where
  securityProtocolsEnabled : Bool := true
  resourceAllocation : ResourceAllocationProfile := {}
  subAgentGroups : List SubAgentGroupDefinition := []
  activeProfile : ManagedNodeProfile := {}
  others : List (String × Json) := []

/-- The configuration in memory, and what the configuration file holds. -/
structure SharedState where
  configuration : AppConfiguration := {}
  file : Option AppConfiguration := none

/-- How `writeJsonFile` ends.  A failed write leaves in the file what the file system left
there: as a rule the old document, but the fallback copy may stop half way. -/
inductive WriteOutcome where
  | written
  | failed (left : Option AppConfiguration)

structure Environment where
  timestampNowUtc : String
  write : WriteOutcome

/-! ## Edits -/

/-- An operation up to its texts: the checks in their order, what is edited in memory once
they pass, and the two answers after the write. -/
structure Edit where
  refusal : AppConfiguration → Option OperationResult
  apply : AppConfiguration → AppConfiguration
  notWritten : String
  done : String

/-- The answer of an operation that changed nothing. -/
def refuse (message : String) : Option OperationResult :=
  some { succeeded := false, requiresConfirmation := false, message }

/-- `writeJsonFile` on the whole document: what the file then holds, and the answer. -/
def writeJsonFile (outcome : WriteOutcome) (configuration : AppConfiguration) :
    Option AppConfiguration × Bool :=
  match outcome with
  | .written => (some configuration, true)
  | .failed left => (left, false)

/-- Check, edit in memory, write.  The edit is in place before the write is tried, and a
failed write does not take it back. -/
def Edit.perform (edit : Edit) (write : WriteOutcome) (state : SharedState) :
    OperationResult × SharedState :=
  match edit.refusal state.configuration with
  | some result => (result, state)
  | none =>
    let configuration := edit.apply state.configuration
    let (file, persisted) := writeJsonFile write configuration
    ({ succeeded := persisted, requiresConfirmation := false,
       message := if persisted then edit.done else edit.notWritten },
      { configuration, file })

/-! ## Texts -/

def trimCopy (value : String) : String := String.ofList (trim isSpace value.toList)

def isBlank (value : String) : Bool := value.toList.all isSpace

/-- Ids the orchestrator keeps for its own targets. -/
def reservedTargetIds : List String := ["planner", "architect", "coding-specialists"]

/-! ## Configuration and resources -/

def updateConfiguration (configuration : AppConfiguration) (confirmUnsafeChanges : Bool) : Edit where
  refusal _ :=
    if !configuration.securityProtocolsEnabled && !confirmUnsafeChanges then
      some { succeeded := false, requiresConfirmation := true,
             message := "Disabling security protocols requires explicit confirmation." }
    else none
  apply _ := configuration
  notWritten := "Configuration could not be written to disk."
  done := "Configuration updated."

def isValidPercent (value : Int) : Bool := 0 ≤ value && value ≤ 100

def updateResourceAllocation (profile : ResourceAllocationProfile) : Edit where
  refusal _ :=
    if !isValidPercent profile.cpuPercent || !isValidPercent profile.memoryPercent ||
        !isValidPercent profile.bandwidthPercent || !isValidPercent profile.storagePercent then
      refuse "Resource allocation values must be between 0 and 100."
    else none
  apply configuration := { configuration with resourceAllocation := profile }
  notWritten := "Resource allocation could not be written to disk."
  done := "Resource allocation updated."

/-! ## Endpoints -/

/-- The endpoint list of the active profile. -/
def AppConfiguration.endpoints (configuration : AppConfiguration) : List RuntimeEndpoint :=
  configuration.activeProfile.seededEndpoints

def AppConfiguration.withEndpoints (configuration : AppConfiguration)
    (endpoints : List RuntimeEndpoint) : AppConfiguration :=
  { configuration with
    activeProfile := { configuration.activeProfile with seededEndpoints := endpoints } }

@[simp] theorem endpoints_withEndpoints (configuration : AppConfiguration)
    (endpoints : List RuntimeEndpoint) :
    (configuration.withEndpoints endpoints).endpoints = endpoints := rfl

@[simp] theorem subAgentGroups_withEndpoints (configuration : AppConfiguration)
    (endpoints : List RuntimeEndpoint) :
    (configuration.withEndpoints endpoints).subAgentGroups = configuration.subAgentGroups := rfl

/-- Whether the first endpoint with an id exists and was seeded or imported. -/
def AppConfiguration.seededOwner (configuration : AppConfiguration) (id : String) : Bool :=
  match configuration.endpoints.find? (fun endpoint => endpoint.id = id) with
  | some endpoint => !endpoint.userDefined
  | none => false

/-- Replace the endpoint with the id of a new one, or append it. -/
def AppConfiguration.putEndpoint (configuration : AppConfiguration)
    (normalized : RuntimeEndpoint) : AppConfiguration :=
  configuration.withEndpoints <|
    upsertFirst (fun endpoint => endpoint.id = normalized.id) normalized configuration.endpoints

/-! ## Sub-agents -/

def normalizedSubAgent (timestampNowUtc : String) (subAgent : RuntimeEndpoint)
    (configuration : AppConfiguration) : RuntimeEndpoint :=
  let host := trimCopy subAgent.host
  let protocol := trimCopy subAgent.protocol
  let description := trimCopy subAgent.description
  let specialization := trimCopy subAgent.specialization
  { subAgent with
    kind := .subAgent
    userDefined := true
    id := trimCopy subAgent.id
    displayName := trimCopy subAgent.displayName
    host := if host = "" then configuration.activeProfile.preferredBindAddress else host
    protocol :=
      if protocol = "" then if subAgent.port = 0 then "virtual" else "http" else protocol
    description :=
      if description = "" && specialization ≠ "" then specialization ++ " specialist lane"
      else description
    routePath := trimCopy subAgent.routePath
    specialization := specialization
    status := .unknown
    lastCheckedUtc := timestampNowUtc }

/-- The reserved ids are looked up with the id as it came, everything after that with the
trimmed one. -/
def upsertSubAgent (timestampNowUtc : String) (subAgent : RuntimeEndpoint) : Edit where
  refusal configuration :=
    if subAgent.id = "" || isBlank subAgent.id then refuse "Sub-agent ID is required."
    else if !isSafeUrlSegmentId (trimCopy subAgent.id) then
      refuse ("Sub-agent ID is invalid. " ++ kSafeIdRejectionMessage)
    else if subAgent.displayName = "" || isBlank subAgent.displayName then
      refuse "Sub-agent display name is required."
    else if subAgent.id ∈ reservedTargetIds then
      refuse "The requested sub-agent ID conflicts with a reserved orchestration target."
    else if configuration.subAgentGroups.any (fun group => group.groupId = trimCopy subAgent.id)
    then
      refuse "The requested sub-agent ID conflicts with an existing sub-agent group."
    else if configuration.seededOwner (trimCopy subAgent.id) then
      refuse "The requested sub-agent ID is already owned by a seeded or imported runtime endpoint."
    else none
  apply configuration :=
    configuration.putEndpoint (normalizedSubAgent timestampNowUtc subAgent configuration)
  notWritten := "Custom sub-agent settings could not be written to disk."
  done := "Custom sub-agent settings updated."

/-- Whether an endpoint is the one a removal of that id and kind asks for. -/
def RuntimeEndpoint.isNamed (id : String) (kind : EndpointKind) (endpoint : RuntimeEndpoint) :
    Bool :=
  endpoint.id = id && endpoint.kind = kind

/-- Drop a target from the members of a group. -/
def SubAgentGroupDefinition.withoutMember (subAgentId : String)
    (group : SubAgentGroupDefinition) : SubAgentGroupDefinition :=
  { group with memberTargetIds := group.memberTargetIds.filter (· ≠ subAgentId) }

/-- Removing a sub-agent takes it out of every group, and drops the groups it leaves empty. -/
def removeSubAgent (subAgentId : String) : Edit where
  refusal configuration :=
    if subAgentId = "" || isBlank subAgentId then refuse "A custom sub-agent ID is required."
    else
      match configuration.endpoints.find? (RuntimeEndpoint.isNamed subAgentId .subAgent) with
      | none => refuse "The requested sub-agent was not found."
      | some endpoint =>
        if !endpoint.userDefined then refuse "Only user-defined sub-agents can be removed."
        else none
  apply configuration :=
    { configuration.withEndpoints
        (configuration.endpoints.eraseP (RuntimeEndpoint.isNamed subAgentId .subAgent)) with
      subAgentGroups :=
        (configuration.subAgentGroups.map (SubAgentGroupDefinition.withoutMember subAgentId)).filter
          fun group => !group.memberTargetIds.isEmpty }
  notWritten := "Sub-agent removal could not be written to disk."
  done := "Custom sub-agent removed."

/-! ## MCP servers -/

def normalizedMcpServer (timestampNowUtc : String) (mcpServer : RuntimeEndpoint)
    (configuration : AppConfiguration) : RuntimeEndpoint :=
  let host := trimCopy mcpServer.host
  let protocol := trimCopy mcpServer.protocol
  let description := trimCopy mcpServer.description
  { mcpServer with
    kind := .mcpServer
    userDefined := true
    id := trimCopy mcpServer.id
    displayName := trimCopy mcpServer.displayName
    host := if host = "" then configuration.activeProfile.preferredBindAddress else host
    protocol := if protocol = "" then "http" else protocol
    description := if description = "" then "Custom MCP server lane." else description
    routePath := trimCopy mcpServer.routePath
    specialization := ""
    status := .unknown
    lastCheckedUtc := timestampNowUtc }

/-- An endpoint of another kind is replaced as well, when it is user-defined. -/
def upsertMcpServer (timestampNowUtc : String) (mcpServer : RuntimeEndpoint) : Edit where
  refusal configuration :=
    if mcpServer.id = "" || isBlank mcpServer.id then refuse "MCP server ID is required."
    else if !isSafeUrlSegmentId (trimCopy mcpServer.id) then
      refuse ("MCP server ID is invalid. " ++ kSafeIdRejectionMessage)
    else if mcpServer.displayName = "" || isBlank mcpServer.displayName then
      refuse "MCP server display name is required."
    else if mcpServer.port = 0 then refuse "MCP servers require a listening port."
    else if configuration.seededOwner (trimCopy mcpServer.id) then
      refuse "The requested MCP server ID is already owned by a seeded or imported runtime endpoint."
    else none
  apply configuration :=
    configuration.putEndpoint (normalizedMcpServer timestampNowUtc mcpServer configuration)
  notWritten := "Custom MCP server settings could not be written to disk."
  done := "Custom MCP server settings updated."

def removeMcpServer (mcpServerId : String) : Edit where
  refusal configuration :=
    if mcpServerId = "" || isBlank mcpServerId then refuse "A custom MCP server ID is required."
    else
      match configuration.endpoints.find? (RuntimeEndpoint.isNamed mcpServerId .mcpServer) with
      | none => refuse "The requested MCP server was not found."
      | some endpoint =>
        if !endpoint.userDefined then refuse "Only user-defined MCP servers can be removed."
        else none
  apply configuration :=
    configuration.withEndpoints
      (configuration.endpoints.eraseP (RuntimeEndpoint.isNamed mcpServerId .mcpServer))
  notWritten := "MCP server removal could not be written to disk."
  done := "Custom MCP server removed."

/-! ## Sub-agent groups -/

/-- The ids a group may have as members. -/
def AppConfiguration.subAgentIds (configuration : AppConfiguration) : List String :=
  (configuration.endpoints.filter fun endpoint =>
    endpoint.kind = .subAgent && endpoint.id ≠ "").map RuntimeEndpoint.id

/-- The wanted members that exist, each at its first mention. -/
def validMembers (subAgentIds : List String) (memberTargetIds : List String) : List String :=
  memberTargetIds.foldl
    (fun seen memberTargetId =>
      if memberTargetId ∉ subAgentIds || memberTargetId ∈ seen then seen
      else seen ++ [memberTargetId]) []

def normalizedGroup (timestampNowUtc : String) (group : SubAgentGroupDefinition)
    (configuration : AppConfiguration) : SubAgentGroupDefinition :=
  { group with
    memberTargetIds := validMembers configuration.subAgentIds group.memberTargetIds
    updatedAtUtc := timestampNowUtc
    description := trimCopy group.description }

/-- Groups are listed by display name, then by id. -/
def SubAgentGroupDefinition.listedBefore (left right : SubAgentGroupDefinition) : Prop :=
  left.displayName < right.displayName ∨
    (left.displayName = right.displayName ∧ left.groupId ≤ right.groupId)

instance : DecidableRel SubAgentGroupDefinition.listedBefore := fun left right =>
  inferInstanceAs (Decidable (left.displayName < right.displayName ∨
    (left.displayName = right.displayName ∧ left.groupId ≤ right.groupId)))

/-- The id is compared and stored as it came; only its trimmed form has to be safe. -/
def upsertGroup (timestampNowUtc : String) (group : SubAgentGroupDefinition) : Edit where
  refusal configuration :=
    if group.groupId = "" || isBlank group.groupId then refuse "Sub-agent group ID is required."
    else if !isSafeUrlSegmentId (trimCopy group.groupId) then
      refuse ("Sub-agent group ID is invalid. " ++ kSafeIdRejectionMessage)
    else if group.displayName = "" || isBlank group.displayName then
      refuse "Sub-agent group display name is required."
    else if configuration.subAgentIds.isEmpty then
      refuse "No sub-agents are currently available for grouping."
    else if group.groupId ∈ reservedTargetIds || group.groupId ∈ configuration.subAgentIds then
      refuse
        "The requested sub-agent group ID conflicts with an existing orchestration target."
    else if (validMembers configuration.subAgentIds group.memberTargetIds).isEmpty then
      refuse "Select at least one valid sub-agent for the group."
    else none
  apply configuration :=
    { configuration with
      subAgentGroups :=
        (upsertFirst (fun candidate => candidate.groupId = group.groupId)
          (normalizedGroup timestampNowUtc group configuration)
          configuration.subAgentGroups).insertionSort
            SubAgentGroupDefinition.listedBefore }
  notWritten := "Sub-agent group settings could not be written to disk."
  done := "Sub-agent group settings updated."

/-- The source erases first and compares the sizes after that; erasing nothing leaves the
list as it is. -/
def removeGroup (groupId : String) : Edit where
  refusal configuration :=
    if groupId = "" || isBlank groupId then refuse "A sub-agent group ID is required."
    else if (configuration.subAgentGroups.filter fun candidate =>
        candidate.groupId ≠ groupId).length = configuration.subAgentGroups.length then
      refuse "The requested sub-agent group was not found."
    else none
  apply configuration :=
    { configuration with
      subAgentGroups :=
        configuration.subAgentGroups.filter fun candidate => candidate.groupId ≠ groupId }
  notWritten := "Sub-agent group removal could not be written to disk."
  done := "Sub-agent group removed."

/-! ## Calls -/

/-- A call of one of the three catalogs. -/
inductive CatalogCall where
  | upsertSubAgent (subAgent : RuntimeEndpoint)
  | removeSubAgent (subAgentId : String)
  | upsertMcpServer (mcpServer : RuntimeEndpoint)
  | removeMcpServer (mcpServerId : String)
  | upsertGroup (group : SubAgentGroupDefinition)
  | removeGroup (groupId : String)

/-- A call of any of the eight operations. -/
inductive Call where
  | updateConfiguration (configuration : AppConfiguration) (confirmUnsafeChanges : Bool)
  | updateResourceAllocation (profile : ResourceAllocationProfile)
  | catalog (call : CatalogCall)

def CatalogCall.edit (timestampNowUtc : String) : CatalogCall → Edit
  | .upsertSubAgent subAgent => Configuration.upsertSubAgent timestampNowUtc subAgent
  | .removeSubAgent subAgentId => Configuration.removeSubAgent subAgentId
  | .upsertMcpServer mcpServer => Configuration.upsertMcpServer timestampNowUtc mcpServer
  | .removeMcpServer mcpServerId => Configuration.removeMcpServer mcpServerId
  | .upsertGroup group => Configuration.upsertGroup timestampNowUtc group
  | .removeGroup groupId => Configuration.removeGroup groupId

def Call.edit (timestampNowUtc : String) : Call → Edit
  | .updateConfiguration configuration confirmUnsafeChanges =>
    Configuration.updateConfiguration configuration confirmUnsafeChanges
  | .updateResourceAllocation profile => Configuration.updateResourceAllocation profile
  | .catalog call => call.edit timestampNowUtc

/-- One call in its environment. -/
def Call.perform (call : Call) (env : Environment) (state : SharedState) :
    OperationResult × SharedState :=
  (call.edit env.timestampNowUtc).perform env.write state

end Configuration
end MasterControl
