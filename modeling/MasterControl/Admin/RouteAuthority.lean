import MasterControl.Admin.Gates
import MasterControl.Admin.RouteTable

/-!
# Who reaches a mutating route

A mutating request of a client passes three places.  The policy table names the capabilities that
its path requires, the dispatch finds the block that serves it, and the block may ask for a
privilege.  The table has conditions of its own, and of the privileges a block sees those that
`privilegesWithCapabilities` makes of the effective capabilities.

What the Command Logic Unit decides behind these gates is no matter of the client's authority, and
left out.
-/

namespace MasterControl
namespace Admin
namespace RouteAuthority

open Foundation Gateway Clients

/-! ## The table -/

def kCapabilitySetupLocalOrAdmin : String := "setup.local_or_admin"

def isMutatingMethod (method : Verb) : Bool :=
  [Verb.post, .put, .patch, .delete].contains method

def exactly (path : String) : RouteCondition := .exact (literal path)

def below (start : String) : RouteCondition := .under (literal start)

/-- The rules of the table, in their order: conditions on the path, and what they require. -/
def capabilityRules : List (List RouteCondition × String) :=
  [([exactly "/api/config", exactly "/api/governance/decisions",
      exactly "/api/client/governance/decisions", exactly "/api/clu/execute",
      exactly "/api/clu/apple-operations/cancel", exactly "/api/diagnostics/clear",
      exactly "/api/platform-services/apple-hosts",
      exactly "/api/platform-services/apple-hosts/remove", below "/mcp/governance/"],
    kCapabilityGovernanceModify),
   ([exactly "/api/gateway/start", exactly "/api/gateway/stop", exactly "/api/gateway/restart"],
    kCapabilityNetworkAdmin),
   ([exactly "/api/clients", below "/api/clients/"], kCapabilityClientsManage),
   ([exactly "/api/setup/start", exactly "/api/setup/complete", exactly "/api/setup/dismiss",
      exactly "/api/setup/reset", below "/api/setup/workflow-templates/",
      exactly "/api/settings/advanced-mode", exactly "/api/self-tests/run"],
    kCapabilitySetupLocalOrAdmin),
   ([below "/api/setup/dependencies/", exactly "/api/install/package", exactly "/api/install/repo",
      exactly "/api/install/zip", exactly "/api/forsetti/modules/state",
      exactly "/api/claude-plugin/toggle", exactly "/api/chatgpt-plugin/toggle",
      exactly "/api/grok-plugin/toggle"],
    kCapabilityInstallPackage),
   ([exactly "/api/pools", below "/api/pools/", below "/api/leases/",
      exactly "/api/runtime/mcp-servers", exactly "/api/runtime/mcp-servers/remove",
      exactly "/api/runtime/subagents", exactly "/api/runtime/subagents/remove",
      exactly "/api/runtime/subagent-groups", exactly "/api/runtime/subagent-groups/remove",
      exactly "/api/workflows", below "/api/workflows/"],
    kCapabilityProcessExec),
   ([exactly "/api/supervisor/assignment/select", exactly "/api/supervisor/assignment/revoke",
      exactly "/api/supervisor/config/generate", exactly "/api/supervisor/connect/confirm",
      exactly "/api/supervisor/heartbeat"],
    kCapabilitySupervisorAssign)]

def stripQuery (path : Bytes) : Bytes := path.takeWhile (· ≠ questionMark)

def ruleHolds (path : Bytes) (rule : List RouteCondition × String) : Bool :=
  rule.1.any (RouteCondition.holds path)

def requiredCapabilitiesForRoute (method : Verb) (path : Bytes) : List String :=
  if isMutatingMethod method then
    ((capabilityRules.find? (ruleHolds (stripQuery path))).map Prod.snd).toList
  else []

/-- The context is the one of a client: `setup.local_or_admin` asks for no more. -/
def contextHasRequiredCapabilities (context : AuthenticatedRequestContext)
    (requiredCapabilities : List String) : Bool :=
  requiredCapabilities.all fun capability =>
    capability = kCapabilitySetupLocalOrAdmin || hasCapability context.capabilities capability

/-! ## The privileges that blocks ask for -/

/-- A privilege of a record. -/
inductive Flag where
  | canCreateMcpServers | canModifyMcpServers | canRemoveMcpServers
  | canCreateSubAgents | canModifySubAgents | canRemoveSubAgents
  | canManageClients | canManageModules | canChangeGovernancePolicy
  deriving DecidableEq

/-- Whether a record has the privilege. -/
def Flag.on (privileges : LanClientPrivileges) : Flag → Bool
  | .canCreateMcpServers => privileges.canCreateMcpServers
  | .canModifyMcpServers => privileges.canModifyMcpServers
  | .canRemoveMcpServers => privileges.canRemoveMcpServers
  | .canCreateSubAgents => privileges.canCreateSubAgents
  | .canModifySubAgents => privileges.canModifySubAgents
  | .canRemoveSubAgents => privileges.canRemoveSubAgents
  | .canManageClients => privileges.canManageClients
  | .canManageModules => privileges.canManageModules
  | .canChangeGovernancePolicy => privileges.canChangeGovernancePolicy

/-- The six privileges about servers and sub-agents. -/
def Flag.editsCatalog (flag : Flag) : Bool :=
  [canCreateMcpServers, canModifyMcpServers, canRemoveMcpServers, canCreateSubAgents,
    canModifySubAgents, canRemoveSubAgents].contains flag

inductive Gate where
  | none
  | needs (flag : Flag)
  /-- It depends on whether the id in the body is listed; autonomous mode does for creating. -/
  | createOrModify (create modify : Flag)
  deriving DecidableEq

/-- The blocks that ask for a privilege. -/
def gates : List (RouteBlock × Gate) :=
  [(onPost "/api/governance/profile", .needs .canChangeGovernancePolicy),
   (onPost "/api/runtime/mcp-servers", .createOrModify .canCreateMcpServers .canModifyMcpServers),
   (onPost "/api/runtime/mcp-servers/remove", .needs .canRemoveMcpServers),
   (onPost "/api/runtime/subagents", .createOrModify .canCreateSubAgents .canModifySubAgents),
   (onPost "/api/runtime/subagents/remove", .needs .canRemoveSubAgents),
   (onPost "/api/runtime/subagent-groups", .needs .canModifySubAgents),
   (onPost "/api/runtime/subagent-groups/remove", .needs .canModifySubAgents),
   (onPost "/api/clients", .needs .canManageClients),
   (onPostNamed "/api/clients/" "/disable", .needs .canManageClients),
   (onPostNamed "/api/clients/" "/enable", .needs .canManageClients),
   (onPostNamed "/api/clients/" "/privileges", .needs .canManageClients),
   (onPostNamed "/api/clients/" "/autonomous-mode", .needs .canManageClients),
   (onDeleteTail "/api/clients/", .needs .canManageClients),
   (onPost "/api/forsetti/modules/state", .needs .canManageModules),
   (onPostNamed "/api/clu/approvals/" "/approve", .needs .canChangeGovernancePolicy),
   (onPostNamed "/api/clu/approvals/" "/reject", .needs .canChangeGovernancePolicy)]

def gateOf (block : RouteBlock) : Gate :=
  ((gates.find? fun entry => entry.1 = block).map Prod.snd).getD .none

/-- The privilege that is asked for. -/
def Gate.demanded (listed : Bool) : Gate → Option Flag
  | .none => Option.none
  | .needs flag => some flag
  | .createOrModify create modify => some (if listed then modify else create)

def Gate.passes (context : AuthenticatedRequestContext) (listed : Bool) : Gate → Bool
  | .none => true
  | .needs flag => flag.on context.privileges
  | .createOrModify create modify =>
    if listed then modify.on context.privileges
    else create.on context.privileges || context.autonomousMode

/-! ## Blocks that change something -/

/-- These only answer that the route is misspelt. -/
def turningAway : List RouteBlock :=
  [onPostUnder "/api/setup/dependencies/", onPostUnder "/api/clu/approvals/"]

/-- The blocks that answer a mutating method. -/
def mutatingBlocks : List RouteBlock :=
  routeBlocks.filter fun block => block.method ≠ some .get && !turningAway.contains block

def heartbeats : List RouteBlock :=
  [onPost "/api/telemetry/heartbeat", onPost "/api/client/heartbeat"]

/-- The blocks of the guided setup, the advanced mode and the self tests. -/
def setupBlocks : List RouteBlock :=
  [onPost "/api/setup/start", onPost "/api/setup/complete", onPost "/api/setup/dismiss",
   onPost "/api/setup/reset", onPostClosing "/api/setup/workflow-templates/" "/instantiate",
   onPost "/api/settings/advanced-mode", onPost "/api/self-tests/run"]

/-! ## Requests -/

structure MutatingRequest where
  method : Verb
  target : Bytes
  /-- Whether the id in the body is one that the inventory lists, with the kind of the route. -/
  listed : Bool

def MutatingRequest.path (request : MutatingRequest) : Bytes :=
  request.target.takeWhile (· ≠ questionMark)

def MutatingRequest.required (request : MutatingRequest) : List String :=
  requiredCapabilitiesForRoute request.method request.path

/-- `authorizeMutatingRequest`, for a request with the id of this client. -/
def authorized (client : LanClient) (request : MutatingRequest) : Bool :=
  client.enabled && contextHasRequiredCapabilities (clientContext client) request.required

/-- The client's request is authorized, and passes the gate of this block. -/
def Reaches (client : LanClient) (request : MutatingRequest) (block : RouteBlock) : Prop :=
  authorized client request = true ∧ route request.method request.path = some block ∧
    block ∈ mutatingBlocks ∧ (gateOf block).passes (clientContext client) request.listed = true

/-! ## The property -/

/-- The privilege is stored, or one of the stored capabilities maps to it, or the client is in
autonomous mode. -/
def GrantedFlag (client : LanClient) (flag : Flag) : Prop :=
  flag.on client.privileges = true ∨
    (∃ name ∈ client.capabilities,
      flag.on (privilegesWithCapabilities {} [normalizeCapability name]) = true) ∨
    client.autonomousMode = true

structure AuthorityDecides (client : LanClient) (request : MutatingRequest) (block : RouteBlock) :
    Prop where
  /-- The table requires a capability, or the block a privilege. -/
  demanded : block ∉ heartbeats →
    request.required ≠ [] ∨ (gateOf block).demanded request.listed ≠ none
  /-- Some client is turned away. -/
  restricted : block ∉ heartbeats →
    ∃ other : LanClient, other.enabled = true ∧ ¬ Reaches other request block
  granted : ∀ flag, (gateOf block).demanded request.listed = some flag → GrantedFlag client flag

/-- Whatever the client reaches, it was given the authority for. -/
def LetsOnlyGranted (client : LanClient) (request : MutatingRequest) : Prop :=
  ∀ block, Reaches client request block → AuthorityDecides client request block

/-! ## The condition -/

/-- The client has the privilege or the capability for the catalog, or none of the six. -/
def Undivided (client : LanClient) (flag : Flag) : Prop :=
  flag.on client.privileges = true ∨ client.autonomousMode = true ∨
    Stored client kCapabilityProcessExec ∨ client.privileges.editsCatalog = false

/-- The request is not one of the setup, and if it asks for one of the six privileges, the client
has it, or has none of them. -/
def SafelyRouted (client : LanClient) (request : MutatingRequest) : Prop :=
  ∀ block, route request.method request.path = some block →
    block ∉ setupBlocks ∧
      ∀ flag, (gateOf block).demanded request.listed = some flag → flag.editsCatalog = true →
        Undivided client flag

end RouteAuthority
end Admin
end MasterControl
