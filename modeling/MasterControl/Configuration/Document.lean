import MasterControl.Foundation.Acceptors

/-!
# The configuration document

What `json.get<AppConfiguration>()` takes: the acceptor of every structure that stands in the
configuration, with its members in the order of the source.  A missing member has its default;
a member that is there has to be of its type, null included.

The gateway's type may be any text, since `gatewayTypeFromString` takes every word for `native`;
every other enumeration throws on a word it does not know.
-/

namespace MasterControl
namespace Configuration
namespace Document

open Foundation Acceptor

/-! ## Enumerations -/

def endpointKind : Acceptor :=
  oneOf ["host", "gateway", "mcp_server", "sub_agent", "browser_gateway", "beacon"]

def endpointStatus : Acceptor := oneOf ["unknown", "online", "offline", "degraded", "template"]

def platformTarget : Acceptor := oneOf ["windows", "macos", "ios", "unknown"]

def appleRemoteTransport : Acceptor := oneOf ["unknown", "ssh", "companion_service"]

def endpointPoolKind : Acceptor := oneOf ["mcp-server", "sub-agent"]

def endpointInstanceState : Acceptor :=
  oneOf ["configured", "starting", "ready", "busy", "draining", "failed", "stopped"]

/-- No word is unknown here. -/
def gatewayType : Acceptor := text

/-! ## Structures -/

def texts : Acceptor := arrayOf text

def setupOverrideRecord : Acceptor :=
  record [("stepId", text), ("issueId", text), ("reason", text), ("createdAtUtc", text)]

def securitySettings : Acceptor :=
  record [("enableTls", boolean), ("enableAuthentication", boolean),
    ("allowTroubleshootingBypass", boolean), ("allowOpenLanAccess", boolean),
    ("securityProtocolsEnabled", boolean), ("securityPosture", text),
    ("trustedRemoteHosts", texts), ("beaconSigningEnabled", boolean), ("beaconSigningKey", text),
    ("adminTlsEnabled", boolean), ("adminTlsCertThumbprint", text)]

def resourceAllocationProfile : Acceptor :=
  record [("cpuPercent", number), ("memoryPercent", number), ("bandwidthPercent", number),
    ("storagePercent", number)]

def subAgentGroupDefinition : Acceptor :=
  record [("groupId", text), ("displayName", text), ("description", text),
    ("memberTargetIds", texts), ("updatedAtUtc", text)]

def workflowStepDefinition : Acceptor :=
  record [("stepId", text), ("kind", text), ("target", text), ("arguments", anything),
    ("requiresApproval", boolean)]

def workflowDefinition : Acceptor :=
  record [("workflowId", text), ("displayName", text), ("description", text), ("source", text),
    ("enabled", boolean), ("createdAtUtc", text), ("updatedAtUtc", text),
    ("requiredCapabilities", texts), ("steps", arrayOf workflowStepDefinition)]

def lanClientPrivileges : Acceptor :=
  record [("canCreateMcpServers", boolean), ("canModifyMcpServers", boolean),
    ("canRemoveMcpServers", boolean), ("canCreateSubAgents", boolean),
    ("canModifySubAgents", boolean), ("canRemoveSubAgents", boolean),
    ("canManageClients", boolean), ("canManageModules", boolean),
    ("canChangeGovernancePolicy", boolean)]

def lanClient : Acceptor :=
  record [("clientId", text), ("displayName", text), ("clientType", text), ("hostName", text),
    ("networkAddress", text), ("enabled", boolean), ("privileges", lanClientPrivileges),
    ("capabilities", texts), ("autonomousMode", boolean), ("createdAtUtc", text),
    ("lastSeenUtc", text), ("disabledAtUtc", text)]

def appleToolchainState : Acceptor :=
  record [("reachable", boolean), ("xcodeInstalled", boolean), ("xcodeVersion", text),
    ("developerDirectory", text), ("macosSdkAvailable", boolean), ("iosSdkAvailable", boolean),
    ("simulatorControlAvailable", boolean), ("deviceControlAvailable", boolean),
    ("simulatorRuntimes", texts), ("status", text), ("message", text), ("checkedAtUtc", text)]

def appleSigningState : Acceptor :=
  record [("signingReady", boolean), ("developmentSigningReady", boolean),
    ("distributionSigningReady", boolean), ("availableTeams", texts), ("status", text),
    ("message", text)]

def appleRemoteHost : Acceptor :=
  record [("hostId", text), ("displayName", text), ("transport", appleRemoteTransport),
    ("platforms", arrayOf platformTarget), ("address", text), ("port", number),
    ("username", text), ("serviceBaseUrl", text), ("companionHealthPath", text),
    ("companionExecutePath", text), ("preferredDeveloperDirectory", text),
    ("defaultSigningIdentity", text), ("defaultNotaryKeychainProfile", text),
    ("defaultNotaryTeamId", text), ("enabled", boolean), ("toolchain", appleToolchainState),
    ("signing", appleSigningState), ("transportSummary", text),
    ("credentialProfileSummary", text), ("readinessIssues", texts)]

def runtimeEndpoint : Acceptor :=
  record [("id", text), ("displayName", text), ("kind", endpointKind), ("host", text),
    ("port", number), ("protocol", text), ("status", endpointStatus), ("description", text),
    ("lastCheckedUtc", text), ("routePath", text), ("specialization", text),
    ("requiredCapabilities", texts), ("risk", text), ("highRisk", boolean),
    ("userDefined", boolean), ("isTemplate", boolean), ("command", text), ("args", texts),
    ("workingDirectory", text), ("environment", mapOf text), ("autoscaleMaxInstances", number),
    ("autoscaleMaxLeasesPerInstance", number)]

def managedNodeProfile : Acceptor :=
  record [("environmentName", text), ("preferredBindAddress", text), ("macAddress", text),
    ("seededEndpoints", arrayOf runtimeEndpoint)]

def mcpGatewayConfiguration : Acceptor :=
  record [("type", gatewayType), ("enabled", boolean), ("binaryPath", text),
    ("listenHost", text), ("listenPort", number), ("mcpPath", text), ("healthPath", text),
    ("databasePath", text), ("mode", text), ("tlsEnabled", boolean), ("tlsListenPort", number),
    ("tlsCertThumbprint", text)]

def healthProbeSpec : Acceptor :=
  record [("transport", text), ("path", text), ("intervalMs", number), ("timeoutMs", number),
    ("unhealthyThreshold", number)]

def endpointTemplate : Acceptor :=
  record [("executable", text), ("args", texts), ("workingDirectory", text),
    ("environment", mapOf text), ("transport", text), ("healthProbe", healthProbeSpec)]

def scalePolicy : Acceptor :=
  record [("minInstances", number), ("maxInstances", number),
    ("maxActiveLeasesPerInstance", number), ("scaleOutQueueWaitMs", number),
    ("scaleInIdleSeconds", number)]

def drainPolicy : Acceptor :=
  record [("drainTimeoutSeconds", number), ("drainStickySessions", boolean),
    ("routeNewSessionsToReplacement", boolean)]

def workerTelemetry : Acceptor :=
  record [("activeLeases", number), ("queueDepth", number), ("inflightCalls", number),
    ("cpuPercent", floating), ("memoryMbytes", floating), ("lastProbedAtUtc", text),
    ("lastHealthMessage", text)]

def endpointInstance : Acceptor :=
  record [("instanceId", text), ("poolId", text), ("state", endpointInstanceState),
    ("processId", number), ("supervised", boolean), ("startedAtUtc", text),
    ("lastTransitionAtUtc", text), ("statusMessage", text), ("telemetry", workerTelemetry),
    ("healthProbePassed", boolean), ("healthProbeAtUtc", text)]

def managedEndpointPool : Acceptor :=
  record [("poolId", text), ("kind", endpointPoolKind), ("displayName", text),
    ("logicalMcpUrl", text), ("template", endpointTemplate), ("scalePolicy", scalePolicy),
    ("drainPolicy", drainPolicy), ("instances", arrayOf endpointInstance),
    ("createdAtUtc", text), ("updatedAtUtc", text), ("quarantinedUntilUtc", text)]

def appConfiguration : Acceptor :=
  record [("instanceName", text), ("instanceId", text), ("bindAddress", text),
    ("browserPort", number), ("beaconPort", number), ("beaconBroadcastIntervalSeconds", number),
    ("beaconEnabled", boolean), ("aiAutonomyEnabled", boolean), ("advancedMode", boolean),
    ("firstRunCompleted", boolean), ("firstRunStartedAtUtc", text),
    ("firstRunCompletedAtUtc", text), ("firstRunSkippedSteps", texts), ("setupMode", text),
    ("setupCurrentStep", text), ("setupDismissedAtUtc", text),
    ("setupOverrides", arrayOf setupOverrideRecord), ("security", securitySettings),
    ("resourceAllocation", resourceAllocationProfile),
    ("subAgentGroups", arrayOf subAgentGroupDefinition),
    ("workflows", arrayOf workflowDefinition), ("lanClients", arrayOf lanClient),
    ("appleRemoteHosts", arrayOf appleRemoteHost), ("activeProfile", managedNodeProfile),
    ("mcpGateway", mcpGatewayConfiguration), ("pools", arrayOf managedEndpointPool)]

end Document
end Configuration
end MasterControl
