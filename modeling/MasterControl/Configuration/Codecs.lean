import MasterControl.Configuration.Records

/-!
# The configuration as JSON

The codec of every structure of the configuration.  The members of each stand in the order in which
a JSON object keeps them, and a missing member has its default.

Any word is a gateway type, and it is written as `native`; the member of a pool that holds its
template has the key `template`.
-/

namespace MasterControl
namespace Configuration
namespace Records

open Foundation Codec Clients

/-! ## Enumerations -/

def endpointKind : Codec EndpointKind :=
  words
    [(.host, "host"), (.gateway, "gateway"), (.mcpServer, "mcp_server"), (.subAgent, "sub_agent"),
     (.browserGateway, "browser_gateway"), (.beacon, "beacon")]
    fun kind => by cases kind <;> rfl

def endpointStatus : Codec EndpointStatus :=
  words
    [(.unknown, "unknown"), (.online, "online"), (.offline, "offline"), (.degraded, "degraded"),
     (.template, "template")]
    fun status => by cases status <;> rfl

def platformTarget : Codec PlatformTarget :=
  words [(.windows, "windows"), (.macos, "macos"), (.ios, "ios"), (.unknown, "unknown")]
    fun target => by cases target <;> rfl

def appleRemoteTransport : Codec AppleRemoteTransport :=
  words [(.unknown, "unknown"), (.ssh, "ssh"), (.companionService, "companion_service")]
    fun transport => by cases transport <;> rfl

def endpointPoolKind : Codec EndpointPoolKind :=
  words [(.mcpServer, "mcp-server"), (.subAgent, "sub-agent")] fun kind => by cases kind <;> rfl

def endpointInstanceState : Codec EndpointInstanceState :=
  words
    [(.configured, "configured"), (.starting, "starting"), (.ready, "ready"), (.busy, "busy"),
     (.draining, "draining"), (.failed, "failed"), (.stopped, "stopped")]
    fun state => by cases state <;> rfl

/-- No word is unknown here. -/
def gatewayType : Codec GatewayType where
  encode _ := .string "native"
  decode
    | .string _ => some .native
    | _ => none
  decode_encode type := by cases type; rfl

/-! ## Structures -/

variable (conversions : NumberConversions)

def setupOverrideRecord : Codec SetupOverrideRecord :=
  record
    [⟨"createdAtUtc", _, text⟩, ⟨"issueId", _, text⟩, ⟨"reason", _, text⟩, ⟨"stepId", _, text⟩]
    { toFun := fun r =>
        (r.createdAtUtc, r.issueId, r.reason, r.stepId, ())
      invFun := fun
        ⟨createdAtUtc, issueId, reason, stepId, _⟩ =>
        { createdAtUtc, issueId, reason, stepId }
      left_inv := fun _ => rfl
      right_inv := fun _ => rfl }
    {} (by simp [Field.keys])

def securitySettings : Codec SecuritySettings :=
  record
    [⟨"adminTlsCertThumbprint", _, text⟩, ⟨"adminTlsEnabled", _, boolean⟩,
     ⟨"allowOpenLanAccess", _, boolean⟩, ⟨"allowTroubleshootingBypass", _, boolean⟩,
     ⟨"beaconSigningEnabled", _, boolean⟩, ⟨"beaconSigningKey", _, text⟩,
     ⟨"enableAuthentication", _, boolean⟩, ⟨"enableTls", _, boolean⟩,
     ⟨"securityPosture", _, text⟩, ⟨"securityProtocolsEnabled", _, boolean⟩,
     ⟨"trustedRemoteHosts", _, arrayOf text⟩]
    { toFun := fun r =>
        (r.adminTlsCertThumbprint, r.adminTlsEnabled, r.allowOpenLanAccess,
         r.allowTroubleshootingBypass, r.beaconSigningEnabled, r.beaconSigningKey,
         r.enableAuthentication, r.enableTls, r.securityPosture, r.securityProtocolsEnabled,
         r.trustedRemoteHosts, ())
      invFun := fun
        ⟨adminTlsCertThumbprint, adminTlsEnabled, allowOpenLanAccess, allowTroubleshootingBypass,
         beaconSigningEnabled, beaconSigningKey, enableAuthentication, enableTls, securityPosture,
         securityProtocolsEnabled, trustedRemoteHosts, _⟩ =>
        { adminTlsCertThumbprint, adminTlsEnabled, allowOpenLanAccess, allowTroubleshootingBypass,
          beaconSigningEnabled, beaconSigningKey, enableAuthentication, enableTls, securityPosture,
          securityProtocolsEnabled, trustedRemoteHosts }
      left_inv := fun _ => rfl
      right_inv := fun _ => rfl }
    {} (by simp [Field.keys])

def resourceAllocationProfile : Codec ResourceAllocationProfile :=
  record
    [⟨"bandwidthPercent", _, int conversions⟩, ⟨"cpuPercent", _, int conversions⟩,
     ⟨"memoryPercent", _, int conversions⟩, ⟨"storagePercent", _, int conversions⟩]
    { toFun := fun r =>
        (r.bandwidthPercent, r.cpuPercent, r.memoryPercent, r.storagePercent, ())
      invFun := fun
        ⟨bandwidthPercent, cpuPercent, memoryPercent, storagePercent, _⟩ =>
        { bandwidthPercent, cpuPercent, memoryPercent, storagePercent }
      left_inv := fun _ => rfl
      right_inv := fun _ => rfl }
    {} (by simp [Field.keys])

def subAgentGroupDefinition : Codec SubAgentGroupDefinition :=
  record
    [⟨"description", _, text⟩, ⟨"displayName", _, text⟩, ⟨"groupId", _, text⟩,
     ⟨"memberTargetIds", _, arrayOf text⟩, ⟨"updatedAtUtc", _, text⟩]
    { toFun := fun r =>
        (r.description, r.displayName, r.groupId, r.memberTargetIds, r.updatedAtUtc, ())
      invFun := fun
        ⟨description, displayName, groupId, memberTargetIds, updatedAtUtc, _⟩ =>
        { description, displayName, groupId, memberTargetIds, updatedAtUtc }
      left_inv := fun _ => rfl
      right_inv := fun _ => rfl }
    {} (by simp [Field.keys])

def workflowStepDefinition : Codec WorkflowStepDefinition :=
  record
    [⟨"arguments", _, anything⟩, ⟨"kind", _, text⟩, ⟨"requiresApproval", _, boolean⟩,
     ⟨"stepId", _, text⟩, ⟨"target", _, text⟩]
    { toFun := fun r =>
        (r.arguments, r.kind, r.requiresApproval, r.stepId, r.target, ())
      invFun := fun
        ⟨arguments, kind, requiresApproval, stepId, target, _⟩ =>
        { arguments, kind, requiresApproval, stepId, target }
      left_inv := fun _ => rfl
      right_inv := fun _ => rfl }
    {} (by simp [Field.keys])

def workflowDefinition : Codec WorkflowDefinition :=
  record
    [⟨"createdAtUtc", _, text⟩, ⟨"description", _, text⟩, ⟨"displayName", _, text⟩,
     ⟨"enabled", _, boolean⟩, ⟨"requiredCapabilities", _, arrayOf text⟩, ⟨"source", _, text⟩,
     ⟨"steps", _, arrayOf workflowStepDefinition⟩, ⟨"updatedAtUtc", _, text⟩,
     ⟨"workflowId", _, text⟩]
    { toFun := fun r =>
        (r.createdAtUtc, r.description, r.displayName, r.enabled, r.requiredCapabilities, r.source,
         r.steps, r.updatedAtUtc, r.workflowId, ())
      invFun := fun
        ⟨createdAtUtc, description, displayName, enabled, requiredCapabilities, source, steps,
         updatedAtUtc, workflowId, _⟩ =>
        { createdAtUtc, description, displayName, enabled, requiredCapabilities, source, steps,
          updatedAtUtc, workflowId }
      left_inv := fun _ => rfl
      right_inv := fun _ => rfl }
    {} (by simp [Field.keys])

def lanClientPrivileges : Codec LanClientPrivileges :=
  record
    [⟨"canChangeGovernancePolicy", _, boolean⟩, ⟨"canCreateMcpServers", _, boolean⟩,
     ⟨"canCreateSubAgents", _, boolean⟩, ⟨"canManageClients", _, boolean⟩,
     ⟨"canManageModules", _, boolean⟩, ⟨"canModifyMcpServers", _, boolean⟩,
     ⟨"canModifySubAgents", _, boolean⟩, ⟨"canRemoveMcpServers", _, boolean⟩,
     ⟨"canRemoveSubAgents", _, boolean⟩]
    { toFun := fun r =>
        (r.canChangeGovernancePolicy, r.canCreateMcpServers, r.canCreateSubAgents,
         r.canManageClients, r.canManageModules, r.canModifyMcpServers, r.canModifySubAgents,
         r.canRemoveMcpServers, r.canRemoveSubAgents, ())
      invFun := fun
        ⟨canChangeGovernancePolicy, canCreateMcpServers, canCreateSubAgents, canManageClients,
         canManageModules, canModifyMcpServers, canModifySubAgents, canRemoveMcpServers,
         canRemoveSubAgents, _⟩ =>
        { canChangeGovernancePolicy, canCreateMcpServers, canCreateSubAgents, canManageClients,
          canManageModules, canModifyMcpServers, canModifySubAgents, canRemoveMcpServers,
          canRemoveSubAgents }
      left_inv := fun _ => rfl
      right_inv := fun _ => rfl }
    {} (by simp [Field.keys])

def lanClient : Codec LanClient :=
  record
    [⟨"autonomousMode", _, boolean⟩, ⟨"capabilities", _, arrayOf text⟩, ⟨"clientId", _, text⟩,
     ⟨"clientType", _, text⟩, ⟨"createdAtUtc", _, text⟩, ⟨"disabledAtUtc", _, text⟩,
     ⟨"displayName", _, text⟩, ⟨"enabled", _, boolean⟩, ⟨"hostName", _, text⟩,
     ⟨"lastSeenUtc", _, text⟩, ⟨"networkAddress", _, text⟩, ⟨"privileges", _, lanClientPrivileges⟩]
    { toFun := fun r =>
        (r.autonomousMode, r.capabilities, r.clientId, r.clientType, r.createdAtUtc,
         r.disabledAtUtc, r.displayName, r.enabled, r.hostName, r.lastSeenUtc, r.networkAddress,
         r.privileges, ())
      invFun := fun
        ⟨autonomousMode, capabilities, clientId, clientType, createdAtUtc, disabledAtUtc,
         displayName, enabled, hostName, lastSeenUtc, networkAddress, privileges, _⟩ =>
        { autonomousMode, capabilities, clientId, clientType, createdAtUtc, disabledAtUtc,
          displayName, enabled, hostName, lastSeenUtc, networkAddress, privileges }
      left_inv := fun _ => rfl
      right_inv := fun _ => rfl }
    {} (by simp [Field.keys])

def appleToolchainState : Codec AppleToolchainState :=
  record
    [⟨"checkedAtUtc", _, text⟩, ⟨"developerDirectory", _, text⟩,
     ⟨"deviceControlAvailable", _, boolean⟩, ⟨"iosSdkAvailable", _, boolean⟩,
     ⟨"macosSdkAvailable", _, boolean⟩, ⟨"message", _, text⟩, ⟨"reachable", _, boolean⟩,
     ⟨"simulatorControlAvailable", _, boolean⟩, ⟨"simulatorRuntimes", _, arrayOf text⟩,
     ⟨"status", _, text⟩, ⟨"xcodeInstalled", _, boolean⟩, ⟨"xcodeVersion", _, text⟩]
    { toFun := fun r =>
        (r.checkedAtUtc, r.developerDirectory, r.deviceControlAvailable, r.iosSdkAvailable,
         r.macosSdkAvailable, r.message, r.reachable, r.simulatorControlAvailable,
         r.simulatorRuntimes, r.status, r.xcodeInstalled, r.xcodeVersion, ())
      invFun := fun
        ⟨checkedAtUtc, developerDirectory, deviceControlAvailable, iosSdkAvailable,
         macosSdkAvailable, message, reachable, simulatorControlAvailable, simulatorRuntimes,
         status, xcodeInstalled, xcodeVersion, _⟩ =>
        { checkedAtUtc, developerDirectory, deviceControlAvailable, iosSdkAvailable,
          macosSdkAvailable, message, reachable, simulatorControlAvailable, simulatorRuntimes,
          status, xcodeInstalled, xcodeVersion }
      left_inv := fun _ => rfl
      right_inv := fun _ => rfl }
    {} (by simp [Field.keys])

def appleSigningState : Codec AppleSigningState :=
  record
    [⟨"availableTeams", _, arrayOf text⟩, ⟨"developmentSigningReady", _, boolean⟩,
     ⟨"distributionSigningReady", _, boolean⟩, ⟨"message", _, text⟩, ⟨"signingReady", _, boolean⟩,
     ⟨"status", _, text⟩]
    { toFun := fun r =>
        (r.availableTeams, r.developmentSigningReady, r.distributionSigningReady, r.message,
         r.signingReady, r.status, ())
      invFun := fun
        ⟨availableTeams, developmentSigningReady, distributionSigningReady, message, signingReady,
         status, _⟩ =>
        { availableTeams, developmentSigningReady, distributionSigningReady, message, signingReady,
          status }
      left_inv := fun _ => rfl
      right_inv := fun _ => rfl }
    {} (by simp [Field.keys])

def appleRemoteHost : Codec AppleRemoteHost :=
  record
    [⟨"address", _, text⟩, ⟨"companionExecutePath", _, text⟩, ⟨"companionHealthPath", _, text⟩,
     ⟨"credentialProfileSummary", _, text⟩, ⟨"defaultNotaryKeychainProfile", _, text⟩,
     ⟨"defaultNotaryTeamId", _, text⟩, ⟨"defaultSigningIdentity", _, text⟩,
     ⟨"displayName", _, text⟩, ⟨"enabled", _, boolean⟩, ⟨"hostId", _, text⟩,
     ⟨"platforms", _, arrayOf platformTarget⟩, ⟨"port", _, uint16 conversions⟩,
     ⟨"preferredDeveloperDirectory", _, text⟩, ⟨"readinessIssues", _, arrayOf text⟩,
     ⟨"serviceBaseUrl", _, text⟩, ⟨"signing", _, appleSigningState⟩,
     ⟨"toolchain", _, appleToolchainState⟩, ⟨"transport", _, appleRemoteTransport⟩,
     ⟨"transportSummary", _, text⟩, ⟨"username", _, text⟩]
    { toFun := fun r =>
        (r.address, r.companionExecutePath, r.companionHealthPath, r.credentialProfileSummary,
         r.defaultNotaryKeychainProfile, r.defaultNotaryTeamId, r.defaultSigningIdentity,
         r.displayName, r.enabled, r.hostId, r.platforms, r.port, r.preferredDeveloperDirectory,
         r.readinessIssues, r.serviceBaseUrl, r.signing, r.toolchain, r.transport,
         r.transportSummary, r.username, ())
      invFun := fun
        ⟨address, companionExecutePath, companionHealthPath, credentialProfileSummary,
         defaultNotaryKeychainProfile, defaultNotaryTeamId, defaultSigningIdentity, displayName,
         enabled, hostId, platforms, port, preferredDeveloperDirectory, readinessIssues,
         serviceBaseUrl, signing, toolchain, transport, transportSummary, username, _⟩ =>
        { address, companionExecutePath, companionHealthPath, credentialProfileSummary,
          defaultNotaryKeychainProfile, defaultNotaryTeamId, defaultSigningIdentity, displayName,
          enabled, hostId, platforms, port, preferredDeveloperDirectory, readinessIssues,
          serviceBaseUrl, signing, toolchain, transport, transportSummary, username }
      left_inv := fun _ => rfl
      right_inv := fun _ => rfl }
    {} (by simp [Field.keys])

def runtimeEndpoint : Codec RuntimeEndpoint :=
  record
    [⟨"args", _, arrayOf text⟩, ⟨"autoscaleMaxInstances", _, int conversions⟩,
     ⟨"autoscaleMaxLeasesPerInstance", _, int conversions⟩, ⟨"command", _, text⟩,
     ⟨"description", _, text⟩, ⟨"displayName", _, text⟩, ⟨"environment", _, mapOf text⟩,
     ⟨"highRisk", _, boolean⟩, ⟨"host", _, text⟩, ⟨"id", _, text⟩, ⟨"isTemplate", _, boolean⟩,
     ⟨"kind", _, endpointKind⟩, ⟨"lastCheckedUtc", _, text⟩, ⟨"port", _, uint16 conversions⟩,
     ⟨"protocol", _, text⟩, ⟨"requiredCapabilities", _, arrayOf text⟩, ⟨"risk", _, text⟩,
     ⟨"routePath", _, text⟩, ⟨"specialization", _, text⟩, ⟨"status", _, endpointStatus⟩,
     ⟨"userDefined", _, boolean⟩, ⟨"workingDirectory", _, text⟩]
    { toFun := fun r =>
        (r.args, r.autoscaleMaxInstances, r.autoscaleMaxLeasesPerInstance, r.command,
         r.description, r.displayName, r.environment, r.highRisk, r.host, r.id, r.isTemplate,
         r.kind, r.lastCheckedUtc, r.port, r.protocol, r.requiredCapabilities, r.risk, r.routePath,
         r.specialization, r.status, r.userDefined, r.workingDirectory, ())
      invFun := fun
        ⟨args, autoscaleMaxInstances, autoscaleMaxLeasesPerInstance, command, description,
         displayName, environment, highRisk, host, id, isTemplate, kind, lastCheckedUtc, port,
         protocol, requiredCapabilities, risk, routePath, specialization, status, userDefined,
         workingDirectory, _⟩ =>
        { args, autoscaleMaxInstances, autoscaleMaxLeasesPerInstance, command, description,
          displayName, environment, highRisk, host, id, isTemplate, kind, lastCheckedUtc, port,
          protocol, requiredCapabilities, risk, routePath, specialization, status, userDefined,
          workingDirectory }
      left_inv := fun _ => rfl
      right_inv := fun _ => rfl }
    {} (by simp [Field.keys])

def managedNodeProfile : Codec ManagedNodeProfile :=
  record
    [⟨"environmentName", _, text⟩, ⟨"macAddress", _, text⟩, ⟨"preferredBindAddress", _, text⟩,
     ⟨"seededEndpoints", _, arrayOf (runtimeEndpoint conversions)⟩]
    { toFun := fun r =>
        (r.environmentName, r.macAddress, r.preferredBindAddress, r.seededEndpoints, ())
      invFun := fun
        ⟨environmentName, macAddress, preferredBindAddress, seededEndpoints, _⟩ =>
        { environmentName, macAddress, preferredBindAddress, seededEndpoints }
      left_inv := fun _ => rfl
      right_inv := fun _ => rfl }
    {} (by simp [Field.keys])

def mcpGatewayConfiguration : Codec McpGatewayConfiguration :=
  record
    [⟨"binaryPath", _, text⟩, ⟨"databasePath", _, text⟩, ⟨"enabled", _, boolean⟩,
     ⟨"healthPath", _, text⟩, ⟨"listenHost", _, text⟩, ⟨"listenPort", _, uint16 conversions⟩,
     ⟨"mcpPath", _, text⟩, ⟨"mode", _, text⟩, ⟨"tlsCertThumbprint", _, text⟩,
     ⟨"tlsEnabled", _, boolean⟩, ⟨"tlsListenPort", _, uint16 conversions⟩,
     ⟨"type", _, gatewayType⟩]
    { toFun := fun r =>
        (r.binaryPath, r.databasePath, r.enabled, r.healthPath, r.listenHost, r.listenPort,
         r.mcpPath, r.mode, r.tlsCertThumbprint, r.tlsEnabled, r.tlsListenPort, r.type, ())
      invFun := fun
        ⟨binaryPath, databasePath, enabled, healthPath, listenHost, listenPort, mcpPath, mode,
         tlsCertThumbprint, tlsEnabled, tlsListenPort, type, _⟩ =>
        { binaryPath, databasePath, enabled, healthPath, listenHost, listenPort, mcpPath, mode,
          tlsCertThumbprint, tlsEnabled, tlsListenPort, type }
      left_inv := fun _ => rfl
      right_inv := fun _ => rfl }
    {} (by simp [Field.keys])

def healthProbeSpec : Codec HealthProbeSpec :=
  record
    [⟨"intervalMs", _, int conversions⟩, ⟨"path", _, text⟩, ⟨"timeoutMs", _, int conversions⟩,
     ⟨"transport", _, text⟩, ⟨"unhealthyThreshold", _, int conversions⟩]
    { toFun := fun r =>
        (r.intervalMs, r.path, r.timeoutMs, r.transport, r.unhealthyThreshold, ())
      invFun := fun
        ⟨intervalMs, path, timeoutMs, transport, unhealthyThreshold, _⟩ =>
        { intervalMs, path, timeoutMs, transport, unhealthyThreshold }
      left_inv := fun _ => rfl
      right_inv := fun _ => rfl }
    {} (by simp [Field.keys])

def endpointTemplate : Codec EndpointTemplate :=
  record
    [⟨"args", _, arrayOf text⟩, ⟨"environment", _, mapOf text⟩, ⟨"executable", _, text⟩,
     ⟨"healthProbe", _, healthProbeSpec conversions⟩, ⟨"transport", _, text⟩,
     ⟨"workingDirectory", _, text⟩]
    { toFun := fun r =>
        (r.args, r.environment, r.executable, r.healthProbe, r.transport, r.workingDirectory, ())
      invFun := fun
        ⟨args, environment, executable, healthProbe, transport, workingDirectory, _⟩ =>
        { args, environment, executable, healthProbe, transport, workingDirectory }
      left_inv := fun _ => rfl
      right_inv := fun _ => rfl }
    {} (by simp [Field.keys])

def scalePolicy : Codec ScalePolicy :=
  record
    [⟨"maxActiveLeasesPerInstance", _, int conversions⟩, ⟨"maxInstances", _, int conversions⟩,
     ⟨"minInstances", _, int conversions⟩, ⟨"scaleInIdleSeconds", _, int conversions⟩,
     ⟨"scaleOutQueueWaitMs", _, int conversions⟩]
    { toFun := fun r =>
        (r.maxActiveLeasesPerInstance, r.maxInstances, r.minInstances, r.scaleInIdleSeconds,
         r.scaleOutQueueWaitMs, ())
      invFun := fun
        ⟨maxActiveLeasesPerInstance, maxInstances, minInstances, scaleInIdleSeconds,
         scaleOutQueueWaitMs, _⟩ =>
        { maxActiveLeasesPerInstance, maxInstances, minInstances, scaleInIdleSeconds,
          scaleOutQueueWaitMs }
      left_inv := fun _ => rfl
      right_inv := fun _ => rfl }
    {} (by simp [Field.keys])

def drainPolicy : Codec DrainPolicy :=
  record
    [⟨"drainStickySessions", _, boolean⟩, ⟨"drainTimeoutSeconds", _, int conversions⟩,
     ⟨"routeNewSessionsToReplacement", _, boolean⟩]
    { toFun := fun r =>
        (r.drainStickySessions, r.drainTimeoutSeconds, r.routeNewSessionsToReplacement, ())
      invFun := fun
        ⟨drainStickySessions, drainTimeoutSeconds, routeNewSessionsToReplacement, _⟩ =>
        { drainStickySessions, drainTimeoutSeconds, routeNewSessionsToReplacement }
      left_inv := fun _ => rfl
      right_inv := fun _ => rfl }
    {} (by simp [Field.keys])

def workerTelemetry : Codec WorkerTelemetry :=
  record
    [⟨"activeLeases", _, int conversions⟩, ⟨"cpuPercent", _, double conversions⟩,
     ⟨"inflightCalls", _, int conversions⟩, ⟨"lastHealthMessage", _, text⟩,
     ⟨"lastProbedAtUtc", _, text⟩, ⟨"memoryMbytes", _, double conversions⟩,
     ⟨"queueDepth", _, int conversions⟩]
    { toFun := fun r =>
        (r.activeLeases, r.cpuPercent, r.inflightCalls, r.lastHealthMessage, r.lastProbedAtUtc,
         r.memoryMbytes, r.queueDepth, ())
      invFun := fun
        ⟨activeLeases, cpuPercent, inflightCalls, lastHealthMessage, lastProbedAtUtc, memoryMbytes,
         queueDepth, _⟩ =>
        { activeLeases, cpuPercent, inflightCalls, lastHealthMessage, lastProbedAtUtc, memoryMbytes,
          queueDepth }
      left_inv := fun _ => rfl
      right_inv := fun _ => rfl }
    {} (by simp [Field.keys])

def endpointInstance : Codec EndpointInstance :=
  record
    [⟨"healthProbeAtUtc", _, text⟩, ⟨"healthProbePassed", _, boolean⟩, ⟨"instanceId", _, text⟩,
     ⟨"lastTransitionAtUtc", _, text⟩, ⟨"poolId", _, text⟩, ⟨"processId", _, uint32 conversions⟩,
     ⟨"startedAtUtc", _, text⟩, ⟨"state", _, endpointInstanceState⟩, ⟨"statusMessage", _, text⟩,
     ⟨"supervised", _, boolean⟩, ⟨"telemetry", _, workerTelemetry conversions⟩]
    { toFun := fun r =>
        (r.healthProbeAtUtc, r.healthProbePassed, r.instanceId, r.lastTransitionAtUtc, r.poolId,
         r.processId, r.startedAtUtc, r.state, r.statusMessage, r.supervised, r.telemetry, ())
      invFun := fun
        ⟨healthProbeAtUtc, healthProbePassed, instanceId, lastTransitionAtUtc, poolId, processId,
         startedAtUtc, state, statusMessage, supervised, telemetry, _⟩ =>
        { healthProbeAtUtc, healthProbePassed, instanceId, lastTransitionAtUtc, poolId, processId,
          startedAtUtc, state, statusMessage, supervised, telemetry }
      left_inv := fun _ => rfl
      right_inv := fun _ => rfl }
    {} (by simp [Field.keys])

def managedEndpointPool : Codec ManagedEndpointPool :=
  record
    [⟨"createdAtUtc", _, text⟩, ⟨"displayName", _, text⟩,
     ⟨"drainPolicy", _, drainPolicy conversions⟩,
     ⟨"instances", _, arrayOf (endpointInstance conversions)⟩, ⟨"kind", _, endpointPoolKind⟩,
     ⟨"logicalMcpUrl", _, text⟩, ⟨"poolId", _, text⟩, ⟨"quarantinedUntilUtc", _, text⟩,
     ⟨"scalePolicy", _, scalePolicy conversions⟩, ⟨"template", _, endpointTemplate conversions⟩,
     ⟨"updatedAtUtc", _, text⟩]
    { toFun := fun r =>
        (r.createdAtUtc, r.displayName, r.drainPolicy, r.instances, r.kind, r.logicalMcpUrl,
         r.poolId, r.quarantinedUntilUtc, r.scalePolicy, r.template, r.updatedAtUtc, ())
      invFun := fun
        ⟨createdAtUtc, displayName, drainPolicy, instances, kind, logicalMcpUrl, poolId,
         quarantinedUntilUtc, scalePolicy, template, updatedAtUtc, _⟩ =>
        { createdAtUtc, displayName, drainPolicy, instances, kind, logicalMcpUrl, poolId,
          quarantinedUntilUtc, scalePolicy, template, updatedAtUtc }
      left_inv := fun _ => rfl
      right_inv := fun _ => rfl }
    {} (by simp [Field.keys])

def appConfiguration : Codec AppConfiguration :=
  record
    [⟨"activeProfile", _, managedNodeProfile conversions⟩, ⟨"advancedMode", _, boolean⟩,
     ⟨"aiAutonomyEnabled", _, boolean⟩,
     ⟨"appleRemoteHosts", _, arrayOf (appleRemoteHost conversions)⟩,
     ⟨"beaconBroadcastIntervalSeconds", _, uint16 conversions⟩, ⟨"beaconEnabled", _, boolean⟩,
     ⟨"beaconPort", _, uint16 conversions⟩, ⟨"bindAddress", _, text⟩,
     ⟨"browserPort", _, uint16 conversions⟩, ⟨"firstRunCompleted", _, boolean⟩,
     ⟨"firstRunCompletedAtUtc", _, text⟩, ⟨"firstRunSkippedSteps", _, arrayOf text⟩,
     ⟨"firstRunStartedAtUtc", _, text⟩, ⟨"instanceId", _, text⟩, ⟨"instanceName", _, text⟩,
     ⟨"lanClients", _, arrayOf lanClient⟩, ⟨"mcpGateway", _, mcpGatewayConfiguration conversions⟩,
     ⟨"pools", _, arrayOf (managedEndpointPool conversions)⟩,
     ⟨"resourceAllocation", _, resourceAllocationProfile conversions⟩,
     ⟨"security", _, securitySettings⟩, ⟨"setupCurrentStep", _, text⟩,
     ⟨"setupDismissedAtUtc", _, text⟩, ⟨"setupMode", _, text⟩,
     ⟨"setupOverrides", _, arrayOf setupOverrideRecord⟩,
     ⟨"subAgentGroups", _, arrayOf subAgentGroupDefinition⟩,
     ⟨"workflows", _, arrayOf workflowDefinition⟩]
    { toFun := fun r =>
        (r.activeProfile, r.advancedMode, r.aiAutonomyEnabled, r.appleRemoteHosts,
         r.beaconBroadcastIntervalSeconds, r.beaconEnabled, r.beaconPort, r.bindAddress,
         r.browserPort, r.firstRunCompleted, r.firstRunCompletedAtUtc, r.firstRunSkippedSteps,
         r.firstRunStartedAtUtc, r.instanceId, r.instanceName, r.lanClients, r.mcpGateway, r.pools,
         r.resourceAllocation, r.security, r.setupCurrentStep, r.setupDismissedAtUtc, r.setupMode,
         r.setupOverrides, r.subAgentGroups, r.workflows, ())
      invFun := fun
        ⟨activeProfile, advancedMode, aiAutonomyEnabled, appleRemoteHosts,
         beaconBroadcastIntervalSeconds, beaconEnabled, beaconPort, bindAddress, browserPort,
         firstRunCompleted, firstRunCompletedAtUtc, firstRunSkippedSteps, firstRunStartedAtUtc,
         instanceId, instanceName, lanClients, mcpGateway, pools, resourceAllocation, security,
         setupCurrentStep, setupDismissedAtUtc, setupMode, setupOverrides, subAgentGroups,
         workflows, _⟩ =>
        { activeProfile, advancedMode, aiAutonomyEnabled, appleRemoteHosts,
          beaconBroadcastIntervalSeconds, beaconEnabled, beaconPort, bindAddress, browserPort,
          firstRunCompleted, firstRunCompletedAtUtc, firstRunSkippedSteps, firstRunStartedAtUtc,
          instanceId, instanceName, lanClients, mcpGateway, pools, resourceAllocation, security,
          setupCurrentStep, setupDismissedAtUtc, setupMode, setupOverrides, subAgentGroups,
          workflows }
      left_inv := fun _ => rfl
      right_inv := fun _ => rfl }
    {} (by simp [Field.keys])

end Records
end Configuration
end MasterControl
