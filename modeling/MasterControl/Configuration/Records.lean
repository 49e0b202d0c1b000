import MasterControl.Clients.Capabilities
import MasterControl.Configuration.Services
import MasterControl.Foundation.Codec

/-!
# The records of the configuration

The structures that stand in the configuration file, with every member and its default.  Integers
are those of their width.
-/

namespace MasterControl
namespace Configuration
namespace Records

open Foundation Clients

/-! ## Enumerations -/

inductive PlatformTarget where
  | windows
  | macos
  | ios
  | unknown
  deriving DecidableEq

inductive AppleRemoteTransport where
  | unknown
  | ssh
  | companionService
  deriving DecidableEq

inductive GatewayType where
  | native
  deriving DecidableEq

inductive EndpointPoolKind where
  | mcpServer
  | subAgent
  deriving DecidableEq

inductive EndpointInstanceState where
  | configured
  | starting
  | ready
  | busy
  | draining
  | failed
  | stopped
  deriving DecidableEq

/-! ## Structures -/

structure SetupOverrideRecord where
  stepId : String := ""
  issueId : String := ""
  reason : String := ""
  createdAtUtc : String := ""

structure SecuritySettings where
  enableTls : Bool := false
  enableAuthentication : Bool := true
  allowTroubleshootingBypass : Bool := false
  allowOpenLanAccess : Bool := false
  securityProtocolsEnabled : Bool := true
  securityPosture : String := "local-only"
  trustedRemoteHosts : List String := []
  beaconSigningEnabled : Bool := true
  beaconSigningKey : String := ""
  adminTlsEnabled : Bool := false
  adminTlsCertThumbprint : String := ""

structure ResourceAllocationProfile where
  cpuPercent : Int32 := 50
  memoryPercent : Int32 := 50
  bandwidthPercent : Int32 := 50
  storagePercent : Int32 := 50

structure WorkflowStepDefinition where
  stepId : String := ""
  kind : String := "mcp-tool"
  target : String := ""
  arguments : Json := .object []
  requiresApproval : Bool := false

structure WorkflowDefinition where
  workflowId : String := ""
  displayName : String := ""
  description : String := ""
  source : String := "manual"
  enabled : Bool := true
  createdAtUtc : String := ""
  updatedAtUtc : String := ""
  requiredCapabilities : List String := []
  steps : List WorkflowStepDefinition := []

structure AppleToolchainState where
  reachable : Bool := false
  xcodeInstalled : Bool := false
  xcodeVersion : String := ""
  developerDirectory : String := ""
  macosSdkAvailable : Bool := false
  iosSdkAvailable : Bool := false
  simulatorControlAvailable : Bool := false
  deviceControlAvailable : Bool := false
  simulatorRuntimes : List String := []
  status : String := "unknown"
  message : String := ""
  checkedAtUtc : String := ""

structure AppleSigningState where
  signingReady : Bool := false
  developmentSigningReady : Bool := false
  distributionSigningReady : Bool := false
  availableTeams : List String := []
  status : String := "unknown"
  message : String := ""

structure AppleRemoteHost where
  hostId : String := ""
  displayName : String := ""
  transport : AppleRemoteTransport := .unknown
  platforms : List PlatformTarget := []
  address : String := ""
  port : UInt16 := 0
  username : String := ""
  serviceBaseUrl : String := ""
  companionHealthPath : String := "/healthz"
  companionExecutePath : String := "/execute"
  preferredDeveloperDirectory : String := ""
  defaultSigningIdentity : String := ""
  defaultNotaryKeychainProfile : String := ""
  defaultNotaryTeamId : String := ""
  enabled : Bool := true
  toolchain : AppleToolchainState := {}
  signing : AppleSigningState := {}
  transportSummary : String := ""
  credentialProfileSummary : String := ""
  readinessIssues : List String := []

structure RuntimeEndpoint where
  id : String := ""
  displayName : String := ""
  kind : EndpointKind := .mcpServer
  host : String := ""
  port : UInt16 := 0
  protocol : String := "http"
  status : EndpointStatus := .unknown
  description : String := ""
  lastCheckedUtc : String := ""
  routePath : String := ""
  specialization : String := ""
  userDefined : Bool := false
  isTemplate : Bool := false
  requiredCapabilities : List String := []
  risk : String := ""
  highRisk : Bool := false
  command : String := ""
  args : List String := []
  workingDirectory : String := ""
  environment : List (String × String) := []
  autoscaleMaxInstances : Int32 := 4
  autoscaleMaxLeasesPerInstance : Int32 := 2

structure ManagedNodeProfile where
  environmentName : String := ""
  preferredBindAddress : String := ""
  macAddress : String := ""
  seededEndpoints : List RuntimeEndpoint := []

structure McpGatewayConfiguration where
  type : GatewayType := .native
  enabled : Bool := false
  binaryPath : String := ""
  listenHost : String := "127.0.0.1"
  listenPort : UInt16 := 8080
  mcpPath : String := "/mcp"
  healthPath : String := "/health"
  databasePath : String := ""
  mode : String := "local-only"
  tlsEnabled : Bool := false
  tlsListenPort : UInt16 := 8443
  tlsCertThumbprint : String := ""

structure HealthProbeSpec where
  transport : String := ""
  path : String := ""
  intervalMs : Int32 := 5000
  timeoutMs : Int32 := 1500
  unhealthyThreshold : Int32 := 3

structure EndpointTemplate where
  executable : String := ""
  args : List String := []
  workingDirectory : String := ""
  environment : List (String × String) := []
  transport : String := "streamable_http"
  healthProbe : HealthProbeSpec := {}

structure ScalePolicy where
  minInstances : Int32 := 0
  maxInstances : Int32 := 1
  maxActiveLeasesPerInstance : Int32 := 1
  scaleOutQueueWaitMs : Int32 := 1500
  scaleInIdleSeconds : Int32 := 300

structure DrainPolicy where
  drainTimeoutSeconds : Int32 := 30
  drainStickySessions : Bool := true
  routeNewSessionsToReplacement : Bool := true

structure WorkerTelemetry where
  activeLeases : Int32 := 0
  queueDepth : Int32 := 0
  inflightCalls : Int32 := 0
  cpuPercent : Double := ⟨"-1.0"⟩
  memoryMbytes : Double := ⟨"-1.0"⟩
  lastProbedAtUtc : String := ""
  lastHealthMessage : String := ""

structure EndpointInstance where
  instanceId : String := ""
  poolId : String := ""
  state : EndpointInstanceState := .configured
  processId : UInt32 := 0
  supervised : Bool := false
  startedAtUtc : String := ""
  lastTransitionAtUtc : String := ""
  statusMessage : String := ""
  telemetry : WorkerTelemetry := {}
  healthProbePassed : Bool := false
  healthProbeAtUtc : String := ""

structure ManagedEndpointPool where
  poolId : String := ""
  kind : EndpointPoolKind := .mcpServer
  displayName : String := ""
  logicalMcpUrl : String := ""
  template : EndpointTemplate := {}
  scalePolicy : ScalePolicy := {}
  drainPolicy : DrainPolicy := {}
  instances : List EndpointInstance := []
  createdAtUtc : String := ""
  updatedAtUtc : String := ""
  quarantinedUntilUtc : String := ""

structure AppConfiguration where
  instanceName : String := "Master Control Orchestration Server"
  instanceId : String := ""
  bindAddress : String := "127.0.0.1"
  browserPort : UInt16 := 7300
  beaconPort : UInt16 := 7301
  beaconBroadcastIntervalSeconds : UInt16 := 15
  beaconEnabled : Bool := false
  aiAutonomyEnabled : Bool := false
  advancedMode : Bool := false
  firstRunCompleted : Bool := false
  firstRunStartedAtUtc : String := ""
  firstRunCompletedAtUtc : String := ""
  firstRunSkippedSteps : List String := []
  setupMode : String := "guided"
  setupCurrentStep : String := "welcome"
  setupDismissedAtUtc : String := ""
  setupOverrides : List SetupOverrideRecord := []
  security : SecuritySettings := {}
  resourceAllocation : ResourceAllocationProfile := {}
  subAgentGroups : List SubAgentGroupDefinition := []
  workflows : List WorkflowDefinition := []
  lanClients : List LanClient := []
  appleRemoteHosts : List AppleRemoteHost := []
  activeProfile : ManagedNodeProfile := {}
  mcpGateway : McpGatewayConfiguration := {}
  pools : List ManagedEndpointPool := []

end Records
end Configuration
end MasterControl
