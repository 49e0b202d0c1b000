import MasterControl.Clients.ToolCapabilities
import MasterControl.Configuration.Codecs
import MasterControl.Configuration.Startup
import MasterControl.Gateway.Lifecycle

/-!
# What a start completes

The constructor of the configuration service removes the endpoints of features that were dropped.
Then it completes what partial requests have wiped: the identity of the host, the listen host of the
gateway, the endpoints of the catalog, and their hosts.

Each pass only fills what is empty, or a wildcard, and adds what is absent; the removed features are
none of the catalog's.  So everything else stays as it was, and once the result is written, the next
start has nothing to do (`construct_completes`), as no adapter holds the unspecified address.
-/

namespace MasterControl
namespace Configuration
namespace Records
namespace SelfHeal

open Foundation Clients

/-! ## The machine -/

inductive AddressFamily where
  | ipv4
  | ipv6
  | other
  deriving DecidableEq

structure UnicastAddress where
  family : AddressFamily
  /-- What `getnameinfo` writes. -/
  numericHost : Option String

structure Adapter where
  up : Bool
  softwareLoopback : Bool
  addresses : List UnicastAddress
  physicalAddress : List UInt8

structure Machine where
  computerName : String
  operatingSystem : String
  /-- What `GetAdaptersAddresses` lists, if it does. -/
  adapters : Option (List Adapter)

structure DiscoveredEnvironment where
  hostName : String
  operatingSystem : String
  preferredBindAddress : String
  macAddress : String

def Adapter.isEligible (adapter : Adapter) : Bool := adapter.up && !adapter.softwareLoopback

def isLinkLocalIpv4 (host : String) : Bool := "169.254.".toList.isPrefixOf host.toList

def isLinkLocalIpv6 (host : String) : Bool :=
  match host.toList.map Char.toLower with
  | 'f' :: 'e' :: c :: '0' :: _ => c = '8' || c = '9' || c = 'a' || c = 'b'
  | _ => false

/-- The host without the zone of its interface. -/
def withoutZone (host : String) : String := String.ofList (host.toList.takeWhile (· ≠ '%'))

def routableIpv4 (address : UnicastAddress) : Option String :=
  if address.family = .ipv4 then address.numericHost.filter fun host => !isLinkLocalIpv4 host
  else none

def routableIpv6 (address : UnicastAddress) : Option String :=
  if address.family = .ipv6 then
    (address.numericHost.filter fun host => !isLinkLocalIpv6 host).map withoutZone
  else none

def anyAddress (address : UnicastAddress) : Option String := address.numericHost.map withoutZone

/-- One walk: the first candidate of each adapter, until one is not empty. -/
def firstHost (candidate : UnicastAddress → Option String) (adapters : List Adapter) : String :=
  (((adapters.filter Adapter.isEligible).map fun adapter =>
    (adapter.addresses.findSome? candidate).getD "").find? (· ≠ "")).getD ""

def detectIpAddress (adapters : List Adapter) : String :=
  let routable := firstHost routableIpv4 adapters
  if routable ≠ "" then routable
  else
    let routable := firstHost routableIpv6 adapters
    if routable ≠ "" then routable else firstHost anyAddress adapters

def hexDigit (n : ℕ) : Char := if n < 10 then Char.ofNat (48 + n) else Char.ofNat (55 + n)

/-- The bytes in hexadecimal, with colons between them. -/
def macText (physicalAddress : List UInt8) : String :=
  ":".intercalate (physicalAddress.map fun byte =>
    String.ofList [hexDigit (byte.toNat / 16), hexDigit (byte.toNat % 16)])

/-- The first adapter that holds the address, or any if there is none. -/
def detectMacAddress (ipAddress : String) (adapters : List Adapter) : String :=
  match (adapters.filter Adapter.isEligible).find? fun adapter =>
      ipAddress = "" ||
        adapter.addresses.any fun address => anyAddress address = some ipAddress with
  | some adapter => macText adapter.physicalAddress
  | none => ""

def detectLocalEnvironment (machine : Machine) : DiscoveredEnvironment :=
  let adapters := machine.adapters.getD []
  let ipAddress := detectIpAddress adapters
  { hostName := machine.computerName
    operatingSystem := machine.operatingSystem
    preferredBindAddress := if ipAddress = "" then "127.0.0.1" else ipAddress
    macAddress := detectMacAddress ipAddress adapters }

/-! ## The catalog -/

def makeEndpoint (id displayName : String) (kind : EndpointKind) (host : String) (port : UInt16)
    (routePath description : String) : RuntimeEndpoint where
  id
  displayName
  kind
  host
  port
  protocol := "http"
  status := .template
  routePath
  description
  lastCheckedUtc := ""
  isTemplate := true

structure McpSeed where
  id : String
  displayName : String
  port : UInt16
  specialization : String
  description : String

def baselineMcpCatalog : List McpSeed :=
  [⟨"filesystem", "Filesystem MCP", 7101, "filesystem",
      "Read/write files and directories under operator-allowed roots."⟩,
   ⟨"memory", "Memory MCP", 7102, "memory",
      "Short-term scratch memory shared across MCP-driven sessions."⟩,
   ⟨"sequential-thinking", "Sequential Thinking MCP", 7103, "reasoning",
      "Step-by-step planning + reasoning trace surface for agent loops."⟩,
   ⟨"computer-use", "Computer Use MCP", 7104, "automation",
      "Anthropic-style computer-use primitives: screenshot, click, type, scroll."⟩,
   ⟨"desktop-control", "Desktop Control MCP", 7105, "automation",
      "Higher-level desktop control: window management, focus, app launch."⟩,
   ⟨"chrome-devtools", "Chrome DevTools MCP", 7107, "browser",
      "Chrome DevTools Protocol surface: DOM, network, console, performance."⟩,
   ⟨"terminal-shell", "Terminal / Shell MCP", 7108, "shell",
      "Execute shell commands in supervised PowerShell / cmd / bash sessions."⟩,
   ⟨"local-git", "Local Git MCP", 7109, "vcs",
      "Local git operations: status, diff, commit, branch, log, blame."⟩,
   ⟨"sqlite", "SQLite MCP", 7110, "database",
      "Direct SQLite query surface against operator-attached *.sqlite files."⟩,
   ⟨"local-database", "Local Database MCP", 7111, "database",
      "Generic local DB driver (Postgres / MySQL / SQL Server) over " ++
        "operator-supplied connection strings."⟩,
   ⟨"file-search", "File Search MCP", 7113, "filesystem",
      "Indexed full-text search across operator-allowed file roots (ripgrep-backed)."⟩,
   ⟨"code-execution-repl", "Code Execution / REPL MCP", 7114, "execution",
      "Sandboxed Python / Node / PowerShell REPL for ad-hoc code evaluation."⟩,
   ⟨"local-test-runner", "Local Test Runner MCP", 7115, "testing",
      "Run pytest / jest / ctest / dotnet-test in the operator's repo and stream results."⟩,
   ⟨"screen-capture-vision", "Screen Capture / Vision MCP", 7116, "vision",
      "Capture screen regions and run vision OCR / object detection locally."⟩,
   ⟨"keyboard-mouse-control", "Keyboard & Mouse Control MCP", 7117, "automation",
      "Low-level input synthesis (SendInput) for keystrokes, mouse, hotkeys."⟩,
   ⟨"persistent-context", "Persistent Context MCP", 7118, "memory",
      "Long-term cross-session memory persisted to disk."⟩,
   ⟨"local-build-tool", "Local Build Tool MCP", 7119, "build",
      "Drive cmake / msbuild / cargo / gradle / npm / dotnet build with structured output."⟩,
   ⟨"local-indexer", "Local Indexer MCP", 7122, "indexer",
      "Project-wide symbol + reference index (tree-sitter / clangd / pyright)."⟩,
   ⟨"file-watcher", "File Watcher MCP", 7123, "filesystem",
      "Watch operator-specified paths for create/modify/delete and stream change events."⟩,
   ⟨"knowledge-graph", "Knowledge Graph MCP", 7124, "memory",
      "Triple-store knowledge graph over operator-imported entities + relations."⟩,
   ⟨"local-linter", "Local Linter MCP", 7125, "quality",
      "Run eslint / pylint / clang-tidy / ruff against operator-specified files."⟩]

/-- The sub-agents and their ports. -/
def agents : List (String × UInt16) :=
  [("sentinel", 7201), ("architect", 7202), ("forge", 7203), ("scribe", 7204), ("recon", 7205),
   ("nexus", 7206), ("watchtower", 7207)]

def McpSeed.endpoint (host : String) (seed : McpSeed) : RuntimeEndpoint :=
  let requiredCapabilities := requiredCapabilitiesForMcpTool seed.id ""
  { makeEndpoint seed.id seed.displayName .mcpServer host seed.port "/" seed.description with
    specialization := seed.specialization
    requiredCapabilities
    risk := highestCapabilityRisk requiredCapabilities
    highRisk := requiredCapabilities ≠ [] }

def buildDefaultSeededEndpointsForHost (host : String) : List RuntimeEndpoint :=
  let host := if host = "" then "127.0.0.1" else host
  [makeEndpoint "platform-gateway" "Platform Gateway" .gateway host 8080 "/health"
      "Native HTTP.sys MCP gateway",
    makeEndpoint "browser-gateway" "Browser Gateway" .browserGateway host 7300 "/"
      "Master Control Orchestration Server browser surface",
    makeEndpoint "client-tracker" "Client Tracker" .mcpServer host 7120 "/api/clients"
      "LAN client tracker",
    makeEndpoint "metrics" "Metrics" .mcpServer host 7121 "/api/metrics" "Host metrics feed"] ++
  baselineMcpCatalog.map (McpSeed.endpoint host) ++
  agents.map fun agent =>
    makeEndpoint agent.1 agent.1 .subAgent host agent.2 "/" "Managed orchestration sub-agent"

def kRemovedAlphaFeatureIds : List String := ["docker-control", "playwright"]

def isRemovedAlphaFeatureId (id : String) : Bool := kRemovedAlphaFeatureIds.contains id

/-! ## The repairs -/

/-- What is filled in where a text is empty and something was detected, and whether it is. -/
def fillText (value detected filled : String) : String × Bool :=
  if value = "" ∧ detected ≠ "" then (filled, true) else (value, false)

def healIdentity (environment : DiscoveredEnvironment) (configuration : AppConfiguration) :
    AppConfiguration × Bool :=
  let profile := configuration.activeProfile
  let address := fillText profile.preferredBindAddress environment.preferredBindAddress
    environment.preferredBindAddress
  let mac := fillText profile.macAddress environment.macAddress environment.macAddress
  let name := fillText profile.environmentName environment.hostName
    (environment.hostName ++ " - " ++ environment.operatingSystem)
  ({ configuration with
      activeProfile := { profile with
        preferredBindAddress := address.1
        macAddress := mac.1
        environmentName := name.1 } },
    address.2 || mac.2 || name.2)

def isWildcardOrEmpty (value : String) : Bool :=
  value = "" || value = "0.0.0.0" || value = "*" || value = "::" || value = "::0" ||
    value = "[::]" || value = "[::0]"

def healListenHost (detectedIp : String) (configuration : AppConfiguration) :
    AppConfiguration × Bool :=
  let detectedIpUsable := detectedIp ≠ "" && detectedIp ≠ "0.0.0.0"
  if detectedIpUsable && isWildcardOrEmpty configuration.mcpGateway.listenHost then
    ({ configuration with
        mcpGateway := { configuration.mcpGateway with
          listenHost := Gateway.bracketIpv6Host detectedIp } },
      true)
  else (configuration, false)

/-- The endpoints with those of the catalog whose ids are absent. -/
def addMissing (defaults endpoints : List RuntimeEndpoint) : List RuntimeEndpoint × Bool :=
  let missing := defaults.filter fun endpoint => !endpoints.any (·.id = endpoint.id)
  (endpoints ++ missing, !missing.isEmpty)

/-- The host of the catalog for an endpoint whose own was wiped. -/
def defaultHost (defaults : List RuntimeEndpoint) (endpoint : RuntimeEndpoint) : Option String :=
  if endpoint.host = "" then
    ((defaults.find? (·.id = endpoint.id)).map RuntimeEndpoint.host).filter (· ≠ "")
  else none

def rebind (defaults : List RuntimeEndpoint) (endpoint : RuntimeEndpoint) : RuntimeEndpoint :=
  { endpoint with host := (defaultHost defaults endpoint).getD endpoint.host }

def rebindHosts (defaults endpoints : List RuntimeEndpoint) : List RuntimeEndpoint × Bool :=
  (endpoints.map (rebind defaults), endpoints.any fun endpoint =>
    (defaultHost defaults endpoint).isSome)

def seedHost (profile : ManagedNodeProfile) : String :=
  if profile.preferredBindAddress = "" then "127.0.0.1" else profile.preferredBindAddress

def healEndpoints (configuration : AppConfiguration) : AppConfiguration × Bool :=
  let profile := configuration.activeProfile
  let defaults := buildDefaultSeededEndpointsForHost (seedHost profile)
  let added := addMissing defaults profile.seededEndpoints
  let rebound := rebindHosts defaults added.1
  ({ configuration with activeProfile := { profile with seededEndpoints := rebound.1 } },
    added.2 || rebound.2)

/-- The configuration after all repairs, and whether one was made. -/
def selfHeal (environment : DiscoveredEnvironment) (configuration : AppConfiguration) :
    AppConfiguration × Bool :=
  let identity := healIdentity environment configuration
  let listenHost := healListenHost environment.preferredBindAddress identity.1
  let endpoints := healEndpoints listenHost.1
  (endpoints.1, identity.2 || listenHost.2 || endpoints.2)

def prune (configuration : AppConfiguration) : AppConfiguration :=
  { configuration with
    activeProfile := { configuration.activeProfile with
      seededEndpoints := configuration.activeProfile.seededEndpoints.filter fun endpoint =>
        !isRemovedAlphaFeatureId endpoint.id } }

/-! ## The constructor -/

/-- What does not change from one start to the next. -/
structure Start where
  format : DocumentFormat
  conversions : NumberConversions
  machine : Machine
  /-- `buildDefaultConfiguration()`. -/
  defaultConfiguration : AppConfiguration

/-- The service after its construction, with the answers of the writes. -/
structure Constructed where
  configuration : AppConfiguration
  file : Option Bytes
  writes : List Bool

namespace Start

variable (start : Start)

/-- What is written of a configuration. -/
def textOf (configuration : AppConfiguration) : Bytes :=
  start.format.dump ((appConfiguration start.conversions).encode configuration)

/-- What `json.get<AppConfiguration>()` takes of the file. -/
def load (file : Option Bytes) : Option AppConfiguration :=
  let json := readJsonFile start.format file
  if isEmptyJson json then none else (appConfiguration start.conversions).decode json

def persistLocked (steps : WriteSteps) (constructed : Constructed) : Constructed :=
  let written := writeDocument steps (start.textOf constructed.configuration) constructed.file
  { constructed with file := written.1, writes := constructed.writes ++ [written.2] }

/-- The service, written if it was changed. -/
def persistIf (changed : Bool) (steps : WriteSteps) (constructed : Constructed) : Constructed :=
  if changed then start.persistLocked steps constructed else constructed

def construct (steps stepsAgain : WriteSteps) (file : Option Bytes) : Constructed :=
  match start.load file with
  | none => start.persistLocked steps ⟨start.defaultConfiguration, file, []⟩
  | some configuration =>
    let sizeBefore := configuration.activeProfile.seededEndpoints.length
    let configuration := prune configuration
    let pruned := start.persistIf (configuration.activeProfile.seededEndpoints.length ≠ sizeBefore)
      steps ⟨configuration, file, []⟩
    let healed := selfHeal (detectLocalEnvironment start.machine) pruned.configuration
    start.persistIf healed.2 stepsAgain { pruned with configuration := healed.1 }

end Start

/-! ## What a start may change -/

/-- The ids of the catalog, whatever the host. -/
def baselineIds : List String :=
  (buildDefaultSeededEndpointsForHost "").map RuntimeEndpoint.id

/-- An endpoint that stays, but for a host that was wiped. -/
structure Keeps (before after : RuntimeEndpoint) : Prop where
  rest : { after with host := before.host } = before
  host : before.host ≠ "" ∨ before.id ∉ baselineIds → after.host = before.host

/-- A configuration is completed: what was empty may be filled, the removed features are gone, and
endpoints of the catalog are added that were absent. -/
structure Completes (before after : AppConfiguration) : Prop where
  rest : { after with
    activeProfile := before.activeProfile
    mcpGateway := before.mcpGateway } = before
  gateway : { after.mcpGateway with listenHost := before.mcpGateway.listenHost } = before.mcpGateway
  listenHost : isWildcardOrEmpty before.mcpGateway.listenHost = false →
    after.mcpGateway.listenHost = before.mcpGateway.listenHost
  preferredBindAddress : before.activeProfile.preferredBindAddress ≠ "" →
    after.activeProfile.preferredBindAddress = before.activeProfile.preferredBindAddress
  macAddress : before.activeProfile.macAddress ≠ "" →
    after.activeProfile.macAddress = before.activeProfile.macAddress
  environmentName : before.activeProfile.environmentName ≠ "" →
    after.activeProfile.environmentName = before.activeProfile.environmentName
  endpoints : ∃ kept added, after.activeProfile.seededEndpoints = kept ++ added ∧
    List.Forall₂ Keeps (before.activeProfile.seededEndpoints.filter fun endpoint =>
      !isRemovedAlphaFeatureId endpoint.id) kept ∧
    added.Sublist (buildDefaultSeededEndpointsForHost (seedHost after.activeProfile)) ∧
    (added.map RuntimeEndpoint.id).Nodup ∧
    ∀ endpoint ∈ added, endpoint.id ∉ before.activeProfile.seededEndpoints.map RuntimeEndpoint.id
  distinct : (before.activeProfile.seededEndpoints.map RuntimeEndpoint.id).Nodup →
    (after.activeProfile.seededEndpoints.map RuntimeEndpoint.id).Nodup

/-- Each address of an adapter is written as the address of an interface. -/
def Machine.AddressesAssigned (machine : Machine) : Prop :=
  ∀ adapter ∈ machine.adapters.getD [], ∀ address ∈ adapter.addresses, ∀ host,
    address.numericHost = some host → isWildcardOrEmpty (withoutZone host) = false

/-- A start that finds this file has nothing to do. -/
def Start.Settles (start : Start) (constructed : Constructed) : Prop :=
  ∀ steps stepsAgain, start.construct steps stepsAgain constructed.file =
    { constructed with writes := [] }

/-! ## The catalog and the machine -/

section Catalog

variable {host value : String} {endpoint : RuntimeEndpoint} {machine : Machine}

theorem ids_buildDefaultSeededEndpointsForHost (host : String) :
    (buildDefaultSeededEndpointsForHost host).map RuntimeEndpoint.id = baselineIds := rfl

theorem nodup_baselineIds : baselineIds.Nodup := by decide +kernel

theorem not_removed_of_baseline :
    baselineIds.all (fun id => !isRemovedAlphaFeatureId id) = true := by decide +kernel

theorem host_of_mem_defaults (h : endpoint ∈ buildDefaultSeededEndpointsForHost host) :
    endpoint.host ≠ "" := by
  have hne : (if host = "" then "127.0.0.1" else host) ≠ "" := by
    split_ifs with hempty
    · decide
    · exact hempty
  unfold buildDefaultSeededEndpointsForHost at h
  dsimp only at h
  generalize (if host = "" then "127.0.0.1" else host) = chosen at h hne
  have hhost : endpoint.host = chosen := by
    rcases List.mem_append.mp h with h | h
    · rcases List.mem_append.mp h with h | h
      · simp only [List.mem_cons, List.not_mem_nil, or_false] at h
        rcases h with rfl | rfl | rfl | rfl <;> rfl
      · obtain ⟨seed, _, rfl⟩ := List.mem_map.mp h
        rfl
    · obtain ⟨agent, _, rfl⟩ := List.mem_map.mp h
      rfl
  rwa [hhost]

theorem isWildcardOrEmpty_iff : isWildcardOrEmpty value = true ↔
    value ∈ ["", "0.0.0.0", "*", "::", "::0", "[::]", "[::0]"] := by
  simp only [isWildcardOrEmpty, Bool.or_eq_true, decide_eq_true_eq, List.mem_cons,
    List.not_mem_nil, or_false, or_assoc]

/-- No wildcard has a zone. -/
theorem isWildcardOrEmpty_of_withoutZone (h : isWildcardOrEmpty (withoutZone value) = false) :
    isWildcardOrEmpty value = false := by
  have hzone : ["", "0.0.0.0", "*", "::", "::0", "[::]", "[::0]"].all
      (fun value => withoutZone value = value) = true := by decide +kernel
  cases hvalue : isWildcardOrEmpty value with
  | false => rfl
  | true =>
    have hsame := List.all_eq_true.mp hzone value (isWildcardOrEmpty_iff.mp hvalue)
    rw [of_decide_eq_true hsame, hvalue] at h
    cases h

/-- A walk ends with a candidate, if it finds one. -/
theorem firstHost_cases (candidate : UnicastAddress → Option String) (adapters : List Adapter) :
    firstHost candidate adapters = "" ∨ ∃ adapter ∈ adapters, ∃ address ∈ adapter.addresses,
      candidate address = some (firstHost candidate adapters) := by
  unfold firstHost
  cases hfound : (((adapters.filter Adapter.isEligible).map fun adapter =>
      (adapter.addresses.findSome? candidate).getD "").find? (· ≠ "")) with
  | none => exact .inl rfl
  | some host =>
    have hnonempty := List.find?_some hfound
    have hne : host ≠ "" := of_decide_eq_true hnonempty
    obtain ⟨adapter, hadapter, rfl⟩ := List.mem_map.mp (List.mem_of_find?_eq_some hfound)
    cases hcandidate : adapter.addresses.findSome? candidate with
    | none =>
      rw [hcandidate] at hne
      exact absurd rfl hne
    | some host =>
      obtain ⟨address, haddress, hsome⟩ := List.exists_of_findSome?_eq_some hcandidate
      exact .inr ⟨adapter, (List.mem_filter.mp hadapter).1, address, haddress, hsome⟩

/-- What is detected is the address of an interface, or of the loopback. -/
theorem specified_detectLocalEnvironment (h : machine.AddressesAssigned) :
    isWildcardOrEmpty (detectLocalEnvironment machine).preferredBindAddress = false := by
  have hany : ∀ adapter ∈ machine.adapters.getD [], ∀ address ∈ adapter.addresses, ∀ host,
      anyAddress address = some host → isWildcardOrEmpty host = false := by
    intro adapter hadapter address haddress host hhost
    obtain ⟨written, hwritten, rfl⟩ := Option.map_eq_some_iff.mp hhost
    exact h adapter hadapter address haddress written hwritten
  have hipv4 : ∀ adapter ∈ machine.adapters.getD [], ∀ address ∈ adapter.addresses, ∀ host,
      routableIpv4 address = some host → isWildcardOrEmpty host = false := by
    intro adapter hadapter address haddress host hhost
    unfold routableIpv4 at hhost
    split_ifs at hhost
    have hwritten := (Option.filter_eq_some_iff.mp hhost).1
    exact isWildcardOrEmpty_of_withoutZone (h adapter hadapter address haddress host hwritten)
  have hipv6 : ∀ adapter ∈ machine.adapters.getD [], ∀ address ∈ adapter.addresses, ∀ host,
      routableIpv6 address = some host → isWildcardOrEmpty host = false := by
    intro adapter hadapter address haddress host hhost
    unfold routableIpv6 at hhost
    split_ifs at hhost
    obtain ⟨written, hfiltered, rfl⟩ := Option.map_eq_some_iff.mp hhost
    have hwritten := (Option.filter_eq_some_iff.mp hfiltered).1
    exact h adapter hadapter address haddress written hwritten
  have hwalk : ∀ candidate, (∀ adapter ∈ machine.adapters.getD [], ∀ address ∈ adapter.addresses,
      ∀ host, candidate address = some host → isWildcardOrEmpty host = false) →
      firstHost candidate (machine.adapters.getD []) ≠ "" →
        isWildcardOrEmpty (firstHost candidate (machine.adapters.getD [])) = false := by
    intro candidate hcandidate hne
    rcases firstHost_cases candidate (machine.adapters.getD []) with hempty |
      ⟨adapter, hadapter, address, haddress, hsome⟩
    · exact absurd hempty hne
    · exact hcandidate adapter hadapter address haddress _ hsome
  show isWildcardOrEmpty (if detectIpAddress (machine.adapters.getD []) = "" then "127.0.0.1"
    else detectIpAddress (machine.adapters.getD [])) = false
  split_ifs with hnone
  · decide
  · unfold detectIpAddress at hnone ⊢
    dsimp only at hnone ⊢
    split_ifs at hnone ⊢ with hfirst hsecond
    · exact hwalk _ hipv4 hfirst
    · exact hwalk _ hipv6 hsecond
    · exact hwalk _ hany hnone

/-- Brackets make no wildcard. -/
theorem isWildcardOrEmpty_bracketIpv6Host (h : isWildcardOrEmpty value = false) :
    isWildcardOrEmpty (Gateway.bracketIpv6Host value) = false := by
  unfold Gateway.bracketIpv6Host
  split_ifs
  · exact h
  · exact h
  · have hbracket : ∀ inner : String, "[" ++ value ++ "]" = "[" ++ inner ++ "]" → value = inner :=
      fun inner heq => (String.append_right_inj "[").mp ((String.append_left_inj "]").mp heq)
    have hhead : ("[" ++ value ++ "]").toList.head? = some '[' := by
      rw [String.toList_append, String.toList_append]
      rfl
    rw [Bool.eq_false_iff, ne_eq, isWildcardOrEmpty_iff]
    intro hmem
    simp only [List.mem_cons, List.not_mem_nil, or_false] at hmem
    rcases hmem with heq | heq | heq | heq | heq | heq | heq
    · rw [heq] at hhead
      cases hhead
    · rw [heq] at hhead
      cases hhead
    · rw [heq] at hhead
      cases hhead
    · rw [heq] at hhead
      cases hhead
    · rw [heq] at hhead
      cases hhead
    · rw [hbracket "::" heq] at h
      cases h
    · rw [hbracket "::0" heq] at h
      cases h
  · exact h

end Catalog

/-! ## The repairs of the endpoints -/

section Endpoints

variable {defaults endpoints : List RuntimeEndpoint} {endpoint : RuntimeEndpoint}

/-- Nothing is added where every id is there. -/
theorem addMissing_eq_self (h : ∀ d ∈ defaults, d.id ∈ endpoints.map RuntimeEndpoint.id) :
    addMissing defaults endpoints = (endpoints, false) := by
  have hmissing : defaults.filter (fun d => !endpoints.any (·.id = d.id)) = [] := by
    refine List.filter_eq_nil_iff.mpr fun d hd => ?_
    obtain ⟨present, hmem, hid⟩ := List.mem_map.mp (h d hd)
    have hany : endpoints.any (·.id = d.id) = true :=
      List.any_eq_true.mpr ⟨present, hmem, decide_eq_true hid⟩
    rw [hany]
    exact Bool.false_ne_true
  unfold addMissing
  dsimp only
  rw [hmissing, List.append_nil]
  rfl

theorem mem_ids_addMissing {d : RuntimeEndpoint} (h : d ∈ defaults) :
    d.id ∈ (addMissing defaults endpoints).1.map RuntimeEndpoint.id := by
  unfold addMissing
  dsimp only
  rw [List.map_append, List.mem_append]
  cases hany : endpoints.any (·.id = d.id) with
  | true =>
    obtain ⟨present, hmem, hid⟩ := List.any_eq_true.mp hany
    exact .inl (List.mem_map.mpr ⟨present, hmem, of_decide_eq_true hid⟩)
  | false =>
    refine .inr (List.mem_map_of_mem (List.mem_filter.mpr ⟨h, ?_⟩))
    rw [hany]
    rfl

theorem addMissing_of_not (h : (addMissing defaults endpoints).2 = false) :
    (addMissing defaults endpoints).1 = endpoints := by
  unfold addMissing at h ⊢
  dsimp only at h ⊢
  rw [Bool.not_eq_false', List.isEmpty_iff] at h
  rw [h, List.append_nil]

theorem defaultHost_rebind (defaults : List RuntimeEndpoint) (endpoint : RuntimeEndpoint) :
    defaultHost defaults (rebind defaults endpoint) = none := by
  unfold rebind
  cases hdefault : defaultHost defaults endpoint with
  | none => exact hdefault
  | some host =>
    unfold defaultHost at hdefault
    split_ifs at hdefault
    have hne : host ≠ "" := of_decide_eq_true (Option.filter_eq_some_iff.mp hdefault).2
    exact if_neg hne

theorem rebind_eq_self (h : defaultHost defaults endpoint = none) :
    rebind defaults endpoint = endpoint := by
  rw [rebind, h]
  rfl

/-- Nothing is rebound a second time. -/
theorem rebindHosts_map (defaults endpoints : List RuntimeEndpoint) :
    rebindHosts defaults (endpoints.map (rebind defaults)) =
      (endpoints.map (rebind defaults), false) := by
  unfold rebindHosts
  have hnone : ∀ endpoint ∈ endpoints.map (rebind defaults),
      defaultHost defaults endpoint = none := by
    intro endpoint hmem
    obtain ⟨before, _, rfl⟩ := List.mem_map.mp hmem
    exact defaultHost_rebind defaults before
  refine Prod.ext ?_ ?_
  · exact (List.map_congr_left fun endpoint hmem => rebind_eq_self (hnone endpoint hmem)).trans
      (List.map_id _)
  · refine List.any_eq_false.mpr fun endpoint hmem => ?_
    rw [hnone endpoint hmem]
    exact Bool.false_ne_true

theorem rebindHosts_of_not (h : (rebindHosts defaults endpoints).2 = false) :
    (rebindHosts defaults endpoints).1 = endpoints := by
  refine (List.map_congr_left fun endpoint hmem => rebind_eq_self ?_).trans (List.map_id _)
  exact Option.not_isSome_iff_eq_none.mp (List.any_eq_false.mp h endpoint hmem)

/-- Only a wiped host of the catalog is filled. -/
theorem keeps_rebind (host : String) (endpoint : RuntimeEndpoint) :
    Keeps endpoint (rebind (buildDefaultSeededEndpointsForHost host) endpoint) := by
  refine ⟨rfl, fun h => ?_⟩
  rw [rebind_eq_self]
  rcases h with hhost | hid
  · exact if_neg hhost
  · unfold defaultHost
    have hnone : (buildDefaultSeededEndpointsForHost host).find? (·.id = endpoint.id) = none := by
      refine List.find?_eq_none.mpr fun d hd heq => hid ?_
      rw [← of_decide_eq_true heq, ← ids_buildDefaultSeededEndpointsForHost host]
      exact List.mem_map_of_mem hd
    rw [hnone]
    split_ifs <;> rfl

end Endpoints

/-! ## The repairs together -/

section Repairs

variable {value detected filled detectedIp : String} {environment : DiscoveredEnvironment}
  {configuration : AppConfiguration}

theorem fillText_eq_self (h : value = "" → detected = "") :
    fillText value detected filled = (value, false) :=
  if_neg fun hfills => hfills.2 (h hfills.1)

theorem fillText_of_ne (h : value ≠ "") : (fillText value detected filled).1 = value := by
  rw [fillText_eq_self fun hempty => absurd hempty h]

theorem fillText_of_not (h : (fillText value detected filled).2 = false) :
    (fillText value detected filled).1 = value := by
  unfold fillText at h ⊢
  split_ifs at h ⊢
  rfl

/-- What is still empty could not be filled. -/
theorem detected_of_fillText (hfilled : detected ≠ "" → filled ≠ "")
    (h : (fillText value detected filled).1 = "") : detected = "" := by
  unfold fillText at h
  split_ifs at h with hfills
  · exact absurd h (hfilled hfills.2)
  · by_contra hdetected
    exact hfills ⟨h, hdetected⟩

theorem healIdentity_eq_self
    (haddress : configuration.activeProfile.preferredBindAddress = "" →
      environment.preferredBindAddress = "")
    (hmac : configuration.activeProfile.macAddress = "" → environment.macAddress = "")
    (hname : configuration.activeProfile.environmentName = "" → environment.hostName = "") :
    healIdentity environment configuration = (configuration, false) := by
  unfold healIdentity
  dsimp only
  rw [fillText_eq_self haddress, fillText_eq_self hmac, fillText_eq_self hname]
  rfl

theorem healIdentity_of_not (h : (healIdentity environment configuration).2 = false) :
    (healIdentity environment configuration).1 = configuration := by
  unfold healIdentity at h ⊢
  dsimp only at h ⊢
  rw [Bool.or_eq_false_iff, Bool.or_eq_false_iff] at h
  rw [fillText_of_not h.1.1, fillText_of_not h.1.2, fillText_of_not h.2]

theorem healListenHost_of_not (h : (healListenHost detectedIp configuration).2 = false) :
    (healListenHost detectedIp configuration).1 = configuration := by
  unfold healListenHost at h ⊢
  dsimp only at h ⊢
  split_ifs at h ⊢
  rfl

theorem activeProfile_healListenHost (detectedIp : String) (configuration : AppConfiguration) :
    (healListenHost detectedIp configuration).1.activeProfile = configuration.activeProfile := by
  unfold healListenHost
  dsimp only
  split_ifs <;> rfl

theorem healListenHost_eq_self
    (h : isWildcardOrEmpty configuration.mcpGateway.listenHost = false) :
    healListenHost detectedIp configuration = (configuration, false) := by
  unfold healListenHost
  dsimp only
  rw [h, Bool.and_false]
  rfl

/-- With a host that was detected no wildcard is left. -/
theorem specified_healListenHost (h : isWildcardOrEmpty detectedIp = false) :
    isWildcardOrEmpty (healListenHost detectedIp configuration).1.mcpGateway.listenHost =
      false := by
  have husable : (detectedIp ≠ "" && detectedIp ≠ "0.0.0.0") = true := by
    have hne : ∀ wildcard, isWildcardOrEmpty wildcard = true → detectedIp ≠ wildcard := by
      rintro wildcard hwildcard rfl
      rw [h] at hwildcard
      cases hwildcard
    rw [decide_eq_true (hne "" rfl), decide_eq_true (hne "0.0.0.0" rfl)]
    rfl
  unfold healListenHost
  dsimp only
  rw [husable, Bool.true_and]
  split_ifs with hwildcard
  · exact isWildcardOrEmpty_bracketIpv6Host h
  · exact Bool.eq_false_iff.mpr hwildcard

theorem healEndpoints_of_not (h : (healEndpoints configuration).2 = false) :
    (healEndpoints configuration).1 = configuration := by
  unfold healEndpoints at h ⊢
  dsimp only at h ⊢
  rw [Bool.or_eq_false_iff] at h
  rw [rebindHosts_of_not h.2, addMissing_of_not h.1]

theorem ids_rebind (defaults endpoints : List RuntimeEndpoint) :
    (endpoints.map (rebind defaults)).map RuntimeEndpoint.id =
      endpoints.map RuntimeEndpoint.id := by
  rw [List.map_map]
  rfl

theorem healEndpoints_again (configuration : AppConfiguration) :
    healEndpoints (healEndpoints configuration).1 = ((healEndpoints configuration).1, false) := by
  have hadded : ∀ defaults endpoints, addMissing defaults
      ((addMissing defaults endpoints).1.map (rebind defaults)) =
        ((addMissing defaults endpoints).1.map (rebind defaults), false) := by
    intro defaults endpoints
    refine addMissing_eq_self fun d hd => ?_
    rw [ids_rebind]
    exact mem_ids_addMissing hd
  have hagain : ∀ defaults endpoints,
      rebindHosts defaults (rebindHosts defaults (addMissing defaults endpoints).1).1 =
        ((rebindHosts defaults (addMissing defaults endpoints).1).1, false) :=
    fun defaults endpoints => rebindHosts_map defaults _
  unfold healEndpoints
  dsimp only [seedHost]
  rw [show ∀ defaults endpoints, addMissing defaults
      (rebindHosts defaults (addMissing defaults endpoints).1).1 =
        ((rebindHosts defaults (addMissing defaults endpoints).1).1, false) from hadded]
  dsimp only
  rw [hagain]
  rfl

theorem selfHeal_of_not (h : (selfHeal environment configuration).2 = false) :
    (selfHeal environment configuration).1 = configuration := by
  unfold selfHeal at h ⊢
  dsimp only at h ⊢
  rw [Bool.or_eq_false_iff, Bool.or_eq_false_iff] at h
  rw [healEndpoints_of_not h.2, healListenHost_of_not h.1.2, healIdentity_of_not h.1.1]

/-- **What has been repaired needs no repair.** -/
theorem selfHeal_again (h : isWildcardOrEmpty environment.preferredBindAddress = false)
    (configuration : AppConfiguration) :
    selfHeal environment (selfHeal environment configuration).1 =
      ((selfHeal environment configuration).1, false) := by
  have hprofile := activeProfile_healListenHost environment.preferredBindAddress
    (healIdentity environment configuration).1
  have hname : environment.hostName ≠ "" →
      environment.hostName ++ " - " ++ environment.operatingSystem ≠ "" := by
    intro _ hempty
    have hlist := congrArg String.toList hempty
    rw [String.toList_append, String.toList_append] at hlist
    have hspace : ' ' ∈ environment.hostName.toList ++ " - ".toList ++
        environment.operatingSystem.toList :=
      List.mem_append_left _ (List.mem_append_right _ List.mem_cons_self)
    rw [hlist] at hspace
    cases hspace
  have hidentity : healIdentity environment (selfHeal environment configuration).1 =
      ((selfHeal environment configuration).1, false) := by
    refine healIdentity_eq_self (fun hempty => ?_) (fun hempty => ?_) (fun hempty => ?_)
    · have hfilled : (fillText configuration.activeProfile.preferredBindAddress
          environment.preferredBindAddress environment.preferredBindAddress).1 = "" :=
        (congrArg ManagedNodeProfile.preferredBindAddress hprofile).symm.trans hempty
      exact detected_of_fillText (fun hne => hne) hfilled
    · have hfilled : (fillText configuration.activeProfile.macAddress environment.macAddress
          environment.macAddress).1 = "" :=
        (congrArg ManagedNodeProfile.macAddress hprofile).symm.trans hempty
      exact detected_of_fillText (fun hne => hne) hfilled
    · have hfilled : (fillText configuration.activeProfile.environmentName environment.hostName
          (environment.hostName ++ " - " ++ environment.operatingSystem)).1 = "" :=
        (congrArg ManagedNodeProfile.environmentName hprofile).symm.trans hempty
      exact detected_of_fillText hname hfilled
  have hlisten : healListenHost environment.preferredBindAddress
      (selfHeal environment configuration).1 = ((selfHeal environment configuration).1, false) :=
    healListenHost_eq_self (specified_healListenHost h)
  have hendpoints : healEndpoints (selfHeal environment configuration).1 =
      ((selfHeal environment configuration).1, false) := healEndpoints_again _
  generalize (selfHeal environment configuration).1 = healed at hidentity hlisten hendpoints
  unfold selfHeal
  dsimp only
  rw [hidentity, hlisten, hendpoints]
  rfl

end Repairs

/-! ## What a start leaves -/

section Left

variable {environment : DiscoveredEnvironment} {configuration : AppConfiguration}

/-- The endpoints of the catalog that are absent. -/
def missingEndpoints (configuration : AppConfiguration) : List RuntimeEndpoint :=
  (buildDefaultSeededEndpointsForHost (seedHost configuration.activeProfile)).filter
    fun endpoint => !configuration.activeProfile.seededEndpoints.any (·.id = endpoint.id)

/-- Those that are there stay in front, and those that are added have a host. -/
theorem endpoints_healEndpoints (configuration : AppConfiguration) :
    (healEndpoints configuration).1.activeProfile.seededEndpoints =
      configuration.activeProfile.seededEndpoints.map
        (rebind (buildDefaultSeededEndpointsForHost (seedHost configuration.activeProfile))) ++
      missingEndpoints configuration := by
  have hmissing : ∀ host, (missingEndpoints configuration).map
      (rebind (buildDefaultSeededEndpointsForHost host)) = missingEndpoints configuration := by
    intro host
    refine (List.map_congr_left fun endpoint hmem => rebind_eq_self ?_).trans (List.map_id _)
    exact if_neg (host_of_mem_defaults (List.mem_filter.mp hmem).1)
  have hrebound : (healEndpoints configuration).1.activeProfile.seededEndpoints =
      (configuration.activeProfile.seededEndpoints ++ missingEndpoints configuration).map
        (rebind (buildDefaultSeededEndpointsForHost (seedHost configuration.activeProfile))) := rfl
  rw [hrebound, List.map_append, hmissing]

/-- A repair before that of the endpoints leaves the endpoints alone. -/
theorem endpoints_selfHeal (environment : DiscoveredEnvironment)
    (configuration : AppConfiguration) :
    ∃ host, seedHost (selfHeal environment configuration).1.activeProfile = host ∧
      (selfHeal environment configuration).1.activeProfile.seededEndpoints =
        configuration.activeProfile.seededEndpoints.map
          (rebind (buildDefaultSeededEndpointsForHost host)) ++
        (buildDefaultSeededEndpointsForHost host).filter fun endpoint =>
          !configuration.activeProfile.seededEndpoints.any (·.id = endpoint.id) := by
  have hprofile := activeProfile_healListenHost environment.preferredBindAddress
    (healIdentity environment configuration).1
  have hendpoints := endpoints_healEndpoints
    (healListenHost environment.preferredBindAddress (healIdentity environment configuration).1).1
  unfold missingEndpoints at hendpoints
  rw [hprofile] at hendpoints
  refine ⟨_, rfl, ?_⟩
  have haddress : (selfHeal environment configuration).1.activeProfile.preferredBindAddress =
      (healIdentity environment configuration).1.activeProfile.preferredBindAddress := by
    show (healListenHost environment.preferredBindAddress
      (healIdentity environment configuration).1).1.activeProfile.preferredBindAddress = _
    rw [hprofile]
  unfold seedHost at hendpoints ⊢
  rw [haddress]
  exact hendpoints

theorem not_removed_of_mem_baselineIds {id : String} (h : id ∈ baselineIds) :
    isRemovedAlphaFeatureId id = false := by
  have hnot := List.all_eq_true.mp not_removed_of_baseline id h
  rwa [Bool.not_eq_true'] at hnot

/-- What is added was not there before the removed features went either. -/
theorem notMem_ids_of_missing {host : String} {endpoint : RuntimeEndpoint}
    (h : endpoint ∈ (buildDefaultSeededEndpointsForHost host).filter fun endpoint =>
      !(prune configuration).activeProfile.seededEndpoints.any (·.id = endpoint.id)) :
    endpoint.id ∉ configuration.activeProfile.seededEndpoints.map RuntimeEndpoint.id := by
  obtain ⟨hbaseline, habsent⟩ := List.mem_filter.mp h
  intro hmem
  obtain ⟨present, hpresent, hid⟩ := List.mem_map.mp hmem
  have hremoved : isRemovedAlphaFeatureId present.id = false := by
    rw [hid]
    refine not_removed_of_mem_baselineIds ?_
    rw [← ids_buildDefaultSeededEndpointsForHost host]
    exact List.mem_map_of_mem hbaseline
  have hkept : present ∈ (prune configuration).activeProfile.seededEndpoints :=
    List.mem_filter.mpr ⟨hpresent, by rw [hremoved]; rfl⟩
  have hany : (prune configuration).activeProfile.seededEndpoints.any (·.id = endpoint.id) = true :=
    List.any_eq_true.mpr ⟨present, hkept, decide_eq_true hid⟩
  rw [hany] at habsent
  cases habsent

/-- **The repairs complete a configuration.** -/
theorem completes_selfHeal (environment : DiscoveredEnvironment)
    (configuration : AppConfiguration) :
    Completes configuration (selfHeal environment (prune configuration)).1 := by
  have hprofile := activeProfile_healListenHost environment.preferredBindAddress
    (healIdentity environment (prune configuration)).1
  obtain ⟨host, hhost, hendpoints⟩ := endpoints_selfHeal environment (prune configuration)
  have hsublist : ((buildDefaultSeededEndpointsForHost host).filter fun endpoint =>
      !(prune configuration).activeProfile.seededEndpoints.any (·.id = endpoint.id)).Sublist
        (buildDefaultSeededEndpointsForHost host) := List.filter_sublist
  have hnodup : (((buildDefaultSeededEndpointsForHost host).filter fun endpoint =>
      !(prune configuration).activeProfile.seededEndpoints.any (·.id = endpoint.id)).map
        RuntimeEndpoint.id).Nodup := by
    refine List.Nodup.sublist (hsublist.map RuntimeEndpoint.id) ?_
    rw [ids_buildDefaultSeededEndpointsForHost]
    exact nodup_baselineIds
  refine ⟨?_, ?_, fun h => ?_, fun h => ?_, fun h => ?_, fun h => ?_, ?_, fun h => ?_⟩
  · unfold selfHeal healEndpoints healListenHost healIdentity prune
    dsimp only
    split_ifs <;> rfl
  · unfold selfHeal healEndpoints healListenHost healIdentity prune
    dsimp only
    split_ifs <;> rfl
  · have hkeep : healListenHost environment.preferredBindAddress
        (healIdentity environment (prune configuration)).1 =
          ((healIdentity environment (prune configuration)).1, false) := healListenHost_eq_self h
    show (healListenHost environment.preferredBindAddress
      (healIdentity environment (prune configuration)).1).1.mcpGateway.listenHost = _
    rw [hkeep]
    rfl
  · exact (congrArg ManagedNodeProfile.preferredBindAddress hprofile).trans (fillText_of_ne h)
  · exact (congrArg ManagedNodeProfile.macAddress hprofile).trans (fillText_of_ne h)
  · exact (congrArg ManagedNodeProfile.environmentName hprofile).trans (fillText_of_ne h)
  · refine ⟨_, _, hendpoints, ?_, ?_, hnodup, fun endpoint => notMem_ids_of_missing⟩
    · exact List.forall₂_map_right_iff.mpr
        (List.forall₂_same.mpr fun endpoint _ => keeps_rebind host endpoint)
    · rw [hhost]
      exact hsublist
  · rw [hendpoints, List.map_append, ids_rebind]
    refine List.Nodup.append ?_ hnodup ?_
    · exact List.Nodup.sublist (List.filter_sublist.map RuntimeEndpoint.id) h
    · intro id hkept hadded
      obtain ⟨endpoint, hmem, rfl⟩ := List.mem_map.mp hadded
      exact notMem_ids_of_missing hmem
        ((List.filter_sublist.map RuntimeEndpoint.id).subset hkept)

theorem prune_eq_self (h : ∀ endpoint ∈ configuration.activeProfile.seededEndpoints,
    isRemovedAlphaFeatureId endpoint.id = false) : prune configuration = configuration := by
  have hfilter : (configuration.activeProfile.seededEndpoints.filter fun endpoint =>
      !isRemovedAlphaFeatureId endpoint.id) = configuration.activeProfile.seededEndpoints :=
    List.filter_eq_self.mpr fun endpoint hmem => by rw [h endpoint hmem]; rfl
  unfold prune
  rw [hfilter]

/-- The repairs bring no removed feature back. -/
theorem prune_selfHeal (environment : DiscoveredEnvironment) (configuration : AppConfiguration) :
    prune (selfHeal environment (prune configuration)).1 =
      (selfHeal environment (prune configuration)).1 := by
  obtain ⟨host, hhost, hendpoints⟩ := endpoints_selfHeal environment (prune configuration)
  refine prune_eq_self fun endpoint hmem => ?_
  rw [hendpoints] at hmem
  rcases List.mem_append.mp hmem with hmem | hmem
  · obtain ⟨kept, hkept, rfl⟩ := List.mem_map.mp hmem
    have hnot := (List.mem_filter.mp hkept).2
    rwa [Bool.not_eq_true'] at hnot
  · refine not_removed_of_mem_baselineIds ?_
    rw [← ids_buildDefaultSeededEndpointsForHost host]
    exact List.mem_map_of_mem (List.mem_filter.mp hmem).1

end Left

/-! ## One start and the next -/

section Construction

variable {start : Start} {steps stepsAgain : WriteSteps} {file : Option Bytes} {text : Bytes}
  {configuration : AppConfiguration}

theorem writeDocument_of_true (h : (writeDocument steps text file).2 = true) :
    (writeDocument steps text file).1 = some text := by
  unfold writeDocument at h ⊢
  split_ifs at h ⊢
  · rfl
  · cases hcopy : steps.copyFile with
    | copied => rfl
    | failed left =>
      rw [hcopy] at h
      cases h

/-- A write that succeeds leaves the configuration in the file. -/
theorem file_persistLocked {constructed : Constructed}
    (h : (start.persistLocked steps constructed).writes.getLast? ≠ some false) :
    (start.persistLocked steps constructed).file =
      some (start.textOf constructed.configuration) := by
  refine writeDocument_of_true ?_
  unfold Start.persistLocked at h
  rw [List.getLast?_concat] at h
  cases hwritten : (writeDocument steps (start.textOf constructed.configuration)
      constructed.file).2 with
  | false =>
    rw [hwritten] at h
    exact absurd rfl h
  | true => rfl

theorem configuration_persistIf (changed : Bool) (steps : WriteSteps) (constructed : Constructed) :
    (start.persistIf changed steps constructed).configuration = constructed.configuration := by
  cases changed <;> rfl

/-- The configuration that the removed features are gone from, with what was written of it. -/
def Start.pruned (start : Start) (steps : WriteSteps) (configuration : AppConfiguration)
    (file : Option Bytes) : Constructed :=
  start.persistIf ((prune configuration).activeProfile.seededEndpoints.length ≠
    configuration.activeProfile.seededEndpoints.length) steps ⟨prune configuration, file, []⟩

theorem configuration_pruned (steps : WriteSteps) (configuration : AppConfiguration)
    (file : Option Bytes) :
    (start.pruned steps configuration file).configuration = prune configuration :=
  configuration_persistIf _ _ _

theorem construct_eq (steps stepsAgain : WriteSteps) (h : start.load file = some configuration) :
    start.construct steps stepsAgain file =
      start.persistIf
        (selfHeal (detectLocalEnvironment start.machine) (prune configuration)).2 stepsAgain
        { start.pruned steps configuration file with
          configuration :=
            (selfHeal (detectLocalEnvironment start.machine) (prune configuration)).1 } := by
  rw [← configuration_pruned steps configuration file]
  unfold Start.construct
  rw [h]
  rfl

theorem configuration_construct (steps stepsAgain : WriteSteps)
    (h : start.load file = some configuration) :
    (start.construct steps stepsAgain file).configuration =
      (selfHeal (detectLocalEnvironment start.machine) (prune configuration)).1 := by
  rw [construct_eq steps stepsAgain h, configuration_persistIf]

theorem prune_of_length (h : (prune configuration).activeProfile.seededEndpoints.length =
    configuration.activeProfile.seededEndpoints.length) : prune configuration = configuration := by
  refine prune_eq_self fun endpoint hmem => ?_
  have hnot := List.length_filter_eq_length_iff.mp h endpoint hmem
  rwa [Bool.not_eq_true'] at hnot

/-- After the removal the file holds what is left, or nothing was to be removed. -/
theorem file_pruned
    (hwrites : (start.pruned steps configuration file).writes.getLast? ≠ some false) :
    (start.pruned steps configuration file).file = some (start.textOf (prune configuration)) ∨
      ((start.pruned steps configuration file).file = file ∧
        prune configuration = configuration) := by
  unfold Start.pruned Start.persistIf at hwrites ⊢
  split_ifs at hwrites ⊢ with hchanged
  · exact .inl (file_persistLocked hwrites)
  · rw [decide_eq_true_eq, not_not] at hchanged
    exact .inr ⟨rfl, prune_of_length hchanged⟩

/-- Afterwards the file holds the configuration, or nothing was to be done. -/
theorem file_construct (h : start.load file = some configuration)
    (hwrites : (start.construct steps stepsAgain file).writes.getLast? ≠ some false) :
    (start.construct steps stepsAgain file).file =
        some (start.textOf (start.construct steps stepsAgain file).configuration) ∨
      ((start.construct steps stepsAgain file).file = file ∧
        (start.construct steps stepsAgain file).configuration = configuration) := by
  rw [configuration_construct steps stepsAgain h]
  rw [construct_eq steps stepsAgain h] at hwrites ⊢
  cases hhealed : (selfHeal (detectLocalEnvironment start.machine) (prune configuration)).2 with
  | true =>
    rw [hhealed] at hwrites
    exact .inl (file_persistLocked hwrites)
  | false =>
    rw [hhealed] at hwrites
    rw [selfHeal_of_not hhealed]
    exact file_pruned hwrites

/-- What is written of a configuration is loaded again. -/
theorem load_textOf (h : start.format.read (start.textOf configuration) =
    some ((appConfiguration start.conversions).encode configuration)) :
    start.load (some (start.textOf configuration)) = some configuration := by
  have hobject : isEmptyJson ((appConfiguration start.conversions).encode configuration) = false :=
    rfl
  unfold Start.load readJsonFile
  dsimp only
  rw [h, Option.getD_some, hobject, if_neg Bool.false_ne_true]
  exact (appConfiguration start.conversions).decode_encode configuration

/-- A file that loads as what needs no repair is left alone. -/
theorem construct_of_repaired (h : start.load file = some configuration)
    (hpruned : prune configuration = configuration)
    (hhealed : selfHeal (detectLocalEnvironment start.machine) configuration =
      (configuration, false)) :
    start.construct steps stepsAgain file = ⟨configuration, file, []⟩ := by
  have hsame : start.pruned steps configuration file = ⟨configuration, file, []⟩ := by
    unfold Start.pruned Start.persistIf
    rw [hpruned, if_neg (by simp)]
  rw [construct_eq steps stepsAgain h, hpruned, hhealed, hsame]
  rfl

/-- **A start completes the configuration, and the next start has nothing to do** once what this
one wrote is in the file.  What the library writes of the configuration it reads back. -/
theorem construct_completes (start : Start) (steps stepsAgain : WriteSteps) (file : Option Bytes)
    (configuration : AppConfiguration) (hload : start.load file = some configuration) :
    Completes configuration (start.construct steps stepsAgain file).configuration ∧
      (start.machine.AddressesAssigned →
        start.format.read (start.textOf (start.construct steps stepsAgain file).configuration) =
          some ((appConfiguration start.conversions).encode
            (start.construct steps stepsAgain file).configuration) →
        (start.construct steps stepsAgain file).writes.getLast? ≠ some false →
        start.Settles (start.construct steps stepsAgain file)) := by
  have hconfiguration := configuration_construct steps stepsAgain hload
  constructor
  · rw [hconfiguration]
    exact completes_selfHeal _ _
  · intro hassigned hreads hwrites stepsNext stepsNextAgain
    refine construct_of_repaired ?_ ?_ ?_
    · rcases file_construct hload hwrites with hfile | ⟨hfile, hsame⟩
      · rw [hfile]
        exact load_textOf hreads
      · rw [hfile, hsame]
        exact hload
    · rw [hconfiguration]
      exact prune_selfHeal _ _
    · rw [hconfiguration]
      exact selfHeal_again (specified_detectLocalEnvironment hassigned) _

/-! ### A machine, and a file with one member -/

mutual

/-- `dump(2)` of a value whose texts need no escape. -/
def dumpIndented (indent : String) : Json → String
  | .array [] => "[]"
  | .array (element :: elements) =>
    "[\n" ++ indent ++ "  " ++ dumpIndented (indent ++ "  ") element ++
      dumpElements (indent ++ "  ") elements ++ "\n" ++ indent ++ "]"
  | .object [] => "\x7b\x7d"
  | .object (member :: members) =>
    "\x7b\n" ++ indent ++ "  " ++ dumpMember (indent ++ "  ") member ++
      dumpMembers (indent ++ "  ") members ++ "\n" ++ indent ++ "\x7d"
  | value => value.dumpScalar

def dumpElements (indent : String) : List Json → String
  | [] => ""
  | element :: elements =>
    ",\n" ++ indent ++ dumpIndented indent element ++ dumpElements indent elements

def dumpMember (indent : String) : String × Json → String
  | (key, value) => "\"" ++ key ++ "\": " ++ dumpIndented indent value

def dumpMembers (indent : String) : List (String × Json) → String
  | [] => ""
  | member :: members =>
    ",\n" ++ indent ++ dumpMember indent member ++ dumpMembers indent members

end

def sampleMachine : Machine where
  computerName := "STUDIO"
  operatingSystem := "Windows 11 Pro"
  adapters := some
    [{ up := true
       softwareLoopback := false
       addresses := [⟨.ipv4, some "192.168.1.20"⟩]
       physicalAddress := [0, 21, 93, 1, 2, 3] }]

def sampleText : Bytes := asciiBytes "\x7b\"browserPort\": 7300\x7d"

def sampleConversions : NumberConversions := ⟨fun n => toString n ++ ".0", fun _ => 0⟩

/-- The defaults, completed on the machine. -/
def healedDefaults : AppConfiguration :=
  (selfHeal (detectLocalEnvironment sampleMachine) (prune {})).1

def healedDocument : Json := (appConfiguration sampleConversions).encode healedDefaults

/-- A library that reads two documents. -/
def readSample (content : Bytes) : Option Json :=
  if content = sampleText then some (.object [("browserPort", .integer 7300)])
  else if content = asciiBytes (dumpIndented "" healedDocument) then some healedDocument
  else none

def sampleStart : Start where
  format :=
    { read := readSample
      dump := fun document => asciiBytes (dumpIndented "" document) }
  conversions := sampleConversions
  machine := sampleMachine
  defaultConfiguration := {}

theorem read_sampleStart (content : Bytes) :
    sampleStart.format.read content = readSample content :=
  rfl

theorem textOf_sampleStart (configuration : AppConfiguration) :
    sampleStart.textOf configuration =
      asciiBytes (dumpIndented "" ((appConfiguration sampleConversions).encode configuration)) := by
  have hdump (document : Json) :
      sampleStart.format.dump document = asciiBytes (dumpIndented "" document) := rfl
  have hconversions : sampleStart.conversions = sampleConversions := rfl
  unfold Start.textOf
  rw [hdump, hconversions]

theorem load_sample : sampleStart.load (some sampleText) = some {} := by
  have hread : readSample sampleText = some (.object [("browserPort", .integer 7300)]) :=
    if_pos rfl
  unfold Start.load readJsonFile sampleStart
  dsimp only
  rw [hread]
  rfl

theorem addressesAssigned_sample : sampleMachine.AddressesAssigned := by
  intro adapter hadapter address haddress host hhost
  rw [List.mem_singleton.mp hadapter] at haddress
  rw [List.mem_singleton.mp haddress] at hhost
  obtain rfl := Option.some.inj hhost
  decide +kernel

/-- An object with members begins a line after its brace. -/
theorem asciiBytes_dumpIndented_object (first : String × Json) (members : List (String × Json)) :
    (asciiBytes (dumpIndented "" (.object (first :: members))))[1]? = some 10 := by
  have hbrace : "\x7b\n".toList = ['\x7b', '\n'] := rfl
  unfold asciiBytes dumpIndented
  simp only [String.toList_append, hbrace, List.cons_append, List.map_cons, List.getElem?_cons_succ,
    List.getElem?_cons_zero]
  rfl

/-- A document of several lines is no document of one line. -/
theorem read_healedDocument :
    readSample (asciiBytes (dumpIndented "" healedDocument)) = some healedDocument := by
  have hline : (asciiBytes (dumpIndented "" healedDocument))[1]? = some 10 := by
    obtain ⟨first, members, h⟩ : ∃ first members, healedDocument = .object (first :: members) :=
      ⟨_, _, rfl⟩
    rw [h]
    exact asciiBytes_dumpIndented_object first members
  have hsample : sampleText[1]? = some 34 := by
    unfold sampleText asciiBytes
    rw [String.toList_ofList]
    rfl
  have hne : asciiBytes (dumpIndented "" healedDocument) ≠ sampleText := by
    intro h
    rw [h, hsample] at hline
    exact absurd (Option.some.inj hline) (by decide)
  rw [readSample, if_neg hne]
  exact if_pos rfl

theorem construct_completes_sample :
    Completes {} (sampleStart.construct {} {} (some sampleText)).configuration ∧
      ((sampleStart.construct {} {} (some sampleText)).writes.getLast? ≠ some false →
        sampleStart.Settles (sampleStart.construct {} {} (some sampleText))) := by
  obtain ⟨hcompletes, hsettles⟩ :=
    construct_completes sampleStart {} {} (some sampleText) {} load_sample
  refine ⟨hcompletes, hsettles addressesAssigned_sample ?_⟩
  have hhealed : (sampleStart.construct {} {} (some sampleText)).configuration = healedDefaults :=
    configuration_construct {} {} load_sample
  rw [hhealed, textOf_sampleStart, read_sampleStart]
  exact read_healedDocument

end Construction

end SelfHeal
end Records
end Configuration
end MasterControl
