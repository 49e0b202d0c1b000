import MasterControl.Foundation.HttpUrl
import MasterControl.Gateway.Lifecycle

/-!
# Advertised endpoints

`buildAdvertisedEndpointPlan` chooses the hosts under which the admin listener and the gateway are
advertised, and puts their URLs together.  Unless LAN mode is on, and for the gateway unless it runs,
the host is 127.0.0.1; else the first of the configured hosts that passes for one of the LAN.

A host passes unless it is one of a few spellings.  So the plan honours the posture exactly when none
of the hosts that it comes to is a local address in another spelling, and the paths can stand in a URL
(`honoursPosture_iff`).
-/

namespace MasterControl
namespace Gateway

open Foundation

/-! ## Hosts -/

def normalizeAdvertisementHost (host : Bytes) : Bytes :=
  lowerBytes <|
    if 2 ≤ host.length ∧ host.head? = some 91 ∧ host.getLast? = some 93 then host.tail.dropLast
    else host

def isWildcardAdvertisementHost (host : Bytes) : Bool :=
  let normalized := normalizeAdvertisementHost host
  normalized = [] || normalized = asciiBytes "0.0.0.0" || normalized = asciiBytes "::" ||
    normalized = asciiBytes "::0" || normalized = asciiBytes "*"

def isLoopbackAdvertisementHost (host : Bytes) : Bool :=
  let normalized := normalizeAdvertisementHost host
  normalized = asciiBytes "localhost" || normalized = asciiBytes "::1" ||
    (asciiBytes "127.").isPrefixOf normalized || (asciiBytes "::ffff:127.").isPrefixOf normalized

def isLanAdvertisementCandidate (host : Bytes) : Bool :=
  !isWildcardAdvertisementHost host && !isLoopbackAdvertisementHost host

def bracketAdvertisementHost (host : Bytes) : Bytes :=
  if host = [] then host
  else if host.head? = some 91 ∧ host.getLast? = some 93 then host
  else if host.contains 58 then [91] ++ host ++ [93]
  else host

def ensureAdvertisementPath (path fallback : Bytes) : Bytes :=
  let path := if path = [] then fallback else path
  if path = [] ∨ path.head? = some 47 then path else 47 :: path

/-! ## The plan -/

/-- What is read of the configuration. -/
structure AdvertisedConfiguration where
  allowOpenLanAccess : Bool
  bindAddress : Bytes
  browserPort : UInt16
  preferredBindAddress : Bytes
  listenHost : Bytes
  listenPort : UInt16
  mcpPath : Bytes
  healthPath : Bytes

structure AdvertisedEndpointPlan where
  lanModeEnabled : Bool
  gatewayRunning : Bool
  adminLanAdvertised : Bool
  mcpLanAdvertised : Bool
  adminHost : Bytes
  mcpHost : Bytes
  adminBaseUrl : Bytes
  discoveryEndpoint : Bytes
  mcpEndpoint : Bytes
  mcpHealthEndpoint : Bytes
  networkMode : String
  reason : String

def localHost : Bytes := asciiBytes "127.0.0.1"

section Plan

variable (configuration : AdvertisedConfiguration) (state : GatewayState) (runtimePrimaryIp : Bytes)

def firstLanAdvertisementCandidate : Bytes :=
  if isLanAdvertisementCandidate configuration.preferredBindAddress then
    configuration.preferredBindAddress
  else if isLanAdvertisementCandidate runtimePrimaryIp then runtimePrimaryIp
  else []

def resolveAdminAdvertisementHost : Bytes :=
  if !configuration.allowOpenLanAccess then localHost
  else if !isWildcardAdvertisementHost configuration.bindAddress then
    if isLanAdvertisementCandidate configuration.bindAddress then configuration.bindAddress
    else localHost
  else
    let candidate := firstLanAdvertisementCandidate configuration runtimePrimaryIp
    if candidate = [] then localHost else candidate

def resolveMcpAdvertisementHost : Bytes :=
  if !configuration.allowOpenLanAccess || state ≠ .running then localHost
  else if !isWildcardAdvertisementHost configuration.listenHost then
    if isLanAdvertisementCandidate configuration.listenHost then configuration.listenHost
    else localHost
  else
    let candidate := firstLanAdvertisementCandidate configuration runtimePrimaryIp
    if candidate ≠ [] then candidate
    else resolveAdminAdvertisementHost configuration runtimePrimaryIp

def buildAdvertisedEndpointPlan : AdvertisedEndpointPlan :=
  let lanModeEnabled := configuration.allowOpenLanAccess
  let gatewayRunning : Bool := state = .running
  let adminHost := resolveAdminAdvertisementHost configuration runtimePrimaryIp
  let mcpHost := resolveMcpAdvertisementHost configuration state runtimePrimaryIp
  let adminLanAdvertised := isLanAdvertisementCandidate adminHost
  let mcpLanAdvertised := isLanAdvertisementCandidate mcpHost
  let mcpPath := ensureAdvertisementPath configuration.mcpPath (asciiBytes "/mcp")
  let healthPath := ensureAdvertisementPath configuration.healthPath (asciiBytes "/health")
  let browserPort := decimal configuration.browserPort.toNat
  let listenPort := decimal configuration.listenPort.toNat
  let adminBaseUrl :=
    asciiBytes "http://" ++ bracketAdvertisementHost adminHost ++ asciiBytes ":" ++ browserPort
  { lanModeEnabled
    gatewayRunning
    adminLanAdvertised
    mcpLanAdvertised
    adminHost
    mcpHost
    adminBaseUrl
    discoveryEndpoint := adminBaseUrl ++ asciiBytes "/.well-known/mcos.json"
    mcpEndpoint :=
      asciiBytes "http://" ++ bracketAdvertisementHost mcpHost ++ asciiBytes ":" ++ listenPort ++
        mcpPath
    mcpHealthEndpoint :=
      asciiBytes "http://" ++ bracketAdvertisementHost mcpHost ++ asciiBytes ":" ++ listenPort ++
        healthPath
    networkMode := if lanModeEnabled then "trusted-lan" else "local-only"
    reason :=
      if !lanModeEnabled then "LAN mode is disabled; generated endpoints are local-only."
      else if !adminLanAdvertised then
        "LAN mode is enabled, but the admin listener is not bound to a LAN-routable host."
      else if !gatewayRunning then
        "LAN mode is enabled, but the MCP gateway is not running; MCP endpoint remains local-only."
      else if !mcpLanAdvertised then
        "LAN mode is enabled, but the MCP gateway listener is not LAN-routable."
      else "LAN mode is enabled and advertised endpoints are LAN-routable." }

end Plan

/-! ## The hosts that are chosen -/

section Hosts

variable {configuration : AdvertisedConfiguration} {state : GatewayState}
  {runtimePrimaryIp host : Bytes}

/-- The hosts that the admin listener may be advertised under, in order. -/
def adminCandidates (configuration : AdvertisedConfiguration) (runtimePrimaryIp : Bytes) :
    List Bytes :=
  if !configuration.allowOpenLanAccess then []
  else if isWildcardAdvertisementHost configuration.bindAddress then
    [configuration.preferredBindAddress, runtimePrimaryIp]
  else [configuration.bindAddress]

/-- The hosts that the gateway may be advertised under, in order. -/
def mcpCandidates (configuration : AdvertisedConfiguration) (state : GatewayState)
    (runtimePrimaryIp : Bytes) : List Bytes :=
  if !configuration.allowOpenLanAccess || state ≠ .running then []
  else if isWildcardAdvertisementHost configuration.listenHost then
    [configuration.preferredBindAddress, runtimePrimaryIp] ++
      adminCandidates configuration runtimePrimaryIp
  else [configuration.listenHost]

/-- The first candidate that passes for a host of the LAN. -/
def chosen (candidates : List Bytes) : Option Bytes :=
  candidates.find? isLanAdvertisementCandidate

theorem ne_nil_of_candidate (h : isLanAdvertisementCandidate host = true) : host ≠ [] := by
  rintro rfl
  cases h

theorem chosen_singleton (host : Bytes) : (chosen [host]).getD localHost =
    if isLanAdvertisementCandidate host then host else localHost := by
  unfold chosen
  rw [List.find?_singleton]
  split_ifs <;> rfl

/-- The two hosts behind a wildcard. -/
theorem firstLanAdvertisementCandidate_eq :
    firstLanAdvertisementCandidate configuration runtimePrimaryIp =
      (chosen [configuration.preferredBindAddress, runtimePrimaryIp]).getD [] := by
  unfold firstLanAdvertisementCandidate chosen
  by_cases hpreferred : isLanAdvertisementCandidate configuration.preferredBindAddress = true
  · rw [if_pos hpreferred, List.find?_cons_of_pos hpreferred]
    rfl
  · rw [if_neg hpreferred, List.find?_cons_of_neg hpreferred, List.find?_singleton]
    split_ifs <;> rfl

theorem candidate_of_chosen {candidates : List Bytes} (h : chosen candidates = some host) :
    isLanAdvertisementCandidate host = true := List.find?_some h

theorem resolveAdmin_eq : resolveAdminAdvertisementHost configuration runtimePrimaryIp =
    (chosen (adminCandidates configuration runtimePrimaryIp)).getD localHost := by
  unfold resolveAdminAdvertisementHost adminCandidates
  by_cases hopen : configuration.allowOpenLanAccess = true
  · rw [hopen, Bool.not_true, if_neg Bool.false_ne_true, if_neg Bool.false_ne_true]
    by_cases hwildcard : isWildcardAdvertisementHost configuration.bindAddress = true
    · rw [hwildcard, Bool.not_true, if_neg Bool.false_ne_true, if_pos rfl,
        firstLanAdvertisementCandidate_eq]
      cases hchosen : chosen [configuration.preferredBindAddress, runtimePrimaryIp] with
      | none => rfl
      | some host =>
        dsimp only [Option.getD_some]
        rw [if_neg (ne_nil_of_candidate (candidate_of_chosen hchosen))]
    · rw [Bool.not_eq_true] at hwildcard
      rw [hwildcard, Bool.not_false, if_pos rfl, if_neg Bool.false_ne_true, chosen_singleton]
  · rw [Bool.not_eq_true] at hopen
    rw [hopen]
    rfl

theorem resolveMcp_eq : resolveMcpAdvertisementHost configuration state runtimePrimaryIp =
    (chosen (mcpCandidates configuration state runtimePrimaryIp)).getD localHost := by
  unfold resolveMcpAdvertisementHost mcpCandidates
  by_cases hclosed : (!configuration.allowOpenLanAccess || decide (state ≠ .running)) = true
  · rw [if_pos hclosed, if_pos hclosed]
    rfl
  · rw [if_neg hclosed, if_neg hclosed]
    by_cases hwildcard : isWildcardAdvertisementHost configuration.listenHost = true
    · rw [hwildcard, Bool.not_true, if_neg Bool.false_ne_true, if_pos rfl,
        firstLanAdvertisementCandidate_eq, resolveAdmin_eq]
      unfold chosen
      rw [List.find?_append]
      cases hchosen : List.find? isLanAdvertisementCandidate
        [configuration.preferredBindAddress, runtimePrimaryIp] with
      | none => rfl
      | some host =>
        dsimp only [Option.getD_some]
        rw [if_pos (ne_nil_of_candidate (candidate_of_chosen hchosen))]
        rfl
    · rw [Bool.not_eq_true] at hwildcard
      rw [hwildcard, Bool.not_false, if_pos rfl, if_neg Bool.false_ne_true, chosen_singleton]

end Hosts

/-! ## Posture -/

/-- What the endpoints of a plan have to say of the posture that they were chosen in. -/
structure HonoursPosture (configuration : AdvertisedConfiguration) (state : GatewayState)
    (plan : AdvertisedEndpointPlan) : Prop where
  admin_posture : plan.adminHost ≠ localHost → configuration.allowOpenLanAccess = true
  mcp_posture : plan.mcpHost ≠ localHost →
    configuration.allowOpenLanAccess = true ∧ state = .running
  adminLan : plan.adminLanAdvertised = true ↔ isLocalAddress plan.adminHost = false
  mcpLan : plan.mcpLanAdvertised = true ↔ isLocalAddress plan.mcpHost = false
  adminUrls : isHost plan.adminHost = true →
    parseHttpUrl plan.adminBaseUrl = some
      { host := plan.adminHost, port := some configuration.browserPort.toNat, path := [] } ∧
    parseHttpUrl plan.discoveryEndpoint = some
      { host := plan.adminHost, port := some configuration.browserPort.toNat
        path := asciiBytes "/.well-known/mcos.json" }
  mcpUrls : isHost plan.mcpHost = true →
    parseHttpUrl plan.mcpEndpoint = some
      { host := plan.mcpHost, port := some configuration.listenPort.toNat
        path := ensureAdvertisementPath configuration.mcpPath (asciiBytes "/mcp") } ∧
    parseHttpUrl plan.mcpHealthEndpoint = some
      { host := plan.mcpHost, port := some configuration.listenPort.toNat
        path := ensureAdvertisementPath configuration.healthPath (asciiBytes "/health") }

/-- The list of spellings does not take a local address for a host of the LAN. -/
def Unmasked (host : Bytes) : Prop :=
  isLanAdvertisementCandidate host = true → isLocalAddress host = false

/-- Where one of the two addresses is a wildcard, the plan comes to the two hosts behind it. -/
def ReachesPreferred (configuration : AdvertisedConfiguration) (state : GatewayState) : Prop :=
  isWildcardAdvertisementHost configuration.bindAddress = true ∨
    (state = .running ∧ isWildcardAdvertisementHost configuration.listenHost = true)

/-- The hosts that the plan comes to are no local addresses in another spelling, and the paths hold
path letters only, if the gateway's URLs name a host at all. -/
structure PlainConfiguration (configuration : AdvertisedConfiguration) (state : GatewayState)
    (runtimePrimaryIp : Bytes) : Prop where
  bindAddress : configuration.allowOpenLanAccess = true →
    isWildcardAdvertisementHost configuration.bindAddress = false →
      Unmasked configuration.bindAddress
  listenHost : configuration.allowOpenLanAccess = true → state = .running →
    isWildcardAdvertisementHost configuration.listenHost = false →
      Unmasked configuration.listenHost
  preferred : configuration.allowOpenLanAccess = true → ReachesPreferred configuration state →
    Unmasked configuration.preferredBindAddress
  detected : configuration.allowOpenLanAccess = true → ReachesPreferred configuration state →
    isLanAdvertisementCandidate configuration.preferredBindAddress = false →
      Unmasked runtimePrimaryIp
  paths : (∀ host, chosen (mcpCandidates configuration state runtimePrimaryIp) = some host →
      isHost host = true) →
    encodedText isPathByte
      (ensureAdvertisementPath configuration.mcpPath (asciiBytes "/mcp")) = true ∧
    encodedText isPathByte
      (ensureAdvertisementPath configuration.healthPath (asciiBytes "/health")) = true

section Posture

variable {configuration : AdvertisedConfiguration} {state : GatewayState}
  {runtimePrimaryIp host path fallback : Bytes} {candidates more : List Bytes}

theorem isLocalAddress_localHost : isLocalAddress localHost = true := by decide +kernel

theorem isLan_localHost : isLanAdvertisementCandidate localHost = false := by decide +kernel

theorem isHost_localHost : isHost localHost = true := by decide +kernel

/-- None of the candidates is chosen although it is local. -/
def NoneMasked (candidates : List Bytes) : Prop :=
  ∀ host, chosen candidates = some host → isLocalAddress host = false

theorem noneMasked_nil : NoneMasked [] := by
  intro host h
  cases h

theorem noneMasked_cons : NoneMasked (host :: candidates) ↔
    Unmasked host ∧ (isLanAdvertisementCandidate host = false → NoneMasked candidates) := by
  unfold NoneMasked chosen
  by_cases hhost : isLanAdvertisementCandidate host = true
  · rw [List.find?_cons_of_pos hhost]
    constructor
    · intro h
      refine ⟨fun _ => h host rfl, fun hno => ?_⟩
      rw [hhost] at hno
      cases hno
    · rintro ⟨h, -⟩ other hother
      rw [← Option.some.inj hother]
      exact h hhost
  · rw [List.find?_cons_of_neg hhost]
    exact ⟨fun h => ⟨fun hyes => absurd hyes hhost, fun _ => h⟩,
      fun h => h.2 (Bool.eq_false_iff.mpr hhost)⟩

theorem noneMasked_singleton : NoneMasked [host] ↔ Unmasked host := by
  rw [noneMasked_cons]
  exact ⟨fun h => h.1, fun h => ⟨h, fun _ => noneMasked_nil⟩⟩

/-- Further candidates matter where none of the first is chosen. -/
theorem noneMasked_append (hmore : NoneMasked more) :
    NoneMasked (candidates ++ more) ↔ NoneMasked candidates := by
  induction candidates with
  | nil => exact iff_of_true hmore noneMasked_nil
  | cons host candidates ih => rw [List.cons_append, noneMasked_cons, noneMasked_cons, ih]

/-- The flag tells of the host that is chosen exactly when that host is not masked. -/
theorem flag_iff : (isLanAdvertisementCandidate ((chosen candidates).getD localHost) = true ↔
    isLocalAddress ((chosen candidates).getD localHost) = false) ↔ NoneMasked candidates := by
  unfold NoneMasked
  cases hchosen : chosen candidates with
  | none =>
    refine iff_of_true ?_ fun host h => by cases h
    rw [Option.getD_none, isLan_localHost, isLocalAddress_localHost]
    exact iff_of_false Bool.false_ne_true fun h => by cases h
  | some host =>
    rw [Option.getD_some, candidate_of_chosen hchosen]
    constructor
    · rintro h other hother
      rw [← Option.some.inj hother]
      exact h.mp rfl
    · intro h
      exact iff_of_true rfl (h host rfl)

theorem noneMasked_adminCandidates :
    NoneMasked (adminCandidates configuration runtimePrimaryIp) ↔
      (configuration.allowOpenLanAccess = true →
        (isWildcardAdvertisementHost configuration.bindAddress = false →
          Unmasked configuration.bindAddress) ∧
        (isWildcardAdvertisementHost configuration.bindAddress = true →
          NoneMasked [configuration.preferredBindAddress, runtimePrimaryIp])) := by
  unfold adminCandidates
  cases configuration.allowOpenLanAccess with
  | false => exact iff_of_true noneMasked_nil fun h => by cases h
  | true =>
    cases isWildcardAdvertisementHost configuration.bindAddress with
    | true => exact ⟨fun h _ => ⟨fun h => (by cases h), fun _ => h⟩, fun h => (h rfl).2 rfl⟩
    | false =>
      rw [Bool.not_true, if_neg Bool.false_ne_true, if_neg Bool.false_ne_true,
        noneMasked_singleton]
      exact ⟨fun h _ => ⟨fun _ => h, fun h => by cases h⟩, fun h => (h rfl).1 rfl⟩

theorem noneMasked_mcpCandidates
    (hadmin : NoneMasked (adminCandidates configuration runtimePrimaryIp)) :
    NoneMasked (mcpCandidates configuration state runtimePrimaryIp) ↔
      (configuration.allowOpenLanAccess = true → state = .running →
        (isWildcardAdvertisementHost configuration.listenHost = false →
          Unmasked configuration.listenHost) ∧
        (isWildcardAdvertisementHost configuration.listenHost = true →
          NoneMasked [configuration.preferredBindAddress, runtimePrimaryIp])) := by
  unfold mcpCandidates
  cases configuration.allowOpenLanAccess with
  | false => exact iff_of_true noneMasked_nil fun h => by cases h
  | true =>
    by_cases hstate : state = .running
    · rw [decide_eq_false (not_not.mpr hstate), Bool.not_true, Bool.or_false,
        if_neg Bool.false_ne_true]
      cases isWildcardAdvertisementHost configuration.listenHost with
      | true =>
        rw [if_pos rfl, noneMasked_append hadmin]
        exact ⟨fun h _ _ => ⟨fun h => (by cases h), fun _ => h⟩, fun h => (h rfl hstate).2 rfl⟩
      | false =>
        rw [if_neg Bool.false_ne_true, noneMasked_singleton]
        exact ⟨fun h _ _ => ⟨fun _ => h, fun h => by cases h⟩, fun h => (h rfl hstate).1 rfl⟩
    · rw [decide_eq_true hstate]
      exact iff_of_true noneMasked_nil fun _ h => absurd h hstate

/-- The hosts of the LAN belong to LAN mode. -/
theorem open_of_chosen (h : chosen (adminCandidates configuration runtimePrimaryIp) = some host) :
    configuration.allowOpenLanAccess = true := by
  unfold adminCandidates at h
  cases hopen : configuration.allowOpenLanAccess with
  | true => rfl
  | false =>
    rw [hopen] at h
    cases h

theorem running_of_chosen
    (h : chosen (mcpCandidates configuration state runtimePrimaryIp) = some host) :
    configuration.allowOpenLanAccess = true ∧ state = .running := by
  unfold mcpCandidates at h
  by_cases hclosed : (!configuration.allowOpenLanAccess || decide (state ≠ .running)) = true
  · rw [if_pos hclosed] at h
    cases h
  · rw [Bool.not_eq_true, Bool.or_eq_false_iff, Bool.not_eq_false', decide_eq_false_iff_not,
      not_not] at hclosed
    exact hclosed

theorem exists_chosen (h : (chosen candidates).getD localHost ≠ localHost) :
    ∃ host, chosen candidates = some host := by
  cases hchosen : chosen candidates with
  | none =>
    rw [hchosen] at h
    exact absurd rfl h
  | some host => exact ⟨host, rfl⟩

theorem isHost_getD : isHost ((chosen candidates).getD localHost) = true ↔
    ∀ host, chosen candidates = some host → isHost host = true := by
  cases chosen candidates with
  | none => exact iff_of_true isHost_localHost fun host h => by cases h
  | some host =>
    constructor
    · rintro h other hother
      rwa [← Option.some.inj hother]
    · intro h
      exact h host rfl

/-- A host or an address stands in the URLs as it has to. -/
theorem bracketAdvertisementHost_eq (h : isHost host = true) :
    bracketAdvertisementHost host = hostInUrl host := by
  have hne : host ≠ [] := by
    rintro rfl
    cases h
  have hbracket : host.head? ≠ some 91 := by
    intro hhead
    have hmem := List.mem_of_head? hhead
    rw [isHost, Bool.or_eq_true] at h
    rcases h with hname | haddress
    · exact not_mem_of_all (isHostName_iff.mp hname).2 rfl hmem
    · exact not_mem_of_all (letters_of_readIpv6 haddress).1 rfl hmem
  rw [bracketAdvertisementHost, if_neg hne, if_neg fun h => hbracket h.1]
  rfl

theorem ensureAdvertisementPath_front (path fallback : Bytes) :
    ensureAdvertisementPath path fallback = [] ∨
      (ensureAdvertisementPath path fallback).head? = some 47 := by
  unfold ensureAdvertisementPath
  dsimp only
  split_ifs with hpath hfallback hslash
  · exact hfallback
  · exact .inr rfl
  · exact hslash
  · exact .inr rfl

/-- The URLs of the admin listener hold nothing that is configured but the host. -/
theorem adminUrls_parse (h : isHost host = true) (port : ℕ) :
    parseHttpUrl (asciiBytes "http://" ++ bracketAdvertisementHost host ++ asciiBytes ":" ++
      decimal port) = some { host, port := some port, path := [] } ∧
    parseHttpUrl (asciiBytes "http://" ++ bracketAdvertisementHost host ++ asciiBytes ":" ++
      decimal port ++ asciiBytes "/.well-known/mcos.json") =
        some { host, port := some port, path := asciiBytes "/.well-known/mcos.json" } := by
  rw [bracketAdvertisementHost_eq h]
  have hbase : parseHttpUrl (composeHttpUrl (hostInUrl host) port []) =
      some { host, port := some port, path := [] } :=
    (parseHttpUrl_compose_iff h (.inl rfl)).mpr rfl
  have hpath : encodedText isPathByte (asciiBytes "/.well-known/mcos.json") = true := by
    decide +kernel
  refine ⟨?_, (parseHttpUrl_compose_iff h (.inr rfl)).mpr hpath⟩
  rwa [composeHttpUrl, List.append_nil] at hbase

/-- The URLs of the gateway hold a configured path. -/
theorem gatewayUrl_parse_iff (h : isHost host = true) (port : ℕ) (path fallback : Bytes) :
    parseHttpUrl (asciiBytes "http://" ++ bracketAdvertisementHost host ++ asciiBytes ":" ++
      decimal port ++ ensureAdvertisementPath path fallback) =
        some { host, port := some port, path := ensureAdvertisementPath path fallback } ↔
      encodedText isPathByte (ensureAdvertisementPath path fallback) = true := by
  rw [bracketAdvertisementHost_eq h]
  exact parseHttpUrl_compose_iff h (ensureAdvertisementPath_front path fallback)

theorem noneMasked_preferred_iff :
    NoneMasked [configuration.preferredBindAddress, runtimePrimaryIp] ↔
      Unmasked configuration.preferredBindAddress ∧
        (isLanAdvertisementCandidate configuration.preferredBindAddress = false →
          Unmasked runtimePrimaryIp) := by
  rw [noneMasked_cons, noneMasked_singleton]

/-- The conditions on the configured hosts are that none of the chosen ones is masked. -/
theorem plainConfiguration_iff : PlainConfiguration configuration state runtimePrimaryIp ↔
    NoneMasked (adminCandidates configuration runtimePrimaryIp) ∧
      NoneMasked (mcpCandidates configuration state runtimePrimaryIp) ∧
      ((∀ host, chosen (mcpCandidates configuration state runtimePrimaryIp) = some host →
          isHost host = true) →
        encodedText isPathByte
          (ensureAdvertisementPath configuration.mcpPath (asciiBytes "/mcp")) = true ∧
        encodedText isPathByte
          (ensureAdvertisementPath configuration.healthPath (asciiBytes "/health")) = true) := by
  constructor
  · intro h
    have hreach (hopen : configuration.allowOpenLanAccess = true)
        (hpreferred : ReachesPreferred configuration state) :
        NoneMasked [configuration.preferredBindAddress, runtimePrimaryIp] :=
      noneMasked_preferred_iff.mpr ⟨h.preferred hopen hpreferred, h.detected hopen hpreferred⟩
    have hadmin : NoneMasked (adminCandidates configuration runtimePrimaryIp) :=
      noneMasked_adminCandidates.mpr fun hopen =>
        ⟨h.bindAddress hopen, fun hwildcard => hreach hopen (.inl hwildcard)⟩
    refine ⟨hadmin, (noneMasked_mcpCandidates hadmin).mpr fun hopen hstate => ?_, h.paths⟩
    exact ⟨h.listenHost hopen hstate, fun hwildcard => hreach hopen (.inr ⟨hstate, hwildcard⟩)⟩
  · rintro ⟨hadmin, hmcp, hpaths⟩
    have hbind := noneMasked_adminCandidates.mp hadmin
    have hlisten := (noneMasked_mcpCandidates hadmin).mp hmcp
    have hreach (hopen : configuration.allowOpenLanAccess = true)
        (hpreferred : ReachesPreferred configuration state) :
        NoneMasked [configuration.preferredBindAddress, runtimePrimaryIp] := by
      rcases hpreferred with hwildcard | ⟨hstate, hwildcard⟩
      · exact (hbind hopen).2 hwildcard
      · exact (hlisten hopen hstate).2 hwildcard
    exact
      { bindAddress := fun hopen => (hbind hopen).1
        listenHost := fun hopen hstate => (hlisten hopen hstate).1
        preferred := fun hopen hpreferred =>
          (noneMasked_preferred_iff.mp (hreach hopen hpreferred)).1
        detected := fun hopen hpreferred =>
          (noneMasked_preferred_iff.mp (hreach hopen hpreferred)).2
        paths := hpaths }

/-- A loopback address in full, as an operator may write it. -/
def fullLoopback : AdvertisedConfiguration where
  allowOpenLanAccess := true
  bindAddress := asciiBytes "0:0:0:0:0:0:0:1"
  browserPort := 7300
  preferredBindAddress := []
  listenHost := asciiBytes "192.168.1.20"
  listenPort := 8080
  mcpPath := asciiBytes "/mcp?client=lan"
  healthPath := asciiBytes "/health"

end Posture

end Gateway
end MasterControl
