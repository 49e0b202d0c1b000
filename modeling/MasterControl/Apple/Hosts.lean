import MasterControl.Assignment.Persistence
import MasterControl.Foundation.ByteText
import MasterControl.Foundation.KeyedList
import MasterControl.Foundation.Search
import MasterControl.Foundation.Trim
import Mathlib.Data.List.Destutter
import Mathlib.Data.List.Sort

/-!
# Remote Apple hosts

The record of a remote Apple host has two halves.  The operator sets the first: where the host
is, how it is reached, what it builds.  An inspection fills in the second: the toolchain, the
signing state, two summaries and the readiness issues.

An inspection works on a copy of the record.  `inspectHostState` is the whole of it, over the
answers of the host (`Probe`); what it leaves alone is `operatorSet`
(`operatorSet_inspectHostState`), except where the answer of a companion service cannot be
read: the record has then been moved out of the variable that the handler returns.
-/

namespace MasterControl
namespace Apple

open Foundation
open Assignment (stringValue booleanValue stringElements)

/-! ## Records -/

inductive AppleRemoteTransport where
  | unknown
  | ssh
  | companionService
deriving DecidableEq

inductive PlatformTarget where
  | windows
  | macOS
  | iOS
  | unknown
deriving DecidableEq

/-- The order of the enumeration. -/
def PlatformTarget.rank : PlatformTarget → Nat
  | windows => 0
  | macOS => 1
  | iOS => 2
  | unknown => 3

structure AppleToolchainState where
  reachable : Bool := false
  xcodeInstalled : Bool := false
  xcodeVersion : Bytes := []
  developerDirectory : Bytes := []
  macosSdkAvailable : Bool := false
  iosSdkAvailable : Bool := false
  simulatorControlAvailable : Bool := false
  deviceControlAvailable : Bool := false
  simulatorRuntimes : List Bytes := []
  status : Bytes := asciiBytes "unknown"
  message : Bytes := []
  checkedAtUtc : Bytes := []
deriving DecidableEq

structure AppleSigningState where
  signingReady : Bool := false
  developmentSigningReady : Bool := false
  distributionSigningReady : Bool := false
  availableTeams : List Bytes := []
  status : Bytes := asciiBytes "unknown"
  message : Bytes := []
deriving DecidableEq

structure AppleRemoteHost where
  hostId : Bytes := []
  displayName : Bytes := []
  transport : AppleRemoteTransport := .unknown
  platforms : List PlatformTarget := []
  address : Bytes := []
  port : UInt16 := 0
  username : Bytes := []
  serviceBaseUrl : Bytes := []
  companionHealthPath : Bytes := asciiBytes "/healthz"
  companionExecutePath : Bytes := asciiBytes "/execute"
  preferredDeveloperDirectory : Bytes := []
  defaultSigningIdentity : Bytes := []
  defaultNotaryKeychainProfile : Bytes := []
  defaultNotaryTeamId : Bytes := []
  enabled : Bool := true
  toolchain : AppleToolchainState := {}
  signing : AppleSigningState := {}
  transportSummary : Bytes := []
  credentialProfileSummary : Bytes := []
  readinessIssues : List Bytes := []
deriving DecidableEq

structure OperationResult where
  succeeded : Bool
  message : Bytes
deriving DecidableEq

structure AppleRemoteCommandResult where
  hostId : Bytes := []
  transport : AppleRemoteTransport := .unknown
  launched : Bool := false
  succeeded : Bool := false
  exitCode : Int := -1
  stdoutText : Bytes := []
  stderrText : Bytes := []
  rawResponse : Bytes := []
  errorMessage : Bytes := []
deriving DecidableEq

structure HttpClientResponse where
  succeeded : Bool := false
  body : Bytes := []
  errorMessage : Bytes := []

/-- The record without what an inspection fills in. -/
def operatorSet (host : AppleRemoteHost) : AppleRemoteHost :=
  { host with
    toolchain := {}
    signing := {}
    transportSummary := []
    credentialProfileSummary := []
    readinessIssues := [] }

/-! ## What an operator sends -/

def trimCopy (value : Bytes) : Bytes := trim isSpaceByte value

def normalizeHost (host : AppleRemoteHost) : AppleRemoteHost :=
  let hostId := trimCopy host.hostId
  let displayName := trimCopy host.displayName
  let companionHealthPath := trimCopy host.companionHealthPath
  let companionExecutePath := trimCopy host.companionExecutePath
  { host with
    hostId
    displayName := if displayName = [] then hostId else displayName
    address := trimCopy host.address
    username := trimCopy host.username
    serviceBaseUrl := trimCopy host.serviceBaseUrl
    companionHealthPath :=
      if companionHealthPath = [] then asciiBytes "/healthz" else companionHealthPath
    companionExecutePath :=
      if companionExecutePath = [] then asciiBytes "/execute" else companionExecutePath
    preferredDeveloperDirectory := trimCopy host.preferredDeveloperDirectory
    defaultSigningIdentity := trimCopy host.defaultSigningIdentity
    defaultNotaryKeychainProfile := trimCopy host.defaultNotaryKeychainProfile
    defaultNotaryTeamId := trimCopy host.defaultNotaryTeamId
    platforms :=
      ((host.platforms.filter (· ≠ .unknown)).insertionSort
        fun a b => a.rank ≤ b.rank).destutter (· ≠ ·) }

def validateHost (host : AppleRemoteHost) : OperationResult :=
  if host.hostId = [] then ⟨false, asciiBytes "Apple remote host requires a hostId."⟩
  else if host.displayName = [] then
    ⟨false, asciiBytes "Apple remote host requires a displayName."⟩
  else if host.transport = .unknown then
    ⟨false, asciiBytes "Apple remote host requires a supported transport."⟩
  else if host.platforms = [] then
    ⟨false, asciiBytes "Apple remote host must declare at least one target platform."⟩
  else if host.transport = .ssh ∧ host.address = [] then
    ⟨false, asciiBytes "SSH Apple remote hosts require an address or hostname."⟩
  else if host.transport = .companionService ∧ host.serviceBaseUrl = [] ∧ host.address = [] then
    ⟨false, asciiBytes
      "Companion-service Apple remote hosts require either a serviceBaseUrl or an address."⟩
  else if host.transport = .companionService ∧ host.serviceBaseUrl = [] ∧ host.port = 0 then
    ⟨false, asciiBytes
      "Companion-service Apple remote hosts require a port when serviceBaseUrl is not provided."⟩
  else ⟨true, asciiBytes "Apple remote host is valid."⟩

/-! ## The list of hosts -/

def upsertHost (host : AppleRemoteHost) (hosts : List AppleRemoteHost) :
    OperationResult × List AppleRemoteHost :=
  let normalized := normalizeHost host
  let validation := validateHost normalized
  if !validation.succeeded then (validation, hosts)
  else
    (⟨true, asciiBytes "Apple remote host updated."⟩,
      upsertFirst (fun candidate => candidate.hostId = normalized.hostId) normalized hosts)

def removeHost (hostId : Bytes) (hosts : List AppleRemoteHost) :
    OperationResult × List AppleRemoteHost :=
  let trimmedHostId := trimCopy hostId
  if trimmedHostId = [] then
    (⟨false, asciiBytes "Apple remote host removal requires a hostId."⟩, hosts)
  else if hosts.all (·.hostId ≠ trimmedHostId) then
    (⟨false, asciiBytes "Apple remote host '" ++ trimmedHostId ++ asciiBytes "' was not found."⟩,
      hosts)
  else
    (⟨true, asciiBytes "Apple remote host removed."⟩, hosts.filter (·.hostId ≠ trimmedHostId))

/-- The write-back of an inspected copy: over the record with its id, or as a new one. -/
def persistHost (host : AppleRemoteHost) (hosts : List AppleRemoteHost) : List AppleRemoteHost :=
  upsertFirst (fun candidate => candidate.hostId = host.hostId) host hosts

def findHost (hostId : Bytes) (hosts : List AppleRemoteHost) : Option AppleRemoteHost :=
  hosts.find? fun candidate => candidate.hostId = hostId

def supportsPlatform (host : AppleRemoteHost) (platform : PlatformTarget) : Bool :=
  host.platforms.contains platform

/-! ## Summaries -/

def deriveToolchainStatus (host : AppleRemoteHost) : Bytes :=
  if !host.enabled then asciiBytes "disabled"
  else if !host.toolchain.reachable then asciiBytes "offline"
  else if host.toolchain.xcodeInstalled &&
      (host.toolchain.macosSdkAvailable || host.toolchain.iosSdkAvailable) then
    asciiBytes "ready"
  else asciiBytes "degraded"

def deriveSigningStatus (signing : AppleSigningState) : Bytes :=
  if signing.signingReady then asciiBytes "ready" else asciiBytes "not_ready"

def buildAppleTransportSummary (host : AppleRemoteHost) : Bytes :=
  match host.transport with
  | .companionService =>
    let baseUrl := trimCopy host.serviceBaseUrl
    if baseUrl ≠ [] then asciiBytes "Companion service at " ++ baseUrl
    else if trimCopy host.address ≠ [] then
      let port := if host.port = 0 then 80 else host.port.toNat
      asciiBytes "Companion service via http://" ++ host.address ++ 58 :: decimal port
    else asciiBytes "Companion service transport"
  | .ssh =>
    let target := trimCopy host.address
    let target := if trimCopy host.username ≠ [] then host.username ++ 64 :: target else target
    let target := if host.port ≠ 0 then target ++ 58 :: decimal host.port.toNat else target
    if target = [] then asciiBytes "SSH transport" else asciiBytes "SSH to " ++ target
  | .unknown => asciiBytes "Unknown transport"

/-- The parts that are not blank, with a separator in between. -/
def joinSummaryParts (parts : List Bytes) (separator : Bytes) : Bytes :=
  trimCopy (separator.intercalate ((parts.map trimCopy).filter (· ≠ [])))

def buildAppleCredentialProfileSummary (host : AppleRemoteHost) : Bytes :=
  let part (label : String) (value : Bytes) : List Bytes :=
    if trimCopy value = [] then [] else [asciiBytes label ++ value]
  let parts :=
    part "Default signing identity: " host.defaultSigningIdentity ++
      part "Default notary profile: " host.defaultNotaryKeychainProfile ++
      part "Default team ID: " host.defaultNotaryTeamId
  if parts = [] then asciiBytes "No host distribution defaults configured."
  else joinSummaryParts parts (asciiBytes "; ")

def deriveAppleReadinessIssues (host : AppleRemoteHost) : List Bytes :=
  let issue (present : Bool) (text : String) : List Bytes :=
    if present then [asciiBytes text] else []
  if !host.enabled then [asciiBytes "Host is disabled."]
  else
    issue (!host.toolchain.reachable) "Remote host is unreachable." ++
      issue (!host.toolchain.xcodeInstalled) "Xcode is unavailable." ++
      issue (supportsPlatform host .macOS && !host.toolchain.macosSdkAvailable)
        "macOS SDK route is unavailable." ++
      issue (supportsPlatform host .iOS && !host.toolchain.iosSdkAvailable)
        "iOS SDK route is unavailable." ++
      issue (supportsPlatform host .iOS && !host.signing.signingReady)
        "iOS signing is not ready." ++
      issue (supportsPlatform host .iOS && !host.toolchain.simulatorControlAvailable &&
          !host.toolchain.deviceControlAvailable)
        "Neither simulator nor device control is available."

def finalizeAppleHostState (host : AppleRemoteHost) : AppleRemoteHost :=
  { host with
    transportSummary := buildAppleTransportSummary host
    credentialProfileSummary := buildAppleCredentialProfileSummary host
    readinessIssues := deriveAppleReadinessIssues host }

@[simp] theorem operatorSet_finalizeAppleHostState (host : AppleRemoteHost) :
    operatorSet (finalizeAppleHostState host) = operatorSet host := rfl

/-! ## What the host answers -/

/-- The answers an inspection gets. -/
structure Probe where
  /-- When the inspection began. -/
  startedAtUtc : Bytes
  /-- When the companion service had answered. -/
  answeredAtUtc : Bytes
  /-- Whether `ssh.exe` is found. -/
  sshFound : Bool
  /-- What a command answers over ssh. -/
  runRemoteCommand : Bytes → AppleRemoteCommandResult
  /-- What the companion service answers. -/
  response : HttpClientResponse
  /-- `nlohmann::json::parse`, `none` where it throws. -/
  parse : Bytes → Option Json
  /-- Whether the compiler parses the answer before it moves the record. -/
  parsesFirst : Bool

def utf8 (text : String) : Bytes := text.toUTF8.toList

/-- A member that is an object, or the document itself. -/
def part? (key : String) (payload : Json) : Json :=
  match payload with
  | .object members =>
    match Json.lookup key members with
    | some (.object inner) => .object inner
    | _ => payload
  | _ => payload

/-- The members of a document; reading a member of anything else throws. -/
def membersOf : Json → Option (List (String × Json))
  | .object members => some members
  | _ => none

def isArrayMember (key : String) (members : List (String × Json)) : Bool :=
  match Json.lookup key members with
  | some (.array _) => true
  | _ => false

/-- The texts of an array member, or the list as it was. -/
def textsOr (key : String) (current : List Bytes) (members : List (String × Json)) : List Bytes :=
  if isArrayMember key members then (stringElements key members).map utf8 else current

/-- `trimCopy(payload.value(key, fallback))`. -/
def trimmedValue (key : String) (fallback : Bytes) (members : List (String × Json)) :
    Option Bytes :=
  match Json.lookup key members with
  | none => some (trimCopy fallback)
  | some (.string value) => some (trimCopy (utf8 value))
  | some _ => none

/-- The toolchain in a companion service's answer, `none` where reading it throws. -/
def readToolchain (checkedAtUtc : Bytes) (host : AppleRemoteHost) (payload : Json) :
    Option AppleToolchainState := do
  let members ← membersOf (part? "toolchain" payload)
  let reachable ← booleanValue "reachable" true members
  let xcodeVersion ← trimmedValue "xcodeVersion" [] members
  let xcodeInstalled ← booleanValue "xcodeInstalled" (xcodeVersion ≠ []) members
  let developerDirectory ←
    trimmedValue "developerDirectory" host.preferredDeveloperDirectory members
  let macosSdkAvailable ← booleanValue "macosSdkAvailable" false members
  let iosSdkAvailable ← booleanValue "iosSdkAvailable" false members
  let simulatorControlAvailable ← booleanValue "simulatorControlAvailable" false members
  let deviceControlAvailable ← booleanValue "deviceControlAvailable" false members
  let toolchain := { host.toolchain with
    reachable, xcodeVersion, xcodeInstalled, developerDirectory, macosSdkAvailable
    iosSdkAvailable, simulatorControlAvailable, deviceControlAvailable, checkedAtUtc
    simulatorRuntimes := textsOr "simulatorRuntimes" host.toolchain.simulatorRuntimes members }
  let status ← trimmedValue "status" (deriveToolchainStatus { host with toolchain }) members
  let message ← trimmedValue "message" [] members
  pure { toolchain with status, message }

/-- The signing state in a companion service's answer, `none` where reading it throws. -/
def readSigning (host : AppleRemoteHost) (payload : Json) : Option AppleSigningState := do
  let members ← membersOf (part? "signing" payload)
  let signingReady ← booleanValue "signingReady" false members
  let developmentSigningReady ← booleanValue "developmentSigningReady" signingReady members
  let distributionSigningReady ← booleanValue "distributionSigningReady" signingReady members
  let signing := { host.signing with
    signingReady, developmentSigningReady, distributionSigningReady
    availableTeams := textsOr "availableTeams" host.signing.availableTeams members }
  let status ← trimmedValue "status" (deriveSigningStatus signing) members
  let message ← trimmedValue "message" [] members
  pure { signing with status, message }

/-- The record a companion service's answer gives, `none` where reading it throws. -/
def applyCompanionPayload (checkedAtUtc : Bytes) (host : AppleRemoteHost) (payload : Json) :
    Option AppleRemoteHost := do
  let toolchain ← readToolchain checkedAtUtc host payload
  let signing ← readSigning host payload
  pure (finalizeAppleHostState { host with toolchain, signing })

/-- What is left of a record that was moved into a call: no text and no list. -/
def movedFrom (host : AppleRemoteHost) : AppleRemoteHost :=
  { transport := host.transport
    port := host.port
    enabled := host.enabled
    companionHealthPath := []
    companionExecutePath := []
    toolchain := { host.toolchain with
      xcodeVersion := []
      developerDirectory := []
      simulatorRuntimes := []
      status := []
      message := []
      checkedAtUtc := [] }
    signing := { host.signing with
      availableTeams := []
      status := []
      message := [] } }

/-- The record of the handler for an answer that cannot be read. -/
def invalidPayload (host : AppleRemoteHost) : AppleRemoteHost :=
  let text := asciiBytes "The Apple companion service returned an unreadable JSON payload."
  finalizeAppleHostState { host with
    toolchain := { host.toolchain with
      reachable := false
      status := asciiBytes "invalid_payload"
      message := text }
    signing := { host.signing with
      status := asciiBytes "invalid_payload"
      message := text } }

/-- The copy, stamped with the time of the inspection. -/
def begun (probe : Probe) (host : AppleRemoteHost) : AppleRemoteHost :=
  { host with toolchain := { host.toolchain with checkedAtUtc := probe.startedAtUtc } }

def inspectCompanionService (probe : Probe) (host : AppleRemoteHost) : AppleRemoteHost :=
  let host := begun probe host
  if !probe.response.succeeded then
    finalizeAppleHostState { host with
      toolchain := { host.toolchain with
        reachable := false
        status := asciiBytes "offline"
        message :=
          if probe.response.errorMessage = [] then
            asciiBytes "The Apple companion service did not respond successfully."
          else probe.response.errorMessage }
      signing := { host.signing with
        status := asciiBytes "unknown"
        message := asciiBytes
          "Signing state is unavailable because the companion service is unreachable." } }
  else
    match probe.parse probe.response.body with
    | none => invalidPayload (if probe.parsesFirst then host else movedFrom host)
    | some payload =>
      match applyCompanionPayload probe.answeredAtUtc host payload with
      | some inspected => inspected
      -- the record was moved into the call that threw
      | none => invalidPayload (movedFrom host)

/-! ## Reading the answers of commands -/

/-- The names of the simulator runtimes; an answer that is no such document lists none. -/
def parseSimulatorRuntimes (parse : Bytes → Option Json) (stdoutText : Bytes) : List Bytes :=
  match parse stdoutText with
  | some (.object members) =>
    match Json.lookup "runtimes" members with
    | some (.array runtimes) =>
      runtimes.filterMap fun
        | .object runtime =>
          match Json.lookup "isAvailable" runtime with
          | some (.boolean false) => none
          | _ =>
            match Json.lookup "name" runtime, Json.lookup "identifier" runtime with
            | some (.string name), _ => some (utf8 name)
            | _, some (.string identifier) => some (utf8 identifier)
            | _, _ => none
        | _ => none
    | _ => []
  | _ => []

/-- The text between the first brackets of a line, `none` where there is none. -/
def bracketed (line : Bytes) : Option Bytes :=
  match cut [40] line with
  | none => none
  | some (_, rest) =>
    match cut [41] rest with
    | none => none
    | some (team, _) => if trimCopy team = [] then none else some (trimCopy team)

/-- The order of texts by their bytes. -/
def textLe (a b : Bytes) : Bool := !decide (b.map UInt8.toNat < a.map UInt8.toNat)

def parseSigningTeams (stdoutText : Bytes) : List Bytes :=
  (((stdoutText.splitOn 10).filterMap bracketed).insertionSort fun a b => textLe a b).destutter
    (· ≠ ·)

def toolchainMessage (host : AppleRemoteHost) : Bytes :=
  let message :=
    if !host.toolchain.reachable then "The remote Mac did not respond to xcode-select."
    else if !host.toolchain.xcodeInstalled then
      "Xcode is not available through ssh on the selected host."
    else "Xcode toolchain is reachable through ssh."
  let message :=
    if !host.toolchain.macosSdkAvailable && supportsPlatform host .macOS then
      message ++ " The macOS SDK is not available on the selected host."
    else message
  let message :=
    if !host.toolchain.iosSdkAvailable && supportsPlatform host .iOS then
      message ++ " The iOS SDK is not available on the selected host."
    else message
  trimCopy (asciiBytes message)

/-- Whether a command was started and ended well. -/
def AppleRemoteCommandResult.answered (result : AppleRemoteCommandResult) : Bool :=
  result.launched && result.succeeded

/-- Whether the output of the signing probe names an identity. -/
def identitiesFound (stdoutText : Bytes) : Bool :=
  (cut (asciiBytes "0 valid identities found") stdoutText).isNone

def inspectSshHost (probe : Probe) (host : AppleRemoteHost) : AppleRemoteHost :=
  let host := begun probe host
  if !probe.sshFound then
    finalizeAppleHostState { host with
      toolchain := { host.toolchain with
        reachable := false
        status := asciiBytes "unavailable"
        message := asciiBytes "ssh.exe is not available on the Windows host." }
      signing := { host.signing with
        status := asciiBytes "unavailable"
        message := asciiBytes
          "SSH transport is unavailable because ssh.exe could not be found." } }
  else
    let run (command : String) := probe.runRemoteCommand (asciiBytes command)
    let developerDirectory := run "xcode-select -p"
    let xcodeVersion := run "xcodebuild -version"
    let macosSdk := run "xcrun --sdk macosx --show-sdk-path"
    let iosSdk := run "xcrun --sdk iphoneos --show-sdk-path"
    let simulatorState := run "xcrun simctl list runtimes --json"
    let deviceControl := run "xcrun devicectl list devices"
    let signingState := run "security find-identity -v -p codesigning"
    let toolchain := { host.toolchain with
      reachable := developerDirectory.answered
      developerDirectory := trimCopy developerDirectory.stdoutText
      xcodeInstalled := xcodeVersion.answered
      xcodeVersion := trimCopy (xcodeVersion.stdoutText.takeWhile (· ≠ 10))
      macosSdkAvailable := macosSdk.answered
      iosSdkAvailable := iosSdk.answered
      simulatorControlAvailable := simulatorState.answered
      deviceControlAvailable := deviceControl.answered
      simulatorRuntimes := parseSimulatorRuntimes probe.parse simulatorState.stdoutText }
    let toolchain := { toolchain with
      status := deriveToolchainStatus { host with toolchain }
      message := toolchainMessage { host with toolchain } }
    let signingReady := signingState.answered && identitiesFound signingState.stdoutText
    let signing := { host.signing with
      signingReady
      developmentSigningReady := signingReady
      distributionSigningReady := signingReady
      availableTeams := parseSigningTeams signingState.stdoutText
      message := asciiBytes
        (if signingReady then
          "Code-signing identities are available on the selected Apple host."
        else "No usable code-signing identities were detected on the selected Apple host.") }
    let signing := { signing with status := deriveSigningStatus signing }
    finalizeAppleHostState { host with toolchain, signing }

/-- The record of a host that is not asked anything. -/
def notAsked (checkedAtUtc : Bytes) (status message : String) (host : AppleRemoteHost) :
    AppleRemoteHost :=
  { host with
    toolchain := { host.toolchain with
      checkedAtUtc
      status := asciiBytes status
      message := asciiBytes message }
    signing := { host.signing with
      status := asciiBytes status
      message := asciiBytes message } }

def unsupportedTransport (probe : Probe) (host : AppleRemoteHost) : AppleRemoteHost :=
  finalizeAppleHostState
    (notAsked probe.startedAtUtc "unsupported_transport" "Unsupported Apple host transport."
      { host with toolchain := { host.toolchain with reachable := false } })

def inspectHostState (probe : Probe) (host : AppleRemoteHost) : AppleRemoteHost :=
  if !host.enabled then
    finalizeAppleHostState
      (notAsked probe.startedAtUtc "disabled" "This Apple remote host is disabled." host)
  else
    match host.transport with
    | .companionService => inspectCompanionService probe host
    | .ssh => inspectSshHost probe host
    | .unknown => unsupportedTransport probe host

/-! ## What an inspection leaves alone -/

/-- The answer of a companion service can be read, or is turned down before the record is
moved. -/
def Probe.Readable (probe : Probe) (host : AppleRemoteHost) : Prop :=
  probe.response.succeeded = true →
    match probe.parse probe.response.body with
    | none => probe.parsesFirst = true
    | some payload =>
      (applyCompanionPayload probe.answeredAtUtc (begun probe host) payload).isSome = true

/-- The inspection keeps its record. -/
def Probe.Keeps (probe : Probe) (host : AppleRemoteHost) : Prop :=
  host.enabled = true → host.transport = .companionService → probe.Readable host

/-- A record that is read off a document keeps what the operator set. -/
theorem operatorSet_applyCompanionPayload {checkedAtUtc : Bytes} {host inspected : AppleRemoteHost}
    {payload : Json} (h : applyCompanionPayload checkedAtUtc host payload = some inspected) :
    operatorSet inspected = operatorSet host := by
  unfold applyCompanionPayload at h
  obtain ⟨toolchain, -, h⟩ := Option.bind_eq_some_iff.mp h
  obtain ⟨signing, -, h⟩ := Option.bind_eq_some_iff.mp h
  rw [← Option.some.inj h]
  rfl

theorem operatorSet_inspectCompanionService {probe : Probe} {host : AppleRemoteHost}
    (h : probe.Readable host) :
    operatorSet (inspectCompanionService probe host) = operatorSet host := by
  unfold inspectCompanionService
  cases hresponse : probe.response.succeeded with
  | false => rfl
  | true =>
    have hreadable := h hresponse
    cases hparse : probe.parse probe.response.body with
    | none =>
      rw [hparse] at hreadable
      dsimp only at hreadable ⊢
      rw [hreadable]
      rfl
    | some payload =>
      rw [hparse] at hreadable
      obtain ⟨inspected, hinspected⟩ := Option.isSome_iff_exists.mp hreadable
      dsimp only
      rw [hinspected]
      exact operatorSet_applyCompanionPayload hinspected

theorem operatorSet_inspectSshHost (probe : Probe) (host : AppleRemoteHost) :
    operatorSet (inspectSshHost probe host) = operatorSet host := by
  unfold inspectSshHost
  cases probe.sshFound with
  | false => rfl
  | true => rfl

/-- **An inspection only fills in the observed fields**, as long as the answer of a companion
service can be read. -/
theorem operatorSet_inspectHostState {probe : Probe} {host : AppleRemoteHost}
    (h : probe.Keeps host) : operatorSet (inspectHostState probe host) = operatorSet host := by
  unfold inspectHostState
  cases henabled : host.enabled with
  | false => rfl
  | true =>
    cases htransport : host.transport with
    | companionService => exact operatorSet_inspectCompanionService (h henabled htransport)
    | ssh => exact operatorSet_inspectSshHost probe host
    | unknown => rfl

end Apple
end MasterControl
