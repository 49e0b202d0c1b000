import MasterControl.Apple.Redaction

/-!
# Running a recorded operation again

The record of a queued operation keeps the options whose names are on a list, trimmed, and not the
credentials.  `assessAppleOperationReplay` makes a request of the record again and asks whether a
command can be built of it.

The builder looks options up under names of its own.  All of them are on the list, or credentials,
but for one: a staple looks for its path under `targetPath` last, and that is not kept
(`choices_replayRequest`).  So an operation can be run again as it was run exactly when it is no
staple that depends on that name (`rerun_faithful_iff`).
-/

namespace MasterControl
namespace Apple
namespace Redaction

open Foundation

/-! ## The host of a rerun -/

/-- The points of a host for a platform. -/
def replayScore (host : AppleRemoteHost) (platform : PlatformTarget) : ℕ :=
  let points (holds : Bool) (n : ℕ) : ℕ := if holds then n else 0
  points host.enabled 50 + points (supportsPlatform host platform) 50 +
    points host.toolchain.reachable 40 + points host.toolchain.xcodeInstalled 30 +
    points (platform = .macOS && host.toolchain.macosSdkAvailable) 20 +
    points (platform = .iOS && host.toolchain.iosSdkAvailable) 20 +
    points (platform = .iOS && host.signing.signingReady) 15 +
    points (platform = .iOS && host.toolchain.simulatorControlAvailable) 10 +
    points (host.transport = .companionService) 2 + points (readyForPlatform host platform) 100

/-- One host of the list: the first of those with the most points stays. -/
def betterHost (platform : PlatformTarget) (best : Option AppleRemoteHost)
    (host : AppleRemoteHost) : Option AppleRemoteHost :=
  if !host.enabled || !supportsPlatform host platform then best
  else
    match best with
    | none => some host
    | some chosen =>
      if replayScore chosen platform < replayScore host platform then some host else best

/-- `resolveReplayHost`; without the service there is no list. -/
def resolveReplayHost (hosts : Option (List AppleRemoteHost)) (record : AppleOperationRecord) :
    Option AppleRemoteHost :=
  hosts.bind fun hosts =>
    if trimCopy record.hostId ≠ [] then findHost record.hostId hosts
    else hosts.foldl (betterHost record.platform) none

/-! ## The assessment -/

structure AppleOperationReplayAssessment where
  ready : Bool
  message : Bytes

/-- The request that is made of a record. -/
def replayRequest (record : AppleOperationRecord) : GovernanceToolRequest where
  platform := record.platform
  toolId := record.toolId
  targetPath := record.targetPath
  options := record.requestOptions

/-- What is still missing on the host. -/
def replayGaps (host : AppleRemoteHost) : List Bytes :=
  if host.readinessIssues = [] then []
  else [asciiBytes "Current readiness gaps: " ++
    joinSummaryParts host.readinessIssues (asciiBytes "; ")]

/-- Why there is no command. -/
def replayRefusal (record : AppleOperationRecord) (host : AppleRemoteHost) (refusal : Refusal) :
    Bytes :=
  let message :=
    if record.toolId = "forsetti.macos.notarize" ∧ record.redactedRequestOptionKeys ≠ [] ∧
        trimCopy host.defaultNotaryKeychainProfile = [] then
      asciiBytes ("Rerun requires a host default notarization profile or fresh Apple ID " ++
        "credentials because the original secrets were redacted from stored history.")
    else
      match refusal with
      | none => []
      | some (summary, finding) => if trimCopy summary = [] then finding else trimCopy summary
  if message = [] then
    asciiBytes "Stored Apple operation no longer has enough information for a safe rerun."
  else message

/-- What is said of credentials that were not kept. -/
def replayCredentials (record : AppleOperationRecord) (host : AppleRemoteHost) : List Bytes :=
  if record.redactedRequestOptionKeys = [] then []
  else if record.toolId = "forsetti.macos.notarize" ∧
      trimCopy host.defaultNotaryKeychainProfile ≠ [] then
    [asciiBytes "Redacted Apple ID secrets will be replaced by host notary profile '" ++
      host.defaultNotaryKeychainProfile ++ asciiBytes "'."]
  else [asciiBytes "Stored history still omits sensitive request values."]

/-- The operation is neither waiting nor running. -/
def AppleOperationRecord.Finished (record : AppleOperationRecord) : Prop :=
  record.status ≠ .queued ∧ record.status ≠ .running

instance (record : AppleOperationRecord) : Decidable record.Finished :=
  inferInstanceAs (Decidable (_ ∧ _))

def assessAppleOperationReplay (tools : List GovernanceToolDescriptor)
    (hosts : Option (List AppleRemoteHost)) (record : AppleOperationRecord) :
    AppleOperationReplayAssessment :=
  let ready (host : AppleRemoteHost) (what : String) (more : List Bytes) :
      AppleOperationReplayAssessment :=
    ⟨true, joinSummaryParts ((asciiBytes what ++ hostAndTransport host host.transport) :: more)
      (asciiBytes "; ")⟩
  let notReady (host : AppleRemoteHost) (rest : Bytes) : AppleOperationReplayAssessment :=
    ⟨false, asciiBytes "Apple host '" ++ host.displayName ++ asciiBytes "' " ++ rest⟩
  if ¬ record.Finished then
    ⟨false, asciiBytes "Wait for the current Apple operation to finish before rerunning it."⟩
  else
    match tools.find? fun tool =>
      tool.platform = record.platform && tool.toolId = record.toolId with
    | none =>
      ⟨false,
        asciiBytes "The recorded Apple governance tool is no longer registered in this build."⟩
    | some descriptor =>
      match resolveReplayHost hosts record with
      | none =>
        ⟨false,
          if trimCopy record.hostId = [] then
            asciiBytes "No enabled Apple host is currently configured for automatic " ++
              platformKey record.platform ++ asciiBytes " reruns."
          else
            asciiBytes "The original Apple host '" ++ record.hostId ++
              asciiBytes "' is no longer available for safe reruns."⟩
      | some host =>
        if !host.enabled then
          notReady host (asciiBytes "is disabled and cannot be used for reruns.")
        else if !supportsPlatform host record.platform then
          notReady host (asciiBytes "no longer advertises the " ++ platformKey record.platform ++
            asciiBytes " governance lane.")
        else if isAppleReplayValidationTool record.toolId then
          ready host "Ready to rerun CLU validation on Apple host " (replayGaps host)
        else
          match buildAppleOperationalCommand descriptor record.platform host
            (choices (replayRequest record) host) with
          | .error refusal => ⟨false, replayRefusal record host refusal⟩
          | .ok _ =>
            ready host "Ready to rerun on Apple host "
              (replayCredentials record host ++ replayGaps host)

/-! ## What is kept of a request -/

section Kept

variable {request : GovernanceToolRequest}

/-- The names whose values are kept. -/
def isKeptKey (key : String) : Bool := allowedKeys.contains key && !secretKeys.contains key

/-- The value of an option, as it is kept. -/
def keptValue (key : String) (value : Bytes) : Option Bytes :=
  if trimCopy value ≠ [] ∧ isKeptKey key then some (trimCopy value) else none

theorem persistedOptions_eq (request : GovernanceToolRequest) :
    (sanitizeAppleRequestOptions request).persistedOptions =
      request.options.filterMap fun option =>
        (keptValue option.1 option.2).map (option.1, ·) := by
  rw [sanitizeAppleRequestOptions, List.filterMap_filter]
  refine List.filterMap_congr fun option _ => ?_
  rw [keptValue, isKeptKey]
  by_cases hblank : trimCopy option.2 = []
  · rw [if_neg (by simp [hblank]), if_neg fun h => h.1 hblank]
    rfl
  · cases hsecret : secretKeys.contains option.1 with
    | true => simp [hblank]
    | false => cases hallowed : allowedKeys.contains option.1 <;> simp [hblank]

/-- The request that is made of the record of a request. -/
def storedRequest (request : GovernanceToolRequest) : GovernanceToolRequest :=
  { request with options := (sanitizeAppleRequestOptions request).persistedOptions }

theorem lookup_storedRequest (hoptions : (request.options.map Prod.fst).Nodup) (key : String) :
    (storedRequest request).options.lookup key =
      (request.options.lookup key).bind (keptValue key) := by
  rw [storedRequest, persistedOptions_eq]
  exact lookup_filterMap_keep hoptions keptValue key

/-- A name on the list gives what it gave, another one gives nothing. -/
theorem supplied_storedRequest (hoptions : (request.options.map Prod.fst).Nodup) (key : String) :
    (((storedRequest request).options.lookup key).map trimCopy).filter (· ≠ []) =
      if isKeptKey key then ((request.options.lookup key).map trimCopy).filter (· ≠ [])
      else none := by
  rw [lookup_storedRequest hoptions]
  cases request.options.lookup key with
  | none => exact (ite_self none).symm
  | some value =>
    rw [Option.bind_some, keptValue, Option.map_some, Option.filter_some]
    by_cases hblank : trimCopy value = []
    · rw [if_neg fun h => h.1 hblank, hblank]
      cases isKeptKey key <;> rfl
    · have htrim : trimCopy (trimCopy value) = trimCopy value := trim_trim isSpaceByte value
      have hkept : (decide (trimCopy value ≠ [])) = true := decide_eq_true hblank
      cases isKeptKey key with
      | true =>
        rw [if_pos ⟨hblank, rfl⟩, Option.map_some, htrim, Option.filter_some, if_pos rfl]
      | false =>
        rw [if_neg fun h => Bool.noConfusion h.2, if_neg Bool.false_ne_true]
        rfl

/-- Of the names that are looked up, those on the list count. -/
theorem optionValue_storedRequest (hoptions : (request.options.map Prod.fst).Nodup)
    (keys : List String) :
    optionValue (storedRequest request) keys = optionValue request (keys.filter isKeptKey) := by
  induction keys with
  | nil => rfl
  | cons key keys ih =>
    rw [optionValue, List.findSome?_cons, supplied_storedRequest hoptions, List.filter_cons]
    cases isKeptKey key with
    | true =>
      rw [if_pos rfl, if_pos rfl, optionValue, List.findSome?_cons]
      cases ((request.options.lookup key).map trimCopy).filter (· ≠ []) with
      | none => exact ih
      | some value => rfl
    | false =>
      rw [if_neg Bool.false_ne_true, if_neg Bool.false_ne_true]
      exact ih

theorem optionValue_storedRequest_of_kept (hoptions : (request.options.map Prod.fst).Nodup)
    {keys : List String} (hkeys : keys.all isKeptKey = true) :
    optionValue (storedRequest request) keys = optionValue request keys := by
  rw [optionValue_storedRequest hoptions, List.filter_eq_self.mpr (List.all_eq_true.mp hkeys)]

theorem resolveAppleWorkingDirectory_storedRequest
    (hoptions : (request.options.map Prod.fst).Nodup) :
    resolveAppleWorkingDirectory (storedRequest request) = resolveAppleWorkingDirectory request := by
  rw [resolveAppleWorkingDirectory, resolveAppleWorkingDirectory,
    optionValue_storedRequest_of_kept hoptions (by decide),
    optionValue_storedRequest_of_kept hoptions (by decide)]
  rfl

/-- **The builder finds everything again but the credentials, and the last name of a staple.** -/
theorem choices_storedRequest (hoptions : (request.options.map Prod.fst).Nodup)
    (host : AppleRemoteHost) :
    choices (storedRequest request) host =
      { choices request host with
        staplePath := optionValue request ["artifactPath", "bundlePath", "staplePath"]
        appleId := []
        appleIdPassword := [] } := by
  simp only [choices, resolveAppleWorkingDirectory_storedRequest hoptions,
    optionValue_storedRequest hoptions]
  rfl

end Kept

/-! ## The records of an operation -/

/-- Two records of the same request. -/
structure SameRequest (record record' : AppleOperationRecord) : Prop where
  platform : record.platform = record'.platform
  toolId : record.toolId = record'.toolId
  targetPath : record.targetPath = record'.targetPath
  requestOptions : record.requestOptions = record'.requestOptions
  redactedKeys : record.redactedRequestOptionKeys = record'.redactedRequestOptionKeys

/-- All records so far are those of one request. -/
structure Progress.RecordsOf (p : Progress) (queued : AppleOperationRecord) : Prop where
  current : SameRequest p.record queued
  written : ∀ record ∈ p.written, SameRequest record queued

section Records

variable {p : Progress} {queued record : AppleOperationRecord} {s : Surroundings}
  {descriptor : GovernanceToolDescriptor} {request : GovernanceToolRequest}

namespace Progress
namespace RecordsOf

theorem obstructed (h : p.RecordsOf queued) (obstacle : Obstacle)
    (ruleId title errorMessage routeReason diagnosticSummary : Bytes) :
    (p.obstructed obstacle ruleId title errorMessage routeReason diagnosticSummary).RecordsOf
      queued :=
  ⟨⟨h.current.platform, h.current.toolId, h.current.targetPath, h.current.requestOptions,
    h.current.redactedKeys⟩, h.written⟩

theorem withoutHost (h : p.RecordsOf queued) (descriptor : GovernanceToolDescriptor)
    (platform : PlatformTarget) (preferredHostId : Bytes) :
    (p.withoutHost descriptor platform preferredHostId).RecordsOf queued := by
  rw [Progress.withoutHost]
  split_ifs
  · exact h.obstructed _ _ _ _ _ _
  · exact h.obstructed _ _ _ _ _ _

theorem routed (h : p.RecordsOf queued) (s : Surroundings) (descriptor : GovernanceToolDescriptor)
    (request : GovernanceToolRequest) (preferredHostId : Bytes) (host : AppleRemoteHost) :
    (p.routed s descriptor request preferredHostId host).RecordsOf queued := by
  have hrunning : SameRequest (p.routed s descriptor request preferredHostId host).record queued :=
    ⟨h.current.platform, h.current.toolId, h.current.targetPath, h.current.requestOptions,
      h.current.redactedKeys⟩
  refine ⟨hrunning, fun record hrecord => ?_⟩
  rcases List.mem_append.mp hrecord with hbefore | hnow
  · exact h.written record hbefore
  · rw [List.mem_singleton.mp hnow]
    exact hrunning

theorem validated (h : p.RecordsOf queued) (platform : PlatformTarget) (host : AppleRemoteHost) :
    (p.validated platform host).RecordsOf queued := by
  refine ⟨?_, h.written⟩
  rw [Progress.validated]
  dsimp only
  split_ifs
  · exact h.current
  · exact ⟨h.current.platform, h.current.toolId, h.current.targetPath, h.current.requestOptions,
      h.current.redactedKeys⟩

theorem refused (h : p.RecordsOf queued) (descriptor : GovernanceToolDescriptor)
    (refusal : Refusal) : (p.refused descriptor refusal).RecordsOf queued :=
  ⟨⟨h.current.platform, h.current.toolId, h.current.targetPath, h.current.requestOptions,
    h.current.redactedKeys⟩, h.written⟩

theorem reported (h : p.RecordsOf queued) (descriptor : GovernanceToolDescriptor)
    (host : AppleRemoteHost) (execution : AppleRemoteCommandResult) :
    (p.reported descriptor host execution).RecordsOf queued := by
  rw [Progress.reported]
  dsimp only
  split
  · exact ⟨h.current, h.written⟩
  · exact ⟨⟨h.current.platform, h.current.toolId, h.current.targetPath, h.current.requestOptions,
      h.current.redactedKeys⟩, h.written⟩

theorem runCommand (h : p.RecordsOf queued) (s : Surroundings)
    (descriptor : GovernanceToolDescriptor) (request : GovernanceToolRequest)
    (host : AppleRemoteHost) : (runCommand s descriptor request host p).1.RecordsOf queued := by
  rw [Redaction.runCommand]
  split
  · exact h.refused descriptor _
  · split
    · exact h
    · exact h.reported descriptor host _

theorem runOnHost (h : p.RecordsOf queued) (s : Surroundings)
    (descriptor : GovernanceToolDescriptor) (request : GovernanceToolRequest)
    (preferredHostId : Bytes) (host : AppleRemoteHost) :
    (runOnHost s descriptor request preferredHostId host p).1.RecordsOf queued := by
  have hrouted := h.routed s descriptor request preferredHostId host
  rw [Redaction.runOnHost]
  dsimp only
  split
  · exact hrouted
  · have hready : ∀ result, Progress.RecordsOf
        { p.routed s descriptor request preferredHostId host with result := result } queued :=
      fun _ => ⟨hrouted.current, hrouted.written⟩
    split_ifs
    · exact (hready _).validated request.platform host
    · exact (hready _).runCommand s descriptor request host
    · exact ⟨(hready _).current, (hready _).written⟩

/-- A tool leaves the request in its record as it is. -/
theorem executeAppleRemoteTool (h : p.RecordsOf queued) (s : Surroundings)
    (descriptor : GovernanceToolDescriptor) (request : GovernanceToolRequest) :
    (executeAppleRemoteTool s descriptor request p).1.RecordsOf queued := by
  rw [Redaction.executeAppleRemoteTool]
  split
  · exact h.obstructed _ _ _ _ _ _
  · split
    · exact h.withoutHost descriptor request.platform _
    · split
      · exact h.obstructed _ _ _ _ _ _
      · exact h.runOnHost s descriptor request _ _

end RecordsOf
end Progress

theorem sameRequest_of_mem_workOff (result : GovernanceToolResult)
    (hrecord : .operation record ∈ (workOff s descriptor request queued result).1) :
    SameRequest record queued := by
  have hstart : Progress.RecordsOf { result, record := queued } queued :=
    ⟨⟨rfl, rfl, rfl, rfl, rfl⟩, fun _ h => absurd h List.not_mem_nil⟩
  have hend := hstart.executeAppleRemoteTool s descriptor request
  rcases List.mem_append.mp hrecord with hwritten | hlast
  · obtain ⟨written, hmem, heq⟩ := List.mem_map.mp hwritten
    obtain rfl : written = record := Kept.operation.inj heq
    exact hend.written written hmem
  · rcases List.mem_pair.mp hlast with heq | heq
    · rw [Kept.operation.inj heq]
      exact ⟨hend.current.platform, hend.current.toolId, hend.current.targetPath,
        hend.current.requestOptions, hend.current.redactedKeys⟩
    · cases heq

/-- Whatever becomes of an operation, its records are of its request. -/
theorem sameRequest_of_mem_keeps {fate : Fate}
    (hrecord : .operation record ∈ fate.keeps descriptor request queued) :
    SameRequest record queued := by
  cases fate with
  | worked s => exact sameRequest_of_mem_workOff _ hrecord
  | canceled nowUtc =>
    rcases List.mem_pair.mp hrecord with heq | heq
    · rw [Kept.operation.inj heq]
      exact ⟨rfl, rfl, rfl, rfl, rfl⟩
    · cases heq
  | interrupted interruptedAtUtc =>
    rw [Kept.operation.inj (List.mem_singleton.mp hrecord)]
    exact ⟨rfl, rfl, rfl, rfl, rfl⟩

/-- Every record of a queued tool that is kept is of its request. -/
theorem sameRequest_of_mem_execute {notice : QueueNotice} {fate : Fate}
    (htool : (s.tools.find? fun tool =>
      tool.platform = request.platform && tool.toolId = request.toolId) = some descriptor)
    (hremote : descriptor.requiresRemoteToolchain = true)
    (hqueued : queuedToolIds.contains descriptor.toolId = true)
    (hrecord : .operation record ∈ (execute notice s fate request).1) :
    SameRequest record (queueAppleOperation s descriptor request) := by
  rw [execute, htool] at hrecord
  simp only [hremote, hqueued, if_true] at hrecord
  split at hrecord
  · rcases List.mem_cons.mp hrecord with heq | hlater
    · rw [Kept.operation.inj heq]
      exact ⟨rfl, rfl, rfl, rfl, rfl⟩
    · exact sameRequest_of_mem_keeps hlater
  · rcases List.mem_pair.mp hrecord with heq | heq
    · rw [Kept.operation.inj heq]
      exact ⟨rfl, rfl, rfl, rfl, rfl⟩
    · rw [Kept.operation.inj heq]
      exact ⟨rfl, rfl, rfl, rfl, rfl⟩

/-- The request that is made of such a record. -/
theorem replayRequest_eq (h : SameRequest record (queueAppleOperation s descriptor request)) :
    replayRequest record = storedRequest request := by
  rw [replayRequest, h.platform, h.toolId, h.targetPath, h.requestOptions]
  rfl

end Records

/-! ## The command, again -/

/-- The command that a record is run again with. -/
def rerunCommand (descriptor : GovernanceToolDescriptor) (record : AppleOperationRecord)
    (host : AppleRemoteHost) : Except Refusal TimedCommand :=
  buildAppleOperationalCommand descriptor record.platform host
    (choices (replayRequest record) host)

/-- No credential is given. -/
def GovernanceToolRequest.NoSecrets (request : GovernanceToolRequest) : Prop :=
  ∀ option ∈ request.options, option.1 ∈ secretKeys → trimCopy option.2 = []

/-- The command takes the credentials of the request. -/
def TakesAppleId (descriptor : GovernanceToolDescriptor) (request : GovernanceToolRequest)
    (host : AppleRemoteHost) : Prop :=
  descriptor.toolId = "forsetti.macos.notarize" ∧ (choices request host).keychainProfile = []

/-- The arguments without those that are credentials. -/
def withoutCredentials : List Bytes → List Bytes
  | flag :: value :: arguments =>
    if (words ["--apple-id", "--password", "--team-id", "--keychain-profile"]).contains flag then
      withoutCredentials arguments
    else flag :: withoutCredentials (value :: arguments)
  | arguments => arguments

structure SameButCredentials (command command' : TimedCommand) : Prop where
  executable : command.executable = command'.executable
  arguments : withoutCredentials command.arguments = withoutCredentials command'.arguments
  workingDirectory : command.workingDirectory = command'.workingDirectory
  timeoutSeconds : command.timeoutSeconds = command'.timeoutSeconds

/-- The record can be run again as the request was run on the host: without credentials exactly
so, and with some, the same but for them; only where the command took them is there none. -/
structure RerunFaithful (tools : List GovernanceToolDescriptor)
    (descriptor : GovernanceToolDescriptor) (request : GovernanceToolRequest)
    (host : AppleRemoteHost) (record : AppleOperationRecord) (command : TimedCommand) : Prop where
  same : request.NoSecrets → rerunCommand descriptor record host = .ok command
  ready : request.NoSecrets → record.Finished → ∀ hosts, resolveReplayHost hosts record = some host →
    host.enabled = true → supportsPlatform host record.platform = true →
    (assessAppleOperationReplay tools hosts record).ready = true
  secrets : ∀ again, rerunCommand descriptor record host = .ok again →
    SameButCredentials command again
  possible : ¬ TakesAppleId descriptor request host →
    ∃ again, rerunCommand descriptor record host = .ok again

section Builder

variable {descriptor : GovernanceToolDescriptor} {platform : PlatformTarget}
  {host : AppleRemoteHost} {c : Choices} {staplePath : Bytes}

/-- Only a notarization without a profile needs the credentials, and only a staple its path. -/
theorem build_eq
    (hnotarize : descriptor.toolId = "forsetti.macos.notarize" → c.keychainProfile ≠ [])
    (hstaple : descriptor.toolId = "forsetti.macos.staple" → staplePath = c.staplePath) :
    buildAppleOperationalCommand descriptor platform host
        { c with staplePath, appleId := [], appleIdPassword := [] } =
      buildAppleOperationalCommand descriptor platform host c := by
  rw [buildAppleOperationalCommand, buildAppleOperationalCommand]
  split_ifs with _ _ hnotarizes hstaples
  · rfl
  · rfl
  · rw [notarizeCommand, notarizeCommand]
    dsimp only
    rw [if_pos (hnotarize hnotarizes), if_pos (hnotarize hnotarizes)]
    rfl
  · rw [hstaple hstaples]
    rfl
  · rfl
  · rfl
  · rfl

theorem build_staple_of_nil (htool : descriptor.toolId = "forsetti.macos.staple")
    (hpath : c.staplePath = []) (command : TimedCommand) :
    buildAppleOperationalCommand descriptor platform host c ≠ .ok command := by
  rw [buildAppleOperationalCommand, htool, if_neg (by decide), if_neg (by decide),
    if_neg (by decide), if_pos rfl, stapleCommand, if_pos hpath, refuse]
  intro h
  cases h

theorem build_notarize_of_nil (htool : descriptor.toolId = "forsetti.macos.notarize")
    (hprofile : c.keychainProfile = []) (hid : c.appleId = []) (command : TimedCommand) :
    buildAppleOperationalCommand descriptor platform host c ≠ .ok command := by
  rw [buildAppleOperationalCommand, htool, if_neg (by decide), if_neg (by decide), if_pos rfl,
    notarizeCommand, if_neg (not_not_intro hprofile), hid]
  split_ifs with _ hgiven
  · intro h
    cases h
  · intro h
    cases h
  · exact absurd rfl hgiven

end Builder

section Rerun

variable {request : GovernanceToolRequest} {record : AppleOperationRecord} {s : Surroundings}
  {descriptor : GovernanceToolDescriptor} {host : AppleRemoteHost} {command : TimedCommand}

/-- Names behind those that give something do not count. -/
theorem optionValue_append_of_ne {keys : List String} (h : optionValue request keys ≠ [])
    (more : List String) : optionValue request (keys ++ more) = optionValue request keys := by
  rw [optionValue] at h
  rw [optionValue, optionValue, List.findSome?_append]
  cases hfound : keys.findSome? fun key =>
      ((request.options.lookup key).map trimCopy).filter (· ≠ []) with
  | none =>
    rw [hfound] at h
    exact absurd rfl h
  | some value => rfl

theorem appleId_of_noSecrets (h : request.NoSecrets) : (choices request host).appleId = [] := by
  refine (optionValue_eq_nil_iff_forall request _).mpr fun key hkey => ?_
  cases hlookup : request.options.lookup key with
  | none => rfl
  | some value =>
    have hmem : (key, value) ∈ request.options := by
      obtain ⟨front, rest, heq, -⟩ := List.lookup_eq_some_iff.mp hlookup
      rw [heq]
      exact List.mem_append_right _ List.mem_cons_self
    have hsecret : key ∈ secretKeys := by
      have hall : ∀ key ∈ ["appleId", "notaryAppleId"], key ∈ secretKeys := by decide
      exact hall key hkey
    rw [Option.map_some, h _ hmem hsecret]
    rfl

/-- What the record of a request is run again with. -/
theorem rerunCommand_eq (hoptions : (request.options.map Prod.fst).Nodup)
    (hrecord : SameRequest record (queueAppleOperation s descriptor request)) :
    rerunCommand descriptor record host =
      buildAppleOperationalCommand descriptor request.platform host
        { choices request host with
          staplePath := optionValue request ["artifactPath", "bundlePath", "staplePath"]
          appleId := []
          appleIdPassword := [] } := by
  rw [rerunCommand, hrecord.platform, replayRequest_eq hrecord, choices_storedRequest hoptions]
  rfl

/-- The path of a staple, if it is not the last name that gives it. -/
theorem staplePath_eq
    (h : optionValue request ["artifactPath", "bundlePath", "staplePath"] ≠ []) :
    optionValue request ["artifactPath", "bundlePath", "staplePath"] =
      (choices request host).staplePath :=
  (optionValue_append_of_ne h ["targetPath"]).symm

end Rerun

/-- **A recorded operation can be run again as it was run** if and only if it is no staple whose
path is given under `targetPath` alone. -/
theorem rerun_faithful_iff {notice : QueueNotice} {s : Surroundings} {fate : Fate}
    {request : GovernanceToolRequest} {descriptor : GovernanceToolDescriptor}
    {host : AppleRemoteHost} {record : AppleOperationRecord} {command : TimedCommand}
    (htool : (s.tools.find? fun tool =>
      tool.platform = request.platform && tool.toolId = request.toolId) = some descriptor)
    (hremote : descriptor.requiresRemoteToolchain = true)
    (hqueued : queuedToolIds.contains descriptor.toolId = true)
    (hoptions : (request.options.map Prod.fst).Nodup)
    (hcommand : buildAppleOperationalCommand descriptor request.platform host
      (choices request host) = .ok command)
    (hkept : .operation record ∈ (execute notice s fate request).1) :
    RerunFaithful s.tools descriptor request host record command ↔
      (request.toolId = "forsetti.macos.staple" →
        optionValue request ["artifactPath", "bundlePath", "staplePath"] ≠ []) := by
  have hrecord := sameRequest_of_mem_execute htool hremote hqueued hkept
  have hrerun : rerunCommand descriptor record host = _ := rerunCommand_eq hoptions hrecord
  have hname : descriptor.toolId = request.toolId := by
    have hfound := List.find?_some htool
    rw [Bool.and_eq_true] at hfound
    exact of_decide_eq_true hfound.2
  constructor
  · intro hfaithful hstaple hpath
    have hno : ¬ TakesAppleId descriptor request host := by
      rintro ⟨hnotarize, -⟩
      rw [hname, hstaple] at hnotarize
      exact absurd hnotarize (by decide)
    obtain ⟨again, hagain⟩ := hfaithful.possible hno
    rw [hrerun] at hagain
    exact build_staple_of_nil (hname.trans hstaple) hpath again hagain
  · intro hpath
    -- where the credentials are not taken, the command is the same
    have hsame : ¬ TakesAppleId descriptor request host →
        rerunCommand descriptor record host = .ok command := by
      intro hno
      rw [hrerun, ← hcommand]
      exact build_eq (fun hnotarize hprofile => hno ⟨hnotarize, hprofile⟩)
        fun hstaple => staplePath_eq (hpath (hname.symm.trans hstaple))
    have hnone : request.NoSecrets → ¬ TakesAppleId descriptor request host :=
      fun hsecrets htakes => build_notarize_of_nil htakes.1 htakes.2
        (appleId_of_noSecrets hsecrets) command hcommand
    refine ⟨fun hsecrets => hsame (hnone hsecrets), ?_, ?_, fun hno => ⟨command, hsame hno⟩⟩
    · intro hsecrets hfinished hosts hhost henabled hsupports
      have hregistered : (s.tools.find? fun tool =>
          tool.platform = record.platform && tool.toolId = record.toolId) = some descriptor := by
        rw [hrecord.platform, hrecord.toolId]
        exact htool
      have hagain := hsame (hnone hsecrets)
      rw [rerunCommand] at hagain
      rw [assessAppleOperationReplay, if_neg (not_not_intro hfinished), hregistered]
      simp only [hhost, henabled, hsupports, hagain, Bool.not_true, Bool.false_eq_true, if_false]
      split <;> rfl
    · intro again hagain
      by_cases htakes : TakesAppleId descriptor request host
      · rw [hrerun] at hagain
        refine absurd hagain (build_notarize_of_nil htakes.1 ?_ ?_ again)
        · exact htakes.2
        · rfl
      · rw [hsame htakes] at hagain
        obtain rfl := Except.ok.inj hagain
        exact ⟨rfl, rfl, rfl, rfl⟩

/-! ### A staple by target path -/

/-- A staple whose path is given under one name. -/
def staple (name : String) : GovernanceToolRequest where
  platform := .macOS
  toolId := "forsetti.macos.staple"
  targetPath := []
  options := [(name, asciiBytes "Build/App.app")]

def stapleDescriptor : GovernanceToolDescriptor :=
  ⟨.macOS, "forsetti.macos.staple", asciiBytes "Staple", true⟩

def stapleSurroundings : Surroundings :=
  { submissionSurroundings with tools := [stapleDescriptor] }

def stapleHost : AppleRemoteHost :=
  { hostId := asciiBytes "mac", platforms := [.macOS], transport := .ssh }

/-- The command of both. -/
def stapled : TimedCommand where
  executable := asciiBytes "xcrun"
  arguments := [asciiBytes "stapler", asciiBytes "staple", asciiBytes "Build/App.app"]
  workingDirectory := asciiBytes "."
  timeoutSeconds := 1800

theorem rerun_faithful_staplePath :
    RerunFaithful stapleSurroundings.tools stapleDescriptor (staple "staplePath") stapleHost
      (queueAppleOperation stapleSurroundings stapleDescriptor (staple "staplePath")) stapled := by
  have hkept : .operation
      (queueAppleOperation stapleSurroundings stapleDescriptor (staple "staplePath")) ∈
      (execute (fun _ _ _ => []) stapleSurroundings (.canceled []) (staple "staplePath")).1 :=
    List.mem_cons_self
  refine (rerun_faithful_iff rfl rfl (by decide) (by decide) rfl hkept).mpr fun _ => ?_
  decide

/-- The path is read, but not kept. -/
theorem staple_by_targetPath_not_rerun :
    buildAppleOperationalCommand stapleDescriptor .macOS stapleHost
        (choices (staple "targetPath") stapleHost) = .ok stapled ∧
      ¬ RerunFaithful stapleSurroundings.tools stapleDescriptor (staple "targetPath") stapleHost
        (queueAppleOperation stapleSurroundings stapleDescriptor (staple "targetPath"))
        stapled := by
  refine ⟨rfl, fun hfaithful => ?_⟩
  have hsecrets : (staple "targetPath").NoSecrets := by
    intro option hoption hsecret
    rw [List.mem_singleton.mp hoption] at hsecret
    exact absurd hsecret (by decide)
  cases hfaithful.same hsecrets

end Redaction
end Apple
end MasterControl
