import MasterControl.Apple.Operations
import MasterControl.Apple.RemoteShell
import MasterControl.Foundation.Uri

/-!
# Requests of Apple governance tools

A request names a tool and carries options, some of which are credentials.  What is kept of the
options, the summaries for an operator and the remote command are each made of the request anew,
every one by a list of names that it looks up (`optionValue`).

`buildAppleOperationalCommand` looks up all options first (`Choices`).
-/

namespace MasterControl
namespace Apple
namespace Redaction

open Foundation

/-! ## Records -/

structure GovernanceToolDescriptor where
  platform : PlatformTarget
  toolId : String
  displayName : Bytes
  requiresRemoteToolchain : Bool

structure GovernanceToolRequest where
  platform : PlatformTarget
  toolId : String
  targetPath : Bytes
  /-- In the order of their names. -/
  options : List (String × Bytes)

structure GovernanceFinding where
  ruleId : Bytes
  title : Bytes
  severity : Bytes
  status : Bytes
  message : Bytes

structure GovernanceToolResult where
  platform : PlatformTarget
  toolId : String
  displayName : Bytes := []
  status : GovernanceToolStatus := .failed
  succeeded : Bool := false
  summary : Bytes := []
  findings : List GovernanceFinding := []
  rawOutput : Bytes := []
  startedAtUtc : Bytes := []
  completedAtUtc : Bytes := []
  routeReason : Bytes := []
  diagnosticSummary : Bytes := []
  readinessIssues : List Bytes := []

/-- What the status and the message of an operation are taken from. -/
def GovernanceToolResult.brief (result : GovernanceToolResult) : Apple.GovernanceToolResult where
  status := result.status
  succeeded := result.succeeded
  summary := result.summary
  startedAtUtc := result.startedAtUtc
  completedAtUtc := result.completedAtUtc
  finding := result.findings.head?.map GovernanceFinding.message

/-- The whole record of an operation. -/
structure AppleOperationRecord extends Apple.AppleOperationRecord where
  platform : PlatformTarget
  toolId : String
  hostId : Bytes := []
  hostDisplayName : Bytes := []
  transport : AppleRemoteTransport := .unknown
  workingDirectory : Bytes := []
  artifactPath : Bytes := []
  targetPath : Bytes := []
  rawOutput : Bytes := []
  requestOptions : List (String × Bytes) := []
  routeReason : Bytes := []
  diagnosticSummary : Bytes := []
  selectedDeveloperDirectory : Bytes := []
  credentialProfileSummary : Bytes := []
  readinessIssues : List Bytes := []
  redactedRequestOptionKeys : List String := []

/-! ## Options -/

/-- The first of the options that is there and not blank. -/
def optionValue (request : GovernanceToolRequest) (keys : List String) : Bytes :=
  (keys.findSome? fun key =>
    ((request.options.lookup key).map trimCopy).filter (· ≠ [])).getD []

def allowedKeys : List String :=
  ["workspace", "project", "xcodeproj", "scheme", "configuration", "destination", "sdk",
   "archivePath", "exportPath", "outputPath", "outputDirectory", "exportOptionsPlist",
   "exportOptionsPlistPath", "deviceId", "device", "deviceIdentifier", "appPath",
   "applicationPath", "bundlePath", "targetBundlePath", "signingIdentity", "identity",
   "entitlementsPath", "artifactPath", "submissionPath", "packagePath", "staplePath",
   "keychainProfile", "notaryKeychainProfile", "teamId", "notaryTeamId", "timeoutSeconds",
   "force", "deep", "timestamp", "hardenedRuntime", "runtime", "remoteWorkingDirectory",
   "workingDirectory", "targetRoot"]

def secretKeys : List String :=
  ["appleId", "notaryAppleId", "password", "appleIdPassword", "appSpecificPassword",
   "notaryPassword"]

structure SanitizedAppleRequestOptions where
  persistedOptions : List (String × Bytes)
  redactedKeys : List String

def sanitizeAppleRequestOptions (request : GovernanceToolRequest) :
    SanitizedAppleRequestOptions :=
  let supplied := request.options.filter fun option => trimCopy option.2 ≠ []
  { persistedOptions := supplied.filterMap fun option =>
      if secretKeys.contains option.1 || !allowedKeys.contains option.1 then none
      else some (option.1, trimCopy option.2)
    redactedKeys :=
      (((supplied.filter fun option => secretKeys.contains option.1).map Prod.fst).mergeSort
        fun a b => decide (a ≤ b)).eraseReps }

/-- The options that may name what a tool makes. -/
def artifactKeys (toolId : String) : List String :=
  if toolId = "forsetti.ios.export" then
    ["exportPath", "outputPath", "outputDirectory", "artifactPath", "archivePath"]
  else if toolId = "forsetti.ios.device.install" then
    ["appPath", "applicationPath", "bundlePath", "artifactPath"]
  else if toolId = "forsetti.macos.sign" then
    ["bundlePath", "appPath", "targetBundlePath", "artifactPath"]
  else if toolId = "forsetti.macos.notarize" || toolId = "forsetti.macos.staple" then
    ["artifactPath", "bundlePath", "staplePath", "targetPath"]
  else if toolId = "forsetti.macos.archive" || toolId = "forsetti.ios.archive" then
    ["archivePath", "artifactPath"]
  else
    ["artifactPath", "bundlePath", "appPath", "archivePath", "exportPath", "outputPath",
     "outputDirectory"]

def findAppleArtifactPath (descriptor : GovernanceToolDescriptor)
    (request : GovernanceToolRequest) : Bytes :=
  optionValue request (artifactKeys descriptor.toolId)

def resolveAppleWorkingDirectory (request : GovernanceToolRequest) : Bytes :=
  let workingDirectory := optionValue request ["remoteWorkingDirectory", "workingDirectory"]
  if workingDirectory ≠ [] then workingDirectory
  else if trimCopy request.targetPath ≠ [] then request.targetPath
  else
    let targetRoot := optionValue request ["targetRoot"]
    if targetRoot ≠ [] then targetRoot else asciiBytes "."

/-- `resolveTargetRoot`; `none` is the directory of the process. -/
def resolveTargetRoot (request : GovernanceToolRequest) : Option Bytes :=
  if trimCopy request.targetPath ≠ [] then some request.targetPath
  else (request.options.lookup "targetRoot").filter fun value => trimCopy value ≠ []

/-! ## Summaries -/

def platformKey : PlatformTarget → Bytes
  | .windows => asciiBytes "windows"
  | .macOS => asciiBytes "macos"
  | .iOS => asciiBytes "ios"
  | .unknown => asciiBytes "unknown"

def transportText : AppleRemoteTransport → Bytes
  | .unknown => asciiBytes "unknown"
  | .ssh => asciiBytes "ssh"
  | .companionService => asciiBytes "companion_service"

def buildAppleRouteReason (request : GovernanceToolRequest) (host : AppleRemoteHost)
    (preferredHostId : Bytes) : Bytes :=
  if trimCopy preferredHostId ≠ [] then
    asciiBytes "Requested Apple host '" ++ preferredHostId ++ asciiBytes "' was used for the " ++
      platformKey request.platform ++ asciiBytes " governance lane."
  else
    asciiBytes "CLU selected Apple host '" ++ host.displayName ++
      asciiBytes "' as the best eligible " ++ platformKey request.platform ++ asciiBytes " route."

def buildAppleDiagnosticSummary (host : AppleRemoteHost) (platform : PlatformTarget) : Bytes :=
  let either (ready : Bool) (yes no : String) : Bytes := asciiBytes (if ready then yes else no)
  let transport := if trimCopy host.transportSummary ≠ [] then [host.transportSummary] else []
  let xcode :=
    if trimCopy host.toolchain.xcodeVersion ≠ [] then
      asciiBytes "Xcode " ++ host.toolchain.xcodeVersion
    else either host.toolchain.xcodeInstalled "Xcode available" "Xcode unavailable"
  let developer :=
    if trimCopy host.toolchain.developerDirectory ≠ [] then
      [asciiBytes "Developer dir " ++ host.toolchain.developerDirectory]
    else []
  let lane :=
    match platform with
    | .macOS =>
      [either host.toolchain.macosSdkAvailable "macOS SDK ready" "macOS SDK missing"]
    | .iOS =>
      [either host.toolchain.iosSdkAvailable "iOS SDK ready" "iOS SDK missing",
       either host.signing.signingReady "Signing ready" "Signing unavailable",
       either (host.toolchain.simulatorControlAvailable || host.toolchain.deviceControlAvailable)
         "Runtime control available" "Runtime control unavailable"]
    | .windows | .unknown => []
  let issues :=
    if host.readinessIssues ≠ [] then
      [asciiBytes "Open issues: " ++ joinSummaryParts host.readinessIssues (asciiBytes "; ")]
    else []
  joinSummaryParts (transport ++ [xcode] ++ developer ++ lane ++ issues) (asciiBytes "; ")

/-- The parts of a tool's credentials. -/
def credentialParts (descriptor : GovernanceToolDescriptor) (request : GovernanceToolRequest)
    (host : AppleRemoteHost) (redactedKeys : List String) : List Bytes :=
  let chosen (explicit : Bytes) (configured : Bytes) (subject : String) : List Bytes :=
    if explicit ≠ [] then [asciiBytes ("Explicit " ++ subject ++ ": ") ++ explicit]
    else if trimCopy configured ≠ [] then [asciiBytes ("Host " ++ subject ++ ": ") ++ configured]
    else []
  if descriptor.toolId = "forsetti.macos.sign" then
    let parts := chosen (optionValue request ["signingIdentity", "identity"])
      host.defaultSigningIdentity "signing identity"
    if parts = [] then [asciiBytes "No signing identity is configured."] else parts
  else if descriptor.toolId = "forsetti.macos.notarize" then
    let parts :=
      chosen (optionValue request ["keychainProfile", "notaryKeychainProfile"])
          host.defaultNotaryKeychainProfile "notary profile" ++
        chosen (optionValue request ["teamId", "notaryTeamId"]) host.defaultNotaryTeamId "team ID"
    if redactedKeys ≠ [] then
      parts ++
        [asciiBytes "Apple ID credentials were supplied and redacted from persisted history."]
    else if parts = [] then
      [asciiBytes "No notarization credential profile is configured."]
    else parts
  else []

def buildAppleOperationCredentialProfileSummary (descriptor : GovernanceToolDescriptor)
    (request : GovernanceToolRequest) (host : AppleRemoteHost) (redactedKeys : List String) :
    Bytes :=
  let parts := credentialParts descriptor request host redactedKeys
  if parts = [] then host.credentialProfileSummary else joinSummaryParts parts (asciiBytes "; ")

/-! ## The remote command -/

/-- A command with its time limit. -/
structure TimedCommand extends AppleRemoteCommandRequest where
  timeoutSeconds : ℤ := 1800

/-- The options of a request and the defaults of the host, as the command is made of them. -/
structure Choices where
  workingDirectory : Bytes
  workspace : Bytes
  project : Bytes
  scheme : Bytes
  configuration : Bytes
  destination : Bytes
  sdk : Bytes
  archivePath : Bytes
  exportPath : Bytes
  exportOptionsPlist : Bytes
  deviceId : Bytes
  appPath : Bytes
  bundlePath : Bytes
  signingIdentity : Bytes
  entitlementsPath : Bytes
  notarizationArtifactPath : Bytes
  staplePath : Bytes
  keychainProfile : Bytes
  appleId : Bytes
  appleIdPassword : Bytes
  teamId : Bytes
  timeoutText : Bytes
  force : Bytes
  deep : Bytes
  timestamp : Bytes
  hardenedRuntime : Bytes

def choices (request : GovernanceToolRequest) (host : AppleRemoteHost) : Choices :=
  let option := optionValue request
  let orDefault (keys : List String) (default : Bytes) : Bytes :=
    if option keys = [] then default else option keys
  { workingDirectory := resolveAppleWorkingDirectory request
    workspace := option ["workspace"]
    project := option ["project", "xcodeproj"]
    scheme := option ["scheme"]
    configuration := option ["configuration"]
    destination := option ["destination"]
    sdk := option ["sdk"]
    archivePath := option ["archivePath"]
    exportPath := option ["exportPath", "outputPath", "outputDirectory"]
    exportOptionsPlist := option ["exportOptionsPlist", "exportOptionsPlistPath"]
    deviceId := option ["deviceId", "device", "deviceIdentifier"]
    appPath := option ["appPath", "applicationPath", "bundlePath"]
    bundlePath := option ["bundlePath", "appPath", "targetBundlePath"]
    signingIdentity := orDefault ["signingIdentity", "identity"] host.defaultSigningIdentity
    entitlementsPath := option ["entitlementsPath"]
    notarizationArtifactPath :=
      option ["artifactPath", "submissionPath", "packagePath", "bundlePath"]
    staplePath := option ["artifactPath", "bundlePath", "staplePath", "targetPath"]
    keychainProfile :=
      orDefault ["keychainProfile", "notaryKeychainProfile"] host.defaultNotaryKeychainProfile
    appleId := option ["appleId", "notaryAppleId"]
    appleIdPassword :=
      option ["appSpecificPassword", "appleIdPassword", "notaryPassword", "password"]
    teamId := orDefault ["teamId", "notaryTeamId"] host.defaultNotaryTeamId
    timeoutText := option ["timeoutSeconds"]
    force := option ["force"]
    deep := option ["deep"]
    timestamp := option ["timestamp"]
    hardenedRuntime := option ["hardenedRuntime", "runtime"] }

/-- Why there is no command: the summary, and the message of the finding.  `none` is the end of
the function, which says nothing. -/
abbrev Refusal := Option (Bytes × Bytes)

def refuse (summary message : String) : Except Refusal TimedCommand :=
  .error (some (asciiBytes summary, asciiBytes message))

/-- The time limit that is asked for, one minute at least. -/
def Choices.timeoutSeconds (c : Choices) : ℤ :=
  if c.timeoutText = [] then 1800 else ((stoi c.timeoutText).map (max 60)).getD 1800

/-- An option that is on unless it says otherwise. -/
def isOn (value : Bytes) : Bool :=
  value = [] || !(["0", "false", "no", "off"].any fun off => lowerBytes value = asciiBytes off)

def remotePathJoin (left right : Bytes) : Bytes :=
  if left = [] then right
  else if right = [] then left
  else if left.getLast? = some 47 || left.getLast? = some 92 then left ++ right
  else left ++ 47 :: right

def Choices.command (c : Choices) (executable : String) (arguments : List Bytes) (atLeast : ℤ) :
    TimedCommand where
  executable := asciiBytes executable
  arguments := arguments
  workingDirectory := c.workingDirectory
  timeoutSeconds := max c.timeoutSeconds atLeast

def words (texts : List String) : List Bytes := texts.map asciiBytes

def signCommand (host : AppleRemoteHost) (c : Choices) : Except Refusal TimedCommand :=
  if !host.signing.distributionSigningReady then
    refuse "macOS signing requires distribution signing readiness on the selected Apple host."
      "The selected Apple host does not report distribution code-signing readiness."
  else if c.bundlePath = [] then
    refuse "macOS signing requires a bundlePath option."
      "Provide request.options.bundlePath before invoking macOS signing."
  else if c.signingIdentity = [] then
    refuse "macOS signing requires a signingIdentity option."
      "Provide request.options.signingIdentity before invoking macOS signing."
  else
    .ok (c.command "codesign"
      ((if isOn c.force then words ["--force"] else []) ++
        (if isOn c.deep then words ["--deep"] else []) ++
        (if isOn c.timestamp then words ["--timestamp"] else []) ++
        (if isOn c.hardenedRuntime then words ["--options", "runtime"] else []) ++
        (if c.entitlementsPath ≠ [] then [asciiBytes "--entitlements", c.entitlementsPath]
          else []) ++
        [asciiBytes "--sign", c.signingIdentity, c.bundlePath]) 600)

def notarizeCommand (c : Choices) : Except Refusal TimedCommand :=
  let submit := words ["notarytool", "submit"] ++ [c.notarizationArtifactPath, asciiBytes "--wait"]
  if c.notarizationArtifactPath = [] then
    refuse "macOS notarization requires an artifactPath option."
      "Provide request.options.artifactPath before invoking macOS notarization."
  else if c.keychainProfile ≠ [] then
    .ok (c.command "xcrun" (submit ++ [asciiBytes "--keychain-profile", c.keychainProfile]) 3600)
  else if c.appleId = [] || c.appleIdPassword = [] || c.teamId = [] then
    refuse "macOS notarization requires either keychainProfile or Apple ID credentials."
      ("Provide request.options.keychainProfile or the appleId, appSpecificPassword, and " ++
        "teamId options before invoking macOS notarization.")
  else
    .ok (c.command "xcrun"
      (submit ++ [asciiBytes "--apple-id", c.appleId, asciiBytes "--password", c.appleIdPassword,
        asciiBytes "--team-id", c.teamId]) 3600)

def stapleCommand (c : Choices) : Except Refusal TimedCommand :=
  if c.staplePath = [] then
    refuse "macOS stapling requires an artifactPath or bundlePath option."
      ("Provide request.options.artifactPath or request.options.bundlePath before invoking " ++
        "macOS stapling.")
  else .ok (c.command "xcrun" (words ["stapler", "staple"] ++ [c.staplePath]) 900)

def exportCommand (c : Choices) : Except Refusal TimedCommand :=
  if c.archivePath = [] then
    refuse "iOS archive export requires an archivePath option."
      "Provide request.options.archivePath before exporting an iOS archive."
  else if c.exportOptionsPlist = [] then
    refuse "iOS archive export requires an exportOptionsPlist option."
      ("Provide request.options.exportOptionsPlist with a remote ExportOptions.plist path " ++
        "before exporting an iOS archive.")
  else
    let exportPath :=
      if c.exportPath ≠ [] then c.exportPath
      else remotePathJoin (remotePathJoin c.workingDirectory (asciiBytes "build"))
        (asciiBytes "ios-export")
    .ok (c.command "xcodebuild"
      [asciiBytes "-exportArchive", asciiBytes "-archivePath", c.archivePath,
        asciiBytes "-exportPath", exportPath, asciiBytes "-exportOptionsPlist",
        c.exportOptionsPlist] 1200)

def installCommand (host : AppleRemoteHost) (c : Choices) : Except Refusal TimedCommand :=
  if !host.toolchain.deviceControlAvailable then
    refuse "iOS device install requires device control on the selected Apple host."
      "The selected Apple host does not report xcrun devicectl availability."
  else if c.deviceId = [] then
    refuse "iOS device install requires a deviceId option."
      "Provide request.options.deviceId before installing an app on a connected iOS device."
  else if c.appPath = [] then
    refuse "iOS device install requires an appPath option."
      ("Provide request.options.appPath with the remote .app bundle path before device " ++
        "installation.")
  else
    .ok (c.command "xcrun"
      (words ["devicectl", "device", "install", "app", "--device"] ++ [c.deviceId, c.appPath]) 600)

/-- `-workspace` or `-project`. -/
def projectSelection (c : Choices) : List Bytes :=
  if c.workspace ≠ [] then [asciiBytes "-workspace", c.workspace]
  else if c.project ≠ [] then [asciiBytes "-project", c.project]
  else []

/-- An `xcodebuild` option, or its value for some of the tools. -/
def buildOption (name : String) (value : Bytes) (fallback : Option String) : List Bytes :=
  if value ≠ [] then [asciiBytes name, value]
  else
    match fallback with
    | some text => words [name, text]
    | none => []

def xcodebuildCommand (toolId : String) (platform : PlatformTarget) (host : AppleRemoteHost)
    (c : Choices) : Except Refusal TimedCommand :=
  let archives := toolId = "forsetti.macos.archive" || toolId = "forsetti.ios.archive"
  let iosArchive := platform = .iOS && toolId = "forsetti.ios.archive"
  let destination :=
    if platform = .iOS && toolId = "forsetti.ios.build" && host.toolchain.simulatorControlAvailable
    then some "generic/platform=iOS Simulator"
    else if iosArchive then some "generic/platform=iOS"
    else none
  let arguments :=
    projectSelection c ++ [asciiBytes "-scheme", c.scheme] ++
      buildOption "-configuration" c.configuration (some (if archives then "Release" else "Debug"))
        ++
      buildOption "-sdk" c.sdk (if iosArchive then some "iphoneos" else none) ++
      buildOption "-destination" c.destination destination
  let command (more : List Bytes) : TimedCommand := c.command "xcodebuild" (arguments ++ more) 60
  if c.scheme = [] then
    refuse "Apple build governance tools require a scheme option."
      "Provide request.options.scheme before invoking this Apple governance tool."
  else if toolId = "forsetti.macos.build" || toolId = "forsetti.ios.build" then
    .ok (command (words ["build"]))
  else if toolId = "forsetti.macos.test" || toolId = "forsetti.ios.test" then
    if platform = .iOS && c.destination = [] then
      refuse "iOS test governance requires a destination option."
        "Provide request.options.destination for remote iOS test execution."
    else .ok (command (words ["test"]))
  else if archives then
    let archivePath :=
      if c.archivePath ≠ [] then c.archivePath
      else remotePathJoin (remotePathJoin c.workingDirectory (asciiBytes "build"))
        (c.scheme ++ asciiBytes ".xcarchive")
    .ok (command [asciiBytes "-archivePath", archivePath, asciiBytes "archive"])
  else .error none

def simulatorListCommand (c : Choices) : TimedCommand where
  executable := asciiBytes "xcrun"
  arguments := words ["simctl", "list", "devices", "available", "--json"]
  workingDirectory := c.workingDirectory
  timeoutSeconds := 120

/-- `buildAppleOperationalCommand`. -/
def buildAppleOperationalCommand (descriptor : GovernanceToolDescriptor)
    (platform : PlatformTarget) (host : AppleRemoteHost) (c : Choices) :
    Except Refusal TimedCommand :=
  if descriptor.toolId = "forsetti.ios.simulator.list" then .ok (simulatorListCommand c)
  else if descriptor.toolId = "forsetti.macos.sign" then signCommand host c
  else if descriptor.toolId = "forsetti.macos.notarize" then notarizeCommand c
  else if descriptor.toolId = "forsetti.macos.staple" then stapleCommand c
  else if descriptor.toolId = "forsetti.ios.export" then exportCommand c
  else if descriptor.toolId = "forsetti.ios.device.install" then installCommand host c
  else xcodebuildCommand descriptor.toolId platform host c

/-! ## Execution -/

/-- What a tool finds around it: the registry, the clock, the hosts and the scripts. -/
structure Surroundings where
  tools : List GovernanceToolDescriptor
  operationId : OperationId
  startedAtUtc : Bytes
  queuedAtUtc : Bytes
  runningAtUtc : Bytes
  completedAtUtc : Bytes
  /-- The queue is not shutting down. -/
  accepting : Bool
  /-- There is a service for Apple hosts. -/
  serviceAvailable : Bool
  inspectHost : Bytes → Option AppleRemoteHost
  selectHostForPlatform : PlatformTarget → Option AppleRemoteHost
  /-- A host as JSON; the text of the exception if it cannot be written. -/
  dumpHost : AppleRemoteHost → Except Bytes Bytes
  /-- What the scripts and files below a directory make of a result, and an exception. -/
  windowsTool : GovernanceToolDescriptor → Option Bytes → GovernanceToolResult →
    GovernanceToolResult × Option Bytes
  /-- `executeCommand`, by the id of the host. -/
  remote : Bytes → TimedCommand → Except Bytes AppleRemoteCommandResult

/-- A result, the record of its operation, and the records written so far. -/
structure Progress where
  result : GovernanceToolResult
  record : AppleOperationRecord
  written : List AppleOperationRecord := []

def makeFinding (ruleId title : Bytes) (severity status : String) (message : Bytes) :
    GovernanceFinding :=
  ⟨ruleId, title, asciiBytes severity, asciiBytes status, message⟩

/-- A finding of the tool itself. -/
def GovernanceToolResult.find (result : GovernanceToolResult)
    (descriptor : GovernanceToolDescriptor) (severity status : String) (message : Bytes) :
    GovernanceToolResult :=
  { result with
    findings := result.findings ++
      [makeFinding (utf8 descriptor.toolId) descriptor.displayName severity status message] }

def Progress.persist (p : Progress) : Progress := { p with written := p.written ++ [p.record] }

/-- What keeps a tool from its host goes into the result and the record. -/
def Progress.obstructed (p : Progress) (obstacle : Obstacle) (ruleId title errorMessage routeReason
    diagnosticSummary : Bytes) : Progress :=
  let brief := obstacle.result
  { p with
    result :=
      { p.result with
        status := brief.status
        summary := brief.summary
        routeReason
        diagnosticSummary
        findings := p.result.findings ++
          [makeFinding ruleId title "high" "blocked" (brief.finding.getD [])] }
    record :=
      { p.record with
        toAppleOperationRecord :=
          { p.record.toAppleOperationRecord with summary := brief.summary, errorMessage }
        routeReason
        diagnosticSummary } }

def Progress.withoutService (p : Progress) (descriptor : GovernanceToolDescriptor) : Progress :=
  p.obstructed .serviceUnavailable (utf8 descriptor.toolId) descriptor.displayName
    (asciiBytes "Apple remote host service is unavailable.")
    (asciiBytes "The Apple governance lane could not reach the CLU Apple host registry.")
    (asciiBytes "The Forsetti Apple remote host service is unavailable in the runtime.")

def Progress.withoutHost (p : Progress) (descriptor : GovernanceToolDescriptor)
    (platform : PlatformTarget) (preferredHostId : Bytes) : Progress :=
  if preferredHostId = [] then
    p.obstructed (.noHost (platformKey platform)) (asciiBytes "governance.remote-toolchain")
      descriptor.displayName (asciiBytes "No eligible Apple host is configured.")
      (asciiBytes "CLU could not find an enabled Apple host for automatic " ++
        platformKey platform ++ asciiBytes " routing.")
      (asciiBytes ("Register or enable an Apple host with ssh or companion_service transport " ++
        "for this platform lane."))
  else
    p.obstructed (.preferredHostUnavailable preferredHostId)
      (asciiBytes "governance.remote-toolchain") descriptor.displayName
      (asciiBytes "The requested Apple host is unavailable.")
      (asciiBytes "Requested Apple host '" ++ preferredHostId ++ asciiBytes "' was unavailable.")
      (asciiBytes "The requested Apple host could not be loaded from the CLU host registry.")

def Progress.withoutLane (p : Progress) (descriptor : GovernanceToolDescriptor)
    (platform : PlatformTarget) (host : AppleRemoteHost) : Progress :=
  p.obstructed (.platformNotSupported host.displayName (platformKey platform))
    (asciiBytes "governance.remote-toolchain") descriptor.displayName
    (asciiBytes "Selected host does not support the requested platform.")
    (asciiBytes "The selected Apple host does not publish the requested platform lane.")
    (if host.transportSummary = [] then
      asciiBytes "The selected Apple host does not advertise the requested platform."
    else host.transportSummary ++ asciiBytes " does not advertise the requested platform.")

/-- `markAppleOperationRunning`. -/
def AppleOperationRecord.running (record : AppleOperationRecord) (host : AppleRemoteHost)
    (nowUtc : Bytes) : AppleOperationRecord :=
  { record with
    toAppleOperationRecord := runningRecord host nowUtc record.toAppleOperationRecord
    hostId := host.hostId
    hostDisplayName := host.displayName
    transport := host.transport }

/-- The route is chosen: the summaries are made, and the record is written as running. -/
def Progress.routed (p : Progress) (s : Surroundings) (descriptor : GovernanceToolDescriptor)
    (request : GovernanceToolRequest) (preferredHostId : Bytes) (host : AppleRemoteHost) :
    Progress :=
  let routeReason := buildAppleRouteReason request host preferredHostId
  let credentialProfileSummary := buildAppleOperationCredentialProfileSummary descriptor request
    host p.record.redactedRequestOptionKeys
  let diagnosticSummary := joinSummaryParts
    [buildAppleDiagnosticSummary host request.platform, credentialProfileSummary]
    (asciiBytes "; ")
  let record : AppleOperationRecord :=
    { p.record with
      routeReason
      selectedDeveloperDirectory := trimCopy
        (if host.toolchain.developerDirectory = [] then host.preferredDeveloperDirectory
          else host.toolchain.developerDirectory)
      credentialProfileSummary
      readinessIssues := host.readinessIssues
      diagnosticSummary := joinSummaryParts [p.record.diagnosticSummary, diagnosticSummary]
        (asciiBytes "; ") }
  Progress.persist
    { p with
      result :=
        { p.result with routeReason, diagnosticSummary, readinessIssues := host.readinessIssues }
      record := record.running host s.runningAtUtc }

def readyForPlatform (host : AppleRemoteHost) (platform : PlatformTarget) : Bool :=
  host.toolchain.reachable && host.toolchain.xcodeInstalled &&
    ((platform = .macOS && host.toolchain.macosSdkAvailable) ||
      (platform = .iOS && host.toolchain.iosSdkAvailable && host.signing.signingReady &&
        (host.toolchain.simulatorControlAvailable || host.toolchain.deviceControlAvailable)))

/-- `'<name>' via <transport>.` -/
def hostAndTransport (host : AppleRemoteHost) (transport : AppleRemoteTransport) : Bytes :=
  asciiBytes "'" ++ host.displayName ++ asciiBytes "' via " ++ transportText transport ++
    asciiBytes "."

/-- What the selected host is ready for. -/
def GovernanceToolResult.readiness (result : GovernanceToolResult)
    (descriptor : GovernanceToolDescriptor) (platform : PlatformTarget) (host : AppleRemoteHost)
    (dump : Bytes) : GovernanceToolResult :=
  let report (result : GovernanceToolResult) (good : Bool) (severity status : String)
      (yes no : Bytes) : GovernanceToolResult :=
    result.find descriptor (if good then "low" else severity) (if good then "pass" else status)
      (if good then yes else no)
  let ready := readyForPlatform host platform
  let sdk :=
    if platform = .macOS then
      asciiBytes (if host.toolchain.macosSdkAvailable then "macOS SDK routing is ready."
        else "The selected Apple host is missing the macOS SDK route.")
    else
      asciiBytes (if host.toolchain.iosSdkAvailable then "iOS SDK routing is available."
        else "The selected Apple host is missing the iOS SDK route.")
  let selected := asciiBytes "Selected Apple host " ++ hostAndTransport host host.transport
  let result := { result with rawOutput := dump }
  let result := report result host.toolchain.reachable "high" "blocked" selected selected
  let result := report result host.toolchain.xcodeInstalled "high" "blocked"
    (asciiBytes "Xcode is available on the selected Apple host.")
    (asciiBytes "Xcode is not available on the selected Apple host.")
  let result := report result ready "medium" "warning" sdk sdk
  if platform = .iOS then
    report result host.signing.signingReady "high" "blocked"
      (asciiBytes "iOS signing is ready on the selected Apple host.")
      (asciiBytes "iOS signing is not ready on the selected Apple host.")
  else result

def isAppleReplayValidationTool (toolId : String) : Bool :=
  ["forsetti.macos.toolchain.route", "forsetti.ios.signing.route",
    "forsetti.macos.remote-build.validate", "forsetti.ios.remote-build.validate"].contains toolId

def queuedToolIds : List String :=
  ["forsetti.macos.build", "forsetti.macos.test", "forsetti.macos.archive", "forsetti.macos.sign",
   "forsetti.macos.notarize", "forsetti.macos.staple", "forsetti.ios.simulator.list",
   "forsetti.ios.build", "forsetti.ios.test", "forsetti.ios.archive", "forsetti.ios.export",
   "forsetti.ios.device.install"]

def AppleOperationRecord.withError (record : AppleOperationRecord) (errorMessage : Bytes) :
    AppleOperationRecord :=
  { record with
    toAppleOperationRecord := { record.toAppleOperationRecord with errorMessage } }

/-- The tools that only look at the host. -/
def Progress.validated (p : Progress) (platform : PlatformTarget) (host : AppleRemoteHost) :
    Progress :=
  let ready := readyForPlatform host platform
  { p with
    result :=
      { p.result with
        succeeded := ready
        status := if ready then .passed else .warning
        summary :=
          if ready then
            asciiBytes "Governance routed to Apple host " ++ hostAndTransport host host.transport
          else
            asciiBytes "Apple host '" ++ host.displayName ++
              asciiBytes "' is configured, but not ready for " ++ platformKey platform ++
              asciiBytes " governance execution." }
    record :=
      if ready then p.record
      else p.record.withError
        (asciiBytes "The selected Apple host is not ready for the requested platform.") }

def Progress.refused (p : Progress) (descriptor : GovernanceToolDescriptor) (refusal : Refusal) :
    Progress :=
  let result : GovernanceToolResult :=
    match refusal with
    | some (summary, message) =>
      { p.result with status := .warning, summary }.find descriptor "high" "blocked" message
    | none => p.result
  let result := { result with succeeded := false }
  let result : GovernanceToolResult :=
    if result.summary = [] then
      { result with
        status := .warning
        summary := asciiBytes "Apple governance tool options are incomplete." }
    else result
  { p with
    result
    record :=
      { p.record with
        toAppleOperationRecord :=
          { p.record.toAppleOperationRecord with
            summary := result.summary
            errorMessage := result.summary } } }

/-- What the remote command gave. -/
def Progress.reported (p : Progress) (descriptor : GovernanceToolDescriptor)
    (host : AppleRemoteHost) (execution : AppleRemoteCommandResult) : Progress :=
  let on (text : String) : Bytes := asciiBytes text ++ host.displayName ++ asciiBytes "'."
  let listing := descriptor.toolId = "forsetti.ios.simulator.list"
  let result :=
    { p.result with
      rawOutput :=
        if execution.rawResponse ≠ [] then execution.rawResponse
        else if execution.stdoutText = [] then execution.stderrText
        else execution.stdoutText }
  let result := result.find descriptor (if execution.succeeded then "low" else "high")
    (if execution.succeeded then "pass" else "blocked")
    (asciiBytes "Remote execution used host " ++ hostAndTransport host execution.transport)
  let result :=
    { result with
      succeeded := execution.succeeded
      status := if execution.succeeded then .passed else .failed
      summary :=
        if listing then
          if execution.succeeded then on "Remote iOS simulator inventory retrieved from '"
          else on "Remote iOS simulator inventory failed on '"
        else if execution.succeeded then
          descriptor.displayName ++ on " completed on Apple host '"
        else descriptor.displayName ++ on " failed on Apple host '" }
  if execution.errorMessage = [] then { p with result }
  else
    { p with
      result :=
        if listing then result.find descriptor "medium" "warning" execution.errorMessage
        else result.find descriptor (if execution.succeeded then "low" else "high")
          (if execution.succeeded then "pass" else "blocked") execution.errorMessage
      record := p.record.withError execution.errorMessage }

def Progress.unfinished (p : Progress) (descriptor : GovernanceToolDescriptor) : Progress :=
  let result :=
    { p.result with
      succeeded := false
      status := .warning
      summary :=
        asciiBytes ("Apple remote governance readiness is configured, but platform-specific " ++
          "inspection for '") ++ utf8 descriptor.toolId ++
          asciiBytes "' will be completed in the next Apple execution slice." }
  { p with
    result := result.find descriptor "medium" "warning"
      (asciiBytes ("Remote host selection is now real, but this specific Apple governance tool " ++
        "still needs a dedicated inspection handler.")) }

/-- The command is made and executed. -/
def runCommand (s : Surroundings) (descriptor : GovernanceToolDescriptor)
    (request : GovernanceToolRequest) (host : AppleRemoteHost) (p : Progress) :
    Progress × Option Bytes :=
  match buildAppleOperationalCommand descriptor request.platform host (choices request host) with
  | .error refusal => (p.refused descriptor refusal, none)
  | .ok command =>
    match s.remote host.hostId command with
    | .error what => (p, some what)
    | .ok execution => (p.reported descriptor host execution, none)

/-- The tool on its host. -/
def runOnHost (s : Surroundings) (descriptor : GovernanceToolDescriptor)
    (request : GovernanceToolRequest) (preferredHostId : Bytes) (host : AppleRemoteHost)
    (p : Progress) : Progress × Option Bytes :=
  let p := p.routed s descriptor request preferredHostId host
  match s.dumpHost host with
  | .error what => (p, some what)
  | .ok dump =>
    let p := { p with result := p.result.readiness descriptor request.platform host dump }
    if isAppleReplayValidationTool descriptor.toolId then
      (p.validated request.platform host, none)
    else if queuedToolIds.contains descriptor.toolId then runCommand s descriptor request host p
    else (p.unfinished descriptor, none)

/-- `executeAppleRemoteTool`, with the text of an exception. -/
def executeAppleRemoteTool (s : Surroundings) (descriptor : GovernanceToolDescriptor)
    (request : GovernanceToolRequest) (p : Progress) : Progress × Option Bytes :=
  let preferredHostId := optionValue request ["hostId", "preferredHostId"]
  if !s.serviceAvailable then (p.withoutService descriptor, none)
  else
    match (if preferredHostId ≠ [] then s.inspectHost preferredHostId
      else s.selectHostForPlatform request.platform) with
    | none => (p.withoutHost descriptor request.platform preferredHostId, none)
    | some host =>
      if !supportsPlatform host request.platform then
        (p.withoutLane descriptor request.platform host, none)
      else runOnHost s descriptor request preferredHostId host p

/-! ## Operations -/

/-- `queueAppleOperation`. -/
def queueAppleOperation (s : Surroundings) (descriptor : GovernanceToolDescriptor)
    (request : GovernanceToolRequest) : AppleOperationRecord :=
  let sanitized := sanitizeAppleRequestOptions request
  { toAppleOperationRecord := queuedRecord s.operationId descriptor.displayName s.queuedAtUtc
    platform := request.platform
    toolId := request.toolId
    workingDirectory := resolveAppleWorkingDirectory request
    artifactPath := findAppleArtifactPath descriptor request
    targetPath := request.targetPath
    requestOptions := sanitized.persistedOptions
    redactedRequestOptionKeys := sanitized.redactedKeys
    diagnosticSummary :=
      if sanitized.redactedKeys = [] then []
      else asciiBytes "Sensitive Apple request options were redacted from persisted history." }

/-- `completeAppleOperation`. -/
def AppleOperationRecord.complete (record : AppleOperationRecord) (result : GovernanceToolResult)
    (nowUtc : Bytes) : AppleOperationRecord :=
  { record with
    toAppleOperationRecord := completedRecord result.brief nowUtc record.toAppleOperationRecord
    rawOutput := result.rawOutput
    routeReason := if result.routeReason = [] then record.routeReason else result.routeReason
    diagnosticSummary :=
      if result.diagnosticSummary = [] then record.diagnosticSummary else result.diagnosticSummary
    readinessIssues :=
      if result.readinessIssues = [] then record.readinessIssues else result.readinessIssues }

/-- `markAppleOperationCanceled`. -/
def AppleOperationRecord.cancel (record : AppleOperationRecord) (message : String)
    (nowUtc : Bytes) : AppleOperationRecord :=
  { record with
    toAppleOperationRecord :=
      canceledRecord (asciiBytes message) nowUtc record.toAppleOperationRecord }

/-- `recordCanceledExecution`. -/
def canceledExecution (record : AppleOperationRecord) : GovernanceToolResult where
  platform := record.platform
  toolId := record.toolId
  displayName := record.displayName
  status := .warning
  summary := record.summary
  startedAtUtc := if record.startedAtUtc = [] then record.queuedAtUtc else record.startedAtUtc
  completedAtUtc := record.completedAtUtc
  routeReason := record.routeReason
  diagnosticSummary := record.diagnosticSummary
  readinessIssues := record.readinessIssues
  findings := [makeFinding (utf8 record.toolId) record.displayName "medium" "warning"
    record.summary]

/-- What is kept: by `persistAppleOperation` and by `recordExecution`. -/
inductive Kept where
  | operation (record : AppleOperationRecord)
  | execution (result : GovernanceToolResult)

/-- The exception of a tool goes into its result. -/
def GovernanceToolResult.caught (result : GovernanceToolResult) (exception : Option Bytes) :
    GovernanceToolResult :=
  match exception with
  | none => result
  | some what => { result with status := .failed, summary := what }

/-- A remote tool, from its record to its result. -/
def workOff (s : Surroundings) (descriptor : GovernanceToolDescriptor)
    (request : GovernanceToolRequest) (record : AppleOperationRecord)
    (result : GovernanceToolResult) : List Kept × GovernanceToolResult :=
  let (p, exception) := executeAppleRemoteTool s descriptor request { result, record }
  let result := { p.result.caught exception with completedAtUtc := s.completedAtUtc }
  (p.written.map .operation ++
    [.operation (p.record.complete result s.completedAtUtc), .execution result], result)

/-- What becomes of an operation in the queue. -/
inductive Fate where
  | worked (s : Surroundings)
  | canceled (nowUtc : Bytes)
  /-- The service is restarted. -/
  | interrupted (interruptedAtUtc : Bytes)

/-- The worker, `cancelAppleOperation` or `reconcilePersistedAppleOperations`. -/
def Fate.keeps (fate : Fate) (descriptor : GovernanceToolDescriptor)
    (request : GovernanceToolRequest) (record : AppleOperationRecord) : List Kept :=
  match fate with
  | worked s =>
    (workOff s descriptor request record
      { platform := request.platform
        toolId := request.toolId
        displayName := descriptor.displayName
        startedAtUtc := s.startedAtUtc }).1
  | canceled nowUtc =>
    let record := record.cancel "Apple governance operation was canceled before execution." nowUtc
    [.operation record, .execution (canceledExecution record)]
  | interrupted interruptedAtUtc =>
    [.operation { record with
      toAppleOperationRecord := reconciledRecord interruptedAtUtc record.toAppleOperationRecord }]

/-- The queued operation as its caller is told: id, status and time, as JSON. -/
abbrev QueueNotice := OperationId → AppleOperationStatus → Bytes → Bytes

/-- `execute`: what is kept, and what is returned.  What becomes of a queued operation later is
part of it. -/
def execute (notice : QueueNotice) (s : Surroundings) (fate : Fate)
    (request : GovernanceToolRequest) : List Kept × GovernanceToolResult :=
  let result : GovernanceToolResult :=
    { platform := request.platform, toolId := request.toolId, startedAtUtc := s.startedAtUtc }
  match s.tools.find? fun tool =>
    tool.platform = request.platform && tool.toolId = request.toolId with
  | none =>
    let result :=
      { result with
        status := .failed
        summary := asciiBytes "Governance tool '" ++ utf8 request.toolId ++
          asciiBytes "' is not registered for platform " ++ platformKey request.platform ++
          asciiBytes "."
        completedAtUtc := s.completedAtUtc }
    ([.execution result], result)
  | some descriptor =>
    let result := { result with displayName := descriptor.displayName }
    if descriptor.requiresRemoteToolchain then
      let record := queueAppleOperation s descriptor request
      if queuedToolIds.contains descriptor.toolId then
        if s.accepting then
          (.operation record :: fate.keeps descriptor request record,
            { result with
              status := .passed
              succeeded := true
              summary := asciiBytes "Queued " ++ descriptor.displayName ++
                asciiBytes " for Apple governance execution."
              completedAtUtc := s.completedAtUtc
              rawOutput := notice record.operationId record.status record.queuedAtUtc }.find
              descriptor "low" "pass"
              (asciiBytes "Apple governance execution was queued for asynchronous processing."))
        else
          ([.operation record,
              .operation (record.cancel "Apple governance queue is shutting down."
                s.completedAtUtc)],
            { result with
              status := .failed
              summary := asciiBytes "Apple governance queue is not accepting new work."
              completedAtUtc := s.completedAtUtc })
      else
        let (kept, result) := workOff s descriptor request record result
        (.operation record :: kept, result)
    else
      let (result, exception) :=
        match request.platform with
        | .windows => s.windowsTool descriptor (resolveTargetRoot request) result
        | .macOS | .iOS =>
          ({ result with
            status := .unsupported
            summary := asciiBytes "Remote governance routing is required for this platform." },
            none)
        | .unknown =>
          ({ result with
            status := .failed
            summary := asciiBytes "Unknown governance platform." }, none)
      let result := { result.caught exception with completedAtUtc := s.completedAtUtc }
      ([.execution result], result)

end Redaction
end Apple
end MasterControl
