import MasterControl.Foundation.Calendar
import MasterControl.Foundation.Json

/-!
# The supervisor assignment

`SupervisorAssignmentServiceImpl` holds the one supervisor assignment of a host.  Selecting
a provider issues a configuration (an id, a token, an expiry), which a client presents in a
connection claim; regenerating replaces the configuration, revoking ends the assignment.
Every change of the assignment is followed by a write of the whole record to one file.

What a call gets from outside is its `Environment`: the clock, random bytes, the seed of the
fingerprint as last set by the route layer, and what the file holds after a write.  Instants
lie within the range of `gmtime_s`, so their year has four digits.
-/

namespace MasterControl
namespace Assignment

open Foundation

/-! ## Records -/

inductive SupervisorProvider where
  | unknown
  | chatGpt
  | claude
  | grok
  deriving DecidableEq

inductive SupervisorMode where
  | disabled
  | readOnlySupervisor
  | decisionSupervisor
  | autonomousSupervisor
  | breakGlassAdmin
  deriving DecidableEq

inductive SupervisorState where
  | off
  | configGenerated
  | pendingConnection
  | connected
  | disconnected
  | revoked
  | error
  deriving DecidableEq

structure SupervisorAssignment where
  assignmentId : String := ""
  provider : SupervisorProvider := .unknown
  clientId : String := ""
  mode : SupervisorMode := .autonomousSupervisor
  exclusive : Bool := true
  state : SupervisorState := .off
  configId : String := ""
  issuedAtUtc : String := ""
  expiresAtUtc : String := ""
  connectedAtUtc : String := ""
  lastHeartbeatUtc : String := ""
  revokedAtUtc : String := ""
  revocationReason : String := ""
  allowedCapabilities : List String := []
  auditCorrelationId : String := ""
  lastErrorMessage : String := ""
  tokenRef : String := ""
  serverFingerprint : String := ""
  deriving DecidableEq

structure SupervisorSelectRequest where
  provider : SupervisorProvider := .unknown
  mode : SupervisorMode := .autonomousSupervisor
  exclusive : Bool := true

structure SupervisorIssueResult where
  ok : Bool := false
  errorMessage : String := ""
  assignment : SupervisorAssignment := {}
  fileName : String := ""
  contentType : String := ""

structure SupervisorConnectionClaim where
  configId : String := ""
  provider : SupervisorProvider := .unknown
  clientId : String := ""
  capabilities : List String := []
  fingerprint : String := ""
  token : String := ""

structure SupervisorConnectionResult where
  ok : Bool := false
  newState : SupervisorState := .error
  errorMessage : String := ""
  assignmentId : String := ""
  clientId : String := ""
  connectedAtUtc : String := ""

/-! ## Names -/

def providerIdString : SupervisorProvider → String
  | .chatGpt => "chatgpt"
  | .claude => "claude"
  | .grok => "grok"
  | .unknown => ""

def supervisorModeString : SupervisorMode → String
  | .disabled => "disabled"
  | .readOnlySupervisor => "read_only_supervisor"
  | .decisionSupervisor => "decision_supervisor"
  | .autonomousSupervisor => "autonomous_supervisor"
  | .breakGlassAdmin => "break_glass_admin"

def supervisorStateString : SupervisorState → String
  | .off => "off"
  | .configGenerated => "config_generated"
  | .pendingConnection => "pending_connection"
  | .connected => "connected"
  | .disconnected => "disconnected"
  | .revoked => "revoked"
  | .error => "error"

def providerLookup : List (String × SupervisorProvider) :=
  [("chatgpt", .chatGpt), ("claude", .claude), ("grok", .grok)]

def modeLookup : List (String × SupervisorMode) :=
  [("disabled", .disabled), ("read_only_supervisor", .readOnlySupervisor),
    ("decision_supervisor", .decisionSupervisor),
    ("autonomous_supervisor", .autonomousSupervisor), ("break_glass_admin", .breakGlassAdmin)]

def stateLookup : List (String × SupervisorState) :=
  [("off", .off), ("config_generated", .configGenerated),
    ("pending_connection", .pendingConnection), ("connected", .connected),
    ("disconnected", .disconnected), ("revoked", .revoked), ("error", .error)]

def toLower (s : String) : String := String.ofList (s.toList.map Char.toLower)

def providerFromString (id : String) : SupervisorProvider :=
  (providerLookup.lookup (toLower id)).getD .unknown

def supervisorModeFromString (mode : String) : SupervisorMode :=
  (modeLookup.lookup (toLower mode)).getD .autonomousSupervisor

def supervisorStateFromString (state : String) : SupervisorState :=
  (stateLookup.lookup (toLower state)).getD .off

/-! ## Capabilities -/

def defaultAutonomousSupervisorCapabilities : List String :=
  ["supervisor.get_context", "supervisor.list_pending_decisions",
    "supervisor.get_decision_packet", "supervisor.submit_decision",
    "supervisor.issue_remediation", "supervisor.get_worker_report",
    "supervisor.get_task_evidence", "supervisor.list_active_tasks"]

def forbiddenAutonomousSupervisorCapabilities : List String :=
  ["admin.disable_governance", "admin.change_global_policy", "admin.erase_audit_logs",
    "admin.deploy", "admin.release", "admin.rotate_secrets", "admin.modify_certificates",
    "admin.modify_backups", "worker.run_shell", "worker.edit_file", "worker.delete_file",
    "worker.push_protected_branch"]

def capabilitiesForMode : SupervisorMode → List String
  | .autonomousSupervisor => defaultAutonomousSupervisorCapabilities
  | .decisionSupervisor =>
    ["supervisor.get_context", "supervisor.list_pending_decisions",
      "supervisor.get_decision_packet", "supervisor.submit_decision",
      "supervisor.get_worker_report", "supervisor.get_task_evidence",
      "supervisor.list_active_tasks"]
  | .readOnlySupervisor =>
    ["supervisor.get_context", "supervisor.list_pending_decisions",
      "supervisor.get_decision_packet", "supervisor.get_worker_report",
      "supervisor.get_task_evidence", "supervisor.list_active_tasks"]
  | .disabled => []
  | .breakGlassAdmin => []

/-! ## The environment of a call -/

/-- A clock reading. -/
structure Instant where
  seconds : Nat
  fourDigits : yearOf seconds < 10000

/-- The first second of 1970. -/
def Instant.epoch : Instant := ⟨0, by decide⟩

/-- The random bytes of the ids and of the token of one issued configuration. -/
structure RandomBytes where
  assignmentSuffix : Bytes
  configSuffix : Bytes
  token : Bytes
  auditSuffix : Bytes

structure Environment where
  now : Instant
  random : RandomBytes
  fingerprintSeed : String
  /-- What the file holds after `writeFileAtomic` with a body. -/
  writeFileAtomic : Bytes → Option Bytes

structure ServiceContext where
  /-- In seconds. -/
  defaultConfigTtl : Nat := 3 * 60 * 60
  /-- `dump(2)` of the JSON library. -/
  dump : Json → Bytes

/-- The assignment in memory, and what the file holds. -/
structure Service where
  assignment : SupervisorAssignment := {}
  file : Option Bytes := none

/-! ## Texts -/

def nowIso8601Utc (now : Instant) : String := formatUtc now.seconds

def addSecondsIso8601 (isoNow : String) (seconds : Nat) : String :=
  match readTime isoNow with
  | none => isoNow
  | some t => formatUtc (t + seconds).toNat

/-- `%Y%m%dT%H%M%SZ`. -/
def compactUtcStamp (now : Instant) : String :=
  let tm := gmtime now.seconds
  String.ofList (pad 4 tm.date.year ++ pad 2 tm.date.month ++ pad 2 tm.date.day ++ ['T'] ++
    pad 2 tm.hour ++ pad 2 tm.minute ++ pad 2 tm.second ++ ['Z'])

/-- The last hexadecimal digits of a number, as many as wanted. -/
def hexDigits : Nat → Nat → List Char
  | 0, _ => []
  | width + 1, n => hexDigits width (n / 16) ++ [Nat.digitChar (n % 16)]

/-- Bytes in hexadecimal, two digits each. -/
def hexBytes (bytes : Bytes) : String :=
  String.ofList (bytes.flatMap fun byte => hexDigits 2 byte.toNat)

def tokenRefPrefix : String := "mcos-supervisor-token:"

def supervisorTokenRef (token : Bytes) : String := tokenRefPrefix ++ hexBytes token

/-- FNV-1a over the bytes of the seed. -/
def fingerprint (seed : String) : String :=
  let h := seed.toUTF8.data.foldl (fun h c => (h ^^^ c.toUInt64) * 1099511628211)
    (1469598103934665603 : UInt64)
  "sha256:" ++ String.ofList (hexDigits 16 h.toNat)

/-- The id of a configuration issued now. -/
def freshConfigId (env : Environment) : String :=
  "CFG-" ++ compactUtcStamp env.now ++ "-" ++ hexBytes env.random.configSuffix

/-! ## The record -/

def toJson (a : SupervisorAssignment) : List (String × Json) :=
  [("assignmentId", .string a.assignmentId),
    ("providerId", .string (providerIdString a.provider)),
    ("clientId", .string a.clientId),
    ("mode", .string (supervisorModeString a.mode)),
    ("exclusive", .boolean a.exclusive),
    ("state", .string (supervisorStateString a.state)),
    ("configId", .string a.configId),
    ("issuedAtUtc", .string a.issuedAtUtc),
    ("expiresAtUtc", .string a.expiresAtUtc),
    ("connectedAtUtc", .string a.connectedAtUtc),
    ("lastHeartbeatUtc", .string a.lastHeartbeatUtc),
    ("revokedAtUtc", .string a.revokedAtUtc),
    ("revocationReason", .string a.revocationReason),
    ("allowedCapabilities", .array (a.allowedCapabilities.map Json.string)),
    ("auditCorrelationId", .string a.auditCorrelationId),
    ("lastErrorMessage", .string a.lastErrorMessage),
    ("tokenRef", .string a.tokenRef),
    ("serverFingerprint", .string a.serverFingerprint)]

def persistLocked (context : ServiceContext) (env : Environment) (s : Service) : Service :=
  { s with file := env.writeFileAtomic (context.dump (.object (toJson s.assignment))) }

/-- Put an assignment in place and write it. -/
def Service.put (context : ServiceContext) (env : Environment) (assignment : SupervisorAssignment)
    (s : Service) : Service :=
  persistLocked context env { s with assignment }

@[simp] theorem assignment_put (context : ServiceContext) (env : Environment)
    (assignment : SupervisorAssignment) (s : Service) :
    (s.put context env assignment).assignment = assignment := rfl

/-- Whether no configuration is in force. -/
def SupervisorAssignment.ended (a : SupervisorAssignment) : Bool :=
  a.state = .off || a.state = .revoked

/-! ## Issuing -/

/-- The answer to a call that issued the assignment's configuration. -/
def issued (a : SupervisorAssignment) : SupervisorIssueResult where
  ok := true
  assignment := a
  fileName := "mcos-supervisor-" ++ providerIdString a.provider ++ ".config.json"
  contentType := "application/json"

/-- The assignment a selection puts in place. -/
def freshAssignment (context : ServiceContext) (env : Environment)
    (request : SupervisorSelectRequest) : SupervisorAssignment :=
  let assignmentId :=
    "SUP-" ++ compactUtcStamp env.now ++ "-" ++ hexBytes env.random.assignmentSuffix
  let mode := if request.mode = .disabled then .autonomousSupervisor else request.mode
  let configId := freshConfigId env
  { assignmentId
    provider := request.provider
    mode
    exclusive := request.exclusive
    state := .configGenerated
    configId
    issuedAtUtc := nowIso8601Utc env.now
    expiresAtUtc := addSecondsIso8601 (nowIso8601Utc env.now) context.defaultConfigTtl
    allowedCapabilities := capabilitiesForMode mode
    tokenRef := supervisorTokenRef env.random.token
    serverFingerprint :=
      fingerprint (env.fingerprintSeed ++ "|" ++ assignmentId ++ "|" ++ configId)
    auditCorrelationId := "AUD-" ++ hexBytes env.random.auditSuffix }

/-- A selection first revokes what is in force, and writes that, too. -/
def selectAndIssue (context : ServiceContext) (env : Environment)
    (request : SupervisorSelectRequest) (s : Service) : SupervisorIssueResult × Service :=
  if request.provider = .unknown then
    ({ errorMessage := "providerId must be one of chatgpt, claude, grok." }, s)
  else
    let s :=
      if s.assignment.ended then s
      else s.put context env
        { s.assignment with
          revokedAtUtc := nowIso8601Utc env.now
          revocationReason :=
            "Superseded by selection of " ++ providerIdString request.provider ++ "."
          state := .revoked }
    let fresh := freshAssignment context env request
    (issued fresh, s.put context env fresh)

def regenerateConfig (context : ServiceContext) (env : Environment) (s : Service) :
    SupervisorIssueResult × Service :=
  if s.assignment.ended then
    ({ errorMessage := "No active supervisor assignment to regenerate." }, s)
  else
    let regenerated :=
      { s.assignment with
        configId := freshConfigId env
        issuedAtUtc := nowIso8601Utc env.now
        expiresAtUtc := addSecondsIso8601 (nowIso8601Utc env.now) context.defaultConfigTtl
        tokenRef := supervisorTokenRef env.random.token
        state := .configGenerated
        connectedAtUtc := ""
        lastHeartbeatUtc := ""
        lastErrorMessage := "" }
    (issued regenerated, s.put context env regenerated)

def revoke (context : ServiceContext) (env : Environment) (reason : String) (s : Service) :
    Service :=
  if s.assignment.ended then s
  else s.put context env
    { s.assignment with
      state := .revoked
      revokedAtUtc := nowIso8601Utc env.now
      revocationReason := if reason = "" then "Operator-initiated revoke." else reason
      connectedAtUtc := ""
      lastHeartbeatUtc := ""
      lastErrorMessage := "" }

/-! ## Connecting -/

/-- A rejected claim: the state stays, the message is kept with the assignment. -/
def rejectClaim (context : ServiceContext) (env : Environment) (message : String) (s : Service) :
    SupervisorConnectionResult × Service :=
  ({ newState := s.assignment.state, errorMessage := message },
    s.put context env { s.assignment with lastErrorMessage := message })

/-- The complaint about the first requested capability that may not be granted. -/
def capabilityError (mode : SupervisorMode) (capabilities : List String) : Option String :=
  capabilities.findSome? fun cap =>
    if cap ∈ forbiddenAutonomousSupervisorCapabilities then
      some ("Forbidden capability requested: " ++ cap)
    else if cap ∉ capabilitiesForMode mode then
      some ("Capability not allowed in current mode (" ++ supervisorModeString mode ++ "): " ++ cap)
    else none

def confirmConnection (context : ServiceContext) (env : Environment)
    (claim : SupervisorConnectionClaim) (s : Service) : SupervisorConnectionResult × Service :=
  if s.assignment.ended then ({ errorMessage := "No active supervisor assignment." }, s)
  else if claim.provider ≠ s.assignment.provider then
    rejectClaim context env "Provider mismatch with active assignment." s
  else if claim.configId ≠ s.assignment.configId then
    rejectClaim context env "Config id does not match the active assignment." s
  else if claim.token = "" ∨ claim.token ≠ s.assignment.tokenRef then
    rejectClaim context env
      "Supervisor assignment token is missing or does not match the active assignment." s
  else if claim.fingerprint ≠ "" ∧ claim.fingerprint ≠ s.assignment.serverFingerprint then
    rejectClaim context env "Server fingerprint does not match the active assignment." s
  else if s.assignment.expiresAtUtc ≤ nowIso8601Utc env.now then
    let message := "Supervisor configuration has expired; generate a new one."
    ({ errorMessage := message },
      s.put context env { s.assignment with state := .error, lastErrorMessage := message })
  else
    match capabilityError s.assignment.mode claim.capabilities with
    | some message => rejectClaim context env message s
    | none =>
      let connected :=
        { s.assignment with
          state := .connected
          clientId := claim.clientId
          connectedAtUtc := nowIso8601Utc env.now
          lastHeartbeatUtc := nowIso8601Utc env.now
          lastErrorMessage := "" }
      ({ ok := true
         newState := .connected
         assignmentId := connected.assignmentId
         clientId := connected.clientId
         connectedAtUtc := connected.connectedAtUtc },
        s.put context env connected)

def recordHeartbeat (context : ServiceContext) (env : Environment) (clientId : String)
    (s : Service) : Service :=
  if s.assignment.state ≠ .connected then s
  else if s.assignment.clientId ≠ "" ∧ clientId ≠ s.assignment.clientId then s
  else s.put context env { s.assignment with lastHeartbeatUtc := nowIso8601Utc env.now }

def expireConnectionIfStale (context : ServiceContext) (env : Environment) (threshold : Int)
    (s : Service) : Bool × Service :=
  if s.assignment.state ≠ .connected then (false, s)
  else if s.assignment.lastHeartbeatUtc = "" then (false, s)
  else
    match readTime s.assignment.lastHeartbeatUtc with
    | none => (false, s)
    | some last =>
      if env.now.seconds - last ≤ threshold then (false, s)
      else
        (true, s.put context env
          { s.assignment with
            state := .disconnected
            lastErrorMessage :=
              "Supervisor heartbeat watchdog: no heartbeat received within threshold; " ++
                "marked disconnected." })

/-! ## Calls -/

/-- A call of the service. -/
inductive Call where
  | selectAndIssue (request : SupervisorSelectRequest)
  | regenerateConfig
  | revoke (reason : String)
  | confirmConnection (claim : SupervisorConnectionClaim)
  | recordHeartbeat (clientId : String)
  | expireConnectionIfStale (threshold : Int)

/-- What a call leaves behind. -/
def Call.perform (context : ServiceContext) (env : Environment) (s : Service) : Call → Service
  | .selectAndIssue request => (Assignment.selectAndIssue context env request s).2
  | .regenerateConfig => (Assignment.regenerateConfig context env s).2
  | .revoke reason => Assignment.revoke context env reason s
  | .confirmConnection claim => (Assignment.confirmConnection context env claim s).2
  | .recordHeartbeat clientId => Assignment.recordHeartbeat context env clientId s
  | .expireConnectionIfStale threshold =>
    (Assignment.expireConnectionIfStale context env threshold s).2

end Assignment
end MasterControl
