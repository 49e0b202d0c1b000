import MasterControl.Configuration.Services
import MasterControl.Governance.ApprovalQueue
import MasterControl.Packages.Trust

/-!
# The decisions of the Command Logic Unit

`currentGovernance` reads the configuration and what the runtime looks like, lists its findings,
and derives a posture from them: blocked as soon as one finding is.  `enforceAction` decides on
one request.  For most kinds of action the posture alone decides
(`outcome_enforceAction_of_postureGoverned`); switching autonomous mode off is always allowed.
-/

namespace MasterControl
namespace Governance

open Foundation MasterControl.Configuration

/-! ## Records -/

inductive GovernanceDecisionOutcome where
  | allow
  | block
  | requiresOperatorApproval
  deriving DecidableEq

inductive Posture where
  | pass
  | warning
  | blocked
  deriving DecidableEq

structure GovernanceFinding where
  ruleId : String
  title : String
  status : Posture
  message : String

structure GovernanceSnapshot where
  posture : Posture := .pass
  findings : List GovernanceFinding := []

structure GovernanceEnforcementRequest where
  action : GovernanceActionKind := .unknown
  targetId : String := ""
  source : String := ""
  actor : String := ""
  deriving DecidableEq

structure GovernanceEnforcementDecision where
  action : GovernanceActionKind := .unknown
  outcome : GovernanceDecisionOutcome := .allow
  allowed : Bool := true
  posture : Posture := .pass
  message : String := ""
  ruleId : String := ""
  blockingFindings : List String := []

/-- The settings that governance reads. -/
structure GovernedSettings where
  resourceAllocation : ResourceAllocationProfile := {}
  securityProtocolsEnabled : Bool := true
  allowOpenLanAccess : Bool := false
  allowTroubleshootingBypass : Bool := false
  aiAutonomyEnabled : Bool := false

/-- What governance observes of the runtime, and the titles of its rules. -/
structure Observed where
  untrustedInstall : Bool := false
  missingArtifacts : Bool := false
  /-- The platforms without a gateway or a governance server. -/
  incompleteLanes : List String := []
  failedExecution : Bool := false
  titleOf : String → String := id

/-! ## Posture -/

/-- `appendFinding`. -/
def appendFinding (titleOf : String → String) (ruleId : String) (status : Posture)
    (message : String) (snapshot : GovernanceSnapshot) : GovernanceSnapshot where
  findings := snapshot.findings ++ [{ ruleId, title := titleOf ruleId, status, message }]
  posture :=
    if status = .blocked then .blocked
    else if status = .warning && snapshot.posture ≠ .blocked then .warning
    else snapshot.posture

/-- A finding that is made under a condition. -/
def findingIf (condition : Bool) (titleOf : String → String) (ruleId : String) (status : Posture)
    (message : String) (snapshot : GovernanceSnapshot) : GovernanceSnapshot :=
  if condition then appendFinding titleOf ruleId status message snapshot else snapshot

def currentGovernance (settings : GovernedSettings) (observed : Observed) : GovernanceSnapshot :=
  let finding := fun condition => findingIf condition observed.titleOf
  let snapshot : GovernanceSnapshot := {}
  let snapshot := finding (settings.resourceAllocation.cpuPercent ≤ 0) "CLU-C008" .blocked
    ("Managed execution is blocked because CPU allocation is set to 0%. Raise the CPU envelope " ++
      "before running governed installs.") snapshot
  let snapshot := finding (settings.resourceAllocation.memoryPercent ≤ 0) "CLU-C008" .blocked
    ("Managed execution is blocked because memory allocation is set to 0%. Raise the memory " ++
      "envelope before running governed installs.") snapshot
  let snapshot := finding (settings.resourceAllocation.bandwidthPercent ≤ 0) "CLU-C008" .blocked
    ("Governed network execution is blocked because bandwidth allocation is set to 0%. Raise " ++
      "the bandwidth envelope before running remote installs.") snapshot
  let snapshot := finding (settings.resourceAllocation.storagePercent ≤ 0) "CLU-C008" .blocked
    ("Managed execution is blocked because storage allocation is set to 0%. Raise the storage " ++
      "envelope before running governed installs.") snapshot
  let snapshot := finding (!settings.securityProtocolsEnabled && settings.allowOpenLanAccess)
    "CLU-C002" .blocked
    ("Security protocols are disabled while browser access remains open on the LAN. Restore " ++
      "protocols or close LAN exposure.") snapshot
  let snapshot := finding settings.allowTroubleshootingBypass "CLU-C003" .warning
    ("Troubleshooting bypass is enabled. CLU is treating the runtime as temporarily degraded " ++
      "until bypass mode is cleared.") snapshot
  let snapshot := finding observed.untrustedInstall "CLU-C005" .warning
    ("One or more imported packages were recorded as untrusted. CLU is surfacing the " ++
      "provenance risk for operator review.") snapshot
  let snapshot := finding observed.missingArtifacts "CLU-C006" .warning
    ("One or more expected governance and agent handoff artifacts are missing from the current " ++
      "export set.") snapshot
  let snapshot := observed.incompleteLanes.foldl
    (fun snapshot platformName => appendFinding observed.titleOf "CLU-C006" .warning
      ("The " ++ platformName ++ " governance lane is incomplete. Both the platform gateway " ++
        "module and governance MCP server module must be active.") snapshot) snapshot
  finding observed.failedExecution "CLU-C007" .warning
    ("Recent governance tool execution failures were detected. Review the affected enforcement " ++
      "lanes before relying on autonomous governance.") snapshot

/-! ## Decisions -/

/-- The texts of the blocked findings. -/
def GovernanceSnapshot.blockingTexts (snapshot : GovernanceSnapshot) : List String :=
  (snapshot.findings.filter (·.status = .blocked)).map fun finding =>
    finding.title ++ ": " ++ finding.message

/-- A block because of the posture. -/
def blockedDecision (snapshot : GovernanceSnapshot) (message : String)
    (decision : GovernanceEnforcementDecision) : GovernanceEnforcementDecision :=
  { decision with
    allowed := false
    outcome := .block
    blockingFindings := snapshot.blockingTexts
    ruleId :=
      match snapshot.findings.find? (·.status = .blocked) with
      | some finding => finding.ruleId
      | none => decision.ruleId
    message }

/-- What the resource envelope denies. -/
def resourceMessage (resourceAllocation : ResourceAllocationProfile) (requiresNetwork : Bool) :
    Option String :=
  if resourceAllocation.cpuPercent ≤ 0 then
    some "The managed resource envelope denies CPU allocation (0%)."
  else if resourceAllocation.memoryPercent ≤ 0 then
    some "The managed resource envelope denies memory allocation (0%)."
  else if resourceAllocation.storagePercent ≤ 0 then
    some "The managed resource envelope denies storage allocation (0%)."
  else if requiresNetwork && resourceAllocation.bandwidthPercent ≤ 0 then
    some ("The managed resource envelope denies bandwidth allocation (0%) for " ++
      "network-governed work.")
  else none

/-- The text that a blocked posture gives for a kind of action, where the posture decides. -/
def postureMessage : GovernanceActionKind → Option String
  | .mcpServerCreate | .subAgentCreate | .mcpServerModify | .subAgentModify =>
    some "CLU blocked catalog mutation while runtime posture is blocked."
  | .mcpServerRemove | .subAgentRemove =>
    some "CLU blocked catalog removal while runtime posture is blocked."
  | .clientRegister | .clientPrivilegeChange | .clientRevoke =>
    some "CLU blocked LAN client roster change while runtime posture is blocked."
  | .moduleEnable | .moduleDisable =>
    some "CLU blocked Forsetti module lifecycle change while runtime posture is blocked."
  | _ => none

def enforceAction (settings : GovernedSettings) (observed : Observed)
    (request : GovernanceEnforcementRequest) : GovernanceEnforcementDecision :=
  let snapshot := currentGovernance settings observed
  let decision : GovernanceEnforcementDecision :=
    { action := request.action, posture := snapshot.posture }
  let remote := Packages.isRemoteSource request.source.toUTF8.toList
  match request.action with
  | .remoteInstall =>
    match resourceMessage settings.resourceAllocation remote with
    | some resourceMessage =>
      { decision with
        allowed := false
        outcome := .block
        ruleId := "CLU-C008"
        blockingFindings := [resourceMessage]
        message := "CLU blocked managed install because the managed resource policy denies " ++
          "launch. " ++ resourceMessage }
    | none =>
      if remote && snapshot.posture = .blocked then
        let message := "CLU blocked remote install while runtime posture is blocked."
        blockedDecision snapshot
          (match snapshot.blockingTexts with
            | [] => message
            | first :: _ => message ++ " " ++ first) decision
      else decision
  | .clientAutonomousModeChange =>
    if request.source = "disable" then decision
    else if snapshot.posture = .blocked then
      blockedDecision snapshot
        "CLU blocked autonomous-mode change while runtime posture is blocked." decision
    else if !settings.aiAutonomyEnabled then
      { decision with
        allowed := false
        outcome := .block
        ruleId := "CLU-C009"
        message := "Enable global AI autonomy in configuration before granting client " ++
          "autonomous mode." }
    else decision
  | .governancePolicyChange =>
    { decision with
      outcome := .requiresOperatorApproval
      ruleId := "CLU-C010"
      message := "Governance policy edits require operator approval." }
  | action =>
    match postureMessage action with
    | some message =>
      if snapshot.posture = .blocked then blockedDecision snapshot message decision else decision
    | none => decision

/-! ## What they come down to -/

section Decisions

variable {settings : GovernedSettings} {observed : Observed}
  {request : GovernanceEnforcementRequest}

/-- Where the posture governs, it decides. -/
theorem outcome_enforceAction_of_postureGoverned
    (h : (postureMessage request.action).isSome = true) :
    (enforceAction settings observed request).outcome = .allow ↔
      (currentGovernance settings observed).posture ≠ .blocked := by
  have hdecide : ∀ message decision, decision.outcome = .allow →
      ((if (currentGovernance settings observed).posture = .blocked then
        blockedDecision (currentGovernance settings observed) message decision
      else decision).outcome = .allow ↔
        (currentGovernance settings observed).posture ≠ .blocked) := by
    intro message decision hdecision
    split
    · next hblocked => exact iff_of_false (fun h => by cases h) (not_not.mpr hblocked)
    · next hfree => exact iff_of_true hdecision hfree
  unfold enforceAction
  cases haction : request.action with
  | unknown | remoteInstall | clientAutonomousModeChange | governancePolicyChange =>
    rw [haction] at h
    cases h
  | _ => exact hdecide _ _ rfl

/-- Autonomous mode may be switched off at any time, and on while the posture is not blocked and
autonomy is enabled. -/
theorem outcome_enforceAction_autonomousMode (h : request.action = .clientAutonomousModeChange) :
    (enforceAction settings observed request).outcome = .allow ↔
      request.source = "disable" ∨
        (currentGovernance settings observed).posture ≠ .blocked ∧
          settings.aiAutonomyEnabled = true := by
  unfold enforceAction
  rw [h]
  dsimp only
  split
  · next hsource => exact iff_of_true rfl (Or.inl hsource)
  · next hsource =>
    split
    · next hblocked =>
      refine iff_of_false (fun h => by cases h) ?_
      rintro (h | ⟨h, -⟩)
      · exact hsource h
      · exact h hblocked
    · next hfree =>
      cases hautonomy : settings.aiAutonomyEnabled with
      | true => exact iff_of_true rfl (Or.inr ⟨hfree, rfl⟩)
      | false =>
        refine iff_of_false (fun h => by cases h) ?_
        rintro (h | ⟨-, h⟩)
        · exact hsource h
        · cases h

end Decisions

end Governance
end MasterControl
