import MasterControl.Assignment.Service
import MasterControl.Foundation.Runs

/-!
# A connected supervisor has presented the configuration in force

The history of an assignment is kept beside the service: the last claim that was accepted,
and the configurations that were in force before the present one.  While the assignment is
connected, that last claim carries the provider, the configuration id and the token in
force, was made before the configuration expired, and asked only for capabilities of the
mode (`ConnectionSound`).  Only `confirmConnection` connects, and never with a claim that
carries the id or the token of an earlier configuration.
-/

namespace MasterControl
namespace Assignment

open Foundation

/-- An accepted claim, with the clock reading of its check. -/
structure Confirmation where
  claim : SupervisorConnectionClaim
  time : Instant

/-- What a claim has to carry of a configuration. -/
structure IssuedConfig where
  configId : String
  tokenRef : String

def SupervisorAssignment.config (a : SupervisorAssignment) : IssuedConfig where
  configId := a.configId
  tokenRef := a.tokenRef

/-- The service with its history. -/
structure World where
  service : Service
  /-- The last claim that was accepted. -/
  confirmed : Option Confirmation
  /-- The configurations that were replaced. -/
  replaced : List IssuedConfig

def World.assignment (w : World) : SupervisorAssignment := w.service.assignment

/-- Whether a call issues a configuration. -/
def Call.issues (a : SupervisorAssignment) : Call → Bool
  | .selectAndIssue request => request.provider ≠ .unknown
  | .regenerateConfig => !a.ended
  | _ => false

/-- One call, and what the history keeps of it. -/
def World.step (context : ServiceContext) (w : World) (step : Call × Environment) : World where
  service := step.1.perform context step.2 w.service
  confirmed :=
    match step.1 with
    | .confirmConnection claim =>
      if (confirmConnection context step.2 claim w.service).1.ok then
        some { claim, time := step.2.now }
      else w.confirmed
    | _ => w.confirmed
  replaced := if step.1.issues w.assignment then w.assignment.config :: w.replaced else w.replaced

/-- The service from a state on, with no configuration replaced yet. -/
def histories (context : ServiceContext) (s : Service) (confirmed : Option Confirmation) :
    TransitionSystem World (Call × Environment) where
  init := { service := s, confirmed, replaced := [] }
  step := World.step context

/-- The id and the token of a newly issued configuration have not been used before. -/
def Fresh (w : World) (step : Call × Environment) : Prop :=
  step.1.issues w.assignment = true →
    ∀ old ∈ w.assignment.config :: w.replaced,
      old.configId ≠ freshConfigId step.2 ∧ old.tokenRef ≠ supervisorTokenRef step.2.random.token

/-- A claim that was rightly accepted for the configuration of an assignment. -/
structure Confirms (c : Confirmation) (a : SupervisorAssignment) : Prop where
  provider : c.claim.provider = a.provider
  configId : c.claim.configId = a.configId
  token : c.claim.token = a.tokenRef
  unexpired : nowIso8601Utc c.time < a.expiresAtUtc
  allowed : ∀ cap ∈ c.claim.capabilities,
    cap ∈ capabilitiesForMode a.mode ∧ cap ∉ forbiddenAutonomousSupervisorCapabilities

/-- While the assignment is connected, the last accepted claim was rightly accepted for the
configuration in force. -/
def World.ConnectionSound (w : World) : Prop :=
  w.assignment.state = .connected → ∃ c, w.confirmed = some c ∧ Confirms c w.assignment

/-- A claim that was built from a configuration, at least in part. -/
def SupervisorConnectionClaim.BuiltFrom (claim : SupervisorConnectionClaim) (old : IssuedConfig) :
    Prop :=
  claim.configId = old.configId ∨ claim.token = old.tokenRef

/-! ## What the calls do -/

section Calls

variable {context : ServiceContext} {env : Environment} {s : Service}

/-- Two assignments with one configuration in force. -/
structure SameConfig (a b : SupervisorAssignment) : Prop where
  provider : b.provider = a.provider
  mode : b.mode = a.mode
  config : b.config = a.config
  expiresAtUtc : b.expiresAtUtc = a.expiresAtUtc

theorem SameConfig.refl (a : SupervisorAssignment) : SameConfig a a := ⟨rfl, rfl, rfl, rfl⟩

theorem capabilityError_eq_none {mode : SupervisorMode} {capabilities : List String}
    (h : capabilityError mode capabilities = none) :
    ∀ cap ∈ capabilities,
      cap ∈ capabilitiesForMode mode ∧ cap ∉ forbiddenAutonomousSupervisorCapabilities := by
  intro cap hcap
  have hnone := List.findSome?_eq_none_iff.mp h cap hcap
  split_ifs at hnone with hforbidden hallowed
  exact ⟨hallowed, hforbidden⟩

/-- What a claim can do: it is accepted, and then it confirms the configuration in force; or
it is not, and connects nothing. -/
theorem confirmConnection_cases (context : ServiceContext) (env : Environment)
    (claim : SupervisorConnectionClaim) (s : Service) :
    ((confirmConnection context env claim s).1.ok = true ∧
        Confirms ⟨claim, env.now⟩ s.assignment ∧ s.assignment.ended = false ∧
        SameConfig s.assignment (confirmConnection context env claim s).2.assignment) ∨
      ((confirmConnection context env claim s).1.ok = false ∧
        SameConfig s.assignment (confirmConnection context env claim s).2.assignment ∧
        ((confirmConnection context env claim s).2.assignment.state = s.assignment.state ∨
          (confirmConnection context env claim s).2.assignment.state = .error)) := by
  unfold confirmConnection
  split_ifs with hended hprovider hconfig htoken hfingerprint hexpired
  · exact Or.inr ⟨rfl, SameConfig.refl _, Or.inl rfl⟩
  · exact Or.inr ⟨rfl, ⟨rfl, rfl, rfl, rfl⟩, Or.inl rfl⟩
  · exact Or.inr ⟨rfl, ⟨rfl, rfl, rfl, rfl⟩, Or.inl rfl⟩
  · exact Or.inr ⟨rfl, ⟨rfl, rfl, rfl, rfl⟩, Or.inl rfl⟩
  · exact Or.inr ⟨rfl, ⟨rfl, rfl, rfl, rfl⟩, Or.inl rfl⟩
  · exact Or.inr ⟨rfl, ⟨rfl, rfl, rfl, rfl⟩, Or.inr rfl⟩
  · split
    · exact Or.inr ⟨rfl, ⟨rfl, rfl, rfl, rfl⟩, Or.inl rfl⟩
    · rename_i hcapability
      refine Or.inl ⟨rfl, ?_, Bool.eq_false_iff.mpr hended, ⟨rfl, rfl, rfl, rfl⟩⟩
      exact {
        provider := not_not.mp hprovider
        configId := not_not.mp hconfig
        token := not_not.mp (not_or.mp htoken).2
        unexpired := not_le.mp hexpired
        allowed := capabilityError_eq_none hcapability }

/-- A rejected claim connects nothing. -/
theorem state_confirmConnection_of_rejected {claim : SupervisorConnectionClaim}
    (h : (confirmConnection context env claim s).1.ok = false)
    (hstate : (confirmConnection context env claim s).2.assignment.state = .connected) :
    s.assignment.state = .connected := by
  rcases confirmConnection_cases context env claim s with
    ⟨hok, -⟩ | ⟨-, -, heq | herror⟩
  · rw [h] at hok
    cases hok
  · rw [← heq, hstate]
  · rw [herror] at hstate
    cases hstate

/-- What a call other than a claim does: it issues a new configuration, or it keeps the one
in force; it connects nothing. -/
theorem perform_cases (context : ServiceContext) (env : Environment) (s : Service) {call : Call}
    (hcall : ∀ claim, call ≠ .confirmConnection claim) :
    (call.issues s.assignment = true ∧
        (call.perform context env s).assignment.config =
          ⟨freshConfigId env, supervisorTokenRef env.random.token⟩ ∧
        (call.perform context env s).assignment.state = .configGenerated) ∨
      (call.issues s.assignment = false ∧
        SameConfig s.assignment (call.perform context env s).assignment ∧
        ((call.perform context env s).assignment.state = .connected →
          s.assignment.state = .connected)) := by
  cases call with
  | selectAndIssue request =>
    simp only [Call.perform, Call.issues, selectAndIssue]
    by_cases hprovider : request.provider = .unknown
    · rw [if_pos hprovider]
      exact Or.inr ⟨by simp [hprovider], SameConfig.refl _, id⟩
    · rw [if_neg hprovider]
      exact Or.inl ⟨by simp [hprovider], rfl, rfl⟩
  | regenerateConfig =>
    simp only [Call.perform, Call.issues, regenerateConfig]
    split_ifs with hended
    · exact Or.inr ⟨by rw [hended]; rfl, SameConfig.refl _, id⟩
    · exact Or.inl ⟨by rw [Bool.eq_false_iff.mpr hended]; rfl, rfl, rfl⟩
  | revoke reason =>
    refine Or.inr ⟨rfl, ?_⟩
    simp only [Call.perform, revoke]
    by_cases hended : s.assignment.ended = true
    · rw [if_pos hended]
      exact ⟨SameConfig.refl _, id⟩
    · rw [if_neg hended]
      exact ⟨⟨rfl, rfl, rfl, rfl⟩, fun h => by cases h⟩
  | confirmConnection claim => exact absurd rfl (hcall claim)
  | recordHeartbeat clientId =>
    refine Or.inr ⟨rfl, ?_⟩
    simp only [Call.perform, recordHeartbeat]
    split_ifs
    · exact ⟨SameConfig.refl _, id⟩
    · exact ⟨SameConfig.refl _, id⟩
    · exact ⟨⟨rfl, rfl, rfl, rfl⟩, id⟩
  | expireConnectionIfStale threshold =>
    refine Or.inr ⟨rfl, ?_⟩
    simp only [Call.perform, expireConnectionIfStale]
    split_ifs
    · exact ⟨SameConfig.refl _, id⟩
    · exact ⟨SameConfig.refl _, id⟩
    · split
      · exact ⟨SameConfig.refl _, id⟩
      · split_ifs
        · exact ⟨SameConfig.refl _, id⟩
        · exact ⟨⟨rfl, rfl, rfl, rfl⟩, fun h => by cases h⟩

/-- Only an accepted claim connects. -/
theorem connected_by_claim {call : Call}
    (h : (call.perform context env s).assignment.state = .connected) :
    s.assignment.state = .connected ∨
      ∃ claim, call = .confirmConnection claim ∧
        (confirmConnection context env claim s).1.ok = true := by
  by_cases hcall : ∃ claim, call = .confirmConnection claim
  · obtain ⟨claim, rfl⟩ := hcall
    cases hok : (confirmConnection context env claim s).1.ok with
    | true => exact Or.inr ⟨claim, rfl, hok⟩
    | false => exact Or.inl (state_confirmConnection_of_rejected hok h)
  · rw [not_exists] at hcall
    rcases perform_cases context env s hcall with
      ⟨-, -, hstate⟩ | ⟨-, -, hstate⟩
    · rw [hstate] at h
      cases h
    · exact Or.inl (hstate h)

end Calls

/-! ## Histories -/

section Histories

variable {context : ServiceContext} {w : World} {a b : SupervisorAssignment} {c : Confirmation}

theorem Confirms.congr (h : Confirms c a) (hab : SameConfig a b) : Confirms c b where
  provider := h.provider.trans hab.provider.symm
  configId := h.configId.trans (congrArg IssuedConfig.configId hab.config).symm
  token := h.token.trans (congrArg IssuedConfig.tokenRef hab.config).symm
  unexpired := hab.expiresAtUtc ▸ h.unexpired
  allowed := hab.mode ▸ h.allowed

/-- A claim was made before the instant its configuration expires at. -/
theorem Confirms.time_lt (h : Confirms c a) {t : Nat} (ht : a.expiresAtUtc = formatUtc t) :
    c.time.seconds < t :=
  lt_of_formatUtc_lt c.time.fourDigits (ht ▸ h.unexpired)

/-- The configuration in force shares neither its id nor its token with a replaced one. -/
def World.ConfigsDistinct (w : World) : Prop :=
  ∀ old ∈ w.replaced, old.configId ≠ w.assignment.configId ∧ old.tokenRef ≠ w.assignment.tokenRef

/-- **One call** keeps a connection sound. -/
theorem connectionSound_step {step : Call × Environment} (h : w.ConnectionSound) :
    (w.step context step).ConnectionSound := by
  obtain ⟨call, env⟩ := step
  intro hstate
  by_cases hcall : ∃ claim, call = .confirmConnection claim
  · obtain ⟨claim, rfl⟩ := hcall
    rcases confirmConnection_cases context env claim w.service with
      ⟨hok, hconfirms, -, hsame⟩ | ⟨hrejected, hsame, -⟩
    · exact ⟨⟨claim, env.now⟩, if_pos hok, hconfirms.congr hsame⟩
    · obtain ⟨c, hc, hconfirms⟩ := h (state_confirmConnection_of_rejected hrejected hstate)
      refine ⟨c, ?_, hconfirms.congr hsame⟩
      rw [← hc]
      exact if_neg (Bool.eq_false_iff.mp hrejected)
  · rw [not_exists] at hcall
    rcases perform_cases context env w.service hcall with
      ⟨-, -, hissued⟩ | ⟨-, hsame, hkept⟩
    · exact absurd (hissued.symm.trans hstate) (by decide)
    · obtain ⟨c, hc, hconfirms⟩ := h (hkept hstate)
      refine ⟨c, ?_, hconfirms.congr hsame⟩
      rw [← hc]
      cases call with
      | confirmConnection claim => exact absurd rfl (hcall claim)
      | _ => rfl

/-- A configuration that is issued afresh differs from all those before it. -/
theorem configsDistinct_step {step : Call × Environment} (h : w.ConfigsDistinct)
    (hfresh : Fresh w step) : (w.step context step).ConfigsDistinct := by
  obtain ⟨call, env⟩ := step
  have hkeep : ∀ {w' : World}, w'.replaced = w.replaced →
      SameConfig w.assignment w'.assignment → w'.ConfigsDistinct := by
    intro w' hreplaced hsame old hold
    rw [hreplaced] at hold
    have hconfig := hsame.config
    simp only [SupervisorAssignment.config, IssuedConfig.mk.injEq] at hconfig
    rw [hconfig.1, hconfig.2]
    exact h old hold
  by_cases hcall : ∃ claim, call = .confirmConnection claim
  · obtain ⟨claim, rfl⟩ := hcall
    rcases confirmConnection_cases context env claim w.service with
      ⟨-, -, -, hsame⟩ | ⟨-, hsame, -⟩
    · exact hkeep rfl hsame
    · exact hkeep rfl hsame
  · rw [not_exists] at hcall
    rcases perform_cases context env w.service hcall with
      ⟨hissues, hconfig, -⟩ | ⟨hissues, hsame, -⟩
    · intro old hold
      have hreplaced : (w.step context (call, env)).replaced =
          w.assignment.config :: w.replaced := if_pos hissues
      rw [hreplaced] at hold
      simp only [SupervisorAssignment.config, IssuedConfig.mk.injEq] at hconfig
      simp only [World.assignment, World.step, hconfig.1, hconfig.2]
      exact hfresh hissues old hold
    · exact hkeep (if_neg (Bool.eq_false_iff.mp hissues)) hsame

/-- A claim for a configuration that is no longer in force is rejected. -/
theorem rejected_of_replaced (context : ServiceContext) (env : Environment)
    (h : w.ConfigsDistinct) {claim : SupervisorConnectionClaim}
    (hclaim : w.assignment.ended = true ∨ ∃ old ∈ w.replaced, claim.BuiltFrom old) :
    (confirmConnection context env claim w.service).1.ok = false := by
  rcases confirmConnection_cases context env claim w.service with
    ⟨-, hconfirms, hactive, -⟩ | ⟨hrejected, -⟩
  · rcases hclaim with hended | ⟨old, hold, hconfig | htoken⟩
    · exact absurd hended (Bool.eq_false_iff.mp hactive)
    · exact absurd (hconfig.symm.trans hconfirms.configId) (h old hold).1
    · exact absurd (htoken.symm.trans hconfirms.token) (h old hold).2
  · exact hrejected

/-- The lifetime of a configuration is added to the text of the clock. -/
theorem addSecondsIso8601_now (now : Instant) (seconds : Nat) :
    addSecondsIso8601 (nowIso8601Utc now) seconds = formatUtc (now.seconds + seconds) := by
  rw [addSecondsIso8601, nowIso8601Utc, readTime_formatUtc now.fourDigits]
  rfl

theorem expiresAtUtc_of_issues {call : Call} {env : Environment} {s : Service}
    (h : call.issues s.assignment = true) :
    (call.perform context env s).assignment.expiresAtUtc =
      formatUtc (env.now.seconds + context.defaultConfigTtl) := by
  rw [← addSecondsIso8601_now]
  cases call with
  | selectAndIssue request =>
    rw [Call.issues, decide_eq_true_iff] at h
    rw [Call.perform, selectAndIssue, if_neg h]
    dsimp only
    rw [assignment_put, freshAssignment]
  | regenerateConfig =>
    rw [Call.issues, Bool.not_eq_true'] at h
    rw [Call.perform, regenerateConfig, if_neg (Bool.eq_false_iff.mp h)]
    dsimp only
    rw [assignment_put]
  | revoke reason => cases h
  | confirmConnection claim => cases h
  | recordHeartbeat clientId => cases h
  | expireConnectionIfStale threshold => cases h

end Histories

/-- The first second of 1970, with one random byte for each id and a two-byte token. -/
def firstSecond : Environment where
  now := .epoch
  random := { assignmentSuffix := [1], configSuffix := [2], token := [0xab, 0x05], auditSuffix := [3] }
  fingerprintSeed := "host"
  writeFileAtomic body := some body

/-- A context whose documents are not looked at. -/
def blankContext : ServiceContext := { dump := fun _ => [] }

/-- Selecting a provider, and a claim with the configuration that was issued. -/
def firstSteps : List (Call × Environment) :=
  [(.selectAndIssue { provider := .claude }, firstSecond),
    (.confirmConnection
      { configId := "CFG-19700101T000000Z-02", provider := .claude, clientId := "desk",
        capabilities := ["supervisor.get_context"], token := "mcos-supervisor-token:ab05" },
      firstSecond)]

def firstConnection : World :=
  (histories blankContext {} none).run (histories blankContext {} none).init firstSteps

theorem fresh_firstSteps :
    (histories blankContext {} none).Allowed Fresh (histories blankContext {} none).init
      firstSteps := by
  refine ⟨fun _ old hold => ?_, fun hissues => ?_, trivial⟩
  · rw [List.mem_singleton.mp hold]
    decide +kernel
  · cases hissues

end Assignment
end MasterControl
