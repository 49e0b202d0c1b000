import MasterControl.Assignment.Service

/-!
# A rejected claim disturbs nothing

A claim is checked against the configuration in force before anything else is, and the check of
the token stands before the one that ends an expired configuration.  So a claim that is rejected
for what it says leaves its message with the assignment and nothing else (`OnlyMessageDiffers`),
and a caller who does not know the token cannot move the assignment at all, however often he
tries and whatever the time (`failed_claims_disturb_nothing`).
-/

namespace MasterControl
namespace Assignment

variable {context : ServiceContext} {env : Environment} {claim : SupervisorConnectionClaim}
  {s : Service}

/-! ## Reasons -/

/-- The messages of the rejections that are for what a claim says: the wrong provider,
configuration id, token or fingerprint, or a capability that may not be granted in a mode. -/
inductive ReasonOfClaim (mode : SupervisorMode) : String → Prop
  | provider : ReasonOfClaim mode "Provider mismatch with active assignment."
  | configId : ReasonOfClaim mode "Config id does not match the active assignment."
  | token : ReasonOfClaim mode
      "Supervisor assignment token is missing or does not match the active assignment."
  | fingerprint : ReasonOfClaim mode "Server fingerprint does not match the active assignment."
  | forbidden (cap : String) (h : cap ∈ forbiddenAutonomousSupervisorCapabilities) :
    ReasonOfClaim mode ("Forbidden capability requested: " ++ cap)
  | notAllowed (cap : String) (h : cap ∉ capabilitiesForMode mode) : ReasonOfClaim mode
      ("Capability not allowed in current mode (" ++ supervisorModeString mode ++ "): " ++ cap)

/-- The messages of the two rejections that are not: nothing is in force, or it has expired. -/
def noActiveAssignment : String := "No active supervisor assignment."
def hasExpired : String := "Supervisor configuration has expired; generate a new one."

/-- Two assignments that differ in their error message only. -/
def OnlyMessageDiffers (a b : SupervisorAssignment) : Prop :=
  b = { a with lastErrorMessage := b.lastErrorMessage }

theorem OnlyMessageDiffers.refl (a : SupervisorAssignment) : OnlyMessageDiffers a a := rfl

theorem OnlyMessageDiffers.trans {a b c : SupervisorAssignment} (hab : OnlyMessageDiffers a b)
    (hbc : OnlyMessageDiffers b c) : OnlyMessageDiffers a c := by
  rw [OnlyMessageDiffers] at hab hbc ⊢
  rw [hbc, hab]

/-- No reason of a claim is read as that a configuration has expired: the letters at the start
differ, or the words do. -/
theorem not_reasonOfClaim_hasExpired (mode : SupervisorMode) : ¬ ReasonOfClaim mode hasExpired := by
  generalize hmessage : hasExpired = message
  intro h
  have hlist := congrArg String.toList hmessage
  cases h with
  | provider => exact absurd hmessage (by decide)
  | configId => exact absurd hmessage (by decide)
  | token => exact absurd hmessage (by decide)
  | fingerprint => exact absurd hmessage (by decide)
  | forbidden cap _ =>
    rw [String.toList_append] at hlist
    exact absurd (congrArg List.head? hlist) (by simp [hasExpired])
  | notAllowed cap _ =>
    rw [String.toList_append, String.toList_append, String.toList_append] at hlist
    exact absurd (congrArg List.head? hlist) (by simp [hasExpired])

theorem reasonOfClaim_capabilityError {mode : SupervisorMode} {capabilities : List String}
    {message : String} (h : capabilityError mode capabilities = some message) :
    ReasonOfClaim mode message := by
  obtain ⟨cap, -, hcap⟩ := List.exists_of_findSome?_eq_some h
  split_ifs at hcap with hforbidden hallowed
  · exact Option.some.inj hcap ▸ ReasonOfClaim.forbidden cap hforbidden
  · exact Option.some.inj hcap ▸ ReasonOfClaim.notAllowed cap hallowed

/-! ## What a rejection does -/

/-- **The exits of a claim.**  Nothing is in force and nothing changes; or the claim is rejected
for what it says, and the message is left; or it knows the token and the configuration has
expired; or it knows the token and is accepted. -/
theorem confirmConnection_exits (context : ServiceContext) (env : Environment)
    (claim : SupervisorConnectionClaim) (s : Service) :
    ((confirmConnection context env claim s).1.errorMessage = noActiveAssignment ∧
        (confirmConnection context env claim s).2 = s) ∨
      ((confirmConnection context env claim s).1.ok = false ∧
        ReasonOfClaim s.assignment.mode (confirmConnection context env claim s).1.errorMessage ∧
        OnlyMessageDiffers s.assignment (confirmConnection context env claim s).2.assignment) ∨
      (claim.token = s.assignment.tokenRef ∧
        ((confirmConnection context env claim s).1.errorMessage = hasExpired ∨
          (confirmConnection context env claim s).1.ok = true)) := by
  unfold confirmConnection
  split_ifs with hended hprovider hconfig htoken hfingerprint hexpired
  · exact Or.inl ⟨rfl, rfl⟩
  · exact Or.inr (Or.inl ⟨rfl, ReasonOfClaim.provider, rfl⟩)
  · exact Or.inr (Or.inl ⟨rfl, ReasonOfClaim.configId, rfl⟩)
  · exact Or.inr (Or.inl ⟨rfl, ReasonOfClaim.token, rfl⟩)
  · exact Or.inr (Or.inl ⟨rfl, ReasonOfClaim.fingerprint, rfl⟩)
  · exact Or.inr (Or.inr ⟨not_not.mp (not_or.mp htoken).2, Or.inl rfl⟩)
  · split
    · rename_i message hcapability
      exact Or.inr (Or.inl ⟨rfl, reasonOfClaim_capabilityError hcapability, rfl⟩)
    · exact Or.inr (Or.inr ⟨not_not.mp (not_or.mp htoken).2, Or.inr rfl⟩)

/-- A rejection for what the claim says leaves its message, and nothing else. -/
theorem onlyMessageDiffers_of_reason (hok : (confirmConnection context env claim s).1.ok = false)
    (hreason : ReasonOfClaim s.assignment.mode
      (confirmConnection context env claim s).1.errorMessage) :
    OnlyMessageDiffers s.assignment (confirmConnection context env claim s).2.assignment := by
  rcases confirmConnection_exits context env claim s with
    ⟨-, hsame⟩ | ⟨-, -, honly⟩ | ⟨-, hexpired | haccepted⟩
  · rw [hsame]
    exact OnlyMessageDiffers.refl _
  · exact honly
  · rw [hexpired] at hreason
    exact absurd hreason (not_reasonOfClaim_hasExpired _)
  · rw [hok] at haccepted
    cases haccepted

/-- So does a claim with a token that is not in force. -/
theorem onlyMessageDiffers_of_token (htoken : claim.token ≠ s.assignment.tokenRef) :
    OnlyMessageDiffers s.assignment (confirmConnection context env claim s).2.assignment := by
  rcases confirmConnection_exits context env claim s with ⟨-, hsame⟩ | ⟨-, -, honly⟩ | ⟨heq, -⟩
  · rw [hsame]
    exact OnlyMessageDiffers.refl _
  · exact honly
  · exact absurd heq htoken

/-- Claims one after the other, at any times. -/
def claimsInTurn (context : ServiceContext)
    (claims : List (SupervisorConnectionClaim × Environment)) (s : Service) : Service :=
  claims.foldl (fun s made => (confirmConnection context made.2 made.1 s).2) s

/-- A caller who does not know the token keeps not knowing it. -/
theorem onlyMessageDiffers_claimsInTurn {claims : List (SupervisorConnectionClaim × Environment)}
    (hclaims : ∀ made ∈ claims, made.1.token ≠ s.assignment.tokenRef) :
    OnlyMessageDiffers s.assignment (claimsInTurn context claims s).assignment := by
  induction claims generalizing s with
  | nil => exact OnlyMessageDiffers.refl _
  | cons made claims ih =>
    rw [List.forall_mem_cons] at hclaims
    have hone : OnlyMessageDiffers s.assignment
        (confirmConnection context made.2 made.1 s).2.assignment :=
      onlyMessageDiffers_of_token hclaims.1
    have htoken : (confirmConnection context made.2 made.1 s).2.assignment.tokenRef =
        s.assignment.tokenRef := by
      rw [hone]
    refine hone.trans (ih fun other hother => ?_)
    rw [htoken]
    exact hclaims.2 other hother

/-- **Failed claims disturb nothing.**  Whatever is in force: a claim that is rejected for what it
says changes no field but the error message; and however many claims are made with tokens that are
not in force, at whatever times, none is accepted, no field but the error message has changed
after them, and the state, the client and the two times of the connection are those before. -/
theorem failed_claims_disturb_nothing (context : ServiceContext) (s : Service) :
    (∀ env claim, (confirmConnection context env claim s).1.ok = false →
      ReasonOfClaim s.assignment.mode (confirmConnection context env claim s).1.errorMessage →
      OnlyMessageDiffers s.assignment (confirmConnection context env claim s).2.assignment) ∧
    (∀ env claim, claim.token ≠ s.assignment.tokenRef →
      (confirmConnection context env claim s).1.ok = false) ∧
    ∀ claims : List (SupervisorConnectionClaim × Environment),
      (∀ made ∈ claims, made.1.token ≠ s.assignment.tokenRef) →
      OnlyMessageDiffers s.assignment (claimsInTurn context claims s).assignment ∧
        (claimsInTurn context claims s).assignment.state = s.assignment.state ∧
        (claimsInTurn context claims s).assignment.clientId = s.assignment.clientId ∧
        (claimsInTurn context claims s).assignment.connectedAtUtc = s.assignment.connectedAtUtc ∧
        (claimsInTurn context claims s).assignment.lastHeartbeatUtc =
          s.assignment.lastHeartbeatUtc := by
  refine ⟨fun env claim => onlyMessageDiffers_of_reason, fun env claim htoken => ?_,
    fun claims hclaims => ?_⟩
  · unfold confirmConnection
    split_ifs with hended hprovider hconfig hmissing
    · rfl
    · rfl
    · rfl
    · rfl
    · exact absurd (Or.inr htoken) hmissing
    · exact absurd (Or.inr htoken) hmissing
    · exact absurd (Or.inr htoken) hmissing
  · have honly : OnlyMessageDiffers s.assignment (claimsInTurn context claims s).assignment :=
      onlyMessageDiffers_claimsInTurn hclaims
    refine ⟨honly, ?_⟩
    rw [honly]
    exact ⟨rfl, rfl, rfl, rfl⟩

end Assignment
end MasterControl
