import MasterControl.Admin.ClientRoutes

/-!
# Who may change the authority of a client

The narrow routes of the roster each ask for the decision that goes with what they change.
`POST /api/clients` asks for a registration only, and the service then writes the whole record:
of a client that is registered already it replaces the authority, and a new one it stores with
autonomous mode switched on if the body says so (`OverwritesAuthority`).  This is the only way
around (`client_authority_iff`).
-/

namespace MasterControl
namespace Admin

open Foundation Gateway Supervisor Clients Governance MasterControl.Configuration

/-! ## The law -/

/-- The questions about an action on a client; the service lower-cases the id. -/
def Targets (action : GovernanceActionKind) (id : String)
    (request : GovernanceEnforcementRequest) : Prop :=
  request.action = action ∧ normalizeId request.targetId = id

structure GovernedAuthority (clu : CommandLogicUnit) (route : ClientRoute)
    (before : List LanClient) (reply : Reply (List LanClient)) : Prop where
  privileges : ∀ id, Registered id before → Registered id reply.state →
    ¬ SameUnder LanClient.privileges id before reply.state →
      Asked clu (Targets .clientPrivilegeChange id) reply
  autonomousMode : ∀ id, countOn LanClient.autonomousMode id before <
      countOn LanClient.autonomousMode id reply.state →
    Asked clu (fun r => Targets .clientAutonomousModeChange id r ∧ r.source = "enable") reply
  revoke : ∀ id, Registered id before →
    ¬ Registered id reply.state ∨
      countOn LanClient.enabled id reply.state < countOn LanClient.enabled id before →
    Asked clu (Targets .clientRevoke id) reply
  /-- A registration leaves the authority of every registered client alone. -/
  register : route = .upsert → ∀ id, Registered id before →
    SameUnder LanClient.authority id before reply.state

/-- The client of a request is known and enabled, and may manage clients. -/
structure Manages (request : ClientRequest) (roster : List LanClient) (client : LanClient) :
    Prop where
  known : getClient request.headerClientId roster = some client
  enabled : client.enabled = true
  manages : hasCapability (capabilitiesForClient client) kCapabilityClientsManage = true

/-- The authority in a body differs from what is registered; of a client that is not, autonomous
mode is switched on. -/
def Overwrites (input : LanClient) (registered : Option Authority) : Prop :=
  match registered with
  | none => input.autonomousMode = true
  | some authority => authority ≠ input.authority

/-- `POST /api/clients` passes, and its record does more than register. -/
def OverwritesAuthority (clu : CommandLogicUnit) (request : ClientRequest)
    (roster : List LanClient) : Prop :=
  ∃ client input, Manages request roster client ∧ request.route = .upsert ∧
    request.body.client = .value input ∧
    Allows clu ((clientContext client).question .clientRegister input.clientId "") ∧
    clientProblem input = none ∧
    Overwrites input (authorityOf (normalizeId input.clientId) roster)

/-! ## Rosters with the same authority -/

section Same

variable {clu : CommandLogicUnit} {route : ClientRoute} {before before' after : List LanClient}
  {reply : Reply (List LanClient)} {id : String} {flag : LanClient → Bool}

theorem countOn_eq_of_sameUnder (h : SameUnder flag id before after) :
    countOn flag id before = countOn flag id after := h.count_eq true

theorem sameUnder_of_under_eq {β : Type} {f : LanClient → β}
    (h : under f id after = under f id before) : SameUnder f id before after :=
  List.Perm.of_eq h.symm

/-- Where the authorities stay, the law holds. -/
theorem governedAuthority_of_same
    (h : ∀ id, SameUnder LanClient.authority id before reply.state) :
    GovernedAuthority clu route before reply where
  privileges id _ _ hchanged := absurd ((h id).comp Authority.privileges) hchanged
  autonomousMode id hless :=
    absurd (countOn_eq_of_sameUnder ((h id).comp Authority.autonomousMode)) (ne_of_lt hless)
  revoke id hbefore hrevoked := by
    rcases hrevoked with hgone | hless
    · exact absurd ((h id).registered_iff.mp hbefore) hgone
    · exact absurd (countOn_eq_of_sameUnder ((h id).comp Authority.enabled)) (ne_of_gt hless)
  register _ id _ := h id

theorem governedAuthority_of_state_eq (h : reply.state = before) :
    GovernedAuthority clu route before reply :=
  governedAuthority_of_same fun id => by
    rw [h]
    exact SameUnder.refl _ id before

/-- The law looks at the authorities only. -/
theorem GovernedAuthority.of_under_eq
    (hunder : ∀ id, under LanClient.authority id before = under LanClient.authority id before')
    (h : GovernedAuthority clu route before reply) :
    GovernedAuthority clu route before' reply := by
  have hpart : ∀ {β : Type} (part : Authority → β) id,
      under (part ∘ LanClient.authority) id before =
        under (part ∘ LanClient.authority) id before' :=
    fun part id => by rw [under_comp, under_comp, hunder]
  have hregistered : ∀ id, Registered id before ↔ Registered id before' := fun id => by
    rw [registered_iff (f := LanClient.authority), registered_iff (f := LanClient.authority),
      hunder]
  have hsame : ∀ {β : Type} (part : Authority → β) id after,
      SameUnder (part ∘ LanClient.authority) id before after ↔
        SameUnder (part ∘ LanClient.authority) id before' after := fun part id after => by
    unfold SameUnder
    rw [hpart]
  refine ⟨fun id hbefore hafter hchanged => ?_, fun id hless => ?_, fun id hbefore hrevoked => ?_,
    fun hroute id hbefore => ?_⟩
  · exact h.privileges id ((hregistered id).mpr hbefore) hafter
      (mt (hsame Authority.privileges id _).mp hchanged)
  · refine h.autonomousMode id (lt_of_eq_of_lt ?_ hless)
    exact congrArg (List.count true) (hpart Authority.autonomousMode id)
  · refine h.revoke id ((hregistered id).mpr hbefore) (hrevoked.imp_right fun hless => ?_)
    refine lt_of_lt_of_eq hless ?_
    exact congrArg (List.count true) (hpart Authority.enabled id).symm
  · have h' := h.register hroute id ((hregistered id).mpr hbefore)
    unfold SameUnder at h' ⊢
    rwa [← hunder id]

end Same

/-! ## Routes -/

section Routes

variable {clu : CommandLogicUnit} {context : AuthenticatedRequestContext}
  {env : RosterEnvironment} {roster : List LanClient}

/-- A refused edit changes nothing. -/
theorem state_editRoster_of_refusal {edit : RosterEdit} {status : OperationResult → Nat}
    {result : OperationResult} (h : edit.refusal roster = some result) :
    (editRoster env roster edit status).state = roster := by
  unfold editRoster RosterEdit.perform
  rw [h]

theorem state_editRoster_of_accepted {edit : RosterEdit} {status : OperationResult → Nat}
    (h : edit.refusal roster = none) :
    (editRoster env roster edit status).state = edit.apply roster := by
  unfold editRoster RosterEdit.perform
  rw [h]

/-- A route behind its question: nothing happens, or it was asked and allowed. -/
theorem gated_cases (action : GovernanceActionKind) (targetId source : String)
    (next : Reply (List LanClient)) :
    (requireManageClients context roster
        (enforceGovernance context clu action targetId source roster next)).state = roster ∨
      Asked clu (fun r => r = context.question action targetId source)
        (requireManageClients context roster
          (enforceGovernance context clu action targetId source roster next)) ∧
      (requireManageClients context roster
        (enforceGovernance context clu action targetId source roster next)).state = next.state := by
  unfold requireManageClients
  by_cases hcan : context.privileges.canManageClients = true
  · rw [requirePrivilege_of_granted hcan]
    rcases enforceGovernance_cases context clu action targetId source roster next with
      ⟨hstate, -⟩ | ⟨hallows, he⟩
    · exact Or.inl hstate
    · rw [he]
      exact Or.inr ⟨⟨_, List.mem_cons_self, rfl, rfl, hallows⟩, rfl⟩
  · rw [requirePrivilege_of_not_granted hcan]
    exact Or.inl rfl

theorem Asked.imp {σ : Type} {about about' : GovernanceEnforcementRequest → Prop}
    {reply : Reply σ} (h : Asked clu about reply) (himp : ∀ r, about r → about' r) :
    Asked clu about' reply := by
  obtain ⟨q, hq, habout, hdecision⟩ := h
  exact ⟨q, hq, himp _ habout, hdecision⟩

/-- What a rewriting of one client keeps is the same. -/
theorem sameUnder_rewriteClient {β : Type} {f : LanClient → β} {g : LanClient → LanClient}
    (hid : ∀ c, (g c).clientId = c.clientId) (hf : ∀ c, f (g c) = f c) (clientId id : String) :
    SameUnder f id roster (rewriteClient clientId g roster) :=
  sameUnder_of_under_eq (under_updateFirst hid hf id)

theorem registered_rewriteClient {g : LanClient → LanClient}
    (hid : ∀ c, (g c).clientId = c.clientId) (clientId id : String) :
    Registered id roster ↔ Registered id (rewriteClient clientId g roster) :=
  (sameUnder_rewriteClient (f := LanClient.clientId) hid hid clientId id).registered_iff

theorem sameUnder_rewriteClient_of_ne {β : Type} {f : LanClient → β}
    {g : LanClient → LanClient} (hid : ∀ c, (g c).clientId = c.clientId) {clientId id : String}
    (hne : id ≠ normalizeId clientId) : SameUnder f id roster (rewriteClient clientId g roster) :=
  sameUnder_of_under_eq (under_updateFirst_of_ne hne fun c hc => (hid c).trans hc)

theorem countOn_rewriteClient_of_ne {flag : LanClient → Bool} {g : LanClient → LanClient}
    (hid : ∀ c, (g c).clientId = c.clientId) {clientId id : String}
    (hne : id ≠ normalizeId clientId) :
    countOn flag id (rewriteClient clientId g roster) = countOn flag id roster :=
  (countOn_eq_of_sameUnder (sameUnder_rewriteClient_of_ne hid hne)).symm

/-- A rewriting that switches a flag off at most. -/
theorem countOn_rewriteClient_le {flag : LanClient → Bool} {g : LanClient → LanClient}
    (hid : ∀ c, (g c).clientId = c.clientId) (hflag : ∀ c, flag (g c) = true → flag c = true)
    (clientId id : String) :
    countOn flag id (rewriteClient clientId g roster) ≤ countOn flag id roster := by
  by_cases hne : id = normalizeId clientId
  · subst hne
    unfold countOn rewriteClient
    cases hfind : roster.find? (LanClient.isNamed (normalizeId clientId)) with
    | none => rw [updateFirst_of_find?_none hfind]
    | some client =>
      obtain ⟨rest, hbefore, hafter⟩ := under_updateFirst_self (f := flag) hfind
        fun c hc => (hid c).trans hc
      rw [hbefore, hafter, List.count_cons, List.count_cons]
      cases hset : flag (g client) with
      | true => rw [hflag client hset]
      | false => exact Nat.add_le_add_left (Nat.zero_le _) _
  · exact (countOn_rewriteClient_of_ne hid hne).le

/-- A rewriting that switches a flag on at most. -/
theorem le_countOn_rewriteClient {flag : LanClient → Bool} {g : LanClient → LanClient}
    (hid : ∀ c, (g c).clientId = c.clientId) (hflag : ∀ c, flag c = true → flag (g c) = true)
    (clientId id : String) :
    countOn flag id roster ≤ countOn flag id (rewriteClient clientId g roster) := by
  by_cases hne : id = normalizeId clientId
  · subst hne
    unfold countOn rewriteClient
    cases hfind : roster.find? (LanClient.isNamed (normalizeId clientId)) with
    | none => rw [updateFirst_of_find?_none hfind]
    | some client =>
      obtain ⟨rest, hbefore, hafter⟩ := under_updateFirst_self (f := flag) hfind
        fun c hc => (hid c).trans hc
      rw [hbefore, hafter, List.count_cons, List.count_cons]
      cases hset : flag client with
      | true => rw [hflag client hset]
      | false => exact Nat.add_le_add_left (Nat.zero_le _) _
  · exact (countOn_rewriteClient_of_ne hid hne).ge

/-- A route that writes through an edit: nothing happens, or it was asked and the edit is what
happens. -/
theorem edited_cases (action : GovernanceActionKind) (targetId source : String)
    (edit : RosterEdit) (status : OperationResult → Nat) :
    (requireManageClients context roster (enforceGovernance context clu action targetId source
        roster (editRoster env roster edit status))).state = roster ∨
      Asked clu (fun r => r = context.question action targetId source)
        (requireManageClients context roster (enforceGovernance context clu action targetId source
          roster (editRoster env roster edit status))) ∧
      (requireManageClients context roster (enforceGovernance context clu action targetId source
        roster (editRoster env roster edit status))).state = edit.apply roster := by
  rcases @gated_cases clu context roster action targetId source
    (editRoster env roster edit status) with hstate | ⟨hasked, hstate⟩
  · exact Or.inl hstate
  · cases hrefusal : edit.refusal roster with
    | some result =>
      rw [state_editRoster_of_refusal hrefusal] at hstate
      exact Or.inl hstate
    | none =>
      rw [state_editRoster_of_accepted hrefusal] at hstate
      exact Or.inr ⟨hasked, hstate⟩

/-- A route that rewrites the record of one client is governed, if whatever it changes of the
authority was asked for. -/
theorem governed_rewriteClient {route : ClientRoute} {reply : Reply (List LanClient)}
    {clientId : String} {g : LanClient → LanClient}
    (hstate : reply.state = rewriteClient clientId g roster) (hroute : route ≠ .upsert)
    (hid : ∀ c, (g c).clientId = c.clientId)
    (hprivileges : (∀ c, (g c).privileges = c.privileges) ∨
      Asked clu (Targets .clientPrivilegeChange (normalizeId clientId)) reply)
    (hautonomous : (∀ c, (g c).autonomousMode = true → c.autonomousMode = true) ∨
      Asked clu (fun r => Targets .clientAutonomousModeChange (normalizeId clientId) r ∧
        r.source = "enable") reply)
    (henabled : (∀ c, c.enabled = true → (g c).enabled = true) ∨
      Asked clu (Targets .clientRevoke (normalizeId clientId)) reply) :
    GovernedAuthority clu route roster reply where
  privileges id _ _ hchanged := by
    rw [hstate] at hchanged
    by_cases hne : id = normalizeId clientId
    · subst hne
      rcases hprivileges with hkept | hasked
      · exact absurd (sameUnder_rewriteClient hid hkept clientId _) hchanged
      · exact hasked
    · exact absurd (sameUnder_rewriteClient_of_ne hid hne) hchanged
  autonomousMode id hless := by
    rw [hstate] at hless
    by_cases hne : id = normalizeId clientId
    · subst hne
      rcases hautonomous with hkept | hasked
      · exact absurd (countOn_rewriteClient_le hid hkept clientId _) (not_le_of_gt hless)
      · exact hasked
    · exact absurd (countOn_rewriteClient_of_ne hid hne) (ne_of_gt hless)
  revoke id hbefore hrevoked := by
    rw [hstate] at hrevoked
    rcases hrevoked with hgone | hless
    · exact absurd ((registered_rewriteClient hid clientId id).mp hbefore) hgone
    · by_cases hne : id = normalizeId clientId
      · subst hne
        rcases henabled with hkept | hasked
        · exact absurd (le_countOn_rewriteClient hid hkept clientId _) (not_le_of_gt hless)
        · exact hasked
      · exact absurd (countOn_rewriteClient_of_ne hid hne) (ne_of_lt hless)
  register h := absurd h hroute

theorem governed_postDisable (clientId : String) :
    GovernedAuthority clu (.disable clientId) roster
      (postDisable clu context env roster clientId) := by
  unfold postDisable
  rcases edited_cases .clientRevoke clientId "" (disableClient env.timestampNowUtc clientId)
    okOrBadRequest with hstate | ⟨hasked, hstate⟩
  · exact governedAuthority_of_state_eq hstate
  · refine governed_rewriteClient hstate (fun h => by cases h) (fun _ => rfl) (Or.inl fun _ => rfl)
      (Or.inl fun _ h => h) (Or.inr (hasked.imp ?_))
    rintro r rfl
    exact ⟨rfl, rfl⟩

theorem governed_postEnable (clientId : String) :
    GovernedAuthority clu (.enable clientId) roster
      (postEnable clu context env roster clientId) := by
  unfold postEnable
  rcases edited_cases .clientRegister clientId "" (enableClient env.timestampNowUtc clientId)
    okOrBadRequest with hstate | ⟨-, hstate⟩
  · exact governedAuthority_of_state_eq hstate
  · exact governed_rewriteClient hstate (fun h => by cases h) (fun _ => rfl)
      (Or.inl fun _ => rfl) (Or.inl fun _ h => h) (Or.inl fun _ _ => rfl)

theorem governed_postPrivileges (clientId : String) (body : Except String LanClientPrivileges) :
    GovernedAuthority clu (.privileges clientId) roster
      (postPrivileges clu context env roster clientId body) := by
  unfold postPrivileges
  cases body with
  | error exception =>
    rcases gated_cases .clientPrivilegeChange clientId "" (badRequest roster _) with
      hstate | ⟨-, hstate⟩
    · exact governedAuthority_of_state_eq hstate
    · exact governedAuthority_of_state_eq hstate
  | ok privileges =>
    rcases edited_cases .clientPrivilegeChange clientId "" (setPrivileges clientId privileges)
      okOrNotFound with hstate | ⟨hasked, hstate⟩
    · exact governedAuthority_of_state_eq hstate
    · refine governed_rewriteClient hstate (fun h => by cases h) (fun _ => rfl)
        (Or.inr (hasked.imp ?_)) (Or.inl fun _ h => h) (Or.inl fun _ h => h)
      rintro r rfl
      exact ⟨rfl, rfl⟩

/-- Switching off needs no question of the law, and switching on is asked for as such. -/
theorem governed_postAutonomousMode (clientId : String) (body : Except String Bool) :
    GovernedAuthority clu (.autonomousMode clientId) roster
      (postAutonomousMode clu context env roster clientId body) := by
  unfold postAutonomousMode
  cases body with
  | error exception =>
    refine governedAuthority_of_state_eq ?_
    unfold requireManageClients requirePrivilege
    split <;> rfl
  | ok enabled =>
    rcases edited_cases .clientAutonomousModeChange clientId
      (if enabled then "enable" else "disable") (setAutonomousMode clientId enabled)
      okOrNotFound with hstate | ⟨hasked, hstate⟩
    · exact governedAuthority_of_state_eq hstate
    · refine governed_rewriteClient hstate (fun h => by cases h) (fun _ => rfl)
        (Or.inl fun _ => rfl) ?_ (Or.inl fun _ h => h)
      cases enabled with
      | false => exact Or.inl fun _ h => by cases h
      | true =>
        refine Or.inr (hasked.imp ?_)
        rintro r rfl
        exact ⟨⟨rfl, rfl⟩, rfl⟩

theorem governed_deleteClient (clientId : String) :
    GovernedAuthority clu (.delete clientId) roster
      (deleteClient clu context env roster clientId) := by
  unfold deleteClient
  split
  · refine governedAuthority_of_state_eq ?_
    unfold requireManageClients requirePrivilege
    split <;> rfl
  · rcases edited_cases .clientRevoke clientId "" (removeClient clientId) okOrNotFound with
      hstate | ⟨hasked, hstate⟩
    · exact governedAuthority_of_state_eq hstate
    · -- under the id nothing is left, and the rest is as it was
      have hnone : ∀ {β : Type} (f : LanClient → β), under f (normalizeId clientId)
          (roster.filter fun c => !c.isNamed (normalizeId clientId)) = [] := fun f => by
        by_contra hne
        obtain ⟨client, hmem, hclient⟩ := registered_iff.mpr hne
        have htest := List.of_mem_filter hmem
        rw [isNamed_iff.mpr hclient] at htest
        cases htest
      have hrest : ∀ {β : Type} (f : LanClient → β) {id}, id ≠ normalizeId clientId →
          SameUnder f id roster
            (roster.filter fun c => !c.isNamed (normalizeId clientId)) :=
        fun f id hne => sameUnder_of_under_eq (under_filter_of_ne hne)
      refine ⟨fun id _ hafter hchanged => ?_, fun id hless => ?_, fun id hbefore hrevoked => ?_,
        fun h => by cases h⟩
      · rw [hstate] at hafter hchanged
        by_cases hne : id = normalizeId clientId
        · subst hne
          exact absurd (hnone LanClient.privileges) (registered_iff.mp hafter)
        · exact absurd (hrest LanClient.privileges hne) hchanged
      · rw [hstate] at hless
        by_cases hne : id = normalizeId clientId
        · subst hne
          have hzero := congrArg (List.count true) (hnone LanClient.autonomousMode)
          exact absurd (hless.trans_eq hzero) (Nat.not_lt_zero _)
        · exact absurd (countOn_eq_of_sameUnder (hrest _ hne)) (ne_of_lt hless)
      · rw [hstate] at hrevoked
        by_cases hne : id = normalizeId clientId
        · subst hne
          refine hasked.imp ?_
          rintro r rfl
          exact ⟨rfl, rfl⟩
        · rcases hrevoked with hgone | hless
          · exact absurd ((hrest LanClient.clientId hne).registered_iff.mp hbefore) hgone
          · exact absurd (countOn_eq_of_sameUnder (hrest _ hne)) (ne_of_gt hless)

/-! ## Registrations -/

/-- An accepted registration that stores the authority it finds, or a new client without
autonomous mode, is governed. -/
theorem governed_upsertClient {reply : Reply (List LanClient)} {input : LanClient} {now : String}
    (hstate : reply.state = (upsertClient now input).apply roster)
    (hkept : ¬ Overwrites input (authorityOf (normalizeId input.clientId) roster)) :
    GovernedAuthority clu .upsert roster reply := by
  unfold authorityOf at hkept
  cases hfind : roster.find? (LanClient.isNamed (normalizeId input.clientId)) with
  | some old =>
    rw [hfind] at hkept
    have hauthority : old.authority = input.authority := not_not.mp hkept
    refine governedAuthority_of_same fun id => ?_
    rw [hstate]
    by_cases hne : id = normalizeId input.clientId
    · subst hne
      obtain ⟨rest, hbefore, hafter⟩ := under_upsertClient_of_some (f := LanClient.authority)
        hfind
      refine List.Perm.trans (List.Perm.of_eq ?_) hafter.symm
      rw [hbefore, hauthority]
      rfl
    · exact sameUnder_upsertClient_of_ne hne
  | none =>
    rw [hfind] at hkept
    have hmode : input.autonomousMode = false := Bool.eq_false_iff.mpr hkept
    have hnew := find?_isNamed_eq_none_iff.mp hfind
    refine ⟨fun id hbefore _ hchanged => ?_, fun id hless => ?_, fun id hbefore hrevoked => ?_,
      fun _ id hbefore => ?_⟩
    · have hne : id ≠ normalizeId input.clientId := by
        rintro rfl
        exact hnew hbefore
      rw [hstate] at hchanged
      exact absurd (sameUnder_upsertClient_of_ne hne) hchanged
    · rw [hstate] at hless
      by_cases hne : id = normalizeId input.clientId
      · subst hne
        have hcount : countOn LanClient.autonomousMode (normalizeId input.clientId)
            ((upsertClient now input).apply roster) = _ :=
          (under_upsertClient_of_none hfind).count_eq true
        refine absurd (hless.trans_eq (hcount.trans ?_)) (Nat.not_lt_zero _)
        rw [List.count_singleton]
        exact if_neg (by rw [beq_true]; exact Bool.eq_false_iff.mp hmode)
      · exact absurd (countOn_eq_of_sameUnder (sameUnder_upsertClient_of_ne hne)) (ne_of_lt hless)
    · have hne : id ≠ normalizeId input.clientId := by
        rintro rfl
        exact hnew hbefore
      rw [hstate] at hrevoked
      rcases hrevoked with hgone | hless
      · have hsame :
            SameUnder LanClient.clientId id roster ((upsertClient now input).apply roster) :=
          sameUnder_upsertClient_of_ne hne
        exact absurd (hsame.registered_iff.mp hbefore) hgone
      · exact absurd (countOn_eq_of_sameUnder (sameUnder_upsertClient_of_ne hne)) (ne_of_gt hless)
    · rw [hstate]
      refine sameUnder_upsertClient_of_ne ?_
      rintro rfl
      exact hnew hbefore

/-- One that does more is not, whatever else was asked for but switching autonomous mode on. -/
theorem not_governed_upsertClient {reply : Reply (List LanClient)} {input : LanClient}
    {now : String} (hstate : reply.state = (upsertClient now input).apply roster)
    (hasked : ∀ q ∈ reply.asked, q.request.action = .clientRegister)
    (hmore : Overwrites input (authorityOf (normalizeId input.clientId) roster)) :
    ¬ GovernedAuthority clu .upsert roster reply := by
  intro h
  unfold authorityOf at hmore
  cases hfind : roster.find? (LanClient.isNamed (normalizeId input.clientId)) with
  | some old =>
    rw [hfind] at hmore
    obtain ⟨rest, hbefore, hafter⟩ : ∃ rest,
        under LanClient.authority (normalizeId input.clientId) roster = old.authority :: rest ∧
          (under LanClient.authority (normalizeId input.clientId)
            ((upsertClient now input).apply roster)).Perm (input.authority :: rest) :=
      under_upsertClient_of_some hfind
    have hregistered : Registered (normalizeId input.clientId) roster := by
      rw [registered_iff (f := LanClient.authority), hbefore]
      exact List.cons_ne_nil _ _
    have hsame := h.register rfl _ hregistered
    rw [hstate] at hsame
    unfold SameUnder at hsame
    rw [hbefore] at hsame
    exact hmore (perm_cons_iff_eq.mp (hsame.trans hafter))
  | none =>
    rw [hfind] at hmore
    have hmode : (registeredClient now (normalizedClient input)).autonomousMode = true := hmore
    have hbefore : under LanClient.autonomousMode (normalizeId input.clientId) roster = [] := by
      by_contra hne
      exact find?_isNamed_eq_none_iff.mp hfind (registered_iff.mpr hne)
    have hcount : countOn LanClient.autonomousMode (normalizeId input.clientId)
        ((upsertClient now input).apply roster) = _ :=
      (under_upsertClient_of_none hfind).count_eq true
    have hless : countOn LanClient.autonomousMode (normalizeId input.clientId) roster <
        countOn LanClient.autonomousMode (normalizeId input.clientId) reply.state := by
      rw [hstate, hcount, hmode]
      unfold countOn
      rw [hbefore]
      exact Nat.zero_lt_one
    obtain ⟨q, hq, ⟨⟨haction, -⟩, -⟩, -⟩ := h.autonomousMode _ hless
    rw [hasked q hq] at haction
    cases haction

/-- `POST /api/clients` passes with a record that does more than register. -/
def PassesOverwriting (clu : CommandLogicUnit) (context : AuthenticatedRequestContext)
    (roster : List LanClient) (body : Body LanClient) : Prop :=
  ∃ input, body = .value input ∧ context.privileges.canManageClients = true ∧
    Allows clu (context.question .clientRegister input.clientId "") ∧
    clientProblem input = none ∧
    Overwrites input (authorityOf (normalizeId input.clientId) roster)

theorem governed_postClient_iff (body : Body LanClient) :
    GovernedAuthority clu .upsert roster (postClient clu context env roster body) ↔
      ¬ PassesOverwriting clu context roster body := by
  cases body with
  | malformed exception =>
    refine iff_of_true (governedAuthority_of_state_eq ?_) (fun ⟨_, he, _⟩ => by cases he)
    rcases gated_cases .clientRegister "" "" (badRequest roster _) with hstate | ⟨-, hstate⟩
    · exact hstate
    · exact hstate
  | unreadable newClientId exception =>
    refine iff_of_true (governedAuthority_of_state_eq ?_) (fun ⟨_, he, _⟩ => by cases he)
    rcases gated_cases .clientRegister newClientId "" (badRequest roster _) with
      hstate | ⟨-, hstate⟩
    · exact hstate
    · exact hstate
  | value input =>
    have hpasses : PassesOverwriting clu context roster (.value input) ↔
        context.privileges.canManageClients = true ∧
          Allows clu (context.question .clientRegister input.clientId "") ∧
          clientProblem input = none ∧
          Overwrites input (authorityOf (normalizeId input.clientId) roster) := by
      constructor
      · rintro ⟨_, he, h⟩
        cases he
        exact h
      · exact fun h => ⟨input, rfl, h⟩
    rw [hpasses]
    unfold postClient requireManageClients
    by_cases hcan : context.privileges.canManageClients = true
    · rw [requirePrivilege_of_granted hcan]
      change GovernedAuthority clu .upsert roster (enforceGovernance context clu .clientRegister
        input.clientId "" roster (editRoster env roster (upsertClient env.timestampNowUtc input)
          okOrBadRequest)) ↔ _
      rcases enforceGovernance_cases context clu .clientRegister input.clientId "" roster
        (editRoster env roster (upsertClient env.timestampNowUtc input) okOrBadRequest) with
        ⟨hstate, hnot⟩ | ⟨hallows, he⟩
      · exact iff_of_true (governedAuthority_of_state_eq hstate) fun h => hnot h.2.1
      · have hasked : ∀ q ∈ (enforceGovernance context clu .clientRegister input.clientId "" roster
            (editRoster env roster (upsertClient env.timestampNowUtc input)
              okOrBadRequest)).asked, q.request.action = .clientRegister := fun q hq => by
          rw [he] at hq
          rw [List.mem_singleton.mp hq]
          rfl
        cases hproblem : clientProblem input with
        | some result =>
          refine iff_of_true (governedAuthority_of_state_eq ?_) fun h => by cases h.2.2.1
          rw [he]
          change (editRoster env roster (upsertClient env.timestampNowUtc input)
            okOrBadRequest).state = roster
          exact state_editRoster_of_refusal hproblem
        | none =>
          have hstate : (enforceGovernance context clu .clientRegister input.clientId "" roster
              (editRoster env roster (upsertClient env.timestampNowUtc input)
                okOrBadRequest)).state = (upsertClient env.timestampNowUtc input).apply roster := by
            rw [he]
            change (editRoster env roster (upsertClient env.timestampNowUtc input)
              okOrBadRequest).state = _
            exact state_editRoster_of_accepted hproblem
          by_cases hmore : Overwrites input (authorityOf (normalizeId input.clientId) roster)
          · exact iff_of_false (not_governed_upsertClient hstate hasked hmore)
              (not_not.mpr ⟨hcan, hallows, rfl, hmore⟩)
          · exact iff_of_true (governed_upsertClient hstate hmore) fun h => hmore h.2.2.2
    · rw [requirePrivilege_of_not_granted hcan]
      exact iff_of_true (governedAuthority_of_state_eq rfl) fun h => hcan h.1

theorem governed_serveClients_iff (route : ClientRoute) (body : ClientBody) :
    GovernedAuthority clu route roster (serveClients clu context env roster route body) ↔
      ¬ (route = .upsert ∧ PassesOverwriting clu context roster body.client) := by
  cases route with
  | upsert =>
    rw [eq_self_iff_true, true_and]
    exact governed_postClient_iff body.client
  | disable clientId => exact iff_of_true (governed_postDisable clientId) fun h => by cases h.1
  | enable clientId => exact iff_of_true (governed_postEnable clientId) fun h => by cases h.1
  | privileges clientId =>
    exact iff_of_true (governed_postPrivileges clientId body.privileges) fun h => by cases h.1
  | autonomousMode clientId =>
    exact iff_of_true (governed_postAutonomousMode clientId body.enabled) fun h => by cases h.1
  | delete clientId => exact iff_of_true (governed_deleteClient clientId) fun h => by cases h.1
  | elsewhere => exact iff_of_true (governedAuthority_of_state_eq rfl) fun h => by cases h.1

/-! ## Requests -/

theorem under_authority_touchClient (now clientId id : String) :
    under LanClient.authority id (touchClient now clientId "" roster) =
      under LanClient.authority id roster :=
  under_touchClient (fun _ => rfl) id

/-- Who holds the capability has the privilege. -/
theorem canManageClients_clientContext {client : LanClient}
    (h : hasCapability (capabilitiesForClient client) kCapabilityClientsManage = true) :
    (clientContext client).privileges.canManageClients = true := by
  unfold clientContext privilegesWithCapabilities
  dsimp only
  rw [if_pos h]

theorem required_of_upsert {request : ClientRequest} (h : request.route = .upsert) :
    requiredCapabilitiesForRoute request.method request.path = [kCapabilityClientsManage] := by
  have hpost : request.method = "POST" ∧ request.path = clientsPath := by
    unfold ClientRequest.route ClientRoute.of at h
    split at h
    · next hcase => simpa using hcase
    · split_ifs at h
  unfold requiredCapabilitiesForRoute
  rw [hpost.1, hpost.2]
  decide

end Routes

/-- **Who may change the authority of a client**: every change is asked for as what it is, unless a
registration overwrites it. -/
theorem client_authority_iff (clu : CommandLogicUnit) (env : RosterEnvironment)
    (request : ClientRequest) (roster : List LanClient) :
    GovernedAuthority clu request.route roster (handleClientRequest clu env request roster) ↔
      ¬ OverwritesAuthority clu request roster := by
  unfold handleClientRequest
  cases hknown : getClient request.headerClientId roster with
  | none =>
    refine iff_of_true (governedAuthority_of_state_eq rfl) ?_
    rintro ⟨client, input, hmanages, -⟩
    have hknown' := hmanages.known
    rw [hknown] at hknown'
    cases hknown'
  | some client =>
    have hsame : ∀ {client'}, getClient request.headerClientId roster = some client' →
        client' = client := fun h => Option.some_inj.mp (h.symm.trans hknown)
    dsimp only
    cases henabled : client.enabled with
    | false =>
      refine iff_of_true (governedAuthority_of_state_eq rfl) ?_
      rintro ⟨client', input, hmanages, -⟩
      have henabled' := hmanages.enabled
      rw [hsame hmanages.known, henabled] at henabled'
      cases henabled'
    | true =>
      rw [Bool.not_true, if_neg Bool.false_ne_true]
      have htouched := @under_authority_touchClient roster env.timestampNowUtc client.clientId
      split
      · next hcapable =>
        have hauthority : ∀ id, authorityOf id
            (touchClient env.timestampNowUtc client.clientId "" roster) = authorityOf id roster :=
          fun id => by rw [authorityOf_eq_head?, authorityOf_eq_head?, htouched]
        refine Iff.trans ⟨fun h => h.of_under_eq fun id => (htouched id).symm,
          fun h => h.of_under_eq htouched⟩ ((governed_serveClients_iff _ _).trans (not_congr ?_))
        constructor
        · rintro ⟨hroute, input, hbody, -, hallows, hproblem, hmore⟩
          rw [hauthority] at hmore
          refine ⟨client, input, ⟨hknown, henabled, ?_⟩, hroute, hbody, hallows, hproblem, hmore⟩
          rw [required_of_upsert hroute] at hcapable
          exact List.all_eq_true.mp hcapable _ (List.mem_singleton_self _)
        · rintro ⟨client', input, hmanages, hroute, hbody, hallows, hproblem, hmore⟩
          cases hsame hmanages.known
          refine ⟨hroute, input, hbody, canManageClients_clientContext hmanages.manages, hallows,
            hproblem, ?_⟩
          rw [hauthority]
          exact hmore
      · next hincapable =>
        refine iff_of_true (governedAuthority_of_same fun id =>
          sameUnder_of_under_eq (htouched id)) ?_
        rintro ⟨client', input, hmanages, hroute, -⟩
        cases hsame hmanages.known
        rw [required_of_upsert hroute] at hincapable
        refine hincapable (List.all_eq_true.mpr fun capability hmem => ?_)
        rw [List.mem_singleton.mp hmem]
        exact hmanages.manages

/-! ## A registration that is none -/

/-- A client that may manage clients, and nothing else. -/
def clerk : LanClient :=
  { clientId := "clerk", displayName := "Clerk", capabilities := [kCapabilityClientsManage] }

/-- The clerk registers itself, with more authority. -/
def promotion : ClientRequest where
  method := "POST"
  path := "/api/clients"
  headerClientId := "clerk"
  named := by decide
  body := { client := .value { clerk with
    privileges := { canChangeGovernancePolicy := true }, autonomousMode := true } }

/-- **A registration is enough**: the clerk grants itself a privilege and autonomous mode, while
global autonomy is off, and is asked about a registration only. -/
theorem registration_promotes_clerk :
    let reply := handleClientRequest (enforceAction {} {})
      { timestampNowUtc := "2026-01-01T00:00:00Z", persisted := true } promotion [clerk]
    ¬ GovernedAuthority (enforceAction {} {}) promotion.route [clerk] reply ∧
      reply.state.map LanClient.autonomousMode = [true] ∧
      reply.state.map (fun c => c.privileges.canChangeGovernancePolicy) = [true] ∧
      reply.asked.map (fun q => q.request.action) = [.clientRegister] := by
  refine ⟨fun h => ?_, by decide +kernel, by decide +kernel, by decide +kernel⟩
  have hless : countOn LanClient.autonomousMode "clerk" [clerk] <
      countOn LanClient.autonomousMode "clerk" (handleClientRequest (enforceAction {} {})
        { timestampNowUtc := "2026-01-01T00:00:00Z", persisted := true } promotion
          [clerk]).state := by decide +kernel
  have hactions : ∀ q ∈ (handleClientRequest (enforceAction {} {})
      { timestampNowUtc := "2026-01-01T00:00:00Z", persisted := true } promotion
        [clerk]).asked, q.request.action = .clientRegister := by decide +kernel
  obtain ⟨q, hq, ⟨⟨haction, -⟩, -⟩, -⟩ := h.autonomousMode _ hless
  rw [hactions q hq] at haction
  cases haction

end Admin
end MasterControl
