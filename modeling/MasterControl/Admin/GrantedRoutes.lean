import MasterControl.Admin.RouteAuthority

/-!
# Granted authority and the mutating routes

The table gives one answer for all paths of a block (`tableAt`), and with the gates the blocks fall
into four sorts (`sortOf`).  A privilege about servers or sub-agents is mapped to `process.exec`,
and this is mapped back to all six of them: so a client with one of them has the others
(`Flag.on_context`).  Besides, the routes of the setup ask for a capability that every client has
(`letsOnlyGranted_iff`).
-/

namespace MasterControl
namespace Admin
namespace RouteAuthority

open Foundation Gateway Clients

/-! ## One answer for a block -/

/-- The condition holds for every path with this start. -/
def surelyHolds (start : Bytes) : RouteCondition → Bool
  | .under other => other.isPrefixOf start
  | .exact _ | .closing _ _ => false

def mayRule (start : Bytes) (rule : List RouteCondition × String) : Bool :=
  rule.1.any (RouteCondition.mayHold start)

theorem mayRule_of_ruleHolds {start text : Bytes} {rule : List RouteCondition × String}
    (h : ruleHolds (start ++ text) rule = true) : mayRule start rule = true := by
  rw [ruleHolds, List.any_eq_true] at h
  obtain ⟨condition, hmem, hholds⟩ := h
  exact List.any_eq_true.mpr ⟨condition, hmem, RouteCondition.mayHold_of_holds hholds⟩

theorem ruleHolds_of_surelyHolds {start : Bytes} {rule : List RouteCondition × String}
    (h : rule.1.any (surelyHolds start) = true) (text : Bytes) :
    ruleHolds (start ++ text) rule = true := by
  rw [List.any_eq_true] at h
  obtain ⟨condition, hmem, hsure⟩ := h
  refine List.any_eq_true.mpr ⟨condition, hmem, ?_⟩
  cases condition with
  | under other =>
    rw [surelyHolds, List.isPrefixOf_iff_prefix] at hsure
    exact List.isPrefixOf_iff_prefix.mpr (hsure.trans (List.prefix_append start text))
  | exact path => exact absurd hsure Bool.false_ne_true
  | closing other ending => exact absurd hsure Bool.false_ne_true

/-- What the table requires of all paths with this start, if it is the same. -/
def tableBelow (start : Bytes) : Option (List String) :=
  match capabilityRules.find? (mayRule start) with
  | none => some []
  | some rule => if rule.1.any (surelyHolds start) then some [rule.2] else none

/-- What the table requires of all paths of a block. -/
def tableAt : RouteCondition → Option (List String)
  | .exact path => some (requiredCapabilitiesForRoute .post path)
  | .under start | .closing start _ => tableBelow start

theorem requiredCapabilitiesForRoute_of_mutating {method : Verb}
    (h : isMutatingMethod method = true) (path : Bytes) :
    requiredCapabilitiesForRoute method path =
      ((capabilityRules.find? (ruleHolds (stripQuery path))).map Prod.snd).toList := if_pos h

theorem required_of_tableBelow {method : Verb} (hmethod : isMutatingMethod method = true)
    {start path : Bytes} (hpath : questionMark ∉ path) (hstart : start <+: path)
    {capabilities : List String} (h : tableBelow start = some capabilities) :
    requiredCapabilitiesForRoute method path = capabilities := by
  have hstrip : stripQuery path = path := takeWhile_ne_eq_self_iff.mpr hpath
  obtain ⟨text, rfl⟩ := hstart
  rw [requiredCapabilitiesForRoute_of_mutating hmethod, hstrip]
  rw [tableBelow] at h
  cases hfound : capabilityRules.find? (mayRule start) with
  | none =>
    rw [hfound] at h
    have hnone : capabilityRules.find? (ruleHolds (start ++ text)) = none := by
      rw [List.find?_eq_none] at hfound ⊢
      exact fun rule hrule hholds => hfound rule hrule (mayRule_of_ruleHolds hholds)
    rw [hnone]
    exact Option.some.inj h
  | some rule =>
    rw [hfound] at h
    dsimp only at h
    split_ifs at h with hsure
    have hrule := find?_eq_some_of_imp (fun _ => mayRule_of_ruleHolds) hfound
      (ruleHolds_of_surelyHolds hsure text)
    rw [hrule]
    exact Option.some.inj h

theorem required_of_tableAt {method : Verb} (hmethod : isMutatingMethod method = true)
    {condition : RouteCondition} {path : Bytes} (hpath : questionMark ∉ path)
    (hholds : condition.holds path = true) {capabilities : List String}
    (h : tableAt condition = some capabilities) :
    requiredCapabilitiesForRoute method path = capabilities := by
  cases condition with
  | exact whole =>
    rw [RouteCondition.holds, decide_eq_true_eq] at hholds
    rw [hholds, ← Option.some.inj h, requiredCapabilitiesForRoute_of_mutating hmethod,
      requiredCapabilitiesForRoute_of_mutating rfl]
  | under start =>
    exact required_of_tableBelow hmethod hpath (List.isPrefixOf_iff_prefix.mp hholds) h
  | closing start ending =>
    rw [RouteCondition.holds, Bool.and_eq_true] at hholds
    exact required_of_tableBelow hmethod hpath (List.isPrefixOf_iff_prefix.mp hholds.1) h

/-! ## Four sorts of blocks -/

inductive RouteSort where
  /-- A heartbeat. -/
  | free
  /-- The table names what every client has. -/
  | setup
  /-- Only the block asks, for one privilege. -/
  | privileged (flag : Flag)
  /-- The table requires this capability. -/
  | capable (capability : String)
  deriving DecidableEq

def realCapabilities : List String :=
  [kCapabilityProcessExec, kCapabilityInstallPackage, kCapabilityClientsManage] ++
    governanceCapabilities

def sortOf (block : RouteBlock) : Option RouteSort :=
  if heartbeats.contains block then some .free
  else
    match tableAt block.condition, gateOf block with
    | some [], .needs flag => some (.privileged flag)
    | some [capability], gate =>
      if capability = kCapabilitySetupLocalOrAdmin then
        if gate = .none then some .setup else none
      else if realCapabilities.contains capability then some (.capable capability)
      else none
    | _, _ => none

/-- What is evaluated of the blocks. -/
structure AuthorityFacts : Type where
  sorted : ∀ block ∈ mutatingBlocks, (sortOf block).isSome = true
  setup : ∀ block ∈ mutatingBlocks, sortOf block = some .setup ↔ block ∈ setupBlocks
  setup_mutating : ∀ block ∈ setupBlocks, block ∈ mutatingBlocks
  gates_mutating : ∀ entry ∈ gates, entry.1 ∈ mutatingBlocks
  setup_heartbeats : ∀ block ∈ setupBlocks, block ∉ heartbeats
  catalog : ∀ block ∈ mutatingBlocks, ∀ listed ∈ [true, false],
    ∀ flag ∈ (gateOf block).demanded listed, flag.editsCatalog = true →
      sortOf block = some (.capable kCapabilityProcessExec)

def authorityFacts : AuthorityFacts where
  sorted := by decide +kernel
  setup := by decide +kernel
  setup_mutating := by decide +kernel
  gates_mutating := by decide +kernel
  setup_heartbeats := by decide +kernel
  catalog := by decide +kernel

variable {block : RouteBlock} {client : LanClient} {request : MutatingRequest}

/-- What the sort of a block says about it. -/
def RouteSort.Says (block : RouteBlock) : RouteSort → Prop
  | .free => block ∈ heartbeats
  | .setup => tableAt block.condition = some [kCapabilitySetupLocalOrAdmin] ∧ gateOf block = .none
  | .privileged flag => tableAt block.condition = some [] ∧ gateOf block = .needs flag
  | .capable capability =>
    tableAt block.condition = some [capability] ∧ capability ∈ realCapabilities ∧
      capability ≠ kCapabilitySetupLocalOrAdmin

theorem says_of_sortOf {sort : RouteSort} (h : sortOf block = some sort) : sort.Says block := by
  rw [sortOf] at h
  split at h
  · next hfree =>
    rw [← Option.some.inj h]
    exact List.contains_iff_mem.mp hfree
  · split at h
    · next flag htable hgate =>
      rw [← Option.some.inj h]
      exact ⟨htable, hgate⟩
    · next capability htable =>
      split_ifs at h with hsetup hnone hreal
      · rw [← Option.some.inj h]
        exact ⟨hsetup ▸ htable, hnone⟩
      · rw [← Option.some.inj h]
        exact ⟨htable, List.contains_iff_mem.mp hreal, hsetup⟩
    · exact absurd h (Option.some_ne_none _).symm

/-! ## What reaching a block gives -/

theorem path_noQuery (request : MutatingRequest) : questionMark ∉ request.path := by
  intro hmem
  have hne := List.mem_takeWhile_imp hmem
  exact absurd (of_decide_eq_true hne) (not_not.mpr rfl)

theorem required_of_route (hmethod : isMutatingMethod request.method = true)
    (hroute : route request.method request.path = some block) {capabilities : List String}
    (htable : tableAt block.condition = some capabilities) : request.required = capabilities := by
  have hadmits := List.find?_some hroute
  rw [RouteBlock.admits, Bool.and_eq_true] at hadmits
  exact required_of_tableAt hmethod (path_noQuery request) hadmits.2 htable

theorem authorized_iff (h : request.required = [] ∨
      request.required = [kCapabilitySetupLocalOrAdmin]) :
    authorized client request = client.enabled := by
  have hpasses : contextHasRequiredCapabilities (clientContext client) request.required = true := by
    obtain hnone | hsetup := h
    · rw [hnone]
      rfl
    · rw [hsetup, contextHasRequiredCapabilities, List.all_cons, decide_eq_true rfl]
      rfl
  rw [authorized, hpasses, Bool.and_true]

theorem hasCapability_effective {capability : String} (h : capability ∈ realCapabilities) :
    hasCapability (capabilitiesForClient client) capability = true ↔
      capability ∈ capabilitiesForClient client := by
  have hnorm : ∀ capability ∈ realCapabilities, normalizeCapability capability = capability := by
    decide
  rw [hasCapability_iff, hnorm capability h]

theorem authorized_capable {capability : String}
    (hrequired : request.required = [capability]) (hreal : capability ∈ realCapabilities)
    (hne : capability ≠ kCapabilitySetupLocalOrAdmin) :
    authorized client request = true ↔
      client.enabled = true ∧ capability ∈ capabilitiesForClient client := by
  rw [authorized, hrequired, contextHasRequiredCapabilities, List.all_cons, List.all_nil,
    Bool.and_true, decide_eq_false hne, Bool.false_or, Bool.and_eq_true]
  exact and_congr_right fun _ => hasCapability_effective hreal

/-! ## Privileges by way of capabilities -/

/-- The capabilities that a privilege is set by. -/
def Flag.capabilities : Flag → List String
  | .canCreateMcpServers | .canModifyMcpServers | .canRemoveMcpServers | .canCreateSubAgents
  | .canModifySubAgents | .canRemoveSubAgents => [kCapabilityProcessExec]
  | .canManageModules => [kCapabilityInstallPackage]
  | .canChangeGovernancePolicy => governanceCapabilities
  | .canManageClients => [kCapabilityClientsManage]

theorem Flag.on_privilegesWithCapabilities (flag : Flag) (privileges : LanClientPrivileges)
    (capabilities : List String) :
    flag.on (privilegesWithCapabilities privileges capabilities) =
      (flag.on privileges || flag.capabilities.any (hasCapability capabilities)) := by
  obtain ⟨-, hmodules, hpolicy, hclients⟩ :=
    privilegesWithCapabilities_flags privileges capabilities
  have hcatalog : flag.editsCatalog = true →
      flag.on (privilegesWithCapabilities privileges capabilities) =
        (flag.on privileges || hasCapability capabilities kCapabilityProcessExec) := by
    intro hflag
    -- The later steps set other flags.
    have hlater : ∀ (b : Bool) (p p' : LanClientPrivileges), flag.on p' = flag.on p →
        flag.on (if b = true then p' else p) = flag.on p := by
      intro b p p' h
      cases b with
      | false => rfl
      | true => exact h
    rw [privilegesWithCapabilities,
      hlater _ _ _ (by cases flag <;> first | rfl | exact absurd hflag (by decide)),
      hlater _ _ _ (by cases flag <;> first | rfl | exact absurd hflag (by decide)),
      hlater _ _ _ (by cases flag <;> first | rfl | exact absurd hflag (by decide))]
    cases hasCapability capabilities kCapabilityProcessExec with
    | false => rw [if_neg Bool.false_ne_true, Bool.or_false]
    | true =>
      rw [if_pos rfl, Bool.or_true]
      cases flag <;> first | rfl | exact absurd hflag (by decide)
  cases flag
  case canManageModules =>
    simpa only [Flag.on, Flag.capabilities, List.any_cons, List.any_nil, Bool.or_false] using
      hmodules
  case canChangeGovernancePolicy =>
    simpa only [Flag.on, Flag.capabilities, governanceCapabilities, List.any_cons, List.any_nil,
      Bool.or_false, Bool.or_assoc] using hpolicy
  case canManageClients =>
    simpa only [Flag.on, Flag.capabilities, List.any_cons, List.any_nil, Bool.or_false] using
      hclients
  all_goals
    simpa only [Flag.on, Flag.capabilities, List.any_cons, List.any_nil, Bool.or_false] using
      hcatalog rfl

theorem Flag.capabilities_real (flag : Flag) :
    ∀ capability ∈ flag.capabilities, capability ∈ realCapabilities := by
  cases flag <;> decide

/-- A block sees a privilege that is stored, or one of whose capabilities is effective. -/
theorem Flag.on_context (flag : Flag) :
    flag.on (clientContext client).privileges = true ↔
      flag.on client.privileges = true ∨
        ∃ capability ∈ flag.capabilities, capability ∈ capabilitiesForClient client := by
  rw [clientContext, flag.on_privilegesWithCapabilities, Bool.or_eq_true, List.any_eq_true]
  refine or_congr_right (exists_congr fun capability => and_congr_right fun hmem => ?_)
  exact hasCapability_effective (flag.capabilities_real capability hmem)

theorem grantedFlag_iff {flag : Flag} :
    GrantedFlag client flag ↔
      flag.on client.privileges = true ∨
        (∃ capability ∈ flag.capabilities, Stored client capability) ∨
        client.autonomousMode = true := by
  refine or_congr_right (or_congr_left ?_)
  have hempty : flag.on {} = false := by cases flag <;> rfl
  have hmaps : ∀ name, flag.on (privilegesWithCapabilities {} [normalizeCapability name]) = true ↔
      normalizeCapability name ∈ flag.capabilities := by
    intro name
    have hnorm : ∀ capability ∈ realCapabilities,
        normalizeCapability capability = capability := by decide
    rw [flag.on_privilegesWithCapabilities, hempty, Bool.false_or, List.any_eq_true]
    constructor
    · rintro ⟨capability, hmem, hhas⟩
      rw [hasCapability_iff, hnorm _ (flag.capabilities_real capability hmem),
        List.mem_singleton] at hhas
      rwa [← hhas]
    · intro hmem
      refine ⟨_, hmem, ?_⟩
      rw [hasCapability_iff, normalizeCapability_normalizeCapability, List.mem_singleton]
  constructor
  · rintro ⟨name, hname, hon⟩
    exact ⟨_, (hmaps name).mp hon, name, hname, rfl⟩
  · rintro ⟨capability, hmem, name, hname, rfl⟩
    exact ⟨name, hname, (hmaps name).mpr hmem⟩

theorem effective_iff {capability : String} (h : capability ∈ realCapabilities) :
    capability ∈ capabilitiesForClient client ↔
      Stored client capability ∨
        capability ∈ capabilitiesFromPrivileges client.privileges client.autonomousMode := by
  have hplain : ∀ capability ∈ realCapabilities,
      capability ≠ kCapabilityFilesystemRead ∧ capability ≠ "" := by decide
  obtain ⟨hread, hempty⟩ := hplain capability h
  rw [mem_capabilitiesForClient, or_iff_left (fun hboth => hread hboth.1), Granted,
    and_iff_right hempty]

/-- A capability of the last three privileges comes from the privilege itself. -/
theorem on_of_mem_capabilitiesFromPrivileges {flag : Flag} (hcatalog : flag.editsCatalog = false)
    {capability : String} (hmem : capability ∈ flag.capabilities)
    (h : capability ∈ capabilitiesFromPrivileges client.privileges client.autonomousMode) :
    flag.on client.privileges = true := by
  have hapart : ∀ flag ∈ [Flag.canManageModules, .canChangeGovernancePolicy, .canManageClients],
      ∀ capability ∈ flag.capabilities, capability ≠ kCapabilityProcessExec ∧
        (capability = kCapabilityInstallPackage → flag = .canManageModules) ∧
        (capability ∈ governanceCapabilities → flag = .canChangeGovernancePolicy) ∧
        (capability = kCapabilityClientsManage → flag = .canManageClients) := by decide
  have hflag : flag ∈ [Flag.canManageModules, .canChangeGovernancePolicy, .canManageClients] := by
    cases flag <;> first | decide | exact absurd hcatalog (by decide)
  obtain ⟨hexec, hinstall, hgovernance, hclients⟩ := hapart flag hflag capability hmem
  obtain ⟨heq, -⟩ | ⟨heq, hon⟩ | ⟨heq, hon⟩ | ⟨heq, hon⟩ := mem_capabilitiesFromPrivileges.mp h
  · exact absurd heq hexec
  · rw [hinstall heq]
    exact hon
  · rw [hgovernance heq]
    exact hon
  · rw [hclients heq]
    exact hon

theorem processExec_effective_iff :
    kCapabilityProcessExec ∈ capabilitiesForClient client ↔
      Stored client kCapabilityProcessExec ∨ client.privileges.editsCatalog = true ∨
        client.autonomousMode = true := by
  have hother : kCapabilityProcessExec ≠ kCapabilityInstallPackage ∧
      kCapabilityProcessExec ∉ governanceCapabilities ∧
      kCapabilityProcessExec ≠ kCapabilityClientsManage := by decide
  rw [effective_iff (by decide), mem_capabilitiesFromPrivileges]
  refine or_congr_right ?_
  rw [and_iff_right rfl]
  refine or_iff_left ?_
  rintro (⟨heq, -⟩ | ⟨hmem, -⟩ | ⟨heq, -⟩)
  · exact hother.1 heq
  · exact hother.2.1 hmem
  · exact hother.2.2 heq

/-- A privilege that is seen was granted, unless it is one of the six. -/
theorem grantedFlag_of_on_context {flag : Flag} (hcatalog : flag.editsCatalog = false)
    (h : flag.on (clientContext client).privileges = true) : GrantedFlag client flag := by
  rw [grantedFlag_iff]
  obtain hon | ⟨capability, hmem, heffective⟩ := flag.on_context.mp h
  · exact Or.inl hon
  · obtain hstored | hprivileges :=
      (effective_iff (flag.capabilities_real capability hmem)).mp heffective
    · exact Or.inr (Or.inl ⟨capability, hmem, hstored⟩)
    · exact Or.inl (on_of_mem_capabilitiesFromPrivileges hcatalog hmem hprivileges)

theorem capabilities_of_editsCatalog {flag : Flag} (h : flag.editsCatalog = true) :
    flag.capabilities = [kCapabilityProcessExec] := by
  cases flag <;> first | rfl | exact absurd h (by decide)

/-- Of the six, one is seen if it is granted, and all are if one is stored. -/
theorem catalog_on_context {flag : Flag} (hcatalog : flag.editsCatalog = true) :
    flag.on (clientContext client).privileges = true ↔
      GrantedFlag client flag ∨ client.privileges.editsCatalog = true := by
  rw [flag.on_context, grantedFlag_iff, capabilities_of_editsCatalog hcatalog]
  simp only [List.mem_singleton, exists_eq_left]
  rw [processExec_effective_iff]
  constructor
  · rintro (hon | hstored | hedits | hauto)
    · exact Or.inl (Or.inl hon)
    · exact Or.inl (Or.inr (Or.inl hstored))
    · exact Or.inr hedits
    · exact Or.inl (Or.inr (Or.inr hauto))
  · rintro ((hon | hstored | hauto) | hedits)
    · exact Or.inl hon
    · exact Or.inr (Or.inl hstored)
    · exact Or.inr (Or.inr (Or.inr hauto))
    · exact Or.inr (Or.inr (Or.inl hedits))

theorem undivided_iff {flag : Flag} (hcatalog : flag.editsCatalog = true) :
    Undivided client flag ↔ GrantedFlag client flag ∨ client.privileges.editsCatalog = false := by
  rw [grantedFlag_iff, capabilities_of_editsCatalog hcatalog, Undivided]
  simp only [List.mem_singleton, exists_eq_left]
  constructor
  · rintro (hon | hauto | hstored | hnone)
    · exact Or.inl (Or.inl hon)
    · exact Or.inl (Or.inr (Or.inr hauto))
    · exact Or.inl (Or.inr (Or.inl hstored))
    · exact Or.inr hnone
  · rintro ((hon | hstored | hauto) | hnone)
    · exact Or.inl hon
    · exact Or.inr (Or.inr (Or.inl hstored))
    · exact Or.inr (Or.inl hauto)
    · exact Or.inr (Or.inr (Or.inr hnone))

/-! ## The client with nothing -/

theorem capabilitiesForClient_empty : capabilitiesForClient {} = [] := by
  decide

theorem on_context_empty (flag : Flag) : flag.on (clientContext {}).privileges = false := by
  cases flag <;> decide

/-- Of the blocks that are not open, it is turned away. -/
theorem not_reaches_empty (hmethod : isMutatingMethod request.method = true)
    (hblock : block ∈ mutatingBlocks) (hsetup : block ∉ setupBlocks)
    (hheartbeat : block ∉ heartbeats) : ¬ Reaches {} request block := by
  rintro ⟨hauthorized, hroute, -, hpasses⟩
  obtain ⟨sort, hsort⟩ := Option.isSome_iff_exists.mp (authorityFacts.sorted block hblock)
  have hgate := says_of_sortOf hsort
  cases sort with
  | free => exact hheartbeat hgate
  | setup => exact hsetup ((authorityFacts.setup block hblock).mp hsort)
  | privileged flag =>
    rw [hgate.2, Gate.passes, on_context_empty] at hpasses
    exact Bool.false_ne_true hpasses
  | capable capability =>
    obtain ⟨htable, hreal, hne⟩ := hgate
    rw [authorized_capable (required_of_route hmethod hroute htable) hreal hne,
      capabilitiesForClient_empty] at hauthorized
    exact List.not_mem_nil hauthorized.2

/-! ## The law -/

theorem demanded_of_reaches (hmethod : isMutatingMethod request.method = true)
    (h : Reaches client request block) (hheartbeat : block ∉ heartbeats) :
    request.required ≠ [] ∨ (gateOf block).demanded request.listed ≠ none := by
  obtain ⟨sort, hsort⟩ := Option.isSome_iff_exists.mp (authorityFacts.sorted block h.2.2.1)
  have hgate := says_of_sortOf hsort
  cases sort with
  | free => exact absurd hgate hheartbeat
  | setup =>
    rw [required_of_route hmethod h.2.1 hgate.1]
    exact Or.inl (List.cons_ne_nil _ _)
  | privileged flag =>
    rw [hgate.2]
    exact Or.inr (Option.some_ne_none flag)
  | capable capability =>
    rw [required_of_route hmethod h.2.1 hgate.1]
    exact Or.inl (List.cons_ne_nil _ _)

/-- The gate of a block lets pass whom it sees with the privilege, or in autonomous mode. -/
theorem on_of_passes {flag : Flag}
    (hdemanded : (gateOf block).demanded request.listed = some flag)
    (hpasses : (gateOf block).passes (clientContext client) request.listed = true) :
    flag.on (clientContext client).privileges = true ∨ client.autonomousMode = true := by
  cases hgate : gateOf block with
  | none =>
    rw [hgate] at hdemanded
    exact absurd hdemanded (Option.some_ne_none flag).symm
  | needs needed =>
    rw [hgate] at hdemanded hpasses
    exact Or.inl (Option.some.inj hdemanded ▸ hpasses)
  | createOrModify create modify =>
    rw [hgate, Gate.demanded] at hdemanded
    rw [hgate, Gate.passes] at hpasses
    rw [← Option.some.inj hdemanded]
    split_ifs at hpasses ⊢ with hlisted
    · exact Or.inl hpasses
    · exact (Bool.or_eq_true _ _).mp hpasses

theorem passes_of_on {flag : Flag}
    (hdemanded : (gateOf block).demanded request.listed = some flag)
    (hon : flag.on (clientContext client).privileges = true) :
    (gateOf block).passes (clientContext client) request.listed = true := by
  cases hgate : gateOf block with
  | none => rfl
  | needs needed =>
    rw [hgate] at hdemanded
    rw [Gate.passes, Option.some.inj hdemanded]
    exact hon
  | createOrModify create modify =>
    rw [hgate, Gate.demanded] at hdemanded
    rw [Gate.passes]
    split_ifs with hlisted
    · rw [if_pos hlisted] at hdemanded
      rw [Option.some.inj hdemanded]
      exact hon
    · rw [if_neg hlisted] at hdemanded
      rw [Option.some.inj hdemanded, hon, Bool.true_or]

/-- A block that asks for a privilege changes something. -/
theorem mem_mutatingBlocks_of_demanded {listed : Bool} {flag : Flag}
    (h : (gateOf block).demanded listed = some flag) : block ∈ mutatingBlocks := by
  rw [gateOf] at h
  cases hfound : gates.find? fun entry => entry.1 = block with
  | none =>
    rw [hfound] at h
    exact absurd h (Option.some_ne_none flag).symm
  | some entry =>
    have heq := List.find?_some hfound
    rw [decide_eq_true_eq] at heq
    rw [← heq]
    exact authorityFacts.gates_mutating entry (List.mem_of_find?_eq_some hfound)

/-- Every enabled client reaches the setup. -/
theorem reaches_setup (hmethod : isMutatingMethod request.method = true)
    (henabled : client.enabled = true) (hroute : route request.method request.path = some block)
    (hsetup : block ∈ setupBlocks) : Reaches client request block := by
  have hmutating := authorityFacts.setup_mutating block hsetup
  have hgate := says_of_sortOf ((authorityFacts.setup block hmutating).mpr hsetup)
  refine ⟨?_, hroute, hmutating, ?_⟩
  · rw [authorized_iff (Or.inr (required_of_route hmethod hroute hgate.1))]
    exact henabled
  · rw [hgate.2]
    rfl

/-- With one of the six privileges a client reaches what asks for any of them. -/
theorem reaches_catalog (hmethod : isMutatingMethod request.method = true)
    (henabled : client.enabled = true) (hroute : route request.method request.path = some block)
    {flag : Flag} (hdemanded : (gateOf block).demanded request.listed = some flag)
    (hcatalog : flag.editsCatalog = true) (hedits : client.privileges.editsCatalog = true) :
    Reaches client request block := by
  have hmutating := mem_mutatingBlocks_of_demanded hdemanded
  have hlisted : request.listed ∈ [true, false] := by cases request.listed <;> decide
  have hsort := authorityFacts.catalog block hmutating _ hlisted flag hdemanded hcatalog
  obtain ⟨htable, hreal, hne⟩ := says_of_sortOf hsort
  refine ⟨?_, hroute, hmutating, ?_⟩
  · rw [authorized_capable (required_of_route hmethod hroute htable) hreal hne]
    exact ⟨henabled, processExec_effective_iff.mpr (Or.inr (Or.inl hedits))⟩
  · exact passes_of_on hdemanded ((catalog_on_context hcatalog).mpr (Or.inr hedits))

/-- What a client reaches it was given the authority for, exactly if the route is none of the
setup, and none of the six privileges stands in for another. -/
theorem letsOnlyGranted_iff (hmethod : isMutatingMethod request.method = true)
    (henabled : client.enabled = true) :
    LetsOnlyGranted client request ↔ SafelyRouted client request := by
  constructor
  · intro h block hroute
    constructor
    · intro hsetup
      have hdecides := h block (reaches_setup hmethod henabled hroute hsetup)
      obtain ⟨other, hother, hrefused⟩ :=
        hdecides.restricted (authorityFacts.setup_heartbeats block hsetup)
      exact hrefused (reaches_setup hmethod hother hroute hsetup)
    · intro flag hdemanded hcatalog
      rw [undivided_iff hcatalog]
      cases hedits : client.privileges.editsCatalog with
      | false => exact Or.inr rfl
      | true =>
        have hreaches := reaches_catalog hmethod henabled hroute hdemanded hcatalog hedits
        exact Or.inl ((h block hreaches).granted flag hdemanded)
  · intro h block hreaches
    obtain ⟨hsetup, hundivided⟩ := h block hreaches.2.1
    refine ⟨demanded_of_reaches hmethod hreaches, fun hheartbeat => ⟨{}, rfl, ?_⟩,
      fun flag hdemanded => ?_⟩
    · exact not_reaches_empty hmethod hreaches.2.2.1 hsetup hheartbeat
    · obtain hon | hauto := on_of_passes hdemanded hreaches.2.2.2
      · cases hcatalog : flag.editsCatalog with
        | false => exact grantedFlag_of_on_context hcatalog hon
        | true =>
          obtain hgranted | hedits := (catalog_on_context hcatalog).mp hon
          · exact hgranted
          · obtain hgranted | hnone :=
              (undivided_iff hcatalog).mp (hundivided flag hdemanded hcatalog)
            · exact hgranted
            · exact absurd (hnone.symm.trans hedits) Bool.false_ne_true
      · exact grantedFlag_iff.mpr (Or.inr (Or.inr hauto))

/-- A client that may remove sub-agents. -/
def remover : LanClient where
  clientId := "bravo"
  privileges := { canRemoveSubAgents := true }

def removal : MutatingRequest := ⟨.post, literal "/api/runtime/mcp-servers/remove", false⟩

theorem letsOnlyGranted_iff_remover :
    LetsOnlyGranted remover removal ↔ SafelyRouted remover removal := by
  have hmethod : isMutatingMethod removal.method = true := rfl
  have henabled : remover.enabled = true := rfl
  exact letsOnlyGranted_iff hmethod henabled

/-- It removes an MCP server. -/
theorem remover_removes_servers :
    ¬ ∀ (client : LanClient) (request : MutatingRequest),
      isMutatingMethod request.method = true → client.enabled = true →
        LetsOnlyGranted client request := by
  intro h
  have hroute : route removal.method removal.path =
      some (onPost "/api/runtime/mcp-servers/remove") := by decide +kernel
  have hdemanded : (gateOf (onPost "/api/runtime/mcp-servers/remove")).demanded false =
      some .canRemoveMcpServers := by decide +kernel
  have hmethod : isMutatingMethod removal.method = true := rfl
  have henabled : remover.enabled = true := rfl
  have hedits : remover.privileges.editsCatalog = true := rfl
  have hreaches := reaches_catalog hmethod henabled hroute hdemanded rfl hedits
  have hgranted := (h remover removal rfl rfl _ hreaches).granted _ hdemanded
  rw [grantedFlag_iff] at hgranted
  obtain hon | ⟨capability, -, name, hname, -⟩ | hauto := hgranted
  · exact Bool.false_ne_true hon
  · exact List.not_mem_nil hname
  · exact Bool.false_ne_true hauto

end RouteAuthority
end Admin
end MasterControl
