import MasterControl.Foundation.Runs
import MasterControl.Foundation.Trim
import MasterControl.Gateway.ToolNames
import Mathlib

/-!
# Privileges and capabilities of LAN clients

A LAN client carries two kinds of authority: a record of boolean privileges, and an
open-ended list of capability names.  `capabilitiesForClient` merges both into the list of
effective capabilities; `privilegesWithCapabilities` maps that list back to privileges, as
the request context does.  `writeBack` closes the loop.

Each privilege stands for one capability, except `canChangeGovernancePolicy`: it stands for
three (`governanceCapabilities`), and on the way back any one of the three sets it.  So the
loop grants nothing new exactly when a client that lacks the privilege has stored either
none of the three or all of them (`capabilityLaw_iff`).
-/

namespace MasterControl
namespace Clients

open Foundation Gateway

/-! ## Records -/

structure LanClientPrivileges where
  canCreateMcpServers : Bool := false
  canModifyMcpServers : Bool := false
  canRemoveMcpServers : Bool := false
  canCreateSubAgents : Bool := false
  canModifySubAgents : Bool := false
  canRemoveSubAgents : Bool := false
  canManageClients : Bool := false
  canManageModules : Bool := false
  canChangeGovernancePolicy : Bool := false
  deriving DecidableEq

structure LanClient where
  clientId : String := ""
  displayName : String := ""
  clientType : String := ""
  hostName : String := ""
  networkAddress : String := ""
  enabled : Bool := true
  privileges : LanClientPrivileges := {}
  capabilities : List String := []
  autonomousMode : Bool := false
  createdAtUtc : String := ""
  lastSeenUtc : String := ""
  disabledAtUtc : String := ""
  deriving DecidableEq

def kCapabilityProcessExec : String := "process.exec"
def kCapabilityFilesystemRead : String := "filesystem.read"
def kCapabilityFilesystemWrite : String := "filesystem.write"
def kCapabilityNetworkAdmin : String := "network.admin"
def kCapabilityInstallPackage : String := "install.package"
def kCapabilityGovernanceModify : String := "governance.modify"
def kCapabilityClientsManage : String := "clients.manage"
def kCapabilitySupervisorAssign : String := "supervisor.assign"

/-! ## The two vocabularies -/

def addCapability (capabilities : List String) (capability : String) : List String :=
  let capability := normalizeCapability capability
  if capability = "" || hasCapability capabilities capability then capabilities
  else capabilities ++ [capability]

/-- Whether a client may change the catalog of servers or sub-agents. -/
def LanClientPrivileges.editsCatalog (privileges : LanClientPrivileges) : Bool :=
  privileges.canCreateMcpServers || privileges.canModifyMcpServers ||
    privileges.canRemoveMcpServers || privileges.canCreateSubAgents ||
    privileges.canModifySubAgents || privileges.canRemoveSubAgents

def capabilitiesFromPrivileges (privileges : LanClientPrivileges) (autonomousMode : Bool) :
    List String :=
  let capabilities : List String := []
  let capabilities :=
    if privileges.editsCatalog || autonomousMode then
      addCapability capabilities kCapabilityProcessExec
    else capabilities
  let capabilities :=
    if privileges.canManageModules then addCapability capabilities kCapabilityInstallPackage
    else capabilities
  let capabilities :=
    if privileges.canChangeGovernancePolicy then
      addCapability (addCapability (addCapability capabilities kCapabilityGovernanceModify)
        kCapabilityNetworkAdmin) kCapabilitySupervisorAssign
    else capabilities
  if privileges.canManageClients then addCapability capabilities kCapabilityClientsManage
  else capabilities

def capabilitiesForClient (client : LanClient) : List String :=
  let capabilities := client.capabilities.foldl addCapability []
  let capabilities :=
    (capabilitiesFromPrivileges client.privileges client.autonomousMode).foldl addCapability
      capabilities
  if hasCapability capabilities kCapabilityFilesystemWrite then
    addCapability capabilities kCapabilityFilesystemRead
  else capabilities

def privilegesWithCapabilities (privileges : LanClientPrivileges) (capabilities : List String) :
    LanClientPrivileges :=
  let privileges :=
    if hasCapability capabilities kCapabilityProcessExec then
      { privileges with
        canCreateMcpServers := true
        canModifyMcpServers := true
        canRemoveMcpServers := true
        canCreateSubAgents := true
        canModifySubAgents := true
        canRemoveSubAgents := true }
    else privileges
  let privileges :=
    if hasCapability capabilities kCapabilityInstallPackage then
      { privileges with canManageModules := true }
    else privileges
  let privileges :=
    if hasCapability capabilities kCapabilityGovernanceModify ||
        hasCapability capabilities kCapabilityNetworkAdmin ||
        hasCapability capabilities kCapabilitySupervisorAssign then
      { privileges with canChangeGovernancePolicy := true }
    else privileges
  if hasCapability capabilities kCapabilityClientsManage then
    { privileges with canManageClients := true }
  else privileges

/-- The loop: the stored list is normalised, and the effective capabilities are written
back as privileges. -/
def writeBack (client : LanClient) : LanClient :=
  { client with
    capabilities := client.capabilities.map normalizeCapability
    privileges := privilegesWithCapabilities client.privileges (capabilitiesForClient client) }

/-! ## Normalised names -/

theorem isSpace_of_isAlpha {c : Char} (h : c.isAlpha = true) : isSpace c = false := by
  by_contra hspace
  rw [Bool.not_eq_false, isSpace, decide_eq_true_iff] at hspace
  simp only [List.mem_cons, List.not_mem_nil, or_false] at hspace
  rcases hspace with rfl | rfl | rfl | rfl | rfl | rfl <;> cases h

theorem isSpace_toLower (c : Char) : isSpace c.toLower = isSpace c := by
  by_cases hupper : c.isUpper = true
  · have halpha : c.isAlpha = true := by rw [Char.isAlpha, hupper, Bool.true_or]
    rw [isSpace_of_isAlpha halpha, isSpace_of_isAlpha (by rwa [Char.isAlpha_toLower_eq_isAlpha])]
  · rw [Char.toLower_eq_of_not_isUpper hupper]

theorem toList_normalizeCapability (s : String) :
    (normalizeCapability s).toList = (trim isSpace s.toList).map Char.toLower := by
  rw [normalizeCapability, String.toList_ofList]
  rfl

@[simp] theorem normalizeCapability_normalizeCapability (s : String) :
    normalizeCapability (normalizeCapability s) = normalizeCapability s := by
  rw [← String.toList_inj, toList_normalizeCapability, toList_normalizeCapability,
    trim_map isSpace_toLower, trim_trim, List.map_map]
  exact List.map_congr_left fun c _ => Char.toLower_toLower_eq_toLower c

theorem hasCapability_iff {capabilities : List String} {capability : String} :
    hasCapability capabilities capability = true ↔
      normalizeCapability capability ∈ capabilities := by
  rw [hasCapability, decide_eq_true_iff]

/-- A list of effective capabilities: no duplicates, and only normalised names. -/
structure EffectiveList (capabilities : List String) : Prop where
  nodup : capabilities.Nodup
  normalised : ∀ x ∈ capabilities, normalizeCapability x = x ∧ x ≠ ""

theorem effectiveList_nil : EffectiveList [] := ⟨List.nodup_nil, fun _ h => (by cases h)⟩

/-! ## What the functions grant -/

theorem mem_addCapability {capabilities : List String} {capability x : String} :
    x ∈ addCapability capabilities capability ↔
      x ∈ capabilities ∨ (x ≠ "" ∧ x = normalizeCapability capability) := by
  unfold addCapability
  dsimp only
  split_ifs with h
  · -- the name is blank, or listed already
    rw [Bool.or_eq_true, decide_eq_true_iff, hasCapability_iff,
      normalizeCapability_normalizeCapability] at h
    refine ⟨Or.inl, ?_⟩
    rintro (hx | ⟨hx, rfl⟩)
    · exact hx
    · exact h.resolve_left hx
  · rw [Bool.or_eq_true, decide_eq_true_iff, not_or] at h
    rw [List.mem_append, List.mem_singleton]
    refine or_congr_right ⟨fun hx => ⟨?_, hx⟩, And.right⟩
    rw [hx]
    exact h.1

theorem EffectiveList.addCapability {capabilities : List String} (h : EffectiveList capabilities)
    (capability : String) : EffectiveList (addCapability capabilities capability) := by
  refine ⟨?_, fun x hx => ?_⟩
  · unfold Clients.addCapability
    dsimp only
    split_ifs with hknown
    · exact h.nodup
    · rw [Bool.or_eq_true, decide_eq_true_iff, hasCapability_iff,
        normalizeCapability_normalizeCapability, not_or] at hknown
      rw [List.nodup_append]
      refine ⟨h.nodup, List.nodup_singleton _, fun x hx y hy => ?_⟩
      rintro rfl
      exact hknown.2 (List.mem_singleton.mp hy ▸ hx)
  · rcases mem_addCapability.mp hx with hx | ⟨hne, rfl⟩
    · exact h.normalised x hx
    · exact ⟨normalizeCapability_normalizeCapability capability, hne⟩

theorem mem_foldl_addCapability {capabilities names : List String} {x : String} :
    x ∈ names.foldl addCapability capabilities ↔
      x ∈ capabilities ∨ (x ≠ "" ∧ ∃ name ∈ names, normalizeCapability name = x) := by
  induction names generalizing capabilities with
  | nil => simp
  | cons name names ih =>
    rw [List.foldl_cons, ih, mem_addCapability, List.exists_mem_cons_iff]
    constructor
    · rintro ((hx | ⟨hne, rfl⟩) | ⟨hne, hx⟩)
      · exact Or.inl hx
      · exact Or.inr ⟨hne, Or.inl rfl⟩
      · exact Or.inr ⟨hne, Or.inr hx⟩
    · rintro (hx | ⟨hne, rfl | hx⟩)
      · exact Or.inl (Or.inl hx)
      · exact Or.inl (Or.inr ⟨hne, rfl⟩)
      · exact Or.inr ⟨hne, hx⟩

theorem EffectiveList.foldl_addCapability {capabilities : List String}
    (h : EffectiveList capabilities) (names : List String) :
    EffectiveList (names.foldl Clients.addCapability capabilities) :=
  invariant_foldl (fun _ name hs => hs.addCapability name) names h

/-- The capabilities that `canChangeGovernancePolicy` stands for. -/
def governanceCapabilities : List String :=
  [kCapabilityGovernanceModify, kCapabilityNetworkAdmin, kCapabilitySupervisorAssign]

/-- The names this file uses are normalised. -/
theorem normalizeCapability_of_mem {x : String}
    (h : x ∈ [kCapabilityProcessExec, kCapabilityInstallPackage, kCapabilityClientsManage,
      kCapabilityFilesystemRead, kCapabilityFilesystemWrite] ++ governanceCapabilities) :
    normalizeCapability x = x ∧ x ≠ "" := by
  revert x
  decide

/-- An optional addition of a normalised name. -/
theorem mem_addCapability_if {l : List String} {k x : String} {b : Bool}
    (hk : normalizeCapability k = k ∧ k ≠ "") :
    x ∈ (if b then addCapability l k else l) ↔ x ∈ l ∨ (x = k ∧ b = true) := by
  cases b with
  | false => simp
  | true =>
    rw [if_pos rfl, mem_addCapability, hk.1]
    refine or_congr_right ⟨fun h => ⟨h.2, rfl⟩, ?_⟩
    rintro ⟨rfl, -⟩
    exact ⟨hk.2, rfl⟩

/-- **What the privileges grant.** -/
theorem mem_capabilitiesFromPrivileges {privileges : LanClientPrivileges} {auto : Bool}
    {x : String} :
    x ∈ capabilitiesFromPrivileges privileges auto ↔
      (x = kCapabilityProcessExec ∧ (privileges.editsCatalog = true ∨ auto = true)) ∨
      (x = kCapabilityInstallPackage ∧ privileges.canManageModules = true) ∨
      (x ∈ governanceCapabilities ∧ privileges.canChangeGovernancePolicy = true) ∨
      (x = kCapabilityClientsManage ∧ privileges.canManageClients = true) := by
  have hk := fun k hk => normalizeCapability_of_mem (x := k) hk
  have hgovernance : ∀ capabilities : List String,
      x ∈ (if privileges.canChangeGovernancePolicy then
          addCapability (addCapability (addCapability capabilities kCapabilityGovernanceModify)
            kCapabilityNetworkAdmin) kCapabilitySupervisorAssign
        else capabilities) ↔
        x ∈ capabilities ∨
          (x ∈ governanceCapabilities ∧ privileges.canChangeGovernancePolicy = true) := by
    intro capabilities
    cases privileges.canChangeGovernancePolicy with
    | false => simp
    | true =>
      have hadd : ∀ (l : List String) (k : String), k ∈ governanceCapabilities →
          (x ∈ addCapability l k ↔ x ∈ l ∨ x = k) := fun l k hmem => by
        simpa using mem_addCapability_if (l := l) (b := true)
          (hk k (List.mem_append_right _ hmem))
      rw [if_pos rfl, hadd _ _ (by decide), hadd _ _ (by decide), hadd _ _ (by decide)]
      simp [governanceCapabilities, or_assoc]
  unfold capabilitiesFromPrivileges
  dsimp only
  rw [mem_addCapability_if (hk _ (by decide)), hgovernance,
    mem_addCapability_if (hk _ (by decide)), mem_addCapability_if (hk _ (by decide)),
    Bool.or_eq_true]
  simp only [List.not_mem_nil, false_or, or_assoc]

theorem normalised_of_mem_capabilitiesFromPrivileges {privileges : LanClientPrivileges}
    {auto : Bool} {x : String} (h : x ∈ capabilitiesFromPrivileges privileges auto) :
    normalizeCapability x = x ∧ x ≠ "" := by
  rcases mem_capabilitiesFromPrivileges.mp h with ⟨rfl, -⟩ | ⟨rfl, -⟩ | ⟨hx, -⟩ | ⟨rfl, -⟩
  · exact normalizeCapability_of_mem (by decide)
  · exact normalizeCapability_of_mem (by decide)
  · exact normalizeCapability_of_mem (List.mem_append_right _ hx)
  · exact normalizeCapability_of_mem (by decide)

/-- A client's stored list names a capability. -/
def Stored (client : LanClient) (x : String) : Prop :=
  ∃ name ∈ client.capabilities, normalizeCapability name = x

/-- What a client is granted by its stored list or by its privileges. -/
def Granted (client : LanClient) (x : String) : Prop :=
  (x ≠ "" ∧ Stored client x) ∨
    x ∈ capabilitiesFromPrivileges client.privileges client.autonomousMode

/-- **What a client may effectively do**: what it is granted, and reading wherever it may
write. -/
theorem mem_capabilitiesForClient {client : LanClient} {x : String} :
    x ∈ capabilitiesForClient client ↔
      Granted client x ∨
        (x = kCapabilityFilesystemRead ∧ Granted client kCapabilityFilesystemWrite) := by
  have hmerged : ∀ y, y ∈ (capabilitiesFromPrivileges client.privileges
      client.autonomousMode).foldl addCapability (client.capabilities.foldl addCapability []) ↔
        Granted client y := by
    intro y
    rw [mem_foldl_addCapability, mem_foldl_addCapability, Granted, Stored]
    simp only [List.not_mem_nil, false_or]
    refine or_congr_right ⟨?_, fun hy => ?_⟩
    · rintro ⟨-, name, hname, rfl⟩
      rwa [(normalised_of_mem_capabilitiesFromPrivileges hname).1]
    · have hnorm := normalised_of_mem_capabilitiesFromPrivileges hy
      exact ⟨hnorm.2, y, hy, hnorm.1⟩
  unfold capabilitiesForClient
  dsimp only
  rw [mem_addCapability_if (normalizeCapability_of_mem (by decide)), hmerged, hasCapability_iff,
    (normalizeCapability_of_mem (x := kCapabilityFilesystemWrite) (by decide)).1, hmerged]

theorem effectiveList_capabilitiesForClient (client : LanClient) :
    EffectiveList (capabilitiesForClient client) := by
  have h := (effectiveList_nil.foldl_addCapability client.capabilities).foldl_addCapability
    (capabilitiesFromPrivileges client.privileges client.autonomousMode)
  unfold capabilitiesForClient
  dsimp only
  split_ifs
  · exact h.addCapability _
  · exact h

/-! ## More authority -/

/-- The second record has every privilege and every stored name of the first. -/
structure Extends (client client' : LanClient) : Prop where
  privileges : ∀ flag ∈ [LanClientPrivileges.canCreateMcpServers,
    LanClientPrivileges.canModifyMcpServers, LanClientPrivileges.canRemoveMcpServers,
    LanClientPrivileges.canCreateSubAgents, LanClientPrivileges.canModifySubAgents,
    LanClientPrivileges.canRemoveSubAgents, LanClientPrivileges.canManageClients,
    LanClientPrivileges.canManageModules, LanClientPrivileges.canChangeGovernancePolicy],
    flag client.privileges = true → flag client'.privileges = true
  capabilities : client.capabilities ⊆ client'.capabilities
  autonomousMode : client.autonomousMode = true → client'.autonomousMode = true

theorem LanClientPrivileges.editsCatalog_iff {privileges : LanClientPrivileges} :
    privileges.editsCatalog = true ↔
      ∃ flag ∈ [LanClientPrivileges.canCreateMcpServers,
        LanClientPrivileges.canModifyMcpServers, LanClientPrivileges.canRemoveMcpServers,
        LanClientPrivileges.canCreateSubAgents, LanClientPrivileges.canModifySubAgents,
        LanClientPrivileges.canRemoveSubAgents], flag privileges = true := by
  simp [LanClientPrivileges.editsCatalog, or_assoc]

theorem Extends.granted {client client' : LanClient} (h : Extends client client') {x : String}
    (hx : Granted client x) : Granted client' x := by
  have hflag : ∀ flag : LanClientPrivileges → Bool, flag ∈ _ → _ := h.privileges
  rcases hx with ⟨hne, name, hname, hnorm⟩ | hx
  · exact Or.inl ⟨hne, name, h.capabilities hname, hnorm⟩
  · refine Or.inr (mem_capabilitiesFromPrivileges.mpr ?_)
    rcases mem_capabilitiesFromPrivileges.mp hx with ⟨hx, hedit⟩ | ⟨hx, hm⟩ | ⟨hx, hg⟩ | ⟨hx, hc⟩
    · refine Or.inl ⟨hx, hedit.imp (fun hedit => ?_) h.autonomousMode⟩
      rw [LanClientPrivileges.editsCatalog_iff] at hedit ⊢
      obtain ⟨flag, hmem, hset⟩ := hedit
      exact ⟨flag, hmem, hflag flag (List.mem_append_left
        [LanClientPrivileges.canManageClients, LanClientPrivileges.canManageModules,
          LanClientPrivileges.canChangeGovernancePolicy] hmem) hset⟩
    · exact Or.inr (Or.inl ⟨hx, hflag _ (by simp) hm⟩)
    · exact Or.inr (Or.inr (Or.inl ⟨hx, hflag _ (by simp) hg⟩))
    · exact Or.inr (Or.inr (Or.inr ⟨hx, hflag _ (by simp) hc⟩))

/-- **More authority never removes an effective capability.** -/
theorem Extends.capabilitiesForClient_subset {client client' : LanClient}
    (h : Extends client client') :
    capabilitiesForClient client ⊆ capabilitiesForClient client' := by
  intro x hx
  rw [mem_capabilitiesForClient] at hx ⊢
  exact hx.imp h.granted fun hread => ⟨hread.1, h.granted hread.2⟩

/-! ## The loop -/

/-- Each flag is set by its own capabilities only. -/
theorem privilegesWithCapabilities_flags (privileges : LanClientPrivileges)
    (capabilities : List String) :
    let result := privilegesWithCapabilities privileges capabilities
    let has := hasCapability capabilities
    result.editsCatalog = (privileges.editsCatalog || has kCapabilityProcessExec) ∧
    result.canManageModules = (privileges.canManageModules || has kCapabilityInstallPackage) ∧
    result.canChangeGovernancePolicy = (privileges.canChangeGovernancePolicy ||
      (has kCapabilityGovernanceModify || has kCapabilityNetworkAdmin ||
        has kCapabilitySupervisorAssign)) ∧
    result.canManageClients = (privileges.canManageClients || has kCapabilityClientsManage) := by
  dsimp only
  unfold privilegesWithCapabilities
  generalize hasCapability capabilities kCapabilityProcessExec = exec
  generalize hasCapability capabilities kCapabilityInstallPackage = install
  generalize (hasCapability capabilities kCapabilityGovernanceModify ||
    hasCapability capabilities kCapabilityNetworkAdmin ||
    hasCapability capabilities kCapabilitySupervisorAssign) = governance
  generalize hasCapability capabilities kCapabilityClientsManage = manage
  cases exec <;> cases install <;> cases governance <;> cases manage <;>
    simp [LanClientPrivileges.editsCatalog]

/-- **What is written back**, flag by flag. -/
theorem writeBack_privileges (client : LanClient) :
    ((writeBack client).privileges.editsCatalog = true ↔
      client.privileges.editsCatalog = true ∨
        kCapabilityProcessExec ∈ capabilitiesForClient client) ∧
    ((writeBack client).privileges.canManageModules = true ↔
      client.privileges.canManageModules = true ∨
        kCapabilityInstallPackage ∈ capabilitiesForClient client) ∧
    ((writeBack client).privileges.canChangeGovernancePolicy = true ↔
      client.privileges.canChangeGovernancePolicy = true ∨
        ∃ x ∈ governanceCapabilities, x ∈ capabilitiesForClient client) ∧
    ((writeBack client).privileges.canManageClients = true ↔
      client.privileges.canManageClients = true ∨
        kCapabilityClientsManage ∈ capabilitiesForClient client) := by
  have hhas : ∀ k ∈ [kCapabilityProcessExec, kCapabilityInstallPackage, kCapabilityClientsManage,
      kCapabilityFilesystemRead, kCapabilityFilesystemWrite] ++ governanceCapabilities,
      (hasCapability (capabilitiesForClient client) k = true ↔
        k ∈ capabilitiesForClient client) := fun k hk => by
    rw [hasCapability_iff, (normalizeCapability_of_mem hk).1]
  obtain ⟨hedit, hmodules, hpolicy, hclients⟩ :=
    privilegesWithCapabilities_flags client.privileges (capabilitiesForClient client)
  refine ⟨?_, ?_, ?_, ?_⟩
  · rw [writeBack, hedit, Bool.or_eq_true, hhas _ (by decide)]
  · rw [writeBack, hmodules, Bool.or_eq_true, hhas _ (by decide)]
  · rw [writeBack, hpolicy]
    simp only [Bool.or_eq_true, hhas _ (List.mem_append_right _ (by decide :
      kCapabilityGovernanceModify ∈ governanceCapabilities)), hhas _ (List.mem_append_right _
      (by decide : kCapabilityNetworkAdmin ∈ governanceCapabilities)), hhas _
      (List.mem_append_right _ (by decide : kCapabilitySupervisorAssign ∈
        governanceCapabilities))]
    simp [governanceCapabilities, or_assoc]
  · rw [writeBack, hclients, Bool.or_eq_true, hhas _ (by decide)]

@[simp] theorem stored_writeBack {client : LanClient} {x : String} :
    Stored (writeBack client) x ↔ Stored client x := by
  simp [Stored, writeBack]

/-- **What the loop grants**: what was granted before, and the governance capabilities if
one of them was effective. -/
theorem granted_writeBack {client : LanClient} {x : String} :
    Granted (writeBack client) x ↔ Granted client x ∨
      (x ∈ governanceCapabilities ∧
        ∃ y ∈ governanceCapabilities, y ∈ capabilitiesForClient client) := by
  have hnotRead : ∀ k ∈ [kCapabilityProcessExec, kCapabilityInstallPackage,
      kCapabilityClientsManage] ++ governanceCapabilities, k ≠ kCapabilityFilesystemRead := by
    decide
  -- a capability that reading does not stand for is effective only if it is granted
  have heffective : ∀ k ∈ [kCapabilityProcessExec, kCapabilityInstallPackage,
      kCapabilityClientsManage] ++ governanceCapabilities,
      k ∈ capabilitiesForClient client → Granted client k := by
    intro k hk hmem
    exact (mem_capabilitiesForClient.mp hmem).resolve_right fun h => hnotRead k hk h.1
  obtain ⟨hedit, hmodules, hpolicy, hclients⟩ := writeBack_privileges client
  have hauto : (writeBack client).autonomousMode = client.autonomousMode := rfl
  constructor
  · rintro (⟨hne, hstored⟩ | hx)
    · exact Or.inl (Or.inl ⟨hne, stored_writeBack.mp hstored⟩)
    · rw [mem_capabilitiesFromPrivileges, hedit, hmodules, hpolicy, hclients, hauto] at hx
      rcases hx with ⟨rfl, (h | h) | h⟩ | ⟨rfl, h | h⟩ | ⟨hx, h | h⟩ | ⟨rfl, h | h⟩
      · exact Or.inl (Or.inr (mem_capabilitiesFromPrivileges.mpr (Or.inl ⟨rfl, Or.inl h⟩)))
      · exact Or.inl (heffective _ (by decide) h)
      · exact Or.inl (Or.inr (mem_capabilitiesFromPrivileges.mpr (Or.inl ⟨rfl, Or.inr h⟩)))
      · exact Or.inl (Or.inr (mem_capabilitiesFromPrivileges.mpr (Or.inr (Or.inl ⟨rfl, h⟩))))
      · exact Or.inl (heffective _ (by decide) h)
      · exact Or.inl (Or.inr (mem_capabilitiesFromPrivileges.mpr
          (Or.inr (Or.inr (Or.inl ⟨hx, h⟩)))))
      · exact Or.inr ⟨hx, h⟩
      · exact Or.inl (Or.inr (mem_capabilitiesFromPrivileges.mpr
          (Or.inr (Or.inr (Or.inr ⟨rfl, h⟩)))))
      · exact Or.inl (heffective _ (by decide) h)
  · rintro ((⟨hne, hstored⟩ | hx) | ⟨hx, hsome⟩)
    · exact Or.inl ⟨hne, stored_writeBack.mpr hstored⟩
    · refine Or.inr (mem_capabilitiesFromPrivileges.mpr ?_)
      rw [hedit, hmodules, hpolicy, hclients, hauto]
      rcases mem_capabilitiesFromPrivileges.mp hx with ⟨hx, h⟩ | ⟨hx, h⟩ | ⟨hx, h⟩ | ⟨hx, h⟩
      · exact Or.inl ⟨hx, h.imp_left Or.inl⟩
      · exact Or.inr (Or.inl ⟨hx, Or.inl h⟩)
      · exact Or.inr (Or.inr (Or.inl ⟨hx, Or.inl h⟩))
      · exact Or.inr (Or.inr (Or.inr ⟨hx, Or.inl h⟩))
    · refine Or.inr (mem_capabilitiesFromPrivileges.mpr ?_)
      exact Or.inr (Or.inr (Or.inl ⟨hx, hpolicy.mpr (Or.inr hsome)⟩))

/-! ## When the loop is closed -/

/-- What the two vocabularies should promise of a client. -/
structure CapabilityLaw (client : LanClient) : Prop where
  /-- Going round the loop changes nothing. -/
  closed : ∀ x, x ∈ capabilitiesForClient (writeBack client) ↔ x ∈ capabilitiesForClient client
  /-- More authority removes nothing. -/
  monotone : ∀ client', Extends client client' →
    capabilitiesForClient client ⊆ capabilitiesForClient client'
  effectiveList : EffectiveList (capabilitiesForClient client)
  /-- A client with nothing but `network.admin`, or nothing but `supervisor.assign`, does not
  come to exercise `governance.modify`. -/
  governance : ∀ k ∈ [kCapabilityNetworkAdmin, kCapabilitySupervisorAssign],
    (∀ x, x ∈ capabilitiesForClient client ↔ x = k) →
      kCapabilityGovernanceModify ∉ capabilitiesForClient (writeBack client) ∧
        (writeBack client).privileges.canChangeGovernancePolicy = false

/-- The client has the governance privilege, or its stored list names all the capabilities
that the privilege stands for, or none of them. -/
def GovernanceUndivided (client : LanClient) : Prop :=
  client.privileges.canChangeGovernancePolicy = true ∨
    (∀ x ∈ governanceCapabilities, Stored client x) ∨
    (∀ x ∈ governanceCapabilities, ¬ Stored client x)

/-- How a governance capability becomes effective. -/
theorem mem_capabilitiesForClient_of_governance {client : LanClient} {x : String}
    (hx : x ∈ governanceCapabilities) :
    x ∈ capabilitiesForClient client ↔
      Stored client x ∨ client.privileges.canChangeGovernancePolicy = true := by
  have hne := (normalizeCapability_of_mem (List.mem_append_right
    [kCapabilityProcessExec, kCapabilityInstallPackage, kCapabilityClientsManage,
      kCapabilityFilesystemRead, kCapabilityFilesystemWrite] hx)).2
  have hother : ∀ y ∈ governanceCapabilities, y ≠ kCapabilityFilesystemRead ∧
      y ≠ kCapabilityProcessExec ∧ y ≠ kCapabilityInstallPackage ∧
      y ≠ kCapabilityClientsManage := by
    decide
  obtain ⟨hread, hexec, hinstall, hmanage⟩ := hother x hx
  rw [mem_capabilitiesForClient, Granted, mem_capabilitiesFromPrivileges]
  simp [hne, hread, hexec, hinstall, hmanage, hx]

/-- The loop grants an undivided client nothing new. -/
theorem GovernanceUndivided.granted_writeBack {client : LanClient}
    (h : GovernanceUndivided client) {x : String} :
    Granted (writeBack client) x ↔ Granted client x := by
  rw [Clients.granted_writeBack, or_iff_left_of_imp]
  rintro ⟨hx, y, hy, heffective⟩
  have hgranted : x ∈ capabilitiesForClient client := by
    rw [mem_capabilitiesForClient_of_governance hx]
    rcases h with hpolicy | hall | hnone
    · exact Or.inr hpolicy
    · exact Or.inl (hall x hx)
    · rw [mem_capabilitiesForClient_of_governance hy] at heffective
      exact Or.inr (heffective.resolve_left (hnone y hy))
  have hnotRead : ∀ y ∈ governanceCapabilities, y ≠ kCapabilityFilesystemRead := by decide
  exact (mem_capabilitiesForClient.mp hgranted).resolve_right fun hread => hnotRead x hx hread.1

/-- **When privileges and capabilities do not escalate each other.** -/
theorem capabilityLaw_iff (client : LanClient) :
    CapabilityLaw client ↔ GovernanceUndivided client := by
  constructor
  · intro hlaw
    by_contra hdivided
    rw [GovernanceUndivided, not_or, not_or] at hdivided
    obtain ⟨hpolicy, hall, hnone⟩ := hdivided
    push Not at hall hnone
    obtain ⟨x, hx, hxstored⟩ := hall
    obtain ⟨y, hy, hystored⟩ := hnone
    -- the stored capability brings the missing one along
    have heffective : y ∈ capabilitiesForClient client :=
      (mem_capabilitiesForClient_of_governance hy).mpr (Or.inl hystored)
    have hgained : x ∈ capabilitiesForClient (writeBack client) :=
      mem_capabilitiesForClient.mpr (Or.inl (granted_writeBack.mpr (Or.inr ⟨hx, y, hy, heffective⟩)))
    have hbefore := (mem_capabilitiesForClient_of_governance hx).mp ((hlaw.closed x).mp hgained)
    exact hbefore.elim hxstored hpolicy
  · intro hundivided
    have hclosed : ∀ x, x ∈ capabilitiesForClient (writeBack client) ↔
        x ∈ capabilitiesForClient client := by
      intro x
      rw [mem_capabilitiesForClient, mem_capabilitiesForClient, hundivided.granted_writeBack,
        hundivided.granted_writeBack]
    refine ⟨hclosed, fun client' h => h.capabilitiesForClient_subset,
      effectiveList_capabilitiesForClient client, fun k hk honly => ?_⟩
    have hne : ∀ k ∈ [kCapabilityNetworkAdmin, kCapabilitySupervisorAssign],
        k ∈ governanceCapabilities ∧ kCapabilityGovernanceModify ≠ k := by decide
    have hmodify : kCapabilityGovernanceModify ∉ capabilitiesForClient client := fun hmem =>
      (hne k hk).2 ((honly _).mp hmem)
    -- an undivided client that can do `k` can modify the governance as well
    refine absurd ?_ hmodify
    have hk' := (mem_capabilitiesForClient_of_governance (hne k hk).1).mp ((honly k).mpr rfl)
    rw [mem_capabilitiesForClient_of_governance (by decide)]
    rcases hundivided with hpolicy | hall | hnone
    · exact Or.inr hpolicy
    · exact Or.inl (hall _ (by decide))
    · exact Or.inr (hk'.resolve_left (hnone k (hne k hk).1))

/-- A client that was only given `network.admin` comes back with `governance.modify`. -/
theorem network_admin_escalates : ¬ ∀ client : LanClient, CapabilityLaw client := by
  intro h
  have hclosed := (h { clientId := "ops", capabilities := ["network.admin"] }).closed
    kCapabilityGovernanceModify
  exact absurd (hclosed.mp (by decide)) (by decide)

end Clients
end MasterControl
