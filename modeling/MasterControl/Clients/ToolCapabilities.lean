import MasterControl.Clients.Capabilities

/-!
# The capabilities that a tool requires

`requiredCapabilitiesForMcpTool` computes what a client must hold to call a tool of a pool.  There
are six groups; each is a list of tool names and a list of pool ids, and a tool is in it by either
name (`Requirement`, `mem_requiredCapabilitiesForMcpTool`).  Letter case and the blanks around a
pool id make no difference (`requiredCapabilities_of_respelled`).
-/

namespace MasterControl
namespace Clients

open Foundation Gateway

def kCapabilityDesktopControl : String := "desktop.control"
def kCapabilityInputSynthesize : String := "input.synthesize"
def kCapabilityScreenCapture : String := "screen.capture"

/-! ## The six groups -/

/-- The tools and the pools that require the same. -/
structure Requirement where
  tools : List String
  servers : List String
  capabilities : List String

def Requirement.includes (requirement : Requirement) (server tool : String) : Bool :=
  requirement.tools.contains tool || requirement.servers.contains server

def processRequirement : Requirement where
  tools := ["shell.exec", "repl.exec", "test.run", "build.run", "lint.run", "git.run",
    "desktop.launch"]
  servers := ["terminal-shell", "local-git", "code-execution-repl", "local-test-runner",
    "local-build-tool", "local-linter"]
  capabilities := [kCapabilityProcessExec]

def readRequirement : Requirement where
  tools := ["search.grep", "index.list_files", "ctx.get", "ctx.list", "kg.search",
    "kg.read_graph", "watch.add", "watch.poll", "watch.list", "watch.remove",
    "scribe.list_release_reports", "scribe.version_state"]
  servers := ["filesystem", "file-search", "file-watcher", "local-indexer"]
  capabilities := [kCapabilityFilesystemRead]

def writeRequirement : Requirement where
  tools := ["ctx.set", "ctx.delete", "kg.entity.upsert", "kg.relation.create",
    "kg.delete_entity", "db.set_connection_string"]
  servers := ["filesystem", "local-database", "persistent-context", "knowledge-graph"]
  capabilities := [kCapabilityFilesystemWrite, kCapabilityFilesystemRead]

def desktopRequirement : Requirement where
  tools := ["desktop.list_windows", "desktop.focus", "desktop.launch", "desktop.foreground",
    "computer.window_list"]
  servers := ["computer-use", "desktop-control"]
  capabilities := [kCapabilityDesktopControl]

def inputRequirement : Requirement where
  tools := ["input.keyboard", "input.click", "input.move", "input.scroll", "computer.type",
    "computer.click", "computer.move_mouse"]
  servers := ["computer-use", "keyboard-mouse-control"]
  capabilities := [kCapabilityInputSynthesize]

def screenRequirement : Requirement where
  tools := ["screen.capture", "screen.size", "computer.screenshot"]
  servers := ["computer-use", "screen-capture-vision"]
  capabilities := [kCapabilityScreenCapture]

/-- In the order of the function. -/
def requirements : List Requirement :=
  [processRequirement, readRequirement, writeRequirement, desktopRequirement, inputRequirement,
   screenRequirement]

def requiredCapabilitiesForMcpTool (serverName toolName : String) : List String :=
  let server := normalizeCapability serverName
  let tool := normalizeCapability toolName
  requirements.foldl (fun capabilities requirement =>
    if requirement.includes server tool then
      requirement.capabilities.foldl addCapability capabilities
    else capabilities) []

/-! ## Risks -/

def capabilityRisk (capability : String) : String :=
  let normalized := normalizeCapability capability
  if normalized = kCapabilityFilesystemRead then "medium"
  else if normalized = kCapabilityFilesystemWrite || normalized = kCapabilityScreenCapture ||
      normalized = kCapabilityNetworkAdmin || normalized = kCapabilityGovernanceModify ||
      normalized = kCapabilityClientsManage then "high"
  else if normalized = kCapabilityProcessExec || normalized = kCapabilityDesktopControl ||
      normalized = kCapabilityInputSynthesize || normalized = kCapabilityInstallPackage ||
      normalized = kCapabilitySupervisorAssign then "critical"
  else ""

/-- The loop, with the risk so far. -/
def highestRiskFrom (risk : String) : List String → String
  | [] => risk
  | capability :: capabilities =>
    let candidate := capabilityRisk capability
    if candidate = "critical" then candidate
    else if candidate = "high" then highestRiskFrom "high" capabilities
    else if candidate = "medium" ∧ risk = "" then highestRiskFrom "medium" capabilities
    else highestRiskFrom risk capabilities

def highestCapabilityRisk (capabilities : List String) : String := highestRiskFrom "" capabilities

/-! ## What is required -/

section Required

variable {serverName toolName capability : String}

/-- What a group requires is written as it is compared. -/
theorem normalizeCapability_of_required :
    ∀ requirement ∈ requirements, ∀ capability ∈ requirement.capabilities,
      normalizeCapability capability = capability ∧ capability ≠ "" := by
  decide

theorem mem_foldl_addCapability_of_normalised {capabilities added : List String}
    (hadded : ∀ name ∈ added, normalizeCapability name = name ∧ name ≠ "") :
    capability ∈ added.foldl addCapability capabilities ↔
      capability ∈ capabilities ∨ capability ∈ added := by
  rw [mem_foldl_addCapability]
  refine or_congr_right ⟨?_, fun hmem => ⟨(hadded _ hmem).2, _, hmem, (hadded _ hmem).1⟩⟩
  rintro ⟨-, name, hname, rfl⟩
  rwa [(hadded name hname).1]

/-- **A capability is required if a group requires it that the tool or the pool is in.** -/
theorem mem_requiredCapabilitiesForMcpTool :
    capability ∈ requiredCapabilitiesForMcpTool serverName toolName ↔
      ∃ requirement ∈ requirements,
        requirement.includes (normalizeCapability serverName) (normalizeCapability toolName) ∧
          capability ∈ requirement.capabilities := by
  unfold requiredCapabilitiesForMcpTool
  generalize normalizeCapability serverName = server
  generalize normalizeCapability toolName = tool
  have hall := normalizeCapability_of_required
  -- what is required so far, and what the other groups require
  suffices h : ∀ rest : List Requirement, (∀ requirement ∈ rest, requirement ∈ requirements) →
      ∀ capabilities : List String,
      capability ∈ rest.foldl (fun capabilities requirement =>
        if requirement.includes server tool then
          requirement.capabilities.foldl addCapability capabilities
        else capabilities) capabilities ↔
      capability ∈ capabilities ∨ ∃ requirement ∈ rest,
        requirement.includes server tool = true ∧ capability ∈ requirement.capabilities by
    rw [h requirements (fun _ hmem => hmem) []]
    exact or_iff_right List.not_mem_nil
  intro rest
  induction rest with
  | nil => simp
  | cons requirement rest ih =>
    intro hrest capabilities
    have hlater := ih fun other hother => hrest other (List.mem_cons_of_mem requirement hother)
    rw [List.foldl_cons, hlater, List.exists_mem_cons_iff]
    cases hincludes : requirement.includes server tool with
    | true =>
      rw [if_pos rfl, and_iff_right rfl, ← or_assoc,
        mem_foldl_addCapability_of_normalised (hall requirement (hrest _ List.mem_cons_self))]
    | false =>
      rw [if_neg Bool.false_ne_true]
      exact or_congr_right (or_iff_right fun h => Bool.false_ne_true h.1).symm

/-- One pool id is the other in other letter case and with other blanks around it. -/
def Respelled (poolId other : String) : Prop :=
  ∃ front back : List Char, (∀ c ∈ front, isSpace c = true) ∧ (∀ c ∈ back, isSpace c = true) ∧
    other.toList.map Char.toLower = (front ++ poolId.toList ++ back).map Char.toLower

theorem normalizeCapability_of_respelled {other : String} (h : Respelled serverName other) :
    normalizeCapability other = normalizeCapability serverName := by
  obtain ⟨front, back, hfront, hback, hother⟩ := h
  rw [← String.toList_inj, toList_normalizeCapability, toList_normalizeCapability,
    ← trim_map isSpace_toLower, hother, trim_map isSpace_toLower, trim_surrounded hfront hback]

/-- **Letter case and surrounding blanks of a pool id make no difference.** -/
theorem requiredCapabilities_of_respelled {other : String} (h : Respelled serverName other) :
    requiredCapabilitiesForMcpTool other toolName =
      requiredCapabilitiesForMcpTool serverName toolName := by
  unfold requiredCapabilitiesForMcpTool
  rw [normalizeCapability_of_respelled h]

/-- What a group requires for its tools, it requires under every pool id. -/
theorem mem_requiredCapabilities_of_tool {tool : String}
    (h : ∃ requirement ∈ requirements, requirement.tools.contains (normalizeCapability tool) ∧
      capability ∈ requirement.capabilities) :
    capability ∈ requiredCapabilitiesForMcpTool serverName tool := by
  obtain ⟨requirement, hmem, htool, hcapability⟩ := h
  refine mem_requiredCapabilitiesForMcpTool.mpr ⟨requirement, hmem, ?_, hcapability⟩
  rw [Requirement.includes, htool, Bool.true_or]

end Required

end Clients
end MasterControl
