import MasterControl.Gateway.Dispatch
import MasterControl.Worker.ToolDispatch

/-!
# Which tools need their capability

The gateway computes what a tool requires from its name and from the id of its pool, and does not
know the specialization of the worker behind the pool.  The tools of every specialization but
`localDatabase` are listed by name, so they need their capability in whatever pool they are
(`requiresNeeds_of_ne_localDatabase`).  Of the database tools one is listed by name; the four that
read are guarded by the name of the pool only (`tools_guarded_iff`).
-/

namespace MasterControl
namespace Worker

open Foundation Clients Gateway

variable {conversions : NumberConversions} {services : GatewayServices} {job : GatewayRequestJob}
  {members : List (String × Json)} {id forwarded : Json} {poolId toolName : String}
  {specialization : Specialization}

/-! ## What the gateway forwards -/

/-- Every entry of the catalogs was made with what its tool requires. -/
def CatalogComputed (services : GatewayServices) : Prop :=
  ∀ d ∈ services.toolCatalogCache ++ services.currentToolCatalog,
    d.requiredCapabilities = requiredCapabilitiesForMcpTool d.serverName d.toolName

/-- `params.name` of a forwarded request. -/
def forwardedToolName (forwarded : Json) : Option String :=
  ((forwarded.member? "params").bind (Json.member? "name")).bind Json.asString?

theorem mem_of_resolve_found {catalog : List McpToolDescriptor} {requestedName : String}
    (h : (resolve catalog requestedName).status = .found) :
    ∃ d ∈ catalog, resolve catalog requestedName = found d := by
  unfold resolve at h ⊢
  cases hfind : catalog.find? fun d => qualifiedName d = requestedName with
  | some d => exact ⟨d, List.mem_of_find?_eq_some hfind, rfl⟩
  | none =>
    rw [hfind] at h
    cases hfilter : catalog.filter fun d => d.toolName = requestedName with
    | nil =>
      rw [hfilter] at h
      cases h
    | cons d rest =>
      rw [hfilter] at h
      cases rest with
      | nil =>
        have hmem : d ∈ catalog.filter fun d => d.toolName = requestedName := by
          rw [hfilter]
          exact List.mem_singleton_self d
        exact ⟨d, (List.mem_filter.mp hmem).1, rfl⟩
      | cons other rest => cases h

theorem mem_of_lookupTool_known {requestedName : String} {known : McpToolNameResolution}
    (h : lookupTool services requestedName = .known known) :
    ∃ d ∈ services.toolCatalogCache ++ services.currentToolCatalog, known = found d := by
  unfold lookupTool at h
  dsimp only at h
  split_ifs at h with _ hcached _ hrefreshed
  · rw [Bool.and_eq_true, decide_eq_true_iff] at hcached
    obtain ⟨d, hmem, hd⟩ := mem_of_resolve_found hcached.1
    cases h
    exact ⟨d, List.mem_append_left _ hmem, hd⟩
  · rw [Bool.and_eq_true, decide_eq_true_iff] at hrefreshed
    obtain ⟨d, hmem, hd⟩ := mem_of_resolve_found hrefreshed.1
    cases h
    exact ⟨d, List.mem_append_right _ hmem, hd⟩

/-- A call is forwarded for an entry of a catalog whose capabilities the client has. -/
theorem granted_of_forward
    (h : prepareToolsCall services job members id = .ok (.forward poolId forwarded)) :
    ∃ d ∈ services.toolCatalogCache ++ services.currentToolCatalog, ∃ context,
      resolveCapabilities services job.clientId job.clientIpAddress = .ok context ∧
      hasAllCapabilities context.capabilities d.requiredCapabilities = true ∧
      poolId = d.serverName ∧
      forwarded = forwardedEnvelope services.bridgeRequestIdCounter d.toolName members := by
  unfold prepareToolsCall at h
  split_ifs at h
  · cases h
  · split at h
    · cases h
    · rename_i name _
      split at h
      · cases h
      · cases h
      · rename_i known hlookup
        obtain ⟨d, hmem, rfl⟩ := mem_of_lookupTool_known hlookup
        split at h
        · cases h
        · rename_i context hcontext
          split_ifs at h with hgranted
          · cases h
            exact ⟨d, hmem, context, hcontext, hgranted, rfl, rfl⟩
          · -- the denial is audited and answered
            dsimp only at h
            split at h
            · cases h
            · cases h

/-- What is forwarded names the tool of the entry, if it names one. -/
theorem eq_of_forwardedToolName {bridgeId : Nat} {localToolName : String}
    (h : forwardedToolName (forwardedEnvelope bridgeId localToolName members) = some toolName) :
    toolName = localToolName := by
  unfold forwardedEnvelope at h
  dsimp only at h
  split at h
  · rename_i params _
    unfold forwardedToolName at h
    rw [Json.member?, Json.lookup_setMember_self, Option.bind_some, Json.member?,
      Json.lookup_setMember_self, Option.bind_some] at h
    exact (Option.some.inj h).symm
  · rename_i hparams
    unfold forwardedToolName at h
    rw [Json.member?] at h
    cases hlookup : Json.lookup "params" (Json.setMember "id" (.integer bridgeId) members) with
    | none =>
      rw [hlookup] at h
      cases h
    | some params =>
      rw [hlookup] at h
      cases params with
      | object params => exact absurd hlookup (hparams params)
      | null => cases h
      | boolean _ => cases h
      | integer _ => cases h
      | real _ => cases h
      | string _ => cases h
      | array _ => cases h

/-! ## Guarded tools -/

/-- Whatever a tool of the worker does, it requires the capability for it. -/
def RequiresNeeds (conversions : NumberConversions) (poolId : String)
    (specialization : Specialization) : Prop :=
  ∀ (toolName : String) (arguments : Json) (action : ToolAction),
    dispatchToolCall conversions specialization toolName arguments = some (.does action) →
      ∀ capability ∈ action.needs, capability ∈ requiredCapabilitiesForMcpTool poolId toolName

/-- A call that reaches the pool comes from a client with the capabilities for what it does. -/
def RefusesWithout (conversions : NumberConversions) (poolId : String)
    (specialization : Specialization) : Prop :=
  ∀ (services : GatewayServices) (job : GatewayRequestJob) (members : List (String × Json))
    (id forwarded : Json), CatalogComputed services →
    prepareToolsCall services job members id = .ok (.forward poolId forwarded) →
    ∀ (toolName : String) (arguments : Json) (action : ToolAction),
      forwardedToolName forwarded = some toolName →
      dispatchToolCall conversions specialization toolName arguments = some (.does action) →
      ∃ context, resolveCapabilities services job.clientId job.clientIpAddress = .ok context ∧
        ∀ capability ∈ action.needs, hasCapability context.capabilities capability = true

/-- The tools of a pool are guarded, however its id is spelled. -/
structure ToolsGuarded (conversions : NumberConversions) (poolId : String)
    (specialization : Specialization) : Prop where
  required : RequiresNeeds conversions poolId specialization
  refused : RefusesWithout conversions poolId specialization
  respelled : ∀ other toolName : String, Respelled poolId other →
    requiredCapabilitiesForMcpTool other toolName = requiredCapabilitiesForMcpTool poolId toolName

theorem refusesWithout_of_requiresNeeds (h : RequiresNeeds conversions poolId specialization) :
    RefusesWithout conversions poolId specialization := by
  intro services job members id forwarded hcatalog hforward toolName arguments action hname hdoes
  obtain ⟨d, hmem, context, hcontext, hgranted, rfl, rfl⟩ := granted_of_forward hforward
  have htool : toolName = d.toolName := eq_of_forwardedToolName hname
  refine ⟨context, hcontext, fun capability hneeds => ?_⟩
  have hrequired := h toolName arguments action hdoes capability hneeds
  rw [htool, ← hcatalog d hmem] at hrequired
  exact List.all_eq_true.mp hgranted capability hrequired

/-! ## Tools that are listed by name -/

/-- A tool whose capabilities are required under every pool id. -/
def GuardedByName (entry : String × Tool) : Prop :=
  ∀ (arguments : Json) (action : ToolAction), (entry.2 arguments).run = some (.ok action) →
    ∀ capability ∈ action.needs, ∃ requirement ∈ requirements,
      requirement.tools.contains (normalizeCapability entry.1) = true ∧
        capability ∈ requirement.capabilities

theorem needs_of_tool {α : Type} {read : Json → Reading α} {act : α → ToolAction}
    {needs : List String} (hneeds : ∀ a, (act a).needs = needs) (arguments : Json)
    (action : ToolAction) (hrun : (tool read act arguments).run = some (.ok action)) :
    action.needs = needs := by
  obtain ⟨a, rfl⟩ := eq_act_of_tool hrun
  exact hneeds a

/-- Enough: what the tool can do needs certain capabilities, and its name is listed with each. -/
theorem guardedByName_tool {α : Type} {name : String} {read : Json → Reading α}
    {act : α → ToolAction} {needs : List String} (hneeds : ∀ a, (act a).needs = needs)
    (hlisted : ∀ capability ∈ needs, ∃ requirement ∈ requirements,
      requirement.tools.contains (normalizeCapability name) = true ∧
        capability ∈ requirement.capabilities) :
    GuardedByName (name, tool read act) := by
  intro arguments action hrun capability hcapability
  rw [needs_of_tool hneeds arguments action hrun] at hcapability
  exact hlisted capability hcapability

/-- A tool that needs nothing. -/
theorem guardedByName_of_needs_nil {α : Type} {name : String} {read : Json → Reading α}
    {act : α → ToolAction} (hneeds : ∀ a, (act a).needs = []) :
    GuardedByName (name, tool read act) :=
  guardedByName_tool hneeds fun _ h => absurd h List.not_mem_nil

theorem guardedByName_relayTool (name route : String) (timeoutMs : Int32) :
    GuardedByName (name, relayTool route timeoutMs) :=
  guardedByName_of_needs_nil fun _ => rfl

/-- The entries of a table, one after the other. -/
def GuardedEntries : List (String × Tool) → Prop
  | [] => True
  | entry :: entries => GuardedByName entry ∧ GuardedEntries entries

theorem forall_mem_of_entries {entries : List (String × Tool)} (h : GuardedEntries entries) :
    ∀ entry ∈ entries, GuardedByName entry := by
  induction entries with
  | nil => exact List.forall_mem_nil _
  | cons entry entries ih => exact List.forall_mem_cons.mpr ⟨h.1, ih h.2⟩

theorem guardedByName_testRun : GuardedByName ("test.run", testRunTool conversions) := by
  have hlisted : ∀ capability ∈ [kCapabilityProcessExec], ∃ requirement ∈ requirements,
      requirement.tools.contains (normalizeCapability "test.run") = true ∧
        capability ∈ requirement.capabilities := by decide
  refine guardedByName_tool (fun a => ?_) hlisted
  obtain ⟨run, cwd, timeoutMs, framework⟩ := a
  cases run with
  | program exe args => rfl
  | shell commandLine => rfl

theorem guardedByName_persistentContext :
    ∀ entry ∈ persistentContextTools, GuardedByName entry := by
  refine forall_mem_of_entries ⟨?_, ?_, ?_, ?_, trivial⟩ <;>
    exact guardedByName_tool (fun _ => rfl) (by decide)

theorem guardedByName_knowledgeGraph : ∀ entry ∈ knowledgeGraphTools, GuardedByName entry := by
  refine forall_mem_of_entries ⟨?_, ?_, ?_, ?_, ?_, trivial⟩ <;>
    exact guardedByName_tool (fun _ => rfl) (by decide)

theorem guardedByName_fileWatcher : ∀ entry ∈ fileWatcherTools, GuardedByName entry := by
  refine forall_mem_of_entries ⟨?_, ?_, ?_, ?_, trivial⟩ <;>
    exact guardedByName_tool (fun _ => rfl) (by decide)

theorem guardedByName_input : ∀ entry ∈ inputTools conversions, GuardedByName entry := by
  refine forall_mem_of_entries ⟨?_, ?_, ?_, ?_, trivial⟩ <;>
    exact guardedByName_tool (fun _ => rfl) (by decide)

theorem guardedByName_screen : ∀ entry ∈ screenTools conversions, GuardedByName entry := by
  refine forall_mem_of_entries ⟨?_, ?_, trivial⟩ <;>
    exact guardedByName_tool (fun _ => rfl) (by decide)

theorem guardedByName_desktop : ∀ entry ∈ desktopTools, GuardedByName entry := by
  refine forall_mem_of_entries ⟨?_, ?_, ?_, ?_, trivial⟩ <;>
    exact guardedByName_tool (fun _ => rfl) (by decide)

theorem guardedByName_aliases : ∀ entry ∈ computerAliases conversions, GuardedByName entry := by
  refine forall_mem_of_entries ⟨?_, ?_, ?_, ?_, ?_, trivial⟩ <;>
    exact guardedByName_tool (fun _ => rfl) (by decide)

theorem guardedByName_common : ∀ entry ∈ commonTools, GuardedByName entry := by
  refine forall_mem_of_entries ⟨?_, ?_, ?_, ?_, trivial⟩ <;>
    exact guardedByName_of_needs_nil fun _ => rfl

/-- **Every tool is guarded by its name**, except for those of the database. -/
theorem guardedByName_of_ne_localDatabase (hne : specialization ≠ .localDatabase) :
    ∀ entry ∈ specializedTools conversions specialization, GuardedByName entry := by
  cases specialization with
  | baselineTools => exact List.forall_mem_nil _
  | terminalShell | localGit | fileSearch | codeExecutionRepl | localBuildTool | localLinter
  | localIndexer =>
    exact List.forall_mem_singleton.mpr (guardedByName_tool (fun _ => rfl) (by decide))
  | localTestRunner => exact List.forall_mem_singleton.mpr guardedByName_testRun
  | clientTracker => exact List.forall_mem_singleton.mpr (guardedByName_relayTool _ _ _)
  | metrics =>
    exact List.forall_mem_cons.mpr ⟨guardedByName_relayTool _ _ _,
      List.forall_mem_singleton.mpr (guardedByName_relayTool _ _ _)⟩
  | persistentContext => exact guardedByName_persistentContext
  | knowledgeGraph => exact guardedByName_knowledgeGraph
  | fileWatcher => exact guardedByName_fileWatcher
  | keyboardMouseControl => exact guardedByName_input
  | screenCaptureVision => exact guardedByName_screen
  | desktopControl => exact guardedByName_desktop
  | computerUse =>
    refine List.forall_mem_append.mpr ⟨List.forall_mem_append.mpr ⟨List.forall_mem_append.mpr
      ⟨guardedByName_input, guardedByName_screen⟩, guardedByName_desktop⟩, guardedByName_aliases⟩
  | agentScribe =>
    exact forall_mem_of_entries ⟨guardedByName_tool (fun _ => rfl) (by decide),
      guardedByName_of_needs_nil fun _ => rfl, guardedByName_relayTool _ _ _, trivial⟩
  | agentSentinel | agentArchitect | agentForge | agentRecon | agentNexus | agentWatchtower =>
    refine forall_mem_of_entries ⟨?_, ?_, ?_, trivial⟩ <;>
      exact guardedByName_of_needs_nil fun _ => rfl
  | localDatabase => exact absurd rfl hne

theorem requiresNeeds_of_guardedByName
    (h : ∀ entry ∈ specializedTools conversions specialization, GuardedByName entry) :
    RequiresNeeds conversions poolId specialization := by
  intro toolName arguments action hdoes capability hneeds
  obtain ⟨served, hmem, hrun⟩ := served_of_does conversions hdoes
  refine mem_requiredCapabilities_of_tool ?_
  rcases List.mem_append.mp hmem with hmem | hmem
  · exact h _ hmem arguments action hrun capability hneeds
  · exact guardedByName_common _ hmem arguments action hrun capability hneeds

theorem requiresNeeds_of_ne_localDatabase (hne : specialization ≠ .localDatabase) :
    RequiresNeeds conversions poolId specialization :=
  requiresNeeds_of_guardedByName (guardedByName_of_ne_localDatabase hne)

/-! ## The database tools -/

/-- The pool ids under which every tool requires `filesystem.read`. -/
def ReadingPool (poolId : String) : Prop :=
  normalizeCapability poolId ∈ ["filesystem", "file-search", "file-watcher", "local-indexer",
    "local-database", "persistent-context", "knowledge-graph"]

instance (poolId : String) : Decidable (ReadingPool poolId) :=
  inferInstanceAs (Decidable (_ ∈ _))

/-- The groups that require `filesystem.read`. -/
theorem readers_of_requirements :
    (requirements.filter fun requirement =>
      requirement.capabilities.contains kCapabilityFilesystemRead) =
    [readRequirement, writeRequirement] := rfl

theorem exists_reader_iff {P : Requirement → Prop} :
    (∃ requirement ∈ requirements, P requirement ∧
      kCapabilityFilesystemRead ∈ requirement.capabilities) ↔
    P readRequirement ∨ P writeRequirement := by
  have hreaders : ∀ requirement : Requirement,
      requirement ∈ [readRequirement, writeRequirement] ↔ requirement ∈ requirements ∧
        kCapabilityFilesystemRead ∈ requirement.capabilities := by
    intro requirement
    rw [← readers_of_requirements, List.mem_filter, List.contains_iff_mem]
  constructor
  · rintro ⟨requirement, hmem, hP, hread⟩
    rcases List.mem_cons.mp ((hreaders requirement).mpr ⟨hmem, hread⟩) with rfl | hwrite
    · exact Or.inl hP
    · exact Or.inr (List.mem_singleton.mp hwrite ▸ hP)
  · rintro (hP | hP)
    · obtain ⟨hmem, hread⟩ := (hreaders readRequirement).mp List.mem_cons_self
      exact ⟨_, hmem, hP, hread⟩
    · obtain ⟨hmem, hread⟩ :=
        (hreaders writeRequirement).mp (List.mem_cons_of_mem _ (List.mem_singleton_self _))
      exact ⟨_, hmem, hP, hread⟩

theorem readingPool_iff : ReadingPool poolId ↔
    readRequirement.servers.contains (normalizeCapability poolId) = true ∨
      writeRequirement.servers.contains (normalizeCapability poolId) = true := by
  rw [List.contains_iff_mem, List.contains_iff_mem, ReadingPool]
  generalize normalizeCapability poolId = server
  -- both groups list the file system
  obtain ⟨others, hothers⟩ : ∃ others, others = ["local-database", "persistent-context",
      "knowledge-graph"] := ⟨_, rfl⟩
  have hall : ["filesystem", "file-search", "file-watcher", "local-indexer", "local-database",
      "persistent-context", "knowledge-graph"] = readRequirement.servers ++ others := by
    rw [hothers]
    rfl
  have hwriters : writeRequirement.servers = "filesystem" :: others := by
    rw [hothers]
    rfl
  rw [hall, hwriters, List.mem_append, List.mem_cons]
  constructor
  · exact Or.imp_right Or.inr
  · rintro (hread | hfilesystem | hwrite)
    · exact Or.inl hread
    · rw [hfilesystem]
      exact Or.inl List.mem_cons_self
    · exact Or.inr hwrite

/-- **The pool id decides about `filesystem.read`** for a tool that the groups do not list. -/
theorem read_mem_required_iff
    (hread : readRequirement.tools.contains (normalizeCapability toolName) = false)
    (hwrite : writeRequirement.tools.contains (normalizeCapability toolName) = false) :
    kCapabilityFilesystemRead ∈ requiredCapabilitiesForMcpTool poolId toolName ↔
      ReadingPool poolId := by
  rw [mem_requiredCapabilitiesForMcpTool, exists_reader_iff, Requirement.includes,
    Requirement.includes, hread, hwrite, Bool.false_or, Bool.false_or, readingPool_iff]

theorem read_mem_required_of_readingPool (hpool : ReadingPool poolId) :
    kCapabilityFilesystemRead ∈ requiredCapabilitiesForMcpTool poolId toolName := by
  rw [mem_requiredCapabilitiesForMcpTool, exists_reader_iff, Requirement.includes,
    Requirement.includes, Bool.or_eq_true, Bool.or_eq_true]
  exact (readingPool_iff.mp hpool).imp Or.inr Or.inr

/-- A database tool is guarded by its name, or does nothing but read. -/
theorem guarded_or_reads_of_localDatabase : ∀ entry ∈ localDatabaseTools conversions,
    GuardedByName entry ∨ ∀ (arguments : Json) (action : ToolAction),
      (entry.2 arguments).run = some (.ok action) → action.needs = [kCapabilityFilesystemRead] := by
  intro entry hentry
  simp only [localDatabaseTools, List.mem_cons, List.not_mem_nil, or_false] at hentry
  rcases hentry with rfl | rfl | rfl | rfl | rfl
  · exact Or.inr (needs_of_tool fun _ => rfl)
  · exact Or.inl (guardedByName_tool (fun _ => rfl) (by decide))
  · exact Or.inr (needs_of_tool fun _ => rfl)
  · exact Or.inr (needs_of_tool fun _ => rfl)
  · exact Or.inr (needs_of_tool fun _ => rfl)

theorem requiresNeeds_localDatabase (hpool : ReadingPool poolId) :
    RequiresNeeds conversions poolId .localDatabase := by
  intro toolName arguments action hdoes capability hneeds
  obtain ⟨served, hmem, hrun⟩ := served_of_does conversions hdoes
  rcases List.mem_append.mp hmem with hmem | hmem
  · rcases guarded_or_reads_of_localDatabase _ hmem with hguarded | hreads
    · exact mem_requiredCapabilities_of_tool
        (hguarded arguments action hrun capability hneeds)
    · rw [hreads arguments action hrun, List.mem_singleton] at hneeds
      rw [hneeds]
      exact read_mem_required_of_readingPool hpool
  · exact mem_requiredCapabilities_of_tool
      (guardedByName_common _ hmem arguments action hrun capability hneeds)

/-- **When the tools of a pool are guarded.** -/
theorem tools_guarded_iff (conversions : NumberConversions) (poolId : String)
    (specialization : Specialization) :
    ToolsGuarded conversions poolId specialization ↔
      (specialization = .localDatabase → ReadingPool poolId) := by
  constructor
  · rintro h rfl
    have hdoes : dispatchToolCall conversions .localDatabase "db.list_tables" (.object []) =
        some (.does .listTables) := rfl
    exact (read_mem_required_iff (by decide) (by decide)).mp
      (h.required _ _ _ hdoes _ (List.mem_singleton_self _))
  · intro h
    have hrequires : RequiresNeeds conversions poolId specialization := by
      by_cases hdatabase : specialization = .localDatabase
      · subst hdatabase
        exact requiresNeeds_localDatabase (h rfl)
      · exact requiresNeeds_of_ne_localDatabase hdatabase
    exact ⟨hrequires, refusesWithout_of_requiresNeeds hrequires,
      fun _ _ => requiredCapabilities_of_respelled⟩

/-- The worker of the database, registered under a name of its own, answers queries of any
client. -/
theorem renamed_database_unguarded :
    requiredCapabilitiesForMcpTool "local-database" "db.query_readonly" =
        [kCapabilityFilesystemWrite, kCapabilityFilesystemRead] ∧
      requiredCapabilitiesForMcpTool "sales-database" "db.query_readonly" = [] ∧
      requiredCapabilitiesForMcpTool "sales-database" "db.set_connection_string" =
        [kCapabilityFilesystemWrite, kCapabilityFilesystemRead] ∧
      ¬ ∀ (conversions : NumberConversions) (poolId : String) (specialization : Specialization),
        ToolsGuarded conversions poolId specialization := by
  refine ⟨by decide, by decide, by decide, fun h => ?_⟩
  have hguarded := h ⟨fun _ => "", fun _ => 0⟩ "sales-database" .localDatabase
  have hdoes : dispatchToolCall ⟨fun _ => "", fun _ => 0⟩ .localDatabase "db.query_readonly"
      (.object [("sql", .string "SELECT * FROM clients")]) =
      some (.does (.queryReadonly "SELECT * FROM clients" 0)) := rfl
  have hrequired := hguarded.required _ _ _ hdoes _ (List.mem_singleton_self _)
  exact absurd hrequired (by decide)

end Worker
end MasterControl
