import MasterControl.Configuration.Services

/-!
# The endpoints of a bootstrap manifest

After its script has run, `applyManifestRegistration` puts the endpoints of a manifest into the
list that the catalogs guard.  It fills in what an endpoint leaves out, and checks nothing: neither
the id, nor the port, nor what it replaces, nor whether the file was written.

An entry of the manifest counts if it is the last one with its id (`BootstrapManifest.Lists`).  So
the rules of the catalogs are kept exactly when those entries keep them, and the report is right
when the file was written (`importsByTheRules_iff`).
-/

namespace MasterControl
namespace Configuration

open Foundation Gateway Supervisor

/-! ## Manifests -/

structure BootstrapManifestContract where
  version : String := "1.0.0"
  bootstrapScript : String := ""
  bootstrapArguments : String := ""
  seededEndpoints : List RuntimeEndpoint := []

/-- What is found of a manifest and of the script that it names. -/
structure ManifestFiles where
  manifestExists : Bool
  /-- The document, or the text of an exception; nothing if it is no object. -/
  document : Except String (Option BootstrapManifestContract)
  withinRoot : String → Bool
  isRegularFile : String → Bool

def loadManifestContract (files : ManifestFiles) : Except String BootstrapManifestContract :=
  if !files.manifestExists then .error "Bootstrap manifest is missing."
  else
    match files.document with
    | .error what => .error ("Bootstrap manifest could not be parsed: " ++ what)
    | .ok none => .error "Bootstrap manifest must be a JSON object."
    | .ok (some contract) =>
      if contract.bootstrapScript = "" then
        .error "Bootstrap manifest must declare bootstrapScript."
      else if !files.withinRoot contract.bootstrapScript then
        .error "Bootstrap script must stay within the imported package root."
      else if !files.isRegularFile contract.bootstrapScript then
        .error "Bootstrap script declared by the manifest was not found."
      else .ok contract

/-- A manifest that names a script is accepted with whatever endpoints. -/
theorem exists_loadManifestContract {contract : BootstrapManifestContract}
    (h : contract.bootstrapScript ≠ "") :
    ∃ files, loadManifestContract files = .ok contract := by
  refine ⟨⟨true, .ok (some contract), fun _ => true, fun _ => true⟩, ?_⟩
  unfold loadManifestContract
  dsimp only
  rw [Bool.not_true, if_neg Bool.false_ne_true, if_neg h, if_neg Bool.false_ne_true,
    if_neg Bool.false_ne_true]

/-! ## The import -/

/-- An endpoint as it is stored. -/
def importedEndpoint (preferredHost : String) (endpoint : RuntimeEndpoint) : RuntimeEndpoint :=
  { endpoint with
    displayName := if endpoint.displayName = "" then endpoint.id else endpoint.displayName
    host := if endpoint.host = "" then preferredHost else endpoint.host
    protocol := if endpoint.protocol = "" then "http" else endpoint.protocol
    routePath := if endpoint.routePath = "" then "/" else endpoint.routePath }

def AppConfiguration.preferredHost (configuration : AppConfiguration) : String :=
  if configuration.activeProfile.preferredBindAddress = "" then "127.0.0.1"
  else configuration.activeProfile.preferredBindAddress

/-- One round of the loop. -/
def registerEndpoint (preferredHost : String) (endpoints : List RuntimeEndpoint)
    (endpoint : RuntimeEndpoint) : List RuntimeEndpoint :=
  if endpoint.id = "" then endpoints
  else
    upsertFirst (fun candidate => candidate.id = endpoint.id)
      (importedEndpoint preferredHost endpoint) endpoints

/-- The result of the write is not looked at. -/
def applyManifestRegistration (contract : BootstrapManifestContract) (write : WriteOutcome)
    (state : SharedState) : SharedState :=
  let configuration := state.configuration.withEndpoints <|
    contract.seededEndpoints.foldl (registerEndpoint state.configuration.preferredHost)
      state.configuration.endpoints
  { configuration, file := (writeJsonFile write configuration).1 }

/-- The answer of an installation whose script ended with exit code 0, behind its first sentence.
-/
def registrationReport (contract : BootstrapManifestContract) : String :=
  let registeredEndpoints := contract.seededEndpoints.length
  if 0 < registeredEndpoints then
    " Registered " ++ toString registeredEndpoints ++ " endpoints."
  else ""

/-! ## What the catalogs would accept -/

/-- An id that the catalog of its kind accepts. -/
structure AcceptableId (groups : List SubAgentGroupDefinition) (endpoint : RuntimeEndpoint) :
    Prop where
  trimmed : trimCopy endpoint.id = endpoint.id
  safe : isSafeUrlSegmentId endpoint.id = true
  subAgent : endpoint.kind = .subAgent →
    endpoint.id ∉ reservedTargetIds ∧ ∀ group ∈ groups, group.groupId ≠ endpoint.id
  mcpServer : endpoint.kind = .mcpServer → endpoint.port ≠ 0

theorem isBlank_eq_false_of_safe {id : String} (htrimmed : trimCopy id = id)
    (hsafe : isSafeUrlSegmentId id = true) : id ≠ "" ∧ isBlank id = false := by
  have hne : id ≠ "" := by
    rw [isSafeUrlSegmentId, Bool.and_eq_true, decide_eq_true_iff] at hsafe
    exact hsafe.1
  refine ⟨hne, Bool.eq_false_iff.mpr fun hblank => hne ?_⟩
  -- nothing is left of a blank id
  rw [← htrimmed, trimCopy, trim_eq_nil_iff.mpr (List.all_eq_true.mp hblank), String.ofList_nil]

/-- What `upsertSubAgent` asks of a trimmed id that no endpoint has. -/
theorem upsertSubAgent_accepts_iff {timestampNowUtc : String} {configuration : AppConfiguration}
    {endpoint : RuntimeEndpoint} (hkind : endpoint.kind = .subAgent)
    (htrimmed : trimCopy endpoint.id = endpoint.id)
    (hname : (endpoint.displayName = "" || isBlank endpoint.displayName) = false) :
    (upsertSubAgent timestampNowUtc endpoint).refusal (configuration.withEndpoints []) = none ↔
      AcceptableId configuration.subAgentGroups endpoint := by
  have hgroups : (configuration.subAgentGroups.any fun group =>
      group.groupId = endpoint.id) = true ↔ ¬ ∀ group ∈ configuration.subAgentGroups,
        group.groupId ≠ endpoint.id := by
    simp
  have howner : (configuration.withEndpoints []).seededOwner endpoint.id = false := rfl
  simp only [upsertSubAgent, htrimmed, hname, Bool.false_eq_true, if_false,
    subAgentGroups_withEndpoints, howner, refuse]
  constructor
  · intro h
    split_ifs at h with _ hsafe hreserved hgroup
    refine ⟨htrimmed, by simpa using hsafe, fun _ => ⟨hreserved, ?_⟩, fun hother => ?_⟩
    · rwa [hgroups, not_not] at hgroup
    · rw [hkind] at hother
      cases hother
  · intro h
    obtain ⟨hne, hblank⟩ := isBlank_eq_false_of_safe htrimmed h.safe
    rw [if_neg (by simp [hne, hblank]), h.safe, if_neg (by simp), if_neg (h.subAgent hkind).1,
      if_neg (by rw [hgroups, not_not]; exact (h.subAgent hkind).2)]

theorem upsertMcpServer_accepts_iff {timestampNowUtc : String} {configuration : AppConfiguration}
    {endpoint : RuntimeEndpoint} (hkind : endpoint.kind = .mcpServer)
    (htrimmed : trimCopy endpoint.id = endpoint.id)
    (hname : (endpoint.displayName = "" || isBlank endpoint.displayName) = false) :
    (upsertMcpServer timestampNowUtc endpoint).refusal (configuration.withEndpoints []) = none ↔
      AcceptableId configuration.subAgentGroups endpoint := by
  have howner : (configuration.withEndpoints []).seededOwner endpoint.id = false := rfl
  simp only [upsertMcpServer, htrimmed, hname, Bool.false_eq_true, if_false, howner, refuse]
  constructor
  · intro h
    split_ifs at h with _ hsafe hport
    refine ⟨htrimmed, by simpa using hsafe, fun hother => ?_, fun _ => hport⟩
    rw [hkind] at hother
    cases hother
  · intro h
    obtain ⟨hne, hblank⟩ := isBlank_eq_false_of_safe htrimmed h.safe
    rw [if_neg (by simp [hne, hblank]), h.safe, if_neg (by simp), if_neg (h.mcpServer hkind)]

/-- The entry of a manifest that decides about an id: the last one. -/
def BootstrapManifestContract.Lists (contract : BootstrapManifestContract)
    (endpoint : RuntimeEndpoint) : Prop :=
  endpoint.id ≠ "" ∧
    contract.seededEndpoints.reverse.find? (fun other => other.id = endpoint.id) = some endpoint

/-- The ids that a manifest names. -/
def BootstrapManifestContract.ids (contract : BootstrapManifestContract) : List String :=
  (contract.seededEndpoints.map RuntimeEndpoint.id).filter (· ≠ "")

/-- What the import of a manifest keeps. -/
structure ImportsByTheRules (contract : BootstrapManifestContract) (write : WriteOutcome)
    (before after : SharedState) : Prop where
  distinct : (after.configuration.endpoints.map RuntimeEndpoint.id).Nodup
  acceptable : ∀ endpoint ∈ after.configuration.endpoints, endpoint.id ∈ contract.ids →
    AcceptableId after.configuration.subAgentGroups endpoint
  kinds : ∀ old ∈ before.configuration.endpoints, ∀ new ∈ after.configuration.endpoints,
    new.id = old.id → new.kind = old.kind
  others : after.configuration.endpoints.filter (fun endpoint => endpoint.id ∉ contract.ids) =
    before.configuration.endpoints.filter fun endpoint => endpoint.id ∉ contract.ids
  failed : write ≠ .written →
    after.configuration = before.configuration ∧ registrationReport contract = ""

/-- What the endpoints of a manifest have to be like. -/
structure WellBehaved (contract : BootstrapManifestContract) (write : WriteOutcome)
    (before : SharedState) : Prop where
  distinct : (before.configuration.endpoints.map RuntimeEndpoint.id).Nodup
  acceptable : ∀ endpoint, contract.Lists endpoint →
    AcceptableId before.configuration.subAgentGroups endpoint
  kinds : ∀ old ∈ before.configuration.endpoints, ∀ endpoint, contract.Lists endpoint →
    endpoint.id = old.id → endpoint.kind = old.kind
  written : write = .written ∨ contract.seededEndpoints = []

/-! ## What the import stores -/

section Import

variable {contract : BootstrapManifestContract} {write : WriteOutcome} {state : SharedState}
  {preferredHost : String}

/-- The entries with an id, as they are stored. -/
def BootstrapManifestContract.imported (contract : BootstrapManifestContract)
    (preferredHost : String) : List RuntimeEndpoint :=
  (contract.seededEndpoints.filter (·.id ≠ "")).map (importedEndpoint preferredHost)

/-- The loop upserts the entries that have an id. -/
theorem foldl_registerEndpoint (new endpoints : List RuntimeEndpoint) :
    new.foldl (registerEndpoint preferredHost) endpoints =
      upsertAll RuntimeEndpoint.id
        ((new.filter (·.id ≠ "")).map (importedEndpoint preferredHost)) endpoints := by
  induction new generalizing endpoints with
  | nil => rfl
  | cons endpoint new ih =>
    rw [List.foldl_cons, ih, registerEndpoint]
    by_cases hid : endpoint.id = ""
    · rw [if_pos hid, List.filter_cons_of_neg (by simpa using hid)]
    · rw [if_neg hid, List.filter_cons_of_pos (by simpa using hid), List.map_cons]
      rfl

theorem endpoints_applyManifestRegistration :
    (applyManifestRegistration contract write state).configuration.endpoints =
      upsertAll RuntimeEndpoint.id (contract.imported state.configuration.preferredHost)
        state.configuration.endpoints := by
  rw [BootstrapManifestContract.imported, ← foldl_registerEndpoint]
  rfl

@[simp] theorem subAgentGroups_applyManifestRegistration :
    (applyManifestRegistration contract write state).configuration.subAgentGroups =
      state.configuration.subAgentGroups := rfl

theorem acceptableId_importedEndpoint {groups : List SubAgentGroupDefinition}
    {endpoint : RuntimeEndpoint} :
    AcceptableId groups (importedEndpoint preferredHost endpoint) ↔ AcceptableId groups endpoint :=
  ⟨fun h => ⟨h.trimmed, h.safe, h.subAgent, h.mcpServer⟩,
    fun h => ⟨h.trimmed, h.safe, h.subAgent, h.mcpServer⟩⟩

/-- The entry with an id that the import stores last. -/
theorem find?_imported {id : String} (hid : id ≠ "") :
    (contract.imported preferredHost).reverse.find? (fun endpoint => endpoint.id = id) =
      (contract.seededEndpoints.reverse.find? fun endpoint => endpoint.id = id).map
        (importedEndpoint preferredHost) := by
  rw [BootstrapManifestContract.imported, ← List.map_reverse, ← List.filter_reverse,
    List.find?_map, List.find?_filter]
  congr 2
  funext endpoint
  have himported : (importedEndpoint preferredHost endpoint).id = endpoint.id := rfl
  rw [Function.comp_apply, himported]
  by_cases hendpoint : endpoint.id = id
  · rw [decide_eq_true hendpoint, decide_eq_true_iff, decide_eq_true_iff, hendpoint]
    exact ⟨hid, rfl⟩
  · rw [decide_eq_false hendpoint, decide_eq_false_iff_not]
    exact fun h => Bool.false_ne_true h.2

/-- Among the ids of a manifest are those of its entries. -/
theorem mem_ids {id : String} : id ∈ contract.ids ↔
    id ≠ "" ∧ ∃ endpoint ∈ contract.seededEndpoints, endpoint.id = id := by
  rw [BootstrapManifestContract.ids, List.mem_filter, List.mem_map, decide_eq_true_iff, and_comm]

/-- An id that is named is decided about. -/
theorem exists_lists_of_mem_ids {id : String} (h : id ∈ contract.ids) :
    ∃ endpoint, contract.Lists endpoint ∧ endpoint.id = id := by
  obtain ⟨hid, named, hmem, hnamed⟩ := mem_ids.mp h
  have hsome : (contract.seededEndpoints.reverse.find? fun other => other.id = id).isSome := by
    rw [List.find?_isSome]
    exact ⟨named, List.mem_reverse.mpr hmem, decide_eq_true hnamed⟩
  obtain ⟨endpoint, hfind⟩ := Option.isSome_iff_exists.mp hsome
  have hfound := List.find?_some hfind
  have hendpoint : endpoint.id = id := of_decide_eq_true hfound
  exact ⟨endpoint, ⟨hendpoint ▸ hid, hendpoint ▸ hfind⟩, hendpoint⟩

theorem BootstrapManifestContract.Lists.mem_ids {endpoint : RuntimeEndpoint}
    (h : contract.Lists endpoint) : endpoint.id ∈ contract.ids :=
  Configuration.mem_ids.mpr
    ⟨h.1, endpoint, List.mem_reverse.mp (List.mem_of_find?_eq_some h.2), rfl⟩

/-- What is found under an id that the manifest decides about. -/
theorem find?_of_lists {endpoint : RuntimeEndpoint} (h : contract.Lists endpoint) :
    (applyManifestRegistration contract write state).configuration.endpoints.find?
        (fun other => other.id = endpoint.id) =
      some (importedEndpoint state.configuration.preferredHost endpoint) := by
  rw [endpoints_applyManifestRegistration, find?_upsertAll, find?_imported h.1, h.2,
    Option.map_some, Option.some_or]

/-- What is found under an id that the manifest does not name. -/
theorem find?_of_not_mem_ids {id : String} (h : id ∉ contract.ids) :
    (applyManifestRegistration contract write state).configuration.endpoints.find?
        (fun other => other.id = id) =
      state.configuration.endpoints.find? fun other => other.id = id := by
  have hnone : (contract.imported state.configuration.preferredHost).reverse.find?
      (fun endpoint => endpoint.id = id) = none := by
    rw [List.find?_eq_none]
    intro endpoint hendpoint hid
    obtain ⟨source, hsource, rfl⟩ := List.mem_map.mp (List.mem_reverse.mp hendpoint)
    obtain ⟨hmem, hne⟩ := List.mem_filter.mp hsource
    have hid' : source.id = id := of_decide_eq_true hid
    exact h (mem_ids.mpr ⟨hid' ▸ of_decide_eq_true hne, source, hmem, hid'⟩)
  rw [endpoints_applyManifestRegistration, find?_upsertAll, hnone, Option.none_or]

/-- Where ids are distinct, what the manifest decided about is as it was imported. -/
theorem eq_imported_of_mem_ids
    (hdistinct : ((applyManifestRegistration contract write state).configuration.endpoints.map
      RuntimeEndpoint.id).Nodup) {stored : RuntimeEndpoint}
    (hstored : stored ∈ (applyManifestRegistration contract write state).configuration.endpoints)
    (hid : stored.id ∈ contract.ids) :
    ∃ endpoint, contract.Lists endpoint ∧
      stored = importedEndpoint state.configuration.preferredHost endpoint := by
  obtain ⟨endpoint, hlists, hendpoint⟩ := exists_lists_of_mem_ids hid
  refine ⟨endpoint, hlists, ?_⟩
  have hfind := (find?_key_eq_some_iff hdistinct).mpr ⟨hstored, rfl⟩
  rw [← hendpoint, find?_of_lists hlists] at hfind
  exact (Option.some.inj hfind).symm

/-- **What the manifest does not name is unchanged.** -/
theorem filter_applyManifestRegistration :
    (applyManifestRegistration contract write state).configuration.endpoints.filter
        (fun endpoint => endpoint.id ∉ contract.ids) =
      state.configuration.endpoints.filter fun endpoint => endpoint.id ∉ contract.ids := by
  rw [endpoints_applyManifestRegistration]
  refine filter_upsertAll (fun new hnew other hother => ?_) _
  obtain ⟨source, hsource, rfl⟩ := List.mem_map.mp hnew
  obtain ⟨hmem, hne⟩ := List.mem_filter.mp hsource
  rw [decide_eq_false_iff_not, not_not, hother]
  exact mem_ids.mpr ⟨of_decide_eq_true hne, source, hmem, rfl⟩

theorem registrationReport_eq_empty_iff :
    registrationReport contract = "" ↔ contract.seededEndpoints = [] := by
  unfold registrationReport
  dsimp only
  split_ifs with h
  · refine iff_of_false (fun hreport => ?_) (List.length_pos_iff.mp h)
    have hlist := congrArg String.toList hreport
    simp at hlist
  · exact iff_of_true rfl (List.length_eq_zero_iff.mp (Nat.eq_zero_of_not_pos h))

end Import

/-! ## The rules -/

/-- **When the import of a manifest keeps the rules of the catalogs.** -/
theorem importsByTheRules_iff (contract : BootstrapManifestContract) (write : WriteOutcome)
    (before : SharedState) :
    ImportsByTheRules contract write before (applyManifestRegistration contract write before) ↔
      WellBehaved contract write before := by
  have hdistinct : ((applyManifestRegistration contract write before).configuration.endpoints.map
      RuntimeEndpoint.id).Nodup ↔
      (before.configuration.endpoints.map RuntimeEndpoint.id).Nodup := by
    rw [endpoints_applyManifestRegistration]
    exact nodup_map_upsertAll_iff _ _
  have hstored : ∀ endpoint, contract.Lists endpoint →
      importedEndpoint before.configuration.preferredHost endpoint ∈
        (applyManifestRegistration contract write before).configuration.endpoints :=
    fun endpoint hlists => List.mem_of_find?_eq_some (find?_of_lists hlists)
  constructor
  · intro h
    refine ⟨hdistinct.mp h.distinct, fun endpoint hlists => ?_, fun old hold endpoint hlists hid =>
      ?_, ?_⟩
    · exact acceptableId_importedEndpoint.mp
        (h.acceptable _ (hstored endpoint hlists) hlists.mem_ids)
    · have hkind := h.kinds old hold (importedEndpoint before.configuration.preferredHost endpoint)
        (hstored endpoint hlists) hid
      exact hkind
    · by_contra hwritten
      rw [not_or] at hwritten
      exact hwritten.2 (registrationReport_eq_empty_iff.mp (h.failed hwritten.1).2)
  · intro h
    have hafter := hdistinct.mpr h.distinct
    refine ⟨hafter, fun stored hmem hid => ?_, fun old hold new hnew hid => ?_,
      filter_applyManifestRegistration, fun hwrite => ?_⟩
    · obtain ⟨endpoint, hlists, rfl⟩ := eq_imported_of_mem_ids hafter hmem hid
      exact acceptableId_importedEndpoint.mpr (h.acceptable endpoint hlists)
    · by_cases hnamed : new.id ∈ contract.ids
      · obtain ⟨endpoint, hlists, rfl⟩ := eq_imported_of_mem_ids hafter hnew hnamed
        exact h.kinds old hold endpoint hlists hid
      · -- the entry is the old one
        have hfind := (find?_key_eq_some_iff hafter).mpr ⟨hnew, rfl⟩
        rw [find?_of_not_mem_ids hnamed, find?_key_eq_some_iff h.distinct] at hfind
        rw [eq_of_key_eq h.distinct hfind.1 hold hid]
    · have hnone : contract.seededEndpoints = [] := h.written.resolve_left hwrite
      refine ⟨?_, registrationReport_eq_empty_iff.mpr hnone⟩
      unfold applyManifestRegistration
      rw [hnone]
      rfl

/-- A manifest that is accepted puts a sub-agent under a reserved id. -/
theorem reserved_id_imported :
    loadManifestContract
        { manifestExists := true
          document := .ok (some
            { bootstrapScript := "install.ps1"
              seededEndpoints := [{ id := "planner", kind := .subAgent }] })
          withinRoot := fun _ => true
          isRegularFile := fun _ => true } =
      .ok { bootstrapScript := "install.ps1"
            seededEndpoints := [{ id := "planner", kind := .subAgent }] } ∧
    ¬ ImportsByTheRules
        { bootstrapScript := "install.ps1"
          seededEndpoints := [{ id := "planner", kind := .subAgent }] } .written {}
        (applyManifestRegistration
          { bootstrapScript := "install.ps1"
            seededEndpoints := [{ id := "planner", kind := .subAgent }] } .written {}) := by
  refine ⟨rfl, fun h => ?_⟩
  have hacceptable := h.acceptable
    (importedEndpoint "127.0.0.1" { id := "planner", kind := .subAgent })
    (List.mem_singleton_self _) (List.mem_singleton_self _)
  exact (hacceptable.subAgent rfl).1 List.mem_cons_self

end Configuration
end MasterControl
