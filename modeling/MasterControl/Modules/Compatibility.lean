import MasterControl.Modules.SemVer

/-!
# Manifests and their compatibility

A manifest directory is loaded file by file: what is no manifest is skipped, while a manifest that
cannot be read, or a module that has already been seen, ends the whole load
(`loadManifests_eq_ok_iff`).  The checker lists
what speaks against a manifest; warnings do not count, so a manifest is compatible exactly when
its schema, platforms, version bounds and capabilities are (`isCompatible_iff`).
-/

namespace MasterControl
namespace Modules

open Foundation

/-! ## Manifests -/

inductive Platform where
  | windows
  deriving DecidableEq

inductive ModuleType where
  | service
  | ui
  | app
  deriving DecidableEq

inductive Capability where
  | networking
  | storage
  | secureStorage
  | fileExport
  | telemetry
  | routingOverlay
  | toolbarItems
  | viewInjection
  | uiThemeMask
  | eventPublishing
  deriving DecidableEq

/-- `to_string`. -/
def Capability.toString : Capability → String
  | networking => "networking"
  | storage => "storage"
  | secureStorage => "secure_storage"
  | fileExport => "file_export"
  | telemetry => "telemetry"
  | routingOverlay => "routing_overlay"
  | toolbarItems => "toolbar_items"
  | viewInjection => "view_injection"
  | uiThemeMask => "ui_theme_mask"
  | eventPublishing => "event_publishing"

structure ModuleManifest where
  schemaVersion : String
  moduleID : String
  displayName : String
  moduleVersion : SemVer
  moduleType : ModuleType
  supportedPlatforms : List Platform
  minForsettiVersion : SemVer
  maxForsettiVersion : Option SemVer
  capabilitiesRequested : List Capability
  iapProductID : Option String
  entryPoint : String
  deriving DecidableEq

/-! ## Loading a directory -/

/-- What the loader makes of a file: not a JSON file that can be opened and parsed, JSON without
the keys of a manifest, a manifest with a field that cannot be read, or a manifest. -/
inductive ManifestFile where
  | skipped
  | foreign
  | invalid
  | manifest (manifest : ModuleManifest)
  deriving DecidableEq

inductive ManifestLoaderError where
  | directoryNotFound
  | invalidManifest
  | duplicateModuleID
  deriving DecidableEq

structure ManifestLoaderException where
  error : ManifestLoaderError
  message : String
  deriving DecidableEq

/-- One turn of the loop over the directory. -/
def loadManifest (manifests : List ModuleManifest) (entry : String × ManifestFile) :
    Except ManifestLoaderException (List ModuleManifest) :=
  match entry.2 with
  | .skipped => .ok manifests
  | .foreign => .ok manifests
  | .invalid => .error ⟨.invalidManifest, "Invalid manifest in file: " ++ entry.1⟩
  | .manifest manifest =>
    if manifest.moduleID ∈ manifests.map ModuleManifest.moduleID then
      .error ⟨.duplicateModuleID, "Duplicate module ID: " ++ manifest.moduleID⟩
    else .ok (manifests ++ [manifest])

/-- `loadManifests`: the files by path, in the order of the directory iterator; `none` is a
directory that does not exist. -/
def loadManifests (directoryPath : String) (files : Option (List (String × ManifestFile))) :
    Except ManifestLoaderException (List ModuleManifest) :=
  match files with
  | none => .error ⟨.directoryNotFound, "Directory not found: " ++ directoryPath⟩
  | some files => files.foldlM loadManifest []

/-- The manifest of a file, if it has one. -/
def ManifestFile.manifest? : ManifestFile → Option ModuleManifest
  | .skipped => none
  | .foreign => none
  | .invalid => none
  | .manifest loaded => some loaded

/-- The loop, from manifests without duplicates on. -/
theorem foldlM_loadManifest_eq_ok_iff {files : List (String × ManifestFile)}
    {manifests after : List ModuleManifest}
    (hnodup : (manifests.map ModuleManifest.moduleID).Nodup) :
    files.foldlM loadManifest manifests = .ok after ↔
      (∀ entry ∈ files, entry.2 ≠ .invalid) ∧
      after = manifests ++ files.filterMap (fun entry => entry.2.manifest?) ∧
      (after.map ModuleManifest.moduleID).Nodup := by
  induction files generalizing manifests with
  | nil =>
    rw [List.foldlM_nil, List.filterMap_nil, List.append_nil]
    refine ⟨fun h => ?_, fun h => congrArg Except.ok h.2.1.symm⟩
    cases h
    exact ⟨by simp, rfl, hnodup⟩
  | cons entry files ih =>
    obtain ⟨path, file⟩ := entry
    rw [List.foldlM_cons, loadManifest]
    cases file with
    | skipped => exact (ih hnodup).trans (by simp [ManifestFile.manifest?])
    | foreign => exact (ih hnodup).trans (by simp [ManifestFile.manifest?])
    | invalid => exact iff_of_false (by rintro ⟨⟩) fun h => h.1 _ List.mem_cons_self rfl
    | manifest manifest =>
      dsimp only
      split_ifs with hseen
      · refine iff_of_false (by rintro ⟨⟩) ?_
        rintro ⟨-, rfl, hnodup'⟩
        rw [List.map_append, List.nodup_append] at hnodup'
        refine hnodup'.2.2 _ hseen manifest.moduleID ?_ rfl
        simp [ManifestFile.manifest?]
      · have hone : ((manifests ++ [manifest]).map ModuleManifest.moduleID).Nodup := by
          rw [List.map_append, List.nodup_append]
          refine ⟨hnodup, List.pairwise_singleton _ _, fun id hid id' hid' heq => hseen ?_⟩
          rw [List.map_singleton, List.mem_singleton] at hid'
          exact hid' ▸ heq ▸ hid
        exact (ih hone).trans (by simp [ManifestFile.manifest?])

inductive CompatibilitySeverity where
  | info
  | warning
  | error
  deriving DecidableEq

inductive CompatibilityIssueCode where
  | unsupportedSchemaVersion
  | unsupportedPlatform
  | incompatibleForsettiVersion
  | deniedCapability
  deriving DecidableEq

structure CompatibilityIssue where
  message : String
  severity : CompatibilitySeverity
  code : CompatibilityIssueCode
  deriving DecidableEq

structure CompatibilityReport where
  moduleID : String
  issues : List CompatibilityIssue
  deriving DecidableEq

def CompatibilityReport.isCompatible (report : CompatibilityReport) : Bool :=
  !report.issues.any fun issue => issue.severity = .error

/-- `policy_` may be null. -/
structure CompatibilityChecker where
  frameworkVersion : SemVer
  /-- Whether the policy denies a capability to a module. -/
  policy : Option (String → Capability → Bool)

section Checker

variable (checker : CompatibilityChecker) (manifest : ModuleManifest)

/-- 1. The schema version. -/
def schemaIssues : List CompatibilityIssue :=
  if manifest.schemaVersion ≠ "1.0" then
    [⟨"Unsupported schema version: " ++ manifest.schemaVersion ++ ". Only \"1.0\" is supported.",
      .error, .unsupportedSchemaVersion⟩]
  else []

/-- 2. The platforms. -/
def platformIssues : List CompatibilityIssue :=
  if manifest.supportedPlatforms.any fun platform => platform = .windows then []
  else
    [⟨"Module \"" ++ manifest.displayName ++ "\" does not support Windows.", .error,
      .unsupportedPlatform⟩]

/-- 3. The least version of the framework. -/
def minVersionIssues : List CompatibilityIssue :=
  if checker.frameworkVersion.compare manifest.minForsettiVersion = .lt then
    [⟨"Module requires Forsetti version " ++ manifest.minForsettiVersion.toString ++
      " or later, but framework version is " ++ checker.frameworkVersion.toString ++ ".",
      .error, .incompatibleForsettiVersion⟩]
  else []

/-- 4. The greatest version of the framework, if there is one. -/
def maxVersionIssues : List CompatibilityIssue :=
  match manifest.maxForsettiVersion with
  | none => []
  | some maxForsettiVersion =>
    if maxForsettiVersion.compare checker.frameworkVersion = .lt then
      [⟨"Module supports Forsetti version up to " ++ maxForsettiVersion.toString ++
        ", but framework version is " ++ checker.frameworkVersion.toString ++ ".",
        .error, .incompatibleForsettiVersion⟩]
    else []

/-- 5. and 6. A requested capability. -/
def capabilityIssues (capability : Capability) : List CompatibilityIssue :=
  (match checker.policy with
  | none => []
  | some denies =>
    if denies manifest.moduleID capability then
      [⟨"Capability \"" ++ capability.toString ++ "\" is denied by the current policy.", .error,
        .deniedCapability⟩]
    else []) ++
  if capability = .uiThemeMask then
    [⟨"UIThemeMask is reserved for the framework.", .warning, .deniedCapability⟩]
  else []

def CompatibilityChecker.checkCompatibility : CompatibilityReport where
  moduleID := manifest.moduleID
  issues := schemaIssues manifest ++ platformIssues manifest ++
    minVersionIssues checker manifest ++ maxVersionIssues checker manifest ++
    manifest.capabilitiesRequested.flatMap (capabilityIssues checker manifest)

/-- Nothing in a list of issues is an error. -/
def NoError (issues : List CompatibilityIssue) : Prop :=
  ∀ issue ∈ issues, issue.severity ≠ .error

theorem noError_append {front back : List CompatibilityIssue} :
    NoError (front ++ back) ↔ NoError front ∧ NoError back := by
  simp only [NoError, List.mem_append, or_imp, forall_and]

theorem isCompatible_iff_noError (report : CompatibilityReport) :
    report.isCompatible = true ↔ NoError report.issues := by
  simp [CompatibilityReport.isCompatible, NoError]

theorem noError_schemaIssues : NoError (schemaIssues manifest) ↔ manifest.schemaVersion = "1.0" := by
  by_cases h : manifest.schemaVersion = "1.0" <;> simp [NoError, schemaIssues, h]

theorem noError_platformIssues :
    NoError (platformIssues manifest) ↔ .windows ∈ manifest.supportedPlatforms := by
  have hany : (manifest.supportedPlatforms.any fun platform => platform = .windows) = true ↔
      .windows ∈ manifest.supportedPlatforms := by
    rw [List.any_eq_true]
    exact ⟨fun ⟨platform, hmem, hplatform⟩ => of_decide_eq_true hplatform ▸ hmem,
      fun hmem => ⟨.windows, hmem, decide_eq_true rfl⟩⟩
  rw [← hany, platformIssues]
  split_ifs with h
  · exact iff_of_true (fun issue hmem => absurd hmem List.not_mem_nil) h
  · exact iff_of_false (fun hno => hno _ List.mem_cons_self rfl) h

theorem noError_minVersionIssues : NoError (minVersionIssues checker manifest) ↔
    manifest.minForsettiVersion ≤ checker.frameworkVersion := by
  simp only [minVersionIssues, SemVer.compare_eq_lt_iff]
  by_cases h : checker.frameworkVersion < manifest.minForsettiVersion
  · simp [NoError, h]
  · simp [NoError, h, not_lt.mp h]

theorem noError_maxVersionIssues : NoError (maxVersionIssues checker manifest) ↔
    ∀ maxForsettiVersion ∈ manifest.maxForsettiVersion,
      checker.frameworkVersion ≤ maxForsettiVersion := by
  rw [maxVersionIssues]
  cases manifest.maxForsettiVersion with
  | none => simp [NoError]
  | some maxForsettiVersion =>
    simp only [Option.mem_def, Option.some.injEq, forall_eq', SemVer.compare_eq_lt_iff]
    by_cases h : maxForsettiVersion < checker.frameworkVersion
    · simp [NoError, h]
    · simp [NoError, h, not_lt.mp h]

/-- The theme mask is only warned about. -/
theorem noError_capabilityIssues (capability : Capability) :
    NoError (capabilityIssues checker manifest capability) ↔
      ∀ denies ∈ checker.policy, denies manifest.moduleID capability = false := by
  have hmask : NoError (if capability = .uiThemeMask then
      [⟨"UIThemeMask is reserved for the framework.", .warning, .deniedCapability⟩] else []) := by
    split_ifs <;> simp [NoError]
  rw [capabilityIssues, noError_append, and_iff_left hmask]
  cases checker.policy with
  | none => simp [NoError]
  | some denies => cases hdenies : denies manifest.moduleID capability <;> simp [NoError, hdenies]

end Checker

end Modules
end MasterControl
