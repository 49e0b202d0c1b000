import MasterControl.Modules.Lifecycle

/-!
# Quiet worlds

In a *quiet* world no module throws and every save is written.  There, between attempts, what is
enabled is loaded and the file holds what is enabled (`Settled`), and whatever module is admitted
is loaded.

So once the application has started, every default module that is compatible and unlocked is
loaded, and the services among them run (`start_brings_up`).
-/

namespace MasterControl
namespace Modules

open Foundation
open MasterControl.Configuration (Entitlements.EntitlementStateDocument)
open Configuration.Entitlements (StateFile)

/-! ## Quiet worlds -/

/-- No module and no factory throws, and every save is written. -/
structure Quiet (world : ℕ → Reactions) : Prop where
  constructs : ∀ n, (world n).constructs = true
  start : ∀ n, (world n).start = .returns
  stop : ∀ n, (world n).stop = .returns
  uiContributions : ∀ n, (world n).uiContributions.isSome = true
  save : ∀ n, (world n).save = .written

/-- The file holds what is enabled. -/
def Mirrored (s : Host) : Prop :=
  s.file.loadState = some
    { enabledServiceModuleIDs := s.manager.enabledServiceModuleIDs
      enabledUIModuleIDs := s.manager.enabledUIModuleIDs
      selectedUIModuleID := s.manager.activeUIModuleID }

/-- What is enabled is loaded, and is saved if any module has been called. -/
structure Settled (I : Installation) (s : Host) : Prop where
  tracked : s.Tracked I
  servicesLoaded : ∀ id ∈ s.manager.enabledServiceModuleIDs, s.isModuleActive id = true
  activeLoaded : ∀ id, s.manager.activeUIModuleID = some id → s.isModuleActive id = true
  mirrored : s.calls ≠ [] → Mirrored s

/-! ## The attempts in a quiet world -/

section Attempts

variable {I : Installation} {world : ℕ → Reactions} {s : Host} {id : String}
  {module : ForsettiModule} {moduleType : ModuleType}

theorem mirrored_persistState (s : Host) : Mirrored (s.persistState .written) :=
  loadState_saveState_written _

/-- What an attempt to activate does that is admitted. -/
structure Activated (I : Installation) (s t : Host) (id : String) (module : ForsettiModule) :
    Prop where
  loaded : t.manager.loadedModules = s.manager.loadedModules.insert id module
  services : ¬ I.launchesUI id →
    t.manager.enabledServiceModuleIDs = s.manager.enabledServiceModuleIDs.insert id ∧
      t.manager.activeUIModuleID = s.manager.activeUIModuleID
  ui : I.launchesUI id →
    t.manager.enabledServiceModuleIDs = s.manager.enabledServiceModuleIDs ∧
      t.manager.activeUIModuleID = some id
  mirrored : Mirrored t
  unlocked : t.unlocked = s.unlocked
  serviceUI : ¬ I.launchesUI id → t.ui = s.ui.start I id .returns module
  shownUI : I.launchesUI id → ∃ contributions : UIContributions, t.ui =
    ((s.displaceActiveUI I {}).host.ui.publishModuleSurface I id contributions.sanitized).start I id
      .returns module

theorem launch_quiet (hq : Quiet world) (n : ℕ) (s : Host) :
    (s.launch I (world n) id module).host =
      (s.start I id module .returns).load id module .written := by
  rw [Host.launch, hq.start n, hq.save n]

/-- The active user interface is displaced. -/
theorem displaceActiveUI_quiet (hq : Quiet world) (n m : ℕ) (s : Host) :
    let displaced := { s with attempts := m : Host }.displaceActiveUI I (world n)
    displaced.result = .ok () ∧
    displaced.host.manager.activeUIModuleID = none ∧
    displaced.host.manager.loadedModules = s.manager.loadedModules ∧
    displaced.host.manager.enabledServiceModuleIDs = s.manager.enabledServiceModuleIDs ∧
    displaced.host.unlocked = s.unlocked ∧
    displaced.host.ui = (s.displaceActiveUI I {}).host.ui := by
  intro displaced
  simp only [displaced, Host.displaceActiveUI]
  split
  · rename_i hactive
    exact ⟨rfl, hactive, rfl, rfl, rfl, rfl⟩
  · split
    · exact ⟨rfl, rfl, rfl, rfl, rfl, rfl⟩
    · rw [hq.stop n]
      exact ⟨rfl, rfl, rfl, rfl, rfl, rfl⟩

/-- **An admitted attempt succeeds.** -/
theorem activated_of_admission (hq : Quiet world) (hadmission : s.admission I id = .ok (moduleType, module)) :
    Activated I s (s.activateModule I world id).host id module := by
  have hmodule := (admission_eq_ok_iff.mp hadmission).1
  have hroute : I.launchesUI id ↔ moduleType ≠ .service ∧ module.isUI = true := by
    constructor
    · rintro ⟨moduleType', module', hmodule', hui⟩
      rw [hmodule] at hmodule'
      cases hmodule'
      exact hui
    · exact fun hui => ⟨moduleType, module, hmodule, hui⟩
  rw [Host.activateModule, hadmission]
  dsimp only
  rw [if_neg (by simp [hq.constructs s.attempts])]
  split_ifs with hui
  · obtain ⟨hresult, hactive, hloaded, hservices, hunlocked, hshown⟩ :=
      displaceActiveUI_quiet (I := I) hq s.attempts (s.attempts + 1) s
    have hcontributions : (module.uiContributions (world s.attempts)).isSome = true := by
      cases module with
      | service descriptorID requests => exact hq.uiContributions s.attempts
      | dashboard => rfl
      | ui => exact hq.uiContributions s.attempts
    obtain ⟨contributions, hcontributions⟩ := Option.isSome_iff_exists.mp hcontributions
    rw [Host.launchUI, hresult]
    dsimp only
    rw [hcontributions]
    dsimp only
    rw [launch_quiet hq]
    exact
      { loaded := congrArg (fun loaded => OrdMap.insert loaded id module) hloaded
        services := fun hnot => absurd (hroute.mpr hui) hnot
        ui := fun _ => ⟨hservices, rfl⟩
        mirrored := mirrored_persistState _
        unlocked := hunlocked
        serviceUI := fun hnot => absurd (hroute.mpr hui) hnot
        shownUI := fun _ => ⟨contributions, congrArg (fun ui : UserInterface =>
          (ui.publishModuleSurface I id contributions.sanitized).start I id .returns module)
          hshown⟩ }
  · rw [launch_quiet hq]
    exact
      { loaded := rfl
        services := fun _ => ⟨rfl, rfl⟩
        ui := fun h => absurd (hroute.mp h) hui
        mirrored := mirrored_persistState _
        unlocked := rfl
        serviceUI := fun _ => rfl
        shownUI := fun h => absurd (hroute.mp h) hui }

theorem activateModule_of_not_admission (hadmission : ∀ moduleType module,
    s.admission I id ≠ .ok (moduleType, module)) : (s.activateModule I world id).host = s := by
  rw [Host.activateModule]
  split
  · rfl
  · rename_i moduleType module hok
    exact absurd hok (hadmission moduleType module)

/-- What an attempt to deactivate does of a module that is loaded. -/
structure Deactivated (I : Installation) (s t : Host) (id : String) : Prop where
  loaded : t.manager.loadedModules = s.manager.loadedModules.erase id
  services : t.manager.enabledServiceModuleIDs = s.manager.enabledServiceModuleIDs.erase id
  active : t.manager.activeUIModuleID =
    if s.manager.activeUIModuleID = some id then none else s.manager.activeUIModuleID
  mirrored : Mirrored t
  ui : ∀ module, s.manager.loadedModules.find? id = some module → t.ui =
    let stopped := s.ui.stop I id .returns module
    if s.manager.activeUIModuleID = some id then
      (stopped.removeModuleContributions id).rebuildSurfaceState I
    else stopped

theorem deactivated_of_loaded (hq : Quiet world) (hloaded : s.isModuleActive id = true) :
    Deactivated I s (s.deactivateModule I world id).host id := by
  obtain ⟨module, hmodule⟩ := Option.isSome_iff_exists.mp hloaded
  rw [Host.deactivateModule, hmodule]
  dsimp only
  rw [hq.stop s.attempts]
  dsimp only
  rw [hq.save s.attempts]
  refine ⟨rfl, rfl, rfl, mirrored_persistState _, fun module' hmodule' => ?_⟩
  cases hmodule.symm.trans hmodule'
  rfl

theorem deactivateModule_of_not_loaded (hloaded : s.isModuleActive id = false) :
    (s.deactivateModule I world id).host = s := by
  rw [Host.isModuleActive, Option.isSome_eq_false_iff, Option.isNone_iff_eq_none] at hloaded
  rw [Host.deactivateModule, hloaded]

theorem isModuleActive_insert {t : Host} {id' : String}
    (h : t.manager.loadedModules = s.manager.loadedModules.insert id module) :
    t.isModuleActive id' = true ↔ id' = id ∨ s.isModuleActive id' = true := by
  rw [Host.isModuleActive, h, OrdMap.find?_insert, Host.isModuleActive]
  by_cases heq : id = id'
  · simp [heq]
  · rw [if_neg heq]
    exact ⟨Or.inr, fun hor => hor.resolve_left fun h => heq h.symm⟩

theorem isModuleActive_erase {t : Host} {id' : String}
    (h : t.manager.loadedModules = s.manager.loadedModules.erase id) :
    t.isModuleActive id' = true ↔ id' ≠ id ∧ s.isModuleActive id' = true := by
  rw [Host.isModuleActive, h, OrdMap.find?_erase, Host.isModuleActive]
  by_cases heq : id' = id
  · simp [heq]
  · rw [if_neg heq]
    exact ⟨fun hactive => ⟨heq, hactive⟩, And.right⟩

theorem settled_activateModule (hq : Quiet world) (h : Settled I s) :
    Settled I (s.activateModule I world id).host := by
  have htracked := tracked_activateModule h.tracked world id
  cases hadmission : s.admission I id with
  | error failure =>
    rw [activateModule_of_not_admission (by simp [hadmission])]
    exact h
  | ok product =>
    obtain ⟨moduleType, module⟩ := product
    have hactivated := activated_of_admission hq hadmission
    refine ⟨htracked, fun id' hid' => ?_, fun id' hid' => ?_, fun _ => hactivated.mirrored⟩
    · rw [isModuleActive_insert hactivated.loaded]
      by_cases hroute : I.launchesUI id
      · rw [(hactivated.ui hroute).1] at hid'
        exact Or.inr (h.servicesLoaded id' hid')
      · rw [(hactivated.services hroute).1, OrdSet.mem_insert] at hid'
        exact hid'.imp_right (h.servicesLoaded id')
    · rw [isModuleActive_insert hactivated.loaded]
      by_cases hroute : I.launchesUI id
      · rw [(hactivated.ui hroute).2, Option.some_inj] at hid'
        exact Or.inl hid'.symm
      · rw [(hactivated.services hroute).2] at hid'
        exact Or.inr (h.activeLoaded id' hid')

theorem settled_deactivateModule (hq : Quiet world) (h : Settled I s) :
    Settled I (s.deactivateModule I world id).host := by
  have htracked := tracked_deactivateModule h.tracked world id
  cases hloaded : s.isModuleActive id with
  | false =>
    rw [deactivateModule_of_not_loaded hloaded]
    exact h
  | true =>
    have hdeactivated := deactivated_of_loaded (I := I) hq hloaded
    refine ⟨htracked, fun id' hid' => ?_, fun id' hid' => ?_, fun _ => hdeactivated.mirrored⟩
    · rw [hdeactivated.services, OrdSet.mem_erase] at hid'
      exact (isModuleActive_erase hdeactivated.loaded).mpr
        ⟨hid'.1, h.servicesLoaded id' hid'.2⟩
    · rw [hdeactivated.active] at hid'
      split_ifs at hid' with hactive
      refine (isModuleActive_erase hdeactivated.loaded).mpr ⟨?_, h.activeLoaded id' hid'⟩
      rintro rfl
      exact hactive hid'

theorem closed_settled (I : Installation) (hq : Quiet world) : Closed I world (Settled I) where
  activate _ _ h := settled_activateModule hq h
  deactivate _ _ h := settled_deactivateModule hq h
  replace _ _ h := ⟨h.tracked, h.servicesLoaded, h.activeLoaded, h.mirrored⟩

end Attempts

/-! ## The start -/

section Start

variable {I : Installation} {world : ℕ → Reactions} {s : Host} {id : String}
  {activationFile : ActivationFile} {entitlementsFile : StateFile}

/-- A process that has made no calls. -/
theorem settled_fresh :
    Settled I (freshApplication activationFile entitlementsFile).host where
  tracked := tracked_empty
  servicesLoaded id hid := absurd hid (OrdSet.notMem_empty id)
  activeLoaded id hid := by cases hid
  mirrored hcalls := absurd rfl hcalls

/-- A module that could be started, were it entitled. -/
def Launchable (I : Installation) (id : String) : Prop :=
  (∃ moduleType module, I.module? id = some (moduleType, module)) ∧ I.Compatible id

/-- Nothing is unloaded by an attempt to activate, and what can be loaded is. -/
theorem activateIfInactive_loads (hq : Quiet world) (s : Host) (id : String) :
    let t := s.activateIfInactive I world id
    t.unlocked = s.unlocked ∧ (∀ id', s.isModuleActive id' = true → t.isModuleActive id' = true) ∧
    (Launchable I id → s.isEntitled id (I.iapProductID id) = true → t.isModuleActive id = true) := by
  rw [Host.activateIfInactive]
  cases hactive : s.isModuleActive id with
  | true => exact ⟨rfl, fun _ h => h, fun _ _ => hactive⟩
  | false =>
    rw [if_neg Bool.false_ne_true]
    cases hadmission : s.admission I id with
    | error failure =>
      rw [activateModule_of_not_admission (by simp [hadmission])]
      refine ⟨rfl, fun _ h => h, fun hlaunchable hentitled => ?_⟩
      obtain ⟨⟨moduleType, module, hmodule⟩, hcompatible⟩ := hlaunchable
      have hok : s.admission I id = .ok (moduleType, module) :=
        admission_eq_ok_iff.mpr ⟨hmodule, hcompatible, hentitled, hactive⟩
      rw [hadmission] at hok
      cases hok
    | ok product =>
      have hactivated := activated_of_admission hq hadmission
      exact ⟨hactivated.unlocked,
        fun id' hid' => (isModuleActive_insert hactivated.loaded).mpr (Or.inr hid'),
        fun _ _ => (isModuleActive_insert hactivated.loaded).mpr (Or.inl rfl)⟩

/-- A loop of such attempts. -/
theorem activateEachInactive_loads (hq : Quiet world) (ids : List String) (s : Host) :
    let t := s.activateEachInactive I world ids
    t.unlocked = s.unlocked ∧ (∀ id', s.isModuleActive id' = true → t.isModuleActive id' = true) ∧
    ∀ id ∈ ids, Launchable I id → s.isEntitled id (I.iapProductID id) = true →
      t.isModuleActive id = true := by
  induction ids generalizing s with
  | nil => exact ⟨rfl, fun _ h => h, fun id hid => absurd hid List.not_mem_nil⟩
  | cons id ids ih =>
    obtain ⟨hunlocked, hkept, hloaded⟩ := activateIfInactive_loads (I := I) hq s id
    obtain ⟨hunlocked', hkept', hloaded'⟩ := ih (s.activateIfInactive I world id)
    refine ⟨hunlocked'.trans hunlocked, fun id' hid' => hkept' id' (hkept id' hid'),
      fun id' hid' hlaunchable hentitled => ?_⟩
    rcases List.mem_cons.mp hid' with rfl | hid'
    · exact hkept' id' (hloaded hlaunchable hentitled)
    · refine hloaded' id' hid' hlaunchable ?_
      rw [Host.isEntitled, hunlocked]
      exact hentitled

end Start

/-! ## The first start of the export module -/

theorem quiet_default : Quiet fun _ => {} where
  constructs _ := rfl
  start _ := rfl
  stop _ := rfl
  uiContributions _ := rfl
  save _ := rfl

theorem module?_export : exportInstallation.module? "com.mastercontrol.export" =
    some (.service, .service "com.mastercontrol.export" [exportRequest]) := by decide +kernel

theorem launchable_export : Launchable exportInstallation "com.mastercontrol.export" :=
  ⟨⟨_, _, module?_export⟩, exportManifest, by decide +kernel⟩

theorem not_launchesUI_export :
    ¬ exportInstallation.launchesUI "com.mastercontrol.export" := by
  rintro ⟨moduleType, module, hmodule, hservice, -⟩
  cases module?_export.symm.trans hmodule
  exact hservice rfl

/-- The export module runs after the first start. -/
theorem exists_start_export : ∃ started,
    (freshApplication .absent (.document exportEntitlements)).start exportInstallation
      (fun _ => {}) {} {} = some started ∧
    started.host.unlocked = exportEntitlements ∧
    running started.host.calls "com.mastercontrol.export" = true := by
  obtain ⟨started, hstart, hhost⟩ :=
    exists_start exportInstallation (fun _ => {}) {} exportEntitlements
  obtain ⟨hunlocked, -, hloaded⟩ := activateEachInactive_loads (I := exportInstallation)
    quiet_default defaultModuleIDs { unlocked := exportEntitlements }
  have htracked := (closed_settled exportInstallation quiet_default).start settled_fresh hstart
    |>.tracked
  refine ⟨started, hstart, ?_, htracked.running_iff_loaded.mpr
    ⟨?_, fun h => absurd h not_launchesUI_export⟩⟩
  · rw [hhost, Host.activateDefaultModules]
    exact hunlocked
  · rw [hhost, Host.activateDefaultModules]
    exact hloaded "com.mastercontrol.export" (by decide) launchable_export (by decide)

end Modules
end MasterControl
