import MasterControl.Modules.Manager

/-!
# What the manager knows of its modules

A module *runs* if the last call of it that returned was a start.  `Tracked` relates this to the
manager's sets: the modules that run are those that are loaded and enabled, at most one user
interface is enabled, and no module is started while it runs.

Every attempt to start or stop a module keeps it, however the modules behave
(`tracked_activateModule`, `tracked_deactivateModule`).  The steps that an attempt consists of each
have a lemma of their own.
-/

namespace MasterControl
namespace Modules

open Foundation

/-! ## The calls -/

/-- The last call of the module that returned was a start. -/
def running : List ModuleCall → String → Bool
  | [], _ => false
  | .start id true :: calls, id' => id = id' || running calls id'
  | .stop id true :: calls, id' => id ≠ id' && running calls id'
  | .start _ false :: calls, id' => running calls id'
  | .stop _ false :: calls, id' => running calls id'

/-- No module has been started while it ran. -/
def StartedOnce : List ModuleCall → Prop
  | [] => True
  | .start id _ :: calls => running calls id = false ∧ StartedOnce calls
  | .stop _ _ :: calls => StartedOnce calls

section Calls

variable {calls : List ModuleCall} {id id' : String}

theorem running_start_iff : running (.start id true :: calls) id' = true ↔
    id' = id ∨ running calls id' = true := by
  rw [running, Bool.or_eq_true, decide_eq_true_iff, eq_comm]

theorem running_stop_iff : running (.stop id true :: calls) id' = true ↔
    id' ≠ id ∧ running calls id' = true := by
  rw [running, Bool.and_eq_true, decide_eq_true_iff, ne_comm]

end Calls

/-! ## The routes -/

namespace Installation

variable (I : Installation)

/-- The type of a module, and what its factory makes. -/
def module? (moduleID : String) : Option (ModuleType × ForsettiModule) := do
  let manifest ← I.manifestsByID.find? moduleID
  let module ← (I.registry.find? manifest.entryPoint).join
  some (manifest.moduleType, module)

/-- Whether a module is launched as a user interface. -/
def launchesUI (moduleID : String) : Prop :=
  ∃ moduleType module, I.module? moduleID = some (moduleType, module) ∧
    moduleType ≠ .service ∧ module.isUI = true

/-- The product whose unlocking also unlocks the module. -/
def iapProductID (moduleID : String) : Option String :=
  (I.manifestsByID.find? moduleID).bind ModuleManifest.iapProductID

/-- The manifest is there and compatible. -/
def Compatible (moduleID : String) : Prop :=
  ∃ manifest, I.manifestsByID.find? moduleID = some manifest ∧
    (I.checker.checkCompatibility manifest).isCompatible = true

end Installation

variable {I : Installation} {world : ℕ → Reactions} {s : Host} {id id' : String}
  {module : ForsettiModule} {moduleType : ModuleType}

/-- **Admission.** -/
theorem admission_eq_ok_iff : s.admission I id = .ok (moduleType, module) ↔
    I.module? id = some (moduleType, module) ∧ I.Compatible id ∧
      s.isEntitled id (I.iapProductID id) = true ∧ s.isModuleActive id = false := by
  unfold Host.admission Installation.module? Installation.Compatible Installation.iapProductID
  cases hmanifest : I.manifestsByID.find? id with
  | none => simp
  | some manifest =>
    dsimp only
    by_cases hcompatible : (I.checker.checkCompatibility manifest).isCompatible = false
    · simp [hcompatible]
    · by_cases hentitled : s.isEntitled id manifest.iapProductID = false
      · simp [hcompatible, hentitled]
      · cases hactive : s.isModuleActive id with
        | true => simp [hcompatible, hentitled]
        | false =>
          cases hfactory : I.registry.find? manifest.entryPoint with
          | none => simp [hcompatible, hentitled, hfactory]
          | some factory => cases factory <;> simp [hcompatible, hentitled, hfactory]

/-! ## The invariant -/

structure Tracked (I : Installation) (m : ModuleManager) (calls : List ModuleCall) : Prop where
  /-- The enabled user interface is the active one. -/
  enabledUI : ∀ id, id ∈ m.enabledUIModuleIDs ↔ m.activeUIModuleID = some id
  activeUI : ∀ id, m.activeUIModuleID = some id → I.launchesUI id
  services : ∀ id, id ∈ m.enabledServiceModuleIDs → ¬ I.launchesUI id
  /-- What is loaded is what the factory makes. -/
  loaded : ∀ id module, m.loadedModules.find? id = some module →
    (∃ moduleType, I.module? id = some (moduleType, module)) ∧ I.Compatible id
  /-- A service stays enabled as long as it is loaded. -/
  loadedService : ∀ id, (m.loadedModules.find? id).isSome = true → ¬ I.launchesUI id →
    id ∈ m.enabledServiceModuleIDs
  running_iff : ∀ id, running calls id = true ↔ (m.loadedModules.find? id).isSome = true ∧
    (id ∈ m.enabledServiceModuleIDs ∨ m.activeUIModuleID = some id)
  startedOnce : StartedOnce calls

theorem tracked_empty : Tracked I {} [] where
  enabledUI id := by simp
  activeUI id h := by cases h
  services id h := absurd h (OrdSet.notMem_empty id)
  loaded id module h := by cases h
  loadedService id h := by cases h
  running_iff id := by simp [running]
  startedOnce := trivial

namespace Tracked

variable {m : ModuleManager} {calls : List ModuleCall}

/-- A module that is not loaded does not run. -/
theorem not_running (h : Tracked I m calls) (hid : m.loadedModules.find? id = none) :
    running calls id = false := by
  rw [Bool.eq_false_iff, Ne, h.running_iff, hid]
  exact fun hrunning => Bool.false_ne_true hrunning.1

/-- A module runs if it is loaded, and is the active one if it is a user interface. -/
theorem running_iff_loaded (h : Tracked I m calls) : running calls id = true ↔
    (m.loadedModules.find? id).isSome = true ∧
      (I.launchesUI id → m.activeUIModuleID = some id) := by
  rw [h.running_iff id]
  refine and_congr_right fun hloaded => ⟨fun henabled hroute => ?_, fun hactive => ?_⟩
  · exact henabled.resolve_left fun hservice => h.services id hservice hroute
  · by_cases hroute : I.launchesUI id
    · exact Or.inr (hactive hroute)
    · exact Or.inl (h.loadedService id hloaded hroute)

theorem enableService (h : Tracked I m calls) (hroute : ¬ I.launchesUI id)
    (hid : m.loadedModules.find? id = none) :
    Tracked I { m with
      enabledServiceModuleIDs := m.enabledServiceModuleIDs.insert id } calls where
  enabledUI := h.enabledUI
  activeUI := h.activeUI
  services id' hmem := by
    rcases OrdSet.mem_insert.mp hmem with rfl | hmem
    · exact hroute
    · exact h.services id' hmem
  loaded := h.loaded
  loadedService id' hloaded hroute' := OrdSet.mem_insert.mpr (Or.inr (h.loadedService id' hloaded hroute'))
  running_iff id' := by
    rw [h.running_iff id', OrdSet.mem_insert]
    refine and_congr_right fun hloaded => ?_
    have hne : id' ≠ id := by
      rintro rfl
      rw [hid] at hloaded
      cases hloaded
    simp [hne]
  startedOnce := h.startedOnce

theorem showUI (h : Tracked I m calls) (hroute : I.launchesUI id)
    (hactive : m.activeUIModuleID = none) (hid : m.loadedModules.find? id = none) :
    Tracked I { m with
      enabledUIModuleIDs := m.enabledUIModuleIDs.insert id
      activeUIModuleID := some id } calls where
  enabledUI id' := by
    rw [OrdSet.mem_insert, h.enabledUI id', hactive, Option.some_inj]
    simp [eq_comm]
  activeUI id' heq := Option.some.inj heq ▸ hroute
  services := h.services
  loaded := h.loaded
  loadedService := h.loadedService
  running_iff id' := by
    rw [h.running_iff id', hactive]
    refine and_congr_right fun hloaded => ?_
    have hne : id ≠ id' := by
      rintro rfl
      rw [hid] at hloaded
      cases hloaded
    simp [hne]
  startedOnce := h.startedOnce

theorem hideUI (h : Tracked I m calls) (hactive : m.activeUIModuleID = some id)
    (hrunning : running calls id = false) :
    Tracked I { m with
      enabledUIModuleIDs := m.enabledUIModuleIDs.erase id
      activeUIModuleID := none } calls where
  enabledUI id' := by
    rw [OrdSet.mem_erase, h.enabledUI id', hactive, Option.some_inj]
    simp [eq_comm]
  activeUI id' heq := by cases heq
  services := h.services
  loaded := h.loaded
  loadedService := h.loadedService
  running_iff id' := by
    constructor
    · intro hrun
      obtain ⟨hloaded, hservice | hui⟩ := (h.running_iff id').mp hrun
      · exact ⟨hloaded, Or.inl hservice⟩
      · rw [hactive] at hui
        rw [← Option.some.inj hui, hrunning] at hrun
        cases hrun
    · rintro ⟨hloaded, hservice | hui⟩
      · exact (h.running_iff id').mpr ⟨hloaded, Or.inl hservice⟩
      · cases hui
  startedOnce := h.startedOnce

/-- A start that throws. -/
theorem failedStart (h : Tracked I m calls) (hid : m.loadedModules.find? id = none) :
    Tracked I m (.start id false :: calls) :=
  { h with
    running_iff := h.running_iff
    startedOnce := ⟨h.not_running hid, h.startedOnce⟩ }

/-- A stop that throws. -/
theorem failedStop (h : Tracked I m calls) : Tracked I m (.stop id false :: calls) :=
  { h with
    running_iff := h.running_iff
    startedOnce := h.startedOnce }

/-- A start that returns, of a module that is enabled. -/
theorem load (h : Tracked I m calls) (hid : m.loadedModules.find? id = none)
    (hmodule : I.module? id = some (moduleType, module)) (hcompatible : I.Compatible id)
    (henabled : (id ∈ m.enabledServiceModuleIDs ∧ ¬ I.launchesUI id) ∨
      (m.activeUIModuleID = some id ∧ I.launchesUI id)) :
    Tracked I { m with loadedModules := m.loadedModules.insert id module }
      (.start id true :: calls) where
  enabledUI := h.enabledUI
  activeUI := h.activeUI
  services := h.services
  loaded id' module' hfind := by
    rw [OrdMap.find?_insert] at hfind
    split_ifs at hfind with heq
    · cases hfind
      exact heq ▸ ⟨⟨moduleType, hmodule⟩, hcompatible⟩
    · exact h.loaded id' module' hfind
  loadedService id' hloaded hroute := by
    rw [OrdMap.find?_insert] at hloaded
    split_ifs at hloaded with heq
    · subst heq
      rcases henabled with henabled | henabled
      · exact henabled.1
      · exact absurd henabled.2 hroute
    · exact h.loadedService id' hloaded hroute
  running_iff id' := by
    rw [running_start_iff, h.running_iff id', OrdMap.find?_insert]
    by_cases heq : id = id'
    · subst heq
      rw [if_pos rfl]
      refine iff_of_true (Or.inl rfl) ⟨rfl, ?_⟩
      exact henabled.imp And.left And.left
    · rw [if_neg heq]
      simp [Ne.symm heq]
  startedOnce := ⟨h.not_running hid, h.startedOnce⟩

/-- The active user interface is stopped and no longer active. -/
theorem displace (h : Tracked I m calls) (hactive : m.activeUIModuleID = some id) :
    Tracked I { m with
      enabledUIModuleIDs := m.enabledUIModuleIDs.erase id
      activeUIModuleID := none } (.stop id true :: calls) where
  enabledUI id' := by
    rw [OrdSet.mem_erase, h.enabledUI id', hactive, Option.some_inj]
    simp [eq_comm]
  activeUI id' heq := by cases heq
  services := h.services
  loaded := h.loaded
  loadedService := h.loadedService
  running_iff id' := by
    rw [running_stop_iff, h.running_iff id', hactive]
    constructor
    · rintro ⟨hne, hloaded, hservice | hui⟩
      · exact ⟨hloaded, Or.inl hservice⟩
      · exact absurd (Option.some.inj hui).symm hne
    · rintro ⟨hloaded, hservice | hui⟩
      · refine ⟨?_, hloaded, Or.inl hservice⟩
        rintro rfl
        exact h.services id' hservice (h.activeUI id' hactive)
      · cases hui
  startedOnce := h.startedOnce

/-- A stop that returns, after which the module is unloaded. -/
theorem unload (h : Tracked I m calls) :
    Tracked I
      { loadedModules := m.loadedModules.erase id
        enabledServiceModuleIDs := m.enabledServiceModuleIDs.erase id
        enabledUIModuleIDs := m.enabledUIModuleIDs.erase id
        activeUIModuleID := if m.activeUIModuleID = some id then none else m.activeUIModuleID }
      (.stop id true :: calls) where
  enabledUI id' := by
    rw [OrdSet.mem_erase, h.enabledUI id']
    by_cases hactive : m.activeUIModuleID = some id
    · rw [if_pos hactive, hactive, Option.some_inj]
      simp [eq_comm]
    · rw [if_neg hactive]
      refine ⟨And.right, fun heq => ⟨?_, heq⟩⟩
      rintro rfl
      exact hactive heq
  activeUI id' heq := by
    split_ifs at heq
    exact h.activeUI id' heq
  services id' hmem := h.services id' (OrdSet.mem_erase.mp hmem).2
  loaded id' module' hfind := by
    rw [OrdMap.find?_erase] at hfind
    split_ifs at hfind
    exact h.loaded id' module' hfind
  loadedService id' hloaded hroute := by
    rw [OrdMap.find?_erase] at hloaded
    split_ifs at hloaded with heq
    · cases hloaded
    · exact OrdSet.mem_erase.mpr ⟨heq, h.loadedService id' hloaded hroute⟩
  running_iff id' := by
    rw [running_stop_iff, h.running_iff id', OrdMap.find?_erase, OrdSet.mem_erase]
    by_cases heq : id' = id
    · rw [if_pos heq]
      simp [heq]
    · rw [if_neg heq]
      by_cases hactive : m.activeUIModuleID = some id
      · rw [if_pos hactive, hactive, Option.some_inj]
        simp [heq, Ne.symm heq]
      · rw [if_neg hactive]
        simp [heq]
  startedOnce := h.startedOnce

end Tracked

/-! ## The attempts -/

/-- The invariant, of a host. -/
def Host.Tracked (I : Installation) (s : Host) : Prop := Modules.Tracked I s.manager s.calls

theorem tracked_displaceActiveUI (h : s.Tracked I) (now : Reactions) :
    (s.displaceActiveUI I now).host.Tracked I := by
  rw [Host.displaceActiveUI]
  split
  · exact h
  · rename_i previousID hactive
    split
    · rename_i hloaded
      exact h.hideUI hactive (h.not_running hloaded)
    · rename_i previous hloaded
      cases hstop : now.stop with
      | returns => exact h.displace hactive
      | throws effective => exact h.failedStop

/-- After the displacement no user interface is active, and nothing else is loaded or unloaded. -/
theorem displaceActiveUI_ok {now : Reactions} (h : (s.displaceActiveUI I now).result = .ok ()) :
    (s.displaceActiveUI I now).host.manager.activeUIModuleID = none ∧
    (s.displaceActiveUI I now).host.manager.loadedModules = s.manager.loadedModules := by
  rw [Host.displaceActiveUI] at h ⊢
  split
  · rename_i hactive
    exact ⟨hactive, rfl⟩
  · rename_i previousID hactive
    rw [hactive] at h
    dsimp only at h
    split
    · exact ⟨rfl, rfl⟩
    · rename_i previous hloaded
      rw [hloaded] at h
      dsimp only at h
      cases hstop : now.stop with
      | returns => exact ⟨rfl, rfl⟩
      | throws effective =>
        rw [hstop] at h
        cases h

theorem tracked_launch (h : s.Tracked I) {now : Reactions}
    (hid : s.manager.loadedModules.find? id = none)
    (hmodule : I.module? id = some (moduleType, module)) (hcompatible : I.Compatible id)
    (henabled : (id ∈ s.manager.enabledServiceModuleIDs ∧ ¬ I.launchesUI id) ∨
      (s.manager.activeUIModuleID = some id ∧ I.launchesUI id)) :
    (s.launch I now id module).host.Tracked I := by
  rw [Host.launch]
  cases hstart : now.start with
  | returns => exact h.load hid hmodule hcompatible henabled
  | throws effective => exact h.failedStart hid

theorem tracked_launchUI (h : s.Tracked I) {now : Reactions}
    (hid : s.manager.loadedModules.find? id = none)
    (hmodule : I.module? id = some (moduleType, module)) (hcompatible : I.Compatible id)
    (hroute : I.launchesUI id) :
    (s.launchUI I now id module).host.Tracked I := by
  have hdisplaced := tracked_displaceActiveUI h now
  rw [Host.launchUI]
  split
  · exact hdisplaced
  · rename_i hresult
    obtain ⟨hactive, hloaded⟩ := displaceActiveUI_ok hresult
    split
    · exact hdisplaced
    · rename_i contributions hcontributions
      have hid' : (s.displaceActiveUI I now).host.manager.loadedModules.find? id = none := by
        rw [hloaded, hid]
      have hshown : ((s.displaceActiveUI I now).host.showUI I id contributions).Tracked I :=
        hdisplaced.showUI hroute hactive hid'
      exact tracked_launch hshown hid' hmodule hcompatible (Or.inr ⟨rfl, hroute⟩)

theorem tracked_activateModule (h : s.Tracked I) (world : ℕ → Reactions) (id : String) :
    (s.activateModule I world id).host.Tracked I := by
  rw [Host.activateModule]
  split
  · exact h
  · rename_i moduleType module hadmission
    obtain ⟨hmodule, hcompatible, -, hactive⟩ := admission_eq_ok_iff.mp hadmission
    have hid : s.manager.loadedModules.find? id = none := by
      rwa [Host.isModuleActive, Option.isSome_eq_false_iff, Option.isNone_iff_eq_none] at hactive
    have hcount : { s with attempts := s.attempts + 1 : Host }.Tracked I := h
    dsimp only
    split_ifs with hconstruct hui
    · exact h
    · exact tracked_launchUI hcount hid hmodule hcompatible ⟨moduleType, module, hmodule, hui⟩
    · have hroute : ¬ I.launchesUI id := by
        rintro ⟨moduleType', module', hmodule', hui'⟩
        rw [hmodule] at hmodule'
        cases hmodule'
        exact hui hui'
      have henabled : (Host.enableService { s with attempts := s.attempts + 1 } id).Tracked I :=
        hcount.enableService hroute hid
      exact tracked_launch henabled hid hmodule hcompatible
        (Or.inl ⟨OrdSet.mem_insert.mpr (Or.inl rfl), hroute⟩)

theorem tracked_deactivateModule (h : s.Tracked I) (world : ℕ → Reactions) (id : String) :
    (s.deactivateModule I world id).host.Tracked I := by
  rw [Host.deactivateModule]
  split
  · exact h
  · dsimp only
    cases hstop : (world s.attempts).stop with
    | returns => exact h.unload
    | throws effective => exact h.failedStop

end Modules
end MasterControl
