import MasterControl.Modules.EntitlementSafety

/-!
# What managing a module does

`manageForsettiModule` reports success when nothing has thrown.  What that means for the module is
less than the messages say: a module that was loaded before may be a user interface that has been
displaced, and a module that is locked may be entitled by its product, so that the default modules
bring it up again (`manage_succeeds`).
-/

namespace MasterControl
namespace Modules

open Foundation
open MasterControl.Configuration (Entitlements.EntitlementStateDocument)
open Configuration.Entitlements (StateFile readState)

/-! ## Attempts that succeed -/

section Attempts

variable {I : Installation} {world : ℕ → Reactions} {s : Host} {now : Reactions} {id id' : String}
  {module : ForsettiModule}

theorem launch_ok (h : (s.launch I now id module).result = .ok ()) :
    (s.launch I now id module).host.isModuleActive id = true ∧
      running (s.launch I now id module).host.calls id = true := by
  rw [Host.launch] at h ⊢
  cases hstart : now.start with
  | returns =>
    refine ⟨?_, running_start_iff.mpr (Or.inl rfl)⟩
    show ((s.manager.loadedModules.insert id module).find? id).isSome = true
    rw [OrdMap.find?_insert_self, Option.isSome_some]
  | throws effective =>
    rw [hstart] at h
    cases h

/-- A module that has been activated is loaded and runs. -/
theorem activateModule_ok (h : (s.activateModule I world id).result = .ok ()) :
    (s.activateModule I world id).host.isModuleActive id = true ∧
      running (s.activateModule I world id).host.calls id = true := by
  rw [Host.activateModule] at h ⊢
  cases hadmission : s.admission I id with
  | error failure =>
    rw [hadmission] at h
    cases h
  | ok product =>
    obtain ⟨moduleType, module⟩ := product
    rw [hadmission] at h
    dsimp only at h ⊢
    split_ifs at h ⊢ with hconstruct hui
    · rw [Host.launchUI] at h ⊢
      cases hresult : (Host.displaceActiveUI I { s with attempts := s.attempts + 1 }
          (world s.attempts)).result with
      | error failure =>
        rw [hresult] at h
        cases h
      | ok displaced =>
        rw [hresult] at h
        dsimp only at h ⊢
        cases hcontributions : module.uiContributions (world s.attempts) with
        | none =>
          rw [hcontributions] at h
          cases h
        | some contributions =>
          rw [hcontributions] at h
          exact launch_ok h
    · exact launch_ok h

/-- A module that has been deactivated is not loaded. -/
theorem deactivateModule_ok (h : (s.deactivateModule I world id).result = .ok ()) :
    (s.deactivateModule I world id).host.isModuleActive id = false := by
  rw [Host.deactivateModule] at h ⊢
  cases hloaded : s.manager.loadedModules.find? id with
  | none =>
    rw [hloaded] at h
    cases h
  | some module =>
    rw [hloaded] at h
    dsimp only at h ⊢
    cases hstop : (world s.attempts).stop with
    | throws effective =>
      rw [hstop] at h
      cases h
    | returns =>
      show ((s.manager.loadedModules.erase id).find? id).isSome = false
      rw [OrdMap.find?_erase_self, Option.isSome_none]

theorem isModuleActive_launch
    (h : (s.launch I now id module).host.isModuleActive id' = true) :
    s.isModuleActive id' = true ∨ id' = id := by
  rw [Host.launch] at h
  cases hstart : now.start with
  | throws effective =>
    rw [hstart] at h
    exact Or.inl h
  | returns =>
    rw [hstart] at h
    replace h : ((s.manager.loadedModules.insert id module).find? id').isSome = true := h
    rw [OrdMap.find?_insert] at h
    split_ifs at h with heq
    · exact Or.inr heq.symm
    · exact Or.inl h

theorem loadedModules_displaceActiveUI (s : Host) :
    (s.displaceActiveUI I now).host.manager.loadedModules = s.manager.loadedModules := by
  rw [Host.displaceActiveUI]
  split
  · rfl
  · split
    · rfl
    · cases hstop : now.stop <;> rfl

/-- An attempt to activate loads what it names, if that is entitled, and nothing else. -/
theorem isModuleActive_activateModule
    (h : (s.activateModule I world id).host.isModuleActive id' = true) :
    s.isModuleActive id' = true ∨ (id' = id ∧ Entitled I s.unlocked id) := by
  rw [Host.activateModule] at h
  split at h
  · exact Or.inl h
  · rename_i moduleType module hadmission
    have hentitled := (admission_eq_ok_iff.mp hadmission).2.2.1
    dsimp only at h
    split_ifs at h
    · exact Or.inl h
    · rw [Host.launchUI] at h
      have hloaded : (Host.displaceActiveUI I { s with attempts := s.attempts + 1 }
          (world s.attempts)).host.manager.loadedModules = s.manager.loadedModules :=
        loadedModules_displaceActiveUI { s with attempts := s.attempts + 1 }
      have hdisplaced : ∀ {t : Host}, t.manager.loadedModules = s.manager.loadedModules →
          t.isModuleActive id' = true → s.isModuleActive id' = true := fun ht hid' => by
        rwa [Host.isModuleActive, ht] at hid'
      split at h
      · exact Or.inl (hdisplaced hloaded h)
      · split at h
        · exact Or.inl (hdisplaced hloaded h)
        · exact (isModuleActive_launch h).imp (hdisplaced hloaded) fun heq => ⟨heq, hentitled⟩
    · exact (isModuleActive_launch h).imp_right fun heq => ⟨heq, hentitled⟩

end Attempts

/-! ## Changes of the entitlements -/

/-- If the module is loaded, it is as a default module that is entitled. -/
def LoadedByDefault (I : Installation) (id : String) (s : Host) : Prop :=
  s.isModuleActive id = true → id ∈ defaultModuleIDs ∧ Entitled I s.unlocked id

section Changes

variable {I : Installation} {world : ℕ → Reactions} {s : Host} {id : String} {A : Application}
  {defaultState : Entitlements.EntitlementStateDocument}

theorem loadedByDefault_deactivateAll (h : LoadedByDefault I id s) (ids : List String) :
    LoadedByDefault I id (s.deactivateAll I world ids) := by
  refine invariant_foldl (I := LoadedByDefault I id) (fun s id' hs hid => ?_) ids h
  have hcontinues : Continues (fun _ => False) s (s.deactivateModule I world id').host :=
    continues_deactivateModule _ s id'
  rw [hcontinues.unlocked]
  exact hs (isModuleActive_of_deactivateModule hid)

theorem loadedByDefault_activateEachInactive (ids : List String)
    (hids : ∀ id ∈ ids, id ∈ defaultModuleIDs) (s : Host) (h : LoadedByDefault I id s) :
    LoadedByDefault I id (s.activateEachInactive I world ids) := by
  induction ids generalizing s with
  | nil => exact h
  | cons id' ids ih =>
    refine ih (fun id hid => hids id (List.mem_cons_of_mem _ hid)) _ ?_
    show LoadedByDefault I id (s.activateIfInactive I world id')
    rw [Host.activateIfInactive]
    split_ifs
    · exact h
    · intro hid
      rw [(continues_activateModule s id').unlocked]
      rcases isModuleActive_activateModule hid with hbefore | ⟨rfl, hentitled⟩
      · exact h hbefore
      · exact ⟨hids id List.mem_cons_self, hentitled⟩

theorem loadedByDefault_runCallback (h : LoadedByDefault I id A.host)
    (callback : EntitlementsCallback) :
    LoadedByDefault I id (A.runCallback I world callback).host := by
  cases callback with
  | reconcileActiveModulesWithEntitlements => exact loadedByDefault_deactivateAll h _
  | activateDefaultModules =>
    rw [Application.runCallback]
    split_ifs
    · dsimp only
      rw [Host.activateDefaultModules]
      exact loadedByDefault_activateEachInactive defaultModuleIDs (fun _ hid => hid) A.host h
    · exact h

/-- A module that is not loaded is loaded by a change of the entitlements only by default. -/
theorem loadedByDefault_replaceEntitlements (h : A.host.isModuleActive id = false)
    (state : Entitlements.EntitlementStateDocument) :
    LoadedByDefault I id (A.replaceEntitlements I world state).host := by
  have hreplaced : LoadedByDefault I id { A.host with unlocked := state } := fun hid => by
    replace hid : A.host.isModuleActive id = true := hid
    rw [h] at hid
    cases hid
  rw [Application.replaceEntitlements]
  split_ifs
  · exact hreplaced
  · exact invariant_foldl (I := fun A : Application => LoadedByDefault I id A.host)
      (fun A callback hA => loadedByDefault_runCallback hA callback) _ hreplaced

theorem host_ensureStateFile (defaultState : Entitlements.EntitlementStateDocument)
    (create : Configuration.Entitlements.SaveOutcome) :
    (A.ensureStateFile defaultState create).host = A.host := by
  rw [Application.ensureStateFile]
  split_ifs <;> rfl

theorem loadedByDefault_refreshEntitlements (h : A.host.isModuleActive id = false)
    {io : FileReactions} (hok : (A.refreshEntitlements I world defaultState io).threw = none) :
    LoadedByDefault I id (A.refreshEntitlements I world defaultState io).app.host := by
  rw [Application.refreshEntitlements] at hok ⊢
  rw [← host_ensureStateFile defaultState io.create] at h
  split
  · rename_i hread
    rw [hread] at hok
    cases hok
  · exact loadedByDefault_replaceEntitlements h _

theorem loadedByDefault_setModuleUnlocked (h : A.host.isModuleActive id = false)
    {moduleId : String} {unlocked : Bool} {io io' : FileReactions}
    {save : Configuration.Entitlements.SaveOutcome}
    (hok : (A.setModuleUnlocked I world defaultState moduleId unlocked io io' save).threw = none) :
    LoadedByDefault I id
      (A.setModuleUnlocked I world defaultState moduleId unlocked io io' save).app.host := by
  rw [Application.setModuleUnlocked] at hok ⊢
  rw [← host_ensureStateFile defaultState io.create] at h
  split
  · rename_i hread
    rw [hread] at hok
    cases hok
  · rename_i state hread
    rw [hread] at hok
    exact loadedByDefault_refreshEntitlements (A := { A.ensureStateFile defaultState io.create with
      entitlementsFile := save.save (state.withModule moduleId unlocked) }) h hok

end Changes

/-! ## The actions -/

section Actions

variable {I : Installation} {world : ℕ → Reactions} {A : Application} {id : String}
  {defaultState : Entitlements.EntitlementStateDocument} {io io' : FileReactions}
  {save : Configuration.Entitlements.SaveOutcome}

/-- An attempt is reported as it ends. -/
theorem withAttempt_succeeded {attempt : Attempt} {message : String}
    (h : (A.withAttempt attempt message).succeeded = true) :
    attempt.result = .ok () ∧
      (A.withAttempt attempt message).app = { A with host := attempt.host } := by
  rw [Application.withAttempt] at h ⊢
  cases hresult : attempt.result with
  | ok _ => exact ⟨rfl, rfl⟩
  | error failure =>
    rw [hresult] at h
    cases h

theorem deactivateIfActive_succeeded (h : (A.deactivateIfActive I world id).succeeded = true) :
    (A.deactivateIfActive I world id).app.host.isModuleActive id = false := by
  rw [Application.deactivateIfActive] at h ⊢
  split_ifs at h ⊢ with hactive
  · obtain ⟨hok, happ⟩ := withAttempt_succeeded h
    rw [happ]
    exact deactivateModule_ok hok
  · exact Bool.eq_false_iff.mpr hactive

theorem enableModule_succeeded
    (h : (A.enableModule I world defaultState id io io' save).succeeded = true) :
    (A.enableModule I world defaultState id io io' save).app.host.isModuleActive id = true := by
  rw [Application.enableModule] at h ⊢
  split
  · rename_i what hthrew
    rw [hthrew] at h
    cases h
  · rename_i hthrew
    rw [hthrew] at h
    dsimp only at h ⊢
    split_ifs at h ⊢ with hactive
    · exact hactive
    · obtain ⟨hok, happ⟩ := withAttempt_succeeded h
      rw [happ]
      exact (activateModule_ok hok).1

theorem reloadModule_succeeded
    (h : (A.reloadModule I world defaultState id io io' save).succeeded = true) :
    (A.reloadModule I world defaultState id io io' save).app.host.isModuleActive id = true ∧
    running (A.reloadModule I world defaultState id io io' save).app.host.calls id = true := by
  rw [Application.reloadModule] at h ⊢
  dsimp only at h ⊢
  split
  · rename_i what hthrew
    rw [hthrew] at h
    cases h
  · rename_i hthrew
    rw [hthrew] at h
    dsimp only at h ⊢
    split_ifs at h ⊢ with hstopped
    · obtain ⟨hok, happ⟩ := withAttempt_succeeded h
      rw [happ]
      exact activateModule_ok hok
    · exact absurd h hstopped

theorem disableModule_succeeded
    (h : (A.disableModule I world defaultState id io io' save).succeeded = true) :
    LoadedByDefault I id (A.disableModule I world defaultState id io io' save).app.host := by
  rw [Application.disableModule] at h ⊢
  dsimp only at h ⊢
  split_ifs at h ⊢ with hstopped
  · split
    · rename_i what hthrew
      rw [hthrew] at h
      cases h
    · rename_i hthrew
      exact loadedByDefault_setModuleUnlocked (deactivateIfActive_succeeded hstopped) hthrew
  · exact absurd h hstopped

end Actions

end Modules
end MasterControl
