import MasterControl.Modules.EntitlementSafety

/-!
# Restarting the application

Every attempt that succeeds saves what is enabled.  In a *quiet* world, in which no module throws
and every save is written, a process that dies is brought back by the next one as far as the
entitlements allow: exactly the modules that ran and are still unlocked run again
(`restart_restores`).

A shutdown deactivates the modules one by one, and each of these attempts saves as well.  So after
a shutdown nothing is restored, although its own comment says that the persisted state is left
alone (`shutdown_forgets`).
-/

namespace MasterControl
namespace Modules

open Foundation
open MasterControl.Configuration (Entitlements.EntitlementStateDocument)
open Configuration.Entitlements (StateFile)

/-! ## Restoring -/

section Restoring

variable {I : Installation} {world : ℕ → Reactions} {s t : Host} {id : String}

theorem launchable_of_loaded (h : s.Tracked I) (hloaded : s.isModuleActive id = true) :
    Launchable I id := by
  obtain ⟨module, hmodule⟩ := Option.isSome_iff_exists.mp hloaded
  obtain ⟨⟨moduleType, hproduct⟩, hcompatible⟩ := h.loaded id module hmodule
  exact ⟨⟨moduleType, module, hproduct⟩, hcompatible⟩

/-- One attempt to restore: the module is loaded if it is entitled. -/
theorem activateModule_restores (hq : Quiet world) (hlaunchable : Launchable I id)
    (hloaded : s.isModuleActive id = false) :
    let t := (s.activateModule I world id).host
    (∀ id', t.isModuleActive id' = true ↔
      s.isModuleActive id' = true ∨ (id' = id ∧ Entitled I s.unlocked id)) ∧
    (¬ I.launchesUI id → t.manager.activeUIModuleID = s.manager.activeUIModuleID) ∧
    (I.launchesUI id → s.manager.activeUIModuleID = none →
      (t.manager.activeUIModuleID = some id ↔ Entitled I s.unlocked id) ∧
      (t.manager.activeUIModuleID = none ↔ ¬ Entitled I s.unlocked id)) ∧
    t.unlocked = s.unlocked := by
  obtain ⟨⟨moduleType, module, hmodule⟩, hcompatible⟩ := hlaunchable
  dsimp only
  by_cases hentitled : Entitled I s.unlocked id
  · have hadmission : s.admission I id = .ok (moduleType, module) :=
      admission_eq_ok_iff.mpr ⟨hmodule, hcompatible, hentitled, hloaded⟩
    have hactivated := activated_of_admission hq hadmission
    refine ⟨fun id' => ?_, fun hroute => (hactivated.services hroute).2, fun hroute _ => ?_,
      hactivated.unlocked⟩
    · rw [isModuleActive_insert hactivated.loaded, or_comm, and_iff_left hentitled]
    · simp [(hactivated.ui hroute).2, hentitled]
  · have hnot : ∀ moduleType module, s.admission I id ≠ .ok (moduleType, module) :=
      fun moduleType module hadmission => hentitled (admission_eq_ok_iff.mp hadmission).2.2.1
    rw [activateModule_of_not_admission hnot]
    refine ⟨fun id' => ?_, fun _ => rfl, fun _ hnone => ?_, rfl⟩
    · simp [hentitled]
    · simp [hentitled, hnone]

/-- The services are restored one after the other. -/
theorem activateAll_services (hq : Quiet world) (ids : List String) (s : Host)
    (hnodup : ids.Nodup) (hlaunchable : ∀ id ∈ ids, Launchable I id ∧ ¬ I.launchesUI id)
    (hloaded : ∀ id ∈ ids, s.isModuleActive id = false) :
    (∀ id, (s.activateAll I world ids).isModuleActive id = true ↔
      s.isModuleActive id = true ∨ (id ∈ ids ∧ Entitled I s.unlocked id)) ∧
    (s.activateAll I world ids).manager.activeUIModuleID = s.manager.activeUIModuleID ∧
    (s.activateAll I world ids).unlocked = s.unlocked := by
  induction ids generalizing s with
  | nil => exact ⟨fun id => by simp [Host.activateAll], rfl, rfl⟩
  | cons id ids ih =>
    obtain ⟨hid, hnodup⟩ := List.nodup_cons.mp hnodup
    have hone := hlaunchable id List.mem_cons_self
    obtain ⟨hactive, hui, -, hunlocked⟩ := activateModule_restores hq hone.1
      (hloaded id List.mem_cons_self)
    have hrest := ih (s.activateModule I world id).host hnodup
      (fun id' hid' => hlaunchable id' (List.mem_cons_of_mem _ hid')) fun id' hid' => by
        rw [Bool.eq_false_iff, Ne, hactive id', hloaded id' (List.mem_cons_of_mem _ hid')]
        rintro (hfalse | ⟨rfl, -⟩)
        · cases hfalse
        · exact hid hid'
    refine ⟨fun id' => ?_, hrest.2.1.trans (hui hone.2), hrest.2.2.trans hunlocked⟩
    rw [Host.activateAll, List.foldl_cons, ← Host.activateAll, hrest.1 id', hactive id', hunlocked,
      List.mem_cons]
    constructor
    · rintro ((hbefore | ⟨rfl, hentitled⟩) | ⟨hmem, hentitled⟩)
      · exact Or.inl hbefore
      · exact Or.inr ⟨Or.inl rfl, hentitled⟩
      · exact Or.inr ⟨Or.inr hmem, hentitled⟩
    · rintro (hbefore | ⟨rfl | hmem, hentitled⟩)
      · exact Or.inl (Or.inl hbefore)
      · exact Or.inl (Or.inr ⟨rfl, hentitled⟩)
      · exact Or.inr ⟨hmem, hentitled⟩

/-- There is at most one enabled user interface. -/
theorem enabledUI_toList (h : s.Tracked I) :
    s.manager.enabledUIModuleIDs.toList = s.manager.activeUIModuleID.toList := by
  cases hactive : s.manager.activeUIModuleID with
  | none =>
    refine List.eq_nil_iff_forall_not_mem.mpr fun id hid => ?_
    rw [OrdSet.mem_toList, h.enabledUI id, hactive] at hid
    cases hid
  | some active =>
    have hsame : s.manager.enabledUIModuleIDs.toList = (OrdSet.empty.insert active).toList := by
      refine OrdSet.toList_eq fun id => ?_
      rw [h.enabledUI id, hactive, OrdSet.mem_insert, Option.some_inj, eq_comm]
      simp
    rw [hsame]
    rfl

/-- What is restored of a process that is settled, by one that has made no calls. -/
theorem restorePersistedActivation_settled (hq : Quiet world) (h : Settled I s)
    (hmanager : t.manager = {}) (hcalls : t.calls = []) :
    let restored := t.restorePersistedActivation I world
      { enabledServiceModuleIDs := s.manager.enabledServiceModuleIDs
        enabledUIModuleIDs := s.manager.enabledUIModuleIDs
        selectedUIModuleID := s.manager.activeUIModuleID }
    ∀ id, running restored.calls id = true ↔
      running s.calls id = true ∧ Entitled I restored.unlocked id := by
  intro restored
  have htracked : t.Tracked I := by
    rw [Host.Tracked, hmanager, hcalls]
    exact tracked_empty
  have hnone : ∀ id, t.isModuleActive id = false := fun id => by
    rw [Host.isModuleActive, hmanager]
    rfl
  have hrestored : restored.Tracked I := (closed_tracked I world).restore htracked _
  obtain ⟨hloaded, hactive, hunlocked⟩ := activateAll_services (I := I) hq
    s.manager.enabledServiceModuleIDs.toList t (OrdSet.nodup_toList _)
    (fun id hid => by
      rw [OrdSet.mem_toList] at hid
      exact ⟨launchable_of_loaded h.tracked (h.servicesLoaded id hid), h.tracked.services id hid⟩)
    (fun id _ => hnone id)
  set services := t.activateAll I world s.manager.enabledServiceModuleIDs.toList with hservices
  have hserviceActive : services.manager.activeUIModuleID = none := by rw [hactive, hmanager]
  have hloaded' : ∀ id, services.isModuleActive id = true ↔
      id ∈ s.manager.enabledServiceModuleIDs ∧ Entitled I t.unlocked id := fun id => by
    rw [hloaded id, hnone id, OrdSet.mem_toList]
    simp
  intro id
  rw [hrestored.running_iff_loaded, h.tracked.running_iff_loaded]
  have heq : restored =
      services.activateAll I world s.manager.activeUIModuleID.toList := by
    rw [← enabledUI_toList h.tracked]
    rfl
  have hservice : id ∈ s.manager.enabledServiceModuleIDs ↔
      s.isModuleActive id = true ∧ ¬ I.launchesUI id :=
    ⟨fun hid => ⟨h.servicesLoaded id hid, h.tracked.services id hid⟩,
      fun hid => h.tracked.loadedService id hid.1 hid.2⟩
  cases hui : s.manager.activeUIModuleID with
  | none =>
    have heq' : restored = services := by rw [heq, hui]; rfl
    rw [heq', hunlocked]
    show services.isModuleActive id = true ∧ _ ↔ (s.isModuleActive id = true ∧ _) ∧ _
    rw [hloaded' id, hservice, hserviceActive]
    simp only [reduceCtorEq, imp_false]
    constructor
    · rintro ⟨⟨hid, hentitled⟩, -⟩
      exact ⟨hid, hentitled⟩
    · rintro ⟨hid, hentitled⟩
      exact ⟨⟨hid, hentitled⟩, hid.2⟩
  | some active =>
    have heq' : restored = (services.activateModule I world active).host := by rw [heq, hui]; rfl
    have hroute := h.tracked.activeUI active hui
    have hnot : services.isModuleActive active = false := by
      rw [Bool.eq_false_iff, Ne, hloaded' active]
      exact fun hid => h.tracked.services active hid.1 hroute
    obtain ⟨hloaded'', -, hshown, hunlocked'⟩ := activateModule_restores hq
      (launchable_of_loaded h.tracked (h.activeLoaded active hui)) hnot
    have hshown' := (hshown hroute hserviceActive).1
    rw [heq', hunlocked', hunlocked]
    rw [hunlocked] at hloaded'' hshown'
    show (services.activateModule I world active).host.isModuleActive id = true ∧ _ ↔
      (s.isModuleActive id = true ∧ _) ∧ _
    rw [hloaded'' id, hloaded' id, hservice]
    constructor
    · rintro ⟨⟨⟨hid, hnotUI⟩, hentitled⟩ | ⟨rfl, hentitled⟩, -⟩
      · exact ⟨⟨hid, fun hid' => absurd hid' hnotUI⟩, hentitled⟩
      · exact ⟨⟨h.activeLoaded id hui, fun _ => rfl⟩, hentitled⟩
    · rintro ⟨⟨hid, hisActive⟩, hentitled⟩
      by_cases hid' : I.launchesUI id
      · have heq := Option.some.inj (hisActive hid')
        subst heq
        exact ⟨Or.inr ⟨rfl, hentitled⟩, fun _ => hshown'.mpr hentitled⟩
      · exact ⟨Or.inl ⟨⟨hid, hid'⟩, hentitled⟩, fun h => absurd h hid'⟩

end Restoring

/-! ## Two processes -/

section Processes

variable {I : Installation} {world world' : ℕ → Reactions} {s : Host} {id : String}
  {defaultState : Entitlements.EntitlementStateDocument} {activationFile : ActivationFile}
  {entitlementsFile : StateFile} {io : FileReactions}

/-- The next process boots with the file that this one leaves. -/
theorem boot_settled (hq : Quiet world') (h : Settled I s) (hcalls : s.calls ≠ [])
    {booted : Application}
    (hboot : (freshApplication s.file entitlementsFile).boot I world' defaultState io =
      some booted) (id : String) :
    running booted.host.calls id = true ↔
      running s.calls id = true ∧ Entitled I booted.host.unlocked id := by
  obtain ⟨-, hmanager, hnone, hfile, -⟩ := refreshEntitlements_fresh I world'
    defaultState s.file entitlementsFile io
  obtain ⟨state, hstate, hhost⟩ := boot_eq_some hboot
  rw [hfile, h.mirrored hcalls, Option.some_inj] at hstate
  rw [hhost, ← hstate]
  exact restorePersistedActivation_settled hq h hmanager hnone id

/-- Attempts to deactivate leave loaded what they do not name. -/
theorem deactivateAll_quiet (hq : Quiet world) (ids : List String) (s : Host)
    (hid : (s.deactivateAll I world ids).isModuleActive id = true) :
    s.isModuleActive id = true ∧ id ∉ ids := by
  induction ids generalizing s with
  | nil => exact ⟨hid, List.not_mem_nil⟩
  | cons id' ids ih =>
    obtain ⟨hloaded, hnot⟩ := ih _ hid
    have hbefore := isModuleActive_of_deactivateModule hloaded
    refine ⟨hbefore, fun hmem => (List.mem_cons.mp hmem).elim ?_ hnot⟩
    rintro rfl
    have hdeactivated := deactivated_of_loaded (I := I) hq hbefore
    exact ((isModuleActive_erase hdeactivated.loaded).mp hloaded).1 rfl

/-- Attempts to deactivate show no other user interface. -/
theorem activeUI_deactivateAll (hq : Quiet world) (ids : List String) (s : Host)
    (hid : (s.deactivateAll I world ids).manager.activeUIModuleID = some id) :
    s.manager.activeUIModuleID = some id := by
  induction ids generalizing s with
  | nil => exact hid
  | cons id' ids ih =>
    have hone : (s.deactivateModule I world id').host.manager.activeUIModuleID = some id := ih _ hid
    cases hloaded : s.isModuleActive id' with
    | false => rwa [deactivateModule_of_not_loaded hloaded] at hone
    | true =>
      rw [(deactivated_of_loaded (I := I) hq hloaded).active] at hone
      split_ifs at hone
      exact hone

/-- After a shutdown nothing is enabled. -/
theorem shutdown_disables (hq : Quiet world) (h : Settled I s) :
    (s.shutdown I world).manager.enabledServiceModuleIDs = OrdSet.empty ∧
    (s.shutdown I world).manager.enabledUIModuleIDs = OrdSet.empty ∧
    (s.shutdown I world).manager.activeUIModuleID = none := by
  have hclosed := closed_settled I hq
  have hafter : Settled I (s.shutdown I world) := hclosed.deactivateAll (hclosed.deactivateAll h _) _
  have hloaded : ∀ id, (s.shutdown I world).isModuleActive id = true → s.isModuleActive id = true ∧
      id ∉ s.manager.enabledServiceModuleIDs ∧ id ∉ s.manager.enabledUIModuleIDs := by
    intro id hid
    obtain ⟨hservices, hnotUI⟩ := deactivateAll_quiet hq _ _ hid
    obtain ⟨hbefore, hnotService⟩ := deactivateAll_quiet hq _ _ hservices
    rw [OrdSet.mem_toList] at hnotUI hnotService
    exact ⟨hbefore, hnotService, hnotUI⟩
  have hactive : (s.shutdown I world).manager.activeUIModuleID = none := by
    rw [Option.eq_none_iff_forall_ne_some]
    intro id hid
    have hbefore := activeUI_deactivateAll hq _ _ (activeUI_deactivateAll hq _ _ hid)
    exact (hloaded id (hafter.activeLoaded id hid)).2.2 ((h.tracked.enabledUI id).mpr hbefore)
  refine ⟨OrdSet.ext_mem fun id => iff_of_false (fun hid => ?_) (OrdSet.notMem_empty id),
    OrdSet.ext_mem fun id => iff_of_false (fun hid => ?_) (OrdSet.notMem_empty id), hactive⟩
  · obtain ⟨hbefore, hnotService, -⟩ := hloaded id (hafter.servicesLoaded id hid)
    exact hnotService (h.tracked.loadedService id hbefore (hafter.tracked.services id hid))
  · rw [hafter.tracked.enabledUI id, hactive] at hid
    cases hid

/-- A module that runs has been called. -/
theorem calls_ne_nil_of_running (h : running s.calls id = true) : s.calls ≠ [] := by
  intro hnil
  rw [hnil] at h
  cases h

/-- Calls are never forgotten. -/
theorem calls_ne_nil_deactivateAll (ids : List String) (hcalls : s.calls ≠ []) :
    (s.deactivateAll I world ids).calls ≠ [] := by
  obtain ⟨call, hcall⟩ := List.exists_mem_of_ne_nil _ hcalls
  have hcontinues : Continues (fun _ => False) s (s.deactivateAll I world ids) :=
    Continues.foldl (fun s id => continues_deactivateModule _ s id) ids s
  exact List.ne_nil_of_mem (hcontinues.calls call hcall)

end Processes

/-- **A process that dies is brought back.**  In quiet worlds, after any run of a process that has
called a module, the next process boots with the file that is left and runs exactly the modules
that ran and are still unlocked. -/
theorem restart_restores (I : Installation) (world world' : ℕ → Reactions) (hquiet : Quiet world)
    (hquiet' : Quiet world') (defaultState : Entitlements.EntitlementStateDocument)
    (activationFile : ActivationFile) (entitlementsFile entitlementsFile' : StateFile)
    (io io' : FileReactions) (started booted : Application)
    (hstart : (freshApplication activationFile entitlementsFile).start I world defaultState io =
      some started) (operations : List Operation)
    (hcalled : ((lifecycle I world defaultState started).run started operations).host.calls ≠ [])
    (hboot : (freshApplication
      ((lifecycle I world defaultState started).run started operations).host.file
      entitlementsFile').boot I world' defaultState io' = some booted) (id : String) :
    running booted.host.calls id = true ↔
      running ((lifecycle I world defaultState started).run started operations).host.calls id =
        true ∧ booted.host.isEntitled id (I.iapProductID id) = true := by
  have hclosed := closed_settled I hquiet
  have hsettled := hclosed.kept.run (hclosed.start settled_fresh hstart) defaultState started
    operations
  exact boot_settled hquiet' hsettled hcalled hboot id

theorem restart_restores_export : ∃ started booted,
    (freshApplication .absent (.document exportEntitlements)).start exportInstallation
      (fun _ => {}) {} {} = some started ∧
    (freshApplication started.host.file (.document exportEntitlements)).boot exportInstallation
      (fun _ => {}) {} {} = some booted ∧
    (running booted.host.calls "com.mastercontrol.export" = true ↔
      running started.host.calls "com.mastercontrol.export" = true ∧
        booted.host.isEntitled "com.mastercontrol.export"
          (exportInstallation.iapProductID "com.mastercontrol.export") = true) := by
  obtain ⟨started, hstart, -, hrunning⟩ := exists_start_export
  have hcalled := calls_ne_nil_of_running hrunning
  have hsettled := (closed_settled exportInstallation quiet_default).start settled_fresh hstart
  obtain ⟨booted, hboot, -⟩ := exists_boot exportInstallation (fun _ => {}) {} exportEntitlements
    started.host.file _ (hsettled.mirrored hcalled)
  exact ⟨started, booted, hstart, hboot, restart_restores _ _ _ quiet_default quiet_default _ _ _ _
    _ _ started booted hstart [] hcalled hboot _⟩

end Modules
end MasterControl
