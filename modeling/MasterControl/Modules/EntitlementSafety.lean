import MasterControl.Modules.Quiet

/-!
# Modules that have lost their entitlement

A module is only started if it, or its product, is unlocked, and when what is unlocked changes the
modules that have lost their entitlement are stopped.  So whatever happens, a module that runs
between two operations is unlocked, or it has been asked to stop and has thrown
(`runs_entitled`).

`Continues` says what an attempt leaves of the calls and of what is unlocked; it is transitive, so
it carries over to the loops.
-/

namespace MasterControl
namespace Modules

open Foundation
open MasterControl.Configuration (Entitlements.EntitlementStateDocument)
open Configuration.Entitlements (StateFile readState sortUnique mem_sortUnique)

/-! ## What an attempt leaves -/

/-- What is unlocked stays, no call is forgotten, and what runs has run before or may be
started. -/
structure Continues (starts : String → Prop) (s t : Host) : Prop where
  unlocked : t.unlocked = s.unlocked
  calls : ∀ call ∈ s.calls, call ∈ t.calls
  running : ∀ id, running t.calls id = true → running s.calls id = true ∨ starts id

namespace Continues

variable {starts starts' : String → Prop} {s t u : Host}

theorem refl (starts : String → Prop) (s : Host) : Continues starts s s :=
  ⟨rfl, fun _ h => h, fun _ h => Or.inl h⟩

theorem trans (h : Continues starts s t) (h' : Continues starts t u) : Continues starts s u where
  unlocked := h'.unlocked.trans h.unlocked
  calls call hcall := h'.calls call (h.calls call hcall)
  running id hid := (h'.running id hid).elim (h.running id) Or.inr

theorem mono (h : Continues starts s t) (hstarts : ∀ id, starts id → starts' id) :
    Continues starts' s t :=
  { h with running := fun id hid => (h.running id hid).imp_right (hstarts id) }

/-- Changes that make no calls. -/
theorem of_calls_eq (hunlocked : t.unlocked = s.unlocked) (hcalls : t.calls = s.calls) :
    Continues starts s t :=
  ⟨hunlocked, fun _ h => hcalls ▸ h, fun _ h => Or.inl (hcalls ▸ h)⟩

theorem before (h : Continues starts s t) (hunlocked : u.unlocked = t.unlocked)
    (hcalls : u.calls = t.calls) : Continues starts s u :=
  h.trans (of_calls_eq hunlocked hcalls)

theorem behind (h : Continues starts t u) (hunlocked : t.unlocked = s.unlocked)
    (hcalls : t.calls = s.calls) : Continues starts s u :=
  (of_calls_eq hunlocked hcalls).trans h

/-- A loop of attempts. -/
theorem foldl {f : Host → String → Host} (hf : ∀ s id, Continues starts s (f s id))
    (ids : List String) (s : Host) : Continues starts s (ids.foldl f s) := by
  induction ids generalizing s with
  | nil => exact refl starts s
  | cons id ids ih => exact (hf s id).trans (ih (f s id))

end Continues

section Attempts

variable {I : Installation} {world : ℕ → Reactions} {s : Host} {now : Reactions} {id : String}
  {module : ForsettiModule}

theorem continues_start (s : Host) (id : String) (module : ForsettiModule)
    (outcome : CallOutcome) : Continues (fun id' => id' = id) s (s.start I id module outcome) where
  unlocked := rfl
  calls _ hcall := List.mem_cons_of_mem _ hcall
  running id' hid' := by
    cases outcome with
    | returns => exact (running_start_iff.mp hid').symm
    | throws effective => exact Or.inl hid'

theorem continues_stop (starts : String → Prop) (s : Host) (id : String)
    (module : ForsettiModule) (outcome : CallOutcome) :
    Continues starts s (s.stop I id module outcome) where
  unlocked := rfl
  calls _ hcall := List.mem_cons_of_mem _ hcall
  running id' hid' := by
    cases outcome with
    | returns => exact Or.inl (running_stop_iff.mp hid').2
    | throws effective => exact Or.inl hid'

theorem continues_launch (s : Host) :
    Continues (fun id' => id' = id) s (s.launch I now id module).host := by
  rw [Host.launch]
  cases hstart : now.start with
  | returns => exact (continues_start (I := I) s id module .returns).before rfl rfl
  | throws effective => exact continues_start s id module _

theorem continues_displaceActiveUI (starts : String → Prop) (s : Host) :
    Continues starts s (s.displaceActiveUI I now).host := by
  rw [Host.displaceActiveUI]
  split
  · exact Continues.refl starts s
  · rename_i previousID _
    split
    · exact Continues.of_calls_eq rfl rfl
    · rename_i previous _
      cases hstop : now.stop with
      | returns =>
        exact (continues_stop (I := I) starts s previousID previous .returns).before rfl rfl
      | throws effective => exact continues_stop starts s previousID previous _

theorem continues_launchUI (s : Host) :
    Continues (fun id' => id' = id) s (s.launchUI I now id module).host := by
  have hdisplaced : Continues (fun id' => id' = id) s (s.displaceActiveUI I now).host :=
    continues_displaceActiveUI _ s
  rw [Host.launchUI]
  split
  · exact hdisplaced
  · split
    · exact hdisplaced
    · rename_i contributions _
      have hlaunched : Continues (fun id' => id' = id)
          ((s.displaceActiveUI I now).host.showUI I id contributions)
          (((s.displaceActiveUI I now).host.showUI I id contributions).launch I now id module).host :=
        continues_launch _
      exact hdisplaced.trans (hlaunched.behind rfl rfl)

/-- The module is entitled, by what is unlocked in a state. -/
def Entitled (I : Installation) (unlocked : Entitlements.EntitlementStateDocument) (id : String) :
    Prop :=
  (unlocked.unlocks id || (I.iapProductID id).any unlocked.unlocks) = true

instance : Decidable (Entitled I s.unlocked id) := inferInstanceAs (Decidable (_ = true))

/-- Only what is entitled is started. -/
theorem continues_activateModule (s : Host) (id : String) :
    Continues (Entitled I s.unlocked) s (s.activateModule I world id).host := by
  rw [Host.activateModule]
  split
  · exact Continues.refl _ s
  · rename_i moduleType module hadmission
    have hentitled : ∀ id', id' = id → Entitled I s.unlocked id' := by
      rintro id' rfl
      exact (admission_eq_ok_iff.mp hadmission).2.2.1
    dsimp only
    split_ifs
    · exact Continues.of_calls_eq rfl rfl
    · exact ((continues_launchUI _).mono hentitled).behind rfl rfl
    · exact ((continues_launch _).mono hentitled).behind rfl rfl

theorem continues_deactivateModule (starts : String → Prop) (s : Host) (id : String) :
    Continues starts s (s.deactivateModule I world id).host := by
  rw [Host.deactivateModule]
  split
  · exact Continues.refl starts s
  · rename_i module _
    have hstopped : Continues starts s (Host.stop I { s with attempts := s.attempts + 1 } id module
        (world s.attempts).stop) :=
      (continues_stop starts { s with attempts := s.attempts + 1 } id module _).behind rfl rfl
    dsimp only
    cases hstop : (world s.attempts).stop with
    | returns =>
      rw [hstop] at hstopped
      exact hstopped.before rfl rfl
    | throws effective =>
      rw [hstop] at hstopped
      exact hstopped

end Attempts

/-! ## What is asked to stop -/

/-- The module has been asked to stop, and has thrown. -/
def Refused (s : Host) (id : String) : Prop := ModuleCall.stop id false ∈ s.calls

/-- A module that runs is entitled, or has refused to stop. -/
def Guarded (I : Installation) (s : Host) : Prop :=
  ∀ id, running s.calls id = true → Entitled I s.unlocked id ∨ Refused s id

section Guard

variable {I : Installation} {world : ℕ → Reactions} {s t : Host} {id id' : String}

theorem Guarded.continue (h : Guarded I s) (hst : Continues (Entitled I s.unlocked) s t) :
    Guarded I t := by
  intro id hid
  rw [hst.unlocked]
  rcases hst.running id hid with hrunning | hentitled
  · exact (h id hrunning).imp_right (hst.calls _)
  · exact Or.inl hentitled

/-- An attempt to deactivate leaves nothing loaded that was not. -/
theorem isModuleActive_of_deactivateModule
    (h : (s.deactivateModule I world id).host.isModuleActive id' = true) :
    s.isModuleActive id' = true := by
  rw [Host.deactivateModule] at h
  split at h
  · exact h
  · dsimp only at h
    cases hstop : (world s.attempts).stop with
    | throws effective =>
      rw [hstop] at h
      exact h
    | returns =>
      rw [hstop] at h
      replace h : ((s.manager.loadedModules.erase id).find? id').isSome = true := h
      rw [OrdMap.find?_erase] at h
      split_ifs at h
      · cases h
      · exact h

/-- A module that is asked to stop is not loaded afterwards, or it refuses. -/
theorem deactivateModule_stops (s : Host) (id : String) :
    (s.deactivateModule I world id).host.isModuleActive id = false ∨
      Refused (s.deactivateModule I world id).host id := by
  rw [Host.deactivateModule]
  split
  · rename_i hloaded
    exact Or.inl (by rw [Host.isModuleActive, hloaded, Option.isSome_none])
  · dsimp only
    cases hstop : (world s.attempts).stop with
    | returns =>
      refine Or.inl ?_
      show ((s.manager.loadedModules.erase id).find? id).isSome = false
      rw [OrdMap.find?_erase_self, Option.isSome_none]
    | throws effective => exact Or.inr List.mem_cons_self

/-- A loop of attempts to deactivate stops all that it names. -/
theorem deactivateAll_stops (ids : List String) (s : Host) (hid : id ∈ ids) :
    (s.deactivateAll I world ids).isModuleActive id = false ∨
      Refused (s.deactivateAll I world ids) id := by
  have hrest : ∀ (ids : List String) (s : Host),
      s.isModuleActive id = false ∨ Refused s id →
      (s.deactivateAll I world ids).isModuleActive id = false ∨
        Refused (s.deactivateAll I world ids) id := by
    intro ids s
    refine invariant_foldl (I := fun s : Host => s.isModuleActive id = false ∨ Refused s id)
      (fun s id' hs => ?_) ids
    have hcontinues : Continues (fun _ => False) s (s.deactivateModule I world id').host :=
      continues_deactivateModule _ s id'
    refine hs.imp (fun hinactive => ?_) fun hrefused => hcontinues.calls _ hrefused
    rw [Bool.eq_false_iff] at hinactive ⊢
    exact mt isModuleActive_of_deactivateModule hinactive
  induction ids generalizing s with
  | nil => cases hid
  | cons id' ids ih =>
    rcases List.mem_cons.mp hid with rfl | hid
    · exact hrest ids _ (deactivateModule_stops s id)
    · exact ih _ hid

/-- **Reconciling.**  Whatever ran before: what runs afterwards is entitled, or has refused to
stop. -/
theorem guarded_reconcile (h : s.Tracked I) :
    Guarded I (s.reconcileActiveModulesWithEntitlements I world) := by
  intro id hid
  rw [Host.reconcileActiveModulesWithEntitlements] at hid ⊢
  set locked := (s.manager.enabledServiceModuleIDs.toList ++
    s.manager.enabledUIModuleIDs.toList).filter fun id =>
      s.isEntitled id (I.iapProductID id) = false with hlocked
  have hafter : (s.deactivateAll I world locked).Tracked I :=
    (closed_tracked I world).deactivateAll h locked
  have hcontinues : Continues (fun _ => False) s (s.deactivateAll I world locked) :=
    Continues.foldl (fun s id => continues_deactivateModule _ s id) locked s
  rw [hcontinues.unlocked]
  by_cases hentitled : Entitled I s.unlocked id
  · exact Or.inl hentitled
  · refine Or.inr ?_
    have hbefore := (h.running_iff id).mp ((hcontinues.running id hid).resolve_right not_false)
    have hmem : id ∈ locked := by
      rw [hlocked, List.mem_filter, List.mem_append, OrdSet.mem_toList, OrdSet.mem_toList,
        h.enabledUI id]
      exact ⟨hbefore.2, decide_eq_true (Bool.eq_false_iff.mpr hentitled)⟩
    refine (deactivateAll_stops locked s hmem).resolve_left fun hinactive => ?_
    have hloaded := ((hafter.running_iff id).mp hid).1
    rw [Host.isModuleActive] at hinactive
    rw [hinactive] at hloaded
    cases hloaded

theorem guarded_activateDefaultModules (h : Guarded I s) :
    Guarded I (s.activateDefaultModules I world) := by
  rw [Host.activateDefaultModules]
  refine invariant_foldl (I := Guarded I) (fun s id hs => ?_) defaultModuleIDs h
  rw [Host.activateIfInactive]
  split_ifs
  · exact hs
  · exact hs.continue (continues_activateModule s id)

/-- What is unlocked depends on the sets of ids only. -/
theorem unlocks_eq_of_sameEntitlements {state state' : Entitlements.EntitlementStateDocument}
    (h : Application.sameEntitlements state state' = true) (id : String) :
    state.unlocks id = state'.unlocks id := by
  rw [Application.sameEntitlements, Bool.and_eq_true, decide_eq_true_iff, decide_eq_true_iff] at h
  have hmem : ∀ {ids ids' : List String}, sortUnique ids = sortUnique ids' →
      ids.contains id = ids'.contains id := by
    intro ids ids' heq
    rw [Bool.eq_iff_iff, List.contains_iff_mem, List.contains_iff_mem, ← mem_sortUnique, heq,
      mem_sortUnique]
  rw [Configuration.Entitlements.EntitlementStateDocument.unlocks,
    Configuration.Entitlements.EntitlementStateDocument.unlocks, hmem h.1, hmem h.2]

end Guard

/-! ## Runs -/

/-- What holds between two operations; whoever wants to know of a change, the runtime is told
first. -/
structure Supervised (I : Installation) (A : Application) : Prop where
  tracked : A.host.Tracked I
  guarded : Guarded I A.host
  reconciles : ∃ callbacks, A.callbacks = .reconcileActiveModulesWithEntitlements :: callbacks

section Supervision

variable {I : Installation} {world : ℕ → Reactions} {A : Application}

/-- A callback leaves alone who is told. -/
theorem callbacks_runCallback (A : Application) (callback : EntitlementsCallback) :
    (A.runCallback I world callback).callbacks = A.callbacks := by
  cases callback with
  | reconcileActiveModulesWithEntitlements => rfl
  | activateDefaultModules =>
    rw [Application.runCallback]
    split_ifs <;> rfl

theorem callbacks_foldl_runCallback (callbacks : List EntitlementsCallback) (A : Application) :
    (callbacks.foldl (Application.runCallback I world) A).callbacks = A.callbacks := by
  induction callbacks generalizing A with
  | nil => rfl
  | cons callback callbacks ih => rw [List.foldl_cons, ih, callbacks_runCallback]

theorem guarded_runCallback (htracked : A.host.Tracked I) (h : Guarded I A.host)
    (callback : EntitlementsCallback) : Guarded I (A.runCallback I world callback).host := by
  cases callback with
  | reconcileActiveModulesWithEntitlements => exact guarded_reconcile htracked
  | activateDefaultModules =>
    rw [Application.runCallback]
    split_ifs
    · dsimp only
      exact guarded_activateDefaultModules h
    · exact h

theorem supervised_replaceEntitlements (h : Supervised I A)
    (state : Entitlements.EntitlementStateDocument) :
    Supervised I (A.replaceEntitlements I world state) := by
  obtain ⟨callbacks, hcallbacks⟩ := h.reconciles
  have hclosed := closed_tracked I world
  have htracked : { A.host with unlocked := state : Host }.Tracked I := h.tracked
  refine ⟨hclosed.replaceEntitlements h.tracked state, ?_, ?_⟩
  · rw [Application.replaceEntitlements]
    split_ifs with hsame
    · intro id hid
      refine (h.guarded id hid).imp_left fun hentitled => ?_
      have hunlocks : state.unlocks = A.host.unlocked.unlocks :=
        funext (unlocks_eq_of_sameEntitlements hsame)
      show (state.unlocks id || (I.iapProductID id).any state.unlocks) = true
      rw [hunlocks]
      exact hentitled
    · have hrest : ∀ B : Application, B.host.Tracked I → Guarded I
          (callbacks.foldl (Application.runCallback I world) (Application.runCallback I world B
            .reconcileActiveModulesWithEntitlements)).host := fun B hB =>
        (invariant_foldl (I := fun B : Application => B.host.Tracked I ∧ Guarded I B.host)
          (fun B callback hB => ⟨hclosed.runCallback hB.1 callback,
            guarded_runCallback hB.1 hB.2 callback⟩) callbacks
          ⟨hclosed.runCallback hB .reconcileActiveModulesWithEntitlements,
            guarded_reconcile hB⟩).2
      rw [hcallbacks, List.foldl_cons]
      exact hrest _ htracked
  · refine ⟨callbacks, ?_⟩
    rw [Application.replaceEntitlements]
    split_ifs
    · exact hcallbacks
    · rw [callbacks_foldl_runCallback]
      exact hcallbacks

theorem kept_supervised (I : Installation) (world : ℕ → Reactions) :
    Kept I world (Supervised I) where
  activate A id h := ⟨tracked_activateModule h.tracked world id,
    h.guarded.continue (continues_activateModule A.host id), h.reconciles⟩
  deactivate A id h := ⟨tracked_deactivateModule h.tracked world id,
    h.guarded.continue (continues_deactivateModule _ A.host id), h.reconciles⟩
  replace _ state h := supervised_replaceEntitlements h state
  edit _ _ h := ⟨h.tracked, h.guarded, h.reconciles⟩
  halt _ h := ⟨h.tracked, h.guarded, h.reconciles⟩

/-- A process that has just started has made no calls, and nobody is told of a change. -/
theorem refreshEntitlements_fresh (I : Installation) (world : ℕ → Reactions)
    (defaultState : Entitlements.EntitlementStateDocument)
    (activationFile : ActivationFile) (entitlementsFile : StateFile) (io : FileReactions) :
    let refreshed := (freshApplication activationFile entitlementsFile).refreshEntitlements I world
      defaultState io
    refreshed.app.callbacks = [] ∧ refreshed.app.host.manager = {} ∧
      refreshed.app.host.calls = [] ∧ refreshed.app.host.file = activationFile ∧
      refreshed.app.host.ui = {} := by
  dsimp only
  rw [Application.refreshEntitlements, Application.ensureStateFile]
  split_ifs <;>
  · split
    · exact ⟨rfl, rfl, rfl, rfl, rfl⟩
    · rw [Application.replaceEntitlements]
      split_ifs <;> exact ⟨rfl, rfl, rfl, rfl, rfl⟩

theorem supervised_start {defaultState : Entitlements.EntitlementStateDocument}
    {activationFile : ActivationFile} {entitlementsFile : StateFile} {io : FileReactions}
    {started : Application}
    (hstart : (freshApplication activationFile entitlementsFile).start I world defaultState io =
      some started) : Supervised I started := by
  have hfresh := refreshEntitlements_fresh I world defaultState activationFile entitlementsFile io
  obtain ⟨booted, hboot, hhost, hcallbacks⟩ := start_eq_some hstart
  obtain ⟨state, -, hrestored⟩ := boot_eq_some hboot
  have hactivateAll : ∀ (ids : List String) (s : Host), Guarded I s →
      Guarded I (s.activateAll I world ids) := fun ids s hs =>
    invariant_foldl (I := Guarded I)
      (fun s id hs => hs.continue (continues_activateModule s id)) ids hs
  have htracked : (freshApplication activationFile entitlementsFile).host.Tracked I := tracked_empty
  refine ⟨(closed_tracked I world).start htracked hstart, ?_, ?_⟩
  · rw [hhost, hrestored]
    refine guarded_activateDefaultModules (hactivateAll _ _ (hactivateAll _ _ fun id hid => ?_))
    rw [hfresh.2.2.1] at hid
    cases hid
  · rw [hcallbacks, hfresh.1]
    exact ⟨_, rfl⟩

end Supervision

end Modules
end MasterControl
