import MasterControl.Foundation.Runs
import MasterControl.Foundation.Trim
import MasterControl.Modules.ManagerInvariant

/-!
# The life of the modules

The application boots the runtime, which restores the persisted activation, and brings up the
default modules.  From then on modules are managed, entitlements are refreshed, after which
modules that have lost theirs are deactivated and the default modules are brought up again, and
in the end everything is shut down.

Each of these is a sequence of attempts to start or stop a module and of changes of what is
unlocked, so what these keep holds in every run (`Closed.kept`, `Kept.run`).  Hence, however modules
behave, the manager knows which modules run, and no two user interfaces run together
(`runs_tracked`).
-/

namespace MasterControl
namespace Modules

open Foundation
open MasterControl.Configuration (Entitlements.EntitlementStateDocument)
open Configuration.Entitlements (StateFile readState sortUnique)

/-! ## The application -/

/-- `activateDefaultModules`, in its order. -/
def defaultModuleIDs : List String :=
  ["com.mastercontrol.environment-discovery", "com.mastercontrol.host-telemetry",
    "com.mastercontrol.runtime-inventory", "com.mastercontrol.configuration",
    "com.mastercontrol.installer-import", "com.mastercontrol.export",
    "com.mastercontrol.lan-client-access", "com.mastercontrol.command-logic-unit",
    "com.mastercontrol.gateway-windows", "com.mastercontrol.gateway-macos",
    "com.mastercontrol.gateway-ios", "com.mastercontrol.governance-windows",
    "com.mastercontrol.governance-macos", "com.mastercontrol.governance-ios",
    "com.mastercontrol.beacon-gateway", "com.mastercontrol.dashboard-ui"]

def protectedForsettiModuleIds : List String :=
  ["com.mastercontrol.configuration", "com.mastercontrol.runtime-inventory",
    "com.mastercontrol.command-logic-unit", "com.mastercontrol.dashboard-ui"]

/-- Who is told that the entitlements have changed. -/
inductive EntitlementsCallback where
  | reconcileActiveModulesWithEntitlements
  | activateDefaultModules
  deriving DecidableEq

/-- What the file system does with the entitlements file in one look at it. -/
structure FileReactions where
  create : Configuration.Entitlements.SaveOutcome := .written
  readFails : Bool := false
  /-- The text of what reading a foreign file throws. -/
  what : String := ""

structure Application where
  host : Host := {}
  entitlementsFile : StateFile := .absent
  callbacks : List EntitlementsCallback := []
  isBooted : Bool := false

/-- A process that has just started, with the files it finds. -/
def freshApplication (activationFile : ActivationFile) (entitlementsFile : StateFile) :
    Application where
  host := { file := activationFile }
  entitlementsFile := entitlementsFile

namespace Host

variable (I : Installation) (world : ℕ → Reactions) (s : Host)

/-- Attempts to activate, whatever becomes of them. -/
def activateAll (ids : List String) : Host :=
  ids.foldl (fun s id => (s.activateModule I world id).host) s

def deactivateAll (ids : List String) : Host :=
  ids.foldl (fun s id => (s.deactivateModule I world id).host) s

def restorePersistedActivation (state : ActivationState) : Host :=
  (s.activateAll I world state.enabledServiceModuleIDs.toList).activateAll I world
    state.enabledUIModuleIDs.toList

def reconcileActiveModulesWithEntitlements : Host :=
  let activeModuleIDs :=
    s.manager.enabledServiceModuleIDs.toList ++ s.manager.enabledUIModuleIDs.toList
  s.deactivateAll I world
    (activeModuleIDs.filter fun id => s.isEntitled id (I.iapProductID id) = false)

def activateIfInactive (moduleID : String) : Host :=
  if s.isModuleActive moduleID then s else (s.activateModule I world moduleID).host

def activateEachInactive (ids : List String) : Host :=
  ids.foldl (fun s id => s.activateIfInactive I world id) s

def activateDefaultModules : Host := s.activateEachInactive I world defaultModuleIDs

def shutdown : Host :=
  let serviceIDs := s.manager.enabledServiceModuleIDs.toList
  let uiIDs := s.manager.enabledUIModuleIDs.toList
  (s.deactivateAll I world serviceIDs).deactivateAll I world uiIDs

end Host

namespace Application

variable (I : Installation) (world : ℕ → Reactions)
  (defaultState : Entitlements.EntitlementStateDocument) (A : Application)

def runCallback (A : Application) : EntitlementsCallback → Application
  | .reconcileActiveModulesWithEntitlements =>
    { A with host := A.host.reconcileActiveModulesWithEntitlements I world }
  | .activateDefaultModules =>
    if A.isBooted then { A with host := A.host.activateDefaultModules I world } else A

def ensureStateFile (create : Configuration.Entitlements.SaveOutcome) : Application :=
  if A.entitlementsFile = .absent then { A with entitlementsFile := create.save defaultState }
  else A

/-- Whether two states unlock the same ids, as sets. -/
def sameEntitlements (state state' : Entitlements.EntitlementStateDocument) : Bool :=
  sortUnique state.unlockedModuleIDs = sortUnique state'.unlockedModuleIDs &&
    sortUnique state.unlockedProductIDs = sortUnique state'.unlockedProductIDs

/-- The state is put in place, and who wants to know of a change is told. -/
def replaceEntitlements (state : Entitlements.EntitlementStateDocument) : Application :=
  let replaced := { A with host := { A.host with unlocked := state } }
  if sameEntitlements state A.host.unlocked then replaced
  else A.callbacks.foldl (runCallback I world) replaced

/-- An application, and the text of an exception that a call has thrown. -/
structure Called where
  threw : Option String
  app : Application

def refreshEntitlements (io : FileReactions) : Called :=
  let A := A.ensureStateFile defaultState io.create
  match readState defaultState io.readFails A.entitlementsFile with
  | none => ⟨some io.what, A⟩
  | some state => ⟨none, A.replaceEntitlements I world state⟩

def setModuleUnlocked (moduleId : String) (unlocked : Bool) (io io' : FileReactions)
    (save : Configuration.Entitlements.SaveOutcome) : Called :=
  let A := A.ensureStateFile defaultState io.create
  match readState defaultState io.readFails A.entitlementsFile with
  | none => ⟨some io.what, A⟩
  | some state =>
    { A with entitlementsFile := save.save (state.withModule moduleId unlocked) }.refreshEntitlements
      I world defaultState io'

/-- `boot`; `none` is an exception. -/
def boot (io : FileReactions) : Option Application :=
  let refreshed := A.refreshEntitlements I world defaultState io
  if refreshed.threw.isSome then none
  else
    refreshed.app.host.file.loadState.map fun state =>
      { refreshed.app with
        host := refreshed.app.host.restorePersistedActivation I world state
        callbacks := refreshed.app.callbacks ++ [.reconcileActiveModulesWithEntitlements]
        isBooted := true }

/-- The runtime is booted, and the default modules are brought up, now and after every change of
the entitlements. -/
def start (io : FileReactions) : Option Application :=
  (A.boot I world defaultState io).map fun A =>
    { A with
      host := A.host.activateDefaultModules I world
      callbacks := A.callbacks ++ [.activateDefaultModules] }

def shutdown : Application :=
  { A with host := A.host.shutdown I world, isBooted := false }

/-! ## Managing a module -/

/-- `what()`. -/
def what : ModuleFailure → String
  | .manager _ message => message
  | .entryPointNotFound message => message
  | .module what => what

/-- Succeeded or not, and the message. -/
structure ManageResult where
  succeeded : Bool
  message : String
  app : Application

def withAttempt (attempt : Attempt) (message : String) : ManageResult :=
  let app := { A with host := attempt.host }
  match attempt.result with
  | .ok () => ⟨true, message, app⟩
  | .error failure => ⟨false, what failure, app⟩

def trimCopy (text : String) : String := String.ofList (trim isSpaceChar text.toList)

section Manage

variable (moduleId : String) (io io' : FileReactions)
  (save : Configuration.Entitlements.SaveOutcome)

/-- The actions `install` and `enable`. -/
def enableModule : ManageResult :=
  let unlocked := A.setModuleUnlocked I world defaultState moduleId true io io' save
  match unlocked.threw with
  | some what => ⟨false, what, unlocked.app⟩
  | none =>
    if unlocked.app.host.isModuleActive moduleId then
      ⟨true, "Forsetti module is now installed and active.", unlocked.app⟩
    else
      unlocked.app.withAttempt (unlocked.app.host.activateModule I world moduleId)
        "Forsetti module is now installed and active."

/-- Deactivated, if it is active; a failure has the message of the exception. -/
def deactivateIfActive : ManageResult :=
  if A.host.isModuleActive moduleId then
    A.withAttempt (A.host.deactivateModule I world moduleId) ""
  else ⟨true, "", A⟩

/-- The actions `update` and `reload`. -/
def reloadModule : ManageResult :=
  let unlocked := A.setModuleUnlocked I world defaultState moduleId true io io' save
  match unlocked.threw with
  | some what => ⟨false, what, unlocked.app⟩
  | none =>
    let stopped := unlocked.app.deactivateIfActive I world moduleId
    if stopped.succeeded then
      stopped.app.withAttempt (stopped.app.host.activateModule I world moduleId)
        "Forsetti module was refreshed in the live runtime."
    else stopped

/-- The actions `disable` and `remove`. -/
def disableModule : ManageResult :=
  let stopped := A.deactivateIfActive I world moduleId
  if stopped.succeeded then
    let locked := stopped.app.setModuleUnlocked I world defaultState moduleId false io io' save
    match locked.threw with
    | some what => ⟨false, what, locked.app⟩
    | none => ⟨true, "Forsetti module was disabled and removed from the unlocked set.", locked.app⟩
  else stopped

def manageForsettiModule (action : String) : ManageResult :=
  let normalizedAction := trimCopy action
  if moduleId = "" then ⟨false, "Select a Forsetti module before applying an action.", A⟩
  else if (I.manifestsByID.find? moduleId).isNone then
    ⟨false, "The selected Forsetti module was not found.", A⟩
  else if normalizedAction = "" then
    ⟨false, "Select a Forsetti module action before continuing.", A⟩
  else if normalizedAction ∈ ["disable", "remove"] ∧ moduleId ∈ protectedForsettiModuleIds then
    ⟨false, "Core orchestration modules cannot be disabled from the guided module wizard.", A⟩
  else if normalizedAction ∈ ["install", "enable"] then
    A.enableModule I world defaultState moduleId io io' save
  else if normalizedAction ∈ ["update", "reload"] then
    A.reloadModule I world defaultState moduleId io io' save
  else if normalizedAction ∈ ["disable", "remove"] then
    A.disableModule I world defaultState moduleId io io' save
  else ⟨false, "Unknown Forsetti module action.", A⟩

end Manage

end Application

/-! ## Runs -/

/-- What happens to the application once it has started.  The attempts to start or stop single
modules are those of other threads. -/
inductive Operation where
  | activateModule (moduleID : String)
  | deactivateModule (moduleID : String)
  | refreshEntitlements (io : FileReactions)
  | editEntitlements (content : StateFile)
  | manageForsettiModule (moduleId action : String) (io io' : FileReactions)
      (save : Configuration.Entitlements.SaveOutcome)
  | shutdown

def Application.step (I : Installation) (world : ℕ → Reactions)
    (defaultState : Entitlements.EntitlementStateDocument) (A : Application) :
    Operation → Application
  | .activateModule moduleID => { A with host := (A.host.activateModule I world moduleID).host }
  | .deactivateModule moduleID =>
    { A with host := (A.host.deactivateModule I world moduleID).host }
  | .refreshEntitlements io => (A.refreshEntitlements I world defaultState io).app
  | .editEntitlements content => { A with entitlementsFile := content }
  | .manageForsettiModule moduleId action io io' save =>
    (A.manageForsettiModule I world defaultState moduleId io io' save action).app
  | .shutdown => A.shutdown I world

/-- The runs from an application that has started. -/
def lifecycle (I : Installation) (world : ℕ → Reactions)
    (defaultState : Entitlements.EntitlementStateDocument) (started : Application) :
    TransitionSystem Application Operation where
  init := started
  step := Application.step I world defaultState

/-! ## What attempts keep -/

/-- A property of a host that no attempt and no change of what is unlocked takes away. -/
structure Closed (I : Installation) (world : ℕ → Reactions) (P : Host → Prop) : Prop where
  activate : ∀ s id, P s → P (s.activateModule I world id).host
  deactivate : ∀ s id, P s → P (s.deactivateModule I world id).host
  replace : ∀ s state, P s → P { s with unlocked := state }

namespace Closed

variable {I : Installation} {world : ℕ → Reactions} {P : Host → Prop} {s : Host}
  {A : Application} {defaultState : Entitlements.EntitlementStateDocument}

theorem activateAll (h : Closed I world P) (hs : P s) (ids : List String) :
    P (s.activateAll I world ids) :=
  invariant_foldl (fun s id hs => h.activate s id hs) ids hs

theorem deactivateAll (h : Closed I world P) (hs : P s) (ids : List String) :
    P (s.deactivateAll I world ids) :=
  invariant_foldl (fun s id hs => h.deactivate s id hs) ids hs

theorem restore (h : Closed I world P) (hs : P s) (state : ActivationState) :
    P (s.restorePersistedActivation I world state) :=
  h.activateAll (h.activateAll hs _) _

theorem reconcile (h : Closed I world P) (hs : P s) :
    P (s.reconcileActiveModulesWithEntitlements I world) :=
  h.deactivateAll hs _

theorem activateEachInactive (h : Closed I world P) (hs : P s) (ids : List String) :
    P (s.activateEachInactive I world ids) := by
  refine invariant_foldl (I := P) (fun s id hs => ?_) ids hs
  rw [Host.activateIfInactive]
  split_ifs
  · exact hs
  · exact h.activate s id hs

theorem activateDefaultModules (h : Closed I world P) (hs : P s) :
    P (s.activateDefaultModules I world) := by
  rw [Host.activateDefaultModules]
  exact h.activateEachInactive hs defaultModuleIDs

theorem runCallback (h : Closed I world P) (hA : P A.host) (callback : EntitlementsCallback) :
    P (A.runCallback I world callback).host := by
  cases callback with
  | reconcileActiveModulesWithEntitlements => exact h.reconcile hA
  | activateDefaultModules =>
    rw [Application.runCallback]
    split_ifs
    · dsimp only
      exact h.activateDefaultModules hA
    · exact hA

theorem replaceEntitlements (h : Closed I world P) (hA : P A.host)
    (state : Entitlements.EntitlementStateDocument) :
    P (A.replaceEntitlements I world state).host := by
  have hreplaced := h.replace A.host state hA
  rw [Application.replaceEntitlements]
  split_ifs
  · exact hreplaced
  · exact invariant_foldl (I := fun A : Application => P A.host)
      (fun A callback hA => h.runCallback hA callback) _ hreplaced

end Closed

/-! ## What operations keep -/

/-- A property of the application that survives what operations consist of. -/
structure Kept (I : Installation) (world : ℕ → Reactions) (P : Application → Prop) : Prop where
  activate : ∀ A id, P A → P { A with host := (A.host.activateModule I world id).host }
  deactivate : ∀ A id, P A → P { A with host := (A.host.deactivateModule I world id).host }
  replace : ∀ A state, P A → P (A.replaceEntitlements I world state)
  edit : ∀ A content, P A → P { A with entitlementsFile := content }
  halt : ∀ A, P A → P { A with isBooted := false }

/-- What attempts keep, operations keep. -/
theorem Closed.kept {I : Installation} {world : ℕ → Reactions} {P : Host → Prop}
    (h : Closed I world P) : Kept I world fun A => P A.host where
  activate A id hA := h.activate A.host id hA
  deactivate A id hA := h.deactivate A.host id hA
  replace _ state hA := h.replaceEntitlements hA state
  edit _ _ hA := hA
  halt _ hA := hA

namespace Kept

variable {I : Installation} {world : ℕ → Reactions} {P : Application → Prop}
  {A : Application} {defaultState : Entitlements.EntitlementStateDocument}

theorem ensureStateFile (h : Kept I world P) (hA : P A)
    (create : Configuration.Entitlements.SaveOutcome) :
    P (A.ensureStateFile defaultState create) := by
  rw [Application.ensureStateFile]
  split_ifs
  · exact h.edit A _ hA
  · exact hA

theorem refreshEntitlements (h : Kept I world P) (hA : P A) (io : FileReactions) :
    P (A.refreshEntitlements I world defaultState io).app := by
  rw [Application.refreshEntitlements]
  cases readState defaultState io.readFails
      (A.ensureStateFile defaultState io.create).entitlementsFile with
  | none => exact h.ensureStateFile hA io.create
  | some state => exact h.replace _ state (h.ensureStateFile hA io.create)

theorem setModuleUnlocked (h : Kept I world P) (hA : P A)
    (defaultState : Entitlements.EntitlementStateDocument) (moduleId : String) (unlocked : Bool) (io io' : FileReactions)
    (save : Configuration.Entitlements.SaveOutcome) :
    P (A.setModuleUnlocked I world defaultState moduleId unlocked io io' save).app := by
  rw [Application.setModuleUnlocked]
  cases readState defaultState io.readFails
      (A.ensureStateFile defaultState io.create).entitlementsFile with
  | none => exact h.ensureStateFile hA io.create
  | some state => exact h.refreshEntitlements (h.edit _ _ (h.ensureStateFile hA io.create)) io'

theorem withAttempt {attempt : Attempt} (hattempt : P { A with host := attempt.host })
    (message : String) : P (A.withAttempt attempt message).app := by
  rw [Application.withAttempt]
  cases attempt.result <;> exact hattempt

theorem deactivateIfActive (h : Kept I world P) (hA : P A) (moduleId : String) :
    P (A.deactivateIfActive I world moduleId).app := by
  rw [Application.deactivateIfActive]
  split_ifs
  · exact withAttempt (h.deactivate A moduleId hA) _
  · exact hA

section Manage

variable (moduleId : String) (io io' : FileReactions)
  (save : Configuration.Entitlements.SaveOutcome)

theorem enableModule (h : Kept I world P) (hA : P A) :
    P (A.enableModule I world defaultState moduleId io io' save).app := by
  have hunlocked := h.setModuleUnlocked hA defaultState moduleId true io io' save
  rw [Application.enableModule]
  split
  · exact hunlocked
  · split_ifs
    · exact hunlocked
    · exact withAttempt (h.activate _ _ hunlocked) _

theorem reloadModule (h : Kept I world P) (hA : P A) :
    P (A.reloadModule I world defaultState moduleId io io' save).app := by
  have hunlocked := h.setModuleUnlocked hA defaultState moduleId true io io' save
  have hstopped := h.deactivateIfActive hunlocked moduleId
  rw [Application.reloadModule]
  dsimp only
  split
  · exact hunlocked
  · split_ifs
    · exact withAttempt (h.activate _ _ hstopped) _
    · exact hstopped

theorem disableModule (h : Kept I world P) (hA : P A) :
    P (A.disableModule I world defaultState moduleId io io' save).app := by
  have hstopped := h.deactivateIfActive hA moduleId
  have hlocked := h.setModuleUnlocked hstopped defaultState moduleId false io io'
    save
  rw [Application.disableModule]
  split_ifs
  · dsimp only
    split
    · exact hlocked
    · exact hlocked
  · exact hstopped

theorem manageForsettiModule (h : Kept I world P) (hA : P A) (action : String) :
    P (A.manageForsettiModule I world defaultState moduleId io io' save action).app := by
  rw [Application.manageForsettiModule]
  split_ifs
  · exact hA
  · exact hA
  · exact hA
  · exact hA
  · exact h.enableModule moduleId io io' save hA
  · exact h.reloadModule moduleId io io' save hA
  · exact h.disableModule moduleId io io' save hA
  · exact hA

end Manage

theorem deactivateAll (h : Kept I world P) (hA : P A) (ids : List String) :
    P { A with host := A.host.deactivateAll I world ids } :=
  invariant_foldl (I := fun s : Host => P { A with host := s })
    (fun s id hs => h.deactivate { A with host := s } id hs) ids hA

/-- One step of the application. -/
theorem step (h : Kept I world P) (hA : P A) (operation : Operation) :
    P (A.step I world defaultState operation) := by
  cases operation with
  | activateModule moduleID => exact h.activate A moduleID hA
  | deactivateModule moduleID => exact h.deactivate A moduleID hA
  | refreshEntitlements io => exact h.refreshEntitlements hA io
  | editEntitlements content => exact h.edit A content hA
  | manageForsettiModule moduleId action io io' save =>
    exact h.manageForsettiModule moduleId io io' save hA action
  | shutdown =>
    exact h.halt _ (h.deactivateAll (A := { A with host := A.host.deactivateAll I world _ })
      (h.deactivateAll hA _) _)

/-- A run of the application. -/
theorem run (h : Kept I world P) (hA : P A)
    (defaultState : Entitlements.EntitlementStateDocument) (started : Application)
    (operations : List Operation) :
    P ((lifecycle I world defaultState started).run A operations) :=
  TransitionSystem.run_invariant (I := P) (fun _ operation hA => h.step hA operation) hA operations

end Kept

/-- The runtime boots: a first look at the entitlements, and the persisted activation. -/
theorem boot_eq_some {I : Installation} {world : ℕ → Reactions} {A booted : Application}
    {defaultState : Entitlements.EntitlementStateDocument} {io : FileReactions}
    (hboot : A.boot I world defaultState io = some booted) :
    ∃ state, (A.refreshEntitlements I world defaultState io).app.host.file.loadState = some state ∧
      booted.host = (A.refreshEntitlements I world defaultState io).app.host.restorePersistedActivation
        I world state := by
  rw [Application.boot] at hboot
  dsimp only at hboot
  split_ifs at hboot
  obtain ⟨state, hstate, rfl⟩ := Option.map_eq_some_iff.mp hboot
  exact ⟨state, hstate, rfl⟩

/-- The application starts: the runtime boots, and the default modules are brought up. -/
theorem start_eq_some {I : Installation} {world : ℕ → Reactions} {A started : Application}
    {defaultState : Entitlements.EntitlementStateDocument} {io : FileReactions}
    (hstart : A.start I world defaultState io = some started) :
    ∃ booted, A.boot I world defaultState io = some booted ∧
      started.host = booted.host.activateDefaultModules I world ∧
      started.callbacks = (A.refreshEntitlements I world defaultState io).app.callbacks ++
        [.reconcileActiveModulesWithEntitlements] ++ [.activateDefaultModules] := by
  obtain ⟨booted, hboot, rfl⟩ := Option.map_eq_some_iff.mp hstart
  refine ⟨booted, hboot, ?_, ?_⟩
  · dsimp only
  · rw [Application.boot] at hboot
    dsimp only at hboot
    split_ifs at hboot
    obtain ⟨state, -, rfl⟩ := Option.map_eq_some_iff.mp hboot
    rfl

/-- The start of the application, for what attempts keep. -/
theorem Closed.start {I : Installation} {world : ℕ → Reactions} {P : Host → Prop}
    {A started : Application} {defaultState : Entitlements.EntitlementStateDocument}
    {io : FileReactions} (h : Closed I world P) (hA : P A.host)
    (hstart : A.start I world defaultState io = some started) : P started.host := by
  obtain ⟨booted, hboot, hhost, -⟩ := start_eq_some hstart
  obtain ⟨state, -, hrestored⟩ := boot_eq_some hboot
  rw [hhost, hrestored]
  exact h.activateDefaultModules (h.restore (h.kept.refreshEntitlements hA io) state)

/-! ## A first start -/

/-- While nobody is told, entitlements are replaced and nothing else happens. -/
theorem replaceEntitlements_of_nil {I : Installation} {world : ℕ → Reactions} {A : Application}
    (h : A.callbacks = []) (state : Entitlements.EntitlementStateDocument) :
    A.replaceEntitlements I world state =
      { A with host := { A.host with unlocked := state } } := by
  rw [Application.replaceEntitlements]
  split_ifs
  · rfl
  · rw [h]
    rfl

theorem refreshEntitlements_document (I : Installation) (world : ℕ → Reactions)
    (defaultState state : Entitlements.EntitlementStateDocument) (file : ActivationFile) :
    (freshApplication file (.document state)).refreshEntitlements I world defaultState {} =
      ⟨none, { freshApplication file (.document state) with
        host := { file := file, unlocked := state } }⟩ := by
  rw [Application.refreshEntitlements, Application.ensureStateFile,
    if_neg (by simp [freshApplication])]
  exact congrArg (Application.Called.mk none) (replaceEntitlements_of_nil rfl state)

/-- A process boots if it can read what it finds. -/
theorem exists_boot (I : Installation) (world : ℕ → Reactions)
    (defaultState state : Entitlements.EntitlementStateDocument) (file : ActivationFile)
    (activation : ActivationState) (hload : file.loadState = some activation) :
    ∃ booted, (freshApplication file (.document state)).boot I world defaultState {} = some booted ∧
      booted.host = ({ file := file, unlocked := state } : Host).restorePersistedActivation I world
        activation := by
  have hboot : ((freshApplication file (.document state)).boot I world defaultState {}).map
      Application.host = some (({ file := file, unlocked := state } : Host)
        |>.restorePersistedActivation I world activation) := by
    rw [Application.boot, refreshEntitlements_document]
    simp [hload]
  exact Option.map_eq_some_iff.mp hboot

/-- Without an activation to restore, the start only brings up the default modules. -/
theorem exists_start (I : Installation) (world : ℕ → Reactions)
    (defaultState state : Entitlements.EntitlementStateDocument) :
    ∃ started, (freshApplication .absent (.document state)).start I world defaultState {} =
        some started ∧
      started.host = ({ unlocked := state } : Host).activateDefaultModules I world := by
  obtain ⟨booted, hbooted, hhost⟩ :=
    exists_boot I world defaultState state .absent {} rfl
  rw [Application.start, hbooted]
  refine ⟨_, rfl, ?_⟩
  dsimp only
  rw [hhost]
  rfl

def exportManifest : ModuleManifest where
  schemaVersion := "1.0"
  moduleID := "com.mastercontrol.export"
  displayName := "Export"
  moduleVersion := ⟨⟨0, by decide⟩, ⟨1, by decide⟩, ⟨0, by decide⟩, none⟩
  moduleType := .service
  supportedPlatforms := [.windows]
  minForsettiVersion := ⟨⟨0, by decide⟩, ⟨1, by decide⟩, ⟨0, by decide⟩, none⟩
  maxForsettiVersion := none
  capabilitiesRequested := [.fileExport, .storage, .eventPublishing]
  iapProductID := some "mastercontrol.iap.export"
  entryPoint := "ExportModule"

def dashboardManifest : ModuleManifest where
  schemaVersion := "1.0"
  moduleID := dashboardID
  displayName := "Dashboard UI"
  moduleVersion := ⟨⟨0, by decide⟩, ⟨1, by decide⟩, ⟨0, by decide⟩, none⟩
  moduleType := .ui
  supportedPlatforms := [.windows]
  minForsettiVersion := ⟨⟨0, by decide⟩, ⟨1, by decide⟩, ⟨0, by decide⟩, none⟩
  maxForsettiVersion := none
  capabilitiesRequested := [.routingOverlay, .toolbarItems, .viewInjection, .eventPublishing]
  iapProductID := none
  entryPoint := "DashboardUIModule"

/-- What the export module asks the dashboard for. -/
def exportRequest : Admin.ModuleControlSurfaceRequest where
  moduleId := "com.mastercontrol.export"
  featureId := "export-artifacts"
  displayName := "Exports"
  destinationId := "exports"
  surfaceTemplateId := "ExportsSection"
  toolbarIcon := "share"
  overlayRouteId := "exports-overlay"
  toolbarAction := .openOverlay
  sortOrder := 60

/-- The export module and the dashboard. -/
def exportInstallation : Installation where
  manifestsByID := OrdMap.ofList
    [("com.mastercontrol.export", exportManifest), (dashboardID, dashboardManifest)]
  registry := OrdMap.ofList
    [("ExportModule", some (.service "com.mastercontrol.export" [exportRequest])),
      ("DashboardUIModule", some .dashboard)]
  checker := ⟨⟨⟨0, by decide⟩, ⟨1, by decide⟩, ⟨0, by decide⟩, none⟩, none⟩
  surfaceSort := Admin.stableSort
  injectionSort := stableInjectionSort

/-- What is unlocked of them. -/
def exportEntitlements : Entitlements.EntitlementStateDocument where
  unlockedModuleIDs := ["com.mastercontrol.export", dashboardID]

/-! ## Which modules run -/

theorem closed_tracked (I : Installation) (world : ℕ → Reactions) :
    Closed I world (Host.Tracked I) where
  activate _ id h := tracked_activateModule h world id
  deactivate _ id h := tracked_deactivateModule h world id
  replace _ _ h := h

/-- **The manager knows which modules run.**  In every run of the application, whatever its
modules and the file system do: the modules that run are those that are loaded and enabled, no two
user interfaces run together, the one that runs is the active one, and no module has been started
while it ran. -/
theorem runs_tracked (I : Installation) (world : ℕ → Reactions)
    (defaultState : Entitlements.EntitlementStateDocument) (activationFile : ActivationFile)
    (entitlementsFile : StateFile) (io : FileReactions) (started : Application)
    (hstart : (freshApplication activationFile entitlementsFile).start I world defaultState io =
      some started) (operations : List Operation) :
    let s := ((lifecycle I world defaultState started).run started operations).host
    (∀ id, running s.calls id = true ↔ s.isModuleActive id = true ∧
      (id ∈ s.manager.enabledServiceModuleIDs ∨ id ∈ s.manager.enabledUIModuleIDs)) ∧
    (∀ id, running s.calls id = true → I.launchesUI id → s.manager.activeUIModuleID = some id) ∧
    StartedOnce s.calls := by
  have hclosed := closed_tracked I world
  have hfresh : (freshApplication activationFile entitlementsFile).host.Tracked I := tracked_empty
  have h := hclosed.kept.run (hclosed.start hfresh hstart) defaultState started operations
  refine ⟨fun id => ?_, fun id hrunning hroute => ?_, h.startedOnce⟩
  · rw [h.enabledUI id]
    exact h.running_iff id
  · exact (h.running_iff id).mp hrunning |>.2.resolve_left fun hservice =>
      h.services id hservice hroute

theorem runs_tracked_export : ∃ started,
    (freshApplication .absent (.document exportEntitlements)).start exportInstallation
      (fun _ => {}) {} {} = some started ∧
    let s := ((lifecycle exportInstallation (fun _ => {}) {} started).run started
      [.manageForsettiModule "com.mastercontrol.export" "disable" {} {} .written]).host
    (∀ id, running s.calls id = true ↔ s.isModuleActive id = true ∧
      (id ∈ s.manager.enabledServiceModuleIDs ∨ id ∈ s.manager.enabledUIModuleIDs)) ∧
    (∀ id, running s.calls id = true → exportInstallation.launchesUI id →
      s.manager.activeUIModuleID = some id) ∧
    StartedOnce s.calls := by
  obtain ⟨started, hstart, -⟩ := exists_start exportInstallation (fun _ => {}) {} exportEntitlements
  exact ⟨started, hstart, runs_tracked _ _ _ _ _ _ started hstart _⟩

end Modules
end MasterControl
