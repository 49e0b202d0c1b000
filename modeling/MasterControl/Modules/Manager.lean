import MasterControl.Configuration.Entitlements
import MasterControl.Modules.ActivationStore
import MasterControl.Modules.Compatibility
import MasterControl.Modules.Surface

/-!
# The module manager

`activateModule` and `deactivateModule` start and stop modules, keep track of which are loaded,
enabled and shown, and save the activation.  A module is a service, which registers its requests
for the dashboard, the dashboard itself, which composes them whenever they change, or another
user interface.

What cannot be read off the code is given by a *world*: at each attempt to start or stop a module
it says whether the factory, the module's functions and the save succeed.  Everything holds of
every world unless a hypothesis restricts it.  The calls that have been made are kept beside the
state, so that `running` is what the modules themselves have seen.
-/

namespace MasterControl
namespace Modules

open Foundation
open Admin (ModuleControlSurfaceRequest SurfaceSort composeDashboardSurface)
open Configuration.Entitlements (EntitlementStateDocument)

/-! ## Modules -/

/-- What a factory makes.  A service knows its own id, under which it removes its requests. -/
inductive ForsettiModule where
  | service (descriptorID : String) (requests : List ModuleControlSurfaceRequest)
  | dashboard
  | ui
  deriving DecidableEq

/-- Whether the cast to a user interface module succeeds. -/
def ForsettiModule.isUI : ForsettiModule → Bool
  | .service _ _ => false
  | .dashboard => true
  | .ui => true

/-- What is installed: the manifests that have been discovered, what the factory of each entry
point makes (`none` is a null pointer), and the sorts of the standard library. -/
structure Installation where
  manifestsByID : OrdMap String ModuleManifest
  registry : OrdMap String (Option ForsettiModule)
  checker : CompatibilityChecker
  surfaceSort : SurfaceSort
  injectionSort : InjectionSort

/-- How a call of a module ends; one that throws may have had its effect on the user interface
before. -/
inductive CallOutcome where
  | returns
  | throws (effective : Bool)
  deriving DecidableEq

def CallOutcome.effective : CallOutcome → Bool
  | .returns => true
  | .throws effective => effective

/-- What happens outside of the manager at one attempt. -/
structure Reactions where
  /-- The factory does not throw. -/
  constructs : Bool := true
  start : CallOutcome := .returns
  stop : CallOutcome := .returns
  /-- `none` is an exception. -/
  uiContributions : Option UIContributions := some {}
  save : SaveOutcome := .written
  /-- The text of what a module throws. -/
  what : String := ""

/-- `uiContributions`; the dashboard publishes its surface when it starts. -/
def ForsettiModule.uiContributions (now : Reactions) : ForsettiModule → Option UIContributions
  | .dashboard => some {}
  | _ => now.uiContributions

/-! ## The user interface -/

/-- The services that modules use: the surface, the requests for it, and who has subscribed to
their changes. -/
structure UserInterface where
  surfaceManager : UISurfaceManager := {}
  requestsByKey : OrdMap String ModuleControlSurfaceRequest := OrdMap.empty
  controlSurfaceSubscriptions : OrdSet String := OrdSet.empty

def dashboardID : String := "com.mastercontrol.dashboard-ui"

namespace UserInterface

variable (I : Installation) (ui : UserInterface)

def makeKey (moduleId featureId : String) : String := moduleId ++ "::" ++ featureId

def listControlSurfaceRequests : List ModuleControlSurfaceRequest :=
  ui.requestsByKey.entries.map Prod.snd

def upsertControlSurfaceRequest (request : ModuleControlSurfaceRequest) : UserInterface :=
  { ui with
    requestsByKey := ui.requestsByKey.insert (makeKey request.moduleId request.featureId) request }

def removeControlSurfaceRequestsForModule (moduleId : String) : UserInterface :=
  { ui with
    requestsByKey := ui.requestsByKey.filterMap fun _ request =>
      if request.moduleId = moduleId then none else some request }

/-- What the dashboard makes of the requests. -/
def composed : UIContributions :=
  let composed := composeDashboardSurface I.surfaceSort ui.listControlSurfaceRequests
  { toolbarItems := composed.toolbarItems
    viewInjections := composed.viewInjections
    overlaySchema := composed.overlaySchema }

/-- `addModuleContributions` and `rebuildSurfaceState`. -/
def publishModuleSurface (moduleID : String) (contributions : UIContributions) : UserInterface :=
  { ui with
    surfaceManager := (ui.surfaceManager.addModuleContributions moduleID contributions)
      |>.rebuildSurfaceState I.injectionSort }

def publishDashboardSurface : UserInterface :=
  ui.publishModuleSurface I dashboardID (ui.composed I)

/-- The event `mastercontrol.ui-contract.changed`: every subscriber publishes the surface. -/
def publishUiContractChanged : UserInterface :=
  ui.controlSurfaceSubscriptions.toList.foldl (fun ui _ => ui.publishDashboardSurface I) ui

def registerControlSurfaceRequests (requests : List ModuleControlSurfaceRequest) : UserInterface :=
  requests.foldl (fun ui request =>
    (ui.upsertControlSurfaceRequest request).publishUiContractChanged I) ui

def unregisterControlSurfaceRequests (moduleId : String) : UserInterface :=
  (ui.removeControlSurfaceRequestsForModule moduleId).publishUiContractChanged I

def subscribe (moduleID : String) : UserInterface :=
  { ui with controlSurfaceSubscriptions := ui.controlSurfaceSubscriptions.insert moduleID }

/-- `cancel`. -/
def unsubscribe (moduleID : String) : UserInterface :=
  { ui with controlSurfaceSubscriptions := ui.controlSurfaceSubscriptions.erase moduleID }

/-- A module's `start`.  The subscription of a dashboard that throws dies with it. -/
def start (moduleID : String) (outcome : CallOutcome) : ForsettiModule → UserInterface
  | .service _ requests =>
    if outcome.effective then ui.registerControlSurfaceRequests I requests else ui
  | .dashboard =>
    let published := if outcome.effective then ui.publishDashboardSurface I else ui
    if outcome = .returns then published.subscribe moduleID else published
  | .ui => ui

/-- A module's `stop`. -/
def stop (moduleID : String) (outcome : CallOutcome) : ForsettiModule → UserInterface
  | .service descriptorID _ =>
    if outcome.effective then ui.unregisterControlSurfaceRequests I descriptorID else ui
  | .dashboard => if outcome.effective then ui.unsubscribe moduleID else ui
  | .ui => ui

def removeModuleContributions (moduleID : String) : UserInterface :=
  { ui with surfaceManager := ui.surfaceManager.removeModuleContributions moduleID }

def rebuildSurfaceState : UserInterface :=
  { ui with surfaceManager := ui.surfaceManager.rebuildSurfaceState I.injectionSort }

end UserInterface

/-! ## The manager -/

structure ModuleManager where
  loadedModules : OrdMap String ForsettiModule := OrdMap.empty
  enabledServiceModuleIDs : OrdSet String := OrdSet.empty
  enabledUIModuleIDs : OrdSet String := OrdSet.empty
  activeUIModuleID : Option String := none

/-- A call of `start` or `stop`, and whether it returned. -/
inductive ModuleCall where
  | start (moduleID : String) (returned : Bool)
  | stop (moduleID : String) (returned : Bool)
  deriving DecidableEq

/-- The manager with what it works on.  `attempts` counts the attempts that the world has seen;
`calls` are the calls of modules, the last one first. -/
structure Host where
  manager : ModuleManager := {}
  ui : UserInterface := {}
  file : ActivationFile := .absent
  unlocked : EntitlementStateDocument := {}
  attempts : ℕ := 0
  calls : List ModuleCall := []

inductive ModuleManagerError where
  | moduleNotFound
  | incompatibleModule
  | entitlementRequired
  | alreadyActive
  | notActive
  deriving DecidableEq

/-- What is thrown: by the manager, by the registry, or by a module or its factory. -/
inductive ModuleFailure where
  | manager (error : ModuleManagerError) (message : String)
  | entryPointNotFound (message : String)
  | module (what : String)
  deriving DecidableEq

/-- What a call of the manager leaves. -/
structure Attempt where
  result : Except ModuleFailure Unit
  host : Host

namespace Host

variable (I : Installation) (world : ℕ → Reactions) (s : Host)

def isModuleActive (moduleID : String) : Bool := (s.manager.loadedModules.find? moduleID).isSome

/-- Unlocked by its own id or by its product's. -/
def isEntitled (moduleID : String) (iapProductID : Option String) : Bool :=
  s.unlocked.unlocks moduleID || iapProductID.any s.unlocked.unlocks

/-- 1. to 5. of `activateModule`: what speaks against it, or the type of the module and what the
factory is going to make. -/
def admission (moduleID : String) : Except ModuleFailure (ModuleType × ForsettiModule) :=
  match I.manifestsByID.find? moduleID with
  | none => .error (.manager .moduleNotFound ("Module not found: " ++ moduleID))
  | some manifest =>
    if (I.checker.checkCompatibility manifest).isCompatible = false then
      .error (.manager .incompatibleModule ("Module is incompatible: " ++ moduleID))
    else if s.isEntitled moduleID manifest.iapProductID = false then
      .error (.manager .entitlementRequired ("Entitlement required for module: " ++ moduleID))
    else if s.isModuleActive moduleID then
      .error (.manager .alreadyActive ("Module already active: " ++ moduleID))
    else
      match I.registry.find? manifest.entryPoint with
      | none => .error (.entryPointNotFound ("Entry point not found: " ++ manifest.entryPoint))
      | some none => .error (.manager .moduleNotFound
          ("Registry has no factory for entry point: " ++ manifest.entryPoint))
      | some (some module) => .ok (manifest.moduleType, module)

def persistState (save : SaveOutcome) : Host :=
  { s with
    file := save.saveState
      { enabledServiceModuleIDs := s.manager.enabledServiceModuleIDs
        enabledUIModuleIDs := s.manager.enabledUIModuleIDs
        selectedUIModuleID := s.manager.activeUIModuleID } }

/-- `module->start`. -/
def start (moduleID : String) (module : ForsettiModule) (outcome : CallOutcome) : Host :=
  { s with
    ui := s.ui.start I moduleID outcome module
    calls := .start moduleID (outcome = .returns) :: s.calls }

/-- `module->stop`. -/
def stop (moduleID : String) (module : ForsettiModule) (outcome : CallOutcome) : Host :=
  { s with
    ui := s.ui.stop I moduleID outcome module
    calls := .stop moduleID (outcome = .returns) :: s.calls }

def enableService (moduleID : String) : Host :=
  { s with
    manager := { s.manager with
      enabledServiceModuleIDs := s.manager.enabledServiceModuleIDs.insert moduleID } }

/-- 4. to 7. of `activateUIModule`. -/
def showUI (moduleID : String) (contributions : UIContributions) : Host :=
  { s with
    ui := s.ui.publishModuleSurface I moduleID contributions.sanitized
    manager := { s.manager with
      enabledUIModuleIDs := s.manager.enabledUIModuleIDs.insert moduleID
      activeUIModuleID := some moduleID } }

/-- The previous user interface is no longer active; it stays loaded. -/
def hideUI (moduleID : String) : Host :=
  { s with
    manager := { s.manager with
      enabledUIModuleIDs := s.manager.enabledUIModuleIDs.erase moduleID
      activeUIModuleID := none } }

/-- 1. of `activateUIModule`: the active user interface is stopped first, if it is loaded. -/
def displaceActiveUI (now : Reactions) : Attempt :=
  match s.manager.activeUIModuleID with
  | none => ⟨.ok (), s⟩
  | some previousID =>
    match s.manager.loadedModules.find? previousID with
    | none => ⟨.ok (), s.hideUI previousID⟩
    | some previous =>
      let s := s.stop I previousID previous now.stop
      match now.stop with
      | .throws _ => ⟨.error (.module now.what), s⟩
      | .returns =>
        ⟨.ok (), { s with ui := s.ui.removeModuleContributions previousID }.hideUI previousID⟩

/-- 7. and 8. of `activateModule`. -/
def load (moduleID : String) (module : ForsettiModule) (save : SaveOutcome) : Host :=
  { s with
    manager := { s.manager with
      loadedModules := s.manager.loadedModules.insert moduleID module } }.persistState save

/-- A module is started, and loaded if that returns. -/
def launch (now : Reactions) (moduleID : String) (module : ForsettiModule) : Attempt :=
  let s := s.start I moduleID module now.start
  match now.start with
  | .throws _ => ⟨.error (.module now.what), s⟩
  | .returns => ⟨.ok (), s.load moduleID module now.save⟩

/-- `activateUIModule`, and 7. and 8. of `activateModule`. -/
def launchUI (now : Reactions) (moduleID : String) (module : ForsettiModule) : Attempt :=
  let displaced := s.displaceActiveUI I now
  match displaced.result with
  | .error failure => ⟨.error failure, displaced.host⟩
  | .ok () =>
    match module.uiContributions now with
    | none => ⟨.error (.module now.what), displaced.host⟩
    | some contributions =>
      (displaced.host.showUI I moduleID contributions).launch I now moduleID module

def activateModule (moduleID : String) : Attempt :=
  match s.admission I moduleID with
  | .error failure => ⟨.error failure, s⟩
  | .ok (moduleType, module) =>
    let now := world s.attempts
    let s := { s with attempts := s.attempts + 1 }
    if now.constructs = false then ⟨.error (.module now.what), s⟩
    else if moduleType ≠ .service ∧ module.isUI then s.launchUI I now moduleID module
    else (s.enableService moduleID).launch I now moduleID module

/-- 3. to 5. of `deactivateModule`. -/
def unload (moduleID : String) : Host :=
  { s with
    manager :=
      { loadedModules := s.manager.loadedModules.erase moduleID
        enabledServiceModuleIDs := s.manager.enabledServiceModuleIDs.erase moduleID
        enabledUIModuleIDs := s.manager.enabledUIModuleIDs.erase moduleID
        activeUIModuleID :=
          if s.manager.activeUIModuleID = some moduleID then none
          else s.manager.activeUIModuleID }
    ui :=
      if s.manager.activeUIModuleID = some moduleID then
        (s.ui.removeModuleContributions moduleID).rebuildSurfaceState I
      else s.ui }

def deactivateModule (moduleID : String) : Attempt :=
  match s.manager.loadedModules.find? moduleID with
  | none => ⟨.error (.manager .notActive ("Module is not active: " ++ moduleID)), s⟩
  | some module =>
    let now := world s.attempts
    let s := { s with attempts := s.attempts + 1 }.stop I moduleID module now.stop
    match now.stop with
    | .throws _ => ⟨.error (.module now.what), s⟩
    | .returns => ⟨.ok (), (s.unload I moduleID).persistState now.save⟩

end Host

end Modules
end MasterControl
