import MasterControl.Modules.Restart

/-!
# What the dashboard shows

Services register their requests when they start and withdraw them when they stop, and the
dashboard composes its surface anew whenever a request changes.  So, in a quiet world and with
modules that register requests of their own only, the surface shown is at any time the
composition of the requests of exactly the modules that run, as long as the dashboard is the
active user interface; and nothing is shown when there is none (`runs_displayed`).

`InSync` is what publishing establishes, `Displayed` what holds between attempts.
-/

namespace MasterControl
namespace Modules

open Foundation
open Admin (ModuleControlSurfaceRequest composeDashboardSurface ViewInjectionDescriptor
  NavigationPointer OverlayRoute)
open MasterControl.Configuration (Entitlements.EntitlementStateDocument)
open Configuration.Entitlements (StateFile)

namespace UserInterface

variable {I : Installation} {ui : UserInterface} {id : String}

/-! ## Publishing -/

/-- What is contributed, by module. -/
def contributions (ui : UserInterface) : OrdMap String UIContributions :=
  ui.surfaceManager.contributionsByModule

/-- What is shown is what is contributed, and nobody has set a theme mask. -/
structure Rendered (I : Installation) (ui : UserInterface) : Prop where
  shown : ui.surfaceManager.surface = surfaceOf I.injectionSort ui.contributions
  unmasked : ∀ id contributed, ui.contributions.find? id = some contributed →
    contributed.themeMask = none

/-- A subscribed dashboard has published the current requests. -/
structure InSync (I : Installation) (ui : UserInterface) : Prop extends Rendered I ui where
  published : (∃ id, id ∈ ui.controlSurfaceSubscriptions) →
    ui.contributions.find? dashboardID = some (ui.composed I)

@[simp] theorem contributions_publishModuleSurface (ui : UserInterface) (id : String)
    (contributed : UIContributions) : (ui.publishModuleSurface I id contributed).contributions =
      ui.contributions.insert id contributed := rfl

@[simp] theorem requestsByKey_publishDashboardSurface (ui : UserInterface) :
    (ui.publishDashboardSurface I).requestsByKey = ui.requestsByKey := rfl

@[simp] theorem subscriptions_publishDashboardSurface (ui : UserInterface) :
    (ui.publishDashboardSurface I).controlSurfaceSubscriptions =
      ui.controlSurfaceSubscriptions := rfl

theorem rendered_publishModuleSurface (h : ui.Rendered I) {contributed : UIContributions}
    (hmask : contributed.themeMask = none) :
    (ui.publishModuleSurface I id contributed).Rendered I where
  shown := rfl
  unmasked id' contributed' hfind := by
    rw [contributions_publishModuleSurface, OrdMap.find?_insert] at hfind
    split_ifs at hfind
    · cases hfind
      exact hmask
    · exact h.unmasked id' contributed' hfind

theorem inSync_publishDashboardSurface (h : ui.Rendered I) :
    (ui.publishDashboardSurface I).InSync I where
  toRendered := rendered_publishModuleSurface h rfl
  published _ := OrdMap.find?_insert_self _ _ _

/-- To publish again changes nothing. -/
theorem publishDashboardSurface_publishDashboardSurface (ui : UserInterface) :
    (ui.publishDashboardSurface I).publishDashboardSurface I = ui.publishDashboardSurface I := by
  have hinsert : (ui.contributions.insert dashboardID (ui.composed I)).insert dashboardID
      (ui.composed I) = ui.contributions.insert dashboardID (ui.composed I) :=
    OrdMap.insert_insert _ _ _ _
  exact congrArg (fun contributions => UserInterface.mk
    ⟨contributions, surfaceOf I.injectionSort contributions⟩ ui.requestsByKey
    ui.controlSurfaceSubscriptions) hinsert

/-- However many have subscribed, an event publishes the surface once, if anyone has. -/
theorem publishUiContractChanged_eq (ui : UserInterface) : ui.publishUiContractChanged I =
    if ui.controlSurfaceSubscriptions.toList = [] then ui else ui.publishDashboardSurface I := by
  have hmany : ∀ (ids : List String) (ui : UserInterface),
      ids.foldl (fun ui _ => ui.publishDashboardSurface I) (ui.publishDashboardSurface I) =
        ui.publishDashboardSurface I := by
    intro ids
    induction ids with
    | nil => exact fun _ => rfl
    | cons id ids ih =>
      intro ui
      rw [List.foldl_cons, publishDashboardSurface_publishDashboardSurface, ih]
  rw [publishUiContractChanged]
  cases ui.controlSurfaceSubscriptions.toList with
  | nil => rfl
  | cons id ids => rw [List.foldl_cons, hmany, if_neg (List.cons_ne_nil id ids)]

theorem toList_eq_nil_iff {ids : OrdSet String} : ids.toList = [] ↔ ¬ ∃ id, id ∈ ids := by
  rw [List.eq_nil_iff_forall_not_mem, not_exists]
  simp only [OrdSet.mem_toList]

theorem inSync_publishUiContractChanged (h : ui.Rendered I) :
    (ui.publishUiContractChanged I).InSync I := by
  rw [publishUiContractChanged_eq]
  split_ifs with hnone
  · exact { h with published := fun hsome => absurd hsome (toList_eq_nil_iff.mp hnone) }
  · exact inSync_publishDashboardSurface h

@[simp] theorem requestsByKey_publishUiContractChanged (ui : UserInterface) :
    (ui.publishUiContractChanged I).requestsByKey = ui.requestsByKey := by
  rw [publishUiContractChanged_eq]
  split_ifs <;> rfl

/-! ## Registering -/

/-- The key under which a request is kept. -/
def keyOf (request : ModuleControlSurfaceRequest) : String :=
  makeKey request.moduleId request.featureId

/-- What a run of events and of changes of the requests leaves alone. -/
structure Frame (ui ui' : UserInterface) : Prop where
  subscriptions : ui'.controlSurfaceSubscriptions = ui.controlSurfaceSubscriptions
  contributed : ((∃ id, id ∈ ui.controlSurfaceSubscriptions) →
      (ui.contributions.find? dashboardID).isSome = true) →
    ∀ id, (ui'.contributions.find? id).isSome = (ui.contributions.find? id).isSome

theorem Frame.refl (ui : UserInterface) : ui.Frame ui := ⟨rfl, fun _ _ => rfl⟩

theorem Frame.trans {ui' ui'' : UserInterface} (h : ui.Frame ui') (h' : ui'.Frame ui'') :
    ui.Frame ui'' where
  subscriptions := h'.subscriptions.trans h.subscriptions
  contributed hdashboard id := by
    refine (h'.contributed (fun hsome => ?_) id).trans (h.contributed hdashboard id)
    rw [h.contributed hdashboard]
    rw [h.subscriptions] at hsome
    exact hdashboard hsome

theorem frame_publishUiContractChanged (requestsByKey : OrdMap String ModuleControlSurfaceRequest) :
    ui.Frame ({ ui with requestsByKey := requestsByKey }.publishUiContractChanged I) where
  subscriptions := by
    rw [publishUiContractChanged_eq]
    split_ifs <;> rfl
  contributed hdashboard id := by
    rw [publishUiContractChanged_eq]
    split_ifs with hnone
    · rfl
    · rw [publishDashboardSurface, contributions_publishModuleSurface, OrdMap.find?_insert]
      split_ifs with heq
      · exact heq ▸ (hdashboard (not_not.mp (mt toList_eq_nil_iff.mpr hnone))).symm
      · rfl

/-- One turn of `registerControlSurfaceRequests`. -/
theorem register_one (h : ui.InSync I) (request : ModuleControlSurfaceRequest) :
    let ui' := (ui.upsertControlSurfaceRequest request).publishUiContractChanged I
    ui'.InSync I ∧ ui.Frame ui' ∧ ui'.requestsByKey = ui.requestsByKey.insert (keyOf request) request :=
  ⟨inSync_publishUiContractChanged ⟨h.shown, h.unmasked⟩, frame_publishUiContractChanged _,
    requestsByKey_publishUiContractChanged _⟩

theorem registerControlSurfaceRequests_spec (h : ui.InSync I)
    (requests : List ModuleControlSurfaceRequest) :
    let ui' := ui.registerControlSurfaceRequests I requests
    ui'.InSync I ∧ ui.Frame ui' ∧ ui'.requestsByKey =
      requests.foldl (fun map request => map.insert (keyOf request) request) ui.requestsByKey := by
  induction requests generalizing ui with
  | nil => exact ⟨h, Frame.refl ui, rfl⟩
  | cons request requests ih =>
    obtain ⟨hsync, hframe, hkeys⟩ := register_one h request
    obtain ⟨hsync', hframe', hkeys'⟩ := ih hsync
    refine ⟨hsync', hframe.trans hframe', ?_⟩
    rw [List.foldl_cons, ← hkeys]
    exact hkeys'

theorem unregisterControlSurfaceRequests_spec (h : ui.InSync I) (moduleId : String) :
    let ui' := ui.unregisterControlSurfaceRequests I moduleId
    ui'.InSync I ∧ ui.Frame ui' ∧ ∀ key request, ui'.requestsByKey.find? key = some request ↔
      ui.requestsByKey.find? key = some request ∧ request.moduleId ≠ moduleId := by
  refine ⟨inSync_publishUiContractChanged ⟨h.shown, h.unmasked⟩, frame_publishUiContractChanged _,
    fun key request => ?_⟩
  rw [unregisterControlSurfaceRequests, requestsByKey_publishUiContractChanged,
    removeControlSurfaceRequestsForModule, OrdMap.find?_filterMap]
  cases ui.requestsByKey.find? key with
  | none => simp
  | some request' =>
    rw [Option.bind_some, Option.some_inj]
    by_cases hmodule : request'.moduleId = moduleId
    · rw [if_pos hmodule]
      refine iff_of_false (by simp) ?_
      rintro ⟨rfl, hne⟩
      exact hne hmodule
    · rw [if_neg hmodule, Option.some_inj]
      refine ⟨?_, And.left⟩
      rintro rfl
      exact ⟨rfl, hmodule⟩

section Stop

variable {module : ForsettiModule}

theorem requestsByKey_stop
    (hmodule : ∀ descriptorID requests, module ≠ .service descriptorID requests) :
    (ui.stop I id .returns module).requestsByKey = ui.requestsByKey := by
  cases module with
  | service descriptorID requests => exact absurd rfl (hmodule descriptorID requests)
  | dashboard => rfl
  | ui => rfl

theorem surfaceManager_stop
    (hmodule : ∀ descriptorID requests, module ≠ .service descriptorID requests) :
    (ui.stop I id .returns module).surfaceManager = ui.surfaceManager := by
  cases module with
  | service descriptorID requests => exact absurd rfl (hmodule descriptorID requests)
  | dashboard => rfl
  | ui => rfl

/-- The dashboard cancels its subscription. -/
theorem mem_stop (hmodule : ∀ descriptorID requests, module ≠ .service descriptorID requests)
    {id' : String} : id' ∈ (ui.stop I id .returns module).controlSurfaceSubscriptions ↔
      id' ∈ ui.controlSurfaceSubscriptions ∧ (module = .dashboard → id' ≠ id) := by
  cases module with
  | service descriptorID requests => exact absurd rfl (hmodule descriptorID requests)
  | dashboard =>
    show id' ∈ ui.controlSurfaceSubscriptions.erase id ↔ _
    rw [OrdSet.mem_erase]
    simp [and_comm]
  | ui =>
    show id' ∈ ui.controlSurfaceSubscriptions ↔ _
    simp

end Stop

end UserInterface

open UserInterface (keyOf)

/-! ## Modules that mind their own requests -/

/-- Some service that is installed registers the request. -/
def Installation.Asks (I : Installation) (request : ModuleControlSurfaceRequest) : Prop :=
  ∃ id moduleType descriptorID requests,
    I.module? id = some (moduleType, .service descriptorID requests) ∧ request ∈ requests

/-- Services register requests under their own id, no two of them under one key, and there is one
dashboard, which is a user interface. -/
structure Installation.Owned (I : Installation) : Prop where
  service : ∀ id moduleType descriptorID requests,
    I.module? id = some (moduleType, .service descriptorID requests) →
      descriptorID = id ∧ ∀ request ∈ requests, request.moduleId = id
  key : ∀ request request', I.Asks request → I.Asks request' → keyOf request = keyOf request' →
    request = request'
  dashboard : ∀ id moduleType, I.module? id = some (moduleType, .dashboard) →
    id = dashboardID ∧ moduleType ≠ .service

/-- What is loaded is what is installed. -/
def Installs (I : Installation) (loaded : OrdMap String ForsettiModule) : Prop :=
  ∀ id module, loaded.find? id = some module → ∃ moduleType, I.module? id = some (moduleType, module)

/-- A service that is loaded registers the request. -/
def Registered (loaded : OrdMap String ForsettiModule) (request : ModuleControlSurfaceRequest) :
    Prop :=
  ∃ id descriptorID requests, loaded.find? id = some (.service descriptorID requests) ∧
    request ∈ requests

/-- The requests are those of the services that are loaded, the dashboard listens while it is
shown, and what is contributed is contributed by the active user interface. -/
structure Displayed (I : Installation) (loaded : OrdMap String ForsettiModule)
    (active : Option String) (ui : UserInterface) : Prop extends ui.InSync I where
  requests : ∀ key request, ui.requestsByKey.find? key = some request ↔
    Registered loaded request ∧ key = keyOf request
  subscriptions : ∀ id, id ∈ ui.controlSurfaceSubscriptions ↔
    active = some id ∧ loaded.find? id = some .dashboard
  contributed : ∀ id, (ui.contributions.find? id).isSome = true ↔ active = some id

section Displays

variable {I : Installation} {loaded : OrdMap String ForsettiModule} {active : Option String}
  {ui : UserInterface} {id descriptorID : String} {moduleType : ModuleType}
  {module : ForsettiModule} {requests : List ModuleControlSurfaceRequest}

theorem registered_insert (hid : loaded.find? id = none) (request : ModuleControlSurfaceRequest) :
    Registered (loaded.insert id module) request ↔ Registered loaded request ∨
      ∃ descriptorID requests, module = .service descriptorID requests ∧ request ∈ requests := by
  constructor
  · rintro ⟨id', descriptorID, requests, hfind, hmem⟩
    rw [OrdMap.find?_insert] at hfind
    split_ifs at hfind with heq
    · exact Or.inr ⟨descriptorID, requests, Option.some.inj hfind, hmem⟩
    · exact Or.inl ⟨id', descriptorID, requests, hfind, hmem⟩
  · rintro (⟨id', descriptorID, requests, hfind, hmem⟩ | ⟨descriptorID, requests, rfl, hmem⟩)
    · refine ⟨id', descriptorID, requests, ?_, hmem⟩
      rw [OrdMap.find?_insert, if_neg, hfind]
      rintro rfl
      rw [hid] at hfind
      cases hfind
    · exact ⟨id, descriptorID, requests, OrdMap.find?_insert_self _ _ _, hmem⟩

theorem registered_erase (hown : I.Owned) (hloaded : Installs I loaded)
    (request : ModuleControlSurfaceRequest) :
    Registered (loaded.erase id) request ↔ Registered loaded request ∧ request.moduleId ≠ id := by
  constructor
  · rintro ⟨id', descriptorID, requests, hfind, hmem⟩
    rw [OrdMap.find?_erase] at hfind
    split_ifs at hfind with heq
    obtain ⟨moduleType, hmodule⟩ := hloaded id' _ hfind
    refine ⟨⟨id', descriptorID, requests, hfind, hmem⟩, ?_⟩
    rwa [(hown.service id' _ _ _ hmodule).2 request hmem]
  · rintro ⟨⟨id', descriptorID, requests, hfind, hmem⟩, hne⟩
    obtain ⟨moduleType, hmodule⟩ := hloaded id' _ hfind
    rw [(hown.service id' _ _ _ hmodule).2 request hmem] at hne
    refine ⟨id', descriptorID, requests, ?_, hmem⟩
    rw [OrdMap.find?_erase, if_neg hne, hfind]

/-- A service whose requests are removed has none that it has not registered. -/
theorem registered_erase_of_not_service (hid : loaded.find? id = some module)
    (hmodule : ∀ descriptorID requests, module ≠ .service descriptorID requests)
    (request : ModuleControlSurfaceRequest) :
    Registered (loaded.erase id) request ↔ Registered loaded request := by
  constructor
  · rintro ⟨id', descriptorID, requests, hfind, hmem⟩
    rw [OrdMap.find?_erase] at hfind
    split_ifs at hfind
    exact ⟨id', descriptorID, requests, hfind, hmem⟩
  · rintro ⟨id', descriptorID, requests, hfind, hmem⟩
    refine ⟨id', descriptorID, requests, ?_, hmem⟩
    rw [OrdMap.find?_erase, if_neg, hfind]
    rintro rfl
    exact hmodule descriptorID requests (Option.some.inj (hid.symm.trans hfind))

namespace Displayed

theorem dashboard_contributed (h : Displayed I loaded active ui) (hown : I.Owned)
    (hloaded : Installs I loaded) (hsome : ∃ id, id ∈ ui.controlSurfaceSubscriptions) :
    (ui.contributions.find? dashboardID).isSome = true := by
  obtain ⟨id, hid⟩ := hsome
  obtain ⟨hactive, hdashboard⟩ := (h.subscriptions id).mp hid
  obtain ⟨moduleType, hmodule⟩ := hloaded id _ hdashboard
  rw [h.contributed dashboardID, hactive, (hown.dashboard id moduleType hmodule).1]

theorem asks (h : Displayed I loaded active ui) (hloaded : Installs I loaded) {key : String}
    {request : ModuleControlSurfaceRequest} (hfind : ui.requestsByKey.find? key = some request) :
    I.Asks request ∧ key = keyOf request := by
  obtain ⟨⟨id, descriptorID, requests, hid, hmem⟩, hkey⟩ := (h.requests key request).mp hfind
  obtain ⟨moduleType, hmodule⟩ := hloaded id _ hid
  exact ⟨⟨id, moduleType, descriptorID, requests, hmodule, hmem⟩, hkey⟩

/-- A module that is not the dashboard is loaded. -/
theorem insert_subscriptions (h : Displayed I loaded active ui) (hid : loaded.find? id = none)
    (hmodule : module ≠ .dashboard) (id' : String) :
    id' ∈ ui.controlSurfaceSubscriptions ↔
      active = some id' ∧ (loaded.insert id module).find? id' = some .dashboard := by
  rw [h.subscriptions id', OrdMap.find?_insert]
  split_ifs with heq
  · subst heq
    simp [hid, hmodule]
  · rfl

/-- A service starts. -/
theorem startService (h : Displayed I loaded active ui) (hown : I.Owned)
    (hloaded : Installs I loaded) (hid : loaded.find? id = none)
    (hmodule : I.module? id = some (moduleType, .service descriptorID requests)) :
    Displayed I (loaded.insert id (.service descriptorID requests)) active
      (ui.registerControlSurfaceRequests I requests) := by
  obtain ⟨hsync, hframe, hkeys⟩ :=
    UserInterface.registerControlSurfaceRequests_spec h.toInSync requests
  refine { hsync with
    requests := fun key request => ?_
    subscriptions := fun id' => ?_
    contributed := fun id' => ?_ }
  · rw [hkeys, OrdMap.find?_foldl_insert hown.key requests
      (fun request hmem => ⟨id, moduleType, descriptorID, requests, hmodule, hmem⟩)
      (fun key request hfind => h.asks hloaded hfind), h.requests key request,
      registered_insert hid, or_and_right]
    refine or_congr_right (and_congr_left fun _ => ?_)
    constructor
    · exact fun hmem => ⟨descriptorID, requests, rfl, hmem⟩
    · rintro ⟨descriptorID', requests', heq, hmem⟩
      cases heq
      exact hmem
  · rw [hframe.subscriptions]
    exact h.insert_subscriptions hid (by simp) id'
  · rw [hframe.contributed (h.dashboard_contributed hown hloaded)]
    exact h.contributed id'

/-- A module starts that is not shown and registers nothing. -/
theorem startOther (h : Displayed I loaded active ui) (hid : loaded.find? id = none) :
    Displayed I (loaded.insert id .ui) active ui :=
  { h with
    requests := fun key request => by
      rw [h.requests key request, registered_insert hid]
      simp
    subscriptions := h.insert_subscriptions hid (by simp) }

/-- A service stops. -/
theorem stopService (h : Displayed I loaded active ui) (hown : I.Owned)
    (hloaded : Installs I loaded) (hid : loaded.find? id = some (.service descriptorID requests))
    (hactive : active ≠ some id) :
    Displayed I (loaded.erase id) active (ui.unregisterControlSurfaceRequests I descriptorID) := by
  obtain ⟨moduleType, hmodule⟩ := hloaded id _ hid
  obtain ⟨rfl, -⟩ := hown.service id moduleType descriptorID requests hmodule
  obtain ⟨hsync, hframe, hkeys⟩ :=
    UserInterface.unregisterControlSurfaceRequests_spec h.toInSync descriptorID
  refine { hsync with
    requests := fun key request => ?_
    subscriptions := fun id' => ?_
    contributed := fun id' => ?_ }
  · rw [hkeys, h.requests, registered_erase hown hloaded, and_right_comm]
  · rw [hframe.subscriptions, h.subscriptions id', OrdMap.find?_erase]
    refine and_congr_right fun hid' => ?_
    rw [if_neg]
    rintro rfl
    exact hactive hid'
  · rw [hframe.contributed (h.dashboard_contributed hown hloaded)]
    exact h.contributed id'

/-- A module that registers nothing has stopped. -/
theorem stopped_subscriptions (h : Displayed I loaded active ui)
    (hid : loaded.find? id = some module)
    (hmodule : ∀ descriptorID requests, module ≠ .service descriptorID requests) (id' : String) :
    id' ∈ (ui.stop I id .returns module).controlSurfaceSubscriptions ↔
      active = some id' ∧ (loaded.erase id).find? id' = some .dashboard := by
  rw [UserInterface.mem_stop hmodule, h.subscriptions id', OrdMap.find?_erase]
  by_cases heq : id' = id
  · subst heq
    simp [hid]
  · simp [heq]

/-- A module that registers nothing stops; what it contributes goes with it. -/
theorem stopOther (h : Displayed I loaded active ui) (hid : loaded.find? id = some module)
    (hmodule : ∀ descriptorID requests, module ≠ .service descriptorID requests) :
    let stopped := ui.stop I id .returns module
    Displayed I (loaded.erase id) (if active = some id then none else active)
      (if active = some id then (stopped.removeModuleContributions id).rebuildSurfaceState I
        else stopped) := by
  intro stopped
  have hrequests : stopped.requestsByKey = ui.requestsByKey :=
    UserInterface.requestsByKey_stop hmodule
  have hmanager : stopped.surfaceManager = ui.surfaceManager :=
    UserInterface.surfaceManager_stop hmodule
  have hcontributions : stopped.contributions = ui.contributions :=
    congrArg UISurfaceManager.contributionsByModule hmanager
  have hsubscriptions := h.stopped_subscriptions hid hmodule
  split_ifs with hactive
  · subst hactive
    have hempty : ∀ id', (ui.contributions.erase id).find? id' = none := fun id' => by
      rw [OrdMap.find?_erase]
      split_ifs with heq
      · rfl
      · rw [← Option.not_isSome_iff_eq_none, h.contributed id', Option.some_inj]
        exact fun h => heq h.symm
    have hnone : ∀ id', id' ∉ stopped.controlSurfaceSubscriptions := fun id' hid' => by
      obtain ⟨heq, hfind⟩ := (hsubscriptions id').mp hid'
      rw [Option.some.inj heq, OrdMap.find?_erase_self] at hfind
      cases hfind
    exact
      { shown := rfl
        unmasked := fun id' contributed hfind => by
          replace hfind : (stopped.contributions.erase id).find? id' = some contributed := hfind
          rw [hcontributions, hempty] at hfind
          cases hfind
        published := fun hsome => absurd hsome.choose_spec (hnone _)
        requests := fun key request => by
          show stopped.requestsByKey.find? key = some request ↔ _
          rw [hrequests, h.requests key request, registered_erase_of_not_service hid hmodule]
        subscriptions := fun id' => iff_of_false (hnone id') fun hid' => by cases hid'.1
        contributed := fun id' => by
          show ((stopped.contributions.erase id).find? id').isSome = true ↔ _
          rw [hcontributions, hempty]
          simp }
  · exact
      { shown := by
          rw [hmanager, hcontributions]
          exact h.shown
        unmasked := by
          rw [hcontributions]
          exact h.unmasked
        published := fun hsome => by
          obtain ⟨id', hid'⟩ := hsome
          have hbefore := (UserInterface.mem_stop hmodule).mp hid'
          rw [hcontributions, UserInterface.composed, UserInterface.listControlSurfaceRequests,
            hrequests]
          exact h.published ⟨id', hbefore.1⟩
        requests := fun key request => by
          rw [hrequests, h.requests key request, registered_erase_of_not_service hid hmodule]
        subscriptions := hsubscriptions
        contributed := by
          rw [hcontributions]
          exact h.contributed }

/-- A user interface is shown in place of what was shown before. -/
theorem startUI (hown : I.Owned) (hid : loaded.find? id = none)
    (hmodule : I.module? id = some (moduleType, module)) (hui : module.isUI = true)
    (hrequests : ∀ key request, ui.requestsByKey.find? key = some request ↔
      Registered loaded request ∧ key = keyOf request)
    (hnone : ∀ id', id' ∉ ui.controlSurfaceSubscriptions)
    (hempty : ∀ id', ui.contributions.find? id' = none) (contributions : UIContributions) :
    Displayed I (loaded.insert id module) (some id)
      ((ui.publishModuleSurface I id contributions.sanitized).start I id .returns module) := by
  set shown := ui.publishModuleSurface I id contributions.sanitized with hshown
  have hrendered : shown.Rendered I :=
    { shown := rfl
      unmasked := fun id' contributed hfind => by
        rw [hshown, UserInterface.contributions_publishModuleSurface, OrdMap.find?_insert,
          hempty] at hfind
        split_ifs at hfind
        cases hfind
        rfl }
  have hcontributed : ∀ id', (shown.contributions.find? id').isSome = true ↔ some id = some id' :=
    fun id' => by
      rw [hshown, UserInterface.contributions_publishModuleSurface, OrdMap.find?_insert, hempty]
      split_ifs with heq <;> simp [heq]
  have hkeys : ∀ key request, ui.requestsByKey.find? key = some request ↔
      Registered (loaded.insert id module) request ∧ key = keyOf request := fun key request => by
    rw [hrequests key request, registered_insert hid, or_iff_left]
    rintro ⟨descriptorID, requests, rfl, -⟩
    cases hui
  replace hnone : ∀ id', id' ∉ shown.controlSurfaceSubscriptions := hnone
  cases module with
  | service descriptorID requests => cases hui
  | ui =>
    exact
      { hrendered with
        published := fun hsome => absurd hsome.choose_spec (hnone _)
        requests := hkeys
        subscriptions := fun id' => iff_of_false (hnone id') fun hid' => by
          rw [← Option.some.inj hid'.1, OrdMap.find?_insert_self] at hid'
          simp at hid'
        contributed := hcontributed }
  | dashboard =>
    obtain ⟨rfl, -⟩ := hown.dashboard id moduleType hmodule
    have hsync := UserInterface.inSync_publishDashboardSurface hrendered
    exact
      { shown := hsync.shown
        unmasked := hsync.unmasked
        published := fun _ => OrdMap.find?_insert_self _ _ _
        requests := hkeys
        subscriptions := fun id' => by
          show id' ∈ shown.controlSurfaceSubscriptions.insert dashboardID ↔ _
          rw [OrdSet.mem_insert, or_iff_left (hnone id'), Option.some_inj]
          refine ⟨?_, fun h => h.1.symm⟩
          rintro rfl
          exact ⟨rfl, OrdMap.find?_insert_self _ _ _⟩
        contributed := fun id' => by
          show ((shown.contributions.insert dashboardID _).find? id').isSome = true ↔ _
          rw [OrdMap.find?_insert]
          split_ifs with heq
          · simp [heq]
          · exact hcontributed id' }

end Displayed

end Displays

/-! ## The attempts -/

section Attempts

variable {I : Installation} {world : ℕ → Reactions} {s : Host} {id : String}

/-- What is displayed, of a host. -/
def Host.Displayed (I : Installation) (s : Host) : Prop :=
  Modules.Displayed I s.manager.loadedModules s.manager.activeUIModuleID s.ui

theorem installs_of_tracked (h : s.Tracked I) : Installs I s.manager.loadedModules :=
  fun id module hid => (h.loaded id module hid).1

/-- The previous user interface stops and takes its contributions along. -/
theorem displaceActiveUI_displayed (h : Settled I s) (hdisplayed : s.Displayed I) :
    let ui := (s.displaceActiveUI I {}).host.ui
    ui.requestsByKey = s.ui.requestsByKey ∧ (∀ id, id ∉ ui.controlSurfaceSubscriptions) ∧
      ∀ id, ui.contributions.find? id = none := by
  rw [Host.displaceActiveUI]
  cases hactive : s.manager.activeUIModuleID with
  | none =>
    refine ⟨rfl, fun id hid => ?_, fun id => ?_⟩
    · rw [hdisplayed.subscriptions id, hactive] at hid
      cases hid.1
    · rw [← Option.not_isSome_iff_eq_none, hdisplayed.contributed id, hactive]
      simp
  | some previousID =>
    obtain ⟨previous, hprevious⟩ := Option.isSome_iff_exists.mp (h.activeLoaded previousID hactive)
    obtain ⟨moduleType, module, hmodule, -, hui⟩ := h.tracked.activeUI previousID hactive
    obtain ⟨⟨moduleType', hmodule'⟩, -⟩ := h.tracked.loaded previousID previous hprevious
    cases hmodule.symm.trans hmodule'
    have hnot : ∀ descriptorID requests, previous ≠ .service descriptorID requests := by
      rintro descriptorID requests rfl
      cases hui
    have hstopped := hdisplayed.stopped_subscriptions hprevious hnot
    have hmanager : (s.ui.stop I previousID .returns previous).surfaceManager =
        s.ui.surfaceManager := UserInterface.surfaceManager_stop hnot
    dsimp only
    rw [hprevious]
    refine ⟨UserInterface.requestsByKey_stop hnot, fun id hid => ?_, fun id => ?_⟩
    · obtain ⟨heq, hfind⟩ := (hstopped id).mp hid
      rw [hactive, Option.some_inj] at heq
      rw [heq, OrdMap.find?_erase_self] at hfind
      cases hfind
    · show ((s.ui.stop I previousID .returns previous).surfaceManager.contributionsByModule.erase
        previousID).find? id = none
      rw [hmanager, OrdMap.find?_erase]
      split_ifs with heq
      · rfl
      · show s.ui.contributions.find? id = none
        rw [← Option.not_isSome_iff_eq_none, hdisplayed.contributed id, hactive, Option.some_inj]
        exact fun h => heq h.symm

theorem displayed_activateModule (hq : Quiet world) (hown : I.Owned) (h : Settled I s)
    (hdisplayed : s.Displayed I) : (s.activateModule I world id).host.Displayed I := by
  cases hadmission : s.admission I id with
  | error failure =>
    rw [activateModule_of_not_admission (by simp [hadmission])]
    exact hdisplayed
  | ok product =>
    obtain ⟨moduleType, module⟩ := product
    have hactivated := activated_of_admission hq hadmission
    obtain ⟨hmodule, -, -, hid⟩ := admission_eq_ok_iff.mp hadmission
    rw [Host.isModuleActive, Option.isSome_eq_false_iff, Option.isNone_iff_eq_none] at hid
    have hloaded := installs_of_tracked h.tracked
    rw [Host.Displayed, hactivated.loaded]
    by_cases hroute : I.launchesUI id
    · obtain ⟨contributions, hui⟩ := hactivated.shownUI hroute
      obtain ⟨hrequests, hnone, hempty⟩ := displaceActiveUI_displayed h hdisplayed
      rw [(hactivated.ui hroute).2, hui]
      obtain ⟨moduleType', module', hmodule', -, hisUI⟩ := hroute
      cases hmodule.symm.trans hmodule'
      refine Displayed.startUI hown hid hmodule hisUI (fun key request => ?_) hnone hempty
        contributions
      rw [hrequests]
      exact hdisplayed.requests key request
    · rw [(hactivated.services hroute).2, hactivated.serviceUI hroute]
      cases module with
      | service descriptorID requests => exact hdisplayed.startService hown hloaded hid hmodule
      | ui => exact hdisplayed.startOther hid
      | dashboard =>
        exact absurd ⟨moduleType, _, hmodule, (hown.dashboard id moduleType hmodule).2, rfl⟩ hroute

theorem displayed_deactivateModule (hq : Quiet world) (hown : I.Owned) (h : Settled I s)
    (hdisplayed : s.Displayed I) : (s.deactivateModule I world id).host.Displayed I := by
  cases hloaded : s.isModuleActive id with
  | false =>
    rw [deactivateModule_of_not_loaded hloaded]
    exact hdisplayed
  | true =>
    have hdeactivated := deactivated_of_loaded (I := I) hq hloaded
    obtain ⟨module, hid⟩ := Option.isSome_iff_exists.mp hloaded
    obtain ⟨⟨moduleType, hmodule⟩, -⟩ := h.tracked.loaded id module hid
    rw [Host.Displayed, hdeactivated.loaded, hdeactivated.active, hdeactivated.ui module hid]
    cases module with
    | service descriptorID requests =>
      have hactive : s.manager.activeUIModuleID ≠ some id := fun hactive => by
        obtain ⟨moduleType', module', hmodule', -, hui⟩ := h.tracked.activeUI id hactive
        cases hmodule.symm.trans hmodule'
        cases hui
      rw [if_neg hactive]
      dsimp only
      rw [if_neg hactive]
      exact hdisplayed.stopService hown (installs_of_tracked h.tracked) hid hactive
    | dashboard => exact hdisplayed.stopOther hid (by simp)
    | ui => exact hdisplayed.stopOther hid (by simp)

theorem closed_displayed (hq : Quiet world) (hown : I.Owned) :
    Closed I world fun s => Settled I s ∧ s.Displayed I where
  activate _ _ h := ⟨settled_activateModule hq h.1, displayed_activateModule hq hown h.1 h.2⟩
  deactivate _ _ h := ⟨settled_deactivateModule hq h.1, displayed_deactivateModule hq hown h.1 h.2⟩
  replace _ _ h := ⟨⟨h.1.tracked, h.1.servicesLoaded, h.1.activeLoaded, h.1.mirrored⟩, h.2⟩

theorem displayed_fresh {activationFile : ActivationFile} {entitlementsFile : StateFile} :
    (freshApplication activationFile entitlementsFile).host.Displayed I where
  shown := rfl
  unmasked id contributed h := by cases h
  published hsome := absurd hsome.choose_spec (OrdSet.notMem_empty _)
  requests key request := by
    refine iff_of_false (by simp [freshApplication]) ?_
    rintro ⟨⟨id, descriptorID, requests, hid, -⟩, -⟩
    cases hid
  subscriptions id := iff_of_false (OrdSet.notMem_empty id) fun h => by cases h.1
  contributed id := by simp [freshApplication, UserInterface.contributions]

end Attempts

/-! ## What is shown -/

section Shown

variable {I : Installation} {s : Host}

/-- Without a user interface nothing is shown. -/
theorem surface_of_inactive (h : s.Displayed I) (hactive : s.manager.activeUIModuleID = none) :
    s.ui.surfaceManager.surface = {} := by
  have hempty : s.ui.contributions = OrdMap.empty := OrdMap.ext_find? fun id => by
    rw [OrdMap.find?_empty, ← Option.not_isSome_iff_eq_none, h.contributed id, hactive]
    simp
  rw [h.shown, hempty]
  rfl

/-- While the dashboard is active, its composition is all that is contributed. -/
theorem contributions_of_dashboard (h : s.Displayed I)
    (hactive : s.manager.activeUIModuleID = some dashboardID)
    (hloaded : s.manager.loadedModules.find? dashboardID = some .dashboard) :
    s.ui.contributions = OrdMap.empty.insert dashboardID (s.ui.composed I) := by
  refine OrdMap.ext_find? fun id => ?_
  rw [OrdMap.find?_insert]
  split_ifs with heq
  · exact heq ▸ h.published ⟨dashboardID, (h.subscriptions dashboardID).mpr ⟨hactive, hloaded⟩⟩
  · rw [OrdMap.find?_empty, ← Option.not_isSome_iff_eq_none, h.contributed id, hactive,
      Option.some_inj]
    exact heq

/-- The requests are those of the services that run. -/
theorem mem_listControlSurfaceRequests (htracked : s.Tracked I) (h : s.Displayed I)
    (request : ModuleControlSurfaceRequest) :
    request ∈ s.ui.listControlSurfaceRequests ↔
      ∃ id moduleType descriptorID requests, running s.calls id = true ∧
        I.module? id = some (moduleType, .service descriptorID requests) ∧ request ∈ requests := by
  have hlist : request ∈ s.ui.listControlSurfaceRequests ↔
      Registered s.manager.loadedModules request := by
    rw [UserInterface.listControlSurfaceRequests, List.mem_map]
    constructor
    · rintro ⟨⟨key, _⟩, hmem, rfl⟩
      exact ((h.requests key _).mp (OrdMap.mem_entries_iff.mp hmem)).1
    · exact fun hregistered => ⟨(keyOf request, request), OrdMap.mem_entries_iff.mpr
        ((h.requests _ _).mpr ⟨hregistered, rfl⟩), rfl⟩
  rw [hlist]
  constructor
  · rintro ⟨id, descriptorID, requests, hid, hmem⟩
    obtain ⟨⟨moduleType, hmodule⟩, -⟩ := htracked.loaded id _ hid
    refine ⟨id, moduleType, descriptorID, requests, htracked.running_iff_loaded.mpr ⟨?_, ?_⟩,
      hmodule, hmem⟩
    · rw [hid]
      rfl
    · rintro ⟨moduleType', module', hmodule', -, hui⟩
      cases hmodule.symm.trans hmodule'
      cases hui
  · rintro ⟨id, moduleType, descriptorID, requests, hrunning, hmodule, hmem⟩
    obtain ⟨module, hid⟩ :=
      Option.isSome_iff_exists.mp (htracked.running_iff_loaded.mp hrunning).1
    obtain ⟨⟨moduleType', hmodule'⟩, -⟩ := htracked.loaded id _ hid
    cases hmodule.symm.trans hmodule'
    exact ⟨id, descriptorID, requests, hid, hmem⟩

end Shown

theorem entries_exportInstallation : exportInstallation.manifestsByID.entries =
    [(dashboardID, dashboardManifest), ("com.mastercontrol.export", exportManifest)] := by
  decide +kernel

theorem module?_dashboard : exportInstallation.module? dashboardID = some (.ui, .dashboard) := by
  decide +kernel

/-- Nothing else is installed. -/
theorem module?_exportInstallation {id : String} {moduleType : ModuleType}
    {module : ForsettiModule} (h : exportInstallation.module? id = some (moduleType, module)) :
    (id = dashboardID ∧ moduleType = .ui ∧ module = .dashboard) ∨
    (id = "com.mastercontrol.export" ∧ moduleType = .service ∧
      module = .service "com.mastercontrol.export" [exportRequest]) := by
  obtain ⟨manifest, hmanifest, -⟩ := Option.bind_eq_some_iff.mp h
  have hmem := OrdMap.mem_entries_iff.mpr hmanifest
  rw [entries_exportInstallation, List.mem_cons, List.mem_singleton] at hmem
  rcases hmem with hmem | hmem
  · cases hmem
    cases module?_dashboard.symm.trans h
    exact Or.inl ⟨rfl, rfl, rfl⟩
  · cases hmem
    cases module?_export.symm.trans h
    exact Or.inr ⟨rfl, rfl, rfl⟩

theorem owned_exportInstallation : exportInstallation.Owned where
  service id moduleType descriptorID requests h := by
    obtain ⟨-, -, hmodule⟩ | ⟨rfl, -, hmodule⟩ := module?_exportInstallation h
    · cases hmodule
    · cases hmodule
      refine ⟨rfl, fun request hmem => ?_⟩
      rw [List.mem_singleton.mp hmem]
      rfl
  key := by
    have hasks : ∀ request, exportInstallation.Asks request → request = exportRequest := by
      rintro request ⟨id, moduleType, descriptorID, requests, h, hmem⟩
      obtain ⟨-, -, hmodule⟩ | ⟨-, -, hmodule⟩ := module?_exportInstallation h
      · cases hmodule
      · cases hmodule
        exact List.mem_singleton.mp hmem
    exact fun request request' h h' _ => (hasks request h).trans (hasks request' h').symm
  dashboard id moduleType h := by
    obtain ⟨rfl, rfl, -⟩ | ⟨-, -, hmodule⟩ := module?_exportInstallation h
    · exact ⟨rfl, by decide⟩
    · cases hmodule

/-- The dashboard runs after the first start. -/
theorem exists_start_dashboard : ∃ started,
    (freshApplication .absent (.document exportEntitlements)).start exportInstallation
      (fun _ => {}) {} {} = some started ∧ running started.host.calls dashboardID = true := by
  obtain ⟨started, hstart, hhost⟩ :=
    exists_start exportInstallation (fun _ => {}) {} exportEntitlements
  refine ⟨started, hstart, ?_⟩
  rw [hhost]
  decide +kernel

end Modules
end MasterControl
