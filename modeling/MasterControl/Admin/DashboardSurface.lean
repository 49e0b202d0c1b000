import MasterControl.Foundation.FirstWins
import MasterControl.Foundation.Separators
import Mathlib.Data.String.Basic
import Mathlib.Data.Prod.Lex
import Mathlib.Order.Lex

/-!
# The dashboard's surface

`composeDashboardSurface` sorts the modules' requests and collects view injections, overlay routes,
toolbar items and navigation pointers, each under a key of its own, of which the first request wins.

Items, routes and destinations are thereby named once, an overlay that is opened has a route, and a
destination that is led to has a view, whatever is requested
(`coherent_composeDashboardSurface`).  The sort leaves ties, and the keys are not the names of all
that is collected; so the rest, that the order of the requests does not matter, that the other
names are distinct, that an overlay shows the view of who asked for it and that every surface can
be reached, holds exactly of requests that do not contest each other (`dashboardSurface_iff`).
-/

namespace MasterControl
namespace Admin

open Foundation

/-! ## Requests -/

inductive ControlSurfaceToolbarAction
  | navigate
  | openOverlay
deriving DecidableEq

inductive OverlayPresentation
  | sheet
  | fullScreen
  | popover
deriving DecidableEq

structure ModuleControlSurfaceRequest where
  moduleId : String
  featureId : String
  displayName : String
  destinationId : String
  surfaceTemplateId : String
  toolbarIcon : String
  overlayRouteId : String
  toolbarAction : ControlSurfaceToolbarAction := .navigate
  overlayPresentation : OverlayPresentation := .sheet
  includeToolbarShortcut : Bool := true
  includeNavigationLane : Bool := true
  sortOrder : ℤ := 100
deriving DecidableEq

def viewIdForSurfaceTemplate (surfaceTemplateId : String) : String :=
  if surfaceTemplateId = "OverviewSection" then "OverviewSectionView"
  else if surfaceTemplateId = "TelemetrySection" then "TelemetrySectionView"
  else if surfaceTemplateId = "RuntimeSection" then "RuntimeSectionView"
  else if surfaceTemplateId = "ImportsSection" then "ImportsSectionView"
  else if surfaceTemplateId = "ExportsSection" then "ExportsSectionView"
  else if surfaceTemplateId = "SecuritySection" then "SecuritySectionView"
  else if surfaceTemplateId = "SettingsSection" then "SettingsSectionView"
  else if surfaceTemplateId = "GovernanceSection" then "CommandLogicUnitSectionView"
  else ""

/-! ## What is composed -/

structure NavigationPointer where
  pointerID : String
  label : String
  baseDestinationID : String
deriving DecidableEq

inductive OverlayDestination
  | base (destinationID : String)
  | module (moduleID viewID : String)
deriving DecidableEq

structure OverlayRoute where
  routeID : String
  label : String
  presentation : OverlayPresentation
  destination : OverlayDestination
deriving DecidableEq

structure OverlaySchema where
  navigationPointers : List NavigationPointer
  overlayRoutes : List OverlayRoute
deriving DecidableEq

inductive ToolbarAction
  | navigate (destinationID : String)
  | openOverlay (routeID : String)
  | publishEvent (eventType : String)
deriving DecidableEq

structure ToolbarItemDescriptor where
  itemID : String
  title : String
  systemImageName : String
  action : ToolbarAction
deriving DecidableEq

structure ViewInjectionDescriptor where
  injectionID : String
  slot : String
  viewID : String
  priority : ℤ
deriving DecidableEq

structure UIContributions where
  toolbarItems : List ToolbarItemDescriptor
  viewInjections : List ViewInjectionDescriptor
  overlaySchema : Option OverlaySchema
deriving DecidableEq

def UIContributions.overlayRoutes (composed : UIContributions) : List OverlayRoute :=
  (composed.overlaySchema.map OverlaySchema.overlayRoutes).getD []

def UIContributions.navigationPointers (composed : UIContributions) : List NavigationPointer :=
  (composed.overlaySchema.map OverlaySchema.navigationPointers).getD []

/-! ## The sort -/

/-- What the comparison ties together. -/
def surfaceRank (request : ModuleControlSurfaceRequest) : ℤ ×ₗ String ×ₗ String :=
  toLex (request.sortOrder, toLex (request.displayName, request.featureId))

/-- A sort by the comparison; it may leave requests that tie in any order. -/
structure SurfaceSort where
  sort : List ModuleControlSurfaceRequest → List ModuleControlSurfaceRequest
  arranged : ∀ requests, Arrangement surfaceRank requests (sort requests)

/-- The sort that leaves requests that tie as they stand. -/
def stableSort : SurfaceSort where
  sort requests := requests.mergeSort fun left right => surfaceRank left ≤ surfaceRank right
  arranged requests := arrangement_mergeSort surfaceRank requests

/-! ## The loop -/

namespace ModuleControlSurfaceRequest

variable (request : ModuleControlSurfaceRequest)

def viewId : String := viewIdForSurfaceTemplate request.surfaceTemplateId

def viewKey : String := request.destinationId ++ "|" ++ request.viewId

def viewInjection : ViewInjectionDescriptor where
  injectionID := request.featureId ++ "-surface"
  slot := request.destinationId
  viewID := request.viewId
  priority := 1000 - request.sortOrder

def overlayRoute : OverlayRoute where
  routeID := request.overlayRouteId
  label := request.displayName
  presentation := request.overlayPresentation
  destination := .module "com.mastercontrol.dashboard-ui" request.viewId

def toolbarItemId : String := request.featureId ++ "-dashboard"

def action : ToolbarAction :=
  if request.toolbarAction = .openOverlay ∧ request.overlayRouteId ≠ "" then
    .openOverlay request.overlayRouteId
  else .navigate request.destinationId

def toolbarItem : ToolbarItemDescriptor where
  itemID := request.toolbarItemId
  title := request.displayName
  systemImageName := request.toolbarIcon
  action := request.action

def navigationPointer : NavigationPointer where
  pointerID := request.featureId ++ "-nav"
  label := request.displayName
  baseDestinationID := request.destinationId

end ModuleControlSurfaceRequest

/-- The sets of the loop, each with what has been put under its keys. -/
structure Composing where
  views : Collected String ViewInjectionDescriptor
  routes : Collected String OverlayRoute
  toolbar : Collected String ToolbarItemDescriptor
  navigation : Collected String NavigationPointer

def composeStep (composing : Composing) (request : ModuleControlSurfaceRequest) : Composing :=
  if request.destinationId = "" ∨ request.viewId = "" then composing
  else
    { views := composing.views.offer request.viewKey request.viewInjection
      routes :=
        if request.overlayRouteId ≠ "" then
          composing.routes.offer request.overlayRouteId request.overlayRoute
        else composing.routes
      toolbar :=
        if request.includeToolbarShortcut then
          composing.toolbar.offer request.toolbarItemId request.toolbarItem
        else composing.toolbar
      navigation :=
        if request.includeNavigationLane then
          composing.navigation.offer request.destinationId request.navigationPointer
        else composing.navigation }

def composeDashboardSurface (sorter : SurfaceSort)
    (controlSurfaceRequests : List ModuleControlSurfaceRequest) : UIContributions :=
  let composing := (sorter.sort controlSurfaceRequests).foldl composeStep
    ⟨⟨[], []⟩, ⟨[], []⟩, ⟨[], []⟩, ⟨[], []⟩⟩
  { toolbarItems := composing.toolbar.items
    viewInjections := composing.views.items
    overlaySchema := some ⟨composing.navigation.items, composing.routes.items⟩ }

/-! ## What is collected -/

namespace ModuleControlSurfaceRequest

variable (request : ModuleControlSurfaceRequest)

/-- A known template and a destination. -/
def hasSurface : Bool := request.destinationId ≠ "" && request.viewId ≠ ""

def asksOverlay : Bool := request.hasSurface && request.overlayRouteId ≠ ""

def asksToolbar : Bool := request.hasSurface && request.includeToolbarShortcut

def asksNavigation : Bool := request.hasSurface && request.includeNavigationLane

end ModuleControlSurfaceRequest

open ModuleControlSurfaceRequest

variable {request other : ModuleControlSurfaceRequest}

theorem hasSurface_iff :
    request.hasSurface = true ↔ request.destinationId ≠ "" ∧ request.viewId ≠ "" := by
  rw [hasSurface, Bool.and_eq_true, decide_eq_true_iff, decide_eq_true_iff]

/-- A set of the loop that is offered something of the requests that ask for it holds what is
collected of the list. -/
theorem items_foldl_composeStep {ε : Type} (set : Composing → Collected String ε)
    {asks : ModuleControlSurfaceRequest → Bool} {key : ModuleControlSurfaceRequest → String}
    {entry : ModuleControlSurfaceRequest → ε}
    (hstep : ∀ composing request, set (composeStep composing request) =
      if asks request then (set composing).offer (key request) (entry request) else set composing)
    {composing : Composing} (hempty : set composing = ⟨[], []⟩)
    (requests : List ModuleControlSurfaceRequest) :
    (set (requests.foldl composeStep composing)).items = collect asks key entry requests := by
  have hfold : set (requests.foldl composeStep composing) =
      (requests.filter asks).foldl (fun collected request =>
        collected.offer (key request) (entry request)) (set composing) := by
    rw [List.foldl_filter]
    exact (List.foldl_hom set fun composing request => (hstep composing request).symm).symm
  rw [hfold, items_foldl_offer, hempty, List.nil_append, collect]
  congr 1
  exact List.filter_eq_self.mpr fun request _ => decide_eq_true List.not_mem_nil

/-- One turn of the loop, seen from one of its sets. -/
theorem composeStep_of_hasSurface (composing : Composing) (h : request.hasSurface = true) :
    composeStep composing request =
      { views := composing.views.offer request.viewKey request.viewInjection
        routes :=
          if request.overlayRouteId ≠ "" then
            composing.routes.offer request.overlayRouteId request.overlayRoute
          else composing.routes
        toolbar :=
          if request.includeToolbarShortcut then
            composing.toolbar.offer request.toolbarItemId request.toolbarItem
          else composing.toolbar
        navigation :=
          if request.includeNavigationLane then
            composing.navigation.offer request.destinationId request.navigationPointer
          else composing.navigation } := by
  obtain ⟨hdestination, hview⟩ := hasSurface_iff.mp h
  rw [composeStep, if_neg (not_or.mpr ⟨hdestination, hview⟩)]

theorem composeStep_of_not_hasSurface (composing : Composing) (h : request.hasSurface = false) :
    composeStep composing request = composing := by
  refine if_pos (by_contra fun hnot => ?_)
  rw [hasSurface_iff.mpr (not_or.mp hnot)] at h
  exact Bool.noConfusion h

section Components

variable (sorter : SurfaceSort) (requests : List ModuleControlSurfaceRequest)

theorem viewInjections_composeDashboardSurface :
    (composeDashboardSurface sorter requests).viewInjections =
      collect hasSurface viewKey viewInjection (sorter.sort requests) := by
  refine items_foldl_composeStep Composing.views (fun composing request => ?_) rfl _
  cases h : request.hasSurface with
  | false => rw [composeStep_of_not_hasSurface composing h, if_neg Bool.false_ne_true]
  | true => rw [composeStep_of_hasSurface composing h, if_pos rfl]

theorem overlayRoutes_composeDashboardSurface :
    (composeDashboardSurface sorter requests).overlayRoutes =
      collect asksOverlay overlayRouteId overlayRoute (sorter.sort requests) := by
  refine items_foldl_composeStep Composing.routes (fun composing request => ?_) rfl _
  cases h : request.hasSurface with
  | false => rw [composeStep_of_not_hasSurface composing h, asksOverlay, h, Bool.false_and,
      if_neg Bool.false_ne_true]
  | true => simp only [composeStep_of_hasSurface composing h, asksOverlay, h, Bool.true_and,
      decide_eq_true_iff]

theorem toolbarItems_composeDashboardSurface :
    (composeDashboardSurface sorter requests).toolbarItems =
      collect asksToolbar toolbarItemId toolbarItem (sorter.sort requests) := by
  refine items_foldl_composeStep Composing.toolbar (fun composing request => ?_) rfl _
  cases h : request.hasSurface with
  | false => rw [composeStep_of_not_hasSurface composing h, asksToolbar, h, Bool.false_and,
      if_neg Bool.false_ne_true]
  | true => rw [composeStep_of_hasSurface composing h, asksToolbar, h, Bool.true_and]

theorem navigationPointers_composeDashboardSurface :
    (composeDashboardSurface sorter requests).navigationPointers =
      collect asksNavigation destinationId navigationPointer (sorter.sort requests) := by
  refine items_foldl_composeStep Composing.navigation (fun composing request => ?_) rfl _
  cases h : request.hasSurface with
  | false => rw [composeStep_of_not_hasSurface composing h, asksNavigation, h, Bool.false_and,
      if_neg Bool.false_ne_true]
  | true => rw [composeStep_of_hasSurface composing h, asksNavigation, h, Bool.true_and]

theorem composeDashboardSurface_eq : composeDashboardSurface sorter requests =
    { toolbarItems := collect asksToolbar toolbarItemId toolbarItem (sorter.sort requests)
      viewInjections := collect hasSurface viewKey viewInjection (sorter.sort requests)
      overlaySchema := some
        { navigationPointers :=
            collect asksNavigation destinationId navigationPointer (sorter.sort requests)
          overlayRoutes :=
            collect asksOverlay overlayRouteId overlayRoute (sorter.sort requests) } } := by
  rw [← toolbarItems_composeDashboardSurface, ← viewInjections_composeDashboardSurface,
    ← navigationPointers_composeDashboardSurface, ← overlayRoutes_composeDashboardSurface]
  rfl

end Components

/-! ## What holds of every list -/

/-- What a surface is whatever is requested: items, routes and destinations are named once, an
overlay that an item opens has a route, and a destination that is led to has a view. -/
structure Coherent (composed : UIContributions) : Prop where
  items : (composed.toolbarItems.map ToolbarItemDescriptor.itemID).Nodup
  routes : (composed.overlayRoutes.map OverlayRoute.routeID).Nodup
  destinations : (composed.navigationPointers.map NavigationPointer.baseDestinationID).Nodup
  opened : ∀ item ∈ composed.toolbarItems, ∀ routeID, item.action = .openOverlay routeID →
    ∃ route ∈ composed.overlayRoutes, route.routeID = routeID
  ledByItem : ∀ item ∈ composed.toolbarItems, ∀ destinationID,
    item.action = .navigate destinationID →
      ∃ view ∈ composed.viewInjections, view.slot = destinationID
  ledByPointer : ∀ pointer ∈ composed.navigationPointers,
    ∃ view ∈ composed.viewInjections, view.slot = pointer.baseDestinationID

/-- The view that a request asks for stands at its destination. -/
def HasView (composed : UIContributions) (request : ModuleControlSurfaceRequest) : Prop :=
  ∃ view ∈ composed.viewInjections, view.slot = request.destinationId ∧ view.viewID = request.viewId

/-- An overlay route shows the view that a request asks for. -/
def Shows (composed : UIContributions) (routeID : String) (request : ModuleControlSurfaceRequest) :
    Prop :=
  ∃ route ∈ composed.overlayRoutes, route.routeID = routeID ∧
    route.destination = .module "com.mastercontrol.dashboard-ui" request.viewId

theorem notMem_viewIdForSurfaceTemplate (surfaceTemplateId : String) :
    '|' ∉ (viewIdForSurfaceTemplate surfaceTemplateId).toList := by
  unfold viewIdForSurfaceTemplate
  split_ifs <;> decide

/-- The key of a view names its destination and the view. -/
theorem viewKey_inj (h : request.viewKey = other.viewKey) :
    request.destinationId = other.destinationId ∧ request.viewId = other.viewId := by
  have hlist := congrArg (fun s => s.toList.reverse) h
  simp only [viewKey, String.toList_append, List.reverse_append, List.append_assoc] at hlist
  obtain ⟨hview, hdestination⟩ := append_cons_inj_left
    (mt List.mem_reverse.mp (notMem_viewIdForSurfaceTemplate request.surfaceTemplateId))
    (mt List.mem_reverse.mp (notMem_viewIdForSurfaceTemplate other.surfaceTemplateId)) hlist
  exact ⟨String.toList_inj.mp (List.reverse_injective hdestination),
    String.toList_inj.mp (List.reverse_injective hview)⟩

theorem hasSurface_of_asksToolbar (h : request.asksToolbar = true) :
    request.hasSurface = true ∧ request.includeToolbarShortcut = true := by
  rwa [asksToolbar, Bool.and_eq_true] at h

theorem hasSurface_of_asksNavigation (h : request.asksNavigation = true) :
    request.hasSurface = true ∧ request.includeNavigationLane = true := by
  rwa [asksNavigation, Bool.and_eq_true] at h

/-- An item that opens an overlay is of a request that asks for its route. -/
theorem action_eq_openOverlay {routeID : String} (h : request.action = .openOverlay routeID) :
    request.overlayRouteId = routeID ∧ request.overlayRouteId ≠ "" := by
  rw [action] at h
  split_ifs at h with hopen
  exact ⟨ToolbarAction.openOverlay.inj h, hopen.2⟩

theorem action_eq_navigate {destinationID : String} (h : request.action = .navigate destinationID) :
    request.destinationId = destinationID := by
  rw [action] at h
  split_ifs at h with hopen
  exact ToolbarAction.navigate.inj h

section Always

variable {requests : List ModuleControlSurfaceRequest} (sorter : SurfaceSort)

theorem mem_sort_iff : request ∈ sorter.sort requests ↔ request ∈ requests :=
  (sorter.arranged requests).perm.mem_iff

theorem hasView (h : request ∈ requests) (hsurface : request.hasSurface = true) :
    HasView (composeDashboardSurface sorter requests) request := by
  obtain ⟨first, hmem, hasks, hkey, hentry⟩ := exists_mem_collect viewKey
    viewInjection ((mem_sort_iff sorter).mpr h) hsurface
  rw [← viewInjections_composeDashboardSurface sorter requests] at hentry
  obtain ⟨hdestination, hview⟩ := viewKey_inj hkey
  exact ⟨first.viewInjection, hentry, hdestination, hview⟩

/-- **Whatever is requested, the surface is coherent.** -/
theorem coherent_composeDashboardSurface (requests : List ModuleControlSurfaceRequest) :
    Coherent (composeDashboardSurface sorter requests) where
  items := by
    rw [toolbarItems_composeDashboardSurface]
    exact nodup_map_collect (fun request => rfl) _
  routes := by
    rw [overlayRoutes_composeDashboardSurface]
    exact nodup_map_collect (fun request => rfl) _
  destinations := by
    rw [navigationPointers_composeDashboardSurface]
    exact nodup_map_collect (fun request => rfl) _
  opened item hitem routeID haction := by
    rw [toolbarItems_composeDashboardSurface] at hitem
    obtain ⟨request, hmem, hasks, rfl⟩ := exists_of_mem_collect hitem
    obtain ⟨rfl, hroute⟩ := action_eq_openOverlay haction
    have hoverlay : request.asksOverlay = true := by
      rw [asksOverlay, (hasSurface_of_asksToolbar hasks).1, Bool.true_and]
      exact decide_eq_true hroute
    obtain ⟨first, _, _, hkey, hentry⟩ := exists_mem_collect overlayRouteId
      overlayRoute hmem hoverlay
    rw [← overlayRoutes_composeDashboardSurface sorter requests] at hentry
    exact ⟨first.overlayRoute, hentry, hkey⟩
  ledByItem item hitem destinationID haction := by
    rw [toolbarItems_composeDashboardSurface] at hitem
    obtain ⟨request, hmem, hasks, rfl⟩ := exists_of_mem_collect hitem
    obtain ⟨view, hview, hslot, _⟩ := hasView sorter ((mem_sort_iff sorter).mp hmem)
      (hasSurface_of_asksToolbar hasks).1
    exact ⟨view, hview, hslot.trans (action_eq_navigate haction)⟩
  ledByPointer pointer hpointer := by
    rw [navigationPointers_composeDashboardSurface] at hpointer
    obtain ⟨request, hmem, hasks, rfl⟩ := exists_of_mem_collect hpointer
    obtain ⟨view, hview, hslot, _⟩ := hasView sorter ((mem_sort_iff sorter).mp hmem)
      (hasSurface_of_asksNavigation hasks).1
    exact ⟨view, hview, hslot⟩

end Always

/-! ## What holds of requests that do not contest each other -/

/-- An entry that a request asked for leads to the view it asked for. -/
def Reachable (composed : UIContributions) (request : ModuleControlSurfaceRequest) : Prop :=
  (request.includeNavigationLane = true ∧ HasView composed request ∧
    ∃ pointer ∈ composed.navigationPointers, pointer.baseDestinationID = request.destinationId) ∨
  (request.includeToolbarShortcut = true ∧
    ∃ item ∈ composed.toolbarItems, item.itemID = request.toolbarItemId ∧
      ((item.action = .navigate request.destinationId ∧ HasView composed request) ∨
        ∃ routeID, item.action = .openOverlay routeID ∧ Shows composed routeID request))

/-- What depends on the requests: that their order does not matter, that the other names are
distinct too, that an overlay shows the view of whoever asked for the item that opens it, and that
every surface can be reached. -/
structure Dependable (sorter : SurfaceSort) (requests : List ModuleControlSurfaceRequest) :
    Prop where
  independent : ∀ requests', requests'.Perm requests →
    composeDashboardSurface sorter requests' = composeDashboardSurface sorter requests
  pointers : ((composeDashboardSurface sorter requests).navigationPointers.map
    NavigationPointer.pointerID).Nodup
  views : ((composeDashboardSurface sorter requests).viewInjections.map
    ViewInjectionDescriptor.injectionID).Nodup
  shows : ∀ item ∈ (composeDashboardSurface sorter requests).toolbarItems, ∀ routeID,
    item.action = .openOverlay routeID → ∀ request ∈ requests, request.asksToolbar = true →
      request.toolbarItemId = item.itemID →
        Shows (composeDashboardSurface sorter requests) routeID request
  reachable : ∀ request ∈ requests, request.hasSurface = true →
    Reachable (composeDashboardSurface sorter requests) request

/-- No other request for the item comes before it, but for ties. -/
def TakesItem (requests : List ModuleControlSurfaceRequest) : ModuleControlSurfaceRequest → Prop :=
  Leads surfaceRank toolbarItemId (requests.filter asksToolbar)

def TakesRoute (requests : List ModuleControlSurfaceRequest) : ModuleControlSurfaceRequest → Prop :=
  Leads surfaceRank overlayRouteId (requests.filter asksOverlay)

def TakesDestination (requests : List ModuleControlSurfaceRequest) :
    ModuleControlSurfaceRequest → Prop :=
  Leads surfaceRank destinationId (requests.filter asksNavigation)

def TakesView (requests : List ModuleControlSurfaceRequest) : ModuleControlSurfaceRequest → Prop :=
  Leads surfaceRank viewKey (requests.filter hasSurface)

/-- Requests that do not contest what they ask for. -/
structure Uncontested (requests : List ModuleControlSurfaceRequest) : Prop where
  items : TiesAgree surfaceRank toolbarItemId toolbarItem (requests.filter asksToolbar)
  routes : TiesAgree surfaceRank overlayRouteId overlayRoute (requests.filter asksOverlay)
  pointers : ∀ a b, TakesDestination requests a → TakesDestination requests b →
    a.featureId = b.featureId → a.destinationId = b.destinationId
  views : ∀ a b, TakesView requests a → TakesView requests b →
    a.featureId = b.featureId → a.viewKey = b.viewKey
  overlays : ∀ a, TakesItem requests a → ∀ routeID, a.action = .openOverlay routeID →
    ∀ request ∈ requests, request.asksToolbar = true → request.featureId = a.featureId →
      ∀ b, TakesRoute requests b → b.overlayRouteId = routeID → b.viewId = request.viewId
  entries : ∀ request ∈ requests, request.hasSurface = true →
    request.includeNavigationLane = true ∨
      (request.includeToolbarShortcut = true ∧ ∀ a, TakesItem requests a →
        a.featureId = request.featureId →
          a.action = .navigate request.destinationId ∨ ∃ routeID, a.action = .openOverlay routeID)

theorem surfaceRank_eq_iff : surfaceRank request = surfaceRank other ↔
    request.sortOrder = other.sortOrder ∧ request.displayName = other.displayName ∧
      request.featureId = other.featureId := by
  rw [surfaceRank, surfaceRank, toLex_inj, Prod.mk.injEq, toLex_inj, Prod.mk.injEq]

section Conditions

variable {requests : List ModuleControlSurfaceRequest} {sorter : SurfaceSort}

/-- The pointers are named by the features of requests that lead. -/
theorem nodup_pointerID_iff :
    ((composeDashboardSurface sorter requests).navigationPointers.map
      NavigationPointer.pointerID).Nodup ↔
    ∀ a b, TakesDestination requests a → TakesDestination requests b →
      a.featureId = b.featureId → a.destinationId = b.destinationId := by
  have hname : ∀ a b : ModuleControlSurfaceRequest,
      a.navigationPointer.pointerID = b.navigationPointer.pointerID ↔ a.featureId = b.featureId :=
    fun a b => String.append_left_inj "-nav"
  rw [navigationPointers_composeDashboardSurface, nodup_map_collect_iff
    (fun a b h => (hname a b).mpr (surfaceRank_eq_iff.mp h).2.2) (sorter.arranged requests)]
  simp only [hname]
  rfl

theorem nodup_injectionID_iff :
    ((composeDashboardSurface sorter requests).viewInjections.map
      ViewInjectionDescriptor.injectionID).Nodup ↔
    ∀ a b, TakesView requests a → TakesView requests b →
      a.featureId = b.featureId → a.viewKey = b.viewKey := by
  have hname : ∀ a b : ModuleControlSurfaceRequest,
      a.viewInjection.injectionID = b.viewInjection.injectionID ↔ a.featureId = b.featureId :=
    fun a b => String.append_left_inj "-surface"
  rw [viewInjections_composeDashboardSurface, nodup_map_collect_iff
    (fun a b h => (hname a b).mpr (surfaceRank_eq_iff.mp h).2.2) (sorter.arranged requests)]
  simp only [hname]
  rfl

/-- Requests that ask for an item of one name are of one feature. -/
theorem toolbarItemId_inj : request.toolbarItemId = other.toolbarItemId ↔
    request.featureId = other.featureId :=
  String.append_left_inj "-dashboard"

theorem navigationPointer_eq (hrank : surfaceRank request = surfaceRank other)
    (h : request.destinationId = other.destinationId) :
    request.navigationPointer = other.navigationPointer := by
  obtain ⟨_, hdisplay, hfeature⟩ := surfaceRank_eq_iff.mp hrank
  rw [navigationPointer, navigationPointer, hdisplay, hfeature, h]

theorem viewInjection_eq (hrank : surfaceRank request = surfaceRank other)
    (h : request.viewKey = other.viewKey) : request.viewInjection = other.viewInjection := by
  obtain ⟨hsort, _, hfeature⟩ := surfaceRank_eq_iff.mp hrank
  obtain ⟨hdestination, hview⟩ := viewKey_inj h
  rw [viewInjection, viewInjection, hsort, hfeature, hdestination, hview]

/-- In each of the four collections what may come first gives the same where it ties. -/
theorem Uncontested.independent (h : Uncontested requests)
    {requests' : List ModuleControlSurfaceRequest} (hperm : requests'.Perm requests) :
    composeDashboardSurface sorter requests' = composeDashboardSurface sorter requests := by
  have harranged : Arrangement surfaceRank requests (sorter.sort requests') :=
    ⟨(sorter.arranged requests').perm.trans hperm, (sorter.arranged requests').sorted⟩
  have hpointers : TiesAgree surfaceRank destinationId navigationPointer
      (requests.filter asksNavigation) := fun a b ha hb hrank =>
    navigationPointer_eq hrank (h.pointers a b ha hb (surfaceRank_eq_iff.mp hrank).2.2)
  have hviews : TiesAgree surfaceRank viewKey viewInjection (requests.filter hasSurface) :=
    fun a b ha hb hrank =>
      viewInjection_eq hrank (h.views a b ha hb (surfaceRank_eq_iff.mp hrank).2.2)
  have hkey : ∀ a b : ModuleControlSurfaceRequest, a.viewInjection = b.viewInjection →
      a.viewKey = b.viewKey := fun a b hentry =>
    congrArg₂ (fun slot viewID => slot ++ "|" ++ viewID)
      (congrArg ViewInjectionDescriptor.slot hentry)
      (congrArg ViewInjectionDescriptor.viewID hentry)
  have hitemList := (forall_arrangement_iff surfaceRank toolbarItemId toolbarItem
    (fun _ _ => congrArg ToolbarItemDescriptor.itemID) asksToolbar requests).mpr h.items
    _ _ harranged (sorter.arranged requests)
  have hrouteList := (forall_arrangement_iff surfaceRank overlayRouteId overlayRoute
    (fun _ _ => congrArg OverlayRoute.routeID) asksOverlay requests).mpr h.routes
    _ _ harranged (sorter.arranged requests)
  have hpointerList := (forall_arrangement_iff surfaceRank destinationId navigationPointer
    (fun _ _ => congrArg NavigationPointer.baseDestinationID) asksNavigation requests).mpr
    hpointers _ _ harranged (sorter.arranged requests)
  have hviewList := (forall_arrangement_iff surfaceRank viewKey viewInjection hkey hasSurface
    requests).mpr hviews _ _ harranged (sorter.arranged requests)
  rw [composeDashboardSurface_eq, composeDashboardSurface_eq, hitemList, hrouteList, hpointerList,
    hviewList]

/-- An item that opens an overlay shows what everyone who asked for the item asked for. -/
theorem Uncontested.shows (h : Uncontested requests) {a : ModuleControlSurfaceRequest}
    (ha : TakesItem requests a)
    (hitem : a.toolbarItem ∈ (composeDashboardSurface sorter requests).toolbarItems)
    {routeID : String} (haction : a.action = .openOverlay routeID) (hmem : request ∈ requests)
    (hasks : request.asksToolbar = true) (hfeature : request.featureId = a.featureId) :
    Shows (composeDashboardSurface sorter requests) routeID request := by
  obtain ⟨route, hroute, hid⟩ :=
    (coherent_composeDashboardSurface sorter requests).opened _ hitem routeID haction
  obtain ⟨b, hb, rfl⟩ := exists_leads_of_mem_collect (sorter.arranged requests)
    ((overlayRoutes_composeDashboardSurface sorter requests) ▸ hroute)
  have hview := h.overlays a ha routeID haction request hmem hasks hfeature b hb hid
  exact ⟨b.overlayRoute, hroute, hid, by rw [overlayRoute, hview]⟩

/-- The item of a name is of one that leads. -/
theorem exists_takesItem {item : ToolbarItemDescriptor}
    (hitem : item ∈ (composeDashboardSurface sorter requests).toolbarItems) :
    ∃ a, TakesItem requests a ∧ a.toolbarItem = item :=
  exists_leads_of_mem_collect (sorter.arranged requests)
    ((toolbarItems_composeDashboardSurface sorter requests) ▸ hitem)

theorem Uncontested.reachable (h : Uncontested requests) (hmem : request ∈ requests)
    (hsurface : request.hasSurface = true) :
    Reachable (composeDashboardSurface sorter requests) request := by
  have hview := hasView sorter hmem hsurface
  rcases h.entries request hmem hsurface with hlane | ⟨hshortcut, hleads⟩
  · have hasks : request.asksNavigation = true := by rw [asksNavigation, hsurface, hlane]; rfl
    obtain ⟨first, _, _, hkey, hentry⟩ := exists_mem_collect destinationId
      navigationPointer ((mem_sort_iff sorter).mpr hmem) hasks
    rw [← navigationPointers_composeDashboardSurface sorter requests] at hentry
    exact Or.inl ⟨hlane, hview, first.navigationPointer, hentry, hkey⟩
  · have hasks : request.asksToolbar = true := by rw [asksToolbar, hsurface, hshortcut]; rfl
    obtain ⟨first, _, _, hkey, hentry⟩ := exists_mem_collect toolbarItemId
      toolbarItem ((mem_sort_iff sorter).mpr hmem) hasks
    rw [← toolbarItems_composeDashboardSurface sorter requests] at hentry
    obtain ⟨a, ha, hitem⟩ := exists_takesItem hentry
    have hid : a.toolbarItemId = request.toolbarItemId :=
      (congrArg ToolbarItemDescriptor.itemID hitem).trans hkey
    have hfeature := toolbarItemId_inj.mp hid
    rw [← hitem] at hentry
    refine Or.inr ⟨hshortcut, a.toolbarItem, hentry, hid, ?_⟩
    rcases hleads a ha hfeature with hnavigate | ⟨routeID, hopen⟩
    · exact Or.inl ⟨hnavigate, hview⟩
    · exact Or.inr ⟨routeID, hopen, h.shows ha hentry hopen hmem hasks hfeature.symm⟩

theorem Uncontested.dependable (h : Uncontested requests) (sorter : SurfaceSort) :
    Dependable sorter requests where
  independent _ hperm := h.independent hperm
  pointers := nodup_pointerID_iff.mpr h.pointers
  views := nodup_injectionID_iff.mpr h.views
  shows item hitem routeID haction request hmem hasks hid := by
    obtain ⟨a, ha, rfl⟩ := exists_takesItem hitem
    exact h.shows ha hitem haction hmem hasks (toolbarItemId_inj.mp hid)
  reachable _ hmem hsurface := h.reachable hmem hsurface

/-- A surface that does not depend on the order of the requests does not depend on the order that
a sort leaves among ties. -/
theorem Dependable.composed_eq (h : Dependable stableSort requests)
    {r : List ModuleControlSurfaceRequest} (hr : Arrangement surfaceRank requests r) :
    composeDashboardSurface stableSort requests =
      { toolbarItems := collect asksToolbar toolbarItemId toolbarItem r
        viewInjections := collect hasSurface viewKey viewInjection r
        overlaySchema := some
          { navigationPointers := collect asksNavigation destinationId navigationPointer r
            overlayRoutes := collect asksOverlay overlayRouteId overlayRoute r } } := by
  have hsort : stableSort.sort r = r := hr.mergeSort_eq
  rw [← h.independent r hr.perm, composeDashboardSurface_eq, hsort]

theorem Dependable.items (h : Dependable stableSort requests) :
    TiesAgree surfaceRank toolbarItemId toolbarItem (requests.filter asksToolbar) := by
  refine (forall_arrangement_iff surfaceRank toolbarItemId toolbarItem
      (fun _ _ => congrArg ToolbarItemDescriptor.itemID) asksToolbar
    requests).mp fun r r' hr hr' => ?_
  have heq := (h.composed_eq hr).symm.trans (h.composed_eq hr')
  exact congrArg UIContributions.toolbarItems heq

theorem Dependable.routes (h : Dependable stableSort requests) :
    TiesAgree surfaceRank overlayRouteId overlayRoute (requests.filter asksOverlay) := by
  refine (forall_arrangement_iff surfaceRank overlayRouteId overlayRoute
      (fun _ _ => congrArg OverlayRoute.routeID) asksOverlay
    requests).mp fun r r' hr hr' => ?_
  have heq := (h.composed_eq hr).symm.trans (h.composed_eq hr')
  exact congrArg UIContributions.overlayRoutes heq

theorem Dependable.mem_toolbarItems (h : Dependable stableSort requests)
    (hrequest : TakesItem requests request) :
    request.toolbarItem ∈ (composeDashboardSurface stableSort requests).toolbarItems := by
  rw [toolbarItems_composeDashboardSurface]
  exact mem_collect_of_leads h.items (stableSort.arranged requests) hrequest

theorem Dependable.mem_overlayRoutes (h : Dependable stableSort requests)
    (hrequest : TakesRoute requests request) :
    request.overlayRoute ∈ (composeDashboardSurface stableSort requests).overlayRoutes := by
  rw [overlayRoutes_composeDashboardSurface]
  exact mem_collect_of_leads h.routes (stableSort.arranged requests) hrequest

theorem Dependable.uncontested (h : Dependable stableSort requests) : Uncontested requests where
  items := h.items
  routes := h.routes
  pointers := nodup_pointerID_iff.mp h.pointers
  views := nodup_injectionID_iff.mp h.views
  overlays a ha routeID haction request hmem hasks hfeature b hb hid := by
    obtain ⟨route, hroute, hrouteID, hdestination⟩ := h.shows _ (h.mem_toolbarItems ha) routeID
      haction request hmem hasks (toolbarItemId_inj.mpr hfeature)
    have heq : route = b.overlayRoute := List.inj_on_of_nodup_map
      (coherent_composeDashboardSurface stableSort requests).routes hroute (h.mem_overlayRoutes hb)
      (hrouteID.trans hid.symm)
    rw [heq] at hdestination
    exact (OverlayDestination.module.inj hdestination).2
  entries request hmem hsurface := by
    rcases h.reachable request hmem hsurface with ⟨hlane, _⟩ | ⟨hshortcut, item, hitem, hid, hleads⟩
    · exact Or.inl hlane
    · refine Or.inr ⟨hshortcut, fun a ha hfeature => ?_⟩
      have heq : item = a.toolbarItem := List.inj_on_of_nodup_map
        (coherent_composeDashboardSurface stableSort requests).items hitem (h.mem_toolbarItems ha)
        (hid.trans (toolbarItemId_inj.mpr hfeature.symm))
      subst heq
      rcases hleads with ⟨hnavigate, _⟩ | ⟨routeID, hopen, _⟩
      · exact Or.inl hnavigate
      · exact Or.inr ⟨routeID, hopen⟩

end Conditions

/-- **The surface is coherent whatever is requested; and whatever the sort does with ties, the order
of the requests does not matter, names are distinct, overlays show what was asked for and every
surface can be reached, exactly when the requests do not contest each other.** -/
theorem dashboardSurface_iff (requests : List ModuleControlSurfaceRequest) :
    (∀ sorter, Coherent (composeDashboardSurface sorter requests)) ∧
      ((∀ sorter, Dependable sorter requests) ↔ Uncontested requests) :=
  ⟨fun sorter => coherent_composeDashboardSurface sorter requests,
    fun h => (h stableSort).uncontested, fun h sorter => h.dependable sorter⟩

/-! ## Contested requests -/

theorem surfaceRank_le_of_lt (h : request.sortOrder < other.sortOrder) :
    surfaceRank request ≤ surfaceRank other :=
  le_of_lt (Prod.Lex.toLex_lt_toLex.mpr (Or.inl h))

/-- It takes a route and asks for no entry. -/
def detailsRequest : ModuleControlSurfaceRequest where
  moduleId := "com.mastercontrol.runtime-inventory"
  featureId := "status-details"
  displayName := "Details"
  destinationId := "runtime"
  surfaceTemplateId := "RuntimeSection"
  toolbarIcon := "globe"
  overlayRouteId := "status-overlay"
  includeToolbarShortcut := false
  includeNavigationLane := false
  sortOrder := 1

/-- It opens the route that is taken. -/
def overviewRequest : ModuleControlSurfaceRequest where
  moduleId := "com.mastercontrol.environment-discovery"
  featureId := "status"
  displayName := "Status"
  destinationId := "overview"
  surfaceTemplateId := "OverviewSection"
  toolbarIcon := "network"
  overlayRouteId := "status-overlay"
  toolbarAction := .openOverlay

/-- A feature of the same name in another module. -/
def telemetryRequest : ModuleControlSurfaceRequest where
  moduleId := "com.mastercontrol.host-telemetry"
  featureId := "status"
  displayName := "Status"
  destinationId := "telemetry"
  surfaceTemplateId := "TelemetrySection"
  toolbarIcon := "trackers"
  overlayRouteId := ""

/-- Behind the first request the two others tie. -/
theorem stableSort_contested {first second : ModuleControlSurfaceRequest}
    (hfirst : detailsRequest.sortOrder < first.sortOrder)
    (hsecond : detailsRequest.sortOrder < second.sortOrder)
    (hties : surfaceRank first = surfaceRank second) :
    stableSort.sort [detailsRequest, first, second] = [detailsRequest, first, second] := by
  refine Arrangement.mergeSort_eq ⟨List.Perm.refl _, ?_⟩
  refine List.pairwise_cons.mpr ⟨fun request hmem => ?_, List.pairwise_cons.mpr
    ⟨fun request hmem => ?_, List.pairwise_singleton _ _⟩⟩
  · rcases List.mem_cons.mp hmem with rfl | hmem
    · exact surfaceRank_le_of_lt hfirst
    · rw [List.mem_singleton.mp hmem]
      exact surfaceRank_le_of_lt hsecond
  · rw [List.mem_singleton.mp hmem]
    exact hties.le

/-- Two modules with a feature of one name, and a third that takes the overlay of one of them: the
order of the two matters, their pointers and their views have one name, the item opens what the
third shows, and the third is not reached. -/
theorem not_dependable_contested :
    ([detailsRequest, overviewRequest, telemetryRequest].map
      fun request => (request.moduleId, request.featureId)).Nodup ∧
    composeDashboardSurface stableSort [detailsRequest, telemetryRequest, overviewRequest] ≠
      composeDashboardSurface stableSort [detailsRequest, overviewRequest, telemetryRequest] ∧
    ¬ ((composeDashboardSurface stableSort
      [detailsRequest, overviewRequest, telemetryRequest]).navigationPointers.map
        NavigationPointer.pointerID).Nodup ∧
    ¬ ((composeDashboardSurface stableSort
      [detailsRequest, overviewRequest, telemetryRequest]).viewInjections.map
        ViewInjectionDescriptor.injectionID).Nodup ∧
    (overviewRequest.toolbarItem ∈ (composeDashboardSurface stableSort
      [detailsRequest, overviewRequest, telemetryRequest]).toolbarItems ∧
      overviewRequest.toolbarItem.action = .openOverlay "status-overlay" ∧
      ¬ Shows (composeDashboardSurface stableSort
        [detailsRequest, overviewRequest, telemetryRequest]) "status-overlay" overviewRequest) ∧
    (detailsRequest.hasSurface = true ∧
      ∀ sorter, ¬ Reachable (composeDashboardSurface sorter
        [detailsRequest, overviewRequest, telemetryRequest]) detailsRequest) := by
  have hsort : stableSort.sort [detailsRequest, overviewRequest, telemetryRequest] =
      [detailsRequest, overviewRequest, telemetryRequest] :=
    stableSort_contested (by decide) (by decide) rfl
  have hswapped : stableSort.sort [detailsRequest, telemetryRequest, overviewRequest] =
      [detailsRequest, telemetryRequest, overviewRequest] :=
    stableSort_contested (by decide) (by decide) rfl
  rw [composeDashboardSurface, composeDashboardSurface, hsort, hswapped]
  refine ⟨by decide +kernel, by decide +kernel, by decide +kernel, by decide +kernel,
    ⟨by decide +kernel, by decide +kernel, ?_⟩, by decide +kernel, fun sorter hreached => ?_⟩
  · unfold Shows
    decide +kernel
  · rcases hreached with ⟨hlane, _⟩ | ⟨hshortcut, _⟩
    · exact absurd hlane (by decide)
    · exact absurd hshortcut (by decide)

end Admin
end MasterControl
