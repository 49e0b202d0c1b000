import MasterControl.Foundation.JsonAccess
import MasterControl.Foundation.OrdSet
import Mathlib.Data.String.Basic

/-!
# The persisted activation

`ActivationState` names the modules that are enabled and is kept as JSON in a file.  A state that
is written is read back (`fromJson_toJson`); an older file that calls the selected module
`activeUIModuleID` is understood as well.
-/

namespace MasterControl
namespace Modules

open Foundation

structure ActivationState where
  enabledServiceModuleIDs : OrdSet String := OrdSet.empty
  enabledUIModuleIDs : OrdSet String := OrdSet.empty
  selectedUIModuleID : Option String := none
  deriving DecidableEq

/-! ## As JSON -/

def idsToJson (ids : OrdSet String) : Json := .array (ids.toList.map .string)

/-- `get_to` a set; what is no array of strings throws. -/
def idsFromJson : Json → Option (OrdSet String)
  | .array elements => (elements.mapM Json.asString?).map OrdSet.ofList
  | _ => none

def ActivationState.toJson (state : ActivationState) : Json :=
  .object
    [("enabledServiceModuleIDs", idsToJson state.enabledServiceModuleIDs),
      ("enabledUIModuleIDs", idsToJson state.enabledUIModuleIDs),
      ("selectedUIModuleID", match state.selectedUIModuleID with
        | none => .null
        | some id => .string id)]

/-- A member that may be missing. -/
def optionalIds (json : Json) (key : String) : Option (OrdSet String) :=
  match json.member? key with
  | none => some OrdSet.empty
  | some ids => idsFromJson ids

/-- The selected module, under its name or under the one of older files; null is none. -/
def selectedFromJson (json : Json) : Option (Option String) :=
  let legacy : Option (Option String) :=
    match json.member? "activeUIModuleID" with
    | none => some none
    | some .null => some none
    | some id => id.asString?.map some
  match json.member? "selectedUIModuleID" with
  | none => legacy
  | some .null => legacy
  | some id => id.asString?.map some

/-- `none` is an exception. -/
def ActivationState.fromJson (json : Json) : Option ActivationState := do
  let services ← optionalIds json "enabledServiceModuleIDs"
  let uis ← optionalIds json "enabledUIModuleIDs"
  let selected ← selectedFromJson json
  some ⟨services, uis, selected⟩

theorem ofList_toList (ids : OrdSet String) : OrdSet.ofList ids.toList = ids :=
  OrdSet.ext_mem fun id => by rw [OrdSet.mem_ofList, OrdSet.mem_toList]

theorem idsFromJson_toJson (ids : OrdSet String) : idsFromJson (idsToJson ids) = some ids := by
  have hstrings : ∀ texts : List String, (texts.map Json.string).mapM Json.asString? = some texts := by
    intro texts
    induction texts with
    | nil => rfl
    | cons text texts ih => simp [List.mapM_cons, ih, Json.asString?]
  rw [idsToJson, idsFromJson, hstrings, Option.map_some, ofList_toList]

/-- **What is written is read back.** -/
theorem ActivationState.fromJson_toJson (state : ActivationState) :
    ActivationState.fromJson state.toJson = some state := by
  obtain ⟨services, uis, selected⟩ := state
  have hservices : optionalIds (ActivationState.toJson ⟨services, uis, selected⟩)
      "enabledServiceModuleIDs" = some services := idsFromJson_toJson services
  have huis : optionalIds (ActivationState.toJson ⟨services, uis, selected⟩)
      "enabledUIModuleIDs" = some uis := idsFromJson_toJson uis
  have hselected : selectedFromJson (ActivationState.toJson ⟨services, uis, selected⟩) =
      some selected := by
    cases selected with
    | none => rfl
    | some id => rfl
  rw [ActivationState.fromJson, hservices, huis, hselected]
  rfl

/-! ## The file -/

/-- The file: it is not there, or reading it gives a JSON value, null if it cannot be read. -/
inductive ActivationFile where
  | absent
  | json (value : Json)

/-- How a save ends; a failed write leaves the old file, a part of the new one or anything else. -/
inductive SaveOutcome where
  | written
  | failed (left : ActivationFile)

/-- `loadState`; `none` is an exception. -/
def ActivationFile.loadState : ActivationFile → Option ActivationState
  | absent => some {}
  | json value => ActivationState.fromJson value

/-- `saveState` does not tell whether it has written. -/
def SaveOutcome.saveState (outcome : SaveOutcome) (state : ActivationState) : ActivationFile :=
  match outcome with
  | .written => .json state.toJson
  | .failed left => left

@[simp] theorem loadState_saveState_written (state : ActivationState) :
    (SaveOutcome.written.saveState state).loadState = some state :=
  state.fromJson_toJson

end Modules
end MasterControl
