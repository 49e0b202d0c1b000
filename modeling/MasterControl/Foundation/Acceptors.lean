import MasterControl.Foundation.Json

/-!
# Which documents decode

`json.get<T>()` goes through the document along `T` and throws at the first value that has not
the type it wants.  An acceptor says of a value whether it gets through; the acceptors of records,
arrays and maps are made from those of their parts.

`Demands accepts value accepts' value'` says that `accepts` cannot take `value` without `accepts'`
taking the part `value'`, at whatever depth it stands.  One bad part is enough to refuse the whole
(`Demands.refuses`).
-/

namespace MasterControl
namespace Foundation

/-- Whether decoding a value goes through. -/
abbrev Acceptor := Json → Bool

namespace Acceptor

/-- `nlohmann::json`: any value. -/
def anything : Acceptor := fun _ => true

/-- `bool`. -/
def boolean : Acceptor
  | .boolean _ => true
  | _ => false

/-- `std::string`. -/
def text : Acceptor
  | .string _ => true
  | _ => false

/-- `int` and its kin: a number of any form, or a boolean. -/
def number : Acceptor
  | .integer _ | .real _ | .boolean _ => true
  | _ => false

/-- `double`: a number of any form. -/
def floating : Acceptor
  | .integer _ | .real _ => true
  | _ => false

/-- An enumeration that is written as one of these words. -/
def oneOf (slugs : List String) : Acceptor
  | .string value => slugs.contains value
  | _ => false

/-- `std::vector<T>`. -/
def arrayOf (accepts : Acceptor) : Acceptor
  | .array elements => elements.all accepts
  | _ => false

/-- `std::map<std::string, T>`. -/
def mapOf (accepts : Acceptor) : Acceptor
  | .object members => members.all fun member => accepts member.2
  | _ => false

/-- A structure whose missing members have defaults. -/
def record (fields : List (String × Acceptor)) : Acceptor
  | .object members => fields.all fun field =>
    match Json.lookup field.1 members with
    | none => true
    | some value => field.2 value
  | _ => false

variable {accepts accepts' : Acceptor} {value value' : Json}

/-- What one acceptor asks of another about a part of its value. -/
inductive Demands : Acceptor → Json → Acceptor → Json → Prop
  | refl (accepts : Acceptor) (value : Json) : Demands accepts value accepts value
  | element {accepts accepts' : Acceptor} {elements : List Json} {value value' : Json} :
    value ∈ elements → Demands accepts value accepts' value' →
      Demands (arrayOf accepts) (.array elements) accepts' value'
  | entry {accepts accepts' : Acceptor} {members : List (String × Json)} {key : String}
    {value value' : Json} : (key, value) ∈ members → Demands accepts value accepts' value' →
      Demands (mapOf accepts) (.object members) accepts' value'
  | field {fields : List (String × Acceptor)} {accepts accepts' : Acceptor}
    {members : List (String × Json)} {key : String} {value value' : Json} :
    (key, accepts) ∈ fields → Json.lookup key members = some value →
      Demands accepts value accepts' value' →
        Demands (record fields) (.object members) accepts' value'

/-- **What is taken is taken in every part.** -/
theorem Demands.taken (h : Demands accepts value accepts' value') (htaken : accepts value = true) :
    accepts' value' = true := by
  induction h with
  | refl => exact htaken
  | element hmem _ ih => exact ih (List.all_eq_true.mp htaken _ hmem)
  | entry hmem _ ih => exact ih (List.all_eq_true.mp htaken _ hmem)
  | field hmem hlookup _ ih =>
    have hfield := List.all_eq_true.mp htaken _ hmem
    rw [hlookup] at hfield
    exact ih hfield

/-- **One bad part is enough.** -/
theorem Demands.refuses (h : Demands accepts value accepts' value') (hbad : accepts' value' = false) :
    accepts value = false := by
  by_contra htaken
  rw [h.taken (by simpa using htaken)] at hbad
  cases hbad

end Acceptor
end Foundation
end MasterControl
