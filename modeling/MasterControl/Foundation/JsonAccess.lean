import MasterControl.Foundation.Json

/-!
# Reading JSON values

The accessors of the JSON library.  An accessor that throws returns `none` here: `valueString`
throws on a value that is no object and on a member that is no string.
-/

namespace MasterControl
namespace Foundation
namespace Json

/-- What a loop over a value visits. -/
def visited : Json → List Json
  | null => []
  | array elements => elements
  | object members => members.map Prod.snd
  | value => [value]

def asString? : Json → Option String
  | string value => some value
  | _ => none

/-- The member of an object. -/
def member? (key : String) : Json → Option Json
  | object members => lookup key members
  | _ => none

/-- `value(key, fallback)` of a string. -/
def valueString (key fallback : String) : Json → Option String
  | object members =>
    match lookup key members with
    | none => some fallback
    | some value => value.asString?
  | _ => none

/-- The elements of a member that is an array. -/
def arrayAt (key : String) (value : Json) : Option (List Json) :=
  match value.member? key with
  | some (array elements) => some elements
  | _ => none

/-- The elements that are strings. -/
def strings (elements : List Json) : List String := elements.filterMap asString?

/-- `value[key] = member`; only an object or null can be written to. -/
def set? (key : String) (value member : Json) : Option Json :=
  match value with
  | object members => some (object (setMember key member members))
  | null => some (object [(key, member)])
  | _ => none

/-- `push_back`. -/
def push? (value element : Json) : Option Json :=
  match value with
  | array elements => some (array (elements ++ [element]))
  | null => some (array [element])
  | _ => none

/-- Keep the elements that pass a test; the test may throw. -/
def filter? (test : Json → Option Bool) : List Json → Option (List Json)
  | [] => some []
  | element :: elements => do
    let keep ← test element
    let rest ← filter? test elements
    some (if keep then element :: rest else rest)

@[simp] theorem visited_array (elements : List Json) : (array elements).visited = elements := rfl

@[simp] theorem strings_map_string (texts : List String) : strings (texts.map string) = texts := by
  unfold strings
  rw [List.filterMap_map]
  exact List.filterMap_some

/-- A test that does not throw filters. -/
theorem filter?_map {α : Type} {f : α → Json} {test : Json → Option Bool} {p : α → Bool}
    (h : ∀ a, test (f a) = some (p a)) (l : List α) :
    filter? test (l.map f) = some ((l.filter p).map f) := by
  induction l with
  | nil => rfl
  | cons a l ih =>
    rw [List.map_cons, filter?, h, ih]
    cases hp : p a with
    | true => rw [List.filter_cons_of_pos hp]; rfl
    | false => rw [List.filter_cons_of_neg (Bool.eq_false_iff.mp hp)]; rfl

theorem filter?_of_isSome {test : Json → Option Bool} {l : List Json}
    (h : ∀ element ∈ l, (test element).isSome = true) :
    filter? test l = some (l.filter fun element => (test element).any id) := by
  induction l with
  | nil => rfl
  | cons element l ih =>
    obtain ⟨keep, hkeep⟩ := Option.isSome_iff_exists.mp (h element List.mem_cons_self)
    rw [filter?, hkeep, ih fun other hother => h other (List.mem_cons_of_mem _ hother)]
    cases keep with
    | true => rw [List.filter_cons_of_pos (by rw [hkeep]; rfl)]; rfl
    | false => rw [List.filter_cons_of_neg (by rw [hkeep]; exact Bool.false_ne_true)]; rfl

/-- A test that throws on an element throws. -/
theorem filter?_eq_none {test : Json → Option Bool} {l : List Json} {element : Json}
    (helement : element ∈ l) (h : test element = none) : filter? test l = none := by
  induction l with
  | nil => cases helement
  | cons other l ih =>
    rw [filter?]
    rcases List.mem_cons.mp helement with rfl | hrest
    · rw [h]
      rfl
    · rw [ih hrest]
      cases test other <;> rfl

end Json
end Foundation
end MasterControl
