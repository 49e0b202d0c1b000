import Mathlib.Tactic.Common

/-!
# JSON values

A JSON value as a tree.  An object is the list of its members; a lookup takes the first
member with the key, and setting a member replaces it or appends it.  A floating-point
number is kept as its written form, since nothing computes with it.

The library that reads and writes them is a parameter, `JsonLibrary`.
-/

namespace MasterControl
namespace Foundation

inductive Json where
  | null
  | boolean (value : Bool)
  | integer (value : Int)
  | real (digits : String)
  | string (value : String)
  | array (elements : List Json)
  | object (members : List (String × Json))

namespace Json

instance : Inhabited Json := ⟨null⟩

/-- The first member with a key. -/
def lookup (key : String) : List (String × Json) → Option Json
  | [] => none
  | member :: members => if member.1 = key then some member.2 else lookup key members

/-- `object[key] = value`. -/
def setMember (key : String) (value : Json) : List (String × Json) → List (String × Json)
  | [] => [(key, value)]
  | member :: members =>
    if member.1 = key then (key, value) :: members else member :: setMember key value members

theorem lookup_setMember (key key' : String) (value : Json) (members : List (String × Json)) :
    lookup key' (setMember key value members) =
      if key = key' then some value else lookup key' members := by
  induction members with
  | nil => rfl
  | cons member members ih =>
    by_cases hkey : member.1 = key
    · rw [setMember, if_pos hkey, lookup, lookup]
      by_cases hkey' : key = key'
      · rw [if_pos hkey', if_pos hkey']
      · rw [if_neg hkey', if_neg hkey', if_neg fun h => hkey' (hkey.symm.trans h)]
    · rw [setMember, if_neg hkey, lookup, ih, lookup]
      by_cases hmember : member.1 = key'
      · rw [if_pos hmember, if_pos hmember, if_neg fun h => hkey (hmember.trans h.symm)]
      · rw [if_neg hmember, if_neg hmember]

@[simp] theorem lookup_setMember_self (key : String) (value : Json)
    (members : List (String × Json)) : lookup key (setMember key value members) = some value := by
  rw [lookup_setMember, if_pos rfl]

end Json

abbrev Bytes := List UInt8

/-- The bytes of an ASCII text. -/
def asciiBytes (text : String) : Bytes := text.toList.map fun c => c.toNat.toUInt8

/-- How a scalar is written whose text needs no escape; of an array or object, the
brackets. -/
def Json.dumpScalar : Json → String
  | .null => "null"
  | .boolean value => if value then "true" else "false"
  | .integer value => toString value
  | .real digits => digits
  | .string value => "\"" ++ value ++ "\""
  | .array _ => "[]"
  | .object _ => "\x7b\x7d"

/-- The JSON library. -/
structure JsonLibrary where
  /-- `parse`, or the text of the exception it throws. -/
  parse : Bytes → Except String Json
  /-- `dump()`. -/
  dump : Json → String
  /-- The text of the exception when a string was expected. -/
  stringExpected : Json → String

/-- The JSON library on texts. -/
structure JsonText where
  /-- `json::parse`; `none` where it throws or discards. -/
  parse : Bytes → Option Json
  /-- `dump` of a value all of whose strings are UTF-8. -/
  dump : Json → Bytes

/-- The JSON library on files. -/
structure DocumentFormat where
  /-- `stream >> json`; `none` where it throws. -/
  read : Bytes → Option Json
  /-- `dump(2)`. -/
  dump : Json → Bytes

end Foundation
end MasterControl
