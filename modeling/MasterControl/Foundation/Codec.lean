import MasterControl.Foundation.Json
import Mathlib.Logic.Equiv.Defs

/-!
# Types as JSON

A codec writes the values of a type as JSON and reads them back; a value that is written is read
again.  The codecs of arrays, maps and records are made from those of their parts.

A record is read member by member, and a member that is missing has the value of a default record.
Its type is any type that is equivalent to the product of the types of its members (`Values`).
-/

namespace MasterControl
namespace Foundation

/-- Writing and reading a type; `none` is an exception. -/
structure Codec (α : Type) where
  encode : α → Json
  decode : Json → Option α
  decode_encode : ∀ a, decode (encode a) = some a

/-- The conversions between the forms of a number. -/
structure NumberConversions where
  /-- The floating-point number of an integer, as it is written. -/
  realOfInteger : Int → String
  /-- A floating-point number without its fraction. -/
  integerOfReal : String → Int

/-- A floating-point number as it is written. -/
structure Double where
  digits : String
  deriving DecidableEq

namespace Codec

variable {α : Type}

theorem encode_injective (codec : Codec α) : Function.Injective codec.encode := by
  intro a b h
  have hdecode := congrArg codec.decode h
  rw [codec.decode_encode, codec.decode_encode] at hdecode
  exact Option.some.inj hdecode

/-! ## Scalars -/

def anything : Codec Json where
  encode value := value
  decode := some
  decode_encode _ := rfl

def boolean : Codec Bool where
  encode := .boolean
  decode
    | .boolean value => some value
    | _ => none
  decode_encode _ := rfl

def text : Codec String where
  encode := .string
  decode
    | .string value => some value
    | _ => none
  decode_encode _ := rfl

/-- A machine integer takes a number of any form, and a boolean. -/
def machineInteger (conversions : NumberConversions) (toInt : α → Int) (ofInt : Int → α)
    (h : ∀ a, ofInt (toInt a) = a) : Codec α where
  encode a := .integer (toInt a)
  decode
    | .integer value => some (ofInt value)
    | .real digits => some (ofInt (conversions.integerOfReal digits))
    | .boolean value => some (ofInt value.toInt)
    | _ => none
  decode_encode a := congrArg some (h a)

def int (conversions : NumberConversions) : Codec Int32 :=
  machineInteger conversions Int32.toInt Int32.ofInt Int32.ofInt_toInt

theorem ofInt_toNat_uint16 (n : UInt16) : UInt16.ofInt (n.toNat : Int) = n := by
  have hn : ((n.toNat : Int) % 2 ^ 16).toNat = n.toNat := by
    have hlt := n.toNat_lt
    omega
  rw [UInt16.ofInt, hn, UInt16.ofNat_toNat]

theorem ofInt_toNat_uint32 (n : UInt32) : UInt32.ofInt (n.toNat : Int) = n := by
  have hn : ((n.toNat : Int) % 2 ^ 32).toNat = n.toNat := by
    have hlt := n.toNat_lt
    omega
  rw [UInt32.ofInt, hn, UInt32.ofNat_toNat]

def uint16 (conversions : NumberConversions) : Codec UInt16 :=
  machineInteger conversions (fun n => (n.toNat : Int)) UInt16.ofInt ofInt_toNat_uint16

def uint32 (conversions : NumberConversions) : Codec UInt32 :=
  machineInteger conversions (fun n => (n.toNat : Int)) UInt32.ofInt ofInt_toNat_uint32

def double (conversions : NumberConversions) : Codec Double where
  encode value := .real value.digits
  decode
    | .real digits => some ⟨digits⟩
    | .integer value => some ⟨conversions.realOfInteger value⟩
    | _ => none
  decode_encode _ := rfl

/-- The word of a value in a table. -/
def wordOf [DecidableEq α] (table : List (α × String)) (a : α) : String :=
  ((table.find? fun entry => entry.1 = a).map Prod.snd).getD ""

def ofWord (table : List (α × String)) (word : String) : Option α :=
  (table.find? fun entry => entry.2 = word).map Prod.fst

def words [DecidableEq α] (table : List (α × String))
    (h : ∀ a, ofWord table (wordOf table a) = some a) : Codec α where
  encode a := .string (wordOf table a)
  decode
    | .string word => ofWord table word
    | _ => none
  decode_encode := h

/-! ## Arrays and maps -/

def decodeAll (codec : Codec α) : List Json → Option (List α)
  | [] => some []
  | element :: elements => do
    let a ← codec.decode element
    let as ← decodeAll codec elements
    some (a :: as)

theorem decodeAll_map (codec : Codec α) (as : List α) :
    codec.decodeAll (as.map codec.encode) = some as := by
  induction as with
  | nil => rfl
  | cons a as ih =>
    rw [List.map_cons, decodeAll, codec.decode_encode, ih]
    rfl

def arrayOf (codec : Codec α) : Codec (List α) where
  encode as := .array (as.map codec.encode)
  decode
    | .array elements => codec.decodeAll elements
    | _ => none
  decode_encode := codec.decodeAll_map

def decodeEntries (codec : Codec α) : List (String × Json) → Option (List (String × α))
  | [] => some []
  | (key, value) :: members => do
    let a ← codec.decode value
    let entries ← decodeEntries codec members
    some ((key, a) :: entries)

theorem decodeEntries_map (codec : Codec α) (entries : List (String × α)) :
    codec.decodeEntries (entries.map fun entry => (entry.1, codec.encode entry.2)) =
      some entries := by
  induction entries with
  | nil => rfl
  | cons entry entries ih =>
    rw [List.map_cons, decodeEntries, codec.decode_encode, ih]
    rfl

/-- A map from texts, as the list of its entries. -/
def mapOf (codec : Codec α) : Codec (List (String × α)) where
  encode entries := .object (entries.map fun entry => (entry.1, codec.encode entry.2))
  decode
    | .object members => codec.decodeEntries members
    | _ => none
  decode_encode := codec.decodeEntries_map

end Codec

/-! ## Records -/

/-- A member of a record. -/
structure Field : Type 1 where
  key : String
  Value : Type
  codec : Codec Value

/-- The values of the members. -/
def Values : List Field → Type
  | [] => Unit
  | field :: fields => field.Value × Values fields

namespace Field

def keys (fields : List Field) : List String := fields.map key

def encodeAll : (fields : List Field) → Values fields → List (String × Json)
  | [], _ => []
  | field :: fields, values => (field.key, field.codec.encode values.1) :: encodeAll fields values.2

/-- Reading a member, with its value if it is missing. -/
def read (field : Field) (missing : field.Value) (members : List (String × Json)) :
    Option field.Value :=
  match Json.lookup field.key members with
  | none => some missing
  | some member => field.codec.decode member

/-- Reading the members, with the values of those that are missing. -/
def decodeAll : (fields : List Field) → Values fields → List (String × Json) →
    Option (Values fields)
  | [], _, _ => some ()
  | field :: fields, missing, members => do
    let value ← field.read missing.1 members
    let values ← decodeAll fields missing.2 members
    some (value, values)

variable {fields : List Field} {members members' : List (String × Json)} {key : String}

theorem lookup_encodeAll_self {field : Field} (values : Values (field :: fields)) :
    Json.lookup field.key (encodeAll (field :: fields) values) =
      some (field.codec.encode values.1) := by
  rw [encodeAll, Json.lookup, if_pos rfl]

theorem lookup_encodeAll_of_ne {field : Field} (h : field.key ≠ key)
    (values : Values (field :: fields)) :
    Json.lookup key (encodeAll (field :: fields) values) =
      Json.lookup key (encodeAll fields values.2) := by
  rw [encodeAll, Json.lookup, if_neg h]

theorem lookup_encodeAll_of_notMem (h : key ∉ keys fields) (values : Values fields) :
    Json.lookup key (encodeAll fields values) = none := by
  induction fields with
  | nil => rfl
  | cons field fields ih =>
    rw [lookup_encodeAll_of_ne (Ne.symm (List.ne_of_not_mem_cons h))]
    exact ih (List.not_mem_of_not_mem_cons h) values.2

/-- Only the members of the record are looked up. -/
theorem decodeAll_congr (h : ∀ key ∈ keys fields, Json.lookup key members = Json.lookup key members')
    (missing : Values fields) :
    decodeAll fields missing members = decodeAll fields missing members' := by
  induction fields with
  | nil => rfl
  | cons field fields ih =>
    rw [decodeAll, decodeAll, read, read, h field.key List.mem_cons_self,
      ih (fun key hkey => h key (List.mem_cons_of_mem _ hkey)) missing.2]

/-- Without its members a record is the default one. -/
theorem decodeAll_of_absent (h : ∀ key ∈ keys fields, Json.lookup key members = none)
    (missing : Values fields) : decodeAll fields missing members = some missing := by
  induction fields with
  | nil => rfl
  | cons field fields ih =>
    rw [decodeAll, read, h field.key List.mem_cons_self,
      ih (fun key hkey => h key (List.mem_cons_of_mem _ hkey)) missing.2]
    rfl

theorem decodeAll_encodeAll (h : (keys fields).Nodup) (missing values : Values fields) :
    decodeAll fields missing (encodeAll fields values) = some values := by
  induction fields with
  | nil => rfl
  | cons field fields ih =>
    obtain ⟨hnotMem, hnodup⟩ := List.nodup_cons.mp h
    have hrest : decodeAll fields missing.2 (encodeAll (field :: fields) values) =
        decodeAll fields missing.2 (encodeAll fields values.2) :=
      decodeAll_congr (fun key hkey => by
        have hne : field.key ≠ key := fun heq => hnotMem (heq ▸ hkey)
        exact lookup_encodeAll_of_ne hne values) missing.2
    have hread : field.read missing.1 (encodeAll (field :: fields) values) = some values.1 := by
      rw [read, lookup_encodeAll_self]
      exact field.codec.decode_encode values.1
    rw [decodeAll, hread, hrest, ih hnodup]
    rfl

end Field

/-- A record whose missing members are those of a default one. -/
def Codec.record {α : Type} (fields : List Field) (form : α ≃ Values fields) (missing : α)
    (h : (Field.keys fields).Nodup) : Codec α where
  encode a := .object (Field.encodeAll fields (form a))
  decode
    | .object members => (Field.decodeAll fields (form missing) members).map form.symm
    | _ => none
  decode_encode a := by
    dsimp only
    rw [Field.decodeAll_encodeAll h, Option.map_some, form.symm_apply_apply]

end Foundation
end MasterControl
