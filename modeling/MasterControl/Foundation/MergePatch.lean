import MasterControl.Foundation.Codec
import Mathlib.Data.List.Infix

/-!
# Patching a value through its document

A value is written as JSON, a patch is merged into that document, and what comes out is read again
(`Patched`).  Objects merge member by member, and everything else is replaced.

`PatchLaw` says that this is a patch of the value: each value that the patch names is there, as it
is read, what the patch does not name is as it was, and a second time changes nothing.  It holds of
a codec that never writes an object, and of a record if it holds of its members
(`patchLaw_record`).
-/

namespace MasterControl
namespace Foundation
namespace Json

/-! ## Merging -/

mutual

/-- Objects merge member by member; anything else is replaced. -/
def deepMergeObject (target : Json) : Json → Json
  | .object patch =>
    match target with
    | .object members => .object (mergeMembers members patch)
    | _ => .object patch
  | patch => patch

def mergeMembers (target : List (String × Json)) : List (String × Json) → List (String × Json)
  | [] => target
  | (key, value) :: patch =>
    let merged :=
      match lookup key target with
      | some old => deepMergeObject old value
      | none => value
    mergeMembers (setMember key merged target) patch

end

/-- A parsed object has no key twice, at any depth. -/
inductive UniqueKeys : Json → Prop
  | other {value : Json} : (∀ members, value ≠ .object members) → UniqueKeys value
  | object {members : List (String × Json)} : (members.map Prod.fst).Nodup →
    (∀ member ∈ members, UniqueKeys member.2) → UniqueKeys (.object members)

/-! ## Paths -/

/-- The value at a path of members. -/
def valueAt : List String → Json → Option Json
  | [], value => some value
  | key :: path, .object members => (lookup key members).bind (valueAt path)
  | _ :: _, _ => none

/-- The patch has a value that is no object at that path. -/
inductive Names : Json → List String → Json → Prop
  | value {value : Json} : (∀ members, value ≠ .object members) → Names value [] value
  | member {members : List (String × Json)} {key : String} {inner : Json} {path : List String}
    {value : Json} : lookup key members = some inner → Names inner path value →
      Names (.object members) (key :: path) value

/-- A path that the patch names, or one on the way to it or behind it. -/
def Touches (patch : Json) (path : List String) : Prop :=
  ∃ named value, Names patch named value ∧ (named <+: path ∨ path <+: named)

/-- The document with that value and nothing else. -/
def wrap : List String → Json → Json
  | [], value => value
  | key :: path, value => .object [(key, wrap path value)]

variable {members patch : List (String × Json)} {key : String} {inner value : Json}
  {path : List String}

theorem mem_of_lookup (h : lookup key members = some value) : (key, value) ∈ members := by
  induction members with
  | nil => cases h
  | cons member members ih =>
    rw [lookup] at h
    split_ifs at h with hkey
    · obtain rfl := Option.some.inj h
      rw [← hkey]
      exact List.mem_cons_self
    · exact List.mem_cons_of_mem _ (ih h)

theorem lookup_eq_none_of_notMem (h : key ∉ members.map Prod.fst) : lookup key members = none := by
  induction members with
  | nil => rfl
  | cons member members ih =>
    rw [lookup, if_neg (Ne.symm (List.ne_of_not_mem_cons h)),
      ih (List.not_mem_of_not_mem_cons h)]

theorem lookup_singleton_of_ne {key' : String} (h : key ≠ key') (value : Json) :
    lookup key' [(key, value)] = none := by
  rw [lookup, if_neg h]
  rfl

theorem UniqueKeys.nodup (h : UniqueKeys (.object members)) : (members.map Prod.fst).Nodup := by
  cases h with
  | other hne => exact absurd rfl (hne members)
  | object hnodup _ => exact hnodup

theorem UniqueKeys.member (h : UniqueKeys (.object members))
    (hlookup : lookup key members = some inner) : UniqueKeys inner := by
  cases h with
  | other hne => exact absurd rfl (hne members)
  | object _ hinner => exact hinner _ (mem_of_lookup hlookup)

theorem deepMergeObject_of_not_object (target : Json) (h : ∀ members, value ≠ .object members) :
    deepMergeObject target value = value := by
  cases value with
  | object members => exact absurd rfl (h members)
  | _ => rw [deepMergeObject]; exact h

theorem deepMergeObject_of_target {target : Json} (h : ∀ members, target ≠ .object members)
    (value : Json) : deepMergeObject target value = value := by
  cases value with
  | object patch =>
    rw [deepMergeObject]
    exact h
  | _ => rw [deepMergeObject]; simp

/-- What stands at a key after a merge. -/
theorem lookup_mergeMembers (h : (patch.map Prod.fst).Nodup) (target : List (String × Json))
    (key : String) :
    lookup key (mergeMembers target patch) =
      match lookup key patch with
      | none => lookup key target
      | some value =>
        match lookup key target with
        | some old => some (deepMergeObject old value)
        | none => some value := by
  induction patch generalizing target with
  | nil => rw [mergeMembers]; rfl
  | cons member patch ih =>
    obtain ⟨key', value⟩ := member
    obtain ⟨hnotMem, hnodup⟩ := List.nodup_cons.mp h
    rw [mergeMembers, ih hnodup, lookup_setMember, lookup]
    dsimp only
    by_cases hkey : key' = key
    · subst hkey
      rw [if_pos rfl, if_pos rfl, lookup_eq_none_of_notMem hnotMem]
      cases lookup key' target <;> rfl
    · rw [if_neg hkey, if_neg hkey]

theorem not_touches_inner (h : ¬ Touches (.object members) (key :: path))
    (hlookup : lookup key members = some inner) : ¬ Touches inner path := by
  rintro ⟨named, value, hnames, hcomparable⟩
  refine h ⟨key :: named, value, .member hlookup hnames, ?_⟩
  rcases hcomparable with hprefix | hprefix
  · exact .inl (List.cons_prefix_cons.mpr ⟨rfl, hprefix⟩)
  · exact .inr (List.cons_prefix_cons.mpr ⟨rfl, hprefix⟩)

end Json

/-! ## The law -/

open Json

variable {α : Type}

/-- The value after a patch. -/
def Patched (codec : Codec α) (a : α) (patch : Json) (b : α) : Prop :=
  codec.decode (deepMergeObject (codec.encode a) patch) = some b

/-- What reading makes of a value at a path. -/
def decodedAt (codec : Codec α) (path : List String) (value : Json) : Option Json :=
  (codec.decode (wrap path value)).bind fun a => valueAt path (codec.encode a)

structure PatchLaw (codec : Codec α) : Prop where
  named : ∀ {a b patch}, UniqueKeys patch → Patched codec a patch b →
    ∀ {path value}, Names patch path value →
      valueAt path (codec.encode b) = decodedAt codec path value
  frame : ∀ {a b patch}, UniqueKeys patch → Patched codec a patch b →
    ∀ {path}, ¬ Touches patch path → valueAt path (codec.encode b) = valueAt path (codec.encode a)
  idle : ∀ {a b patch}, UniqueKeys patch → Patched codec a patch b →
    (∀ path value, ¬ Names patch path value) → b = a
  again : ∀ {a b patch}, UniqueKeys patch → Patched codec a patch b → Patched codec b patch b

/-- A codec that neither writes nor reads objects. -/
structure IsLeaf (codec : Codec α) : Prop where
  encode_ne : ∀ a members, codec.encode a ≠ .object members
  decode_object : ∀ members, codec.decode (.object members) = none

section Leaf

variable {codec : Codec α} {a b : α} {patch : Json}

/-- A leaf is replaced. -/
theorem IsLeaf.replaced (h : IsLeaf codec) (hpatched : Patched codec a patch b) :
    (∀ members, patch ≠ .object members) ∧ codec.decode patch = some b := by
  rw [Patched] at hpatched
  cases patch with
  | object members =>
    rw [deepMergeObject_of_target (h.encode_ne a), h.decode_object] at hpatched
    cases hpatched
  | _ =>
    rw [deepMergeObject_of_not_object _ (by simp)] at hpatched
    exact ⟨by simp, hpatched⟩

theorem IsLeaf.patchLaw (h : IsLeaf codec) : PatchLaw codec where
  named {a b patch} _ hpatched {path value} hnames := by
    obtain ⟨hne, hdecode⟩ := h.replaced hpatched
    cases hnames with
    | value _ =>
      rw [decodedAt, wrap, hdecode]
      rfl
    | member hlookup _ => exact absurd rfl (hne _)
  frame {a b patch} _ hpatched {path} huntouched := by
    obtain ⟨hne, -⟩ := h.replaced hpatched
    exact absurd ⟨[], patch, .value hne, .inl List.nil_prefix⟩ huntouched
  idle {a b patch} _ hpatched hnothing := by
    obtain ⟨hne, -⟩ := h.replaced hpatched
    exact absurd (.value hne) (hnothing [] patch)
  again {a b patch} _ hpatched := by
    obtain ⟨hne, hdecode⟩ := h.replaced hpatched
    rw [Patched, deepMergeObject_of_not_object _ hne]
    exact hdecode

theorem isLeaf_boolean : IsLeaf Codec.boolean :=
  ⟨fun _ _ h => (by cases h), fun _ => rfl⟩

theorem isLeaf_text : IsLeaf Codec.text :=
  ⟨fun _ _ h => (by cases h), fun _ => rfl⟩

theorem isLeaf_machineInteger (conversions : NumberConversions) {toInt : α → Int} {ofInt : Int → α}
    (h : ∀ a, ofInt (toInt a) = a) : IsLeaf (Codec.machineInteger conversions toInt ofInt h) :=
  ⟨fun _ _ h => (by cases h), fun _ => rfl⟩

theorem isLeaf_arrayOf (codec : Codec α) : IsLeaf codec.arrayOf :=
  ⟨fun _ _ h => (by cases h), fun _ => rfl⟩

@[simp] theorem patchLaw_boolean : PatchLaw Codec.boolean := isLeaf_boolean.patchLaw

@[simp] theorem patchLaw_text : PatchLaw Codec.text := isLeaf_text.patchLaw

@[simp] theorem patchLaw_int (conversions : NumberConversions) :
    PatchLaw (Codec.int conversions) :=
  (isLeaf_machineInteger conversions Int32.ofInt_toInt).patchLaw

@[simp] theorem patchLaw_uint16 (conversions : NumberConversions) :
    PatchLaw (Codec.uint16 conversions) :=
  (isLeaf_machineInteger conversions Codec.ofInt_toNat_uint16).patchLaw

@[simp] theorem patchLaw_arrayOf (codec : Codec α) : PatchLaw codec.arrayOf :=
  (isLeaf_arrayOf codec).patchLaw

end Leaf

/-! ## Records -/

section Record

/-- The members after a patch. -/
def FieldsPatched (patch : List (String × Json)) :
    (fields : List Field) → Values fields → Values fields → Prop
  | [], _, _ => True
  | field :: fields, before, after =>
    (match lookup field.key patch with
      | none => after.1 = before.1
      | some inner => Patched field.codec before.1 inner after.1) ∧
    FieldsPatched patch fields before.2 after.2

variable {fields : List Field} {before after missing : Values fields}
  {patch members : List (String × Json)} {key : String} {inner : Json}

/-- The merged document is read member by member. -/
theorem decodeAll_mergeMembers (hkeys : (Field.keys fields).Nodup)
    (hpatch : (patch.map Prod.fst).Nodup)
    (h : Field.decodeAll fields missing (mergeMembers (Field.encodeAll fields before) patch) =
      some after) : FieldsPatched patch fields before after := by
  induction fields with
  | nil => trivial
  | cons field fields ih =>
    obtain ⟨hnotMem, hnodup⟩ := List.nodup_cons.mp hkeys
    have hrest : Field.decodeAll fields missing.2
        (mergeMembers (Field.encodeAll (field :: fields) before) patch) =
          Field.decodeAll fields missing.2
            (mergeMembers (Field.encodeAll fields before.2) patch) := by
      refine Field.decodeAll_congr (fun key hkey => ?_) missing.2
      have hne : field.key ≠ key := fun heq => hnotMem (heq ▸ hkey)
      rw [lookup_mergeMembers hpatch, lookup_mergeMembers hpatch,
        Field.lookup_encodeAll_of_ne hne]
    rw [Field.decodeAll, hrest, Field.read, lookup_mergeMembers hpatch,
      Field.lookup_encodeAll_self] at h
    obtain ⟨value, hvalue, h⟩ := Option.bind_eq_some_iff.mp h
    obtain ⟨values, hvalues, h⟩ := Option.bind_eq_some_iff.mp h
    obtain rfl := Option.some.inj h
    refine ⟨?_, ih hnodup hvalues⟩
    cases hlookup : lookup field.key patch with
    | none =>
      rw [hlookup] at hvalue
      dsimp only at hvalue ⊢
      rw [field.codec.decode_encode] at hvalue
      exact (Option.some.inj hvalue).symm
    | some inner =>
      rw [hlookup] at hvalue
      exact hvalue

/-- A patched record is read from its merged document. -/
theorem FieldsPatched.decodeAll (hkeys : (Field.keys fields).Nodup)
    (hpatch : (patch.map Prod.fst).Nodup) (h : FieldsPatched patch fields before after)
    (missing : Values fields) :
    Field.decodeAll fields missing (mergeMembers (Field.encodeAll fields before) patch) =
      some after := by
  induction fields with
  | nil => rfl
  | cons field fields ih =>
    obtain ⟨hnotMem, hnodup⟩ := List.nodup_cons.mp hkeys
    obtain ⟨hfield, hfields⟩ := h
    have hrest : Field.decodeAll fields missing.2
        (mergeMembers (Field.encodeAll (field :: fields) before) patch) =
          some after.2 := by
      rw [← ih hnodup hfields missing.2]
      refine Field.decodeAll_congr (fun key hkey => ?_) missing.2
      have hne : field.key ≠ key := fun heq => hnotMem (heq ▸ hkey)
      rw [lookup_mergeMembers hpatch, lookup_mergeMembers hpatch,
        Field.lookup_encodeAll_of_ne hne]
    rw [Field.decodeAll, hrest, Field.read, lookup_mergeMembers hpatch,
      Field.lookup_encodeAll_self]
    cases hlookup : lookup field.key patch with
    | none =>
      rw [hlookup] at hfield
      dsimp only at hfield ⊢
      rw [field.codec.decode_encode, ← hfield]
      rfl
    | some inner =>
      rw [hlookup] at hfield
      dsimp only at hfield ⊢
      rw [hfield]
      rfl

/-- What stands at a key before and after a patch. -/
theorem FieldsPatched.lookup_cases (h : FieldsPatched patch fields before after) (key : String) :
    (key ∉ Field.keys fields ∧ lookup key (Field.encodeAll fields before) = none ∧
      lookup key (Field.encodeAll fields after) = none) ∨
    ∃ field ∈ fields, field.key = key ∧ ∃ a b,
      lookup key (Field.encodeAll fields before) = some (field.codec.encode a) ∧
      lookup key (Field.encodeAll fields after) = some (field.codec.encode b) ∧
      (match lookup key patch with
        | none => b = a
        | some inner => Patched field.codec a inner b) := by
  induction fields with
  | nil => exact .inl ⟨List.not_mem_nil, rfl, rfl⟩
  | cons field fields ih =>
    obtain ⟨hfield, hfields⟩ := h
    by_cases hkey : field.key = key
    · subst hkey
      rw [Field.lookup_encodeAll_self, Field.lookup_encodeAll_self]
      exact .inr ⟨field, List.mem_cons_self, rfl, before.1, after.1, rfl, rfl, hfield⟩
    · rw [Field.lookup_encodeAll_of_ne hkey, Field.lookup_encodeAll_of_ne hkey]
      rcases ih hfields with ⟨hnotMem, hnone⟩ | ⟨other, hmem, hother⟩
      · exact .inl ⟨List.not_mem_cons_of_ne_of_not_mem (Ne.symm hkey) hnotMem, hnone⟩
      · exact .inr ⟨other, List.mem_cons_of_mem _ hmem, hother⟩

/-- A record of which one member is written. -/
theorem decodeAll_single {β : Type} (hkeys : (Field.keys fields).Nodup) {field : Field}
    (hfield : field ∈ fields) (value : Json) (missing : Values fields) (g : Json → Option β) :
    ((Field.decodeAll fields missing [(field.key, value)]).bind fun values =>
        (lookup field.key (Field.encodeAll fields values)).bind g) =
      (field.codec.decode value).bind fun a => g (field.codec.encode a) := by
  induction fields with
  | nil => cases hfield
  | cons first fields ih =>
    obtain ⟨hnotMem, hnodup⟩ := List.nodup_cons.mp hkeys
    rcases List.mem_cons.mp hfield with rfl | hmem
    · have hrest : Field.decodeAll fields missing.2 [(field.key, value)] = some missing.2 :=
        Field.decodeAll_of_absent (fun key hkey =>
          lookup_singleton_of_ne (ne_of_mem_of_not_mem hkey hnotMem).symm value) missing.2
      rw [Field.decodeAll, hrest, Field.read, lookup, if_pos rfl]
      dsimp only
      cases field.codec.decode value with
      | none => rfl
      | some a =>
        exact congrArg (Option.bind · g) (Field.lookup_encodeAll_self (a, missing.2))
    · have hne : first.key ≠ field.key := fun heq =>
        hnotMem (heq ▸ List.mem_map_of_mem hmem)
      rw [← ih hnodup hmem missing.2, Field.decodeAll, Field.read,
        lookup_singleton_of_ne (Ne.symm hne)]
      cases Field.decodeAll fields missing.2 [(field.key, value)] with
      | none => rfl
      | some values =>
        exact congrArg (Option.bind · g) (Field.lookup_encodeAll_of_ne hne (missing.1, values))

theorem FieldsPatched.idle (h : FieldsPatched patch fields before after)
    (hlaws : ∀ field ∈ fields, PatchLaw field.codec) (hunique : UniqueKeys (.object patch))
    (hnothing : ∀ path value, ¬ Names (.object patch) path value) : after = before := by
  induction fields with
  | nil => rfl
  | cons field fields ih =>
    obtain ⟨hfield, hfields⟩ := h
    have hrest := ih hfields fun other hother => hlaws other (List.mem_cons_of_mem _ hother)
    refine Prod.ext ?_ hrest
    cases hlookup : lookup field.key patch with
    | none =>
      rw [hlookup] at hfield
      exact hfield
    | some inner =>
      rw [hlookup] at hfield
      exact (hlaws field List.mem_cons_self).idle (hunique.member hlookup) hfield
        fun path value hnames => hnothing _ _ (.member hlookup hnames)

theorem FieldsPatched.again (h : FieldsPatched patch fields before after)
    (hlaws : ∀ field ∈ fields, PatchLaw field.codec) (hunique : UniqueKeys (.object patch)) :
    FieldsPatched patch fields after after := by
  induction fields with
  | nil => trivial
  | cons field fields ih =>
    obtain ⟨hfield, hfields⟩ := h
    refine ⟨?_, ih hfields fun other hother => hlaws other (List.mem_cons_of_mem _ hother)⟩
    cases hlookup : lookup field.key patch with
    | none => rfl
    | some inner =>
      rw [hlookup] at hfield
      exact (hlaws field List.mem_cons_self).again (hunique.member hlookup) hfield

variable {form : α ≃ Values fields} {default : α} {hkeys : (Field.keys fields).Nodup} {a b : α}

/-- A record is patched by an object, member by member. -/
theorem patched_record_iff {document : Json} (hunique : UniqueKeys document) :
    Patched (Codec.record fields form default hkeys) a document b ↔
      ∃ patch, document = .object patch ∧ FieldsPatched patch fields (form a) (form b) := by
  constructor
  · intro h
    rw [Patched] at h
    cases document with
    | object patch =>
      refine ⟨patch, rfl, ?_⟩
      obtain ⟨values, hvalues, rfl⟩ := Option.map_eq_some_iff.mp h
      rw [form.apply_symm_apply]
      exact decodeAll_mergeMembers hkeys hunique.nodup hvalues
    | _ =>
      rw [deepMergeObject_of_not_object _ (by simp)] at h
      cases h
  · rintro ⟨patch, rfl, h⟩
    have hdecode := h.decodeAll hkeys hunique.nodup (form default)
    show (Field.decodeAll fields (form default) _).map form.symm = some b
    rw [hdecode, Option.map_some, form.symm_apply_apply]

/-- **A record of lawful members is lawful.** -/
theorem patchLaw_record (hlaws : ∀ field ∈ fields, PatchLaw field.codec) :
    PatchLaw (Codec.record fields form default hkeys) where
  named {a b document} hunique hpatched {path value} hnames := by
    obtain ⟨patch, rfl, hfields⟩ := (patched_record_iff hunique).mp hpatched
    cases hnames with
    | value hne => exact absurd rfl (hne patch)
    | @member _ key inner path _ hlookup hinner =>
      have hdecoded : decodedAt (Codec.record fields form default hkeys) (key :: path) value =
          (Field.decodeAll fields (form default) [(key, wrap path value)]).bind fun values =>
            (lookup key (Field.encodeAll fields values)).bind (valueAt path) := by
        show ((Field.decodeAll fields (form default) [(key, wrap path value)]).map form.symm).bind _
          = _
        rw [Option.bind_map]
        congr 1
        funext values
        show (lookup key (Field.encodeAll fields (form (form.symm values)))).bind _ = _
        rw [form.apply_symm_apply]
      rw [hdecoded]
      show (lookup key (Field.encodeAll fields (form b))).bind (valueAt path) = _
      rcases hfields.lookup_cases key with ⟨hnotMem, -, hafter⟩ |
        ⟨field, hmem, rfl, before, after, -, hafter, hfield⟩
      · have habsent : Field.decodeAll fields (form default) [(key, wrap path value)] =
            some (form default) :=
          Field.decodeAll_of_absent (fun other hother =>
            lookup_singleton_of_ne (ne_of_mem_of_not_mem hother hnotMem).symm _) (form default)
        rw [hafter, habsent, Option.bind_some, Field.lookup_encodeAll_of_notMem hnotMem]
      · rw [hlookup] at hfield
        rw [hafter, decodeAll_single hkeys hmem, Option.bind_some]
        exact (hlaws field hmem).named (hunique.member hlookup) hfield hinner
  frame {a b document} hunique hpatched {path} huntouched := by
    obtain ⟨patch, rfl, hfields⟩ := (patched_record_iff hunique).mp hpatched
    cases path with
    | nil =>
      have hnothing : ∀ path value, ¬ Names (.object patch) path value :=
        fun path value hnames => huntouched ⟨path, value, hnames, .inr List.nil_prefix⟩
      rw [form.injective (hfields.idle hlaws hunique hnothing)]
    | cons key path =>
      show (lookup key (Field.encodeAll fields (form b))).bind (valueAt path) =
        (lookup key (Field.encodeAll fields (form a))).bind (valueAt path)
      rcases hfields.lookup_cases key with ⟨-, hbefore, hafter⟩ |
        ⟨field, hmem, rfl, before, after, hbefore, hafter, hfield⟩
      · rw [hbefore, hafter]
      · rw [hbefore, hafter, Option.bind_some, Option.bind_some]
        cases hlookup : lookup field.key patch with
        | none =>
          rw [hlookup] at hfield
          rw [hfield]
        | some inner =>
          rw [hlookup] at hfield
          exact (hlaws field hmem).frame (hunique.member hlookup) hfield
            (not_touches_inner huntouched hlookup)
  idle {a b document} hunique hpatched hnothing := by
    obtain ⟨patch, rfl, hfields⟩ := (patched_record_iff hunique).mp hpatched
    exact form.injective (hfields.idle hlaws hunique hnothing)
  again {a b document} hunique hpatched := by
    obtain ⟨patch, rfl, hfields⟩ := (patched_record_iff hunique).mp hpatched
    exact (patched_record_iff hunique).mpr ⟨patch, rfl, hfields.again hlaws hunique⟩

end Record

end Foundation
end MasterControl
