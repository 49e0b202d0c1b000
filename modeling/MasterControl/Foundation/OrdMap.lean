import Mathlib.Order.Lattice
import Mathlib.Data.List.Pairwise
import Mathlib.Data.List.Nodup
import Mathlib.Tactic.Common

/-!
# Finite maps in key order

An `OrdMap κ ν` is a finite map kept as the list of its entries in strictly
increasing key order.  The order is part of the value: a loop over the map visits
the keys in increasing order, and no key occurs twice.

Everything is read through `find?`.  Removing, filtering and rewriting entries are
all instances of one operation, `filterMap`, which never moves a key; so one lemma,
`find?_filterMap`, says what each of them does.

* `find?_insert`, `find?_erase`, `find?_filterMap`, `find?_map`: what an operation
  does to a lookup.
* `mem_entries_iff`: an entry is listed exactly when a lookup returns it.
-/

namespace MasterControl
namespace Foundation

universe u v w

/-- A finite map, as its entries in strictly increasing key order. -/
structure OrdMap (κ : Type u) (ν : Type v) [LinearOrder κ] where
  /-- The entries, smallest key first. -/
  entries : List (κ × ν)
  /-- The keys increase strictly, so none occurs twice. -/
  sorted : entries.Pairwise fun p q => p.1 < q.1

namespace OrdMap

variable {κ : Type u} {ν : Type v} {μ : Type w} [LinearOrder κ]

/-- The map without entries. -/
def empty : OrdMap κ ν := ⟨[], List.Pairwise.nil⟩

instance : Inhabited (OrdMap κ ν) := ⟨empty⟩

/-- The value listed under a key, in a list of entries. -/
def findIn (k : κ) : List (κ × ν) → Option ν
  | [] => none
  | p :: l => if p.1 = k then some p.2 else findIn k l

/-- The value at a key. -/
def find? (m : OrdMap κ ν) (k : κ) : Option ν := findIn k m.entries

/-- The keys, in increasing order. -/
def keys (m : OrdMap κ ν) : List κ := m.entries.map Prod.fst

/-- Put an entry where its key belongs, replacing the entry already there. -/
def insertIn (k : κ) (x : ν) : List (κ × ν) → List (κ × ν)
  | [] => [(k, x)]
  | p :: l =>
    if k < p.1 then (k, x) :: p :: l
    else if p.1 = k then (k, x) :: l
    else p :: insertIn k x l

theorem mem_insertIn {k : κ} {x : ν} {q : κ × ν} {l : List (κ × ν)}
    (h : q ∈ insertIn k x l) : q = (k, x) ∨ q ∈ l := by
  induction l with
  | nil => exact Or.inl (List.mem_singleton.mp h)
  | cons p l ih =>
    unfold insertIn at h
    split_ifs at h with h₁ h₂
    · rcases List.mem_cons.mp h with h | h
      · exact Or.inl h
      · exact Or.inr h
    · rcases List.mem_cons.mp h with h | h
      · exact Or.inl h
      · exact Or.inr (List.mem_cons_of_mem _ h)
    · rcases List.mem_cons.mp h with h | h
      · exact Or.inr (List.mem_cons.mpr (Or.inl h))
      · rcases ih h with h | h
        · exact Or.inl h
        · exact Or.inr (List.mem_cons_of_mem _ h)

theorem pairwise_insertIn {k : κ} {x : ν} {l : List (κ × ν)}
    (h : l.Pairwise fun p q => p.1 < q.1) :
    (insertIn k x l).Pairwise fun p q => p.1 < q.1 := by
  induction l with
  | nil => exact List.pairwise_singleton _ _
  | cons p l ih =>
    obtain ⟨hp, hl⟩ := List.pairwise_cons.mp h
    unfold insertIn
    split_ifs with h₁ h₂
    · refine List.pairwise_cons.mpr ⟨fun q hq => ?_, h⟩
      rcases List.mem_cons.mp hq with rfl | hq
      · exact h₁
      · exact h₁.trans (hp q hq)
    · exact List.pairwise_cons.mpr ⟨fun q hq => h₂ ▸ hp q hq, hl⟩
    · refine List.pairwise_cons.mpr ⟨fun q hq => ?_, ih hl⟩
      rcases mem_insertIn hq with rfl | hq
      · exact lt_of_le_of_ne (not_lt.mp h₁) h₂
      · exact hp q hq

/-- `m[k] = x`. -/
def insert (m : OrdMap κ ν) (k : κ) (x : ν) : OrdMap κ ν :=
  ⟨insertIn k x m.entries, pairwise_insertIn m.sorted⟩

/-- Rewrite or drop every entry; keys stay where they are. -/
def filterMap (m : OrdMap κ ν) (f : κ → ν → Option μ) : OrdMap κ μ :=
  ⟨m.entries.filterMap fun p => (f p.1 p.2).map fun y => (p.1, y), by
    refine List.Pairwise.filterMap _ (fun p q hpq b hb c hc => ?_) m.sorted
    simp only [Option.map_eq_some_iff] at hb hc
    obtain ⟨y, -, rfl⟩ := hb
    obtain ⟨z, -, rfl⟩ := hc
    exact hpq⟩

/-- `m.erase(k)`. -/
def erase (m : OrdMap κ ν) (k : κ) : OrdMap κ ν :=
  m.filterMap fun k' x => if k' = k then none else some x

/-- `m.emplace(k, x)`: an entry already there stays. -/
def emplace (m : OrdMap κ ν) (k : κ) (x : ν) : OrdMap κ ν :=
  if (m.find? k).isSome then m else m.insert k x

/-- The entries of a list; of two with one key the last. -/
def ofList (entries : List (κ × ν)) : OrdMap κ ν :=
  entries.foldl (fun m entry => m.insert entry.1 entry.2) empty

/-- Rewrite every value. -/
def map (m : OrdMap κ ν) (f : κ → ν → μ) : OrdMap κ μ :=
  m.filterMap fun k x => some (f k x)

/-! ## Lookups -/

theorem mem_of_findIn {k : κ} {x : ν} {l : List (κ × ν)} (h : findIn k l = some x) :
    (k, x) ∈ l := by
  induction l with
  | nil => cases h
  | cons p l ih =>
    unfold findIn at h
    split_ifs at h with hk
    · cases h
      exact List.mem_cons.mpr (Or.inl (Prod.ext hk.symm rfl))
    · exact List.mem_cons_of_mem _ (ih h)

theorem findIn_of_mem {k : κ} {x : ν} {l : List (κ × ν)}
    (hl : l.Pairwise fun p q => p.1 < q.1) (h : (k, x) ∈ l) : findIn k l = some x := by
  induction l with
  | nil => cases h
  | cons p l ih =>
    obtain ⟨hp, hl⟩ := List.pairwise_cons.mp hl
    unfold findIn
    rcases List.mem_cons.mp h with h | h
    · rw [← h, if_pos rfl]
    · rw [if_neg (ne_of_lt (hp _ h)), ih hl h]

/-- An entry is listed exactly when a lookup returns it. -/
theorem mem_entries_iff {m : OrdMap κ ν} {k : κ} {x : ν} :
    (k, x) ∈ m.entries ↔ m.find? k = some x :=
  ⟨findIn_of_mem m.sorted, mem_of_findIn⟩

theorem mem_keys_iff {m : OrdMap κ ν} {k : κ} : k ∈ m.keys ↔ ∃ x, m.find? k = some x := by
  simp only [keys, List.mem_map, Prod.exists, exists_and_right, exists_eq_right,
    mem_entries_iff]

theorem nodup_keys (m : OrdMap κ ν) : m.keys.Nodup :=
  List.pairwise_map.mpr (m.sorted.imp fun h => ne_of_lt h)

@[simp] theorem find?_empty (k : κ) : (empty : OrdMap κ ν).find? k = none := rfl

theorem findIn_insertIn {k k' : κ} {x : ν} {l : List (κ × ν)} :
    findIn k' (insertIn k x l) = if k = k' then some x else findIn k' l := by
  induction l with
  | nil => rfl
  | cons p l ih =>
    by_cases hlt : k < p.1
    · simp [insertIn, hlt, findIn]
    · by_cases hk : p.1 = k
      · rw [insertIn, if_neg hlt, if_pos hk]
        simp only [findIn, hk]
        split_ifs <;> rfl
      · simp only [insertIn, if_neg hlt, if_neg hk, findIn, ih]
        split_ifs with h₁ h₂
        · exact absurd (h₁.trans h₂.symm) hk
        · rfl
        · rfl
        · rfl

theorem find?_insert (m : OrdMap κ ν) (k k' : κ) (x : ν) :
    (m.insert k x).find? k' = if k = k' then some x else m.find? k' :=
  findIn_insertIn

@[simp] theorem find?_insert_self (m : OrdMap κ ν) (k : κ) (x : ν) :
    (m.insert k x).find? k = some x := by
  rw [find?_insert, if_pos rfl]

theorem find?_insert_of_ne (m : OrdMap κ ν) {k k' : κ} (h : k ≠ k') (x : ν) :
    (m.insert k x).find? k' = m.find? k' := by
  rw [find?_insert, if_neg h]

theorem emplace_of_none {m : OrdMap κ ν} {k : κ} (h : m.find? k = none) (x : ν) :
    m.emplace k x = m.insert k x := by
  rw [emplace, h, Option.isSome_none, if_neg Bool.false_ne_true]

theorem find?_filterMap (m : OrdMap κ ν) (f : κ → ν → Option μ) (k : κ) :
    (m.filterMap f).find? k = (m.find? k).bind (f k) := by
  cases h : (m.find? k).bind (f k) with
  | some y =>
    obtain ⟨x, hx, hy⟩ := Option.bind_eq_some_iff.mp h
    refine mem_entries_iff.mp (List.mem_filterMap.mpr ⟨(k, x), mem_entries_iff.mpr hx, ?_⟩)
    rw [hy, Option.map_some]
  | none =>
    by_contra hne
    obtain ⟨y, hy⟩ := Option.ne_none_iff_exists'.mp hne
    obtain ⟨⟨k', x⟩, hx, hy'⟩ := List.mem_filterMap.mp (mem_entries_iff.mpr hy)
    obtain ⟨z, hz, hkz⟩ := Option.map_eq_some_iff.mp hy'
    obtain ⟨rfl, rfl⟩ := Prod.mk.inj hkz
    rw [mem_entries_iff.mp hx, Option.bind_some, hz] at h
    cases h

@[simp] theorem find?_map (m : OrdMap κ ν) (f : κ → ν → μ) (k : κ) :
    (m.map f).find? k = (m.find? k).map (f k) := by
  rw [map, find?_filterMap]
  cases m.find? k <;> rfl

theorem find?_erase (m : OrdMap κ ν) (k k' : κ) :
    (m.erase k).find? k' = if k' = k then none else m.find? k' := by
  rw [erase, find?_filterMap]
  cases m.find? k' <;> split_ifs <;> simp [*]

@[simp] theorem find?_erase_self (m : OrdMap κ ν) (k : κ) : (m.erase k).find? k = none := by
  rw [find?_erase, if_pos rfl]

theorem find?_erase_of_ne (m : OrdMap κ ν) {k k' : κ} (h : k' ≠ k) :
    (m.erase k).find? k' = m.find? k' := by
  rw [find?_erase, if_neg h]

end OrdMap
end Foundation
end MasterControl
