import MasterControl.Foundation.OrdMap
import Mathlib.Data.List.Sort

/-!
# Sets with an order

`OrdSet κ` is a finite set whose elements are listed smallest first, as `std::set` walks over
them: the keys of an `OrdMap` without values.  A set is determined by its members
(`OrdSet.ext_mem`), so two sets are compared without a look at how they came about.
-/

namespace MasterControl
namespace Foundation

universe u v

/-! ## Maps are determined by their lookups -/

namespace OrdMap

variable {κ : Type u} {ν : Type v} [LinearOrder κ] {m m' : OrdMap κ ν} {k : κ} {x : ν}

theorem ext_find? (h : ∀ k, m.find? k = m'.find? k) : m = m' := by
  have hentries : m.entries = m'.entries := by
    have : Std.Irrefl fun p q : κ × ν => p.1 < q.1 := ⟨fun p => lt_irrefl p.1⟩
    have : Std.Antisymm fun p q : κ × ν => p.1 < q.1 := ⟨fun p q hpq hqp => absurd hpq hqp.asymm⟩
    refine m.sorted.eq_of_mem_iff m'.sorted fun {p} => ?_
    rw [mem_entries_iff, mem_entries_iff, h p.1]
  obtain ⟨entries, _⟩ := m
  obtain ⟨entries', _⟩ := m'
  subst hentries
  rfl

theorem insert_insert (m : OrdMap κ ν) (k : κ) (x y : ν) :
    (m.insert k x).insert k y = m.insert k y := by
  refine ext_find? fun k' => ?_
  rw [find?_insert, find?_insert, find?_insert]
  split_ifs <;> rfl

/-- Values that are kept under keys of their own, of which no two are the same: what is inserted is
found, and what was there is still found. -/
theorem find?_foldl_insert {key : ν → κ} {P : ν → Prop}
    (hkey : ∀ x y, P x → P y → key x = key y → x = y) (l : List ν) (hl : ∀ x ∈ l, P x)
    (hm : ∀ k x, m.find? k = some x → P x ∧ k = key x) (k : κ) (x : ν) :
    (l.foldl (fun m x => m.insert (key x) x) m).find? k = some x ↔
      m.find? k = some x ∨ (x ∈ l ∧ k = key x) := by
  induction l generalizing m with
  | nil => simp
  | cons y l ih =>
    have hy := hl y List.mem_cons_self
    have hone : ∀ k x, (m.insert (key y) y).find? k = some x ↔
        m.find? k = some x ∨ (x = y ∧ k = key x) := by
      intro k x
      rw [find?_insert]
      split_ifs with heq
      · subst heq
        rw [Option.some_inj]
        constructor
        · rintro rfl
          exact Or.inr ⟨rfl, rfl⟩
        · rintro (hfind | ⟨rfl, -⟩)
          · exact hkey y x hy (hm _ x hfind).1 (hm _ x hfind).2
          · rfl
      · refine ⟨Or.inl, fun h => h.resolve_right ?_⟩
        rintro ⟨rfl, rfl⟩
        exact heq rfl
    rw [List.foldl_cons, ih (fun x hx => hl x (List.mem_cons_of_mem _ hx)) ?_, hone, or_assoc,
      ← or_and_right, List.mem_cons]
    intro k x hfind
    rcases (hone k x).mp hfind with hfind | ⟨rfl, hk⟩
    · exact hm k x hfind
    · exact ⟨hy, hk⟩

end OrdMap

/-! ## Sets -/

/-- A finite set, as the keys of a map. -/
structure OrdSet (κ : Type u) [LinearOrder κ] where
  /-- The map that has the members as its keys. -/
  members : OrdMap κ Unit

namespace OrdSet

variable {κ : Type u} [LinearOrder κ] {s t : OrdSet κ} {k k' : κ}

def empty : OrdSet κ := ⟨OrdMap.empty⟩

/-- The members, smallest first. -/
def toList (s : OrdSet κ) : List κ := s.members.keys

def insert (s : OrdSet κ) (k : κ) : OrdSet κ := ⟨s.members.insert k ()⟩

def erase (s : OrdSet κ) (k : κ) : OrdSet κ := ⟨s.members.erase k⟩

instance : Membership κ (OrdSet κ) := ⟨fun s k => (s.members.find? k).isSome = true⟩

instance : Decidable (k ∈ s) := inferInstanceAs (Decidable ((s.members.find? k).isSome = true))

@[simp] theorem notMem_empty (k : κ) : k ∉ (empty : OrdSet κ) := Bool.false_ne_true

@[simp] theorem toList_empty : (empty : OrdSet κ).toList = [] := rfl

theorem mem_insert : k' ∈ s.insert k ↔ k' = k ∨ k' ∈ s := by
  show ((s.members.insert k ()).find? k').isSome = true ↔ _
  rw [OrdMap.find?_insert]
  by_cases h : k = k'
  · simp [h]
  · rw [if_neg h]
    exact ⟨Or.inr, fun hmem => hmem.resolve_left fun heq => h heq.symm⟩

theorem mem_erase : k' ∈ s.erase k ↔ k' ≠ k ∧ k' ∈ s := by
  show ((s.members.erase k).find? k').isSome = true ↔ _
  rw [OrdMap.find?_erase]
  by_cases h : k' = k
  · simp [h]
  · rw [if_neg h]
    exact ⟨fun hmem => ⟨h, hmem⟩, fun hmem => hmem.2⟩

@[simp] theorem mem_toList : k ∈ s.toList ↔ k ∈ s := by
  rw [toList, OrdMap.mem_keys_iff]
  exact Option.isSome_iff_exists.symm

theorem nodup_toList (s : OrdSet κ) : s.toList.Nodup := s.members.nodup_keys

theorem pairwise_toList (s : OrdSet κ) : s.toList.Pairwise (· < ·) :=
  List.pairwise_map.mpr s.members.sorted

/-- The members determine their list. -/
theorem toList_eq (h : ∀ k, k ∈ s ↔ k ∈ t) : s.toList = t.toList :=
  s.pairwise_toList.eq_of_mem_iff t.pairwise_toList fun {k} => by
    rw [mem_toList, mem_toList, h k]

theorem eq_of_toList_eq (h : s.toList = t.toList) : s = t := by
  obtain ⟨⟨entries, _⟩⟩ := s
  obtain ⟨⟨entries', _⟩⟩ := t
  have hentries : entries = entries' :=
    List.map_injective_iff.mpr (fun (p q : κ × Unit) (hpq : p.1 = q.1) => Prod.ext hpq rfl) h
  subst hentries
  rfl

/-- **Extensionality.** -/
theorem ext_mem (h : ∀ k, k ∈ s ↔ k ∈ t) : s = t := eq_of_toList_eq (toList_eq h)

instance : DecidableEq (OrdSet κ) := fun s t =>
  decidable_of_iff (s.toList = t.toList) ⟨eq_of_toList_eq, fun h => h ▸ rfl⟩

/-- The set of what is listed. -/
def ofList (l : List κ) : OrdSet κ := l.foldl insert empty

theorem mem_foldl_insert (l : List κ) (s : OrdSet κ) : k ∈ l.foldl insert s ↔ k ∈ s ∨ k ∈ l := by
  induction l generalizing s with
  | nil => simp
  | cons k' l ih => rw [List.foldl_cons, ih, mem_insert, List.mem_cons, or_comm (a := k = k'), or_assoc]

theorem mem_ofList (l : List κ) : k ∈ ofList l ↔ k ∈ l := by
  rw [ofList, mem_foldl_insert]
  simp

end OrdSet
end Foundation
end MasterControl
