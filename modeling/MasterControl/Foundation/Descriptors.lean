import Mathlib.Algebra.BigOperators.Group.Finset.Basic
import Mathlib.Algebra.Order.Group.Multiset
import Mathlib.Data.Fintype.Basic
import Mathlib.Data.List.Range
import Mathlib.Data.Multiset.Filter
import Mathlib.Data.Multiset.UnionInter

/-!
# Descriptors that are used again

A system names what it has open by descriptors, and gives a descriptor away again once it is free.
A handle is a descriptor with the number of the opening that it stands for; whoever uses or closes
a handle names the descriptor only, and hits what is open under it by then.

If the handles that are held are exactly those that are open (`Owns`), each use and each close hits
what it is meant for.  Opening, using and closing keep it so (`Owns.opened`, `Owns.used`,
`Owns.closed`), wherever the handles are.  Once nothing is held, each opening has been closed
exactly once (`Owns.all_closed`).
-/

namespace MasterControl
namespace Foundation

/-- A descriptor, and the number of the opening that it stands for. -/
structure Handle where
  number : ℕ
  descriptor : ℕ
  deriving DecidableEq

/-- What was done, and what it hit. -/
inductive DescriptorEvent where
  | opened (handle : Handle)
  | used (handle : Handle) (hit : Option Handle)
  | closed (handle : Handle) (hit : Option Handle)
  deriving DecidableEq

/-- What is open, how often something was opened, and all that was done. -/
structure DescriptorTable where
  openHandles : List Handle := []
  count : ℕ := 0
  history : List DescriptorEvent := []

namespace DescriptorTable

variable (table : DescriptorTable)

/-- What is open under a descriptor. -/
def find (descriptor : ℕ) : Option Handle :=
  table.openHandles.find? fun handle => handle.descriptor = descriptor

/-- The descriptor may be given away. -/
def Free (descriptor : ℕ) : Prop := descriptor ∉ table.openHandles.map Handle.descriptor

instance (descriptor : ℕ) : Decidable (table.Free descriptor) :=
  inferInstanceAs (Decidable (descriptor ∉ table.openHandles.map Handle.descriptor))

/-- What opening the descriptor gives. -/
def next (descriptor : ℕ) : Handle := ⟨table.count, descriptor⟩

def opened (descriptor : ℕ) : DescriptorTable where
  openHandles := table.next descriptor :: table.openHandles
  count := table.count + 1
  history := table.history ++ [.opened (table.next descriptor)]

def used (handle : Handle) : DescriptorTable :=
  { table with history := table.history ++ [.used handle (table.find handle.descriptor)] }

/-- Whatever is open under the descriptor is closed. -/
def closed (handle : Handle) : DescriptorTable :=
  { table with
    openHandles := table.openHandles.filter fun other => other.descriptor ≠ handle.descriptor
    history := table.history ++ [.closed handle (table.find handle.descriptor)] }

end DescriptorTable

namespace DescriptorEvent

/-- A use or a close hits what it is meant for. -/
def Sound : DescriptorEvent → Prop
  | .opened _ => True
  | .used handle hit => hit = some handle
  | .closed handle hit => hit = some handle

def opened? : DescriptorEvent → Option Handle
  | .opened handle => some handle
  | _ => none

def closed? : DescriptorEvent → Option Handle
  | .closed handle _ => some handle
  | _ => none

end DescriptorEvent

namespace DescriptorTable

/-- What was opened, oldest first. -/
def openings (table : DescriptorTable) : List Handle :=
  table.history.filterMap DescriptorEvent.opened?

/-- What was closed, oldest first. -/
def closings (table : DescriptorTable) : List Handle :=
  table.history.filterMap DescriptorEvent.closed?

variable (table : DescriptorTable) (handle : Handle) (descriptor : ℕ)

theorem openings_opened :
    (table.opened descriptor).openings = table.openings ++ [table.next descriptor] :=
  List.filterMap_append

theorem closings_opened : (table.opened descriptor).closings = table.closings :=
  List.filterMap_append.trans (List.append_nil _)

theorem openings_used : (table.used handle).openings = table.openings :=
  List.filterMap_append.trans (List.append_nil _)

theorem closings_used : (table.used handle).closings = table.closings :=
  List.filterMap_append.trans (List.append_nil _)

theorem openings_closed : (table.closed handle).openings = table.openings :=
  List.filterMap_append.trans (List.append_nil _)

theorem closings_closed : (table.closed handle).closings = table.closings ++ [handle] :=
  List.filterMap_append

end DescriptorTable

/-- What is held is what is open, and nothing else was ever hit. -/
structure Owns (table : DescriptorTable) (held : Multiset Handle) : Prop where
  owned : (table.openHandles : Multiset Handle) = held
  descriptors : (held.map Handle.descriptor).Nodup
  sound : ∀ event ∈ table.history, event.Sound
  /-- What was opened was closed, or is held. -/
  ledger : (table.openings : Multiset Handle) = table.closings + held
  numbers : table.openings.map Handle.number = List.range table.count

namespace Owns

variable {table : DescriptorTable} {held : Multiset Handle} {handle : Handle} {descriptor : ℕ}

theorem empty : Owns {} 0 where
  owned := rfl
  descriptors := Multiset.nodup_zero
  sound _ h := by cases h
  ledger := rfl
  numbers := rfl

/-- What is held is found under its descriptor. -/
theorem find_eq (h : Owns table held) (hhandle : handle ∈ held) :
    table.find handle.descriptor = some handle := by
  have hopen : handle ∈ table.openHandles := by
    rwa [← h.owned, Multiset.mem_coe] at hhandle
  have hdescriptors : (table.openHandles.map Handle.descriptor).Nodup := by
    have hnodup := h.descriptors
    rwa [← h.owned, Multiset.map_coe, Multiset.coe_nodup] at hnodup
  rw [DescriptorTable.find]
  cases hfind : table.openHandles.find? fun other => other.descriptor = handle.descriptor with
  | none => exact absurd (List.find?_eq_none.mp hfind handle hopen) (by simp)
  | some other =>
    have hsame : other.descriptor = handle.descriptor := by
      simpa using List.find?_some hfind
    rw [List.inj_on_of_nodup_map hdescriptors (List.mem_of_find?_eq_some hfind) hopen hsame]

theorem opened (h : Owns table held) (hfree : table.Free descriptor) :
    Owns (table.opened descriptor) (table.next descriptor ::ₘ held) where
  owned := by
    rw [← h.owned]
    rfl
  descriptors := by
    rw [Multiset.map_cons, Multiset.nodup_cons]
    refine ⟨fun hmem => hfree ?_, h.descriptors⟩
    rwa [← h.owned, Multiset.map_coe, Multiset.mem_coe] at hmem
  sound := List.forall_mem_append.mpr ⟨h.sound, List.forall_mem_singleton.mpr trivial⟩
  ledger := by
    rw [DescriptorTable.openings_opened, DescriptorTable.closings_opened, ← Multiset.coe_add,
      h.ledger, Multiset.coe_singleton, add_assoc, add_comm held, Multiset.singleton_add]
  numbers := by
    rw [DescriptorTable.openings_opened, List.map_append, h.numbers]
    exact List.range_succ.symm

theorem used (h : Owns table held) (hhandle : handle ∈ held) : Owns (table.used handle) held where
  owned := h.owned
  descriptors := h.descriptors
  sound := List.forall_mem_append.mpr
    ⟨h.sound, List.forall_mem_singleton.mpr (h.find_eq hhandle)⟩
  ledger := by
    rw [DescriptorTable.openings_used, DescriptorTable.closings_used, h.ledger]
  numbers := by
    rw [DescriptorTable.openings_used]
    exact h.numbers

/-- A handle that is closed is no longer held. -/
theorem closed (h : Owns table (handle ::ₘ held)) : Owns (table.closed handle) held where
  owned := by
    have hdescriptors := h.descriptors
    rw [Multiset.map_cons, Multiset.nodup_cons] at hdescriptors
    have hothers : ∀ other ∈ held, other.descriptor ≠ handle.descriptor := by
      intro other hother heq
      exact hdescriptors.1 (heq ▸ Multiset.mem_map_of_mem Handle.descriptor hother)
    rw [DescriptorTable.closed, ← Multiset.filter_coe, h.owned,
      Multiset.filter_cons_of_neg _ (by simp), Multiset.filter_eq_self]
    exact fun other hother => by simpa using hothers other hother
  descriptors := by
    have hdescriptors := h.descriptors
    rw [Multiset.map_cons, Multiset.nodup_cons] at hdescriptors
    exact hdescriptors.2
  sound := List.forall_mem_append.mpr
    ⟨h.sound, List.forall_mem_singleton.mpr (h.find_eq (Multiset.mem_cons_self handle held))⟩
  ledger := by
    rw [DescriptorTable.openings_closed, DescriptorTable.closings_closed, ← Multiset.coe_add,
      h.ledger, Multiset.coe_singleton, add_assoc, Multiset.singleton_add]
  numbers := by
    rw [DescriptorTable.openings_closed]
    exact h.numbers

/-- No opening happens twice. -/
theorem openings_nodup (h : Owns table held) : table.openings.Nodup := by
  refine List.Nodup.of_map Handle.number ?_
  rw [h.numbers]
  exact List.nodup_range

/-- Nothing is closed twice. -/
theorem closings_nodup (h : Owns table held) : table.closings.Nodup := by
  have hle : (table.closings : Multiset Handle) ≤ table.openings := by
    rw [h.ledger]
    exact Multiset.le_add_right _ _
  exact Multiset.coe_nodup.mp (Multiset.nodup_of_le hle (Multiset.coe_nodup.mpr h.openings_nodup))

/-- When nothing is held, each opening has been closed. -/
theorem all_closed (h : Owns table 0) : table.openings.Perm table.closings := by
  have hledger := h.ledger
  rwa [add_zero, Multiset.coe_eq_coe] at hledger

end Owns

/-! ## One of many holders -/

/-- What one of finitely many agents has, and what the others have. -/
theorem exists_sum_update {ι : Type*} {α : Type*} {M : Type*} [Fintype ι] [DecidableEq ι]
    [AddCommMonoid M] (f : ι → α) (g : α → M) (i : ι) :
    ∃ rest, ∑ j, g (f j) = g (f i) + rest ∧
      ∀ a, ∑ j, g (Function.update f i a j) = g a + rest := by
  refine ⟨∑ j ∈ Finset.univ.erase i, g (f j), ?_, fun a => ?_⟩
  · exact (Finset.add_sum_erase Finset.univ _ (Finset.mem_univ i)).symm
  · rw [← Finset.add_sum_erase Finset.univ _ (Finset.mem_univ i), Function.update_self]
    congr 1
    refine Finset.sum_congr rfl fun j hj => ?_
    rw [Function.update_of_ne (Finset.ne_of_mem_erase hj)]

end Foundation
end MasterControl
