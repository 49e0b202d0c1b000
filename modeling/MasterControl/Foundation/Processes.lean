import Mathlib.Data.List.TakeWhile
import Mathlib.Logic.Function.Basic
import Mathlib.Tactic.Common

/-!
# Processes in a list

Processes that run beside one another are the entries of a list, and a step overwrites the entry
of the one that goes on.
-/

namespace MasterControl
namespace Foundation

universe u v

variable {α : Type u} {β : Type v} {l : List α} {a b x : α} {i j : ℕ}

/-- What is found after an entry was overwritten. -/
theorem getElem?_set_cases (h : (l.set i b)[j]? = some x) :
    (i = j ∧ x = b) ∨ (i ≠ j ∧ l[j]? = some x) := by
  by_cases hij : i = j
  · rw [List.getElem?_set, if_pos hij] at h
    split at h
    · exact Or.inl ⟨hij, (Option.some.inj h).symm⟩
    · cases h
  · rw [List.getElem?_set_ne hij] at h
    exact Or.inr ⟨hij, h⟩

/-- What is listed is the new entry or one of the others. -/
theorem mem_set_cases (h : x ∈ l.set i b) : (∃ j, i ≠ j ∧ l[j]? = some x) ∨ x = b := by
  obtain ⟨j, hj⟩ := List.mem_iff_getElem?.mp h
  rcases getElem?_set_cases hj with ⟨-, hnew⟩ | hold
  · exact Or.inr hnew
  · exact Or.inl ⟨j, hold⟩

/-- What was listed is the old entry or listed still. -/
theorem mem_set_or_eq (hi : l[i]? = some a) (hx : x ∈ l) : x ∈ l.set i b ∨ x = a := by
  obtain ⟨j, hj⟩ := List.mem_iff_getElem?.mp hx
  by_cases hij : i = j
  · subst hij
    exact Or.inr (Option.some.inj (hj.symm.trans hi))
  · exact Or.inl (List.mem_iff_getElem?.mpr ⟨j, by rw [List.getElem?_set_ne hij, hj]⟩)

/-- What each entry holds, after one was overwritten. -/
theorem bind_getElem?_set (f : α → Option β) (hi : l[i]? = some a) :
    (fun j => ((l.set i b)[j]?).bind f) = Function.update (fun j => l[j]?.bind f) i (f b) := by
  obtain ⟨hlength, -⟩ := List.getElem?_eq_some_iff.mp hi
  funext j
  rw [List.getElem?_set, Function.update_apply]
  by_cases hj : j = i
  · subst hj
    rw [if_pos rfl, if_pos rfl, if_pos hlength, Option.bind_some]
  · rw [if_neg (Ne.symm hj), if_neg hj]

end Foundation
end MasterControl
