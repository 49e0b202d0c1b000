import Mathlib.Data.List.DropRight
import Mathlib.Tactic.Common

/-!
# Trimming a list

`trim p` drops the letters that satisfy `p` from both ends of a list.  Trimming twice is
trimming once (`trim_trim`), what surrounds a list does not matter (`trim_surrounded`), and
trimming commutes with a rewriting of the letters that respects `p` (`trim_map`).
-/

namespace MasterControl
namespace Foundation

universe u

variable {α β : Type u} {p : α → Bool} {l : List α}

/-- Drop the letters that satisfy the test from both ends. -/
def trim (p : α → Bool) (l : List α) : List α := (l.dropWhile p).rdropWhile p

/-- Nothing is left exactly when every letter satisfies the test. -/
theorem trim_eq_nil_iff : trim p l = [] ↔ ∀ a ∈ l, p a = true := by
  rw [trim, List.rdropWhile_eq_nil_iff]
  constructor
  · intro h a ha
    by_contra hpa
    have hne : l.dropWhile p ≠ [] := fun hnil => hpa (List.dropWhile_eq_nil_iff.mp hnil a ha)
    have hhead := List.head_dropWhile_not p hne
    rw [h _ (List.head_mem hne)] at hhead
    cases hhead
  · intro h a ha
    exact h a ((List.dropWhile_sublist p).mem ha)

/-- What begins and ends with letters that fail the test is not trimmed. -/
theorem trim_eq_self (hhead : ∀ h : l ≠ [], p (l.head h) = false)
    (hlast : ∀ h : l ≠ [], p (l.getLast h) = false) : trim p l = l := by
  have hfront : l.dropWhile p = l := by
    cases l with
    | nil => rfl
    | cons a l =>
      have ha : p a = false := hhead (List.cons_ne_nil a l)
      rw [List.dropWhile_cons, ha, if_neg Bool.false_ne_true]
  rw [trim, hfront, List.rdropWhile_eq_self_iff]
  intro hne
  rw [hlast hne]
  exact Bool.false_ne_true

theorem head_trim (h : trim p l ≠ []) : p ((trim p l).head h) = false := by
  have hne : l.dropWhile p ≠ [] := fun hnil => h (by rw [trim, hnil, List.rdropWhile_nil])
  have hhead : (trim p l).head h = (l.dropWhile p).head hne :=
    (List.rdropWhile_prefix p (l.dropWhile p)).head h
  rw [hhead]
  exact List.head_dropWhile_not p hne

theorem getLast_trim (h : trim p l ≠ []) : p ((trim p l).getLast h) = false :=
  Bool.eq_false_iff.mpr (List.rdropWhile_last_not p (l.dropWhile p) h)

/-- **Trimming twice is trimming once.** -/
@[simp] theorem trim_trim (p : α → Bool) (l : List α) : trim p (trim p l) = trim p l :=
  trim_eq_self head_trim getLast_trim

/-- What surrounds a list and satisfies the test is trimmed away. -/
theorem trim_surrounded {front back : List α} (hfront : ∀ a ∈ front, p a = true)
    (hback : ∀ a ∈ back, p a = true) (l : List α) : trim p (front ++ l ++ back) = trim p l := by
  have hdropFront : (front ++ l ++ back).dropWhile p = (l ++ back).dropWhile p := by
    rw [List.append_assoc, List.dropWhile_append_of_pos hfront]
  rw [trim, hdropFront]
  by_cases hl : ∀ a ∈ l, p a = true
  · have hnil : l.dropWhile p = [] := List.dropWhile_eq_nil_iff.mpr hl
    rw [List.dropWhile_append_of_pos hl, List.dropWhile_eq_nil_iff.mpr hback, trim, hnil]
  · have hne : (l.dropWhile p).isEmpty = false := by
      rw [List.isEmpty_eq_false_iff]
      exact fun hnil => hl (List.dropWhile_eq_nil_iff.mp hnil)
    rw [List.dropWhile_append, hne, if_neg Bool.false_ne_true, trim, List.rdropWhile,
      List.reverse_append, List.dropWhile_append_of_pos fun a ha => hback a (List.mem_reverse.mp ha)]
    rfl

theorem dropWhile_map_of_respects {q : β → Bool} {f : α → β} (hf : ∀ a, q (f a) = p a)
    (l : List α) : (l.map f).dropWhile q = (l.dropWhile p).map f := by
  induction l with
  | nil => rfl
  | cons a l ih =>
    rw [List.map_cons, List.dropWhile_cons, List.dropWhile_cons, hf a]
    by_cases hpa : p a = true
    · rw [if_pos hpa, if_pos hpa, ih]
    · rw [if_neg hpa, if_neg hpa, List.map_cons]

/-- Trimming commutes with a rewriting that respects the test. -/
theorem trim_map {q : β → Bool} {f : α → β} (hf : ∀ a, q (f a) = p a) (l : List α) :
    trim q (l.map f) = (trim p l).map f := by
  rw [trim, trim, dropWhile_map_of_respects hf, List.rdropWhile, List.rdropWhile,
    ← List.map_reverse, dropWhile_map_of_respects hf, List.map_reverse]

end Foundation
end MasterControl
