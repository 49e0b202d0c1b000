import Mathlib.Data.List.TakeWhile
import Mathlib.Tactic.Common

/-!
# Joining texts with a separator

When joining two texts with a separator can be undone.  If the separator's first
letter does not occur in the left part, the join determines both parts
(`append_cons_inj_left`).  Without that, a separator of one letter twice leaves exactly
the two ambiguities of `Shifted`: the longer left part ends in half a separator, or in a
whole one and more (`append_pair_eq_iff`).  What stands before the first separator is
found again as well (`takeWhile_ne_append_cons`).
-/

namespace MasterControl
namespace Foundation

universe u

variable {α : Type u}

/-- The first occurrence of a letter determines what stands on its two sides. -/
theorem append_cons_inj_left {a : α} {x₁ x₂ z₁ z₂ : List α} (h₁ : a ∉ x₁) (h₂ : a ∉ x₂)
    (h : x₁ ++ a :: z₁ = x₂ ++ a :: z₂) : x₁ = x₂ ∧ z₁ = z₂ := by
  induction x₁ generalizing x₂ with
  | nil =>
    cases x₂ with
    | nil => exact ⟨rfl, (List.cons.inj h).2⟩
    | cons b x₂ => exact absurd (List.mem_cons.mpr (Or.inl (List.cons.inj h).1)) h₂
  | cons b x₁ ih =>
    cases x₂ with
    | nil => exact absurd (List.mem_cons.mpr (Or.inl (List.cons.inj h).1.symm)) h₁
    | cons c x₂ =>
      obtain ⟨hbc, htail⟩ := List.cons.inj h
      rw [List.mem_cons, not_or] at h₁ h₂
      obtain ⟨hx, hz⟩ := ih h₁.2 h₂.2 htail
      exact ⟨congrArg₂ List.cons hbc hx, hz⟩

/-- The same for strings and a separator that starts with the letter. -/
theorem string_append_inj_left {a : Char} {sep p₁ p₂ r₁ r₂ : String}
    (hsep : ∃ t, sep.toList = a :: t) (h₁ : a ∉ p₁.toList) (h₂ : a ∉ p₂.toList)
    (h : p₁ ++ sep ++ r₁ = p₂ ++ sep ++ r₂) : p₁ = p₂ ∧ r₁ = r₂ := by
  obtain ⟨t, ht⟩ := hsep
  have hlist : p₁.toList ++ a :: (t ++ r₁.toList) = p₂.toList ++ a :: (t ++ r₂.toList) := by
    have := congrArg String.toList h
    simpa [String.toList_append, ht, List.append_assoc] using this
  obtain ⟨hp, hr⟩ := append_cons_inj_left h₁ h₂ hlist
  exact ⟨String.toList_inj.mp hp, String.toList_inj.mp (List.append_cancel_left hr)⟩

/-- Different numbers are written differently. -/
theorem toString_injective : Function.Injective (toString : ℕ → String) := by
  intro k l h
  have hvalue : ∀ n : ℕ, Nat.ofDigitChars 10 (toString n).toList 0 = n := fun n => by
    rw [Nat.toString_eq_repr, Nat.toList_repr, Nat.ofDigitChars_ten_toDigits]
  rw [← hvalue k, h, hvalue l]

/-- Numbered names are determined by their number. -/
theorem append_toString_inj {p : String} {k l : ℕ} (h : p ++ toString k = p ++ toString l) :
    k = l := by
  have hlist := congrArg String.toList h
  simp only [String.toList_append, List.append_cancel_left_eq] at hlist
  exact toString_injective (String.toList_inj.mp hlist)

/-! ## What stands before a separator -/

section Cut

variable [DecidableEq α] {a : α} {l : List α}

theorem takeWhile_ne_eq_self_iff : l.takeWhile (· ≠ a) = l ↔ a ∉ l := by
  rw [List.takeWhile_eq_self_iff]
  constructor
  · intro h hmem
    exact of_decide_eq_true (h a hmem) rfl
  · intro h b hb
    exact decide_eq_true fun heq => h (heq ▸ hb)

theorem takeWhile_ne_append (h : a ∉ l) (rest : List α) :
    (l ++ rest).takeWhile (· ≠ a) = l ++ rest.takeWhile (· ≠ a) :=
  List.takeWhile_append_of_pos fun _ hb => decide_eq_true fun heq => h (heq ▸ hb)

/-- What stands before the first separator. -/
theorem takeWhile_ne_append_cons (h : a ∉ l) (rest : List α) :
    (l ++ a :: rest).takeWhile (· ≠ a) = l := by
  rw [takeWhile_ne_append h, List.takeWhile_cons_of_neg (by simp), List.append_nil]

/-- Behind a separator nothing counts. -/
theorem takeWhile_ne_append_of_mem (h : a ∈ l) (rest : List α) :
    (l ++ rest).takeWhile (· ≠ a) = l.takeWhile (· ≠ a) := by
  obtain ⟨before, behind, rfl, hbefore⟩ := List.eq_append_cons_of_mem h
  rw [List.append_assoc, List.cons_append, takeWhile_ne_append_cons hbefore,
    takeWhile_ne_append_cons hbefore]

theorem length_takeWhile_ne_lt (h : a ∈ l) : (l.takeWhile (· ≠ a)).length < l.length := by
  obtain ⟨before, behind, rfl, hbefore⟩ := List.eq_append_cons_of_mem h
  rw [takeWhile_ne_append_cons hbefore, List.length_append, List.length_cons]
  omega

end Cut

/-! ## A separator of one letter twice -/

/-- The pair `(y, w)` joins to the same text as `(x, z)` although `y` is longer: a letter
of the separator, or a whole separator and more, has moved to the left part. -/
def Shifted (a : α) (x z y w : List α) : Prop :=
  (y = x ++ [a] ∧ z = a :: w) ∨ ∃ u, y = x ++ a :: a :: u ∧ z = u ++ a :: a :: w

theorem Shifted.append_eq {a : α} {x z y w : List α} (h : Shifted a x z y w) :
    x ++ a :: a :: z = y ++ a :: a :: w := by
  rcases h with ⟨rfl, rfl⟩ | ⟨u, rfl, rfl⟩
  · simp
  · simp

theorem Shifted.ne {a : α} {x z y w : List α} (h : Shifted a x z y w) : x ≠ y := by
  intro heq
  have hlength := congrArg List.length heq
  rcases h with ⟨rfl, -⟩ | ⟨u, rfl, -⟩
  · rw [List.length_append, List.length_singleton] at hlength
    omega
  · rw [List.length_append, List.length_cons, List.length_cons] at hlength
    omega

/-- A longer left part is a shifted one. -/
theorem shifted_of_append_eq {a : α} {x z w v : List α} (hv : v ≠ [])
    (h : a :: a :: z = v ++ a :: a :: w) : Shifted a x z (x ++ v) w := by
  cases v with
  | nil => exact absurd rfl hv
  | cons b v =>
    obtain ⟨rfl, htail⟩ := List.cons.inj h
    cases v with
    | nil =>
      obtain ⟨-, rfl⟩ := List.cons.inj htail
      exact Or.inl ⟨rfl, rfl⟩
    | cons c u =>
      obtain ⟨rfl, rfl⟩ := List.cons.inj htail
      exact Or.inr ⟨u, rfl, rfl⟩

/-- **When two joins agree**: the parts agree, or one pair is the other one shifted. -/
theorem append_pair_eq_iff {a : α} {x z y w : List α} :
    x ++ a :: a :: z = y ++ a :: a :: w ↔
      (x = y ∧ z = w) ∨ Shifted a x z y w ∨ Shifted a y w x z := by
  constructor
  · intro h
    rcases List.append_eq_append_iff.mp h with ⟨v, rfl, hv⟩ | ⟨v, rfl, hv⟩
    · by_cases hnil : v = []
      · subst hnil
        obtain ⟨-, htail⟩ := List.cons.inj hv
        obtain ⟨-, rfl⟩ := List.cons.inj htail
        exact Or.inl ⟨(List.append_nil x).symm, rfl⟩
      · exact Or.inr (Or.inl (shifted_of_append_eq hnil hv))
    · by_cases hnil : v = []
      · subst hnil
        obtain ⟨-, htail⟩ := List.cons.inj hv
        obtain ⟨-, rfl⟩ := List.cons.inj htail
        exact Or.inl ⟨List.append_nil y, rfl⟩
      · exact Or.inr (Or.inr (shifted_of_append_eq hnil hv))
  · rintro (⟨rfl, rfl⟩ | h | h)
    · rfl
    · exact h.append_eq
    · exact h.append_eq.symm

end Foundation
end MasterControl
