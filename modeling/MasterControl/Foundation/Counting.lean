import Mathlib.Algebra.BigOperators.Group.List.Basic
import Mathlib.Algebra.Order.Ring.Nat
import Mathlib.Data.List.Nodup
import Mathlib.Tactic.Common

/-!
# Counting the entries of a list

Counts by two tests (`countP_split`), by a key (`countP_mem_eq_sum`), of what two lists share
(`countP_mem_comm`), and sums of truncated differences (`sum_add_sum_sub`).
-/

namespace MasterControl
namespace Foundation

universe u v

variable {α : Type u} {κ : Type v}

/-- What passes one test passes a second one as well or does not. -/
theorem countP_split (p q : α → Bool) (l : List α) :
    l.countP p = l.countP (fun a => p a && q a) + l.countP fun a => p a && !q a := by
  rw [List.countP_eq_countP_filter_add l p q, List.countP_filter, List.countP_filter]

/-- Counting a property is counting a stronger one and what it leaves out. -/
theorem countP_split_of_imp {p q : α → Bool} {l : List α}
    (h : ∀ a ∈ l, p a = true → q a = true) :
    l.countP q = l.countP p + l.countP fun a => !p a && q a := by
  rw [countP_split q p l]
  refine congrArg₂ (· + ·) (List.countP_congr fun a ha => ?_) (List.countP_congr fun a _ => ?_)
  · rw [Bool.and_eq_true]
    exact ⟨And.right, fun hp => ⟨h a ha hp, hp⟩⟩
  · rw [Bool.and_comm]

/-- The entries whose key is in a list without repetitions are counted key by key. -/
theorem countP_mem_eq_sum [DecidableEq κ] (p : α → Bool) (key : α → κ) (l : List α)
    {keys : List κ} (hkeys : keys.Nodup) :
    l.countP (fun a => p a && decide (key a ∈ keys)) =
      (keys.map fun k => l.countP fun a => p a && decide (key a = k)).sum := by
  induction keys with
  | nil =>
    rw [List.map_nil, List.sum_nil, List.countP_eq_zero]
    intro a _
    simp
  | cons k keys ih =>
    obtain ⟨hk, hkeys⟩ := List.nodup_cons.mp hkeys
    rw [List.map_cons, List.sum_cons, ← ih hkeys,
      countP_split (fun a => p a && decide (key a ∈ k :: keys)) (fun a => decide (key a = k)) l]
    refine congrArg₂ (· + ·) (List.countP_congr fun a _ => ?_) (List.countP_congr fun a _ => ?_)
    · simp only [Bool.and_eq_true, decide_eq_true_eq, List.mem_cons]
      constructor
      · rintro ⟨⟨hp, -⟩, hak⟩
        exact ⟨hp, hak⟩
      · rintro ⟨hp, hak⟩
        exact ⟨⟨hp, Or.inl hak⟩, hak⟩
    · -- the first key is not among the others
      simp only [Bool.and_eq_true, decide_eq_true_eq, List.mem_cons, Bool.not_eq_true',
        decide_eq_false_iff_not]
      constructor
      · rintro ⟨⟨hp, hmem⟩, hak⟩
        exact ⟨hp, hmem.resolve_left hak⟩
      · rintro ⟨hp, hmem⟩
        exact ⟨⟨hp, Or.inr hmem⟩, fun hak => hk (hak ▸ hmem)⟩

/-- Two lists without repetition have as many elements in common counted either way. -/
theorem countP_mem_comm [DecidableEq α] {l m : List α} (hl : l.Nodup)
    (hm : m.Nodup) : (l.countP fun x => x ∈ m) = m.countP fun x => x ∈ l := by
  have hperm : (l.filter fun x => x ∈ m).Perm (m.filter fun x => x ∈ l) := by
    refine (List.perm_ext_iff_of_nodup (hl.filter _) (hm.filter _)).mpr fun x => ?_
    simp only [List.mem_filter, decide_eq_true_eq]
    exact And.comm
  rw [List.countP_eq_length_filter, List.countP_eq_length_filter, hperm.length_eq]

/-- Truncated differences add up. -/
theorem sum_add_sum_sub (load : α → ℕ) (limit : ℕ) (l : List α) :
    (l.map load).sum + (l.map fun a => limit - load a).sum =
      l.length * limit + (l.map fun a => load a - limit).sum := by
  induction l with
  | nil => simp
  | cons a l ih =>
    simp only [List.map_cons, List.sum_cons, List.length_cons, Nat.add_mul, Nat.one_mul]
    omega

end Foundation
end MasterControl
