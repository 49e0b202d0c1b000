import Mathlib.Data.List.Sort
import Mathlib.Order.Basic

/-!
# The newest of a list

Every element has an age, its key; a larger key is newer.  `IsNewest key n all result` says that
`result` is the first `n` of `all` when they are ordered newest first, with elements of one key in
any order.

If only some of the elements are read, then the first of those read are the newest of all iff each
element left unread has `n` among the read ones that are at least as new.
-/

namespace MasterControl
namespace Foundation

universe u v

variable {α : Type u} {κ : Type v} [LinearOrder κ] {key : α → κ}

/-- Newest first. -/
def NewestFirst (key : α → κ) (l : List α) : Prop := l.Pairwise fun a b => key b ≤ key a

/-- The first `n`, newest first. -/
def IsNewest (key : α → κ) (n : ℕ) (all result : List α) : Prop :=
  ∃ ordered : List α, ordered.Perm all ∧ NewestFirst key ordered ∧ result = ordered.take n

theorem newestFirst_mergeSort (key : α → κ) (l : List α) :
    NewestFirst key (l.mergeSort fun a b => decide (key b ≤ key a)) := by
  have hsorted : (l.mergeSort fun a b => decide (key b ≤ key a)).Pairwise
      fun a b => decide (key b ≤ key a) = true :=
    List.pairwise_mergeSort
      (fun a b c hab hbc => decide_eq_true ((of_decide_eq_true hbc).trans (of_decide_eq_true hab)))
      (fun a b => by simpa using le_total (key b) (key a)) l
  exact hsorted.imp fun hle => of_decide_eq_true hle

section Count

variable {l : List α} {n : ℕ}

/-- The elements that are at least as new stand in front. -/
theorem countP_take_of_newestFirst (h : NewestFirst key l) (k : κ) (n : ℕ) :
    (l.take n).countP (fun a => k ≤ key a) = min n (l.countP fun a => k ≤ key a) := by
  induction l generalizing n with
  | nil => simp
  | cons a l ih =>
    obtain ⟨hnewest, hrest⟩ := List.pairwise_cons.mp h
    cases n with
    | zero => simp
    | succ n =>
      rw [List.take_succ_cons]
      by_cases ha : k ≤ key a
      · rw [List.countP_cons_of_pos (by simpa using ha), List.countP_cons_of_pos (by simpa using ha),
          ih hrest]
        omega
      · have hnone : ∀ b ∈ l, ¬ (k ≤ key b) := fun b hb hle => ha (hle.trans (hnewest b hb))
        have hzero : l.countP (fun b => decide (k ≤ key b)) = 0 :=
          List.countP_eq_zero.mpr fun b hb => by simpa using hnone b hb
        rw [List.countP_cons_of_neg (by simpa using ha), List.countP_cons_of_neg (by simpa using ha),
          ih hrest, hzero, Nat.min_zero, Nat.min_zero]

/-- If enough elements are at least as new, then all of the first `n` are. -/
theorem le_key_of_mem_take (h : NewestFirst key l) {k : κ}
    (hcount : n ≤ l.countP fun a => k ≤ key a) {a : α} (ha : a ∈ l.take n) : k ≤ key a := by
  have hall : (l.take n).countP (fun a => k ≤ key a) = (l.take n).length := by
    rw [countP_take_of_newestFirst h, List.length_take]
    have hle : l.countP (fun a => decide (k ≤ key a)) ≤ l.length := List.countP_le_length
    omega
  simpa using List.countP_eq_length.mp hall a ha

end Count

section Reading

variable {found read unread : List α} {n m : ℕ}

/-- Enough of what is read is at least as new as what is not. -/
def Covers (key : α → κ) (n : ℕ) (read unread : List α) : Prop :=
  ∀ e ∈ unread, n ≤ read.countP fun a => key e ≤ key a

theorem isNewest_of_covers (hfound : NewestFirst key found) (hperm : found.Perm read)
    (h : Covers key n read unread) : IsNewest key n (read ++ unread) (found.take n) := by
  let rest := (found.drop n ++ unread).mergeSort fun a b => decide (key b ≤ key a)
  have hrestPerm : rest.Perm (found.drop n ++ unread) := List.mergeSort_perm _ _
  have hrest : NewestFirst key rest := newestFirst_mergeSort key _
  have hcount (e : α) (he : e ∈ unread) : n ≤ found.countP fun a => key e ≤ key a := by
    rw [hperm.countP_eq]
    exact h e he
  refine ⟨found.take n ++ rest, ?_, ?_, ?_⟩
  · calc (found.take n ++ rest).Perm (found.take n ++ (found.drop n ++ unread)) :=
          hrestPerm.append_left _
      _ = found ++ unread := by rw [← List.append_assoc, List.take_append_drop]
      List.Perm _ (read ++ unread) := hperm.append_right _
  · refine List.pairwise_append.mpr ⟨hfound.sublist (List.take_sublist n found), hrest, ?_⟩
    intro a ha b hb
    rcases List.mem_append.mp (hrestPerm.mem_iff.mp hb) with hdropped | hunread
    · have hsplit := hfound
      rw [NewestFirst, ← List.take_append_drop n found, List.pairwise_append] at hsplit
      exact hsplit.2.2 a ha b hdropped
    · exact le_key_of_mem_take hfound (hcount b hunread) ha
  · rw [List.take_append]
    rcases Nat.lt_or_ge found.length n with hshort | hlong
    · have hnone : rest = [] := by
        have hunread : unread = [] := List.eq_nil_iff_forall_not_mem.mpr fun e he => by
          have hle : found.countP (fun a => decide (key e ≤ key a)) ≤ found.length :=
            List.countP_le_length
          have := hcount e he
          omega
        rw [hunread, List.drop_eq_nil_of_le hshort.le] at hrestPerm
        exact hrestPerm.eq_nil
      rw [hnone, List.take_nil, List.append_nil, List.take_take, Nat.min_self]
    · rw [List.take_take, Nat.min_self, List.length_take, Nat.min_eq_left hlong, Nat.sub_self,
        List.take_zero, List.append_nil]

/-- **Reading some of the elements is enough** iff enough of them are at least as new as each of the
others; a smaller bound only if it cuts nothing. -/
theorem isNewest_take_iff (hfound : NewestFirst key found) (hperm : found.Perm read)
    (hm : m ≤ n) : IsNewest key n (read ++ unread) (found.take m) ↔
      (m = n ∨ (read ++ unread).length ≤ m) ∧ Covers key n read unread := by
  constructor
  · rintro ⟨ordered, hordered, hsorted, htake⟩
    have hlength : min m found.length = min n (found.length + unread.length) := by
      have htakes := congrArg List.length htake
      rwa [List.length_take, List.length_take, hordered.length_eq, List.length_append,
        ← hperm.length_eq] at htakes
    refine ⟨?_, fun e he => ?_⟩
    · rw [List.length_append, ← hperm.length_eq]
      omega
    · have hcounts := congrArg (List.countP fun a => decide (key e ≤ key a)) htake
      rw [countP_take_of_newestFirst hfound, countP_take_of_newestFirst hsorted,
        hordered.countP_eq, List.countP_append, hperm.countP_eq] at hcounts
      have hself : 0 < unread.countP fun a => decide (key e ≤ key a) :=
        List.countP_pos_iff.mpr ⟨e, he, by simp⟩
      omega
  · rintro ⟨hbound, hcovers⟩
    have hnewest := isNewest_of_covers hfound hperm hcovers
    rcases hbound with rfl | hbound
    · exact hnewest
    · rw [List.length_append, ← hperm.length_eq] at hbound
      rwa [List.take_of_length_le (by omega), ← List.take_of_length_le (l := found) (i := n)
        (by omega)]

end Reading

end Foundation
end MasterControl
