import Mathlib.Data.List.Infix
import Mathlib.Tactic.Common

/-!
# Searching a text

`cut needle s` finds the first occurrence of a text in another one, and gives what stands
before it and behind it.  What is found does not change when letters arrive behind
(`cut_append`), so a reader that looks at longer and longer fronts of a stream finds the same
place, as soon as the front is long enough to hold it (`cut_take`).

`findFrom` gives the position of the first occurrence from a position on.

`cutLast` finds the last occurrence.  Where the first letter of the needle occurs in it only once,
what is behind may be cut off, or may start with that letter again.
-/

namespace MasterControl
namespace Foundation

universe u

variable {α : Type u} [DecidableEq α] {needle a b s t : List α}

/-- What stands before the first occurrence of a text and behind it. -/
def cut (needle : List α) : List α → Option (List α × List α)
  | [] => if needle = [] then some ([], []) else none
  | x :: s =>
    if needle.isPrefixOf (x :: s) then some ([], (x :: s).drop needle.length)
    else (cut needle s).map fun found => (x :: found.1, found.2)

theorem cut_cons_of_front {x : α} (h : needle <+: x :: s) :
    cut needle (x :: s) = some ([], (x :: s).drop needle.length) :=
  if_pos <| List.isPrefixOf_iff_prefix.mpr h

theorem cut_cons_of_not_front {x : α} (h : ¬ needle <+: x :: s) :
    cut needle (x :: s) = (cut needle s).map fun found => (x :: found.1, found.2) :=
  if_neg fun hfront => h <| List.isPrefixOf_iff_prefix.mp hfront

theorem cut_singleton_of_not_mem {x : α} (h : x ∉ a) (t : List α) :
    cut [x] (a ++ x :: t) = some (a, t) := by
  induction a with
  | nil => exact cut_cons_of_front ⟨t, rfl⟩
  | cons y a ih =>
    have hne : x ≠ y := fun hxy => h (hxy ▸ List.mem_cons_self)
    have hfront : ¬ [x] <+: y :: (a ++ x :: t) := by
      intro hfront
      exact hne (List.cons_prefix_cons.mp hfront).1
    rw [List.cons_append, cut_cons_of_not_front hfront,
      ih fun hmem => h (List.mem_cons_of_mem y hmem)]
    rfl

/-- A needle is not found in a text without its first letter. -/
theorem cut_cons_of_not_mem {x : α} (h : x ∉ s) : cut (x :: needle) s = none := by
  induction s with
  | nil => exact if_neg (List.cons_ne_nil x needle)
  | cons y s ih =>
    have hfront : ¬ x :: needle <+: y :: s := by
      intro hfront
      exact h ((List.cons_prefix_cons.mp hfront).1 ▸ List.mem_cons_self)
    rw [cut_cons_of_not_front hfront, ih fun hmem => h (List.mem_cons_of_mem y hmem)]
    rfl

/-- A needle is found behind the first separator, if it starts with one, or further back. -/
theorem cut_cons_append_cons {x : α} (h : x ∉ a) (t : List α) :
    cut (x :: needle) (a ++ x :: t) =
      if needle.isPrefixOf t then some (a, t.drop needle.length)
      else (cut (x :: needle) t).map fun found => (a ++ x :: found.1, found.2) := by
  induction a with
  | nil =>
    rw [List.nil_append]
    by_cases hfront : needle <+: t
    · rw [cut_cons_of_front (List.cons_prefix_cons.mpr ⟨rfl, hfront⟩),
        if_pos (List.isPrefixOf_iff_prefix.mpr hfront)]
      rfl
    · rw [cut_cons_of_not_front fun h => hfront (List.cons_prefix_cons.mp h).2,
        if_neg fun h => hfront (List.isPrefixOf_iff_prefix.mp h)]
      rfl
  | cons y a ih =>
    have hfront : ¬ x :: needle <+: y :: (a ++ x :: t) := by
      intro hfront
      exact h ((List.cons_prefix_cons.mp hfront).1 ▸ List.mem_cons_self)
    rw [List.cons_append, cut_cons_of_not_front hfront,
      ih fun hmem => h (List.mem_cons_of_mem y hmem)]
    split_ifs
    · rfl
    · rw [Option.map_map]
      rfl

/-- What is found is there. -/
theorem eq_of_cut (h : cut needle s = some (a, b)) : s = a ++ needle ++ b := by
  induction s generalizing a with
  | nil =>
    rw [cut] at h
    split at h
    · rename_i hneedle
      obtain ⟨rfl, rfl⟩ := Prod.mk.injEq .. ▸ Option.some.inj h
      rw [hneedle]
      rfl
    · cases h
  | cons x s ih =>
    by_cases hfront : needle <+: x :: s
    · rw [cut_cons_of_front hfront] at h
      obtain ⟨rfl, rfl⟩ := Prod.mk.injEq .. ▸ Option.some.inj h
      obtain ⟨u, hu⟩ := hfront
      rw [← hu, List.drop_left, List.nil_append]
    · rw [cut_cons_of_not_front hfront] at h
      obtain ⟨⟨a', b'⟩, hcut, hfound⟩ := Option.map_eq_some_iff.mp h
      obtain ⟨rfl, rfl⟩ := Prod.mk.injEq .. ▸ hfound
      rw [ih hcut, List.cons_append, List.cons_append]

/-- Something is found where it occurs. -/
theorem exists_cut (needle a b : List α) :
    ∃ found, cut needle (a ++ needle ++ b) = some found := by
  induction a with
  | nil =>
    rw [List.nil_append]
    cases hs : needle ++ b with
    | nil =>
      obtain ⟨rfl, rfl⟩ := List.append_eq_nil_iff.mp hs
      exact ⟨([], []), if_pos rfl⟩
    | cons x s => exact ⟨_, cut_cons_of_front ⟨b, hs⟩⟩
  | cons x a ih =>
    by_cases hfront : needle <+: x :: (a ++ needle ++ b)
    · exact ⟨_, cut_cons_of_front hfront⟩
    · obtain ⟨found, hfound⟩ := ih
      refine ⟨(x :: found.1, found.2), ?_⟩
      rw [List.cons_append, List.cons_append, cut_cons_of_not_front hfront, hfound, Option.map_some]

theorem isSome_cut_iff : (cut needle s).isSome = true ↔ needle <:+: s := by
  constructor
  · intro h
    obtain ⟨⟨a, b⟩, hcut⟩ := Option.isSome_iff_exists.mp h
    exact ⟨a, b, (eq_of_cut hcut).symm⟩
  · rintro ⟨a, b, rfl⟩
    exact Option.isSome_iff_exists.mpr (exists_cut needle a b)

/-- **What arrives behind does not change what is found.** -/
theorem cut_append (h : cut needle s = some (a, b)) (t : List α) :
    cut needle (s ++ t) = some (a, b ++ t) := by
  induction s generalizing a with
  | nil =>
    rw [cut] at h
    split at h
    · rename_i hneedle
      obtain ⟨rfl, rfl⟩ := Prod.mk.injEq .. ▸ Option.some.inj h
      rw [List.nil_append, hneedle]
      cases t with
      | nil => rfl
      | cons x t => exact cut_cons_of_front List.nil_prefix
    · cases h
  | cons x s ih =>
    by_cases hfront : needle <+: x :: s
    · rw [cut_cons_of_front hfront] at h
      obtain ⟨rfl, rfl⟩ := Prod.mk.injEq .. ▸ Option.some.inj h
      have hlonger : needle <+: x :: (s ++ t) := hfront.trans (List.prefix_append (x :: s) t)
      rw [List.cons_append, cut_cons_of_front hlonger, ← List.cons_append,
        List.drop_append_of_le_length hfront.length_le]
    · rw [cut_cons_of_not_front hfront] at h
      obtain ⟨⟨a', b'⟩, hcut, hfound⟩ := Option.map_eq_some_iff.mp h
      obtain ⟨rfl, rfl⟩ := Prod.mk.injEq .. ▸ hfound
      have hlonger : ¬ needle <+: x :: (s ++ t) := by
        -- the occurrence that was found further back leaves room for one at the front
        intro hfront'
        refine hfront (List.prefix_of_prefix_length_le hfront' (List.prefix_append (x :: s) t) ?_)
        have hlength := congrArg List.length (eq_of_cut hcut)
        simp only [List.length_append, List.length_cons] at hlength ⊢
        omega
      rw [List.cons_append, cut_cons_of_not_front hlonger, ih hcut, Option.map_some]

/-- A front that is too short finds nothing. -/
theorem cut_take_of_lt {n : ℕ} (h : cut needle s = some (a, b))
    (hn : n < a.length + needle.length) : cut needle (s.take n) = none := by
  cases hfront : cut needle (s.take n) with
  | none => rfl
  | some found =>
    obtain ⟨a', b'⟩ := found
    have hwhole := cut_append hfront (s.drop n)
    rw [List.take_append_drop, h] at hwhole
    obtain ⟨rfl, -⟩ := Prod.mk.injEq .. ▸ Option.some.inj hwhole
    have hlength := congrArg List.length (eq_of_cut hfront)
    simp only [List.length_append, List.length_take] at hlength
    omega

/-- A front that is long enough finds what the whole text holds. -/
theorem cut_take_of_le {n : ℕ} (h : cut needle s = some (a, b))
    (hn : a.length + needle.length ≤ n) :
    cut needle (s.take n) = some (a, b.take (n - (a.length + needle.length))) := by
  have hfront : s.take n = a ++ needle ++ b.take (n - (a.length + needle.length)) := by
    have hlength : (a ++ needle).length ≤ n := by rwa [List.length_append]
    rw [eq_of_cut h, List.take_append, List.take_of_length_le hlength, List.length_append]
  obtain ⟨⟨a', b'⟩, hfound⟩ :=
    exists_cut needle a (b.take (n - (a.length + needle.length)))
  rw [← hfront] at hfound
  have hwhole := cut_append hfound (s.drop n)
  rw [List.take_append_drop, h] at hwhole
  obtain ⟨rfl, -⟩ := Prod.mk.injEq .. ▸ Option.some.inj hwhole
  rw [hfound]
  have hrest := eq_of_cut hfound
  rw [hfront, List.append_cancel_left_eq] at hrest
  rw [hrest]

/-- What a front finds is what the whole text holds. -/
theorem cut_take_of_none {n : ℕ} (h : cut needle s = none) : cut needle (s.take n) = none := by
  cases hfront : cut needle (s.take n) with
  | none => rfl
  | some found =>
    have hwhole := cut_append hfront (s.drop n)
    rw [List.take_append_drop, h] at hwhole
    cases hwhole

/-! ## Searching from a position -/

/-- `find(needle, start)`. -/
def findFrom (needle s : List α) (start : ℕ) : Option ℕ :=
  (cut needle (s.drop start)).map fun found => start + found.1.length

theorem findFrom_eq_some_iff {start n : ℕ} : findFrom needle s start = some n ↔
    ∃ a b, cut needle (s.drop start) = some (a, b) ∧ n = start + a.length := by
  rw [findFrom, Option.map_eq_some_iff]
  constructor
  · rintro ⟨⟨a, b⟩, hcut, rfl⟩
    exact ⟨a, b, hcut, rfl⟩
  · rintro ⟨a, b, hcut, rfl⟩
    exact ⟨(a, b), hcut, rfl⟩

theorem findFrom_eq_none_iff {start : ℕ} :
    findFrom needle s start = none ↔ cut needle (s.drop start) = none := by
  rw [findFrom, Option.map_eq_none_iff]

theorem le_of_findFrom {start n : ℕ} (h : findFrom needle s start = some n) : start ≤ n := by
  obtain ⟨a, b, -, rfl⟩ := findFrom_eq_some_iff.mp h
  exact Nat.le_add_right _ _

/-! ## A needle that ends as the text does -/

omit [DecidableEq α] in
/-- A text that no part of itself overlaps is not found across the seam. -/
theorem prefix_append_iff {t w : List α}
    (ht : ∀ k, 0 < k → k < t.length → ¬ t.drop k <+: t) : t <+: w ++ t ↔ w = [] ∨ t <+: w := by
  constructor
  · intro h
    by_cases hw : w = []
    · exact Or.inl hw
    · right
      rcases Nat.lt_or_ge w.length t.length with hshort | hlong
      · obtain ⟨rest, hrest⟩ :=
          List.prefix_of_prefix_length_le (List.prefix_append w t) h (Nat.le_of_lt hshort)
        refine absurd ?_ (ht w.length (List.length_pos_iff.mpr hw) hshort)
        rw [← hrest, List.drop_left]
        rw [← hrest] at h
        exact (List.prefix_append_right_inj w).mp h
      · exact List.prefix_of_prefix_length_le h (List.prefix_append w t) hlong
  · rintro (rfl | h)
    · exact List.prefix_rfl
    · exact h.trans (List.prefix_append w t)

/-- A letter and such a text are found where the text ends: in front of the end, or because the
letter stands there. -/
theorem cons_infix_append_iff {t : List α}
    (ht : ∀ k, 0 < k → k < t.length → ¬ t.drop k <+: t) (x : α) (w : List α) :
    x :: t <:+: w ++ t ↔ w.getLast? = some x ∨ x :: t <:+: w := by
  induction w with
  | nil =>
    constructor
    · intro h
      have hle := h.length_le
      rw [List.nil_append, List.length_cons] at hle
      omega
    · rintro (h | h)
      · cases h
      · cases List.infix_nil.mp h
  | cons a w ih =>
    rw [List.cons_append, List.infix_cons_iff, List.cons_prefix_cons, prefix_append_iff ht, ih,
      List.infix_cons_iff, List.cons_prefix_cons]
    cases w with
    | nil =>
      rw [List.getLast?_singleton, List.getLast?_nil, Option.some.injEq]
      constructor
      · rintro (⟨rfl, -⟩ | h | h)
        · exact Or.inl rfl
        · cases h
        · cases List.infix_nil.mp h
      · rintro (rfl | ⟨rfl, -⟩ | h)
        · exact Or.inl ⟨rfl, Or.inl rfl⟩
        · exact Or.inl ⟨rfl, Or.inl rfl⟩
        · cases List.infix_nil.mp h
    | cons b w =>
      rw [List.getLast?_cons_cons]
      constructor
      · rintro (⟨rfl, h | h⟩ | h | h)
        · cases h
        · exact Or.inr (Or.inl ⟨rfl, h⟩)
        · exact Or.inl h
        · exact Or.inr (Or.inr h)
      · rintro (h | ⟨rfl, h⟩ | h)
        · exact Or.inr (Or.inl h)
        · exact Or.inl ⟨rfl, Or.inr h⟩
        · exact Or.inr (Or.inr h)

omit [DecidableEq α] in
/-- A needle is found in front of letters that are not its last one. -/
theorem infix_append_iff_of_getLast {needle w ds : List α} {x : α}
    (hlast : needle.getLast? = some x) (hx : x ∉ ds) :
    needle <:+: w ++ ds ↔ needle <:+: w := by
  constructor
  · rintro ⟨u, v, h⟩
    rcases List.append_eq_append_iff.mp h with ⟨as, hw, hv⟩ | ⟨bs, hfront, hds⟩
    · exact ⟨u, as, hw.symm⟩
    · rcases List.eq_nil_or_concat bs with rfl | ⟨bs, y, rfl⟩
      · exact ⟨u, [], by rw [List.append_nil, hfront, List.append_nil]⟩
      · refine absurd ?_ hx
        obtain ⟨needle, rfl⟩ : ∃ front, needle = front ++ [x] := by
          obtain ⟨front, hfront⟩ := List.getLast?_eq_some_iff.mp hlast
          exact ⟨front, hfront⟩
        rw [List.concat_eq_append] at hfront hds
        rw [← List.append_assoc, ← List.append_assoc] at hfront
        have hxy : x = y := List.singleton_inj.mp (List.append_inj_right' hfront rfl)
        rw [hds, hxy]
        exact List.mem_append_left _ (List.mem_append_right _ (List.mem_singleton_self y))
  · intro h
    exact h.trans (List.prefix_append w ds).isInfix

/-! ## The last occurrence -/

/-- What stands before the last occurrence of a text and behind it. -/
def cutLast (needle : List α) : List α → Option (List α × List α)
  | [] => if needle = [] then some ([], []) else none
  | x :: s =>
    match cutLast needle s with
    | some found => some (x :: found.1, found.2)
    | none => if needle.isPrefixOf (x :: s) then some ([], (x :: s).drop needle.length) else none

theorem cutLast_cons_of_some {x : α} {found : List α × List α} (h : cutLast needle s = some found) :
    cutLast needle (x :: s) = some (x :: found.1, found.2) := by
  rw [cutLast, h]

theorem cutLast_cons_of_none {x : α} (h : cutLast needle s = none) : cutLast needle (x :: s) =
    if needle.isPrefixOf (x :: s) then some ([], (x :: s).drop needle.length) else none := by
  rw [cutLast, h]

theorem eq_of_cutLast (h : cutLast needle s = some (a, b)) : s = a ++ needle ++ b := by
  induction s generalizing a with
  | nil =>
    obtain ⟨rfl, hfound⟩ := Option.ite_none_right_eq_some.mp h
    cases hfound
    rfl
  | cons x s ih =>
    cases hs : cutLast needle s with
    | some found =>
      rw [cutLast_cons_of_some hs] at h
      cases h
      exact congrArg (x :: ·) (ih hs)
    | none =>
      rw [cutLast_cons_of_none hs] at h
      obtain ⟨hfront, hfound⟩ := Option.ite_none_right_eq_some.mp h
      cases hfound
      obtain ⟨u, hu⟩ := List.isPrefixOf_iff_prefix.mp hfront
      rw [← hu, List.drop_left]
      rfl

theorem cutLast_eq_none_of_not_infix (h : ¬ needle <:+: s) : cutLast needle s = none := by
  cases hs : cutLast needle s with
  | none => rfl
  | some found => exact absurd ⟨found.1, found.2, (eq_of_cutLast hs).symm⟩ h

section Head

variable {x : α} {t m r w : List α}

omit [DecidableEq α] in
/-- A needle is found behind letters that are not its first one. -/
theorem infix_append_iff_of_head (hx : x ∉ w) : x :: t <:+: w ++ s ↔ x :: t <:+: s := by
  induction w with
  | nil => rfl
  | cons y w ih =>
    rw [List.mem_cons, not_or] at hx
    rw [List.cons_append, List.infix_cons_iff, List.cons_prefix_cons, ih hx.2]
    exact or_iff_right fun h => hx.1 h.1

omit [DecidableEq α] in
/-- A needle whose first letter does not occur in it again is found on one side of a place where
that letter stands. -/
theorem append_cons_eq_needle (hx : x ∉ t) (h : s ++ x :: m = a ++ x :: t ++ r) :
    (∃ r', s = a ++ x :: t ++ r') ∨ ∃ a', x :: m = a' ++ x :: t ++ r := by
  rcases List.append_eq_append_iff.mp h with ⟨u, hfront, hm⟩ | ⟨u, hs, hr⟩
  · rcases List.append_eq_append_iff.mp hfront with ⟨v, hs, hv⟩ | ⟨v, -, hv⟩
    · cases u with
      | nil => exact .inl ⟨[], by rw [hs, hv, List.append_nil, List.append_nil]⟩
      | cons y u =>
        obtain ⟨rfl, -⟩ := List.cons.inj hm
        cases v with
        | nil => exact .inr ⟨[], by rw [hm, hv]; rfl⟩
        | cons z v =>
          -- the letter would occur in the needle again
          obtain ⟨-, rfl⟩ := List.cons.inj hv
          exact absurd (List.mem_append_right v List.mem_cons_self) hx
    · exact .inr ⟨v, by rw [hm, hv]⟩
  · exact .inl ⟨u, hs⟩

/-- The last occurrence, if there is none in what follows. -/
theorem cutLast_append_of_head (hx : x ∉ t) (hb : ¬ x :: t <:+: b) :
    cutLast (x :: t) (a ++ x :: t ++ b) = some (a, b) := by
  induction a with
  | nil =>
    have hrest : cutLast (x :: t) (t ++ b) = none :=
      cutLast_eq_none_of_not_infix fun h => hb ((infix_append_iff_of_head hx).mp h)
    have hfront : (x :: t).isPrefixOf (x :: (t ++ b)) = true :=
      List.isPrefixOf_iff_prefix.mpr (List.prefix_append (x :: t) b)
    show cutLast (x :: t) (x :: (t ++ b)) = _
    rw [cutLast_cons_of_none hrest, if_pos hfront]
    have hdrop : (x :: t ++ b).drop (x :: t).length = b := List.drop_left
    exact congrArg (fun rest => some ([], rest)) hdrop
  | cons y a ih => exact cutLast_cons_of_some ih

end Head

end Foundation
end MasterControl
