import MasterControl.Foundation.Search

/-!
# Replacing a pattern until none is left

`replaceFirst` replaces the first occurrence of a pattern, and `replaceEach` starts over after
every replacement, so it can go on for ever: what is put in may hold the pattern again.  If it
does, no text with the pattern in it is ever finished (`replaceEach_eq_none`).  If it does not,
and both start with a letter that the pattern has nowhere else, every replacement leaves the
pattern closer to the end than it was, and the loop ends (`exists_replaceEach`).

A text that occurs in two texts put together occurs in one of them or stands across the seam
(`infix_append_iff`).
-/

namespace MasterControl
namespace Foundation

universe u

variable {α : Type u}

/-! ## Seams -/

/-- A piece of the text on the left and a piece of the text on the right make up a text that
stands across the seam. -/
def Straddles (p x y : List α) : Prop :=
  ∃ q r, p = q ++ r ∧ q ≠ [] ∧ r ≠ [] ∧ q <:+ x ∧ r <+: y

theorem Straddles.isInfix {p x y : List α} (h : Straddles p x y) : p <:+: x ++ y := by
  obtain ⟨q, r, rfl, -, -, ⟨u, rfl⟩, v, rfl⟩ := h
  exact ⟨u, v, by simp only [List.append_assoc]⟩

/-- **Where a text occurs in two texts put together.** -/
theorem infix_append_iff {p x y : List α} :
    p <:+: x ++ y ↔ p <:+: x ∨ p <:+: y ∨ Straddles p x y := by
  constructor
  · rintro ⟨u, v, h⟩
    rw [List.append_assoc] at h
    rcases List.append_eq_append_iff.mp h with ⟨x', rfl, hv⟩ | ⟨u', rfl, hy⟩
    · -- the occurrence starts in the left text
      rcases List.append_eq_append_iff.mp hv with ⟨p', rfl, hv⟩ | ⟨x'', rfl, rfl⟩
      · exact Or.inl ⟨u, p', by rw [List.append_assoc]⟩
      · by_cases hq : x' = []
        · subst hq
          exact Or.inr (Or.inl ⟨[], v, rfl⟩)
        · by_cases hr : x'' = []
          · subst hr
            exact Or.inl ⟨u, [], by rw [List.append_nil, List.append_nil]⟩
          · exact Or.inr (Or.inr ⟨x', x'', rfl, hq, hr, List.suffix_append u x',
              List.prefix_append x'' v⟩)
    · exact Or.inr (Or.inl ⟨u', v, by rw [List.append_assoc, hy]⟩)
  · rintro (h | h | h)
    · exact h.trans (List.prefix_append x y).isInfix
    · exact h.trans (List.suffix_append x y).isInfix
    · exact h.isInfix

/-- Nothing straddles a seam behind which its first letter stands, if it has that letter only
once. -/
theorem not_straddles_of_head {c : α} {p x y : List α} (hp : c ∉ p) :
    ¬ Straddles (c :: p) x (c :: y) := by
  rintro ⟨q, r, hqr, hq, hr, -, hry⟩
  obtain ⟨a, q, rfl⟩ := List.exists_cons_of_ne_nil hq
  obtain ⟨b, r, rfl⟩ := List.exists_cons_of_ne_nil hr
  have hb : b = c := (List.cons_prefix_cons.mp hry).1
  subst hb
  refine hp ?_
  rw [(List.cons.inj hqr).2]
  exact List.mem_append_right q (List.mem_cons_self)

/-- Two ends of one text are the same if they start with a letter that they have only once. -/
theorem eq_of_suffix_of_head {c : α} {p q x : List α} (hp : c ∉ p) (hq : c ∉ q)
    (hpx : c :: p <:+ x) (hqx : c :: q <:+ x) : p = q := by
  rcases List.suffix_or_suffix_of_suffix hpx hqx with h | h
  · rcases List.suffix_cons_iff.mp h with heq | hin
    · exact (List.cons.inj heq).2
    · exact absurd (hin.subset List.mem_cons_self) hq
  · rcases List.suffix_cons_iff.mp h with heq | hin
    · exact (List.cons.inj heq).2.symm
    · exact absurd (hin.subset List.mem_cons_self) hp

/-! ## Replacing -/

variable [DecidableEq α] {pattern sub : List α}

/-- The first occurrence replaced, if there is one. -/
def replaceFirst (pattern sub s : List α) : List α :=
  match cut pattern s with
  | some (a, b) => a ++ sub ++ b
  | none => s

/-- One occurrence after the other, from the start each time; `none` when the rounds run
out. -/
def replaceEach (pattern sub : List α) : ℕ → List α → Option (List α)
  | 0, _ => none
  | rounds + 1, s =>
    match cut pattern s with
    | some (a, b) => replaceEach pattern sub rounds (a ++ sub ++ b)
    | none => some s

theorem replaceEach_round (pattern sub : List α) (rounds : ℕ) (s : List α) :
    replaceEach pattern sub (rounds + 1) s =
      match cut pattern s with
      | some (a, b) => replaceEach pattern sub rounds (a ++ sub ++ b)
      | none => some s := rfl

theorem cut_eq_none_iff {s : List α} : cut pattern s = none ↔ ¬ pattern <:+: s := by
  rw [← isSome_cut_iff, Bool.not_eq_true, Option.isSome_eq_false_iff, Option.isNone_iff_eq_none]

/-- What stands at the front is found there. -/
theorem cut_front (pattern b : List α) : cut pattern (pattern ++ b) = some ([], b) := by
  cases hs : pattern ++ b with
  | nil =>
    obtain ⟨rfl, rfl⟩ := List.append_eq_nil_iff.mp hs
    exact if_pos rfl
  | cons x s =>
    rw [cut_cons_of_front ⟨b, hs⟩, ← hs, List.drop_left]

theorem replaceFirst_of_absent {s : List α} (h : ¬ pattern <:+: s) :
    replaceFirst pattern sub s = s := by
  rw [replaceFirst, cut_eq_none_iff.mpr h]

theorem replaceEach_of_absent {s : List α} (h : ¬ pattern <:+: s) (rounds : ℕ) :
    replaceEach pattern sub (rounds + 1) s = some s := by
  rw [replaceEach_round, cut_eq_none_iff.mpr h]

/-- Whether a pattern occurs or not, `replaceFirst` leaves a text that a property of texts is
known of. -/
theorem replaceFirst_induction {motive : List α → Prop} {s : List α} (hs : motive s)
    (hstep : ∀ a b, s = a ++ pattern ++ b → motive (a ++ sub ++ b)) :
    motive (replaceFirst pattern sub s) := by
  rw [replaceFirst]
  cases hcut : cut pattern s with
  | none => exact hs
  | some found => exact hstep found.1 found.2 (eq_of_cut hcut)

/-- What every replacement keeps, the loop keeps. -/
theorem replaceEach_induction {motive : List α → Prop}
    (hstep : ∀ a b, motive (a ++ pattern ++ b) → motive (a ++ sub ++ b)) {rounds : ℕ}
    {s result : List α} (hs : motive s) (h : replaceEach pattern sub rounds s = some result) :
    motive result := by
  induction rounds generalizing s with
  | zero => cases h
  | succ rounds ih =>
    rw [replaceEach_round] at h
    cases hcut : cut pattern s with
    | none =>
      rw [hcut] at h
      exact Option.some.inj h ▸ hs
    | some found =>
      rw [hcut] at h
      exact ih (hstep found.1 found.2 (eq_of_cut hcut ▸ hs)) h

/-- When the loop ends, the pattern is gone. -/
theorem not_infix_of_replaceEach {rounds : ℕ} {s result : List α}
    (h : replaceEach pattern sub rounds s = some result) : ¬ pattern <:+: result := by
  induction rounds generalizing s with
  | zero => cases h
  | succ rounds ih =>
    rw [replaceEach_round] at h
    cases hcut : cut pattern s with
    | none =>
      rw [hcut] at h
      exact Option.some.inj h ▸ cut_eq_none_iff.mp hcut
    | some found =>
      rw [hcut] at h
      exact ih h

/-- More rounds do no harm. -/
theorem replaceEach_succ {rounds : ℕ} {s result : List α}
    (h : replaceEach pattern sub rounds s = some result) :
    replaceEach pattern sub (rounds + 1) s = some result := by
  induction rounds generalizing s with
  | zero => cases h
  | succ rounds ih =>
    rw [replaceEach_round] at h ⊢
    cases hcut : cut pattern s with
    | none =>
      rw [hcut] at h
      exact h
    | some found =>
      rw [hcut] at h
      exact ih h

theorem replaceEach_of_le {rounds more : ℕ} {s result : List α} (hle : rounds ≤ more)
    (h : replaceEach pattern sub rounds s = some result) :
    replaceEach pattern sub more s = some result := by
  induction more, hle using Nat.le_induction with
  | base => exact h
  | succ more hle ih => exact replaceEach_succ ih

/-- **A replacement that holds the pattern is never finished.** -/
theorem replaceEach_eq_none (hsub : pattern <:+: sub) (rounds : ℕ) {s : List α}
    (hs : pattern <:+: s) : replaceEach pattern sub rounds s = none := by
  induction rounds generalizing s with
  | zero => rfl
  | succ rounds ih =>
    rw [replaceEach_round]
    cases hcut : cut pattern s with
    | none => exact absurd hs (cut_eq_none_iff.mp hcut)
    | some found => exact ih (hsub.trans ⟨found.1, found.2, rfl⟩)

/-- The next occurrence is closer to the end. -/
theorem length_rest_lt {c : α} {p q s a b a' b' : List α} (hp : c ∉ p)
    (hsub : ¬ c :: p <:+: c :: q) (hcut : cut (c :: p) s = some (a, b))
    (hcut' : cut (c :: p) (a ++ c :: q ++ b) = some (a', b')) : b'.length < b.length := by
  by_contra hle
  rw [not_lt] at hle
  have hs := eq_of_cut hcut
  have hs' := eq_of_cut hcut'
  have hfront : a' ++ c :: p <+: a ++ c :: q := by
    refine List.prefix_of_prefix_length_le ⟨b', hs'.symm⟩ (List.prefix_append (a ++ c :: q) b) ?_
    have hlength := congrArg List.length hs'
    simp only [List.length_append] at hlength ⊢
    omega
  have hoccurs : c :: p <:+: a ++ c :: q :=
    (List.suffix_append a' (c :: p)).isInfix.trans hfront.isInfix
  rcases infix_append_iff.mp hoccurs with h | h | h
  · -- the first occurrence was the one that was cut out
    have htake : cut (c :: p) (s.take a.length) = none :=
      cut_take_of_lt hcut (Nat.lt_add_of_pos_right (Nat.succ_pos p.length))
    rw [hs, List.append_assoc, List.take_left] at htake
    exact cut_eq_none_iff.mp htake h
  · exact hsub h
  · exact not_straddles_of_head hp h

/-- **The loop ends** when what is put in starts as the pattern does and does not hold it. -/
theorem exists_replaceEach {c : α} {p q : List α} (hp : c ∉ p) (hsub : ¬ c :: p <:+: c :: q)
    (s : List α) : ∃ rounds result, replaceEach (c :: p) (c :: q) rounds s = some result := by
  cases hcut : cut (c :: p) s with
  | none => exact ⟨1, s, replaceEach_of_absent (cut_eq_none_iff.mp hcut) 0⟩
  | some found =>
    -- by induction on what stands behind the first occurrence
    induction hn : found.2.length using Nat.strong_induction_on generalizing s found with
    | _ n ih =>
      cases hcut' : cut (c :: p) (found.1 ++ c :: q ++ found.2) with
      | none =>
        refine ⟨2, found.1 ++ c :: q ++ found.2, ?_⟩
        rw [replaceEach_round, hcut]
        exact replaceEach_of_absent (cut_eq_none_iff.mp hcut') 0
      | some found' =>
        have hlt : found'.2.length < n := hn ▸ length_rest_lt hp hsub hcut hcut'
        obtain ⟨rounds, result, h⟩ := ih found'.2.length hlt _ found' hcut' rfl
        refine ⟨rounds + 1, result, ?_⟩
        rw [replaceEach_round, hcut]
        exact h

end Foundation
end MasterControl
