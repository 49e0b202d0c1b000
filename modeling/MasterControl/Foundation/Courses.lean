import Mathlib.Data.List.Basic
import Mathlib.Tactic.Common

/-!
# Courses of items

A system keeps a history of events, each of which concerns some of its items; the *course* of an
item is what concerns it, in order.  The accounts are kept (`Accounts`) when every item that is
still open has had just the course that its place says, every other item that is known has had
a complete one, and an item that is not known yet has had none.  What is recorded only changes
the accounts of the items it concerns (`Accounts.record`).
-/

namespace MasterControl
namespace Foundation

universe u v

variable {ι : Type u} {ε : Type v} {concerns : ι → ε → Bool} {history : List ε} {e x : ε} {i : ι}

/-- What has happened to one item. -/
def course (concerns : ι → ε → Bool) (history : List ε) (i : ι) : List ε :=
  history.filter (concerns i)

theorem course_record_of_concerns (h : concerns i e = true) :
    course concerns (history ++ [e]) i = course concerns history i ++ [e] := by
  rw [course, List.filter_append, List.filter_singleton, h]
  rfl

theorem course_record_of_not (h : concerns i e = false) :
    course concerns (history ++ [e]) i = course concerns history i := by
  rw [course, List.filter_append, List.filter_singleton, h]
  exact List.append_nil _

theorem mem_course (he : e ∈ history) (h : concerns i e = true) :
    e ∈ course concerns history i :=
  List.mem_filter.mpr ⟨he, h⟩

/-- Every item is open with the course that its place says, or its course is complete, or it is
not known yet. -/
structure Accounts (concerns : ι → ε → Bool) (Open Done : ι → List ε → Prop) (history : List ε)
    (Known : ι → Prop) : Prop where
  course_open : ∀ i t, Open i t → course concerns history i = t
  settled : ∀ i, Known i → (∃ t, Open i t) ∨ Done i (course concerns history i)
  unknown : ∀ i, ¬ Known i → course concerns history i = []

variable {Open Open' Done : ι → List ε → Prop} {Known Known' : ι → Prop}

namespace Accounts

/-- Nothing is known at the start. -/
theorem nil (hopen : ∀ i t, ¬ Open i t) (hknown : ∀ i, ¬ Known i) :
    Accounts concerns Open Done [] Known where
  course_open i t h := absurd h (hopen i t)
  settled i h := absurd h (hknown i)
  unknown _ _ := rfl

/-- An item of which something was recorded is known. -/
theorem known (h : Accounts concerns Open Done history Known) (he : e ∈ history)
    (hi : concerns i e = true) : Known i := by
  by_contra hknown
  have hmem := mem_course he hi
  rw [h.unknown i hknown] at hmem
  exact List.not_mem_nil hmem

/-- A recorded event that concerns an open item is part of its course. -/
theorem mem_of_open {t : List ε} (h : Accounts concerns Open Done history Known) (hi : Open i t)
    (he : e ∈ history) (hc : concerns i e = true) : e ∈ t :=
  h.course_open i t hi ▸ mem_course he hc

/-- An item has one course. -/
theorem open_unique {t t' : List ε} (h : Accounts concerns Open Done history Known)
    (ht : Open i t) (ht' : Open i t') : t = t' :=
  (h.course_open i t ht).symm.trans (h.course_open i t' ht')

/-- **Recording an event.**  The items that it does not concern stay as they were; one that it
concerns is open afterwards with the longer course, or is complete with it. -/
theorem record (h : Accounts concerns Open Done history Known)
    (hother : ∀ i, concerns i e = false → ∀ t, Open' i t ↔ Open i t)
    (hself : ∀ i, concerns i e = true → ∀ t, Open' i t → t = course concerns history i ++ [e])
    (hdone : ∀ i, concerns i e = true →
      (∃ t, Open' i t) ∨ Done i (course concerns history i ++ [e]))
    (hknown : ∀ i, Known' i ↔ Known i ∨ concerns i e = true) :
    Accounts concerns Open' Done (history ++ [e]) Known' where
  course_open i t ht := by
    cases hc : concerns i e with
    | true => rw [course_record_of_concerns hc, hself i hc t ht]
    | false => rw [course_record_of_not hc, h.course_open i t ((hother i hc t).mp ht)]
  settled i hi := by
    cases hc : concerns i e with
    | true =>
      rw [course_record_of_concerns hc]
      exact hdone i hc
    | false =>
      rw [course_record_of_not hc]
      have hi : Known i := ((hknown i).mp hi).resolve_right (by simp [hc])
      refine (h.settled i hi).imp_left ?_
      rintro ⟨t, ht⟩
      exact ⟨t, (hother i hc t).mpr ht⟩
  unknown i hi := by
    rw [hknown, not_or, Bool.not_eq_true] at hi
    rw [course_record_of_not hi.2, h.unknown i hi.1]

end Accounts

/-! ## What stands behind a mark -/

/-- Where a history ends in another event than a mark, the event stands behind every mark. -/
theorem exists_of_concat_eq {before after : List ε} (hne : e ≠ x)
    (h : history ++ [e] = before ++ x :: after) :
    ∃ rest, after = rest ++ [e] ∧ history = before ++ x :: rest := by
  rcases after.eq_nil_or_concat with rfl | ⟨rest, y, rfl⟩
  · obtain ⟨-, hlast⟩ := List.append_inj' h rfl
    exact absurd (List.singleton_inj.mp hlast) hne
  · rw [List.concat_eq_append, ← List.cons_append, ← List.append_assoc] at h
    obtain ⟨hfront, hlast⟩ := List.append_inj' h rfl
    rw [List.concat_eq_append, List.singleton_inj.mp hlast]
    exact ⟨rest, rfl, hfront⟩

/-- Behind every mark in the history there is such an event. -/
def BehindMarks (mark : ε) (p : ε → Prop) (history : List ε) : Prop :=
  ∀ before after, history = before ++ mark :: after → ∃ e ∈ after, p e

theorem BehindMarks.record {p : ε → Prop} (h : BehindMarks x p history) (hne : e ≠ x) :
    BehindMarks x p (history ++ [e]) := by
  intro before after heq
  obtain ⟨rest, rfl, hrest⟩ := exists_of_concat_eq hne heq
  obtain ⟨a, ha, hp⟩ := h before rest hrest
  exact ⟨a, List.mem_append_left _ ha, hp⟩

theorem behindMarks_record_self {p : ε → Prop} (hne : e ≠ x) (hp : p e) :
    BehindMarks x p (history ++ [e]) := by
  intro before after heq
  obtain ⟨rest, rfl, -⟩ := exists_of_concat_eq hne heq
  exact ⟨e, List.mem_append_right _ (List.mem_singleton_self e), hp⟩

end Foundation
end MasterControl
