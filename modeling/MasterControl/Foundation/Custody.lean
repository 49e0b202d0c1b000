import Mathlib.Data.List.Nodup
import Mathlib.Logic.Function.Basic
import Mathlib.Tactic.Common

/-!
# Custody of tasks

Tasks are handed around between agents, each of which has one at most, and a queue.  Custody is
*exclusive* when no task is in two places.  An agent may lay its task down (`give_none`), a task
that nobody holds may be given to an agent (`give_some`) or put into the queue (`push`), and
tasks may be taken out of the queue (`unqueue`); each of them keeps custody exclusive, and
what the first and the last of them lay down is held by nobody.
-/

namespace MasterControl
namespace Foundation

universe u v

/-- Who has which task. -/
structure Custody (ι : Type u) (τ : Type v) where
  agent : ι → Option τ
  queue : List τ

namespace Custody

variable {ι : Type u} {τ : Type v} (c : Custody ι τ)

/-- An agent has the task, or it waits. -/
def Held (x : τ) : Prop := (∃ i, c.agent i = some x) ∨ x ∈ c.queue

/-- No task is in two places. -/
structure Exclusive : Prop where
  unique : ∀ i j x, c.agent i = some x → c.agent j = some x → i = j
  nodup : c.queue.Nodup
  apart : ∀ i x, c.agent i = some x → x ∉ c.queue

/-- An agent gets a task, or has none from here on. -/
def give [DecidableEq ι] (i : ι) (o : Option τ) : Custody ι τ :=
  { c with agent := Function.update c.agent i o }

variable {c} {i : ι} {x y : τ}

/-- Where nothing is held, custody is exclusive. -/
theorem exclusive_empty : Exclusive (⟨fun _ => none, []⟩ : Custody ι τ) where
  unique _ _ _ hi _ := by cases hi
  nodup := List.nodup_nil
  apart _ _ hi := by cases hi

theorem held_of_agent (h : c.agent i = some x) : c.Held x := Or.inl ⟨i, h⟩

/-! ## The queue -/

theorem Exclusive.push (h : c.Exclusive) (hx : ¬ c.Held x) :
    Exclusive { c with queue := c.queue ++ [x] } where
  unique := h.unique
  nodup := List.nodup_append.mpr ⟨h.nodup, List.nodup_singleton x, by
    intro y hy z hz hyz
    rw [List.mem_singleton.mp hz] at hyz
    exact hx (Or.inr (hyz ▸ hy))⟩
  apart j y hj hy := by
    rcases List.mem_append.mp hy with hy | hy
    · exact h.apart j y hj hy
    · exact hx (Or.inl ⟨j, List.mem_singleton.mp hy ▸ hj⟩)

theorem Exclusive.unqueue {q : List τ} (h : c.Exclusive) (hq : q.Sublist c.queue) :
    Exclusive { c with queue := q } where
  unique := h.unique
  nodup := h.nodup.sublist hq
  apart j y hj hy := h.apart j y hj (hq.subset hy)

theorem Held.of_unqueue {q : List τ} (hq : q.Sublist c.queue)
    (h : Held { c with queue := q } y) : c.Held y :=
  h.imp id fun hy => hq.subset hy

/-- A task that was taken out of the queue is held by nobody. -/
theorem Exclusive.not_held_unqueue {q : List τ} (h : c.Exclusive) (hx : x ∈ c.queue)
    (hq : x ∉ q) : ¬ Held { c with queue := q } x := by
  rintro (⟨j, hj⟩ | hy)
  · exact h.apart j x hj hx
  · exact hq hy

/-! ## Agents -/

variable [DecidableEq ι]

theorem agent_give (o : Option τ) (j : ι) :
    (c.give i o).agent j = if j = i then o else c.agent j :=
  Function.update_apply c.agent i o j

theorem give_self {o : Option τ} (h : c.agent i = o) : c.give i o = c := by
  rw [give, ← h, Function.update_eq_self]

/-- Nothing but the given task becomes held. -/
theorem Held.of_give {o : Option τ} (h : (c.give i o).Held y) : o = some y ∨ c.Held y := by
  rcases h with ⟨j, hj⟩ | hq
  · rw [agent_give] at hj
    split at hj
    · exact Or.inl hj
    · exact Or.inr (held_of_agent hj)
  · exact Or.inr (Or.inr hq)

/-- An agent that keeps its task, or lays it down, makes nothing held. -/
theorem Held.of_give_le {o : Option τ} (ho : o = none ∨ o = c.agent i)
    (h : (c.give i o).Held y) : c.Held y := by
  rcases h.of_give with h | h
  · rcases ho with rfl | rfl
    · cases h
    · exact held_of_agent h
  · exact h

theorem Exclusive.give_none (h : c.Exclusive) (i : ι) : (c.give i none).Exclusive where
  unique j k x hj hk := by
    rw [agent_give] at hj hk
    split at hj
    · cases hj
    · split at hk
      · cases hk
      · exact h.unique j k x hj hk
  nodup := h.nodup
  apart j x hj := by
    rw [agent_give] at hj
    split at hj
    · cases hj
    · exact h.apart j x hj

/-- A task that was laid down is held by nobody. -/
theorem Exclusive.not_held_give_none (h : c.Exclusive) (hi : c.agent i = some x) :
    ¬ (c.give i none).Held x := by
  rintro (⟨j, hj⟩ | hq)
  · rw [agent_give] at hj
    split at hj
    · cases hj
    · next hji => exact hji (h.unique j i x hj hi)
  · exact h.apart i x hi hq

theorem Exclusive.give_le {o : Option τ} (h : c.Exclusive) (ho : o = none ∨ o = c.agent i) :
    (c.give i o).Exclusive := by
  rcases ho with rfl | rfl
  · exact h.give_none i
  · rwa [give_self rfl]

theorem Exclusive.give_some (h : c.Exclusive) (i : ι) (hx : ¬ c.Held x) :
    (c.give i (some x)).Exclusive where
  unique j k y hj hk := by
    rw [agent_give] at hj hk
    split at hj
    · next hji =>
      split at hk
      · next hki => rw [hji, hki]
      · cases hj
        exact absurd (held_of_agent hk) hx
    · split at hk
      · cases hk
        exact absurd (held_of_agent hj) hx
      · exact h.unique j k y hj hk
  nodup := h.nodup
  apart j y hj := by
    rw [agent_give] at hj
    split at hj
    · cases hj
      exact fun hq => hx (Or.inr hq)
    · exact h.apart j y hj

end Custody
end Foundation
end MasterControl
