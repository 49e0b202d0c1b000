import MasterControl.Foundation.Runs

/-!
# Going on until something holds

If as long as something does not hold a few moves bring it nearer, it can be reached
(`exists_moves_until`).  The distance is a number, and only its own phase has to make it smaller;
a phase may be a step of another one.
-/

namespace MasterControl
namespace Foundation

universe u v

open Relation

variable {σ : Type u} {α : Type v} {R : σ → σ → Prop} {I P : σ → Prop}

/-- Whoever can get nearer gets there. -/
theorem exists_moves_until (distance : σ → ℕ)
    (hnearer : ∀ s, I s → ¬ P s → ∃ t, ReflTransGen R s t ∧ I t ∧ distance t < distance s) {s : σ}
    (hs : I s) : ∃ t, ReflTransGen R s t ∧ I t ∧ P t := by
  induction hn : distance s using Nat.strongRecOn generalizing s with
  | ind n ih =>
    by_cases hP : P s
    · exact ⟨s, ReflTransGen.refl, hs, hP⟩
    · obtain ⟨t, hst, ht, hlt⟩ := hnearer s hs hP
      obtain ⟨t', htt', hfound⟩ := ih (distance t) (hn ▸ hlt) ht rfl
      exact ⟨t', hst.trans htt', hfound⟩

namespace TransitionSystem

variable (T : TransitionSystem σ α)

/-- One step, whatever its label. -/
def Moves (s t : σ) : Prop := ∃ a, t = T.step s a

variable {T} {s t : σ}

theorem moves_step (T : TransitionSystem σ α) (s : σ) (a : α) :
    ReflTransGen T.Moves s (T.step s a) := ReflTransGen.single ⟨a, rfl⟩

/-- Moves are what a list of labels does. -/
theorem exists_run_of_moves (h : ReflTransGen T.Moves s t) : ∃ as, T.run s as = t := by
  induction h with
  | refl => exact ⟨[], rfl⟩
  | tail _ hmove ih =>
    obtain ⟨as, rfl⟩ := ih
    obtain ⟨a, rfl⟩ := hmove
    exact ⟨as ++ [a], by rw [run, List.foldl_append]; rfl⟩

/-- Moves lead from a reachable state to a reachable one. -/
theorem Reachable.moves (hs : T.Reachable s) (h : ReflTransGen T.Moves s t) : T.Reachable t := by
  obtain ⟨as, rfl⟩ := exists_run_of_moves h
  exact hs.run as

end TransitionSystem

end Foundation
end MasterControl
