import Mathlib.Logic.Function.Iterate
import Mathlib.Logic.Relation
import Mathlib.Tactic.Common

/-!
# Runs of a labelled transition system

A system is a starting state and a total step function; what the environment
decides at a step is part of the label.  A *guard* says which labels are allowed in
which states, and `ReachableBy G` are the states of the runs all of whose steps
meet `G`.  `Reachable` is the case of no guard.

The induction over runs is packaged once, as `ReachableBy.invariant`: an invariant
needs a proof for the starting state and one for an allowed step.
-/

namespace MasterControl
namespace Foundation

universe u v

/-- A starting state and a step function on labels. -/
structure TransitionSystem (σ : Type u) (α : Type v) where
  /-- Where a run starts. -/
  init : σ
  /-- One step, with everything the environment chose in the label. -/
  step : σ → α → σ

namespace TransitionSystem

variable {σ : Type u} {α : Type v} (T : TransitionSystem σ α)

/-- The states reached by runs all of whose steps meet the guard. -/
inductive ReachableBy (G : σ → α → Prop) : σ → Prop
  | init : ReachableBy G T.init
  | step {s : σ} {a : α} : ReachableBy G s → G s a → ReachableBy G (T.step s a)

/-- The states of all runs. -/
def Reachable : σ → Prop := T.ReachableBy fun _ _ => True

/-- The state after a list of labels. -/
def run (s : σ) (as : List α) : σ := as.foldl T.step s

@[simp] theorem run_nil (s : σ) : T.run s [] = s := rfl

@[simp] theorem run_cons (s : σ) (a : α) (as : List α) :
    T.run s (a :: as) = T.run (T.step s a) as := rfl

variable {T}

/-- **The invariant rule.**  What holds at the start and survives every allowed step
holds in every reachable state. -/
theorem ReachableBy.invariant {G : σ → α → Prop} {I : σ → Prop} (hinit : I T.init)
    (hstep : ∀ s a, I s → G s a → I (T.step s a)) {s : σ} (h : T.ReachableBy G s) : I s := by
  induction h with
  | init => exact hinit
  | step _ hG ih => exact hstep _ _ ih hG

/-- A run under a guard is a run under a weaker one. -/
theorem ReachableBy.mono {G H : σ → α → Prop} (hGH : ∀ s a, G s a → H s a) {s : σ}
    (h : T.ReachableBy G s) : T.ReachableBy H s := by
  induction h with
  | init => exact ReachableBy.init
  | step _ hG ih => exact ih.step (hGH _ _ hG)

/-- Every label of a list meets the guard in the state it finds. -/
def Allowed (T : TransitionSystem σ α) (G : σ → α → Prop) : σ → List α → Prop
  | _, [] => True
  | s, a :: as => G s a ∧ Allowed T G (T.step s a) as

instance decidableAllowed {G : σ → α → Prop} [∀ s a, Decidable (G s a)] :
    ∀ (s : σ) (as : List α), Decidable (T.Allowed G s as)
  | _, [] => isTrue trivial
  | s, a :: as =>
    have : Decidable (Allowed T G (T.step s a) as) := decidableAllowed (T.step s a) as
    inferInstanceAs (Decidable (G s a ∧ Allowed T G (T.step s a) as))

/-- A list of allowed labels leads to a reachable state. -/
theorem ReachableBy.run {G : σ → α → Prop} {s : σ} (h : T.ReachableBy G s) (as : List α)
    (has : T.Allowed G s as) : T.ReachableBy G (T.run s as) := by
  induction as generalizing s with
  | nil => exact h
  | cons a as ih => exact ih (h.step has.1) has.2

/-- A list of unguarded labels leads to a reachable state. -/
theorem Reachable.run {s : σ} (h : T.Reachable s) (as : List α) : T.Reachable (T.run s as) := by
  induction as generalizing s with
  | nil => exact h
  | cons a as ih => exact ih (ReachableBy.step h trivial)

/-- What one step keeps, a list of labels keeps. -/
theorem run_invariant {I : σ → Prop} (hstep : ∀ s a, I s → I (T.step s a)) {s : σ}
    (h : I s) (as : List α) : I (T.run s as) := by
  induction as generalizing s with
  | nil => exact h
  | cons a as ih => exact ih (hstep s a h)

end TransitionSystem

/-! ## Sequences of moves -/

open Relation

variable {σ : Type u} {ι : Type v} {R : σ → σ → Prop} {I : σ → Prop}

/-- What every move keeps, a sequence of moves keeps. -/
theorem invariant_of_moves (hR : ∀ s t, I s → R s t → I t) {s t : σ}
    (h : ReflTransGen R s t) (hs : I s) : I t := by
  induction h with
  | refl => exact hs
  | tail _ hst ih => exact hR _ _ ih hst

/-- A loop whose body is a sequence of moves is a sequence of moves. -/
theorem moves_foldl {f : σ → ι → σ} (hR : ∀ s t, I s → R s t → I t)
    (hf : ∀ s i, I s → ReflTransGen R s (f s i)) (l : List ι) {s : σ} (hs : I s) :
    ReflTransGen R s (l.foldl f s) := by
  induction l generalizing s with
  | nil => exact ReflTransGen.refl
  | cons i l ih => exact (hf s i hs).trans (ih (invariant_of_moves hR (hf s i hs) hs))

/-- A counted loop whose body is one move, as long as the count is right. -/
theorem moves_iterate {f : σ → σ} {J : ℕ → σ → Prop}
    (hJ : ∀ n s, J (n + 1) s → R s (f s) ∧ J n (f s)) (n : ℕ) {s : σ} (hs : J n s) :
    ReflTransGen R s (f^[n] s) := by
  induction n generalizing s with
  | zero => exact ReflTransGen.refl
  | succ n ih =>
    obtain ⟨hR, hn⟩ := hJ n s hs
    exact (ReflTransGen.single hR).trans (ih hn)

/-- What the body of a loop keeps, the loop keeps. -/
theorem invariant_foldl {f : σ → ι → σ} (hf : ∀ s i, I s → I (f s i)) (l : List ι) {s : σ}
    (hs : I s) : I (l.foldl f s) := by
  induction l generalizing s with
  | nil => exact hs
  | cons i l ih => exact ih (hf s i hs)

/-- A loop whose body changes nothing changes nothing. -/
theorem foldl_eq_self {f : σ → ι → σ} {s : σ} {l : List ι} (h : ∀ i ∈ l, f s i = s) :
    l.foldl f s = s := by
  induction l with
  | nil => rfl
  | cons i l ih =>
    rw [List.foldl_cons, h i List.mem_cons_self]
    exact ih fun j hj => h j (List.mem_cons_of_mem _ hj)

end Foundation
end MasterControl
