import Mathlib.Data.List.Basic
import Mathlib.Tactic.Common

/-!
# Sequential objects

An object whose operations answer and change its state.  A history of operations with their
answers is `Legal` when every answer is the one the object gives after the operations before it;
whatever served the operations, to its callers it was then this object.

* `legal_concat`: one more operation.
* `Legal.answer`: the answer at any place of a legal history.
* `view_after`: what no operation of a history changes, the history does not change.
-/

namespace MasterControl
namespace Foundation

universe u v w

/-- The operations of an object, each with its answer and the state that it leaves. -/
structure SequentialObject (σ : Type u) (κ : Type v) (α : Type w) where
  perform : κ → σ → α × σ

namespace SequentialObject

variable {σ : Type u} {κ : Type v} {α : Type w} (O : SequentialObject σ κ α)

/-- The state after a history. -/
def after (s : σ) (history : List (κ × α)) : σ :=
  history.foldl (fun s e => (O.perform e.1 s).2) s

/-- Every answer is the object's own. -/
def Legal : σ → List (κ × α) → Prop
  | _, [] => True
  | s, e :: history => e.2 = (O.perform e.1 s).1 ∧ Legal (O.perform e.1 s).2 history

variable {O} {s : σ} {e : κ × α} {history before rest : List (κ × α)}

@[simp] theorem after_nil : O.after s [] = s := rfl

theorem after_append (s : σ) (before rest : List (κ × α)) :
    O.after s (before ++ rest) = O.after (O.after s before) rest :=
  List.foldl_append

theorem after_concat (s : σ) (history : List (κ × α)) (e : κ × α) :
    O.after s (history ++ [e]) = (O.perform e.1 (O.after s history)).2 :=
  after_append s history [e]

theorem legal_append (s : σ) (before rest : List (κ × α)) :
    O.Legal s (before ++ rest) ↔ O.Legal s before ∧ O.Legal (O.after s before) rest := by
  induction before generalizing s with
  | nil => exact ⟨fun h => ⟨trivial, h⟩, And.right⟩
  | cons e before ih =>
    constructor
    · rintro ⟨hanswer, hrest⟩
      obtain ⟨hbefore, hrest⟩ := (ih _).mp hrest
      exact ⟨⟨hanswer, hbefore⟩, hrest⟩
    · rintro ⟨⟨hanswer, hbefore⟩, hrest⟩
      exact ⟨hanswer, (ih _).mpr ⟨hbefore, hrest⟩⟩

/-- **One more operation** keeps a history legal if the object answers so. -/
theorem legal_concat (s : σ) (history : List (κ × α)) (e : κ × α) :
    O.Legal s (history ++ [e]) ↔
      O.Legal s history ∧ e.2 = (O.perform e.1 (O.after s history)).1 := by
  rw [legal_append]
  exact and_congr_right fun _ => ⟨And.left, fun h => ⟨h, trivial⟩⟩

/-- **The answer at any place** of a legal history. -/
theorem Legal.answer (h : O.Legal s (before ++ e :: rest)) :
    e.2 = (O.perform e.1 (O.after s before)).1 :=
  ((legal_append s before (e :: rest)).mp h).2.1

/-- **What no operation changes** stays as it was. -/
theorem view_after {β : Type*} (view : σ → β) (Keeps : κ → Prop)
    (hkeeps : ∀ call s, Keeps call → view (O.perform call s).2 = view s) (s : σ)
    (h : ∀ e ∈ history, Keeps e.1) : view (O.after s history) = view s := by
  induction history generalizing s with
  | nil => rfl
  | cons e history ih =>
    have hrest : ∀ e ∈ history, Keeps e.1 := fun e he => h e (List.mem_cons_of_mem _ he)
    exact (ih _ hrest).trans (hkeeps e.1 s (h e List.mem_cons_self))

end SequentialObject
end Foundation
end MasterControl
