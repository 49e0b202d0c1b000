import Mathlib.Tactic.Common

/-!
# Steps until one stops

`runSteps` performs steps in order, each on what the one before has left, until one of them says
why it goes no further.  A *forecast* says of each step what it will leave and whether it will
stop, given that none before it does (`Foretold`); then the run is known without being performed
(`runSteps_eq_of_foretold`).

Where no step stops the run is a fold, and what one step alone changes is known of it
(`foldl_touched`).
-/

namespace MasterControl
namespace Foundation

universe u v w

variable {ι : Type u} {σ : Type v} {ε : Type w} {perform : ι → σ → σ × Option ε} {after : ι → σ}
  {stops : ι → Option ε} {i : ι} {steps : List ι} {s : σ} {e : ε}

/-- Where the steps stop, and why. -/
def runSteps (perform : ι → σ → σ × Option ε) : List ι → σ → σ × Option (ι × ε)
  | [], s => (s, none)
  | i :: steps, s =>
    match (perform i s).2 with
    | some e => ((perform i s).1, some (i, e))
    | none => runSteps perform steps (perform i s).1

theorem runSteps_cons (perform : ι → σ → σ × Option ε) (i : ι) (steps : List ι) (s : σ) :
    runSteps perform (i :: steps) s =
      match (perform i s).2 with
      | some e => ((perform i s).1, some (i, e))
      | none => runSteps perform steps (perform i s).1 := rfl

/-- The first step that is to stop. -/
def firstStop (stops : ι → Option ε) (steps : List ι) : Option (ι × ε) :=
  steps.findSome? fun i => (stops i).map (Prod.mk i)

theorem firstStop_cons_of_some (h : stops i = some e) :
    firstStop stops (i :: steps) = some (i, e) := by
  rw [firstStop, List.findSome?_cons, h, Option.map_some]

theorem firstStop_cons_of_none (h : stops i = none) :
    firstStop stops (i :: steps) = firstStop stops steps := by
  rw [firstStop, List.findSome?_cons, h, Option.map_none]
  rfl

/-- A step that stops is one of them. -/
theorem mem_of_firstStop (h : firstStop stops steps = some (i, e)) :
    i ∈ steps ∧ stops i = some e := by
  obtain ⟨j, hj, hstops⟩ := List.exists_of_findSome?_eq_some h
  obtain ⟨e', he', hsame⟩ := Option.map_eq_some_iff.mp hstops
  obtain ⟨rfl, rfl⟩ := Prod.mk.inj hsame
  exact ⟨hj, he'⟩

/-- Each step leaves and says what the forecast has for it, if those before it go on. -/
inductive Foretold (perform : ι → σ → σ × Option ε) (after : ι → σ) (stops : ι → Option ε) :
    List ι → σ → Prop
  | nil {s : σ} : Foretold perform after stops [] s
  | cons {i : ι} {steps : List ι} {s : σ} (hperform : perform i s = (after i, stops i))
      (hrest : stops i = none → Foretold perform after stops steps (after i)) :
      Foretold perform after stops (i :: steps) s

/-- What the steps leave, by the forecast. -/
def leaves (after : ι → σ) (stops : ι → Option ε) (steps : List ι) (s : σ) : σ :=
  match firstStop stops steps with
  | some (i, _) => after i
  | none => (steps.getLast?.map after).getD s

theorem runSteps_eq_of_foretold (h : Foretold perform after stops steps s) :
    runSteps perform steps s = (leaves after stops steps s, firstStop stops steps) := by
  induction h with
  | nil => rfl
  | @cons i steps s hperform _ ih =>
    rw [runSteps_cons, hperform]
    cases hstops : stops i with
    | some e =>
      rw [leaves, firstStop_cons_of_some hstops]
    | none =>
      have hlast : ((i :: steps).getLast?.map after).getD s =
          (steps.getLast?.map after).getD (after i) := by
        cases steps with
        | nil => rfl
        | cons j steps => rw [List.getLast?_cons_cons, List.getLast?_cons]; rfl
      have hleaves : leaves after stops (i :: steps) s = leaves after stops steps (after i) := by
        rw [leaves, leaves, firstStop_cons_of_none hstops, hlast]
      rw [hleaves, firstStop_cons_of_none hstops]
      exact ih hstops

/-! ## Steps that stop by themselves -/

section Splits

variable {γ : Type*} {s' : σ}

/-- What steps leave that all go on. -/
theorem runSteps_of_none (h : ∀ i ∈ steps, ∀ s, (perform i s).2 = none) (s : σ) :
    runSteps perform steps s = (steps.foldl (fun s i => (perform i s).1) s, none) := by
  induction steps generalizing s with
  | nil => rfl
  | cons i steps ih =>
    rw [runSteps_cons, h i List.mem_cons_self s, List.foldl_cons]
    exact ih (fun j hj => h j (List.mem_cons_of_mem i hj)) _

/-- One step that stops whatever it is performed on stops the run. -/
theorem stops_of_mem (hi : i ∈ steps) (h : ∀ s, (perform i s).2 = some e) (s : σ) :
    ∃ s' j e', runSteps perform steps s = (s', some (j, e')) := by
  induction steps generalizing s with
  | nil => cases hi
  | cons j steps ih =>
    rw [runSteps_cons]
    cases hstop : (perform j s).2 with
    | some e' => exact ⟨_, j, e', rfl⟩
    | none =>
      rcases List.mem_cons.mp hi with rfl | hi
      · rw [h s] at hstop
        cases hstop
      · exact ih hi _

/-- The step that stops the run stops by itself. -/
theorem stop_of_runSteps {stops : ι → Option ε} (hstops : ∀ i s, (perform i s).2 = stops i)
    (h : runSteps perform steps s = (s', some (i, e))) : stops i = some e := by
  induction steps generalizing s with
  | nil => cases h
  | cons j steps ih =>
    rw [runSteps_cons] at h
    cases hstop : (perform j s).2 with
    | some e' =>
      rw [hstop] at h
      obtain ⟨rfl, rfl⟩ := Prod.mk.inj (Option.some.inj (Prod.mk.inj h).2)
      rw [← hstops, hstop]
    | none =>
      rw [hstop] at h
      exact ih h

/-- The steps up to the one that stops. -/
theorem split_of_stop (h : runSteps perform steps s = (s', some (i, e))) :
    ∃ before behind, steps = before ++ i :: behind ∧
      s' = (before ++ [i]).foldl (fun s i => (perform i s).1) s := by
  induction steps generalizing s with
  | nil => cases h
  | cons j steps ih =>
    rw [runSteps_cons] at h
    cases hstop : (perform j s).2 with
    | some e' =>
      rw [hstop] at h
      obtain ⟨rfl, hj⟩ := Prod.mk.inj h
      obtain ⟨rfl, -⟩ := Prod.mk.inj (Option.some.inj hj)
      exact ⟨[], steps, rfl, rfl⟩
    | none =>
      rw [hstop] at h
      obtain ⟨before, behind, rfl, rfl⟩ := ih h
      exact ⟨j :: before, behind, rfl, rfl⟩

/-- What no step changes stays. -/
theorem foldl_untouched {f : σ → γ} {act : σ → ι → σ} (h : ∀ i ∈ steps, ∀ s, f (act s i) = f s)
    (s : σ) : f (steps.foldl act s) = f s := by
  induction steps generalizing s with
  | nil => rfl
  | cons i steps ih =>
    rw [List.foldl_cons, ih fun j hj => h j (List.mem_cons_of_mem i hj), h i List.mem_cons_self]

/-- What one step alone changes, it changes once. -/
theorem foldl_touched {f : σ → γ} {act : σ → ι → σ} {g : γ → γ} (hnodup : steps.Nodup)
    (hi : i ∈ steps) (hself : ∀ s, f (act s i) = g (f s))
    (hothers : ∀ j ∈ steps, j ≠ i → ∀ s, f (act s j) = f s) (s : σ) :
    f (steps.foldl act s) = g (f s) := by
  obtain ⟨before, behind, rfl⟩ := List.append_of_mem hi
  rw [List.nodup_append, List.nodup_cons] at hnodup
  have hbefore : ∀ j ∈ before, ∀ s, f (act s j) = f s := fun j hj =>
    hothers j (List.mem_append_left _ hj) (hnodup.2.2 j hj i List.mem_cons_self)
  have hbehind : ∀ j ∈ behind, ∀ s, f (act s j) = f s := by
    intro j hj
    refine hothers j (List.mem_append_right _ (List.mem_cons_of_mem i hj)) ?_
    rintro rfl
    exact hnodup.2.1.1 hj
  rw [List.foldl_append, List.foldl_cons, foldl_untouched hbehind, hself, foldl_untouched hbefore]

end Splits

end Foundation
end MasterControl
