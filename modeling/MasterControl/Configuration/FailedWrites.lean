import MasterControl.Configuration.Services
import MasterControl.Foundation.Runs

/-!
# What a failed operation leaves behind

An operation on the shared configuration answers `succeeded = false` for two reasons.  Its
own checks refuse it: then nothing at all has happened.  Or the write fails: then the edit
stays in memory, as if the write had succeeded.  So the configuration in memory does not
depend on which writes failed (`configuration_run_eq`), and the next successful operation
writes all of it to disk.
-/

namespace MasterControl
namespace Configuration

open Foundation Supervisor

/-- The services together: a step is a call in its environment. -/
def services (s : SharedState) : TransitionSystem SharedState (Call × Environment) where
  init := s
  step s step := (step.1.perform step.2 s).2

/-- The call answers `succeeded = false` however its write ends. -/
def Call.RefusedAt (call : Call) (timestampNowUtc : String) (s : SharedState) : Prop :=
  ∀ write, (call.perform { timestampNowUtc, write } s).1.succeeded = false

/-- The same environment, with a write that succeeds. -/
def Environment.writing (env : Environment) : Environment := { env with write := .written }

/-! ## One edit -/

section Edit

variable {edit : Edit} {write : WriteOutcome} {s : SharedState}

theorem Edit.perform_of_some {result : OperationResult}
    (h : edit.refusal s.configuration = some result) :
    edit.perform write s = (result, s) := by
  rw [Edit.perform, h]

theorem Edit.configuration_of_none (h : edit.refusal s.configuration = none) :
    (edit.perform write s).2.configuration = edit.apply s.configuration := by
  rw [Edit.perform, h]

theorem Edit.succeeded_of_none (h : edit.refusal s.configuration = none) :
    (edit.perform write s).1.succeeded = (writeJsonFile write (edit.apply s.configuration)).2 := by
  rw [Edit.perform, h]

/-- The configuration in memory does not depend on how the write ends. -/
theorem Edit.configuration_perform (edit : Edit) (write write' : WriteOutcome) (s : SharedState) :
    (edit.perform write s).2.configuration = (edit.perform write' s).2.configuration := by
  cases h : edit.refusal s.configuration with
  | some result => rw [Edit.perform_of_some h, Edit.perform_of_some h]
  | none => rw [Edit.configuration_of_none h, Edit.configuration_of_none h]

end Edit

/-! ## The answers of a refusal -/

/-- Every refusal answers `succeeded = false`. -/
theorem Call.succeeded_of_refusal {call : Call} {now : String} {configuration : AppConfiguration}
    {result : OperationResult} (h : (call.edit now).refusal configuration = some result) :
    result.succeeded = false := by
  have hrefuse : ∀ message, refuse message = some result → result.succeeded = false := by
    rintro message hmessage
    rw [← Option.some.inj hmessage]
  cases call with
  | updateConfiguration configuration confirmUnsafeChanges =>
    simp only [Call.edit, Configuration.updateConfiguration] at h
    split_ifs at h
    rw [← Option.some.inj h]
  | updateResourceAllocation profile =>
    simp only [Call.edit, Configuration.updateResourceAllocation] at h
    split_ifs at h
    exact hrefuse _ h
  | catalog call =>
    cases call with
    | upsertSubAgent subAgent =>
      simp only [Call.edit, CatalogCall.edit, upsertSubAgent] at h
      split_ifs at h <;> exact hrefuse _ h
    | removeSubAgent subAgentId =>
      simp only [Call.edit, CatalogCall.edit, removeSubAgent] at h
      split_ifs at h
      · exact hrefuse _ h
      · split at h
        · exact hrefuse _ h
        · split_ifs at h
          exact hrefuse _ h
    | upsertMcpServer mcpServer =>
      simp only [Call.edit, CatalogCall.edit, upsertMcpServer] at h
      split_ifs at h <;> exact hrefuse _ h
    | removeMcpServer mcpServerId =>
      simp only [Call.edit, CatalogCall.edit, removeMcpServer] at h
      split_ifs at h
      · exact hrefuse _ h
      · split at h
        · exact hrefuse _ h
        · split_ifs at h
          exact hrefuse _ h
    | upsertGroup group =>
      simp only [Call.edit, CatalogCall.edit, upsertGroup] at h
      split_ifs at h <;> exact hrefuse _ h
    | removeGroup groupId =>
      simp only [Call.edit, CatalogCall.edit, removeGroup] at h
      split_ifs at h <;> exact hrefuse _ h

/-- A call is refused however its write ends exactly when its checks refuse it. -/
theorem Call.refusedAt_iff {call : Call} {now : String} {s : SharedState} :
    call.RefusedAt now s ↔ ∃ result, (call.edit now).refusal s.configuration = some result := by
  constructor
  · intro h
    cases hr : (call.edit now).refusal s.configuration with
    | some result => exact ⟨result, rfl⟩
    | none =>
      have hwritten := h .written
      rw [Call.perform, Edit.succeeded_of_none hr, writeJsonFile] at hwritten
      cases hwritten
  · rintro ⟨result, hr⟩ write
    rw [Call.perform, Edit.perform_of_some hr]
    exact Call.succeeded_of_refusal hr

/-! ## Calls and runs -/

variable {s : SharedState}

/-- A refused call leaves no trace, in memory or on disk. -/
theorem Call.perform_of_refusedAt {call : Call} {env : Environment}
    (h : call.RefusedAt env.timestampNowUtc s) : (call.perform env s).2 = s := by
  obtain ⟨result, hr⟩ := Call.refusedAt_iff.mp h
  rw [Call.perform, Edit.perform_of_some hr]

theorem Call.configuration_perform_writing (call : Call) (env : Environment) (s : SharedState) :
    (call.perform env s).2.configuration = (call.perform env.writing s).2.configuration :=
  Edit.configuration_perform _ _ _ s

/-- A successful operation has put the whole configuration on disk. -/
theorem Call.file_of_succeeded {call : Call} {env : Environment}
    (h : (call.perform env s).1.succeeded = true) :
    (call.perform env s).2.file = some (call.perform env s).2.configuration := by
  cases hr : (call.edit env.timestampNowUtc).refusal s.configuration with
  | some result =>
    rw [Call.perform, Edit.perform_of_some hr, Call.succeeded_of_refusal hr] at h
    cases h
  | none =>
    rw [Call.perform, Edit.succeeded_of_none hr] at h
    cases hw : env.write with
    | written => rw [Call.perform, Edit.perform, hr, hw]; rfl
    | failed left => rw [hw, writeJsonFile] at h; cases h

/-- An edit reads the configuration in memory, never the file. -/
theorem Call.configuration_perform_congr {s t : SharedState} (call : Call) (env : Environment)
    (h : s.configuration = t.configuration) :
    (call.perform env s).2.configuration = (call.perform env t).2.configuration := by
  cases hr : (call.edit env.timestampNowUtc).refusal s.configuration with
  | some result =>
    rw [Call.perform, Call.perform, Edit.perform_of_some hr,
      Edit.perform_of_some (s := t) (h ▸ hr), h]
  | none =>
    rw [Call.perform, Call.perform, Edit.configuration_of_none hr,
      Edit.configuration_of_none (s := t) (h ▸ hr), h]

/-- The configuration after a sequence of calls is the one they leave when every write
succeeds. -/
theorem configuration_run_eq (steps : List (Call × Environment)) (s : SharedState) :
    ((services s).run s steps).configuration =
      ((services s).run s (steps.map fun step => (step.1, step.2.writing))).configuration := by
  suffices h : ∀ t u : SharedState, t.configuration = u.configuration →
      ((services s).run t steps).configuration =
        ((services s).run u (steps.map fun step => (step.1, step.2.writing))).configuration from
    h s s rfl
  induction steps with
  | nil => exact fun t u h => h
  | cons step steps ih =>
    intro t u h
    refine ih _ _ ?_
    exact (Call.configuration_perform_congr step.1 step.2 h).trans
      (Call.configuration_perform_writing step.1 step.2 u)

/-- **What a failed operation leaves behind.**  An operation that its own checks refuse
leaves no trace.  One whose write fails leaves the configuration it would have left had the
write succeeded.  Over any sequence of calls the configuration in memory is the one they
leave when every write succeeds, and every successful operation writes all of it. -/
theorem failed_operations_trace (s : SharedState) :
    (∀ (call : Call) (env : Environment), (call.perform env s).1.succeeded = false →
      (call.RefusedAt env.timestampNowUtc s ∧ (call.perform env s).2 = s) ∨
      ((call.perform env.writing s).1.succeeded = true ∧
        (call.perform env s).2.configuration =
          (call.perform env.writing s).2.configuration)) ∧
    (∀ (steps : List (Call × Environment)),
      ((services s).run s steps).configuration =
        ((services s).run s (steps.map fun step => (step.1, step.2.writing))).configuration) ∧
    (∀ (call : Call) (env : Environment), (call.perform env s).1.succeeded = true →
      (call.perform env s).2.file = some (call.perform env s).2.configuration) := by
  refine ⟨fun call env _ => ?_, fun steps => configuration_run_eq steps s,
    fun call env h => Call.file_of_succeeded h⟩
  by_cases hrefused : call.RefusedAt env.timestampNowUtc s
  · exact Or.inl ⟨hrefused, Call.perform_of_refusedAt hrefused⟩
  · refine Or.inr ⟨?_, Call.configuration_perform_writing call env s⟩
    rw [Call.refusedAt_iff, not_exists] at hrefused
    have hnone : (call.edit env.timestampNowUtc).refusal s.configuration = none :=
      Option.eq_none_iff_forall_ne_some.mpr hrefused
    exact Edit.succeeded_of_none hnone

/-- A resource update whose write fails: it answers `succeeded = false`, memory keeps the new
profile, and the next successful operation, an update of a group, writes it to disk. -/
theorem failed_write_reaches_disk :
    let s : SharedState := { configuration := { subAgentGroups := [{ groupId := "g" }] } }
    let first := (Call.updateResourceAllocation { cpuPercent := 80 }).perform
      { timestampNowUtc := "2026-01-01T00:00:00Z", write := .failed s.file } s
    let second := (Call.catalog (.removeGroup "g")).perform
      { timestampNowUtc := "2026-01-01T00:00:01Z", write := .written } first.2
    first.1.succeeded = false ∧
      first.2.configuration.resourceAllocation ≠ s.configuration.resourceAllocation ∧
      second.1.succeeded = true ∧
      second.2.file.map (·.resourceAllocation.cpuPercent) = some 80 := by
  decide

end Configuration
end MasterControl
