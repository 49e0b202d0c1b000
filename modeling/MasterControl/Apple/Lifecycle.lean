import MasterControl.Apple.Holders

/-!
# The life of an Apple operation

The holder of an operation is the only one to move it on (`Service.Inv`), so its status moves as
`Move` says, its execution begins once, and once it is terminal nothing changes it.  This is the
law of an orderly run, `apple_operation_lifecycle`.

With a cancellation that `Orderly` leaves out a canceled operation is executed after all; this
and the other ways out of the law are in `apple_operations_as_claimed`.
-/

namespace MasterControl
namespace Apple

open Foundation

/-! ## The law -/

/-- How a step may change the status of an operation. -/
inductive Move : OperationStep → AppleOperationStatus → AppleOperationStatus → Prop
  | run (a : OperationStep) : Move a .queued .running
  | succeed (a : OperationStep) : Move a .running .succeeded
  | fail (a : OperationStep) : Move a .running .failed
  | block (a : OperationStep) : Move a .running .blocked
  | cancel (a : OperationStep) : Move a .queued .canceled
  | interrupt (nowUtc : Bytes) (written : Bool) : Move (.restart nowUtc written) .queued .blocked
  /-- The operation does not get to a host. -/
  | giveUp (thread : Nat) (obstacle : Obstacle) (nowUtc : Bytes) (written : Bool)
      {b : AppleOperationStatus} (h : b = .failed ∨ b = .blocked) :
      Move (.giveUp thread obstacle nowUtc written) .queued b

/-- The moves without the last one. -/
inductive ClaimedMove : OperationStep → AppleOperationStatus → AppleOperationStatus → Prop
  | run (a : OperationStep) : ClaimedMove a .queued .running
  | succeed (a : OperationStep) : ClaimedMove a .running .succeeded
  | fail (a : OperationStep) : ClaimedMove a .running .failed
  | block (a : OperationStep) : ClaimedMove a .running .blocked
  | cancel (a : OperationStep) : ClaimedMove a .queued .canceled
  | interrupt (nowUtc : Bytes) (written : Bool) :
    ClaimedMove (.restart nowUtc written) .queued .blocked

/-- A terminal status is never left. -/
theorem Move.not_terminal {a : OperationStep} {b c : AppleOperationStatus} (h : Move a b c) :
    b = .queued ∨ b = .running := by
  cases h with
  | run => exact Or.inl rfl
  | succeed => exact Or.inr rfl
  | fail => exact Or.inr rfl
  | block => exact Or.inr rfl
  | cancel => exact Or.inl rfl
  | interrupt => exact Or.inl rfl
  | giveUp => exact Or.inl rfl

/-- The law for one step of a run. -/
structure LifecycleKept (moves : AppleOperationStatus → AppleOperationStatus → Prop)
    (s t : Service) : Prop where
  /-- A status stays or moves. -/
  moves : ∀ id b, s.status id = some b → ∃ c, t.status id = some c ∧ (c = b ∨ moves b c)
  /-- A canceled operation is canceled for ever. -/
  canceled : ∀ id ∈ s.canceled, t.status id = some .canceled
  /-- No remote command is run for it. -/
  silent : ∀ id ∈ s.canceled, t.commands.count id = s.commands.count id
  /-- No execution begins twice. -/
  once : t.executed.Nodup
  /-- The history reports the status that was last published. -/
  reported : ∀ r ∈ t.recentAppleOperations, t.status r.operationId = some r.status
  /-- The persisted history has no operation twice. -/
  ids : (t.file.map AppleOperationRecord.operationId).Nodup
  /-- It has thirty entries at most. -/
  length : t.file.length ≤ 30

/-! ## The steps keep to the moves -/

theorem mapAppleOperationStatus_cases (result : GovernanceToolResult) :
    mapAppleOperationStatus result = .succeeded ∨ mapAppleOperationStatus result = .failed ∨
      mapAppleOperationStatus result = .blocked := by
  unfold mapAppleOperationStatus
  split
  · exact Or.inl rfl
  · cases result.status with
    | passed => exact Or.inl rfl
    | failed => exact Or.inr (Or.inl rfl)
    | warning | unsupported => exact Or.inr (Or.inr rfl)

theorem Obstacle.mapAppleOperationStatus_result (obstacle : Obstacle) :
    mapAppleOperationStatus obstacle.result = .failed ∨
      mapAppleOperationStatus obstacle.result = .blocked := by
  cases obstacle with
  | serviceUnavailable | exception => exact Or.inl rfl
  | noHost | preferredHostUnavailable | platformNotSupported => exact Or.inr rfl

/-- Every status stays or moves. -/
def Moved (a : OperationStep) (s t : Service) : Prop :=
  ∀ id b, s.status id = some b → ∃ c, t.status id = some c ∧ (c = b ∨ Move a b c)

namespace Service

variable {s t : Service} {a : OperationStep} {r : AppleOperationRecord}

theorem moved_of_status_eq (h : t.status = s.status) : Moved a s t :=
  fun _ b hb => ⟨b, h ▸ hb, Or.inl rfl⟩

/-- A publication moves the operation of its record. -/
theorem moved_persist (written : Bool)
    (hr : ∀ b, s.status r.operationId = some b → r.status = b ∨ Move a b r.status) :
    Moved a s (s.persist written r) := by
  intro id b hb
  by_cases hid : id = r.operationId
  · subst hid
    exact ⟨r.status, Function.update_self .., hr b hb⟩
  · exact ⟨b, (Function.update_of_ne hid ..).trans hb, Or.inl rfl⟩

/-- Every step of an orderly run keeps to the moves. -/
theorem Inv.moved (h : s.Inv) (ha : a.Written) : Moved a s (s.step a) := by
  cases a with
  | accept thread =>
    dsimp only [Service.step, Service.accept]
    split <;> exact moved_of_status_eq rfl
  | enqueue thread =>
    dsimp only [Service.step, Service.enqueue]
    split
    · split <;> exact moved_of_status_eq rfl
    · exact moved_of_status_eq rfl
  | pop =>
    dsimp only [Service.step, Service.pop]
    split <;> exact moved_of_status_eq rfl
  | remoteCommand thread =>
    dsimp only [Service.step, Service.remoteCommand]
    split <;> exact moved_of_status_eq rfl
  | leave thread =>
    dsimp only [Service.step, Service.leave]
    split <;> exact moved_of_status_eq rfl
  | cancel thread operationId =>
    dsimp only [Service.step, Service.cancel]
    split
    · split <;> exact moved_of_status_eq rfl
    · exact moved_of_status_eq rfl
  | stop => exact moved_of_status_eq rfl
  | publish thread written =>
    dsimp only [Service.step, Service.publishNumbered]
    have hok := h.threads thread
    split
    · next hx =>
      rw [hx] at hok
      exact moved_persist written fun b hb => by rw [hok.2.1] at hb; cases hb
    · next hx =>
      rw [hx] at hok
      exact moved_persist written fun b hb => by rw [hok.2.1] at hb; cases hb
    · exact moved_of_status_eq rfl
  | markRunning thread host nowUtc written =>
    dsimp only [Service.step, Service.markRunning]
    have hok := h.threads thread
    split
    · next record hx =>
      rw [hx] at hok
      refine moved_persist written fun b hb => Or.inr ?_
      cases hok.2.symm.trans hb
      exact Move.run _
    · exact moved_of_status_eq rfl
  | giveUp thread obstacle nowUtc written =>
    dsimp only [Service.step, Service.giveUp]
    have hok := h.threads thread
    split
    · next record hx =>
      rw [hx] at hok
      refine moved_persist written fun b hb => Or.inr ?_
      cases hok.2.symm.trans hb
      exact Move.giveUp _ _ _ _ obstacle.mapAppleOperationStatus_result
    · exact moved_of_status_eq rfl
  | complete thread result nowUtc written =>
    dsimp only [Service.step, Service.complete]
    have hok := h.threads thread
    split
    · next record hx =>
      rw [hx] at hok
      refine moved_persist written fun b hb => Or.inr ?_
      cases hok.2.symm.trans hb
      change Move _ _ (mapAppleOperationStatus result)
      rcases mapAppleOperationStatus_cases result with he | he | he
      · exact he ▸ Move.succeed _
      · exact he ▸ Move.fail _
      · exact he ▸ Move.block _
    · exact moved_of_status_eq rfl
  | markCanceled thread nowUtc written =>
    dsimp only [Service.step, Service.markCanceled]
    have hok := h.threads thread
    have hmove : ∀ record : AppleOperationRecord, (s.status record.operationId = some .queued ∨
        s.status record.operationId = some .canceled) → ∀ b,
        s.status record.operationId = some b →
        AppleOperationStatus.canceled = b ∨
          Move (.markCanceled thread nowUtc written) b .canceled := by
      rintro record (hq | hc) b hb
      · cases hq.symm.trans hb
        exact Or.inr (Move.cancel _)
      · cases hc.symm.trans hb
        exact Or.inl rfl
    split
    · next record hx =>
      rw [hx] at hok
      exact moved_persist written (hmove record hok)
    · next record hx =>
      rw [hx] at hok
      exact moved_persist written (hmove record hok)
    · exact moved_of_status_eq rfl
  | restart nowUtc written =>
    cases ha
    intro id b hb
    rcases h.status_restart nowUtc id with ⟨r, -, -, hs, ht⟩ | ⟨-, ht⟩
    · cases hs.symm.trans hb
      refine ⟨_, ht, ?_⟩
      rcases status_reconciledRecord nowUtc r with he | ⟨hq | hr, he⟩
      · exact Or.inl he
      · rw [he, hq]
        exact Or.inr (Move.interrupt nowUtc true)
      · rw [he, hr]
        exact Or.inr (Move.block _)
    · exact ⟨b, ht.trans hb, Or.inl rfl⟩

/-- A remote command is run by a thread for the operation that it holds. -/
theorem commands_step (s : Service) (a : OperationStep) :
    (s.step a).commands = s.commands ∨
      ∃ thread id, (s.thread thread).holds = some id ∧
        (s.step a).commands = s.commands ++ [id] := by
  cases a with
  | remoteCommand thread =>
    dsimp only [Service.step, Service.remoteCommand]
    split
    · next record hx => exact Or.inr ⟨thread, record.operationId, by rw [hx]; rfl, rfl⟩
    · next record hx => exact Or.inr ⟨thread, record.operationId, by rw [hx]; rfl, rfl⟩
    · exact Or.inl rfl
  | stop | restart => exact Or.inl rfl
  | accept =>
    dsimp only [Service.step, Service.accept]
    split <;> exact Or.inl rfl
  | publish =>
    dsimp only [Service.step, Service.publishNumbered]
    split <;> exact Or.inl rfl
  | enqueue =>
    dsimp only [Service.step, Service.enqueue]
    split
    · split <;> exact Or.inl rfl
    · exact Or.inl rfl
  | pop =>
    dsimp only [Service.step, Service.pop]
    split <;> exact Or.inl rfl
  | markRunning =>
    dsimp only [Service.step, Service.markRunning]
    split <;> exact Or.inl rfl
  | giveUp =>
    dsimp only [Service.step, Service.giveUp]
    split <;> exact Or.inl rfl
  | complete =>
    dsimp only [Service.step, Service.complete]
    split <;> exact Or.inl rfl
  | leave =>
    dsimp only [Service.step, Service.leave]
    split <;> exact Or.inl rfl
  | cancel =>
    dsimp only [Service.step, Service.cancel]
    split
    · split <;> exact Or.inl rfl
    · exact Or.inl rfl
  | markCanceled =>
    dsimp only [Service.step, Service.markCanceled]
    split <;> exact Or.inl rfl

/-- No remote command is run for what was canceled. -/
theorem Inv.silent (h : s.Inv) (a : OperationStep) {id : OperationId} (hid : id ∈ s.canceled) :
    (s.step a).commands.count id = s.commands.count id := by
  rcases commands_step s a with he | ⟨thread, id', hholds, he⟩
  · rw [he]
  · have hne : id' ≠ id := by
      rintro rfl
      exact (h.canceled id' hid).2 (Custody.held_of_agent hholds)
    rw [he, List.count_append, List.count_singleton, if_neg (by simpa using hne), Nat.add_zero]

end Service

/-! ## The law -/

/-- **In an orderly run every step keeps the law of the life of an operation.** -/
theorem apple_operation_lifecycle {s : Service} {a : OperationStep}
    (hs : appleOperations.ReachableBy Orderly s) (ha : Orderly s a) :
    LifecycleKept (Move a) s (s.step a) := by
  have h := inv_of_reachable hs
  have hnext := h.step ha
  have hmoved := h.moved ha.1
  exact
    { moves := hmoved
      canceled := fun id hid => by
        obtain ⟨c, hc, hmove⟩ := hmoved id .canceled (h.canceled id hid).1
        rcases hmove with rfl | hmove
        · exact hc
        · rcases hmove.not_terminal with he | he
          · cases he
          · cases he
      silent := fun id hid => h.silent a hid
      once := hnext.executed_nodup
      reported := hnext.history.reported
      ids := hnext.history.file ▸ hnext.history.ids
      length := hnext.history.file ▸ hnext.history.length }

/-- A queued operation, waiting for the worker. -/
def waitingService : Service :=
  appleOperations.run appleOperations.init
    [.accept 1 true [] [] 1, .publish 1 true, .enqueue 1]

theorem waitingService_reachable : appleOperations.ReachableBy Orderly waitingService := by
  refine TransitionSystem.ReachableBy.run .init _ ⟨⟨trivial, ?_⟩, ⟨rfl, trivial⟩, ⟨trivial, trivial⟩,
    trivial⟩
  exact Nat.one_pos

theorem not_unlisted_waitingService (id : OperationId) : ¬ Unlisted waitingService id := by
  rintro ⟨thread, record, -, h⟩
  have hidle : waitingService.thread (thread + 1) = .idle := by
    cases thread with
    | zero => rfl
    | succ n => rfl
  rw [hidle] at h
  rcases h with h | h
  · cases h
  · cases h

/-- The waiting operation is canceled. -/
theorem lifecycle_waiting :
    LifecycleKept (Move (.cancel 2 ⟨1, 1⟩)) waitingService
      (waitingService.step (.cancel 2 ⟨1, 1⟩)) :=
  apple_operation_lifecycle waitingService_reachable
    ⟨trivial, not_unlisted_waitingService ⟨1, 1⟩⟩

/-- The service after a run from its first start. -/
def serviceAfter (steps : List OperationStep) : Service :=
  appleOperations.run appleOperations.init steps

/-- **As claimed, the law does not hold.**  An operation without a host is blocked while it is
queued.  A canceled operation of a synchronous tool runs a remote command.  After a write that
failed, a restart blocks an operation that had succeeded.  A clock that was put back gives an id
a second time. -/
theorem apple_operations_as_claimed :
    let obstacle : OperationStep := .giveUp 0 (.noHost (asciiBytes "ios")) [] true
    let noHost := serviceAfter [.accept 1 true [] [] 1, .publish 1 true, .enqueue 1, .pop]
    let raced := serviceAfter [.accept 1 false [] [] 1, .publish 1 true, .cancel 2 ⟨1, 1⟩,
      .markCanceled 2 [] true]
    let unwritten := serviceAfter [.accept 1 false [] [] 1, .publish 1 true,
      .markRunning 1 {} [] true, .complete 1 { succeeded := true } [] false]
    let putBack := serviceAfter [.accept 1 false [] [] 1, .publish 1 true,
      .markRunning 1 {} [] true, .complete 1 { succeeded := true } [] true, .restart [] true,
      .accept 1 false [] [] 1]
    ¬ LifecycleKept (ClaimedMove obstacle) noHost (noHost.step obstacle) ∧
      ¬ LifecycleKept (ClaimedMove (.remoteCommand 1)) raced (raced.step (.remoteCommand 1)) ∧
      ¬ LifecycleKept (ClaimedMove (.restart [] true)) unwritten
        (unwritten.step (.restart [] true)) ∧
      ¬ LifecycleKept (ClaimedMove (.publish 1 true)) putBack
        (putBack.step (.publish 1 true)) := by
  refine ⟨fun h => ?_, fun h => ?_, fun h => ?_, fun h => ?_⟩
  · obtain ⟨c, hc, hmove⟩ := h.moves ⟨1, 1⟩ .queued rfl
    cases hc
    rcases hmove with hmove | hmove
    · cases hmove
    · cases hmove
  · have hcount := h.silent ⟨1, 1⟩ (by decide)
    revert hcount
    decide
  · obtain ⟨c, hc, hmove⟩ := h.moves ⟨1, 1⟩ .succeeded rfl
    cases hc
    rcases hmove with hmove | hmove
    · cases hmove
    · cases hmove
  · obtain ⟨c, hc, hmove⟩ := h.moves ⟨1, 1⟩ .succeeded rfl
    cases hc
    rcases hmove with hmove | hmove
    · cases hmove
    · cases hmove

end Apple
end MasterControl
