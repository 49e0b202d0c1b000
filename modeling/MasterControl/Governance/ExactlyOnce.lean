import MasterControl.Foundation.Separators
import MasterControl.Governance.ApprovalQueue

/-!
# The approval queue executes exactly once

A decision on a pending action does three things at once: it rewrites the action, it adds
audit records about it, and it adds at most one executor call with it (`decided`); `approve`
and `reject` are decisions or do nothing (`approve_cases`, `reject_cases`).  So each action's
status, its audit trail and its executor calls tell one story (`Story`), along every run and
for every executor.

What an executor that leaves by an exception breaks is the end of the story: the action was
claimed, its executor call was made, and nothing ever records the outcome.
-/

namespace MasterControl
namespace Governance

open Foundation Supervisor Relation

variable {wired : Bool} {run : QueueRun} {q : GovernanceApprovalQueueService} {id : String}
  {a : GovernanceDeferredAction}

/-! ## Decisions -/

/-- The part of an action that its executor acts on. -/
def GovernanceDeferredAction.request (a : GovernanceDeferredAction) :
    GovernanceActionKind × String × String × String :=
  (a.action, a.actor, a.targetId, a.payload)

/-- A decision: one action is rewritten, audit records and executor calls are added. -/
def decided (id : String) (f : GovernanceDeferredAction → GovernanceDeferredAction)
    (records : List AuditRecord) (calls : List GovernanceDeferredAction)
    (q : GovernanceApprovalQueueService) : GovernanceApprovalQueueService :=
  { q with
    actions := modifyById id f q.actions
    audit := q.audit ++ records
    invocations := q.invocations ++ calls }

/-- The audit records of one action. -/
def auditOf (q : GovernanceApprovalQueueService) (id : String) : List String :=
  (q.audit.filter fun record => record.subjectId = id).map AuditRecord.kind

/-- An action's id, and what its executor acts on. -/
def GovernanceDeferredAction.identity (a : GovernanceDeferredAction) :
    String × GovernanceActionKind × String × String × String :=
  (a.id, a.request)

/-- The executor calls with one action. -/
def callsOf (q : GovernanceApprovalQueueService) (id : String) : List GovernanceDeferredAction :=
  q.invocations.filter fun call => call.id = id

/-- What `approve` does to an action it decides, by how the executor ends. -/
inductive Approval (now actor : String) (executor : Option Executor)
    (a : GovernanceDeferredAction) :
    (GovernanceDeferredAction → GovernanceDeferredAction) → List String →
      List GovernanceDeferredAction → Prop
  | unwired : executor = none →
    Approval now actor executor a (claimAction now actor) ["governance-approved"] []
  | threw {execute : Executor} {what : String} : executor = some execute →
    execute (claimAction now actor a) = .threw what →
    Approval now actor executor a (claimAction now actor) ["governance-approved"]
      [claimAction now actor a]
  | returned {execute : Executor} {result : OperationResult} : executor = some execute →
    execute (claimAction now actor a) = .returned result →
    Approval now actor executor a (fun b => settleAction result (claimAction now actor b))
      ["governance-approved",
        if result.succeeded then "governance-executed" else "governance-execute-failed"]
      [claimAction now actor a]

/-- **What `approve` does**: nothing, or one decision on a pending action. -/
theorem approve_cases (now : String) (executor : Option Executor) (id actor : String)
    (q : GovernanceApprovalQueueService) :
    ((approve now executor id actor q).2 = q ∧
      ∀ a, findById id q.actions = some a → a.status ≠ .pending) ∨
    ∃ a f records calls, findById id q.actions = some a ∧ a.status = .pending ∧
      Approval now actor executor a f (records.map AuditRecord.kind) calls ∧
      (∀ record ∈ records, record.subjectId = id) ∧
      (approve now executor id actor q).2 = decided id f records calls q := by
  unfold approve
  cases ha : findById id q.actions with
  | none => exact Or.inl ⟨rfl, fun a h => (by cases h)⟩
  | some a =>
    dsimp only
    have hid : a.id = id := by
      have := List.find?_some ha
      exact of_decide_eq_true this
    split_ifs with hstatus
    · refine Or.inl ⟨rfl, fun b hb => ?_⟩
      obtain rfl := Option.some.inj hb
      exact hstatus
    · have hpending : a.status = .pending := not_not.mp hstatus
      refine Or.inr ⟨a, ?_⟩
      -- all records of the decision are about the action
      have habout : ∀ records : List AuditRecord,
          (∀ record ∈ records, record.subjectId = a.id ∨ record.subjectId = id) →
            ∀ record ∈ records, record.subjectId = id := fun records h record hrecord =>
        (h record hrecord).elim (fun h => h.trans hid) fun h => h
      have happroved : (approvedRecord a).subjectId = a.id := rfl
      cases executor with
      | none =>
        refine ⟨_, [approvedRecord a], [], rfl, hpending, Approval.unwired rfl,
          habout _ (by simp [happroved]), ?_⟩
        rw [decided, List.append_nil]
        rfl
      | some execute =>
        dsimp only
        cases hexecute : execute (claimAction now actor a) with
        | threw what =>
          exact ⟨_, [approvedRecord a], _, rfl, hpending, Approval.threw rfl hexecute,
            habout _ (by simp [happroved]), rfl⟩
        | returned result =>
          have hkind : (outcomeRecord result id a).kind =
              if result.succeeded then "governance-executed" else "governance-execute-failed" := by
            unfold outcomeRecord
            split_ifs <;> rfl
          have houtcome : (outcomeRecord result id a).subjectId = id := by
            unfold outcomeRecord
            split_ifs <;> rfl
          have hrecords : [approvedRecord a, outcomeRecord result id a].map AuditRecord.kind =
              ["governance-approved",
                if result.succeeded then "governance-executed"
                else "governance-execute-failed"] := by
            rw [← hkind]
            rfl
          refine ⟨fun b => settleAction result (claimAction now actor b),
            [approvedRecord a, outcomeRecord result id a], _, rfl, hpending,
            hrecords ▸ Approval.returned rfl hexecute, habout _ (by simp [happroved, houtcome]), ?_⟩
          have hactions : modifyById id (settleAction result)
              (modifyById id (claimAction now actor) q.actions) =
                modifyById id (fun b => settleAction result (claimAction now actor b)) q.actions :=
            updateFirst_updateFirst (p := fun b : GovernanceDeferredAction => b.id = id)
              (f := claimAction now actor) (fun _ h => h) q.actions
          simp only [settle, claim, decided, hactions, List.append_assoc, List.cons_append,
            List.nil_append]

/-- **What `reject` does**: nothing, or one decision on a pending action. -/
theorem reject_cases (now id actor reason : String) (q : GovernanceApprovalQueueService) :
    (reject now id actor reason q).2 = q ∨
    ∃ a, findById id q.actions = some a ∧ a.status = .pending ∧
      (reject now id actor reason q).2 =
        decided id (rejectAction now actor reason) [rejectedRecord reason a] [] q := by
  unfold reject
  cases ha : findById id q.actions with
  | none => exact Or.inl rfl
  | some a =>
    dsimp only
    split_ifs with hstatus
    · exact Or.inl rfl
    · refine Or.inr ⟨a, rfl, not_not.mp hstatus, ?_⟩
      rw [decided, List.append_nil]

/-! ## The invariant -/

/-- The audit trail of an action with a given status. -/
def ActionStatus.trail : ActionStatus → List String
  | .pending => ["governance-deferred"]
  | .approved => ["governance-deferred", "governance-approved"]
  | .rejected => ["governance-deferred", "governance-rejected"]
  | .executed => ["governance-deferred", "governance-approved", "governance-executed"]
  | .executeFailed => ["governance-deferred", "governance-approved", "governance-execute-failed"]

/-- How often the executor has been called with an action of a given status. -/
def ActionStatus.calls (wired : Bool) : ActionStatus → Nat
  | .pending => 0
  | .rejected => 0
  | .approved => if wired then 1 else 0
  | .executed => 1
  | .executeFailed => 1

/-- Status, audit trail and executor calls of an action agree. -/
structure Story (wired : Bool) (q : GovernanceApprovalQueueService)
    (a : GovernanceDeferredAction) : Prop where
  trail : auditOf q a.id = a.status.trail
  calls : (callsOf q a.id).map GovernanceDeferredAction.request =
    List.replicate (a.status.calls wired) a.request

/-- What holds between two calls of the queue. -/
structure QueueInv (wired : Bool) (run : QueueRun) : Prop where
  /-- Ids are numbered in staging order. -/
  numbered : run.queue.actions.map GovernanceDeferredAction.id =
    (List.range run.queue.nextSequence).map fun k => deferredIdOf (k + 1)
  /-- Every action is as it was staged, its status and decision apart. -/
  staged : run.queue.actions.map GovernanceDeferredAction.identity =
    run.staged.map GovernanceDeferredAction.identity
  story : ∀ a ∈ run.queue.actions, Story wired run.queue a
  /-- Nothing is recorded or executed about an id that was not given out. -/
  known : ∀ id, id ∉ run.queue.actions.map GovernanceDeferredAction.id →
    auditOf run.queue id = [] ∧ callsOf run.queue id = []

theorem deferredIdOf_inj {k l : ℕ} (h : deferredIdOf k = deferredIdOf l) : k = l :=
  append_toString_inj h

theorem QueueInv.nodup (h : QueueInv wired run) :
    (run.queue.actions.map GovernanceDeferredAction.id).Nodup := by
  rw [h.numbered]
  refine List.Nodup.map (fun k l hkl => ?_) List.nodup_range
  have := deferredIdOf_inj hkl
  omega

/-- The next id is fresh. -/
theorem QueueInv.next_notMem (h : QueueInv wired run) :
    deferredIdOf (run.queue.nextSequence + 1) ∉
      run.queue.actions.map GovernanceDeferredAction.id := by
  rw [h.numbered, List.mem_map]
  rintro ⟨k, hk, heq⟩
  have := deferredIdOf_inj heq
  have := List.mem_range.mp hk
  omega

theorem queueInv_init : QueueInv wired {} where
  numbered := rfl
  staged := rfl
  story a ha := by cases ha
  known id _ := ⟨rfl, rfl⟩

/-! ### What is recorded about one id -/

theorem auditOf_append (q : GovernanceApprovalQueueService) (records : List AuditRecord)
    (id' : String) (h : ∀ record ∈ records, record.subjectId = id) :
    auditOf { q with audit := q.audit ++ records } id' =
      auditOf q id' ++ if id' = id then records.map AuditRecord.kind else [] := by
  unfold auditOf
  rw [List.filter_append, List.map_append]
  congr 1
  split_ifs with hid
  · rw [List.filter_eq_self.mpr fun record hrecord =>
      decide_eq_true ((h record hrecord).trans hid.symm)]
  · rw [List.filter_eq_nil_iff.mpr fun record hrecord heq =>
      hid ((of_decide_eq_true heq).symm.trans (h record hrecord)), List.map_nil]

theorem callsOf_append (q : GovernanceApprovalQueueService)
    (calls : List GovernanceDeferredAction) (id' : String) (h : ∀ call ∈ calls, call.id = id) :
    callsOf { q with invocations := q.invocations ++ calls } id' =
      callsOf q id' ++ if id' = id then calls else [] := by
  unfold callsOf
  rw [List.filter_append]
  congr 1
  split_ifs with hid
  · exact List.filter_eq_self.mpr fun call hcall =>
      decide_eq_true ((h call hcall).trans hid.symm)
  · exact List.filter_eq_nil_iff.mpr fun call hcall heq =>
      hid ((of_decide_eq_true heq).symm.trans (h call hcall))

theorem auditOf_decided {f : GovernanceDeferredAction → GovernanceDeferredAction}
    {records : List AuditRecord} (calls : List GovernanceDeferredAction)
    (h : ∀ record ∈ records, record.subjectId = id) (id' : String) :
    auditOf (decided id f records calls q) id' =
      auditOf q id' ++ if id' = id then records.map AuditRecord.kind else [] :=
  auditOf_append q records id' h

theorem callsOf_decided {f : GovernanceDeferredAction → GovernanceDeferredAction}
    (records : List AuditRecord) {calls : List GovernanceDeferredAction}
    (h : ∀ call ∈ calls, call.id = id) (id' : String) :
    callsOf (decided id f records calls q) id' =
      callsOf q id' ++ if id' = id then calls else [] :=
  callsOf_append q calls id' h

/-! ### The steps -/

theorem QueueInv.stage (h : QueueInv wired run) (now : String) (input : GovernanceDeferredAction) :
    QueueInv wired (queueStep wired run (.stage now input)) := by
  have haction : (stagedAction now (run.queue.nextSequence + 1) input).id =
      deferredIdOf (run.queue.nextSequence + 1) := rfl
  generalize hnew : stagedAction now (run.queue.nextSequence + 1) input = new at haction
  have hpending : new.status = .pending := hnew ▸ rfl
  have haudit : ∀ id', auditOf (queueStep wired run (.stage now input)).queue id' =
      auditOf run.queue id' ++ if id' = new.id then ["governance-deferred"] else [] := by
    intro id'
    subst hnew
    exact auditOf_append run.queue _ id' fun record hrecord => by
      rw [List.mem_singleton.mp hrecord]
  have hcalls : ∀ id', callsOf (queueStep wired run (.stage now input)).queue id' =
      callsOf run.queue id' := fun _ => rfl
  have hactions : (queueStep wired run (.stage now input)).queue.actions =
      run.queue.actions ++ [new] := hnew ▸ rfl
  have hfresh : new.id ∉ run.queue.actions.map GovernanceDeferredAction.id :=
    haction ▸ h.next_notMem
  refine ⟨?_, ?_, fun b hb => ?_, fun id' hid' => ?_⟩
  · rw [hactions, List.map_append, List.map_singleton, h.numbered, haction]
    change _ = (List.range (run.queue.nextSequence + 1)).map fun k => deferredIdOf (k + 1)
    rw [List.range_succ, List.map_append, List.map_singleton]
  · rw [hactions]
    have hstaged : (queueStep wired run (.stage now input)).staged = run.staged ++ [new] :=
      hnew ▸ rfl
    rw [hstaged, List.map_append, List.map_append, h.staged]
  · rw [hactions] at hb
    rcases List.mem_append.mp hb with hb | hb
    · have hne : b.id ≠ new.id := fun heq => hfresh (heq ▸ List.mem_map_of_mem hb)
      refine ⟨?_, ?_⟩
      · rw [haudit, if_neg hne, List.append_nil]
        exact (h.story b hb).trail
      · rw [hcalls]
        exact (h.story b hb).calls
    · obtain rfl := List.mem_singleton.mp hb
      obtain ⟨hnone, hcallsNone⟩ := h.known b.id hfresh
      refine ⟨?_, ?_⟩
      · rw [haudit, hnone, if_pos rfl, hpending]
        rfl
      · rw [hcalls, hcallsNone, hpending]
        rfl
  · rw [hactions, List.map_append, List.map_singleton, List.mem_append, List.mem_singleton,
      not_or] at hid'
    obtain ⟨hnone, hcallsNone⟩ := h.known id' hid'.1
    refine ⟨?_, by rw [hcalls, hcallsNone]⟩
    rw [haudit, hnone, if_neg hid'.2]
    rfl

/-- A decision on a pending action keeps the invariant, if it adds the audit records and the
executor calls of the status it sets. -/
theorem QueueInv.decided (h : QueueInv wired run) (ha : findById id run.queue.actions = some a)
    (hpending : a.status = .pending) {f : GovernanceDeferredAction → GovernanceDeferredAction}
    {records : List AuditRecord} {calls : List GovernanceDeferredAction}
    (hf : ∀ b, (f b).id = b.id ∧ (f b).request = b.request)
    (hrecords : ∀ record ∈ records, record.subjectId = id)
    (hcalls : ∀ call ∈ calls, call.id = id)
    (htrail : (f a).status.trail = "governance-deferred" :: records.map AuditRecord.kind)
    (hrequests : calls.map GovernanceDeferredAction.request =
      List.replicate ((f a).status.calls wired) a.request) :
    QueueInv wired { run with queue := Governance.decided id f records calls run.queue } := by
  obtain ⟨hmem, rfl⟩ := (find?_key_eq_some_iff h.nodup).mp ha
  have hids : (modifyById a.id f run.queue.actions).map GovernanceDeferredAction.id =
      run.queue.actions.map GovernanceDeferredAction.id :=
    map_updateFirst (fun b _ => (hf b).1) run.queue.actions
  have htrailBefore := (h.story a hmem).trail
  have hcallsBefore := (h.story a hmem).calls
  rw [hpending] at htrailBefore hcallsBefore
  refine ⟨?_, ?_, fun b hb => ?_, fun id' hid' => ?_⟩
  · exact hids.trans h.numbered
  · refine (map_updateFirst (fun b _ => ?_) run.queue.actions).trans h.staged
    rw [GovernanceDeferredAction.identity, (hf b).1, (hf b).2, GovernanceDeferredAction.identity]
  · rcases (mem_updateFirst h.nodup hmem rfl).mp hb with rfl | ⟨hb, hne⟩
    · refine ⟨?_, ?_⟩
      · rw [auditOf_decided calls hrecords, (hf a).1, if_pos rfl, htrailBefore, htrail]
        rfl
      · rw [callsOf_decided records hcalls, (hf a).1, (hf a).2, if_pos rfl, List.map_append,
          hcallsBefore, hrequests]
        rfl
    · refine ⟨?_, ?_⟩
      · rw [auditOf_decided calls hrecords, if_neg hne, List.append_nil]
        exact (h.story b hb).trail
      · rw [callsOf_decided records hcalls, if_neg hne, List.append_nil]
        exact (h.story b hb).calls
  · have hne : id' ≠ a.id := by
      rintro rfl
      exact hid' (hids ▸ List.mem_map_of_mem hmem)
    obtain ⟨hnone, hcallsNone⟩ := h.known id' (hids ▸ hid')
    rw [auditOf_decided calls hrecords, callsOf_decided records hcalls, if_neg hne, if_neg hne,
      hnone, hcallsNone]
    exact ⟨rfl, rfl⟩

theorem QueueInv.approve (h : QueueInv wired run) (now : String) (execute : Executor)
    (id actor : String) : QueueInv wired (queueStep wired run (.approve now execute id actor)) := by
  rcases approve_cases now (injected wired execute) id actor run.queue with
    ⟨hsame, -⟩ | ⟨a, f, records, calls, ha, hpending, happroval, hrecords, hresult⟩
  · rw [queueStep, hsame]
    exact h
  · have hid : a.id = id := ((find?_key_eq_some_iff h.nodup).mp ha).2
    rw [queueStep, hresult]
    generalize hkinds : records.map AuditRecord.kind = kinds at happroval
    cases happroval with
    | unwired hex =>
      have hwired : wired = false := by
        cases wired with
        | false => rfl
        | true => cases hex
      exact h.decided ha hpending (fun b => ⟨rfl, rfl⟩) hrecords (fun call hcall => by cases hcall)
        (by rw [hkinds]; rfl) (by rw [hwired]; rfl)
    | threw hex _ =>
      have hwired : wired = true := by
        cases wired with
        | false => cases hex
        | true => rfl
      refine h.decided ha hpending (fun b => ⟨rfl, rfl⟩) hrecords (fun call hcall => ?_)
        (by rw [hkinds]; rfl) (by rw [hwired]; rfl)
      rw [List.mem_singleton.mp hcall]
      exact hid
    | @returned _ result _ _ =>
      refine h.decided ha hpending (fun b => ⟨rfl, rfl⟩) hrecords (fun call hcall => ?_) ?_ ?_
      · rw [List.mem_singleton.mp hcall]
        exact hid
      · rw [hkinds, settleAction]
        cases result.succeeded <;> rfl
      · rw [settleAction]
        cases result.succeeded <;> rfl

theorem QueueInv.reject (h : QueueInv wired run) (now id actor reason : String) :
    QueueInv wired (queueStep wired run (.reject now id actor reason)) := by
  rcases reject_cases now id actor reason run.queue with hsame | ⟨a, ha, hpending, hresult⟩
  · rw [queueStep, hsame]
    exact h
  · have hid : a.id = id := ((find?_key_eq_some_iff h.nodup).mp ha).2
    rw [queueStep, hresult]
    refine h.decided ha hpending (fun b => ⟨rfl, rfl⟩) (fun record hrecord => ?_)
      (fun call hcall => by cases hcall) rfl rfl
    rw [List.mem_singleton.mp hrecord]
    exact hid

theorem QueueInv.step (h : QueueInv wired run) (call : QueueCall) :
    QueueInv wired (queueStep wired run call) := by
  cases call with
  | stage now input => exact h.stage now input
  | approve now execute id actor => exact h.approve now execute id actor
  | reject now id actor reason => exact h.reject now id actor reason

/-- **Status, audit trail and executor calls agree** in every state of every run. -/
theorem queueInv_of_reachable (h : (queueSystem wired).Reachable run) : QueueInv wired run :=
  h.invariant queueInv_init fun _ call hrun _ => hrun.step call

/-! ## Statuses -/

/-- One move of an action's status. -/
inductive StatusStep : ActionStatus → ActionStatus → Prop
  | reject : StatusStep .pending .rejected
  | approve : StatusStep .pending .approved
  | succeed : StatusStep .approved .executed
  | fail : StatusStep .approved .executeFailed

/-- Every action is still there, for the same request, and its status has only moved on. -/
def StatusesMove (run later : QueueRun) : Prop :=
  ∀ a ∈ run.queue.actions, ∃ b ∈ later.queue.actions,
    b.identity = a.identity ∧ ReflTransGen StatusStep a.status b.status

theorem statusesMove_refl (run : QueueRun) : StatusesMove run run :=
  fun a ha => ⟨a, ha, rfl, ReflTransGen.refl⟩

theorem StatusesMove.trans {run later last : QueueRun} (h : StatusesMove run later)
    (h' : StatusesMove later last) : StatusesMove run last := by
  intro a ha
  obtain ⟨b, hb, hab, hmoves⟩ := h a ha
  obtain ⟨c, hc, hbc, hmoves'⟩ := h' b hb
  exact ⟨c, hc, hbc.trans hab, hmoves.trans hmoves'⟩

/-- **A call either decides one pending action, or leaves every action as it is.** -/
theorem QueueInv.step_cases (h : QueueInv wired run) (call : QueueCall) :
    (∀ a ∈ run.queue.actions, a ∈ (queueStep wired run call).queue.actions) ∨
    ∃ (a : GovernanceDeferredAction) (f : GovernanceDeferredAction → GovernanceDeferredAction),
      a ∈ run.queue.actions ∧ a.status = .pending ∧ (f a).identity = a.identity ∧
      ReflTransGen StatusStep .pending (f a).status ∧
      ∀ b, b ∈ (queueStep wired run call).queue.actions ↔
        b = f a ∨ (b ∈ run.queue.actions ∧ b.id ≠ a.id) := by
  have hdecided : ∀ {id a} {f : GovernanceDeferredAction → GovernanceDeferredAction} {records calls},
      findById id run.queue.actions = some a →
      ∀ b, b ∈ (Governance.decided id f records calls run.queue).actions ↔
        b = f a ∨ (b ∈ run.queue.actions ∧ b.id ≠ a.id) := fun ha b => by
    obtain ⟨hmem, rfl⟩ := (find?_key_eq_some_iff h.nodup).mp ha
    exact mem_updateFirst h.nodup hmem rfl
  cases call with
  | stage now input => exact Or.inl fun a ha => List.mem_append_left _ ha
  | approve now execute id actor =>
    rcases approve_cases now (injected wired execute) id actor run.queue with
      ⟨hsame, -⟩ | ⟨a, f, records, calls, ha, hpending, happroval, -, hresult⟩
    · exact Or.inl fun a ha => by rwa [queueStep, hsame]
    · have happrove := ReflTransGen.single StatusStep.approve
      have hf : (f a).identity = a.identity ∧ ReflTransGen StatusStep .pending (f a).status := by
        generalize records.map AuditRecord.kind = kinds at happroval
        cases happroval with
        | unwired => exact ⟨rfl, happrove⟩
        | threw => exact ⟨rfl, happrove⟩
        | @returned _ result =>
          refine ⟨rfl, ?_⟩
          rw [settleAction_status]
          cases result.succeeded with
          | true => exact happrove.tail StatusStep.succeed
          | false => exact happrove.tail StatusStep.fail
      refine Or.inr ⟨a, f, ((find?_key_eq_some_iff h.nodup).mp ha).1, hpending, hf.1, hf.2, ?_⟩
      rw [queueStep, hresult]
      exact hdecided ha
  | reject now id actor reason =>
    rcases reject_cases now id actor reason run.queue with hsame | ⟨a, ha, hpending, hresult⟩
    · exact Or.inl fun a ha => by rwa [queueStep, hsame]
    · refine Or.inr ⟨a, rejectAction now actor reason,
        ((find?_key_eq_some_iff h.nodup).mp ha).1, hpending, rfl,
        ReflTransGen.single StatusStep.reject, ?_⟩
      rw [queueStep, hresult]
      exact hdecided ha

theorem QueueInv.statusesMove_step (h : QueueInv wired run) (call : QueueCall) :
    StatusesMove run (queueStep wired run call) := by
  intro b hb
  rcases h.step_cases call with hkept | ⟨a, f, ha, hpending, hidentity, hmoves, hmem⟩
  · exact ⟨b, hkept b hb, rfl, ReflTransGen.refl⟩
  · by_cases hid : b.id = a.id
    · obtain rfl := eq_of_key_eq h.nodup hb ha hid
      exact ⟨f b, (hmem _).mpr (Or.inl rfl), hidentity, hpending ▸ hmoves⟩
    · exact ⟨b, (hmem _).mpr (Or.inr ⟨hb, hid⟩), rfl, ReflTransGen.refl⟩

/-- A decided action never changes again. -/
theorem QueueInv.mem_step_of_decided (h : QueueInv wired run) (call : QueueCall)
    (ha : a ∈ run.queue.actions) (hdecided : a.status ≠ .pending) :
    a ∈ (queueStep wired run call).queue.actions := by
  rcases h.step_cases call with hkept | ⟨b, f, hb, hpending, -, -, hmem⟩
  · exact hkept a ha
  · refine (hmem a).mpr (Or.inr ⟨ha, fun hid => hdecided ?_⟩)
    rw [eq_of_key_eq h.nodup ha hb hid, hpending]

theorem QueueInv.later (h : QueueInv wired run) (calls : List QueueCall) :
    QueueInv wired ((queueSystem wired).run run calls) :=
  TransitionSystem.run_invariant (T := queueSystem wired) (fun _ call hrun => hrun.step call) h
    calls

theorem QueueInv.statusesMove_run (h : QueueInv wired run) (calls : List QueueCall) :
    StatusesMove run ((queueSystem wired).run run calls) := by
  induction calls generalizing run with
  | nil => exact statusesMove_refl run
  | cons call calls ih => exact (h.statusesMove_step call).trans (ih (h.step call))

theorem QueueInv.mem_run_of_decided (h : QueueInv wired run) (calls : List QueueCall)
    (ha : a ∈ run.queue.actions) (hdecided : a.status ≠ .pending) :
    a ∈ ((queueSystem wired).run run calls).queue.actions := by
  induction calls generalizing run with
  | nil => exact ha
  | cons call calls ih => exact ih (h.step call) (h.mem_step_of_decided call ha hdecided)

/-! ## Exactly once -/

/-- What holds whatever the executor does. -/
structure AtMostOnce (run : QueueRun) : Prop where
  /-- Ids are pairwise distinct, and in staging order. -/
  distinct : (run.queue.actions.map GovernanceDeferredAction.id).Nodup
  ordered : run.queue.actions.map GovernanceDeferredAction.id =
    run.staged.map GovernanceDeferredAction.id
  /-- No action is executed twice. -/
  once : (run.queue.invocations.map GovernanceDeferredAction.id).Nodup
  /-- What is executed was staged so, was approved, and was not rejected. -/
  approved : ∀ call ∈ run.queue.invocations, (∃ s ∈ run.staged, call.identity = s.identity) ∧
    "governance-approved" ∈ auditOf run.queue call.id ∧
    "governance-rejected" ∉ auditOf run.queue call.id

/-- An executor call belongs to the action with its id. -/
theorem QueueInv.action_of_call (h : QueueInv wired run) {call : GovernanceDeferredAction}
    (hcall : call ∈ run.queue.invocations) :
    ∃ a ∈ run.queue.actions, a.identity = call.identity ∧
      callsOf run.queue a.id = [call] ∧ a.status ≠ .pending ∧ a.status ≠ .rejected := by
  have hof : call ∈ callsOf run.queue call.id :=
    List.mem_filter.mpr ⟨hcall, decide_eq_true rfl⟩
  have hlisted : call.id ∈ run.queue.actions.map GovernanceDeferredAction.id := by
    by_contra hnot
    rw [(h.known call.id hnot).2] at hof
    cases hof
  obtain ⟨a, ha, hid⟩ := List.mem_map.mp hlisted
  rw [← hid] at hof
  have hcalls := (h.story a ha).calls
  have hle : a.status.calls wired ≤ 1 := by
    cases a.status <;> simp [ActionStatus.calls]
    split_ifs <;> decide
  have hlength := congrArg List.length hcalls
  rw [List.length_map, List.length_replicate] at hlength
  have hpos := List.length_pos_of_mem hof
  obtain ⟨c, hc⟩ := List.length_eq_one_iff.mp (show (callsOf run.queue a.id).length = 1 by omega)
  rw [hc, List.mem_singleton] at hof
  subst hof
  rw [hc] at hlength hcalls
  have hone : a.status.calls wired = 1 := hlength.symm
  rw [hone] at hcalls
  refine ⟨a, ha, ?_, hc, ?_, ?_⟩
  · have hrequest : call.request = a.request := by simpa using hcalls
    rw [GovernanceDeferredAction.identity, GovernanceDeferredAction.identity, hid, hrequest]
  · intro hstatus
    rw [hstatus] at hone
    cases hone
  · intro hstatus
    rw [hstatus] at hone
    cases hone

theorem QueueInv.atMostOnce (h : QueueInv wired run) : AtMostOnce run := by
  have hmap : ∀ l : List GovernanceDeferredAction, l.map GovernanceDeferredAction.id =
      (l.map GovernanceDeferredAction.identity).map Prod.fst := fun l => by
    rw [List.map_map]
    rfl
  refine ⟨h.nodup, by rw [hmap, h.staged, ← hmap], ?_, fun call hcall => ?_⟩
  · refine List.nodup_iff_count_le_one.mpr fun id => ?_
    have hcount : (run.queue.invocations.map GovernanceDeferredAction.id).count id =
        (callsOf run.queue id).length := by
      rw [List.count, List.countP_map, List.countP_eq_length_filter]
      rfl
    rw [hcount]
    by_contra hmany
    obtain ⟨call, hcall⟩ := List.exists_mem_of_length_pos (l := callsOf run.queue id) (by omega)
    obtain ⟨hcall, hid⟩ := List.mem_filter.mp hcall
    obtain ⟨a, -, hidentity, hone, -⟩ := h.action_of_call hcall
    have haid : a.id = id := (congrArg Prod.fst hidentity).trans (of_decide_eq_true hid)
    rw [← haid, hone] at hmany
    exact hmany le_rfl
  · obtain ⟨a, ha, hidentity, -, hpending, hrejected⟩ := h.action_of_call hcall
    refine ⟨?_, ?_⟩
    · have hmem : call.identity ∈ run.queue.actions.map GovernanceDeferredAction.identity :=
        List.mem_map.mpr ⟨a, ha, hidentity⟩
      rw [h.staged, List.mem_map] at hmem
      obtain ⟨s, hs, heq⟩ := hmem
      exact ⟨s, hs, heq.symm⟩
    · have hid : a.id = call.id := congrArg Prod.fst hidentity
      rw [← hid, (h.story a ha).trail]
      cases hstatus : a.status with
      | pending => exact absurd hstatus hpending
      | rejected => exact absurd hstatus hrejected
      | approved => decide
      | executed => decide
      | executeFailed => decide

/-- The executor of this call returns, if `approve` hands it an action. -/
def ExecutorReturns (wired : Bool) (run : QueueRun) : QueueCall → Prop
  | .approve now execute id actor =>
    wired = true → ∀ a, findById id run.queue.actions = some a → a.status = .pending →
      ∃ result, execute (claimAction now actor a) = .returned result
  | _ => True

/-- A call whose executor returns leaves no action at `approved`. -/
theorem QueueInv.settled_step (h : QueueInv true run)
    (hsettled : ∀ a ∈ run.queue.actions, a.status ≠ .approved) {call : QueueCall}
    (hreturns : ExecutorReturns true run call) :
    ∀ a ∈ (queueStep true run call).queue.actions, a.status ≠ .approved := by
  have hdecided : ∀ {id a} {f : GovernanceDeferredAction → GovernanceDeferredAction} {records calls},
      findById id run.queue.actions = some a → (f a).status ≠ .approved →
      ∀ b ∈ (Governance.decided id f records calls run.queue).actions, b.status ≠ .approved := by
    intro id a f records calls ha hfa b hb
    obtain ⟨hmem, rfl⟩ := (find?_key_eq_some_iff h.nodup).mp ha
    rcases (mem_updateFirst h.nodup hmem rfl).mp hb with rfl | ⟨hb, -⟩
    · exact hfa
    · exact hsettled b hb
  cases call with
  | stage now input =>
    intro a ha
    rcases List.mem_append.mp ha with ha | ha
    · exact hsettled a ha
    · rw [List.mem_singleton.mp ha]
      exact fun hstatus => by cases hstatus
  | approve now execute id actor =>
    rcases approve_cases now (injected true execute) id actor run.queue with
      ⟨hsame, -⟩ | ⟨a, f, records, calls, ha, hpending, happroval, -, hresult⟩
    · rw [queueStep, hsame]
      exact hsettled
    · rw [queueStep, hresult]
      refine hdecided ha ?_
      obtain ⟨result, hexecute⟩ := hreturns rfl a ha hpending
      generalize records.map AuditRecord.kind = kinds at happroval
      cases happroval with
      | unwired hex => cases hex
      | threw hex hthrew =>
        obtain rfl := Option.some.inj hex
        rw [hexecute] at hthrew
        cases hthrew
      | @returned _ result _ _ =>
        rw [settleAction_status]
        cases result.succeeded <;> exact fun hstatus => by cases hstatus
  | reject now id actor reason =>
    rcases reject_cases now id actor reason run.queue with hsame | ⟨a, ha, hpending, hresult⟩
    · rw [queueStep, hsame]
      exact hsettled
    · rw [queueStep, hresult]
      exact hdecided ha fun hstatus => by cases hstatus

/-- A call whose executor throws leaves its action at `approved`. -/
theorem QueueInv.approved_of_threw (h : QueueInv wired run) {call : QueueCall}
    (hthrows : ¬ ExecutorReturns wired run call) :
    ∃ a ∈ (queueStep wired run call).queue.actions, a.status = .approved := by
  cases call with
  | stage now input => exact absurd trivial hthrows
  | reject now id actor reason => exact absurd trivial hthrows
  | approve now execute id actor =>
    simp only [ExecutorReturns, not_forall] at hthrows
    obtain ⟨rfl, a, ha, hpending, hnot⟩ := hthrows
    rcases approve_cases now (injected true execute) id actor run.queue with
      ⟨-, hnone⟩ | ⟨b, f, records, calls, hb, -, happroval, -, hresult⟩
    · exact absurd hpending (hnone a ha)
    · rw [ha] at hb
      obtain rfl := Option.some.inj hb
      obtain ⟨hmem, rfl⟩ := (find?_key_eq_some_iff h.nodup).mp ha
      rw [queueStep, hresult]
      refine ⟨f a, (mem_updateFirst h.nodup hmem rfl).mpr (Or.inl rfl), ?_⟩
      generalize records.map AuditRecord.kind = kinds at happroval
      cases happroval with
      | unwired => rfl
      | threw => rfl
      | returned hex hreturned =>
        obtain rfl := Option.some.inj hex
        exact absurd ⟨_, hreturned⟩ hnot

/-- **The queue executes exactly once.**  Whatever the executor does, an approved action is
handed to it at most once and statuses only move on.  With an executor wired, no action is
left at `approved` as long as every executor call returns; one that leaves by an exception
leaves its action there for good. -/
theorem approvalQueue_exactlyOnce (h : (queueSystem wired).Reachable run) :
    AtMostOnce run ∧
    (∀ calls, StatusesMove run ((queueSystem wired).run run calls)) ∧
    ((queueSystem wired).ReachableBy (ExecutorReturns wired) run → wired = true →
      ∀ a ∈ run.queue.actions, a.status ≠ .approved) ∧
    ∀ call, ¬ ExecutorReturns wired run call → ∀ calls,
      ∃ a ∈ ((queueSystem wired).run run (call :: calls)).queue.actions,
        a.status = .approved := by
  have hinv := queueInv_of_reachable h
  refine ⟨hinv.atMostOnce, hinv.statusesMove_run, ?_, fun call hthrows calls => ?_⟩
  · rintro hreturns rfl
    refine (hreturns.invariant
      (I := fun s => QueueInv true s ∧ ∀ a ∈ s.queue.actions, a.status ≠ .approved)
      ⟨queueInv_init, fun a ha => (by cases ha)⟩ fun s call hs hcall => ?_).2
    exact ⟨hs.1.step call, hs.1.settled_step hs.2 hcall⟩
  · obtain ⟨a, ha, hstatus⟩ := hinv.approved_of_threw hthrows
    refine ⟨a, (hinv.step call).mem_run_of_decided calls ha ?_, hstatus⟩
    rw [hstatus]
    exact fun heq => by cases heq

/-! ### One staged action -/

/-- An action is staged and approved; the executor behaves as given. -/
def oneApproval (execute : Executor) : List QueueCall :=
  [.stage "t0" { action := .governancePolicyChange, actor := "ops", payload := "doctrine" },
    .approve "t1" execute (deferredIdOf 1) "admin"]

theorem approvalQueue_exactlyOnce_oneApproval :
    AtMostOnce ((queueSystem true).run {} (oneApproval fun _ => .returned ⟨true, false, ""⟩)) ∧
    ∀ a ∈ ((queueSystem true).run {}
        (oneApproval fun _ => .returned ⟨true, false, ""⟩)).queue.actions,
      a.status ≠ .approved := by
  have hreach : (queueSystem true).Reachable
      ((queueSystem true).run {} (oneApproval fun _ => .returned ⟨true, false, ""⟩)) :=
    TransitionSystem.Reachable.run TransitionSystem.ReachableBy.init _
  have h := approvalQueue_exactlyOnce hreach
  refine ⟨h.1, h.2.2.1 ?_ rfl⟩
  refine TransitionSystem.ReachableBy.run TransitionSystem.ReachableBy.init _ ⟨trivial, ?_, trivial⟩
  exact fun _ a _ _ => ⟨_, rfl⟩

theorem approved_without_outcome :
    ¬ ∀ (run : QueueRun), (queueSystem true).Reachable run →
      ∀ a ∈ run.queue.actions, a.status ≠ .approved := by
  intro h
  have hrun := h ((queueSystem true).run {} (oneApproval fun _ => .threw "bad_alloc"))
    (TransitionSystem.Reachable.run TransitionSystem.ReachableBy.init _)
  exact absurd rfl (hrun _ List.mem_cons_self)

end Governance
end MasterControl
