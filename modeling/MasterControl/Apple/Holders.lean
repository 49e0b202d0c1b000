import MasterControl.Apple.Operations
import MasterControl.Foundation.Custody
import MasterControl.Foundation.KeyedList

/-!
# Who holds an Apple operation

An operation is held by at most one party at a time: the thread that accepted it, the queue, or
the worker.  The holder's copy of the record agrees with what was published last, and what is
held by nobody is not executed any more.  `Service.Inv` says so, and every step of an orderly run
keeps it.

A cancellation is the one step that acts on an operation from outside.  It takes a waiting
operation out of the queue, and turns down one that the worker has.  But it also accepts an
operation that is published and in nobody's list: one that is on its way into the queue, and
one of a synchronous tool.  `Orderly` leaves these cancellations out.
-/

namespace MasterControl
namespace Apple

open Foundation

/-! ## Orderly steps -/

/-- An operation that is published, and in nobody's list: on its way into the queue, or executed
by the thread that accepted it and not marked as running yet. -/
def Unlisted (s : Service) (id : OperationId) : Prop :=
  ∃ thread record, record.operationId = id ∧
    (s.thread (thread + 1) = .published record ∨ s.thread (thread + 1) = .taken record)

/-- The history file can be written. -/
def OperationStep.Written : OperationStep → Prop
  | .publish _ written | .markRunning _ _ _ written | .giveUp _ _ _ written
  | .complete _ _ _ written | .markCanceled _ _ written | .restart _ written => written = true
  | _ => True

/-- A cancellation is for an operation in somebody's list, the file can be written, and after a
restart the clock does not show a time from before it. -/
def Orderly (s : Service) (a : OperationStep) : Prop :=
  a.Written ∧
    match a with
    | .cancel _ id => ¬ Unlisted s id
    | .accept _ _ _ _ stamp => s.bootStamp < stamp
    | _ => True

/-! ## Holders -/

/-- The operation a thread holds. -/
def Thread.holds : Thread → Option OperationId
  | numbered record _ | published record | taken record | executing record =>
    some record.operationId
  | _ => none

/-- The operation a thread is about to mark as canceled. -/
def Thread.drops : Thread → Option OperationId
  | refused record | canceling record => some record.operationId
  | _ => none

/-- A thread that drops an operation holds none. -/
theorem Thread.holds_of_drops {x : Thread} {id : OperationId} (h : x.drops = some id) :
    x.holds = none := by
  cases x with
  | refused | canceling => rfl
  | _ => cases h

/-- The worker executes, or waits. -/
def Thread.isWorker : Thread → Prop
  | idle | taken _ | executing _ | finished _ => True
  | _ => False

/-- The history is what was published, and it is in its file. -/
structure HistoryOk (status : OperationId → Option AppleOperationStatus)
    (recentAppleOperations file : List AppleOperationRecord) : Prop where
  reported : ∀ r ∈ recentAppleOperations, status r.operationId = some r.status
  ids : (recentAppleOperations.map AppleOperationRecord.operationId).Nodup
  length : recentAppleOperations.length ≤ 30
  file : file = recentAppleOperations

namespace Service

variable (s : Service)

/-- The threads and the queue hold the operations. -/
def custody : Custody ℕ OperationId where
  agent thread := (s.thread thread).holds
  queue := s.appleQueue.map AppleOperationRecord.operationId

/-- The id was given out before. -/
def Issued (id : OperationId) : Prop :=
  id.stamp ≤ s.lastStamp ∧ (id.stamp ≤ s.bootStamp ∨ id.counter < s.counter)

/-- The copy of a thread agrees with what is published. -/
def ThreadOk : Thread → Prop
  | .idle | .finished _ => True
  | .numbered record _ =>
    record.status = .queued ∧ s.status record.operationId = none ∧ s.Issued record.operationId
  | .published record =>
    record.status = .queued ∧ s.status record.operationId = some .queued ∧
      record.operationId ∉ s.executed
  | .taken record => record.status = .queued ∧ s.status record.operationId = some .queued
  | .executing record => record.status = .running ∧ s.status record.operationId = some .running
  | .refused record | .canceling record =>
    s.status record.operationId = some .queued ∨ s.status record.operationId = some .canceled

/-- **Every operation has one holder**, whose copy is right. -/
structure Inv : Prop where
  exclusive : s.custody.Exclusive
  threads : ∀ u, s.ThreadOk (s.thread u)
  /-- What waits is as if it were not in the queue yet. -/
  queue : ∀ r ∈ s.appleQueue, s.ThreadOk (.published r)
  dropped : ∀ u id, (s.thread u).drops = some id → ¬ s.custody.Held id
  canceled : ∀ id ∈ s.canceled, s.status id = some .canceled ∧ ¬ s.custody.Held id
  history : HistoryOk s.status s.recentAppleOperations s.file
  executed_nodup : s.executed.Nodup
  executed : ∀ id ∈ s.executed, s.status id ≠ none
  worker : (s.thread 0).isWorker
  running : ∀ id, (s.thread 0).holds = some id → s.runningAppleOperationId = some id
  issued : ∀ id, s.status id ≠ none → s.Issued id

end Service

/-! ## The history -/

section History

variable {record r : AppleOperationRecord} {history : List AppleOperationRecord}

theorem nodup_publish (hids : (history.map AppleOperationRecord.operationId).Nodup) :
    ((publish record history).map AppleOperationRecord.operationId).Nodup := by
  refine List.Nodup.sublist ((List.take_sublist 30 _).map _) ?_
  rw [List.map_cons]
  refine List.nodup_cons.mpr ⟨key_notMem_eraseP hids record.operationId, ?_⟩
  exact hids.sublist (List.eraseP_sublist.map _)

/-- What is published is the record, and others from before. -/
theorem mem_publish (hids : (history.map AppleOperationRecord.operationId).Nodup)
    (h : r ∈ publish record history) :
    r = record ∨ r ∈ history ∧ r.operationId ≠ record.operationId := by
  rcases List.mem_cons.mp (List.mem_of_mem_take h) with h | h
  · exact Or.inl h
  · refine Or.inr ⟨List.mem_of_mem_eraseP h, fun hid => ?_⟩
    have hmap := List.mem_map_of_mem (f := AppleOperationRecord.operationId) h
    exact key_notMem_eraseP hids record.operationId (hid ▸ hmap)

theorem length_publish : (publish record history).length ≤ 30 := List.length_take_le 30 _

theorem HistoryOk.publish {status : OperationId → Option AppleOperationStatus}
    {file : List AppleOperationRecord} (h : HistoryOk status history file)
    (record : AppleOperationRecord) :
    HistoryOk (Function.update status record.operationId (some record.status))
      (publish record history) (publish record history) where
  reported r hr := by
    rcases mem_publish h.ids hr with rfl | ⟨hmem, hne⟩
    · exact Function.update_self ..
    · exact (Function.update_of_ne hne ..).trans (h.reported r hmem)
  ids := nodup_publish h.ids
  length := length_publish
  file := rfl

end History

namespace Service

variable {s t : Service} {u : ℕ} {x : Thread} {id : OperationId} {r record : AppleOperationRecord}

/-! ## What a thread knows -/

/-- What a thread holds is published, or its id was given out. -/
theorem Inv.issued_of_held (h : s.Inv) (hid : s.custody.Held id) : s.Issued id := by
  rcases hid with ⟨u, hu⟩ | hq
  · have hok := h.threads u
    change (s.thread u).holds = some id at hu
    cases hx : s.thread u with
    | idle | finished | refused | canceling => rw [hx] at hu; cases hu
    | numbered r queued =>
      rw [hx] at hu hok
      cases hu
      exact hok.2.2
    | published r | taken r | executing r =>
      rw [hx] at hu hok
      cases hu
      refine h.issued _ ?_
      first | rw [hok.2.1] | rw [hok.2]
      exact Option.some_ne_none _
  · obtain ⟨r, hr, rfl⟩ := List.mem_map.mp hq
    refine h.issued _ ?_
    rw [(h.queue r hr).2.1]
    exact Option.some_ne_none _

/-- So is what a thread drops. -/
theorem Inv.issued_of_drops (h : s.Inv) (hu : (s.thread u).drops = some id) : s.Issued id := by
  have hok := h.threads u
  cases hx : s.thread u with
  | refused r | canceling r =>
    rw [hx] at hu hok
    cases hu
    refine h.issued _ ?_
    rcases hok with hok | hok
    · rw [hok]
      exact Option.some_ne_none _
    · rw [hok]
      exact Option.some_ne_none _
  | _ =>
    rw [hx] at hu
    cases hu

/-- A thread sees its own operation only. -/
theorem ThreadOk.frame (h : s.ThreadOk x) (hissued : ∀ id, s.Issued id → t.Issued id)
    (hstatus : ∀ id, x.holds = some id ∨ x.drops = some id → t.status id = s.status id)
    (hexecuted : ∀ id, x.holds = some id → id ∈ t.executed → id ∈ s.executed) :
    t.ThreadOk x := by
  cases x with
  | idle | finished => trivial
  | numbered r queued =>
    exact ⟨h.1, (hstatus _ (Or.inl rfl)).trans h.2.1, hissued _ h.2.2⟩
  | published r =>
    exact ⟨h.1, (hstatus _ (Or.inl rfl)).trans h.2.1, fun he => h.2.2 (hexecuted _ rfl he)⟩
  | taken r | executing r => exact ⟨h.1, (hstatus _ (Or.inl rfl)).trans h.2⟩
  | refused r | canceling r =>
    have hst := hstatus r.operationId (Or.inr rfl)
    exact h.imp hst.trans hst.trans

/-! ## One thread goes on -/

theorem thread_put (v : ℕ) : (s.put u x).thread v = if v = u then x else s.thread v :=
  Function.update_apply s.thread u x v

theorem custody_put : (s.put u x).custody = s.custody.give u x.holds :=
  congrArg (Custody.mk · (s.appleQueue.map AppleOperationRecord.operationId))
    (Function.comp_update Thread.holds s.thread u x)

/-- A thread keeps what it holds or lays it down. -/
theorem Inv.put (h : s.Inv) (hx : x.holds = none ∨ x.holds = (s.thread u).holds)
    (hok : s.ThreadOk x) (hdrops : ∀ id, x.drops = some id → ¬ (s.put u x).custody.Held id)
    (hworker : u = 0 → x.isWorker) : (s.put u x).Inv :=
  have hheld : ∀ id, (s.put u x).custody.Held id → s.custody.Held id := fun id hid =>
    Custody.Held.of_give_le hx (custody_put ▸ hid)
  { h with
    exclusive := by
      rw [custody_put]
      exact h.exclusive.give_le hx
    threads := fun v => by
      rw [thread_put]
      split
      · exact hok
      · exact h.threads v
    dropped := fun v id hv => by
      rw [thread_put] at hv
      split at hv
      · exact hdrops id hv
      · exact fun hid => h.dropped v id hv (hheld id hid)
    canceled := fun id hid => ⟨(h.canceled id hid).1, fun hh => (h.canceled id hid).2 (hheld id hh)⟩
    worker := by
      rw [thread_put]
      split
      · next h0 => exact hworker h0.symm
      · exact h.worker
    running := fun id h0 => by
      rw [thread_put] at h0
      split at h0
      · next hu =>
        rcases hx with hx | hx
        · rw [hx] at h0
          cases h0
        · exact h.running id (hu ▸ hx ▸ h0)
      · exact h.running id h0 }

/-- A thread gets an operation that nobody holds. -/
theorem Inv.take (h : s.Inv) (hx : x.holds = some id) (hheld : ¬ s.custody.Held id)
    (hdrops : ∀ v, (s.thread v).drops ≠ some id) (hcanceled : id ∉ s.canceled)
    (hok : s.ThreadOk x)
    (hworker : u = 0 → x.isWorker ∧ s.runningAppleOperationId = some id) : (s.put u x).Inv :=
  have hmem : ∀ id', (s.put u x).custody.Held id' → id' = id ∨ s.custody.Held id' :=
    fun id' hid' => by
      rw [custody_put, hx] at hid'
      exact hid'.of_give.imp (fun he => (Option.some.inj he).symm) fun hh => hh
  { h with
    exclusive := by
      rw [custody_put, hx]
      exact h.exclusive.give_some u hheld
    threads := fun v => by
      rw [thread_put]
      split
      · exact hok
      · exact h.threads v
    dropped := fun v id' hv hid' => by
      rw [thread_put] at hv
      split at hv
      · rw [Thread.holds_of_drops hv] at hx
        cases hx
      · rcases hmem id' hid' with rfl | hh
        · exact hdrops v hv
        · exact h.dropped v id' hv hh
    canceled := fun id' hid' => ⟨(h.canceled id' hid').1, fun hh => by
      rcases hmem id' hh with rfl | hh
      · exact hcanceled hid'
      · exact (h.canceled id' hid').2 hh⟩
    worker := by
      rw [thread_put]
      split
      · next h0 => exact (hworker h0.symm).1
      · exact h.worker
    running := fun id' h0 => by
      rw [thread_put] at h0
      split at h0
      · next hu =>
        rw [hx] at h0
        cases h0
        exact (hworker hu.symm).2
      · exact h.running id' h0 }

/-! ## A record is published -/

/-- A record is published while nobody holds its operation.  Somebody may be about to cancel it
if it is canceled already. -/
theorem Inv.persist (h : s.Inv) (hheld : ¬ s.custody.Held r.operationId)
    (hissued : s.Issued r.operationId)
    (hfree : r.status = .canceled ∨
      (∀ v, (s.thread v).drops ≠ some r.operationId) ∧ r.operationId ∉ s.canceled) :
    (s.persist true r).Inv :=
  have hstatus : ∀ id, id ≠ r.operationId → (s.persist true r).status id = s.status id :=
    fun _ hne => Function.update_of_ne hne ..
  have hself : (s.persist true r).status r.operationId = some r.status := Function.update_self ..
  { h with
    threads := fun v => by
      by_cases hd : (s.thread v).drops = some r.operationId
      · have hcanceled : r.status = .canceled := hfree.resolve_right fun hf => hf.1 v hd
        rw [hcanceled] at hself
        change (s.persist true r).ThreadOk (s.thread v)
        cases hx : s.thread v with
        | refused r' | canceling r' =>
          rw [hx] at hd
          exact Or.inr (Option.some.inj hd ▸ hself)
        | _ =>
          rw [hx] at hd
          cases hd
      · refine (h.threads v).frame (fun _ hi => hi) ?_ fun _ _ he => he
        rintro id (hv | hv)
        · exact hstatus id fun he => hheld (he ▸ Custody.held_of_agent hv)
        · exact hstatus id fun he => hd (he ▸ hv)
    queue := fun r' hr' => by
      refine (h.queue r' hr').frame (fun _ hi => hi) ?_ fun _ _ he => he
      rintro id (hv | hv)
      · cases hv
        exact hstatus _ fun he => hheld (he ▸ Or.inr (List.mem_map_of_mem hr'))
      · cases hv
    canceled := fun id hid => by
      refine ⟨?_, (h.canceled id hid).2⟩
      by_cases he : id = r.operationId
      · subst he
        rw [hself, hfree.resolve_right fun hf => hf.2 hid]
      · rw [hstatus id he]
        exact (h.canceled id hid).1
    history := h.history.publish r
    executed := fun id hid => by
      by_cases he : id = r.operationId
      · rw [he, hself]
        exact Option.some_ne_none _
      · rw [hstatus id he]
        exact h.executed id hid
    issued := fun id hid => by
      by_cases he : id = r.operationId
      · exact he ▸ hissued
      · rw [hstatus id he] at hid
        exact h.issued id hid }

/-- What a thread holds, no thread is about to cancel. -/
theorem Inv.not_dropped (h : s.Inv) (hid : s.custody.Held id) (v : ℕ) :
    (s.thread v).drops ≠ some id := fun hv => h.dropped v id hv hid

/-- What a thread holds was not canceled. -/
theorem Inv.not_canceled (h : s.Inv) (hid : s.custody.Held id) : id ∉ s.canceled :=
  fun hc => (h.canceled id hc).2 hid

theorem put_put (x y : Thread) : ((s.put u y).persist true r).put u x =
    (s.persist true r).put u x := by
  unfold Service.put Service.persist
  rw [Function.update_idem]

/-- A thread lays an operation down. -/
theorem Inv.lay_down (h : s.Inv) (hu : (s.thread u).holds = some id) :
    (s.put u (.finished id)).Inv ∧ ¬ (s.put u (.finished id)).custody.Held id := by
  constructor
  · exact h.put (Or.inl rfl) trivial (fun _ hd => by cases hd) fun _ => trivial
  · rw [custody_put]
    exact h.exclusive.not_held_give_none hu

/-- The holder of an operation publishes its record. -/
theorem Inv.persist_held (h : s.Inv) (hu : (s.thread u).holds = some r.operationId)
    (hx : x.holds = none ∨ x.holds = some r.operationId) (hd : x.drops = none)
    (hok : (s.persist true r).ThreadOk x) (hworker : u = 0 → x.isWorker) :
    ((s.persist true r).put u x).Inv := by
  have hheld : s.custody.Held r.operationId := Custody.held_of_agent hu
  have hdrops : ∀ v, ((s.put u (.finished r.operationId)).thread v).drops ≠
      some r.operationId := fun v => by
    rw [thread_put]
    split
    · exact fun he => by cases he
    · exact h.not_dropped hheld v
  obtain ⟨h1, hfree⟩ := h.lay_down hu
  have h2 := h1.persist hfree (h.issued_of_held hheld)
    (Or.inr ⟨hdrops, h.not_canceled hheld⟩)
  rw [← put_put x (.finished r.operationId)]
  rcases hx with hx | hx
  · exact h2.put (Or.inl hx) hok (fun id hid => by rw [hd] at hid; cases hid) hworker
  · exact h2.take hx hfree hdrops (h.not_canceled hheld) hok fun h0 =>
      ⟨hworker h0, h.running _ (h0 ▸ hu)⟩

/-! ## The queue and the rest -/

theorem Inv.push (h : s.Inv) (hheld : ¬ s.custody.Held r.operationId)
    (hdrops : ∀ v, (s.thread v).drops ≠ some r.operationId)
    (hcanceled : r.operationId ∉ s.canceled) (hok : s.ThreadOk (.published r)) :
    Inv { s with appleQueue := s.appleQueue ++ [r] } :=
  have hcustody : custody { s with appleQueue := s.appleQueue ++ [r] } =
      { s.custody with queue := s.custody.queue ++ [r.operationId] } := by
    unfold custody
    rw [List.map_append, List.map_singleton]
  have hmem : ∀ id, Custody.Held (custody { s with appleQueue := s.appleQueue ++ [r] }) id →
      s.custody.Held id ∨ id = r.operationId := fun id hid => by
    rw [hcustody] at hid
    rcases hid with hid | hid
    · exact Or.inl (Or.inl hid)
    · exact (List.mem_append.mp hid).imp Or.inr List.mem_singleton.mp
  { h with
    exclusive := hcustody ▸ h.exclusive.push hheld
    queue := fun r' hr' => by
      rcases List.mem_append.mp hr' with hr' | hr'
      · exact h.queue r' hr'
      · exact List.mem_singleton.mp hr' ▸ hok
    dropped := fun v id hv hid => by
      rcases hmem id hid with hid | rfl
      · exact h.dropped v id hv hid
      · exact hdrops v hv
    canceled := fun id hid => ⟨(h.canceled id hid).1, fun hh => by
      rcases hmem id hh with hh | rfl
      · exact (h.canceled id hid).2 hh
      · exact hcanceled hid⟩ }

theorem Inv.unqueue {q : List AppleOperationRecord} (h : s.Inv) (hq : q.Sublist s.appleQueue) :
    Inv { s with appleQueue := q } :=
  have hmap := hq.map AppleOperationRecord.operationId
  { h with
    exclusive := h.exclusive.unqueue hmap
    queue := fun r hr => h.queue r (hq.subset hr)
    dropped := fun v id hv hid => h.dropped v id hv (hid.of_unqueue hmap)
    canceled := fun id hid =>
      ⟨(h.canceled id hid).1, fun hh => (h.canceled id hid).2 (hh.of_unqueue hmap)⟩ }

/-- The execution of an operation begins. -/
theorem Inv.begin (h : s.Inv) (hu : s.thread u = .taken r) (hr : r.operationId ∉ s.executed) :
    Inv { s with executed := s.executed ++ [r.operationId] } :=
  have hholds : (s.thread u).holds = some r.operationId := by rw [hu]; rfl
  have hok : s.ThreadOk (.taken r) := hu ▸ h.threads u
  { h with
    threads := fun v => by
      by_cases hvu : v = u
      · rw [hvu, hu]
        exact hok
      · refine (h.threads v).frame (fun _ hi => hi) (fun _ _ => rfl) fun id hv he => ?_
        refine (List.mem_append.mp he).resolve_right fun hs => ?_
        exact hvu (h.exclusive.unique v u _ hv (List.mem_singleton.mp hs ▸ hholds))
    queue := fun r' hr' => by
      refine (h.queue r' hr').frame (fun _ hi => hi) (fun _ _ => rfl) fun id hv he => ?_
      cases hv
      refine (List.mem_append.mp he).resolve_right fun hs => ?_
      refine h.exclusive.apart u _ hholds ?_
      exact List.mem_singleton.mp hs ▸ List.mem_map_of_mem hr'
    executed_nodup := List.nodup_append.mpr ⟨h.executed_nodup, List.nodup_singleton _, by
      intro id hid id' hid' he
      exact hr (List.mem_singleton.mp hid' ▸ he ▸ hid)⟩
    executed := fun id hid => by
      rcases List.mem_append.mp hid with hid | hid
      · exact h.executed id hid
      · rw [List.mem_singleton.mp hid]
        change s.status r.operationId ≠ none
        rw [hok.2]
        exact Option.some_ne_none _ }

theorem Inv.setRunning {o : Option OperationId} (h : s.Inv)
    (h0 : ∀ id, (s.thread 0).holds = some id → o = some id) :
    Inv { s with runningAppleOperationId := o } :=
  { h with running := h0 }

theorem Inv.count {c l : ℕ} (h : s.Inv) (hc : s.counter ≤ c) (hl : s.lastStamp ≤ l) :
    Inv { s with counter := c, lastStamp := l } :=
  have hissued : ∀ id, s.Issued id → Issued { s with counter := c, lastStamp := l } id :=
    fun _ hi => ⟨hi.1.trans hl, hi.2.imp_right fun hlt => hlt.trans_le hc⟩
  { h with
    threads := fun v => (h.threads v).frame hissued (fun _ _ => rfl) fun _ _ he => he
    queue := fun r hr => (h.queue r hr).frame hissued (fun _ _ => rfl) fun _ _ he => he
    issued := fun id hid => hissued id (h.issued id hid) }

/-- A cancellation is reported. -/
theorem Inv.report (h : s.Inv) (hstatus : s.status id = some .canceled)
    (hheld : ¬ s.custody.Held id) : Inv { s with canceled := s.canceled ++ [id] } :=
  { h with
    canceled := fun id' hid' => by
      rcases List.mem_append.mp hid' with hid' | hid'
      · exact h.canceled id' hid'
      · rw [List.mem_singleton.mp hid']
        exact ⟨hstatus, hheld⟩ }

/-! ## The steps keep the invariant -/

theorem Inv.of_accept (h : s.Inv) {stamp : ℕ} (hstamp : s.bootStamp < stamp) (thread : ℕ)
    (queued : Bool) (displayName nowUtc : Bytes) :
    (s.accept thread queued displayName nowUtc stamp).Inv := by
  unfold accept
  split
  · exact h
  · next n hx =>
    have hnew : ¬ s.Issued ⟨stamp, s.counter⟩ := by
      rintro ⟨-, hboot | hcounter⟩
      · exact absurd hboot (not_le_of_gt hstamp)
      · exact lt_irrefl _ hcounter
    have hcount := h.count (Nat.le_succ s.counter) (le_max_left s.lastStamp stamp)
    refine hcount.take rfl ?_ ?_ ?_ ⟨rfl, ?_, ?_⟩ fun h0 => absurd h0 (Nat.succ_ne_zero n)
    · exact fun hheld => hnew (h.issued_of_held hheld)
    · exact fun v hv => hnew (h.issued_of_drops hv)
    · intro hc
      have hstatus : s.status ⟨stamp, s.counter⟩ = some .canceled := (h.canceled _ hc).1
      exact hnew (h.issued _ fun hnone => by rw [hstatus] at hnone; cases hnone)
    · by_contra hne
      exact hnew (h.issued _ hne)
    · exact ⟨le_max_right s.lastStamp stamp, Or.inr (Nat.lt_succ_self _)⟩
  · exact h

theorem Inv.ne_zero (h : s.Inv) (hx : ¬ (s.thread u).isWorker) : u ≠ 0 :=
  fun h0 => hx (h0 ▸ h.worker)

theorem Inv.of_publish (h : s.Inv) (thread : ℕ) : (s.publishNumbered thread true).Inv := by
  unfold publishNumbered
  split
  · next record hx =>
    obtain ⟨hstatus, hnone, -⟩ : s.ThreadOk (.numbered record true) := hx ▸ h.threads thread
    have h0 : thread ≠ 0 := h.ne_zero (hx ▸ id)
    refine h.persist_held (by rw [hx]; rfl) (Or.inr rfl) rfl ⟨hstatus, ?_, ?_⟩ (absurd · h0)
    · rw [← hstatus]
      exact Function.update_self ..
    · exact fun he => h.executed _ he hnone
  · next record hx =>
    obtain ⟨hstatus, hnone, -⟩ : s.ThreadOk (.numbered record false) := hx ▸ h.threads thread
    have h0 : thread ≠ 0 := h.ne_zero (hx ▸ id)
    have htaken : ((s.persist true record).put thread (.taken record)).Inv := by
      refine h.persist_held (by rw [hx]; rfl) (Or.inr rfl) rfl ⟨hstatus, ?_⟩ (absurd · h0)
      rw [← hstatus]
      exact Function.update_self ..
    refine htaken.begin (Function.update_self ..) ?_
    exact fun he => h.executed _ he hnone
  · exact h

/-- A thread is idle again. -/
theorem Inv.put_idle (h : s.Inv) (thread : ℕ) : (s.put thread .idle).Inv :=
  h.put (Or.inl rfl) trivial (fun _ hid => by cases hid) fun _ => trivial

theorem Inv.of_enqueue (h : s.Inv) (thread : ℕ) : (s.enqueue thread).Inv := by
  unfold enqueue
  split
  · next record hx =>
    have hok : s.ThreadOk (.published record) := hx ▸ h.threads thread
    have hholds : (s.thread thread).holds = some record.operationId := by rw [hx]; rfl
    have h0 : thread ≠ 0 := h.ne_zero (hx ▸ id)
    have hfree := h.exclusive.not_held_give_none hholds
    have hheld : s.custody.Held record.operationId := Custody.held_of_agent hholds
    split
    · refine h.put (Or.inl rfl) (Or.inl hok.2.1) (fun id hid => ?_) (absurd · h0)
      cases hid
      rw [custody_put]
      exact hfree
    · refine (h.put_idle thread).push ?_ (fun v => ?_) (h.not_canceled hheld) hok
      · rw [custody_put]
        exact hfree
      · rw [thread_put]
        split
        · exact fun hid => by cases hid
        · exact h.not_dropped hheld v
  · exact h

theorem Inv.of_pop (h : s.Inv) : s.pop.Inv := by
  unfold pop
  split
  · next record rest hx hq =>
    have hmem : record ∈ s.appleQueue := by rw [hq]; exact List.mem_cons_self
    have hok := h.queue record hmem
    have hheld : s.custody.Held record.operationId := Or.inr (List.mem_map_of_mem hmem)
    have hnodup : (s.appleQueue.map AppleOperationRecord.operationId).Nodup := h.exclusive.nodup
    rw [hq, List.map_cons, List.nodup_cons] at hnodup
    have hrest : rest.Sublist s.appleQueue := by rw [hq]; exact List.sublist_cons_self _ _
    have hidle : ∀ id, (s.thread 0).holds = some id → some record.operationId = some id :=
      fun id hid => by rw [hx] at hid; cases hid
    have hqueue := (h.unqueue hrest).setRunning hidle
    have htaken := hqueue.take (u := 0) (x := .taken record) rfl
      (h.exclusive.not_held_unqueue (List.mem_map_of_mem hmem) hnodup.1)
      (h.not_dropped hheld) (h.not_canceled hheld) ⟨hok.1, hok.2.1⟩ fun _ => ⟨trivial, rfl⟩
    exact htaken.begin (Function.update_self ..) hok.2.2
  · exact h

theorem Inv.of_markRunning (h : s.Inv) (thread : ℕ) (host : AppleRemoteHost) (nowUtc : Bytes) :
    (s.markRunning thread host nowUtc true).Inv := by
  unfold markRunning
  split
  · next record hx =>
    refine h.persist_held (by rw [hx]; rfl) (Or.inr rfl) rfl ⟨rfl, ?_⟩ fun _ => trivial
    exact Function.update_self ..
  · exact h

theorem Inv.of_giveUp (h : s.Inv) (thread : ℕ) (obstacle : Obstacle) (nowUtc : Bytes) :
    (s.giveUp thread obstacle nowUtc true).Inv := by
  unfold giveUp
  split
  · next record hx =>
    exact h.persist_held (by rw [hx]; rfl) (Or.inl rfl) rfl trivial fun _ => trivial
  · exact h

theorem Inv.of_complete (h : s.Inv) (thread : ℕ) (result : GovernanceToolResult)
    (nowUtc : Bytes) : (s.complete thread result nowUtc true).Inv := by
  unfold complete
  split
  · next record hx =>
    exact h.persist_held (by rw [hx]; rfl) (Or.inl rfl) rfl trivial fun _ => trivial
  · exact h

theorem Inv.of_remoteCommand (h : s.Inv) (thread : ℕ) : (s.remoteCommand thread).Inv := by
  unfold remoteCommand
  split
  · exact { h with }
  · exact { h with }
  · exact h

theorem Inv.of_leave (h : s.Inv) (thread : ℕ) : (s.leave thread).Inv := by
  unfold leave
  split
  · refine (h.put_idle 0).setRunning fun id hid => ?_
    rw [thread_put, if_pos rfl] at hid
    cases hid
  · exact h.put_idle _
  · exact h

/-- A queued operation is held by a thread only while it is unlisted, or run by the worker. -/
theorem Inv.not_held_of_unlisted (h : s.Inv) (hlisted : ¬ Unlisted s id)
    (hrunning : s.runningAppleOperationId ≠ some id) (hstatus : s.status id = some .queued) :
    (s.thread u).holds ≠ some id := by
  intro hu
  have hok := h.threads u
  have hworker : u ≠ 0 := fun h0 => hrunning (h.running id (h0 ▸ hu))
  obtain ⟨n, rfl⟩ := Nat.exists_eq_succ_of_ne_zero hworker
  cases hx : s.thread (n + 1) with
  | idle | finished | refused | canceling =>
    rw [hx] at hu
    cases hu
  | numbered r queued =>
    rw [hx] at hu hok
    cases hu
    rw [hok.2.1] at hstatus
    cases hstatus
  | published r =>
    rw [hx] at hu
    cases hu
    exact hlisted ⟨n, r, rfl, Or.inl hx⟩
  | taken r =>
    rw [hx] at hu
    cases hu
    exact hlisted ⟨n, r, rfl, Or.inr hx⟩
  | executing r =>
    rw [hx] at hu hok
    cases hu
    rw [hok.2] at hstatus
    cases hstatus

/-- What a cancellation decides on is waiting, and then held by nobody. -/
theorem Inv.of_cancelDecision {q : List AppleOperationRecord} (h : s.Inv)
    (hlisted : ¬ Unlisted s id) (hd : s.cancelDecision id = some (r, q)) :
    q.Sublist s.appleQueue ∧ s.status r.operationId = some .queued ∧
      ¬ Custody.Held (custody { s with appleQueue := q }) r.operationId := by
  unfold cancelDecision at hd
  split at hd
  · next record hfind =>
    cases hd
    obtain ⟨hmem, rfl⟩ := (find?_key_eq_some_iff h.exclusive.nodup).mp hfind
    refine ⟨List.eraseP_sublist, (h.queue r hmem).2.1, ?_⟩
    exact h.exclusive.not_held_unqueue (List.mem_map_of_mem hmem)
      (key_notMem_eraseP h.exclusive.nodup _)
  · next hnone =>
    split at hd
    · cases hd
    · next record hfind =>
      split at hd
      · cases hd
      · next hrunning =>
        split at hd
        · cases hd
        · next hqueued =>
          cases hd
          rw [not_or] at hrunning
          obtain ⟨hmem, rfl⟩ := (find?_key_eq_some_iff h.history.ids).mp hfind
          have hstatus : s.status r.operationId = some .queued :=
            not_not.mp hqueued ▸ h.history.reported r hmem
          refine ⟨List.Sublist.refl _, hstatus, ?_⟩
          rintro (⟨u, hu⟩ | hq)
          · exact h.not_held_of_unlisted hlisted hrunning.1 hstatus hu
          · exact find?_key_eq_none_iff.mp hnone hq

theorem Inv.of_cancel (h : s.Inv) (hlisted : ¬ Unlisted s id) (thread : ℕ) :
    (s.cancel thread id).Inv := by
  unfold cancel
  split
  · next n hx =>
    split
    · next record queue hd =>
      obtain ⟨hqueue, hstatus, hfree⟩ := h.of_cancelDecision hlisted hd
      refine (h.unqueue hqueue).put (Or.inl rfl) (Or.inl hstatus) (fun id' hid' => ?_)
        fun h0 => absurd h0 (Nat.succ_ne_zero n)
      cases hid'
      rw [custody_put]
      exact fun hheld => hfree (hheld.of_give_le (Or.inl rfl))
    · exact h
  · exact h

/-- A thread marks as canceled what it drops. -/
theorem Inv.persist_dropped (h : s.Inv) (hu : (s.thread u).drops = some r.operationId)
    (hr : r.status = .canceled) :
    ((s.persist true r).put u .idle).Inv ∧
      ¬ ((s.persist true r).put u .idle).custody.Held r.operationId := by
  have hfree : ¬ (s.put u .idle).custody.Held r.operationId := by
    rw [custody_put]
    exact fun hheld => h.dropped u _ hu (hheld.of_give_le (Or.inl rfl))
  exact ⟨(h.put_idle u).persist hfree (h.issued_of_drops hu) (Or.inl hr), hfree⟩

theorem Inv.of_markCanceled (h : s.Inv) (thread : ℕ) (nowUtc : Bytes) :
    (s.markCanceled thread nowUtc true).Inv := by
  unfold markCanceled
  split
  · next record hx => exact (h.persist_dropped (by rw [hx]; rfl) rfl).1
  · next record hx =>
    obtain ⟨hinv, hfree⟩ := h.persist_dropped (u := thread) (r := canceledRecord
      (asciiBytes "Apple governance operation was canceled.") nowUtc record) (by rw [hx]; rfl) rfl
    exact hinv.report (Function.update_self ..) hfree
  · exact h

/-! ## A restart -/

theorem operationId_reconciledRecord (nowUtc : Bytes) (r : AppleOperationRecord) :
    (reconciledRecord nowUtc r).operationId = r.operationId := by
  unfold reconciledRecord
  cases r.status with
  | queued | running => rfl
  | _ => rfl

theorem status_reconciledRecord (nowUtc : Bytes) (r : AppleOperationRecord) :
    (reconciledRecord nowUtc r).status = r.status ∨
      (r.status = .queued ∨ r.status = .running) ∧
        (reconciledRecord nowUtc r).status = .blocked := by
  unfold reconciledRecord
  cases hs : r.status with
  | queued => exact Or.inr ⟨Or.inl rfl, rfl⟩
  | running => exact Or.inr ⟨Or.inr rfl, rfl⟩
  | _ => exact Or.inl hs

theorem ids_reconciled (nowUtc : Bytes) (history : List AppleOperationRecord) :
    (history.map (reconciledRecord nowUtc)).map AppleOperationRecord.operationId =
      history.map AppleOperationRecord.operationId := by
  rw [List.map_map]
  exact List.map_congr_left fun r _ => operationId_reconciledRecord nowUtc r

/-- The status of an operation after a restart: of the record in the history, or as it was. -/
theorem Inv.status_restart (h : s.Inv) (nowUtc : Bytes) (id : OperationId) :
    (∃ r ∈ s.recentAppleOperations, r.operationId = id ∧ s.status id = some r.status ∧
      (s.restart nowUtc true).status id = some (reconciledRecord nowUtc r).status) ∨
    id ∉ s.recentAppleOperations.map AppleOperationRecord.operationId ∧
      (s.restart nowUtc true).status id = s.status id := by
  have hids := h.history.ids
  rw [← ids_reconciled nowUtc] at hids
  by_cases hmem : id ∈ s.recentAppleOperations.map AppleOperationRecord.operationId
  · obtain ⟨r, hr, rfl⟩ := List.mem_map.mp hmem
    refine Or.inl ⟨r, hr, rfl, h.history.reported r hr, ?_⟩
    have hfind := (find?_key_eq_some_iff hids).mpr
      ⟨List.mem_map_of_mem hr, operationId_reconciledRecord nowUtc r⟩
    unfold restart
    dsimp only
    rw [h.history.file, hfind]
  · refine Or.inr ⟨hmem, ?_⟩
    rw [← ids_reconciled nowUtc] at hmem
    unfold restart
    dsimp only
    rw [h.history.file, find?_key_eq_none_iff.mpr hmem]

theorem Inv.of_restart (h : s.Inv) (nowUtc : Bytes) : (s.restart nowUtc true).Inv :=
  have hfree : ∀ id, ¬ (s.restart nowUtc true).custody.Held id := by
    rintro id (⟨u, hu⟩ | hq)
    · cases hu
    · cases hq
  have hnone : ∀ id, (s.restart nowUtc true).status id = none ↔ s.status id = none := fun id => by
    rcases h.status_restart nowUtc id with ⟨r, -, -, hs, ht⟩ | ⟨-, ht⟩
    · rw [hs, ht]
      exact iff_of_false (Option.some_ne_none _) (Option.some_ne_none _)
    · rw [ht]
  { exclusive := Custody.exclusive_empty
    threads := fun _ => trivial
    queue := fun _ hr => by cases hr
    dropped := fun _ _ hu => by cases hu
    canceled := fun id hid => by
      refine ⟨?_, hfree id⟩
      have hc := (h.canceled id hid).1
      rcases h.status_restart nowUtc id with ⟨r, -, -, hs, ht⟩ | ⟨-, ht⟩
      · rw [hc] at hs
        rcases status_reconciledRecord nowUtc r with he | ⟨he | he, -⟩
        · rw [ht, he, ← hs]
        · rw [he] at hs
          cases hs
        · rw [he] at hs
          cases hs
      · rw [ht, hc]
    history :=
      { reported := fun r' hr' => by
          change r' ∈ s.file.map (reconciledRecord nowUtc) at hr'
          rw [h.history.file] at hr'
          obtain ⟨r, hr, rfl⟩ := List.mem_map.mp hr'
          rw [operationId_reconciledRecord]
          rcases h.status_restart nowUtc r.operationId with ⟨r₁, hr₁, hid, -, ht⟩ | ⟨hn, -⟩
          · rw [ht, eq_of_key_eq h.history.ids hr₁ hr hid]
          · exact absurd (List.mem_map_of_mem hr) hn
        ids := by
          change ((s.file.map (reconciledRecord nowUtc)).map
            AppleOperationRecord.operationId).Nodup
          rw [ids_reconciled, h.history.file]
          exact h.history.ids
        length := by
          change (s.file.map (reconciledRecord nowUtc)).length ≤ 30
          rw [List.length_map, h.history.file]
          exact h.history.length
        file := rfl }
    executed_nodup := h.executed_nodup
    executed := fun id hid hn => h.executed id hid ((hnone id).mp hn)
    worker := trivial
    running := fun _ hu => by cases hu
    issued := fun id hid =>
      have hi := h.issued id fun hn => hid ((hnone id).mpr hn)
      ⟨hi.1, Or.inl hi.1⟩ }

theorem Inv.init : Inv {} where
  exclusive := Custody.exclusive_empty
  threads _ := trivial
  queue _ hr := by cases hr
  dropped _ _ hu := by cases hu
  canceled _ hid := by cases hid
  history := ⟨fun _ hr => absurd hr List.not_mem_nil, List.nodup_nil, Nat.zero_le 30, rfl⟩
  executed_nodup := List.nodup_nil
  executed _ hid := by cases hid
  worker := trivial
  running _ hu := by cases hu
  issued _ hid := absurd rfl hid

/-- The step lemma. -/
theorem Inv.step (h : s.Inv) {a : OperationStep} (ha : Orderly s a) : (s.step a).Inv := by
  obtain ⟨hwritten, hguard⟩ := ha
  cases a with
  | accept thread queued displayName nowUtc stamp => exact h.of_accept hguard ..
  | publish thread written =>
    cases hwritten
    exact h.of_publish thread
  | enqueue thread => exact h.of_enqueue thread
  | pop => exact h.of_pop
  | markRunning thread host nowUtc written =>
    cases hwritten
    exact h.of_markRunning ..
  | remoteCommand thread => exact h.of_remoteCommand thread
  | giveUp thread obstacle nowUtc written =>
    cases hwritten
    exact h.of_giveUp ..
  | complete thread result nowUtc written =>
    cases hwritten
    exact h.of_complete ..
  | leave thread => exact h.of_leave thread
  | cancel thread operationId => exact h.of_cancel hguard thread
  | markCanceled thread nowUtc written =>
    cases hwritten
    exact h.of_markCanceled ..
  | stop => exact { h with }
  | restart nowUtc written =>
    cases hwritten
    exact h.of_restart nowUtc

end Service

/-- The run lemma. -/
theorem inv_of_reachable {s : Service} (hs : appleOperations.ReachableBy Orderly s) : s.Inv :=
  hs.invariant Service.Inv.init fun _ _ h ha => h.step ha

end Apple
end MasterControl
