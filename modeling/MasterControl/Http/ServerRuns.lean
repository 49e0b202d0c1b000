import MasterControl.Http.Server
import Mathlib.Tactic.IntervalCases

/-!
# Waking and retiring the threads of the admin listener

`stop` retires the accept thread, then the workers, then the streams.  Whoever has retired takes
no further step, so what a group has left to close only gets less once the groups before it are
gone (`Proceeds`, `Retired`); when `stop` returns, every connection has been closed
(`stop_closes_all`).

A worker waits for the queue on a condition variable, and a notification that comes when nobody
waits is gone.  As long as a worker waits, each queued connection has a notification of its own
that is still to come, or has woken somebody (`Prompt`).
-/

namespace MasterControl
namespace Http

open Foundation

/-- The stages of `stop`, in their order. -/
def StopStage.rank : StopStage → ℕ
  | .notCalled => 0
  | .closingListener => 1
  | .joiningAcceptThread => 2
  | .shuttingQueueDown => 3
  | .notifyingAll => 4
  | .joiningWorkers => 5
  | .closingQueue => 6
  | .shuttingStreamsDown _ => 7
  | .joiningStreams => 8
  | .closingStreams => 9
  | .returned => 10

namespace Server

variable {server server' : Server}

/-! ## Retiring -/

/-- What a thread other than that of `stop` can do to those that have retired. -/
structure Proceeds (server server' : Server) : Prop where
  stopStage : server'.stopStage = server.stopStage
  running : server'.running = server.running
  shutdown : server'.connectionQueueShutdown = server.connectionQueueShutdown
  acceptThread : server.acceptThread = .returned → server'.acceptThread = .returned
  awake : server.connectionQueueShutdown = true → (∀ i, server.workers i ≠ .waiting) →
    ∀ i, server'.workers i ≠ .waiting
  workers : ∀ i, server.workers i = .exited → server'.workers i = .exited
  queue : server.acceptThread = .returned → server.connectionQueue = [] →
    server'.connectionQueue = []
  streams : (∀ i, server.workers i = .exited) → server.sseStreams = [] → server'.sseStreams = []

theorem Proceeds.refl (server : Server) : Proceeds server server where
  stopStage := rfl
  running := rfl
  shutdown := rfl
  acceptThread h := h
  awake _ h := h
  workers _ h := h
  queue _ h := h
  streams _ h := h

/-- The accept thread takes a step. -/
theorem Proceeds.of_acceptThread (hthread : server.acceptThread ≠ .returned)
    (hstage : server'.stopStage = server.stopStage) (hrunning : server'.running = server.running)
    (hshutdown : server'.connectionQueueShutdown = server.connectionQueueShutdown)
    (hworkers : server'.workers = server.workers)
    (hstreams : server'.sseStreams = server.sseStreams) :
    Proceeds server server' where
  stopStage := hstage
  running := hrunning
  shutdown := hshutdown
  acceptThread h := absurd h hthread
  awake _ h := by rwa [hworkers]
  workers i h := by rwa [hworkers]
  queue h := absurd h hthread
  streams _ h := by rwa [hstreams]

/-- A worker takes a step, or is woken. -/
theorem Proceeds.of_worker {i : Fin kAdminWorkerCount} {worker : ConnectionWorker}
    (hexited : server.workers i ≠ .exited)
    (hworkers : server'.workers = Function.update server.workers i worker)
    (hwaiting : server.connectionQueueShutdown = true → worker ≠ .waiting)
    (hstage : server'.stopStage = server.stopStage) (hrunning : server'.running = server.running)
    (hshutdown : server'.connectionQueueShutdown = server.connectionQueueShutdown)
    (hthread : server.acceptThread = .returned → server'.acceptThread = .returned)
    (hqueue : server.connectionQueue = [] → server'.connectionQueue = []) :
    Proceeds server server' where
  stopStage := hstage
  running := hrunning
  shutdown := hshutdown
  acceptThread := hthread
  awake hdown h j := by
    rw [hworkers, Function.update_apply]
    split
    · exact hwaiting hdown
    · exact h j
  workers j h := by
    have hji : j ≠ i := by
      rintro rfl
      exact hexited h
    rw [hworkers, Function.update_of_ne hji]
    exact h
  queue _ := hqueue
  streams h := absurd (h i) hexited

/-- Something happens to the sockets and the streams. -/
theorem Proceeds.of_streams (hstage : server'.stopStage = server.stopStage)
    (hrunning : server'.running = server.running)
    (hshutdown : server'.connectionQueueShutdown = server.connectionQueueShutdown)
    (hthread : server'.acceptThread = server.acceptThread)
    (hworkers : server'.workers = server.workers)
    (hqueue : server'.connectionQueue = server.connectionQueue)
    (hstreams : server.sseStreams = [] → server'.sseStreams = []) : Proceeds server server' where
  stopStage := hstage
  running := hrunning
  shutdown := hshutdown
  acceptThread h := by rwa [hthread]
  awake _ h := by rwa [hworkers]
  workers i h := by rwa [hworkers]
  queue _ h := by rwa [hqueue]
  streams _ := hstreams

theorem proceeds_checkRunning (server : Server) : Proceeds server server.checkRunning := by
  unfold checkRunning
  split
  · next hthread => exact Proceeds.of_acceptThread (by simp [hthread]) rfl rfl rfl rfl rfl
  · exact Proceeds.refl server

theorem proceeds_accept (server : Server) (client : Option ℕ) :
    Proceeds server (server.accept client) := by
  unfold accept
  split
  · next hthread => exact Proceeds.of_acceptThread (by simp [hthread]) rfl rfl rfl rfl rfl
  · next hthread =>
    split
    · exact Proceeds.of_acceptThread (by simp [hthread]) rfl rfl rfl rfl rfl
    · exact Proceeds.refl server
  · exact Proceeds.refl server

theorem proceeds_dispatchClient (server : Server) : Proceeds server server.dispatchClient := by
  unfold dispatchClient
  split
  · next hthread =>
    split
    · exact Proceeds.of_acceptThread (by simp [hthread]) rfl rfl rfl rfl rfl
    · exact Proceeds.of_acceptThread (by simp [hthread]) rfl rfl rfl rfl rfl
  · exact Proceeds.refl server

theorem proceeds_notifyOne (server : Server) (woken : Fin kAdminWorkerCount) :
    Proceeds server (server.notifyOne woken) := by
  unfold notifyOne
  split
  · next hthread =>
    split
    · next hwaiting =>
      exact Proceeds.of_worker (by simp [hwaiting]) rfl (by simp) rfl rfl rfl (by simp [hthread]) id
    · split
      · exact Proceeds.of_acceptThread (by simp [hthread]) rfl rfl rfl rfl rfl
      · exact Proceeds.refl server
  · exact Proceeds.refl server

theorem proceeds_sendSaturation (server : Server) : Proceeds server server.sendSaturation := by
  unfold sendSaturation
  split
  · exact Proceeds.of_streams rfl rfl rfl rfl rfl rfl id
  · exact Proceeds.refl server

theorem proceeds_closeRefused (server : Server) : Proceeds server server.closeRefused := by
  unfold closeRefused
  split
  · next hthread => exact Proceeds.of_acceptThread (by simp [hthread]) rfl rfl rfl rfl rfl
  · exact Proceeds.refl server

theorem proceeds_connectionWorkerLoop (server : Server) (i : Fin kAdminWorkerCount) :
    Proceeds server (server.connectionWorkerLoop i) := by
  unfold connectionWorkerLoop
  split
  · next hawake =>
    have hexited : server.workers i ≠ .exited := by simp [hawake]
    split
    · exact Proceeds.of_worker hexited rfl (by simp) rfl rfl rfl id id
    · next hdown =>
      split
      · exact Proceeds.of_worker hexited rfl (fun h => absurd h hdown) rfl rfl rfl id id
      · next hqueue =>
        exact Proceeds.of_worker hexited rfl (by simp) rfl rfl rfl id (by simp [hqueue])
  · exact Proceeds.refl server

theorem proceeds_wake (server : Server) (i : Fin kAdminWorkerCount) :
    Proceeds server (server.wake i) := by
  unfold wake
  split
  · next hwaiting => exact Proceeds.of_worker (by simp [hwaiting]) rfl (by simp) rfl rfl rfl id id
  · exact Proceeds.refl server

theorem proceeds_handleClient (server : Server) (i : Fin kAdminWorkerCount) :
    Proceeds server (server.handleClient i) := by
  unfold handleClient
  split
  · exact Proceeds.of_streams rfl rfl rfl rfl rfl rfl id
  · exact Proceeds.refl server

theorem proceeds_closeClient (server : Server) (i : Fin kAdminWorkerCount) :
    Proceeds server (server.closeClient i) := by
  unfold closeClient
  split
  · next hserving =>
    exact Proceeds.of_worker (by simp [hserving]) rfl (by simp) rfl rfl rfl id id
  · exact Proceeds.refl server

theorem proceeds_enterRegistry (server : Server) (i : Fin kAdminWorkerCount) :
    Proceeds server (server.enterRegistry i) := by
  unfold enterRegistry
  split
  · next hserving =>
    split
    · exact Proceeds.of_worker (by simp [hserving]) rfl (by simp) rfl rfl rfl id id
    · exact Proceeds.refl server
  · exact Proceeds.refl server

theorem proceeds_reapStreams (server : Server) (i : Fin kAdminWorkerCount) :
    Proceeds server (server.reapStreams i) := by
  unfold reapStreams
  split
  · next hregistering =>
    have hexited : server.workers i ≠ .exited := by simp [hregistering]
    split
    · split
      · refine Proceeds.of_streams rfl rfl rfl rfl rfl rfl fun hstreams => ?_
        simp [hstreams]
      · exact Proceeds.of_worker hexited rfl (by simp) rfl rfl rfl id id
    · exact Proceeds.of_worker hexited rfl (by simp) rfl rfl rfl id id
  · exact Proceeds.refl server

theorem proceeds_streamSends (server : Server) (k : ℕ) :
    Proceeds server (server.streamSends k) := by
  unfold streamSends
  split
  · split
    · exact Proceeds.refl server
    · exact Proceeds.of_streams rfl rfl rfl rfl rfl rfl id
  · exact Proceeds.refl server

theorem proceeds_streamFinishes (server : Server) (k : ℕ) :
    Proceeds server (server.streamFinishes k) := by
  unfold streamFinishes
  split
  · refine Proceeds.of_streams rfl rfl rfl rfl rfl rfl fun hstreams => ?_
    simp [hstreams]
  · exact Proceeds.refl server

theorem proceeds_step {a : ServerStep} (ha : a ≠ .stop) : Proceeds server (server.step a) := by
  cases a with
  | checkRunning => exact proceeds_checkRunning server
  | accept client => exact proceeds_accept server client
  | dispatchClient => exact proceeds_dispatchClient server
  | notifyOne woken => exact proceeds_notifyOne server woken
  | sendSaturation => exact proceeds_sendSaturation server
  | closeRefused => exact proceeds_closeRefused server
  | wake i => exact proceeds_wake server i
  | connectionWorkerLoop i => exact proceeds_connectionWorkerLoop server i
  | handleClient i => exact proceeds_handleClient server i
  | closeClient i => exact proceeds_closeClient server i
  | enterRegistry i => exact proceeds_enterRegistry server i
  | reapStreams i => exact proceeds_reapStreams server i
  | streamSends k => exact proceeds_streamSends server k
  | streamFinishes k => exact proceeds_streamFinishes server k
  | stop => exact absurd rfl ha

/-- What is settled when `stop` comes to the stage of a rank. -/
def SettledAt (server : Server) : ℕ → Prop
  | 1 => server.running = false
  | 3 => server.acceptThread = .returned
  | 4 => server.connectionQueueShutdown = true
  | 5 => ∀ i, server.workers i ≠ .waiting
  | 6 => ∀ i, server.workers i = .exited
  | 7 => server.connectionQueue = []
  | 10 => server.sseStreams = []
  | _ => True

/-- What `stop` has settled stays settled. -/
def Retired (server : Server) : Prop := ∀ n ≤ server.stopStage.rank, server.SettledAt n

theorem retired_started (bound : Bool) : (started bound).Retired := by
  intro n hn
  rw [Nat.le_zero.mp hn]
  trivial

theorem Retired.proceeds (h : server.Retired) (hstep : Proceeds server server') :
    server'.Retired := by
  intro n hn
  rw [hstep.stopStage] at hn
  match n, hn with
  | 1, hn => exact hstep.running.trans (h 1 hn)
  | 3, hn => exact hstep.acceptThread (h 3 hn)
  | 4, hn => exact hstep.shutdown.trans (h 4 hn)
  | 5, hn => exact hstep.awake (h 4 (by omega)) (h 5 hn)
  | 6, hn => exact fun i => hstep.workers i (h 6 hn i)
  | 7, hn => exact hstep.queue (h 3 (by omega)) (h 7 hn)
  | 10, hn => exact hstep.streams (h 6 (by omega)) (h 10 hn)
  | 0, _ | 2, _ | 8, _ | 9, _ | _ + 11, _ => trivial

/-- `stop` stays at its stage. -/
theorem Retired.stays (h : server.Retired)
    (hstage : server'.stopStage.rank = server.stopStage.rank)
    (hkeeps : ∀ n ≤ server.stopStage.rank, server.SettledAt n → server'.SettledAt n) :
    server'.Retired := by
  intro n hn
  rw [hstage] at hn
  exact hkeeps n hn (h n hn)

/-- `stop` goes on to the next stage. -/
theorem Retired.goes_on (h : server.Retired)
    (hstage : server'.stopStage.rank = server.stopStage.rank + 1)
    (hkeeps : ∀ n ≤ server.stopStage.rank, server.SettledAt n → server'.SettledAt n)
    (hnext : server'.SettledAt server'.stopStage.rank) : server'.Retired := by
  intro n hn
  rcases Nat.lt_or_eq_of_le hn with hlt | rfl
  · exact hkeeps n (by omega) (h n (by omega))
  · exact hnext

theorem Retired.stop (h : server.Retired) : server.stop.Retired := by
  unfold Server.stop
  split
  case h_1 hstage =>
    refine h.goes_on (by rw [hstage]; rfl) (fun n hle hn => ?_) rfl
    rw [hstage, StopStage.rank] at hle
    interval_cases n
    exact hn
  case h_2 hstage => exact h.goes_on (by rw [hstage]; rfl) (fun _ _ hn => hn) trivial
  case h_3 hstage =>
    split
    · next hreturned => exact h.goes_on (by rw [hstage]; rfl) (fun _ _ hn => hn) hreturned
    · exact h
  case h_4 hstage =>
    refine h.goes_on (by rw [hstage]; rfl) (fun n hle hn => ?_) rfl
    rw [hstage, StopStage.rank] at hle
    interval_cases n <;> exact hn
  case h_5 hstage =>
    refine h.goes_on (by rw [hstage]; rfl) (fun n hle hn => ?_) fun i => ?_
    · rw [hstage, StopStage.rank] at hle
      interval_cases n <;> exact hn
    · dsimp only
      split
      · exact ConnectionWorker.noConfusion
      · next hwaiting => exact hwaiting
  case h_6 hstage =>
    split
    · next hexited => exact h.goes_on (by rw [hstage]; rfl) (fun _ _ hn => hn) hexited
    · exact h
  case h_7 hstage =>
    split
    · next hqueue => exact h.goes_on (by rw [hstage]; rfl) (fun _ _ hn => hn) hqueue
    · refine h.stays rfl fun n hle hn => ?_
      rw [hstage, StopStage.rank] at hle
      interval_cases n <;> exact hn
  case h_8 hstage =>
    split
    · exact h.stays (by rw [hstage]; rfl) fun _ _ hn => hn
    · exact h.goes_on (by rw [hstage]; rfl) (fun _ _ hn => hn) trivial
  case h_9 hstage =>
    split
    · exact h.goes_on (by rw [hstage]; rfl) (fun _ _ hn => hn) trivial
    · exact h
  case h_10 hstage =>
    split
    · next hstreams => exact h.goes_on (by rw [hstage]; rfl) (fun _ _ hn => hn) hstreams
    · refine h.stays rfl fun n hle hn => ?_
      rw [hstage, StopStage.rank] at hle
      interval_cases n <;> exact hn
  case h_11 => exact h

theorem retired_of_reachable {bound : Bool} (h : (simpleHttpServer bound).Reachable server) :
    server.Retired := by
  refine h.invariant (retired_started bound) fun s a hs _ => ?_
  by_cases ha : a = .stop
  · subst ha
    exact hs.stop
  · exact hs.proceeds (proceeds_step ha)

/-- Once `stop` has returned, nobody holds a connection. -/
theorem Retired.held_eq_zero (h : server.Retired) (hreturned : server.stopStage = .returned) :
    server.held = 0 := by
  have hrank : server.stopStage.rank = 10 := by rw [hreturned]; rfl
  have hthread : server.acceptThread = .returned := h 3 (by omega)
  have hworkers : ∀ i, server.workers i = .exited := h 6 (by omega)
  have hqueue : server.connectionQueue = [] := h 7 (by omega)
  have hstreams : server.sseStreams = [] := h 10 (by omega)
  have hsum : ∑ i, (server.workers i).holds = 0 :=
    Finset.sum_eq_zero fun i _ => by rw [hworkers i]; rfl
  rw [held, hthread, hqueue, hstreams, hsum]
  rfl

end Server

/-- **`stop` closes everything once.**  When it has returned, no connection is open, and each that
was ever accepted has been closed exactly once. -/
theorem stop_closes_all {bound : Bool} {server : Server}
    (h : (simpleHttpServer bound).Reachable server) (hreturned : server.stopStage = .returned) :
    server.sockets.openHandles = [] ∧ server.sockets.closings.Nodup ∧
      server.sockets.openings.Perm server.sockets.closings := by
  have howns := (Server.sound_of_reachable h).owns
  rw [(Server.retired_of_reachable h).held_eq_zero hreturned] at howns
  exact ⟨Multiset.coe_eq_zero _ |>.mp howns.owned, howns.closings_nodup, howns.all_closed⟩

/-- One connection streams and another one is still queued when the server stops. -/
def stoppedEarly : List ServerStep :=
  [.checkRunning, .accept (some 7), .dispatchClient, .notifyOne 0, .connectionWorkerLoop 0,
    .enterRegistry 0, .reapStreams 0, .checkRunning, .accept (some 8), .dispatchClient,
    .notifyOne 0, .stop, .stop, .checkRunning, .stop, .stop, .stop,
    .connectionWorkerLoop 0, .connectionWorkerLoop 1, .connectionWorkerLoop 2,
    .connectionWorkerLoop 3, .connectionWorkerLoop 4, .connectionWorkerLoop 5,
    .connectionWorkerLoop 6, .connectionWorkerLoop 7, .stop, .stop, .stop, .stop,
    .streamSends 0, .streamFinishes 0, .stop, .stop, .stop, .stop]

theorem stop_closes_all_stoppedEarly :
    ((simpleHttpServer true).run (Server.started true) stoppedEarly).sockets.openings =
        [⟨0, 7⟩, ⟨1, 8⟩] ∧
      ((simpleHttpServer true).run (Server.started true) stoppedEarly).sockets.openHandles = [] :=
  ⟨by decide, (stop_closes_all (TransitionSystem.Reachable.run
    TransitionSystem.ReachableBy.init stoppedEarly) (by decide)).1⟩

/-! ## Waking -/

/-- Whether a worker has been woken and has yet to look at the queue. -/
def ConnectionWorker.alert (worker : ConnectionWorker) : ℕ := if worker = .awake then 1 else 0

/-- Whether `notify_one` comes next. -/
def AcceptThread.signal (thread : AcceptThread) : ℕ := if thread = .notifying then 1 else 0

namespace Server

/-- The workers that were woken, and the notification that is still to come. -/
def wakeups (server : Server) : ℕ :=
  ∑ i, (server.workers i).alert + server.acceptThread.signal

/-- Each queued connection has woken somebody or is about to, unless nobody could be woken. -/
def Prompt (server : Server) : Prop :=
  server.connectionQueueShutdown = false →
    server.connectionQueue.length ≤ server.wakeups ∨ ∀ i, server.workers i ≠ .waiting

variable {server server' : Server}

/-- Nothing but the sockets and the streams changes, or somebody gets up. -/
theorem Prompt.mono (h : server.Prompt)
    (hshutdown : server'.connectionQueueShutdown = server.connectionQueueShutdown)
    (hqueue : server'.connectionQueue = server.connectionQueue)
    (hwakeups : server.wakeups ≤ server'.wakeups)
    (hwaiting : ∀ i, server.workers i ≠ .waiting → server'.workers i ≠ .waiting) :
    server'.Prompt := by
  intro hdown
  rw [hshutdown] at hdown
  rw [hqueue]
  rcases h hdown with hle | hall
  · exact Or.inl (hle.trans hwakeups)
  · exact Or.inr fun i => hwaiting i (hall i)

/-- The accept thread takes a step that has nothing to do with the queue. -/
theorem Prompt.of_acceptThread (h : server.Prompt)
    (hthread : server.acceptThread ≠ .notifying)
    (hshutdown : server'.connectionQueueShutdown = server.connectionQueueShutdown)
    (hqueue : server'.connectionQueue = server.connectionQueue)
    (hworkers : server'.workers = server.workers) : server'.Prompt := by
  refine h.mono hshutdown hqueue ?_ (by rw [hworkers]; exact fun _ => id)
  rw [wakeups, wakeups, hworkers, AcceptThread.signal, if_neg hthread]
  exact Nat.le_add_right _ _

/-- Nobody takes a step that has to do with the queue. -/
theorem Prompt.of_eq (h : server.Prompt)
    (hshutdown : server'.connectionQueueShutdown = server.connectionQueueShutdown)
    (hqueue : server'.connectionQueue = server.connectionQueue)
    (hthread : server'.acceptThread = server.acceptThread)
    (hworkers : server'.workers = server.workers) : server'.Prompt := by
  refine h.mono hshutdown hqueue ?_ (by rw [hworkers]; exact fun _ => id)
  rw [wakeups, wakeups, hworkers, hthread]

theorem exists_wakeups_update (server : Server) (i : Fin kAdminWorkerCount) :
    ∃ rest, ∑ j, (server.workers j).alert = (server.workers i).alert + rest ∧
      ∀ worker, ∑ j, (Function.update server.workers i worker j).alert = worker.alert + rest :=
  exists_sum_update server.workers ConnectionWorker.alert i

/-- A worker that has not been woken goes on, and does not wait. -/
theorem Prompt.of_worker (h : server.Prompt) {i : Fin kAdminWorkerCount}
    {worker : ConnectionWorker} (hasleep : server.workers i ≠ .awake) (hwaiting : worker ≠ .waiting)
    (hshutdown : server'.connectionQueueShutdown = server.connectionQueueShutdown)
    (hqueue : server'.connectionQueue = server.connectionQueue)
    (hthread : server'.acceptThread = server.acceptThread)
    (hworkers : server'.workers = Function.update server.workers i worker) : server'.Prompt := by
  refine h.mono hshutdown hqueue ?_ fun j hj => ?_
  · obtain ⟨rest, hbefore, hafter⟩ := exists_wakeups_update server i
    have hzero : (server.workers i).alert = 0 := if_neg hasleep
    rw [wakeups, wakeups, hworkers, hthread, hafter, hbefore, hzero]
    omega
  · rw [hworkers, Function.update_apply]
    split
    · exact hwaiting
    · exact hj

theorem prompt_started (bound : Bool) : (started bound).Prompt := fun _ => Or.inl (Nat.zero_le _)

theorem Prompt.checkRunning (h : server.Prompt) : server.checkRunning.Prompt := by
  unfold Server.checkRunning
  split
  · next hthread => exact h.of_acceptThread (by simp [hthread]) rfl rfl rfl
  · exact h

theorem Prompt.accept (h : server.Prompt) (client : Option ℕ) : (server.accept client).Prompt := by
  unfold Server.accept
  split
  · next hthread => exact h.of_acceptThread (by simp [hthread]) rfl rfl rfl
  · next hthread =>
    split
    · exact h.of_acceptThread (by simp [hthread]) rfl rfl rfl
    · exact h
  · exact h

/-- One more connection is queued, and its notification is to come. -/
theorem Prompt.dispatchClient (h : server.Prompt) : server.dispatchClient.Prompt := by
  unfold Server.dispatchClient
  split
  · next client hthread =>
    split
    · intro hdown
      rcases h hdown with hle | hall
      · left
        have hsignal : server.acceptThread.signal = 0 := by rw [hthread]; rfl
        rw [wakeups, hsignal] at hle
        rw [List.length_append, List.length_singleton]
        exact Nat.succ_le_succ hle
      · exact Or.inr hall
    · exact h.of_acceptThread (by simp [hthread]) rfl rfl rfl
  · exact h

/-- The notification wakes somebody, or nobody waits. -/
theorem Prompt.notifyOne (h : server.Prompt) (woken : Fin kAdminWorkerCount) :
    (server.notifyOne woken).Prompt := by
  unfold Server.notifyOne
  split
  · next hthread =>
    split
    · next hwaiting =>
      intro hdown
      rcases h hdown with hle | hall
      · left
        obtain ⟨rest, hbefore, hafter⟩ := exists_wakeups_update server woken
        have hsignal : server.acceptThread.signal = 1 := by rw [hthread]; rfl
        have hzero : (server.workers woken).alert = 0 := by rw [hwaiting]; rfl
        rw [wakeups, hbefore, hsignal, hzero] at hle
        refine hle.trans ?_
        rw [wakeups]
        simp only [Server.setWorker, hafter]
        rw [zero_add, add_comm rest]
        exact Nat.le_add_right _ _
      · exact absurd hwaiting (hall woken)
    · split
      · next hnobody => exact fun _ => Or.inr hnobody
      · exact h
  · exact h

/-- A worker takes the connection that it was woken for, or finds the queue empty. -/
theorem Prompt.connectionWorkerLoop (h : server.Prompt) (i : Fin kAdminWorkerCount) :
    (server.connectionWorkerLoop i).Prompt := by
  unfold Server.connectionWorkerLoop
  split
  · next hawake =>
    split
    · next hdown => exact fun hup => Bool.noConfusion (hdown.symm.trans hup)
    · split
      · next hqueue =>
        intro _
        left
        simp only [Server.setWorker, hqueue]
        exact Nat.zero_le _
      · next client rest hqueue =>
        intro hdown
        rcases h hdown with hle | hall
        · left
          obtain ⟨others, hbefore, hafter⟩ := exists_wakeups_update server i
          have hone : (server.workers i).alert = 1 := by rw [hawake]; rfl
          rw [wakeups, hbefore, hone, hqueue, List.length_cons] at hle
          simp only [wakeups, Server.setWorker, hafter]
          omega
        · right
          intro j
          simp only [Server.setWorker, Function.update_apply]
          split
          · exact ConnectionWorker.noConfusion
          · exact hall j
  · exact h

theorem Prompt.handleClient (h : server.Prompt) (i : Fin kAdminWorkerCount) :
    (server.handleClient i).Prompt := by
  unfold Server.handleClient
  split
  · exact h.of_eq rfl rfl rfl rfl
  · exact h

theorem Prompt.closeClient (h : server.Prompt) (i : Fin kAdminWorkerCount) :
    (server.closeClient i).Prompt := by
  unfold Server.closeClient
  split
  · next hserving => exact h.of_worker (by simp [hserving]) (by simp) rfl rfl rfl rfl
  · exact h

theorem Prompt.enterRegistry (h : server.Prompt) (i : Fin kAdminWorkerCount) :
    (server.enterRegistry i).Prompt := by
  unfold Server.enterRegistry
  split
  · next hserving =>
    split
    · exact h.of_worker (by simp [hserving]) (by simp) rfl rfl rfl rfl
    · exact h
  · exact h

theorem Prompt.reapStreams (h : server.Prompt) (i : Fin kAdminWorkerCount) :
    (server.reapStreams i).Prompt := by
  unfold Server.reapStreams
  split
  · next hregistering =>
    have hasleep : server.workers i ≠ .awake := by simp [hregistering]
    split
    · split
      · exact h.of_eq rfl rfl rfl rfl
      · exact h.of_worker hasleep (by simp) rfl rfl rfl rfl
    · exact h.of_worker hasleep (by simp) rfl rfl rfl rfl
  · exact h

theorem Prompt.streamSends (h : server.Prompt) (k : ℕ) :
    (server.streamSends k).Prompt := by
  unfold Server.streamSends
  split
  · split
    · exact h
    · exact h.of_eq rfl rfl rfl rfl
  · exact h

theorem Prompt.streamFinishes (h : server.Prompt) (k : ℕ) :
    (server.streamFinishes k).Prompt := by
  unfold Server.streamFinishes
  split
  · exact h.of_eq rfl rfl rfl rfl
  · exact h

theorem Prompt.sendSaturation (h : server.Prompt) : server.sendSaturation.Prompt := by
  unfold Server.sendSaturation
  split
  · exact h.of_eq rfl rfl rfl rfl
  · exact h

theorem Prompt.closeRefused (h : server.Prompt) : server.closeRefused.Prompt := by
  unfold Server.closeRefused
  split
  · next hthread => exact h.of_acceptThread (by simp [hthread]) rfl rfl rfl
  · exact h

theorem Prompt.wake (h : server.Prompt) (i : Fin kAdminWorkerCount) : (server.wake i).Prompt := by
  unfold Server.wake
  split
  · next hwaiting => exact h.of_worker (by simp [hwaiting]) (by simp) rfl rfl rfl rfl
  · exact h

/-- Stopping touches no one who waits, but to wake everybody. -/
theorem Prompt.stop (h : server.Prompt) (hretired : server.Retired) : server.stop.Prompt := by
  unfold Server.stop
  split
  case h_1 => exact h.of_eq rfl rfl rfl rfl
  case h_2 => exact h.of_eq rfl rfl rfl rfl
  case h_3 =>
    split
    · exact h.of_eq rfl rfl rfl rfl
    · exact h
  case h_4 => exact fun hup => Bool.noConfusion hup
  case h_5 hstage =>
    refine fun _ => Or.inr fun i => ?_
    dsimp only
    split
    · exact ConnectionWorker.noConfusion
    · next hwaiting => exact hwaiting
  case h_6 =>
    split
    · exact h.of_eq rfl rfl rfl rfl
    · exact h
  case h_7 hstage =>
    split
    · exact h.of_eq rfl rfl rfl rfl
    · -- The queue has been shut down before.
      have hdown : server.connectionQueueShutdown = true := hretired 4 (by rw [hstage]; decide)
      exact fun hup => Bool.noConfusion (hdown.symm.trans hup)
  case h_8 =>
    split
    · exact h.of_eq rfl rfl rfl rfl
    · exact h.of_eq rfl rfl rfl rfl
  case h_9 =>
    split
    · exact h.of_eq rfl rfl rfl rfl
    · exact h
  case h_10 =>
    split
    · exact h.of_eq rfl rfl rfl rfl
    · exact h.of_eq rfl rfl rfl rfl
  case h_11 => exact h

theorem Prompt.step (h : server.Prompt) (hretired : server.Retired) (a : ServerStep) :
    (server.step a).Prompt := by
  cases a with
  | checkRunning => exact h.checkRunning
  | accept client => exact h.accept client
  | dispatchClient => exact h.dispatchClient
  | notifyOne woken => exact h.notifyOne woken
  | sendSaturation => exact h.sendSaturation
  | closeRefused => exact h.closeRefused
  | wake i => exact h.wake i
  | connectionWorkerLoop i => exact h.connectionWorkerLoop i
  | handleClient i => exact h.handleClient i
  | closeClient i => exact h.closeClient i
  | enterRegistry i => exact h.enterRegistry i
  | reapStreams i => exact h.reapStreams i
  | streamSends k => exact h.streamSends k
  | streamFinishes k => exact h.streamFinishes k
  | stop => exact h.stop hretired

theorem prompt_of_reachable {bound : Bool} (h : (simpleHttpServer bound).Reachable server) :
    server.Prompt := by
  induction h with
  | init => exact prompt_started bound
  | step hs _ ih => exact ih.step (retired_of_reachable hs) _

end Server

/-- **No wake-up is lost.**  While a worker waits, every queued connection has woken a worker that
has yet to look at the queue, or is about to; and nobody waits any more once `stop` waits for the
workers. -/
theorem no_lost_wakeup {bound : Bool} {server : Server}
    (h : (simpleHttpServer bound).Reachable server) {i : Fin kAdminWorkerCount}
    (hwaiting : server.workers i = .waiting) :
    server.stopStage.rank < StopStage.joiningWorkers.rank ∧
      (server.connectionQueueShutdown = false →
        server.connectionQueue.length ≤ server.wakeups) := by
  refine ⟨?_, fun hup => ?_⟩
  · by_contra hrank
    exact Server.retired_of_reachable h 5 (not_lt.mp hrank) i hwaiting
  · rcases Server.prompt_of_reachable h hup with hle | hnobody
    · exact hle
    · exact absurd hwaiting (hnobody i)

/-- All workers wait, and the connection is queued before anybody has been told. -/
def queuedUntold : List ServerStep :=
  [.connectionWorkerLoop 1, .connectionWorkerLoop 2, .connectionWorkerLoop 3,
    .connectionWorkerLoop 0, .connectionWorkerLoop 4, .connectionWorkerLoop 5,
    .connectionWorkerLoop 6, .connectionWorkerLoop 7, .checkRunning, .accept (some 7),
    .dispatchClient]

theorem no_lost_wakeup_queuedUntold :
    ((simpleHttpServer true).run (Server.started true) queuedUntold).connectionQueue.length ≤
      ((simpleHttpServer true).run (Server.started true) queuedUntold).wakeups :=
  (no_lost_wakeup (TransitionSystem.Reachable.run
    TransitionSystem.ReachableBy.init queuedUntold) (i := 3) (by decide)).2 (by decide)

end Http
end MasterControl
