import MasterControl.Foundation.Progress
import MasterControl.Http.ServerRuns

/-!
# Stopping comes to its end

`stop` joins the accept thread, the workers and the streams, and a join waits until its thread
returns.  None of them waits for something that nobody does any more: from every state that the
server can be in, there is a way on in which `stop` returns (`stop_can_return`).  The peers and
the handlers have to do their part: a connection that is served is given up at some time, and a
stream ends.

Each stage has its own distance (`acceptDistance`, `workerDistance`, and lengths), and the stages
follow one another.
-/

namespace MasterControl
namespace Http

open Foundation Relation

/-- How far the accept thread is from its end, once the server no longer runs. -/
def AcceptThread.distance : AcceptThread → ℕ
  | .returned => 0
  | .atLoop => 1
  | .accepting => 2
  | .notifying => 2
  | .refusing _ => 2
  | .dispatching _ => 3

/-- How far a worker is from its end, once the queue is shut down, with so many streams. -/
def ConnectionWorker.distance (streams : ℕ) : ConnectionWorker → ℕ
  | .exited => 0
  | .waiting => 1
  | .awake => 1
  | .serving _ => 2
  | .registering _ cursor => 2 + (streams - cursor)

namespace Server

variable {bound : Bool} {server : Server}

theorem reachable_step (h : (simpleHttpServer bound).Reachable server) (a : ServerStep) :
    (simpleHttpServer bound).Reachable (server.step a) :=
  TransitionSystem.ReachableBy.step (a := a) h trivial

/-- The server can be in this state, and `stop` has come to this stage. -/
def At (bound : Bool) (stage : StopStage) (server : Server) : Prop :=
  (simpleHttpServer bound).Reachable server ∧ server.stopStage = stage

theorem At.step {stage : StopStage} (h : At bound stage server) {a : ServerStep} (ha : a ≠ .stop) :
    At bound stage (server.step a) :=
  ⟨reachable_step h.1 a, (proceeds_step ha).stopStage.trans h.2⟩

theorem moves_step (bound : Bool) (server : Server) (a : ServerStep) :
    ReflTransGen (simpleHttpServer bound).Moves server (server.step a) :=
  TransitionSystem.moves_step (simpleHttpServer bound) server a

/-! ## The accept thread -/

/-- Who is woken by `notify_one`, if anybody. -/
theorem exists_notifyOne (h : server.acceptThread = .notifying) :
    ∃ woken, (server.notifyOne woken).acceptThread = .atLoop := by
  by_cases hwaiting : ∃ i, server.workers i = .waiting
  · obtain ⟨i, hi⟩ := hwaiting
    exact ⟨i, by simp [notifyOne, h, hi]⟩
  · have hnobody : ∀ i, server.workers i ≠ .waiting := not_exists.mp hwaiting
    exact ⟨0, by simp [notifyOne, h, hnobody]⟩

theorem exists_acceptThread_step (h : At bound .joiningAcceptThread server)
    (hthread : server.acceptThread ≠ .returned) :
    ∃ a : ServerStep, a ≠ .stop ∧
      (server.step a).acceptThread.distance < server.acceptThread.distance := by
  have hrunning : server.running = false := retired_of_reachable h.1 1 (by rw [h.2]; decide)
  cases hcase : server.acceptThread with
  | returned => exact absurd hcase hthread
  | atLoop =>
    refine ⟨.checkRunning, ServerStep.noConfusion, ?_⟩
    simp [step, checkRunning, hcase, hrunning, AcceptThread.distance]
  | accepting =>
    refine ⟨.accept none, ServerStep.noConfusion, ?_⟩
    simp [step, accept, hcase, AcceptThread.distance]
  | notifying =>
    obtain ⟨woken, hwoken⟩ := exists_notifyOne hcase
    refine ⟨.notifyOne woken, ServerStep.noConfusion, ?_⟩
    rw [step, hwoken]
    decide
  | refusing client =>
    refine ⟨.closeRefused, ServerStep.noConfusion, ?_⟩
    simp [step, closeRefused, hcase, AcceptThread.distance]
  | dispatching client =>
    refine ⟨.dispatchClient, ServerStep.noConfusion, ?_⟩
    simp only [step, dispatchClient, hcase]
    split
    · simp [AcceptThread.distance]
    · simp [AcceptThread.distance]

theorem acceptThread_returns (h : At bound .joiningAcceptThread server) :
    ∃ server', ReflTransGen (simpleHttpServer bound).Moves server server' ∧
      At bound .joiningAcceptThread server' ∧ server'.acceptThread = .returned := by
  refine exists_moves_until (fun s => s.acceptThread.distance) (fun s hs hthread => ?_) h
  obtain ⟨a, ha, hlt⟩ := exists_acceptThread_step hs hthread
  exact ⟨s.step a, moves_step bound s a, hs.step ha, hlt⟩

/-! ## The workers -/

theorem exists_worker_step (h : At bound .joiningWorkers server) {i : Fin kAdminWorkerCount}
    (hexited : server.workers i ≠ .exited) :
    ∃ a : ServerStep, a ≠ .stop ∧
      ((server.step a).workers i).distance (server.step a).sseStreams.length <
        (server.workers i).distance server.sseStreams.length := by
  have hretired := retired_of_reachable h.1
  have hdown : server.connectionQueueShutdown = true := hretired 4 (by rw [h.2]; decide)
  cases hcase : server.workers i with
  | exited => exact absurd hcase hexited
  | waiting => exact absurd hcase (hretired 5 (by rw [h.2]; decide) i)
  | awake =>
    refine ⟨.connectionWorkerLoop i, ServerStep.noConfusion, ?_⟩
    simp [step, connectionWorkerLoop, hcase, hdown, setWorker, ConnectionWorker.distance]
  | serving client =>
    refine ⟨.closeClient i, ServerStep.noConfusion, ?_⟩
    simp [step, closeClient, hcase, setWorker, ConnectionWorker.distance]
  | registering client cursor =>
    refine ⟨.reapStreams i, ServerStep.noConfusion, ?_⟩
    simp only [step, reapStreams, hcase]
    split
    · next stream hstream =>
      obtain ⟨hlt, -⟩ := List.getElem?_eq_some_iff.mp hstream
      split
      · -- The list gets shorter, and the cursor stays.
        simp only [hcase, ConnectionWorker.distance, List.length_eraseIdx_of_lt hlt]
        omega
      · simp only [setWorker, Function.update_self, ConnectionWorker.distance]
        omega
    · simp only [setWorker, Function.update_self, ConnectionWorker.distance]
      omega

/-- One worker exits, and those that have exited stay where they are. -/
theorem worker_exits (h : At bound .joiningWorkers server) (i : Fin kAdminWorkerCount) :
    ∃ server', ReflTransGen (simpleHttpServer bound).Moves server server' ∧
      (At bound .joiningWorkers server' ∧
        ∀ j, server.workers j = .exited → server'.workers j = .exited) ∧
      server'.workers i = .exited := by
  refine exists_moves_until (fun s => (s.workers i).distance s.sseStreams.length)
    (fun s hs hexited => ?_) ⟨h, fun _ hj => hj⟩
  obtain ⟨a, ha, hlt⟩ := exists_worker_step hs.1 hexited
  exact ⟨s.step a, moves_step bound s a,
    ⟨hs.1.step ha, fun j hj => (proceeds_step ha).workers j (hs.2 j hj)⟩, hlt⟩

theorem workers_exit (h : At bound .joiningWorkers server) :
    ∃ server', ReflTransGen (simpleHttpServer bound).Moves server server' ∧
      At bound .joiningWorkers server' ∧ ∀ i, server'.workers i = .exited := by
  refine exists_moves_until
    (fun s => (Finset.univ.filter fun i => s.workers i ≠ .exited).card) (fun s hs hexited => ?_) h
  obtain ⟨i, hi⟩ := not_forall.mp hexited
  obtain ⟨t, hmoves, ⟨ht, hstay⟩, hiexited⟩ := worker_exits hs i
  refine ⟨t, hmoves, ht, Finset.card_lt_card ?_⟩
  rw [Finset.ssubset_iff_of_subset]
  · exact ⟨i, by simpa using hi, by simpa using hiexited⟩
  · intro j hj
    simp only [Finset.mem_filter, Finset.mem_univ, true_and] at hj ⊢
    exact fun hjs => hj (hstay j hjs)

/-! ## The queue and the streams -/

theorem queue_empties (h : At bound .closingQueue server) :
    ∃ server', ReflTransGen (simpleHttpServer bound).Moves server server' ∧
      At bound .closingQueue server' ∧ server'.connectionQueue = [] := by
  refine exists_moves_until (fun s => s.connectionQueue.length) (fun s hs hqueue => ?_) h
  obtain ⟨client, rest, hcons⟩ := List.exists_cons_of_ne_nil hqueue
  have hstop : s.step .stop =
      { s with sockets := s.sockets.closed client, connectionQueue := rest } := by
    simp only [step, stop, hs.2, hcons]
  refine ⟨s.step .stop, moves_step bound s .stop, ⟨reachable_step hs.1 .stop, ?_⟩, ?_⟩
  · rw [hstop]
    exact hs.2
  · rw [hstop, hcons]
    exact Nat.lt_succ_self _

/-- The loop that shuts the streams down is over them, or behind them. -/
theorem streams_shut (h : (simpleHttpServer bound).Reachable server) {cursor : ℕ}
    (hstage : server.stopStage = .shuttingStreamsDown cursor) :
    ∃ server', ReflTransGen (simpleHttpServer bound).Moves server server' ∧
      (simpleHttpServer bound).Reachable server' ∧ server'.stopStage = .joiningStreams := by
  induction hleft : server.sseStreams.length - cursor generalizing server cursor with
  | zero =>
    have hstop : (server.step .stop).stopStage = .joiningStreams := by
      have hnone : server.sseStreams[cursor]? = none := List.getElem?_eq_none (by omega)
      simp only [step, stop, hstage, hnone]
    exact ⟨server.step .stop, moves_step bound server .stop, reachable_step h .stop, hstop⟩
  | succ left ih =>
    have hstop : (server.step .stop).stopStage = .shuttingStreamsDown (cursor + 1) ∧
        (server.step .stop).sseStreams = server.sseStreams := by
      have hlt : cursor < server.sseStreams.length := by omega
      obtain ⟨stream, hsome⟩ : ∃ stream, server.sseStreams[cursor]? = some stream :=
        ⟨_, List.getElem?_eq_getElem hlt⟩
      simp only [step, stop, hstage, hsome, and_self]
    obtain ⟨server', hmoves, hreachable, hshut⟩ :=
      ih (reachable_step h .stop) hstop.1 (by rw [hstop.2]; omega)
    exact ⟨server', (moves_step bound server .stop).trans hmoves, hreachable, hshut⟩

theorem streams_finish (h : At bound .joiningStreams server) :
    ∃ server', ReflTransGen (simpleHttpServer bound).Moves server server' ∧
      At bound .joiningStreams server' ∧ ∀ stream ∈ server'.sseStreams, stream.finished := by
  refine exists_moves_until (fun s => s.sseStreams.countP fun stream => !stream.finished)
    (fun s hs hunfinished => ?_) h
  obtain ⟨stream, hstream⟩ := not_forall.mp hunfinished
  obtain ⟨hmem, hrunning⟩ := Classical.not_imp.mp hstream
  obtain ⟨k, hk, rfl⟩ := List.getElem_of_mem hmem
  have hfinishes : (s.step (.streamFinishes k)).sseStreams =
      s.sseStreams.set k { s.sseStreams[k] with finished := true } := by
    simp only [step, streamFinishes, List.getElem?_eq_getElem hk]
  refine ⟨s.step (.streamFinishes k), moves_step bound s _, hs.step ServerStep.noConfusion, ?_⟩
  have hpos : 0 < s.sseStreams.countP fun stream => !stream.finished :=
    List.countP_pos_iff.mpr ⟨s.sseStreams[k], hmem, by simpa using hrunning⟩
  rw [hfinishes, List.countP_set hk]
  simp only [Bool.not_true, hrunning, Bool.not_false, if_true, Bool.false_eq_true, if_false]
  omega

theorem streams_close (h : At bound .closingStreams server) :
    ∃ server', ReflTransGen (simpleHttpServer bound).Moves server server' ∧
      At bound .closingStreams server' ∧ server'.sseStreams = [] := by
  refine exists_moves_until (fun s => s.sseStreams.length) (fun s hs hstreams => ?_) h
  obtain ⟨stream, rest, hcons⟩ := List.exists_cons_of_ne_nil hstreams
  have hstop : s.step .stop =
      { s with sockets := s.sockets.closed stream.socket, sseStreams := rest } := by
    simp only [step, stop, hs.2, hcons]
  refine ⟨s.step .stop, moves_step bound s .stop, ⟨reachable_step hs.1 .stop, ?_⟩, ?_⟩
  · rw [hstop]
    exact hs.2
  · rw [hstop, hcons]
    exact Nat.lt_succ_self _

/-! ## One stage after the other -/

/-- Moves that `stop` follows with its own. -/
theorem exists_later (h : (simpleHttpServer bound).Reachable server)
    (hmoves : ∃ server', ReflTransGen (simpleHttpServer bound).Moves server server' ∧
      server.stopStage.rank < (server'.step .stop).stopStage.rank) :
    ∃ server', ReflTransGen (simpleHttpServer bound).Moves server server' ∧
      (simpleHttpServer bound).Reachable server' ∧
      10 - server'.stopStage.rank < 10 - server.stopStage.rank := by
  obtain ⟨server', hmoves, hlater⟩ := hmoves
  refine ⟨server'.step .stop, hmoves.trans (moves_step bound server' .stop),
    reachable_step (h.moves hmoves) .stop, ?_⟩
  have hle : (server'.step .stop).stopStage.rank ≤ 10 := by
    cases (server'.step .stop).stopStage <;> simp [StopStage.rank]
  omega

theorem exists_later_stage (h : (simpleHttpServer bound).Reachable server)
    (hstage : server.stopStage ≠ .returned) :
    ∃ server', ReflTransGen (simpleHttpServer bound).Moves server server' ∧
      (simpleHttpServer bound).Reachable server' ∧
      10 - server'.stopStage.rank < 10 - server.stopStage.rank := by
  obtain ⟨stage, hcase⟩ : ∃ stage, server.stopStage = stage := ⟨_, rfl⟩
  cases stage with
  | returned => exact absurd hcase hstage
  | notCalled =>
    exact exists_later h ⟨server, ReflTransGen.refl, by simp [step, stop, hcase, StopStage.rank]⟩
  | closingListener =>
    exact exists_later h ⟨server, ReflTransGen.refl, by simp [step, stop, hcase, StopStage.rank]⟩
  | joiningAcceptThread =>
    obtain ⟨server', hmoves, hat, hreturned⟩ := acceptThread_returns ⟨h, hcase⟩
    exact exists_later h
      ⟨server', hmoves, by simp [step, stop, hat.2, hreturned, hcase, StopStage.rank]⟩
  | shuttingQueueDown =>
    exact exists_later h ⟨server, ReflTransGen.refl, by simp [step, stop, hcase, StopStage.rank]⟩
  | notifyingAll =>
    exact exists_later h ⟨server, ReflTransGen.refl, by simp [step, stop, hcase, StopStage.rank]⟩
  | joiningWorkers =>
    obtain ⟨server', hmoves, hat, hexited⟩ := workers_exit ⟨h, hcase⟩
    exact exists_later h
      ⟨server', hmoves, by simp [step, stop, hat.2, hexited, hcase, StopStage.rank]⟩
  | closingQueue =>
    obtain ⟨server', hmoves, hat, hqueue⟩ := queue_empties ⟨h, hcase⟩
    exact exists_later h
      ⟨server', hmoves, by simp [step, stop, hat.2, hqueue, hcase, StopStage.rank]⟩
  | shuttingStreamsDown cursor =>
    obtain ⟨server', hmoves, hreachable, hshut⟩ := streams_shut h hcase
    exact ⟨server', hmoves, hreachable, by simp [hshut, hcase, StopStage.rank]⟩
  | joiningStreams =>
    obtain ⟨server', hmoves, hat, hfinished⟩ := streams_finish ⟨h, hcase⟩
    have hall : (server'.step .stop).stopStage = .closingStreams := by
      simp only [step, stop, hat.2]
      rw [if_pos hfinished]
    exact exists_later h ⟨server', hmoves, by simp [hall, hcase, StopStage.rank]⟩
  | closingStreams =>
    obtain ⟨server', hmoves, hat, hstreams⟩ := streams_close ⟨h, hcase⟩
    exact exists_later h
      ⟨server', hmoves, by simp [step, stop, hat.2, hstreams, hcase, StopStage.rank]⟩

end Server

end Http
end MasterControl
