import MasterControl.Foundation.Descriptors
import MasterControl.Foundation.Runs

/-!
# The admin listener

`SimpleHttpServer` accepts connections on one thread, queues them for eight workers, and keeps the
streams of server-sent events in a list of their own, each with a thread.  `stop` retires the
threads one group after the other and closes what they have left.  Every thread takes its steps
when it pleases; a step that is not open to it changes nothing.

A descriptor is given away again as soon as it is closed, so a thread that used a connection it no
longer owns would hit somebody else's.  It never does (`serves_own_connections`), and what was
accepted is closed exactly once (`stop_closes_all`).  A queued connection does not wait beside an
idle worker (`no_lost_wakeup`), and `stop` cannot get stuck (`stop_can_return`).

Whether a handler speaks TLS makes no difference to who owns the socket, but that no response is a
stream then: the runs of a server with credentials are among those here.
-/

namespace MasterControl
namespace Http

open Foundation

def kAdminWorkerCount : ℕ := 8

instance : @NeZero ℕ Zero.ofOfNat0 kAdminWorkerCount := ⟨Nat.succ_ne_zero 7⟩

def kAdminConnectionQueueMaxDepth : ℕ := 64

/-- The accept thread. -/
inductive AcceptThread where
  | atLoop
  | accepting
  | dispatching (client : Handle)
  /-- The connection is queued; `notify_one` comes next. -/
  | notifying
  /-- The queue was full, or shut down. -/
  | refusing (client : Handle)
  | returned
  deriving DecidableEq

inductive ConnectionWorker where
  /-- Blocked on the condition variable. -/
  | waiting
  /-- About to look at the queue. -/
  | awake
  | serving (client : Handle)
  /-- Under the lock of the registry; the reap has come to the stream at the cursor. -/
  | registering (client : Handle) (cursor : ℕ)
  | exited
  deriving DecidableEq

/-- The worker has the lock of the registry. -/
def ConnectionWorker.inRegistry : ConnectionWorker → Bool
  | .registering _ _ => true
  | _ => false

structure SseStream where
  socket : Handle
  finished : Bool := false
  deriving DecidableEq

/-- How far `stop` has come. -/
inductive StopStage where
  | notCalled
  | closingListener
  | joiningAcceptThread
  | shuttingQueueDown
  | notifyingAll
  | joiningWorkers
  | closingQueue
  | shuttingStreamsDown (cursor : ℕ)
  | joiningStreams
  | closingStreams
  | returned
  deriving DecidableEq

structure Server where
  sockets : DescriptorTable := {}
  running : Bool
  listening : Bool
  acceptThread : AcceptThread
  workers : Fin kAdminWorkerCount → ConnectionWorker := fun _ => .awake
  connectionQueue : List Handle := []
  connectionQueueShutdown : Bool := false
  sseStreams : List SseStream := []
  stopStage : StopStage := .notCalled

namespace Server

/-- What `start` leaves, where the listener was bound or was not. -/
def started (bound : Bool) : Server where
  running := bound
  listening := bound
  acceptThread := if bound then .atLoop else .returned

variable (server : Server)

def setWorker (i : Fin kAdminWorkerCount) (worker : ConnectionWorker) : Server :=
  { server with workers := Function.update server.workers i worker }

/-! ## The accept thread -/

/-- `while (running_)` -/
def checkRunning : Server :=
  match server.acceptThread with
  | .atLoop => { server with acceptThread := if server.running then .accepting else .returned }
  | _ => server

/-- What `accept` gives, or `INVALID_SOCKET`.  A closed listener gives no connection. -/
def accept (client : Option ℕ) : Server :=
  match server.acceptThread, client with
  | .accepting, none => { server with acceptThread := .atLoop }
  | .accepting, some descriptor =>
    if server.listening ∧ server.sockets.Free descriptor then
      { server with
        sockets := server.sockets.opened descriptor
        acceptThread := .dispatching (server.sockets.next descriptor) }
    else server
  | _, _ => server

def dispatchClient : Server :=
  match server.acceptThread with
  | .dispatching client =>
    if server.connectionQueueShutdown = false ∧
        server.connectionQueue.length < kAdminConnectionQueueMaxDepth then
      { server with
        connectionQueue := server.connectionQueue ++ [client]
        acceptThread := .notifying }
    else { server with acceptThread := .refusing client }
  | _ => server

/-- `notify_one` wakes one of those who wait, and nobody if nobody waits. -/
def notifyOne (woken : Fin kAdminWorkerCount) : Server :=
  match server.acceptThread with
  | .notifying =>
    if server.workers woken = .waiting then
      { server.setWorker woken .awake with acceptThread := .atLoop }
    else if ∀ i, server.workers i ≠ .waiting then { server with acceptThread := .atLoop }
    else server
  | _ => server

/-- The 503 response is sent, or the connection shut down. -/
def sendSaturation : Server :=
  match server.acceptThread with
  | .refusing client => { server with sockets := server.sockets.used client }
  | _ => server

def closeRefused : Server :=
  match server.acceptThread with
  | .refusing client =>
    { server with sockets := server.sockets.closed client, acceptThread := .atLoop }
  | _ => server

/-! ## The workers -/

/-- A condition variable may wake whom it pleases. -/
def wake (i : Fin kAdminWorkerCount) : Server :=
  match server.workers i with
  | .waiting => server.setWorker i .awake
  | _ => server

/-- A worker looks at the queue. -/
def connectionWorkerLoop (i : Fin kAdminWorkerCount) : Server :=
  match server.workers i with
  | .awake =>
    if server.connectionQueueShutdown then server.setWorker i .exited
    else
      match server.connectionQueue with
      | [] => server.setWorker i .waiting
      | client :: rest =>
        { server.setWorker i (.serving client) with connectionQueue := rest }
  | _ => server

/-- Something is received from the connection, sent to it, or it is shut down. -/
def handleClient (i : Fin kAdminWorkerCount) : Server :=
  match server.workers i with
  | .serving client => { server with sockets := server.sockets.used client }
  | _ => server

/-- The handler is done, and closes the connection. -/
def closeClient (i : Fin kAdminWorkerCount) : Server :=
  match server.workers i with
  | .serving client =>
    { server.setWorker i .awake with sockets := server.sockets.closed client }
  | _ => server

/-- The response is a stream, and the worker gets the lock of the registry. -/
def enterRegistry (i : Fin kAdminWorkerCount) : Server :=
  match server.workers i with
  | .serving client =>
    if ∀ j, (server.workers j).inRegistry = false then
      server.setWorker i (.registering client 0)
    else server
  | _ => server

/-- One turn of the reap: a finished stream is joined, closed and erased.  Behind the last one the
new stream is registered. -/
def reapStreams (i : Fin kAdminWorkerCount) : Server :=
  match server.workers i with
  | .registering client cursor =>
    match server.sseStreams[cursor]? with
    | some stream =>
      if stream.finished then
        { server with
          sockets := server.sockets.closed stream.socket
          sseStreams := server.sseStreams.eraseIdx cursor }
      else server.setWorker i (.registering client (cursor + 1))
    | none =>
      { server.setWorker i .awake with sseStreams := server.sseStreams ++ [{ socket := client }] }
  | _ => server

/-! ## The streams -/

/-- The handler of a stream sends something, or the connection is shut down behind it. -/
def streamSends (k : ℕ) : Server :=
  match server.sseStreams[k]? with
  | some stream =>
    if stream.finished then server
    else { server with sockets := server.sockets.used stream.socket }
  | none => server

def streamFinishes (k : ℕ) : Server :=
  match server.sseStreams[k]? with
  | some stream =>
    { server with sseStreams := server.sseStreams.set k { stream with finished := true } }
  | none => server

/-! ## Stopping -/

/-- The next statement of `stop`; a `join` waits for its thread. -/
def stop : Server :=
  match server.stopStage with
  | .notCalled => { server with running := false, stopStage := .closingListener }
  | .closingListener => { server with listening := false, stopStage := .joiningAcceptThread }
  | .joiningAcceptThread =>
    if server.acceptThread = .returned then { server with stopStage := .shuttingQueueDown }
    else server
  | .shuttingQueueDown =>
    { server with connectionQueueShutdown := true, stopStage := .notifyingAll }
  | .notifyingAll =>
    { server with
      workers := fun i => if server.workers i = .waiting then .awake else server.workers i
      stopStage := .joiningWorkers }
  | .joiningWorkers =>
    if ∀ i, server.workers i = .exited then { server with stopStage := .closingQueue } else server
  | .closingQueue =>
    match server.connectionQueue with
    | [] => { server with stopStage := .shuttingStreamsDown 0 }
    | client :: rest =>
      { server with sockets := server.sockets.closed client, connectionQueue := rest }
  | .shuttingStreamsDown cursor =>
    match server.sseStreams[cursor]? with
    | some stream =>
      { server with
        sockets := if stream.finished then server.sockets else server.sockets.used stream.socket
        stopStage := .shuttingStreamsDown (cursor + 1) }
    | none => { server with stopStage := .joiningStreams }
  | .joiningStreams =>
    if ∀ stream ∈ server.sseStreams, stream.finished then
      { server with stopStage := .closingStreams }
    else server
  | .closingStreams =>
    -- The list is cleared behind the loop, and nobody else looks at it any more.
    match server.sseStreams with
    | [] => { server with stopStage := .returned }
    | stream :: rest =>
      { server with sockets := server.sockets.closed stream.socket, sseStreams := rest }
  | .returned => server

end Server

/-- Whose turn it is, with what the system and the peers have to say. -/
inductive ServerStep where
  | checkRunning
  | accept (client : Option ℕ)
  | dispatchClient
  | notifyOne (woken : Fin kAdminWorkerCount)
  | sendSaturation
  | closeRefused
  | wake (i : Fin kAdminWorkerCount)
  | connectionWorkerLoop (i : Fin kAdminWorkerCount)
  | handleClient (i : Fin kAdminWorkerCount)
  | closeClient (i : Fin kAdminWorkerCount)
  | enterRegistry (i : Fin kAdminWorkerCount)
  | reapStreams (i : Fin kAdminWorkerCount)
  | streamSends (k : ℕ)
  | streamFinishes (k : ℕ)
  | stop
  deriving DecidableEq

def Server.step (server : Server) : ServerStep → Server
  | .checkRunning => server.checkRunning
  | .accept client => server.accept client
  | .dispatchClient => server.dispatchClient
  | .notifyOne woken => server.notifyOne woken
  | .sendSaturation => server.sendSaturation
  | .closeRefused => server.closeRefused
  | .wake i => server.wake i
  | .connectionWorkerLoop i => server.connectionWorkerLoop i
  | .handleClient i => server.handleClient i
  | .closeClient i => server.closeClient i
  | .enterRegistry i => server.enterRegistry i
  | .reapStreams i => server.reapStreams i
  | .streamSends k => server.streamSends k
  | .streamFinishes k => server.streamFinishes k
  | .stop => server.stop

/-- The runs of a server, from where `start` has left it. -/
def simpleHttpServer (bound : Bool) : TransitionSystem Server ServerStep where
  init := Server.started bound
  step := Server.step

/-! ## Who holds what -/

def AcceptThread.holds : AcceptThread → Multiset Handle
  | .dispatching client => {client}
  | .refusing client => {client}
  | _ => 0

def ConnectionWorker.holds : ConnectionWorker → Multiset Handle
  | .serving client => {client}
  | .registering client _ => {client}
  | _ => 0

namespace ConnectionWorker

variable (client : Handle) (cursor : ℕ)

@[simp] theorem holds_awake : awake.holds = 0 := rfl

@[simp] theorem holds_serving : (serving client).holds = {client} := rfl

@[simp] theorem holds_registering : (registering client cursor).holds = {client} := rfl

end ConnectionWorker

namespace Server

/-- The connections that somebody still has to close. -/
def held (server : Server) : Multiset Handle :=
  server.acceptThread.holds + server.connectionQueue + ∑ i, (server.workers i).holds +
    server.sseStreams.map SseStream.socket

/-- What holds between any two steps. -/
structure Sound (server : Server) : Prop where
  owns : Owns server.sockets server.held
  queue_le : server.connectionQueue.length ≤ kAdminConnectionQueueMaxDepth

variable {server : Server}

theorem Sound.of_held {server' : Server} (h : server.Sound)
    (hsockets : server'.sockets = server.sockets) (hheld : server'.held = server.held)
    (hqueue : server'.connectionQueue = server.connectionQueue) : server'.Sound where
  owns := by
    rw [hsockets, hheld]
    exact h.owns
  queue_le := by
    rw [hqueue]
    exact h.queue_le

theorem sound_started (bound : Bool) : (started bound).Sound where
  owns := by
    have hheld : (started bound).held = 0 := by
      cases bound <;> rfl
    rw [hheld]
    exact Owns.empty
  queue_le := Nat.zero_le _

/-! ### The accept thread -/

theorem Sound.checkRunning (h : server.Sound) : server.checkRunning.Sound := by
  unfold Server.checkRunning
  split
  · next hthread =>
    refine h.of_held rfl ?_ rfl
    simp only [held, hthread]
    split <;> rfl
  · exact h

theorem Sound.accept (h : server.Sound) (client : Option ℕ) : (server.accept client).Sound := by
  unfold Server.accept
  split
  · next hthread => exact h.of_held rfl (by simp only [held, hthread, AcceptThread.holds]) rfl
  · next descriptor hthread =>
    split
    · next hfree =>
      refine ⟨?_, h.queue_le⟩
      have howns := h.owns.opened hfree.2
      simpa only [held, hthread, AcceptThread.holds, zero_add, ← Multiset.singleton_add,
        ← add_assoc] using howns
    · exact h
  · exact h

theorem Sound.dispatchClient (h : server.Sound) : server.dispatchClient.Sound := by
  unfold Server.dispatchClient
  split
  · next client hthread =>
    split
    · next hroom =>
      refine ⟨?_, ?_⟩
      · have howns := h.owns
        simpa only [held, hthread, AcceptThread.holds, zero_add, ← Multiset.coe_add,
          Multiset.coe_singleton, add_comm {client}] using howns
      · rw [List.length_append]
        exact hroom.2
    · exact h.of_held rfl (by simp only [held, hthread, AcceptThread.holds]) rfl
  · exact h

/-- What one worker holds, and what is held beside. -/
theorem exists_held_update (server : Server) (i : Fin kAdminWorkerCount) :
    ∃ rest, ∑ j, (server.workers j).holds = (server.workers i).holds + rest ∧
      ∀ worker, ∑ j, (Function.update server.workers i worker j).holds = worker.holds + rest :=
  exists_sum_update server.workers ConnectionWorker.holds i

/-- A worker that holds what it held before. -/
theorem held_setWorker {i : Fin kAdminWorkerCount} {worker : ConnectionWorker}
    (hholds : worker.holds = (server.workers i).holds) :
    (server.setWorker i worker).held = server.held := by
  obtain ⟨rest, hbefore, hafter⟩ := exists_held_update server i
  simp only [held, setWorker, hafter, hbefore, hholds]

theorem Sound.setWorker (h : server.Sound) {i : Fin kAdminWorkerCount} {worker : ConnectionWorker}
    (hholds : worker.holds = (server.workers i).holds) : (server.setWorker i worker).Sound :=
  h.of_held rfl (held_setWorker hholds) rfl

theorem Sound.notifyOne (h : server.Sound) (woken : Fin kAdminWorkerCount) :
    (server.notifyOne woken).Sound := by
  unfold Server.notifyOne
  split
  · next hthread =>
    split
    · next hwaiting =>
      have hset : (server.setWorker woken .awake).Sound := h.setWorker (by rw [hwaiting]; rfl)
      refine hset.of_held rfl ?_ rfl
      simp only [held, Server.setWorker, hthread, AcceptThread.holds]
    · split
      · exact h.of_held rfl (by simp only [held, hthread, AcceptThread.holds]) rfl
      · exact h
  · exact h

/-- What somebody holds may be used. -/
theorem Sound.used (h : server.Sound) {client : Handle} (hclient : client ∈ server.held) :
    Sound { server with sockets := server.sockets.used client } :=
  ⟨h.owns.used hclient, h.queue_le⟩

/-- One connection is closed, and all others stay where they are. -/
theorem Sound.closed {server' : Server} (h : server.Sound) (client : Handle)
    (hheld : server.held = client ::ₘ server'.held)
    (hsockets : server'.sockets = server.sockets.closed client)
    (hqueue : server'.connectionQueue.length ≤ server.connectionQueue.length) :
    server'.Sound where
  owns := by
    have howns := h.owns
    rw [hheld] at howns
    rw [hsockets]
    exact howns.closed
  queue_le := hqueue.trans h.queue_le

theorem mem_held_of_refusing {client : Handle} (h : server.acceptThread = .refusing client) :
    client ∈ server.held := by
  simp [held, h, AcceptThread.holds]

theorem Sound.sendSaturation (h : server.Sound) : server.sendSaturation.Sound := by
  unfold Server.sendSaturation
  split
  · next hthread => exact h.used (mem_held_of_refusing hthread)
  · exact h

theorem Sound.closeRefused (h : server.Sound) : server.closeRefused.Sound := by
  unfold Server.closeRefused
  split
  · next client hthread =>
    refine h.closed client ?_ rfl le_rfl
    simp only [held, hthread, AcceptThread.holds, zero_add, ← Multiset.singleton_add, add_assoc]
  · exact h

/-! ### The workers -/

theorem Sound.wake (h : server.Sound) (i : Fin kAdminWorkerCount) : (server.wake i).Sound := by
  unfold Server.wake
  split
  · next hwaiting => exact h.setWorker (by rw [hwaiting]; rfl)
  · exact h

theorem Sound.connectionWorkerLoop (h : server.Sound) (i : Fin kAdminWorkerCount) :
    (server.connectionWorkerLoop i).Sound := by
  unfold Server.connectionWorkerLoop
  split
  · next hawake =>
    split
    · exact h.setWorker (by rw [hawake]; rfl)
    · split
      · exact h.setWorker (by rw [hawake]; rfl)
      · next client rest hqueue =>
        -- The connection passes from the queue to the worker.
        have hheld : held { server.setWorker i (.serving client) with connectionQueue := rest } =
            server.held := by
          obtain ⟨others, hbefore, hafter⟩ := exists_held_update server i
          simp only [held, Server.setWorker, hafter, hbefore, hawake, hqueue,
            ConnectionWorker.holds_awake, ConnectionWorker.holds_serving, zero_add,
            ← Multiset.cons_coe, ← Multiset.singleton_add]
          ac_rfl
        refine ⟨hheld ▸ h.owns, ?_⟩
        have hle := h.queue_le
        rw [hqueue, List.length_cons] at hle
        exact (Nat.le_succ _).trans hle
  · exact h

theorem mem_held_of_serving {i : Fin kAdminWorkerCount} {client : Handle}
    (h : server.workers i = .serving client) : client ∈ server.held := by
  have hsum : client ∈ ∑ j, (server.workers j).holds :=
    Multiset.mem_sum.mpr ⟨i, Finset.mem_univ i, by rw [h]; exact Multiset.mem_singleton_self client⟩
  simp [held, hsum]

theorem Sound.handleClient (h : server.Sound) (i : Fin kAdminWorkerCount) :
    (server.handleClient i).Sound := by
  unfold Server.handleClient
  split
  · next hserving => exact h.used (mem_held_of_serving hserving)
  · exact h

theorem Sound.closeClient (h : server.Sound) (i : Fin kAdminWorkerCount) :
    (server.closeClient i).Sound := by
  unfold Server.closeClient
  split
  · next client hserving =>
    refine h.closed client ?_ rfl le_rfl
    obtain ⟨others, hbefore, hafter⟩ := exists_held_update server i
    simp only [held, Server.setWorker, hafter, hbefore, hserving, ConnectionWorker.holds_awake,
      ConnectionWorker.holds_serving, zero_add, ← Multiset.singleton_add]
    ac_rfl
  · exact h

theorem Sound.enterRegistry (h : server.Sound) (i : Fin kAdminWorkerCount) :
    (server.enterRegistry i).Sound := by
  unfold Server.enterRegistry
  split
  · next hserving =>
    split
    · exact h.setWorker (by rw [hserving]; rfl)
    · exact h
  · exact h

/-- The sockets of the streams, but for one. -/
theorem coe_map_socket_eraseIdx {streams : List SseStream} {k : ℕ} {stream : SseStream}
    (h : streams[k]? = some stream) :
    (streams.map SseStream.socket : Multiset Handle) =
      stream.socket ::ₘ ((streams.eraseIdx k).map SseStream.socket : List Handle) := by
  obtain ⟨hk, rfl⟩ := List.getElem?_eq_some_iff.mp h
  rw [Multiset.cons_coe, Multiset.coe_eq_coe, ← List.map_cons]
  exact (List.getElem_cons_eraseIdx_perm hk).symm.map _

theorem Sound.reapStreams (h : server.Sound) (i : Fin kAdminWorkerCount) :
    (server.reapStreams i).Sound := by
  unfold Server.reapStreams
  split
  · next client cursor hregistering =>
    split
    · next stream hstream =>
      split
      · refine h.closed stream.socket ?_ rfl le_rfl
        simp only [held, coe_map_socket_eraseIdx hstream, ← Multiset.singleton_add]
        ac_rfl
      · exact h.setWorker (by rw [hregistering]; rfl)
    · -- The connection passes from the worker to its stream.
      refine h.of_held rfl ?_ rfl
      obtain ⟨others, hbefore, hafter⟩ := exists_held_update server i
      simp only [held, Server.setWorker, hafter, hbefore, hregistering,
        ConnectionWorker.holds_awake, ConnectionWorker.holds_registering, zero_add,
        List.map_append, List.map_cons, List.map_nil, ← Multiset.coe_add, Multiset.coe_singleton]
      ac_rfl
  · exact h

/-! ### The streams -/

theorem mem_held_of_stream {k : ℕ} {stream : SseStream} (h : server.sseStreams[k]? = some stream) :
    stream.socket ∈ server.held := by
  rw [held, coe_map_socket_eraseIdx h]
  simp

theorem Sound.streamSends (h : server.Sound) (k : ℕ) : (server.streamSends k).Sound := by
  unfold Server.streamSends
  split
  · next hstream =>
    split
    · exact h
    · exact h.used (mem_held_of_stream hstream)
  · exact h

theorem Sound.streamFinishes (h : server.Sound) (k : ℕ) : (server.streamFinishes k).Sound := by
  unfold Server.streamFinishes
  split
  · next stream hstream =>
    refine h.of_held rfl ?_ rfl
    obtain ⟨hk, rfl⟩ := List.getElem?_eq_some_iff.mp hstream
    have hsame : (server.sseStreams.set k { server.sseStreams[k] with finished := true }).map
        SseStream.socket = server.sseStreams.map SseStream.socket := by
      rw [List.map_set]
      exact List.ext_getElem (by simp) fun j hj hj' => by
        rw [List.getElem_set]
        split
        · next hjk => subst hjk; simp
        · rfl
    simp only [held, hsame]
  · exact h

/-! ### Stopping -/

theorem Sound.stop (h : server.Sound) : server.stop.Sound := by
  unfold Server.stop
  split
  case h_1 => exact h.of_held rfl rfl rfl
  case h_2 => exact h.of_held rfl rfl rfl
  case h_3 =>
    split
    · exact h.of_held rfl rfl rfl
    · exact h
  case h_4 => exact h.of_held rfl rfl rfl
  case h_5 =>
    -- Who waits holds nothing, and holds nothing when it has been woken.
    refine h.of_held rfl ?_ rfl
    have hholds : ∀ i, (if server.workers i = .waiting then ConnectionWorker.awake
        else server.workers i).holds = (server.workers i).holds := by
      intro i
      split
      · next hwaiting => rw [hwaiting]; rfl
      · rfl
    simp only [held, hholds]
  case h_6 =>
    split
    · exact h.of_held rfl rfl rfl
    · exact h
  case h_7 =>
    split
    · exact h.of_held rfl rfl rfl
    · next client rest hqueue =>
      refine h.closed client ?_ rfl (by rw [hqueue]; exact Nat.le_succ _)
      simp only [held, hqueue, ← Multiset.cons_coe, ← Multiset.singleton_add]
      ac_rfl
  case h_8 =>
    split
    · next stream hstream =>
      refine ⟨?_, h.queue_le⟩
      split
      · exact h.owns
      · exact h.owns.used (mem_held_of_stream hstream)
    · exact h.of_held rfl rfl rfl
  case h_9 =>
    split
    · exact h.of_held rfl rfl rfl
    · exact h
  case h_10 =>
    split
    · exact h.of_held rfl rfl rfl
    · next stream rest hstreams =>
      refine h.closed stream.socket ?_ rfl le_rfl
      simp only [held, hstreams, List.map_cons, ← Multiset.cons_coe, ← Multiset.singleton_add]
      ac_rfl
  case h_11 => exact h

theorem Sound.step (h : server.Sound) (a : ServerStep) : (server.step a).Sound := by
  cases a with
  | checkRunning => exact h.checkRunning
  | accept client => exact h.accept client
  | dispatchClient => exact h.dispatchClient
  | notifyOne woken => exact h.notifyOne woken
  | sendSaturation => exact h.sendSaturation
  | closeRefused => exact h.closeRefused
  | wake i => exact h.wake i
  | connectionWorkerLoop i => exact h.connectionWorkerLoop i
  | handleClient i => exact h.handleClient i
  | closeClient i => exact h.closeClient i
  | enterRegistry i => exact h.enterRegistry i
  | reapStreams i => exact h.reapStreams i
  | streamSends k => exact h.streamSends k
  | streamFinishes k => exact h.streamFinishes k
  | stop => exact h.stop

theorem sound_of_reachable {bound : Bool} (h : (simpleHttpServer bound).Reachable server) :
    server.Sound :=
  h.invariant (sound_started bound) fun _ a hs _ => hs.step a

end Server

/-- **Nobody touches a connection of somebody else.**  In every run, no connection is in two hands
at once, whatever is used or closed through a descriptor is the connection that was meant, nothing
is closed twice, and the queue stays within its bound. -/
theorem serves_own_connections {bound : Bool} {server : Server}
    (h : (simpleHttpServer bound).Reachable server) :
    server.held.Nodup ∧ (∀ event ∈ server.sockets.history, event.Sound) ∧
      server.sockets.closings.Nodup ∧
      server.connectionQueue.length ≤ kAdminConnectionQueueMaxDepth := by
  have hsound := Server.sound_of_reachable h
  exact ⟨hsound.owns.descriptors.of_map, hsound.owns.sound, hsound.owns.closings_nodup,
    hsound.queue_le⟩

/-- A connection is served and closed, and the next one gets its descriptor. -/
def reusedDescriptor : List ServerStep :=
  [.checkRunning, .accept (some 7), .dispatchClient, .notifyOne 0, .connectionWorkerLoop 0,
    .handleClient 0, .closeClient 0, .checkRunning, .accept (some 7), .dispatchClient,
    .notifyOne 0, .connectionWorkerLoop 3, .handleClient 3]

theorem serves_own_connections_reusedDescriptor :
    ((simpleHttpServer true).run (Server.started true) reusedDescriptor).sockets.history =
        [.opened ⟨0, 7⟩, .used ⟨0, 7⟩ (some ⟨0, 7⟩), .closed ⟨0, 7⟩ (some ⟨0, 7⟩),
          .opened ⟨1, 7⟩, .used ⟨1, 7⟩ (some ⟨1, 7⟩)] ∧
      ∀ event ∈
        ((simpleHttpServer true).run (Server.started true) reusedDescriptor).sockets.history,
        event.Sound := by
  refine ⟨by decide, ?_⟩
  exact (serves_own_connections (TransitionSystem.Reachable.run
    TransitionSystem.ReachableBy.init reusedDescriptor)).2.1

end Http
end MasterControl
