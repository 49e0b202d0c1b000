import MasterControl.Foundation.Processes
import MasterControl.Gateway.Flight

/-!
# Every request is answered once

What the threads do to the requests in flight is a sequence of moves (`step_flight`), so the
books stay in order in every run, whatever the order of the steps: the queue is bounded, each
request is answered inline or becomes one job, jobs are taken in the order of arrival and by one
worker each, and none outlives its run.  No job is stranded either: while one waits, a wake-up
is due or some worker moves (`Upright.roused`).

What can break this is an answer that cannot be written.  `intake_law` covers the runs in which
every path that is repeated is UTF-8; without that a single request ends the process, with all the
jobs that wait (`unwritable_path_ends_gateway`).
-/

namespace MasterControl
namespace Gateway

open Foundation

/-! ## Requests in flight -/

def AcceptedJob.ticket (job : AcceptedJob) : Ticket := ⟨job.arrival, job.run⟩

def ServeThread.inHand? : ServeThread → Option Nat
  | .routing arrival _ => some arrival
  | .answering arrival _ => some arrival
  | _ => none

/-- The job a worker has, and what it was executed with. -/
def WorkerThread.post : WorkerThread → Option (Ticket × Option Bytes)
  | .holding job => some (job.ticket, none)
  | .executing job body => some (job.ticket, some body)
  | _ => none

/-- A worker that is neither blocked nor at its end. -/
def WorkerThread.moves : WorkerThread → Bool
  | .waiting => false
  | .finished => false
  | _ => true

def GatewayIntake.flight (g : GatewayIntake) : Flight where
  inHand := g.serve.inHand?
  queue := g.jobQueue.map AcceptedJob.ticket
  worker w := (g.workers[w]?).bind WorkerThread.post
  arrivals := g.arrivals
  history := g.history

/-! ## What holds between the steps -/

/-- What each stage of `Start` and `Stop` may rely on. -/
def GatewayIntake.Shape (g : GatewayIntake) : Prop :=
  match g.lifecycle with
  | .idle =>
    g.requestQueue = g.running ∧
      if g.running then g.jobQueueShutdown = false ∧ g.workers.length = kGatewayWorkerCount
      else g.serve = .absent ∧ g.workers = [] ∧ g.jobQueue = []
  | .resetQueue =>
    (g.requestQueue = true ∧ g.running = true) ∧
      g.serve = .absent ∧ g.workers = [] ∧ g.jobQueue = []
  | .spawnServe =>
    (g.requestQueue = true ∧ g.running = true) ∧
      g.jobQueueShutdown = false ∧ g.serve = .absent ∧ g.workers = []
  | .spawnWorkers remaining =>
    (g.requestQueue = true ∧ g.running = true) ∧
      g.jobQueueShutdown = false ∧ g.workers.length + remaining = kGatewayWorkerCount
  | .signal => g.running = false ∧ g.workers.length = kGatewayWorkerCount
  | .notifyAll => g.running = false ∧ g.jobQueueShutdown = true
  | .joinServe => g.running = false ∧ g.jobQueueShutdown = true
  | .joinWorkers => g.running = false ∧ g.jobQueueShutdown = true ∧ g.serve = .absent
  | .clearQueue => g.running = false ∧ g.serve = .absent ∧ g.workers = []
  | .closeHandles => g.running = false ∧ g.serve = .absent ∧ g.workers = [] ∧ g.jobQueue = []

/-- A worker is about to look at the queue, or will be started. -/
def GatewayIntake.Roused (g : GatewayIntake) : Prop :=
  g.serve = .notifying ∨ (∃ worker ∈ g.workers, worker.moves = true) ∨
    ∃ remaining, g.lifecycle = .spawnWorkers (remaining + 1)

/-- Where a worker stands, its job fits. -/
def WorkerThread.Fits (shutdown : Bool) : WorkerThread → Prop
  | .holding job => job.job.body.length ≤ kMaxGatewayRequestBytes
  | .executing job body => receivedBody job.job = .complete body
  | .finished => shutdown = true
  | _ => True

/-- What the receive thread has in hand can be answered. -/
def ServeThread.Fits (configuration : IntakeConfiguration) : ServeThread → Prop
  | .routing _ request =>
    routeOf configuration request = .wrongVerb ∨ routeOf configuration request = .notFound →
      validUtf8 request.path = true
  | .answering _ answer => answer.writable = true
  | _ => True

structure Upright (configuration : IntakeConfiguration) (g : GatewayIntake) : Prop where
  alive : g.terminated = false
  shape : g.Shape
  serve : g.serve.Fits configuration
  queue : ∀ job ∈ g.jobQueue, job.job.body.length ≤ kMaxGatewayRequestBytes
  workers : ∀ worker ∈ g.workers, worker.Fits g.jobQueueShutdown
  roused : g.jobQueue ≠ [] → g.jobQueueShutdown = false → g.Roused

/-! ## Reading the shape -/

section Shape

variable {configuration : IntakeConfiguration} {g g' : GatewayIntake} {w : Nat}
  {old new : WorkerThread}

theorem GatewayIntake.Shape.congr (h : g.Shape) (hlifecycle : g'.lifecycle = g.lifecycle)
    (hrunning : g'.running = g.running) (hrequests : g'.requestQueue = g.requestQueue)
    (hshutdown : g'.jobQueueShutdown = g.jobQueueShutdown)
    (hlength : g'.workers.length = g.workers.length)
    (hserve : g.serve = .absent → g'.serve = .absent)
    (hqueue : g.serve = .absent → g.workers = [] → g.jobQueue = [] → g'.jobQueue = []) :
    g'.Shape := by
  have hworkers : g.workers = [] → g'.workers = [] := fun hnil =>
    List.eq_nil_of_length_eq_zero (hlength.trans (List.length_eq_zero_iff.mpr hnil))
  unfold Shape at h ⊢
  rw [hlifecycle, hrunning, hrequests, hshutdown, hlength]
  split at h
  · refine h.imp_right fun h => ?_
    split at h
    · next hr => rwa [if_pos hr]
    · next hr =>
      rw [if_neg hr]
      exact ⟨hserve h.1, hworkers h.2.1, hqueue h.1 h.2.1 h.2.2⟩
  · exact ⟨h.1, hserve h.2.1, hworkers h.2.2.1, hqueue h.2.1 h.2.2.1 h.2.2.2⟩
  · exact ⟨h.1, h.2.1, hserve h.2.2.1, hworkers h.2.2.2⟩
  · exact h
  · exact h
  · exact h
  · exact h
  · exact ⟨h.1, h.2.1, hserve h.2.2⟩
  · exact ⟨h.1, hserve h.2.1, hworkers h.2.2⟩
  · exact ⟨h.1, hserve h.2.1, hworkers h.2.2.1, hqueue h.2.1 h.2.2.1 h.2.2.2⟩

/-- While there is a receive thread and the queue is open, the workers are there or come. -/
theorem GatewayIntake.Shape.staffed (h : g.Shape) (hserve : g.serve ≠ .absent)
    (hshutdown : g.jobQueueShutdown = false) :
    g.workers ≠ [] ∨ ∃ remaining, g.lifecycle = .spawnWorkers (remaining + 1) := by
  have hmanned : ∀ {n}, n = kGatewayWorkerCount → g.workers.length = n → g.workers ≠ [] := by
    rintro n rfl hlength hnil
    rw [hnil] at hlength
    cases hlength
  unfold Shape at h
  split at h
  · split at h
    · exact Or.inl (hmanned rfl h.2.2)
    · exact absurd h.2.1 hserve
  · exact absurd h.2.1 hserve
  · exact absurd h.2.2.1 hserve
  · next remaining hlifecycle =>
    cases remaining with
    | zero => exact Or.inl (hmanned rfl h.2.2)
    | succ remaining => exact Or.inr ⟨remaining, hlifecycle⟩
  · exact Or.inl (hmanned rfl h.2)
  · cases hshutdown.symm.trans h.2
  · cases hshutdown.symm.trans h.2
  · cases hshutdown.symm.trans h.2.1
  · exact absurd h.2.1 hserve
  · exact absurd h.2.1 hserve

end Shape

/-! ## The posts of the workers -/

section Posts

variable {g : GatewayIntake} {w : Nat} {old new : WorkerThread}

theorem flight_worker_set (h : g.workers[w]? = some old) :
    (fun v : Nat => ((g.workers.set w new)[v]?).bind WorkerThread.post) =
      Function.update (fun v : Nat => (g.workers[v]?).bind WorkerThread.post) w new.post :=
  bind_getElem?_set WorkerThread.post h

/-- A worker that keeps its post changes nothing in flight. -/
theorem flight_worker_set_of_post_eq (h : g.workers[w]? = some old) (hpost : new.post = old.post) :
    (fun v : Nat => ((g.workers.set w new)[v]?).bind WorkerThread.post) =
      fun v : Nat => (g.workers[v]?).bind WorkerThread.post := by
  rw [flight_worker_set h, hpost]
  refine (congrArg _ ?_).trans (Function.update_eq_self w _)
  rw [h, Option.bind_some]

theorem flight_withWorker (h : g.workers[w]? = some old) (hpost : new.post = old.post) :
    GatewayIntake.flight { g with workers := g.workers.set w new } = g.flight :=
  congrArg (fun f => { g.flight with worker := f }) (flight_worker_set_of_post_eq h hpost)

theorem flight_worker_of_getElem? (h : g.workers[w]? = some old) : g.flight.worker w = old.post := by
  show (g.workers[w]?).bind WorkerThread.post = old.post
  rw [h, Option.bind_some]

end Posts

/-! ## Ends of jobs -/

section Ends

variable (services : GatewayServices) {job : AcceptedJob} {body : Bytes}

/-- What is drained stays within the limit. -/
theorem length_le_of_drainBody {reads : List EntityRead} {start : Bytes}
    (hstart : start.length ≤ kMaxGatewayRequestBytes) (h : drainBody start reads = .complete body) :
    body.length ≤ kMaxGatewayRequestBytes := by
  induction reads generalizing start with
  | nil =>
    cases h
    exact hstart
  | cons read reads ih =>
    cases read with
    | bytes chunk =>
      cases chunk with
      | nil =>
        cases h
        exact hstart
      | cons b chunk =>
        rw [drainBody] at h
        · split at h
          · cases h
          · next hle => exact ih (Nat.le_of_not_lt hle) h
        · exact List.cons_ne_nil b chunk
    | endOfFile =>
      cases h
      exact hstart
    | connectionGone => cases h
    | otherError =>
      cases h
      exact hstart

theorem length_le_of_receivedBody {j : GatewayRequestJob}
    (hjob : j.body.length ≤ kMaxGatewayRequestBytes) (h : receivedBody j = .complete body) :
    body.length ≤ kMaxGatewayRequestBytes := by
  unfold receivedBody at h
  split at h
  · exact length_le_of_drainBody hjob h
  · cases h
    exact hjob

/-- A job whose body arrived is answered. -/
theorem settles_of_receivedBody (h : receivedBody job.job = .complete body) :
    Settles job.arrival (some body) (GatewayIntake.settled services job) := by
  obtain ⟨statusCode, reason, reply, hreply⟩ :
      ∃ statusCode reason reply,
        processGatewayJob services job.job = .answered statusCode reason reply := by
    unfold processGatewayJob
    rw [h]
    dsimp only
    split <;> exact ⟨_, _, _, rfl⟩
  rw [GatewayIntake.settled, hreply]
  exact .responded statusCode reason reply

theorem settles_none (job : AcceptedJob) :
    Settles job.arrival none (GatewayIntake.settled services job) := by
  unfold GatewayIntake.settled
  split
  · exact .abandoned rfl
  · exact .responded _ _ _

end Ends

/-! ## One step -/

/-- The next state is upright, and requests made at most one move. -/
def Steps (configuration : IntakeConfiguration) (g g' : GatewayIntake) : Prop :=
  Upright configuration g' ∧ (g'.flight = g.flight ∨ g.flight.Move g'.flight)

section Steps

variable {configuration : IntakeConfiguration} {g : GatewayIntake} {w : Nat}
  {old new : WorkerThread}

theorem Upright.refl (h : Upright configuration g) : Steps configuration g g := ⟨h, Or.inl rfl⟩

/-- The receive thread moves on; if a wake-up was due, some worker is up. -/
theorem Upright.withServe {serve : ServeThread} (h : Upright configuration g)
    (hpresent : g.serve ≠ .absent)
    (hnotify : g.serve = .notifying → g.jobQueueShutdown = false →
      (∃ worker ∈ g.workers, worker.moves = true) ∨
        ∃ remaining, g.lifecycle = .spawnWorkers (remaining + 1))
    (hfits : serve.Fits configuration) (arrivals : Nat) (history : List IntakeEvent) :
    Upright configuration { g with serve := serve, arrivals := arrivals, history := history } where
  alive := h.alive
  shape := h.shape.congr rfl rfl rfl rfl rfl (fun habsent => absurd habsent hpresent)
    fun habsent => absurd habsent hpresent
  serve := hfits
  queue := h.queue
  workers := h.workers
  roused hqueue hshutdown := by
    rcases h.roused hqueue hshutdown with hnotifying | hmoves
    · exact Or.inr (hnotify hnotifying hshutdown)
    · exact Or.inr hmoves

/-- A worker moves on, and may take a job out of the queue. -/
theorem Upright.withWorker {queue : List AcceptedJob} (h : Upright configuration g)
    (hw : g.workers[w]? = some old) (hsub : ∀ job ∈ queue, job ∈ g.jobQueue)
    (hfits : new.Fits g.jobQueueShutdown)
    (hmoves : queue ≠ [] → g.jobQueueShutdown = false → new.moves = true)
    (history : List IntakeEvent) :
    Upright configuration { g with
      jobQueue := queue
      workers := g.workers.set w new
      history := history } where
  alive := h.alive
  shape := by
    refine h.shape.congr rfl rfl rfl rfl List.length_set id fun _ _ hnil => ?_
    refine List.eq_nil_iff_forall_not_mem.mpr fun job hjob => ?_
    have hmem := hsub job hjob
    rw [hnil] at hmem
    exact List.not_mem_nil hmem
  serve := h.serve
  queue job hjob := h.queue job (hsub job hjob)
  workers worker hworker := by
    rcases List.mem_or_eq_of_mem_set hworker with hworker | rfl
    · exact h.workers worker hworker
    · exact hfits
  roused hqueue hshutdown := by
    obtain ⟨hlt, -⟩ := List.getElem?_eq_some_iff.mp hw
    exact Or.inr (Or.inl ⟨new, List.mem_set hlt new, hmoves hqueue hshutdown⟩)

theorem flight_withServe {serve : ServeThread} (h : serve.inHand? = g.serve.inHand?) :
    GatewayIntake.flight { g with serve := serve } = g.flight :=
  congrArg (fun o => { g.flight with inHand := o }) h

theorem Upright.checkRunning (h : Upright configuration g) :
    Steps configuration g g.checkRunning := by
  unfold GatewayIntake.checkRunning
  split
  · next pending hserve =>
    split
    · exact ⟨h.withServe (by simp [hserve]) (by simp [hserve]) (by trivial) _ _,
        Or.inl (flight_withServe (by rw [hserve]; rfl))⟩
    · exact ⟨h.withServe (by simp [hserve]) (by simp [hserve]) (by trivial) _ _,
        Or.inl (flight_withServe (by rw [hserve]; rfl))⟩
  · exact h.refl

/-- The condition on what is received: a path that will be repeated is UTF-8. -/
def PathRepeatable (configuration : IntakeConfiguration) (_ : GatewayIntake) (label : IntakeLabel) :
    Prop :=
  ∀ request, label = .receive (.request request) →
    routeOf configuration request = .wrongVerb ∨ routeOf configuration request = .notFound →
      validUtf8 request.path = true

theorem Upright.receive {outcome : ReceiveOutcome} (h : Upright configuration g)
    (hpath : PathRepeatable configuration g (.receive outcome)) :
    Steps configuration g (g.receive outcome) := by
  unfold GatewayIntake.receive
  split
  · next hserve =>
    exact ⟨h.withServe (by simp [hserve]) (by simp [hserve]) (by trivial) _ _,
      Or.inl (flight_withServe (by rw [hserve]; rfl))⟩
  · next hserve =>
    exact ⟨h.withServe (by simp [hserve]) (by simp [hserve]) (by trivial) _ _,
      Or.inl (flight_withServe (by rw [hserve]; rfl))⟩
  · next hserve =>
    exact ⟨h.withServe (by simp [hserve]) (by simp [hserve]) (by trivial) _ _,
      Or.inl (flight_withServe (by rw [hserve]; rfl))⟩
  · next hserve =>
    exact ⟨h.withServe (by simp [hserve]) (by simp [hserve]) (by trivial) _ _,
      Or.inl (flight_withServe (by rw [hserve]; rfl))⟩
  · next request hserve =>
    refine ⟨h.withServe (by simp [hserve]) (by simp [hserve]) (by exact hpath request rfl) _ _,
      Or.inr ?_⟩
    have hhand : g.flight.inHand = none := by
      show g.serve.inHand? = none
      rw [hserve]
      rfl
    exact .receive hhand
  · exact h.refl

/-- Whatever the receive thread answers, it was able to write it. -/
theorem writable_of_fits {arrival : Nat} {request : ReceivedRequest}
    (h : (ServeThread.routing arrival request).Fits configuration) :
    (routeOf configuration request = .wrongVerb → (wrongVerbAnswer request).writable = true) ∧
      (routeOf configuration request = .notFound →
        (notFoundAnswer configuration request).writable = true) := by
  constructor
  · intro hroute
    simp [wrongVerbAnswer, InlineAnswer.writable, InlineValue.writable, h (Or.inl hroute)]
  · intro hroute
    simp [notFoundAnswer, InlineAnswer.writable, InlineValue.writable, h (Or.inr hroute)]

theorem body_length_le_of_route {request : ReceivedRequest}
    (h : routeOf configuration request = .queue) :
    request.body.length ≤ kMaxGatewayRequestBytes := by
  unfold routeOf at h
  split at h
  · cases h
  · split at h
    · split at h
      · cases h
      · next hlarge =>
        simp only [ReceivedRequest.payloadTooLarge, Bool.or_eq_true, decide_eq_true_eq,
          not_or] at hlarge
        exact Nat.le_of_not_lt hlarge.1
    · cases h

theorem Upright.enqueue {arrival : Nat} {request : ReceivedRequest} (h : Upright configuration g)
    (hserve : g.serve = .routing arrival request)
    (hbody : request.body.length ≤ kMaxGatewayRequestBytes) :
    Steps configuration g (g.enqueue arrival request) := by
  have hhand : g.flight.inHand = some arrival := by
    show g.serve.inHand? = some arrival
    rw [hserve]
    rfl
  unfold GatewayIntake.enqueue
  split
  · next hroom =>
    simp only [Bool.and_eq_true, decide_eq_true_eq] at hroom
    refine ⟨⟨h.alive, ?_, trivial, ?_, h.workers, fun _ _ => Or.inl rfl⟩, Or.inr ?_⟩
    · refine h.shape.congr rfl rfl rfl rfl rfl (fun habsent => ?_) fun habsent => ?_
      · cases hserve.symm.trans habsent
      · cases hserve.symm.trans habsent
    · intro job hjob
      rcases List.mem_append.mp hjob with hjob | hjob
      · exact h.queue job hjob
      · rw [List.mem_singleton.mp hjob]
        exact hbody
    · have hmove := Flight.Move.accept arrival g.runs hhand
        ((List.length_map _).trans_lt hroom.2)
      simpa [GatewayIntake.flight, GatewayIntake.log, AcceptedJob.ticket, jobOf,
        ServeThread.inHand?] using hmove
  · exact ⟨h.withServe (by simp [hserve]) (by simp [hserve]) (by rfl) _ _,
      Or.inl (flight_withServe (by rw [hserve]; rfl))⟩

theorem Upright.route {report : HealthReport} (h : Upright configuration g) :
    Steps configuration g (g.route configuration report) := by
  unfold GatewayIntake.route
  split
  · next arrival request hserve =>
    have hfits : (ServeThread.routing arrival request).Fits configuration := hserve ▸ h.serve
    have hanswer : ∀ answer : InlineAnswer, answer.writable = true →
        Steps configuration g { g with serve := .answering arrival answer } := fun answer hw =>
      ⟨h.withServe (by simp [hserve]) (by simp [hserve]) (by exact hw) _ _,
        Or.inl (flight_withServe (by rw [hserve]; rfl))⟩
    split
    · exact hanswer _ rfl
    · exact hanswer _ rfl
    · next hroute => exact hanswer _ ((writable_of_fits hfits).1 hroute)
    · next hroute => exact h.enqueue hserve (body_length_le_of_route hroute)
    · next hroute => exact hanswer _ ((writable_of_fits hfits).2 hroute)
  · exact h.refl

theorem Upright.answer (h : Upright configuration g) : Steps configuration g g.answer := by
  unfold GatewayIntake.answer
  split
  · next arrival answer hserve =>
    have hwritable : answer.writable = true := by
      have hfits := h.serve
      rw [hserve] at hfits
      exact hfits
    have hhand : g.flight.inHand = some arrival := by
      show g.serve.inHand? = some arrival
      rw [hserve]
      rfl
    rw [if_pos hwritable]
    exact ⟨h.withServe (by simp [hserve]) (by simp [hserve]) (by trivial) _ _,
      Or.inr (.answer arrival answer hhand)⟩
  · exact h.refl

theorem Upright.wake (h : Upright configuration g) : Steps configuration g (g.wake w) := by
  unfold GatewayIntake.wake
  split
  · next hw =>
    refine ⟨h.withWorker hw (fun _ => id) (by trivial) (fun _ _ => rfl) _, Or.inl ?_⟩
    exact flight_withWorker hw (by rfl)
  · exact h.refl

theorem Upright.takeJob (h : Upright configuration g) : Steps configuration g (g.takeJob w) := by
  unfold GatewayIntake.takeJob
  split
  · next hw =>
    split
    · next hshutdown =>
      refine ⟨h.withWorker hw (fun _ => id) (by exact hshutdown) (fun _ hopen => ?_) _, Or.inl ?_⟩
      · cases hshutdown.symm.trans hopen
      · exact flight_withWorker hw (by rfl)
    · split
      · next hqueue =>
        refine ⟨h.withWorker hw (fun _ => id) (by trivial) (fun hne => absurd hqueue hne) _,
          Or.inl ?_⟩
        exact flight_withWorker hw (by rfl)
      · next job rest hqueue =>
        have hjob : job ∈ g.jobQueue := hqueue ▸ List.mem_cons_self
        refine ⟨h.withWorker hw (fun j hj => hqueue ▸ List.mem_cons_of_mem _ hj)
          (by exact h.queue job hjob) (fun _ _ => rfl) _, Or.inr ?_⟩
        have hfront : g.flight.queue = ⟨job.arrival, job.run⟩ :: rest.map AcceptedJob.ticket := by
          show g.jobQueue.map AcceptedJob.ticket = _
          rw [hqueue]
          rfl
        have hmove := Flight.Move.take w job.arrival job.run _ hfront (flight_worker_of_getElem? hw)
        have hset := @flight_worker_set g w _ (.holding job) hw
        simp only [GatewayIntake.flight, GatewayIntake.log, hset]
        exact hmove
  · exact h.refl

theorem Upright.respond {services : GatewayServices} (h : Upright configuration g) :
    Steps configuration g (g.respond w services) := by
  unfold GatewayIntake.respond
  split
  · next job body hw =>
    refine ⟨h.withWorker hw (fun _ => id) (by trivial) (fun _ _ => rfl) _, Or.inr ?_⟩
    have hreceived : receivedBody job.job = .complete body :=
      h.workers _ (List.mem_of_getElem? hw)
    have hmove := Flight.Move.settle w job.arrival job.run (some body) _
      (flight_worker_of_getElem? hw) (settles_of_receivedBody services hreceived)
    have hset := @flight_worker_set g w _ .awake hw
    simp only [GatewayIntake.flight, GatewayIntake.log, hset]
    exact hmove
  · exact h.refl

theorem Upright.drain {reads : List EntityRead} {services : GatewayServices}
    (h : Upright configuration g) : Steps configuration g (g.drain w reads services) := by
  unfold GatewayIntake.drain
  split
  · next job hw =>
    have hjob : job.job.body.length ≤ kMaxGatewayRequestBytes :=
      h.workers _ (List.mem_of_getElem? hw)
    dsimp only
    split
    · next body hbody =>
      refine ⟨h.withWorker hw (fun _ => id) (by exact hbody) (fun _ _ => rfl) _, Or.inr ?_⟩
      have hmove := Flight.Move.execute w job.arrival job.run body (flight_worker_of_getElem? hw)
        (length_le_of_receivedBody (by exact hjob) hbody)
      have hset := @flight_worker_set g w _
        (.executing { job with job := { job.job with entityReads := reads } } body) hw
      simp only [GatewayIntake.flight, GatewayIntake.log, hset]
      exact hmove
    · refine ⟨h.withWorker hw (fun _ => id) (by trivial) (fun _ _ => rfl) _, Or.inr ?_⟩
      have hmove := Flight.Move.settle w job.arrival job.run none _ (flight_worker_of_getElem? hw)
        (settles_none services { job with job := { job.job with entityReads := reads } })
      have hset := @flight_worker_set g w _ .awake hw
      simp only [GatewayIntake.flight, GatewayIntake.log, hset]
      exact hmove
  · exact h.refl

/-- `notify_one` wakes a waiting worker if there is one. -/
theorem notifyOne_cases (hserve : g.serve = .notifying) (choice : Nat) :
    (∃ w, g.workers[w]? = some .waiting ∧
      g.notifyOne choice =
        { g with serve := .checking none, workers := g.workers.set w .awake }) ∨
    (∀ worker ∈ g.workers, worker ≠ .waiting) ∧
      g.notifyOne choice = { g with serve := .checking none } := by
  unfold GatewayIntake.notifyOne
  rw [hserve]
  dsimp only
  split
  · next hw =>
    obtain ⟨hlt, -⟩ := List.getElem?_eq_some_iff.mp hw
    exact Or.inl ⟨choice, hw, by rw [if_pos hlt]⟩
  · split
    · next hlt =>
      refine Or.inl ⟨_, ?_, rfl⟩
      have hfound := List.findIdx_getElem (w := hlt)
      rw [List.getElem?_eq_getElem hlt]
      split at hfound
      · next heq => rw [heq]
      · cases hfound
    · next hlt =>
      refine Or.inr ⟨fun worker hworker hwaiting => hlt ?_, rfl⟩
      exact List.findIdx_lt_length.mpr ⟨worker, hworker, by rw [hwaiting]⟩

theorem moves_of_fits {worker : WorkerThread} {shutdown : Bool} (h : worker.Fits shutdown)
    (hopen : shutdown = false) (hwaiting : worker ≠ .waiting) : worker.moves = true := by
  cases worker with
  | waiting => exact absurd rfl hwaiting
  | finished => cases hopen.symm.trans h
  | _ => rfl

theorem Upright.notifyOne {choice : Nat} (h : Upright configuration g) :
    Steps configuration g (g.notifyOne choice) := by
  by_cases hserve : g.serve = .notifying
  · rcases notifyOne_cases hserve choice with ⟨w, hw, heq⟩ | ⟨hwaiting, heq⟩
    · rw [heq]
      have hwoken : Upright configuration { g with workers := g.workers.set w .awake } :=
        h.withWorker hw (fun _ => id) (by trivial) (fun _ _ => rfl) _
      obtain ⟨hlt, -⟩ := List.getElem?_eq_some_iff.mp hw
      refine ⟨hwoken.withServe (by simp [hserve]) (fun _ _ => ?_) (by trivial) _ _, Or.inl ?_⟩
      · exact Or.inl ⟨.awake, List.mem_set hlt _, rfl⟩
      · refine (flight_withServe (g := { g with workers := g.workers.set w .awake }) ?_).trans
          (flight_withWorker hw (by rfl))
        rw [hserve]
        rfl
    · rw [heq]
      refine ⟨h.withServe (by simp [hserve]) (fun _ hopen => ?_) (by trivial) _ _,
        Or.inl (flight_withServe (by rw [hserve]; rfl))⟩
      refine (h.shape.staffed (by simp [hserve]) hopen).imp_left fun hne => ?_
      obtain ⟨worker, hworker⟩ := List.exists_mem_of_ne_nil _ hne
      exact ⟨worker, hworker,
        moves_of_fits (h.workers worker hworker) hopen (hwaiting worker hworker)⟩
  · have heq : g.notifyOne choice = g := by
      unfold GatewayIntake.notifyOne
      split
      · next hnotifying => exact absurd hnotifying hserve
      · rfl
    rw [heq]
    exact h.refl

/-- Without threads and jobs, nothing is in flight. -/
theorem flight_idle (hserve : g.serve = .absent) (hworkers : g.workers = []) :
    g.flight.inHand = none ∧ ∀ w, g.flight.worker w = none := by
  constructor
  · show g.serve.inHand? = none
    rw [hserve]
    rfl
  · intro w
    show (g.workers[w]?).bind WorkerThread.post = none
    rw [hworkers]
    rfl

theorem Upright.start {opened : Bool} (h : Upright configuration g) :
    Steps configuration g (g.start configuration opened) := by
  unfold GatewayIntake.start
  split
  · next hcond =>
    simp only [Bool.and_eq_true, decide_eq_true_eq, Bool.not_eq_true'] at hcond
    have hshape := h.shape
    rw [GatewayIntake.Shape, hcond.1.1.1] at hshape
    have hidle := hshape.2
    rw [if_neg (by simp [hcond.1.2])] at hidle
    refine ⟨⟨h.alive, ⟨⟨rfl, rfl⟩, hidle⟩, h.serve, h.queue, h.workers, fun hne => ?_⟩, Or.inl rfl⟩
    exact absurd hidle.2.2 hne
  · exact h.refl

theorem Upright.stop (h : Upright configuration g) : Steps configuration g g.stop := by
  unfold GatewayIntake.stop
  split
  · next hlifecycle =>
    have hshape := h.shape
    rw [GatewayIntake.Shape, hlifecycle] at hshape
    obtain ⟨hrequests, hshape⟩ := hshape
    split
    · next hdown =>
      simp only [Bool.and_eq_true, Bool.not_eq_true'] at hdown
      rw [if_neg (by simp [hdown.1])] at hshape
      obtain ⟨hserve, hworkers, hqueue⟩ := hshape
      obtain ⟨hhand, hposts⟩ := flight_idle hserve hworkers
      refine ⟨⟨h.alive, h.shape, h.serve, h.queue, h.workers, h.roused⟩, Or.inr ?_⟩
      exact .stop hhand (List.map_eq_nil_iff.mpr hqueue) hposts
    · next hup =>
      have hrunning : g.running = true := by
        by_contra hdown
        rw [Bool.not_eq_true] at hdown
        rw [hdown] at hrequests hup
        rw [hrequests] at hup
        exact hup rfl
      rw [if_pos hrunning] at hshape
      refine ⟨⟨h.alive, ⟨rfl, hshape.2⟩, h.serve, h.queue, h.workers, fun hne hopen => ?_⟩,
        Or.inl rfl⟩
      rcases h.roused hne hopen with hroused | hroused | ⟨remaining, hspawning⟩
      · exact Or.inl hroused
      · exact Or.inr (Or.inl hroused)
      · cases hlifecycle.symm.trans hspawning
  · exact h.refl

theorem Upright.proceed (h : Upright configuration g) : Steps configuration g g.proceed := by
  have hshape := h.shape
  unfold GatewayIntake.proceed
  unfold GatewayIntake.Shape at hshape
  split <;> rename_i hlifecycle <;> rw [hlifecycle] at hshape <;> dsimp only at hshape
  · exact h.refl
  · -- the queue is empty already
    obtain ⟨hup, hserve, hworkers, hqueue⟩ := hshape
    refine ⟨⟨h.alive, ⟨hup, rfl, hserve, hworkers⟩, h.serve, fun _ hjob => (by cases hjob), ?_,
      fun hne => absurd rfl hne⟩, Or.inl ?_⟩
    · rw [hworkers]
      exact fun _ hworker => by cases hworker
    · simp only [GatewayIntake.flight, hqueue]
  · obtain ⟨hup, hopen, hserve, hworkers⟩ := hshape
    rw [hserve]
    refine ⟨⟨h.alive, ⟨hup, hopen, by rw [hworkers]; rfl⟩, trivial, h.queue, h.workers,
      fun _ _ => Or.inr (Or.inr ⟨_, rfl⟩)⟩, Or.inl (flight_withServe (by rw [hserve]; rfl))⟩
  · obtain ⟨hup, hopen, hlength⟩ := hshape
    refine ⟨⟨h.alive, ?_, h.serve, h.queue, h.workers, fun hne hshut => ?_⟩, Or.inl rfl⟩
    · show _ ∧ _
      rw [if_pos hup.2]
      exact ⟨hup.1.trans hup.2.symm, hopen, hlength⟩
    · rcases h.roused hne hshut with hroused | hroused | ⟨remaining, hspawning⟩
      · exact Or.inl hroused
      · exact Or.inr (Or.inl hroused)
      · cases hlifecycle.symm.trans hspawning
  · next remaining =>
    obtain ⟨hup, hopen, hlength⟩ := hshape
    refine ⟨⟨h.alive, ⟨hup, hopen, ?_⟩, h.serve, h.queue, ?_, fun _ _ => Or.inr (Or.inl ?_)⟩,
      Or.inl ?_⟩
    · rw [List.length_append, List.length_singleton, ← hlength]
      omega
    · intro worker hworker
      rcases List.mem_append.mp hworker with hworker | hworker
      · exact h.workers worker hworker
      · rw [List.mem_singleton.mp hworker]
        trivial
    · exact ⟨.awake, List.mem_append_right _ (List.mem_singleton_self _), rfl⟩
    · refine congrArg (fun f => { g.flight with worker := f }) (funext fun w => ?_)
      show ((g.workers ++ [WorkerThread.awake])[w]?).bind WorkerThread.post = _
      rcases lt_trichotomy w g.workers.length with hw | rfl | hw
      · rw [List.getElem?_append_left hw]
      · rw [List.getElem?_concat_length]
        show none = (g.workers[g.workers.length]?).bind WorkerThread.post
        rw [List.getElem?_length]
        rfl
      · show _ = (g.workers[w]?).bind WorkerThread.post
        rw [List.getElem?_eq_none (by rw [List.length_append]; exact hw),
          List.getElem?_eq_none hw.le]
  · refine ⟨⟨h.alive, ⟨hshape.1, rfl⟩, h.serve, h.queue, ?_, fun _ hopen => by cases hopen⟩,
      Or.inl rfl⟩
    intro worker hworker
    have hfits := h.workers worker hworker
    cases worker <;> trivial
  · -- nobody waits any more
    refine ⟨⟨h.alive, hshape, h.serve, h.queue, ?_, fun _ hopen => ?_⟩, Or.inl ?_⟩
    · intro worker hworker
      obtain ⟨worker', hmem, rfl⟩ := List.mem_map.mp hworker
      have hfits := h.workers worker' hmem
      cases worker' <;> exact hfits
    · cases hshape.2.symm.trans hopen
    · refine congrArg (fun f => { g.flight with worker := f }) (funext fun w => ?_)
      show ((g.workers.map _)[w]?).bind WorkerThread.post = (g.workers[w]?).bind WorkerThread.post
      rw [List.getElem?_map]
      cases g.workers[w]? with
      | none => rfl
      | some worker => cases worker <;> rfl
  · split
    · next hserve =>
      refine ⟨⟨h.alive, ⟨hshape.1, hshape.2, hserve⟩, h.serve, h.queue, h.workers,
        fun _ hopen => ?_⟩, Or.inl rfl⟩
      cases hshape.2.symm.trans hopen
    · next hserve =>
      refine ⟨⟨h.alive, ⟨hshape.1, hshape.2, rfl⟩, trivial, h.queue, h.workers,
        fun _ hopen => ?_⟩, Or.inl (flight_withServe (by rw [hserve]; rfl))⟩
      cases hshape.2.symm.trans hopen
    · exact h.refl
  · split
    · next hall =>
      obtain ⟨hdown, hshut, hserve⟩ := hshape
      refine ⟨⟨h.alive, ⟨hdown, hserve, rfl⟩, h.serve, h.queue, fun _ hw => (by cases hw),
        fun _ hopen => ?_⟩, Or.inl ?_⟩
      · cases hshut.symm.trans hopen
      · refine congrArg (fun f => { g.flight with worker := f }) (funext fun w => ?_)
        show none = (g.workers[w]?).bind WorkerThread.post
        cases hw : g.workers[w]? with
        | none => rfl
        | some worker =>
          have hfinished := List.all_eq_true.mp hall worker (List.mem_of_getElem? hw)
          cases worker <;> first | rfl | cases hfinished
    · exact h.refl
  · obtain ⟨hdown, hserve, hworkers⟩ := hshape
    obtain ⟨hhand, hposts⟩ := flight_idle hserve hworkers
    refine ⟨⟨h.alive, ⟨hdown, hserve, hworkers, rfl⟩, h.serve, fun _ hjob => (by cases hjob), ?_,
      fun hne => absurd rfl hne⟩, Or.inr ?_⟩
    · show ∀ worker ∈ g.workers, _
      rw [hworkers]
      exact fun _ hworker => (by cases hworker)
    · have hmove := Flight.Move.discard hhand hposts
      simpa [GatewayIntake.flight, GatewayIntake.log, AcceptedJob.ticket, Function.comp_def]
        using hmove
  · obtain ⟨hdown, hserve, hworkers, hqueue⟩ := hshape
    obtain ⟨hhand, hposts⟩ := flight_idle hserve hworkers
    refine ⟨⟨h.alive, ?_, h.serve, h.queue, h.workers, fun hne => absurd hqueue hne⟩, Or.inr ?_⟩
    · show _ ∧ _
      rw [if_neg (by simp [GatewayIntake.log, hdown])]
      exact ⟨hdown.symm, hserve, hworkers, hqueue⟩
    · exact .stop hhand (List.map_eq_nil_iff.mpr hqueue) hposts

end Steps

/-! ## Every run -/

/-- The conditions on a state of the gateway. -/
structure IntakeLaw (g : GatewayIntake) : Prop where
  depth : g.jobQueue.length ≤ kGatewayJobQueueMaxDepth
  /-- A request is on its way in a process that runs, or done; its course says how. -/
  accounted : ∀ n < g.arrivals,
    g.terminated = false ∧ g.flight.Open n (g.flight.course n) ∨ Done n (g.flight.course n)
  /-- What was taken, and then what waits. -/
  inOrder : (takenArrivals g.history ++ g.jobQueue.map AcceptedJob.arrival).Pairwise (· < ·)
  bounded : ∀ n body, .executed n body ∈ g.history → body.length ≤ kMaxGatewayRequestBytes
  stopped : ∀ before after, g.history = before ++ .stopReturned :: after →
    ∀ n body, .executed n body ∈ after → ∃ run, .accepted n run ∈ after
  /-- While jobs wait, a worker looks at the queue, or a wake-up is due. -/
  unstranded : g.lifecycle = .idle → g.running = true → g.jobQueue ≠ [] →
    g.serve = .notifying ∨ ∃ worker ∈ g.workers, worker.moves = true

variable {configuration : IntakeConfiguration} {g : GatewayIntake}

theorem Upright.step {label : IntakeLabel} (h : Upright configuration g)
    (hpath : PathRepeatable configuration g label) :
    Steps configuration g (g.step configuration label) := by
  unfold GatewayIntake.step
  rw [if_neg (by simp [h.alive])]
  cases label with
  | start opened => exact h.start
  | stop => exact h.stop
  | proceed => exact h.proceed
  | checkRunning => exact h.checkRunning
  | receive outcome => exact h.receive hpath
  | route report => exact h.route
  | answer => exact h.answer
  | notifyOne choice => exact h.notifyOne
  | wake w => exact h.wake
  | takeJob w => exact h.takeJob
  | drain w reads services => exact h.drain
  | respond w services => exact h.respond

theorem upright_init : Upright configuration {} where
  alive := rfl
  shape := ⟨rfl, rfl, rfl, rfl⟩
  serve := trivial
  queue _ hjob := by cases hjob
  workers _ hworker := by cases hworker
  roused hne := absurd rfl hne

theorem books_init : (GatewayIntake.flight {}).Books where
  depth := Nat.zero_le _
  accounts := by
    refine .nil ?_ fun n hn => Nat.not_lt_zero n hn
    rintro n t (h | ⟨run, h⟩ | ⟨run, w, executed, h⟩)
    · cases h
    · cases h
    · cases h
  last _ hn := by cases hn
  inOrder := List.Pairwise.nil
  bounded _ _ hmem := by cases hmem
  recent _ _ _ _ := by
    intro before after heq
    exact absurd heq.symm (List.append_ne_nil_of_right_ne_nil _ (List.cons_ne_nil _ _))
  stopped before after heq :=
    absurd heq.symm (List.append_ne_nil_of_right_ne_nil _ (List.cons_ne_nil _ _))

/-- In every run whose paths can be repeated, the gateway is upright and its books are in order. -/
theorem upright_of_reachable
    (h : (gatewayIntake configuration).ReachableBy (PathRepeatable configuration) g) :
    Upright configuration g ∧ g.flight.Books := by
  refine h.invariant (I := fun g => Upright configuration g ∧ g.flight.Books)
    ⟨upright_init, books_init⟩ ?_
  rintro g label ⟨hup, hbooks⟩ hpath
  obtain ⟨hup', hflight⟩ := hup.step hpath
  refine ⟨hup', ?_⟩
  rcases hflight with hsame | hmove
  · exact (congrArg Flight.Books hsame).mpr hbooks
  · exact hbooks.move hmove

/-- **Every request is answered once**, in every run whose paths can be repeated. -/
theorem intake_law (configuration : IntakeConfiguration) {g : GatewayIntake}
    (h : (gatewayIntake configuration).ReachableBy (PathRepeatable configuration) g) :
    IntakeLaw g := by
  obtain ⟨hup, hbooks⟩ := upright_of_reachable h
  refine ⟨?_, fun n hn => ?_, ?_, hbooks.bounded, hbooks.stopped, fun hidle hrunning hne => ?_⟩
  · simpa [GatewayIntake.flight] using hbooks.depth
  · rcases hbooks.accounts.settled n hn with ⟨t, ht⟩ | hdone
    · refine Or.inl ⟨hup.alive, ?_⟩
      have hcourse : g.flight.course n = t := hbooks.accounts.course_open n t ht
      rwa [hcourse]
    · exact Or.inr hdone
  · simpa [GatewayIntake.flight, AcceptedJob.ticket, Function.comp_def] using hbooks.inOrder
  · have hshape := hup.shape
    rw [GatewayIntake.Shape, hidle] at hshape
    have hopen := hshape.2
    rw [if_pos hrunning] at hopen
    rcases hup.roused hne hopen.1 with hnotifying | hmoves | ⟨remaining, hspawning⟩
    · exact Or.inl hnotifying
    · exact Or.inr hmoves
    · cases hidle.symm.trans hspawning

/-! ## A path that cannot be written -/

def enabledIntake : IntakeConfiguration := { enabled := true }

/-- A `Start` up to its end, and the first receive. -/
def startedIntake : List IntakeLabel :=
  .start true :: List.replicate 7 .proceed ++ [.checkRunning]

theorem allowed_of_repeatable {labels : List IntakeLabel}
    (h : ∀ g, ∀ label ∈ labels, PathRepeatable configuration g label) :
    (gatewayIntake configuration).Allowed (PathRepeatable configuration) g labels := by
  induction labels generalizing g with
  | nil => trivial
  | cons label labels ih =>
    exact ⟨h g label List.mem_cons_self, ih fun g l hl => h g l (List.mem_cons_of_mem _ hl)⟩

/-- A request to the health route is answered. -/
theorem intake_law_health :
    IntakeLaw ((gatewayIntake enabledIntake).run {} (startedIntake ++
      [.receive (.request { rawUrl := asciiBytes "/health" }),
        .route ⟨.running, "healthy", ""⟩, .answer])) := by
  refine intake_law enabledIntake
    (TransitionSystem.ReachableBy.init.run _ (allowed_of_repeatable ?_))
  rintro g label hlabel request rfl hroute
  have hrequest : request = { rawUrl := asciiBytes "/health" } := by
    simpa [startedIntake] using hlabel
  rw [hrequest] at hroute
  exact absurd hroute (by decide +kernel)

/-- Whoever is done was received and answered, or more. -/
theorem two_le_length_of_done {n : Nat} {t : List IntakeEvent} (h : Done n t) : 2 ≤ t.length := by
  cases h <;> exact Nat.le_add_left 2 _

/-- **A request whose path is not UTF-8 ends the gateway**: the 404 that repeats the path is not
written, and the exception leaves the receive thread. -/
theorem unwritable_path_ends_gateway :
    (gatewayIntake enabledIntake).Reachable ((gatewayIntake enabledIntake).run {} (startedIntake ++
      [.receive (.request { rawUrl := [47, 0xE9] }), .route ⟨.running, "healthy", ""⟩, .answer])) ∧
    ¬ IntakeLaw ((gatewayIntake enabledIntake).run {} (startedIntake ++
      [.receive (.request { rawUrl := [47, 0xE9] }), .route ⟨.running, "healthy", ""⟩,
        .answer])) := by
  refine ⟨TransitionSystem.Reachable.run .init _, fun h => ?_⟩
  rcases h.accounted 0 (by decide +kernel) with ⟨halive, -⟩ | hdone
  · exact absurd halive (by decide +kernel)
  · exact absurd (two_le_length_of_done hdone) (by decide +kernel)

end Gateway
end MasterControl
