import MasterControl.Foundation.Courses
import MasterControl.Gateway.Intake
import Mathlib.Logic.Function.Basic

/-!
# Requests in flight

Of the threads, the queue and the record only this matters for the fate of a request: whether the
receive thread has it in hand, whether it waits as a job, which worker has it, and what was
recorded of it (`Flight`).  `Flight.Move` lists what can happen there.  The books (`Books`) say
that each request has had just the course that its place asks for; every move keeps them.
-/

namespace MasterControl
namespace Gateway

open Foundation

/-- A job as the books see it: the receive it came from, and the run that accepted it. -/
structure Ticket where
  arrival : Nat
  run : Nat

structure Flight where
  /-- The request that the receive thread has in hand. -/
  inHand : Option Nat
  queue : List Ticket
  /-- The job of a worker, and the body it was executed with if that was done. -/
  worker : Nat → Option (Ticket × Option Bytes)
  arrivals : Nat
  history : List IntakeEvent

/-- Whether an event is about the request of this arrival. -/
def IntakeEvent.concerns (n : Nat) : IntakeEvent → Bool
  | .received arrival => arrival == n
  | .answeredInline arrival _ => arrival == n
  | .accepted arrival _ => arrival == n
  | .taken arrival _ => arrival == n
  | .executed arrival _ => arrival == n
  | .responded arrival _ _ _ => arrival == n
  | .abandoned arrival => arrival == n
  | .discarded arrivals => arrivals.contains n
  | .stopReturned => false

def executedEvents (n : Nat) (executed : Option Bytes) : List IntakeEvent :=
  (executed.map (IntakeEvent.executed n)).toList

/-- Where an open request is, with what has happened to it so far. -/
inductive Flight.Open (f : Flight) (n : Nat) : List IntakeEvent → Prop
  | inHand (h : f.inHand = some n) : f.Open n [.received n]
  | queued (run : Nat) (h : ⟨n, run⟩ ∈ f.queue) : f.Open n [.received n, .accepted n run]
  | working (run w : Nat) (executed : Option Bytes) (h : f.worker w = some (⟨n, run⟩, executed)) :
    f.Open n (.received n :: .accepted n run :: .taken n w :: executedEvents n executed)

/-- How the job of a worker ends: with a response, or because the client is gone. -/
inductive Settles (n : Nat) (executed : Option Bytes) : IntakeEvent → Prop
  | responded (statusCode : Nat) (reason : String) (body : Option Json) :
    Settles n executed (.responded n statusCode reason body)
  | abandoned (h : executed = none) : Settles n executed (.abandoned n)

/-- The courses of requests that are done: answered inline, discarded by a `Stop`, or settled by
the one worker that took the job. -/
inductive Done (n : Nat) : List IntakeEvent → Prop
  | inline (answer : InlineAnswer) : Done n [.received n, .answeredInline n answer]
  | discarded (run : Nat) (arrivals : List Nat) :
    Done n [.received n, .accepted n run, .discarded arrivals]
  | settled (run w : Nat) (executed : Option Bytes) (e : IntakeEvent) (h : Settles n executed e) :
    Done n (.received n :: .accepted n run :: .taken n w :: (executedEvents n executed ++ [e]))

/-- The jobs that were taken, in order. -/
def takenArrivals (history : List IntakeEvent) : List Nat :=
  history.filterMap fun
    | .taken arrival _ => some arrival
    | _ => none

namespace Flight

/-- What can happen to requests in flight. -/
inductive Move (f : Flight) : Flight → Prop
  | receive (h : f.inHand = none) :
    f.Move { f with
      inHand := some f.arrivals
      arrivals := f.arrivals + 1
      history := f.history ++ [.received f.arrivals] }
  | answer (n : Nat) (answer : InlineAnswer) (h : f.inHand = some n) :
    f.Move { f with inHand := none, history := f.history ++ [.answeredInline n answer] }
  | accept (n run : Nat) (h : f.inHand = some n)
      (hdepth : f.queue.length < kGatewayJobQueueMaxDepth) :
    f.Move { f with
      inHand := none
      queue := f.queue ++ [⟨n, run⟩]
      history := f.history ++ [.accepted n run] }
  | take (w n run : Nat) (rest : List Ticket) (h : f.queue = ⟨n, run⟩ :: rest)
      (hw : f.worker w = none) :
    f.Move { f with
      queue := rest
      worker := Function.update f.worker w (some (⟨n, run⟩, none))
      history := f.history ++ [.taken n w] }
  | execute (w n run : Nat) (body : Bytes) (h : f.worker w = some (⟨n, run⟩, none))
      (hbody : body.length ≤ kMaxGatewayRequestBytes) :
    f.Move { f with
      worker := Function.update f.worker w (some (⟨n, run⟩, some body))
      history := f.history ++ [.executed n body] }
  | settle (w n run : Nat) (executed : Option Bytes) (e : IntakeEvent)
      (h : f.worker w = some (⟨n, run⟩, executed)) (he : Settles n executed e) :
    f.Move { f with
      worker := Function.update f.worker w none
      history := f.history ++ [e] }
  | discard (hhand : f.inHand = none) (hworker : ∀ w, f.worker w = none) :
    f.Move { f with
      queue := []
      history := f.history ++ [.discarded (f.queue.map Ticket.arrival)] }
  | stop (hhand : f.inHand = none) (hqueue : f.queue = []) (hworker : ∀ w, f.worker w = none) :
    f.Move { f with history := f.history ++ [.stopReturned] }

/-- What has happened to the request of this arrival. -/
def course (f : Flight) (n : Nat) : List IntakeEvent :=
  Foundation.course IntakeEvent.concerns f.history n

/-- The books are in order. -/
structure Books (f : Flight) : Prop where
  depth : f.queue.length ≤ kGatewayJobQueueMaxDepth
  accounts : Accounts IntakeEvent.concerns f.Open Done f.history (· < f.arrivals)
  /-- The request in hand is the last one. -/
  last : ∀ n, f.inHand = some n → n + 1 = f.arrivals
  /-- What was taken and then what waits, in the order of arrival. -/
  inOrder : (takenArrivals f.history ++ f.queue.map Ticket.arrival).Pairwise (· < ·)
  bounded : ∀ n body, .executed n body ∈ f.history → body.length ≤ kMaxGatewayRequestBytes
  /-- An open job was accepted after the last `Stop`. -/
  recent : ∀ n t, f.Open n t → t ≠ [.received n] →
    BehindMarks .stopReturned (fun e => ∃ run, e = .accepted n run) f.history
  /-- Nothing that was accepted before a `Stop` is executed after it. -/
  stopped : ∀ before after, f.history = before ++ .stopReturned :: after →
    ∀ n body, .executed n body ∈ after → ∃ run, .accepted n run ∈ after

/-! ## Reading the books -/

variable {f f' : Flight} {n : Nat} {t : List IntakeEvent}

theorem Open.congr (hhand : f'.inHand = some n ↔ f.inHand = some n)
    (hqueue : ∀ run, ⟨n, run⟩ ∈ f'.queue ↔ ⟨n, run⟩ ∈ f.queue)
    (hworker : ∀ w run executed,
      f'.worker w = some (⟨n, run⟩, executed) ↔ f.worker w = some (⟨n, run⟩, executed)) :
    f'.Open n t ↔ f.Open n t := by
  constructor
  · rintro (h | ⟨run, h⟩ | ⟨run, w, executed, h⟩)
    · exact .inHand (hhand.mp h)
    · exact .queued run ((hqueue run).mp h)
    · exact .working run w executed ((hworker w run executed).mp h)
  · rintro (h | ⟨run, h⟩ | ⟨run, w, executed, h⟩)
    · exact .inHand (hhand.mpr h)
    · exact .queued run ((hqueue run).mpr h)
    · exact .working run w executed ((hworker w run executed).mpr h)

theorem Open.ne_nil (h : f.Open n t) : t ≠ [] := by
  cases h <;> exact List.cons_ne_nil _ _

theorem Books.lt_of_open (h : Books f) (ho : f.Open n t) : n < f.arrivals := by
  by_contra hn
  exact ho.ne_nil ((h.accounts.course_open n t ho).symm.trans (h.accounts.unknown n hn))

/-- A request in hand is nowhere else. -/
theorem Books.eq_of_inHand (h : Books f) (hhand : f.inHand = some n) (ho : f.Open n t) :
    t = [.received n] :=
  h.accounts.open_unique ho (.inHand hhand)

/-- A job that waits is nowhere else. -/
theorem Books.eq_of_queued {run : Nat} (h : Books f) (hqueue : ⟨n, run⟩ ∈ f.queue)
    (ho : f.Open n t) : t = [.received n, .accepted n run] :=
  h.accounts.open_unique ho (.queued run hqueue)

/-- A job that a worker has is nowhere else. -/
theorem Books.eq_of_working {run w : Nat} {executed : Option Bytes} (h : Books f)
    (hw : f.worker w = some (⟨n, run⟩, executed)) (ho : f.Open n t) :
    t = .received n :: .accepted n run :: .taken n w :: executedEvents n executed :=
  h.accounts.open_unique ho (.working run w executed hw)

theorem worker_eq_some_iff {w w' : Nat} {o : Option (Ticket × Option Bytes)}
    {x : Ticket × Option Bytes} (h : f'.worker = Function.update f.worker w o) :
    f'.worker w' = some x ↔ w' = w ∧ o = some x ∨ w' ≠ w ∧ f.worker w' = some x := by
  rw [h, Function.update_apply]
  split
  · next hw => simp [hw]
  · next hw => simp [hw]

/-! ## The record -/

@[simp] theorem takenArrivals_record (history : List IntakeEvent) (e : IntakeEvent) :
    takenArrivals (history ++ [e]) = takenArrivals history ++ takenArrivals [e] :=
  List.filterMap_append

theorem mem_takenArrivals {history : List IntakeEvent} (h : n ∈ takenArrivals history) :
    ∃ w, .taken n w ∈ history := by
  obtain ⟨e, he, hn⟩ := List.mem_filterMap.mp h
  cases e with
  | taken arrival w => exact ⟨w, Option.some.inj hn ▸ he⟩
  | _ => cases hn

/-- What is recorded, unless it is an execution or the end of a `Stop`, leaves the rule about
`Stop` alone. -/
theorem stopped_record {history : List IntakeEvent} {e : IntakeEvent}
    (h : ∀ before after, history = before ++ .stopReturned :: after →
      ∀ n body, .executed n body ∈ after → ∃ run, .accepted n run ∈ after)
    (hstop : e ≠ .stopReturned)
    (hexecuted : ∀ n body, e = .executed n body →
      BehindMarks .stopReturned (fun e => ∃ run, e = .accepted n run) history)
    (before after : List IntakeEvent) (heq : history ++ [e] = before ++ .stopReturned :: after)
    (n : Nat) (body : Bytes) (hmem : .executed n body ∈ after) :
    ∃ run, .accepted n run ∈ after := by
  obtain ⟨rest, rfl, hrest⟩ := exists_of_concat_eq hstop heq
  rcases List.mem_append.mp hmem with hmem | hmem
  · obtain ⟨run, hrun⟩ := h before rest hrest n body hmem
    exact ⟨run, List.mem_append_left _ hrun⟩
  · obtain ⟨a, ha, run, rfl⟩ :=
      hexecuted n body (List.mem_singleton.mp hmem).symm before rest hrest
    exact ⟨run, List.mem_append_left _ ha⟩

/-! ## Moves keep the books -/

theorem Books.recent_record {e : IntakeEvent} (h : Books f) (hstop : e ≠ .stopReturned)
    (hsub : ∀ n t, f'.Open n t → t ≠ [.received n] → ∃ t', f.Open n t' ∧ t' ≠ [.received n])
    (n : Nat) (t : List IntakeEvent) (ho : f'.Open n t) (ht : t ≠ [.received n]) :
    BehindMarks .stopReturned (fun e => ∃ run, e = .accepted n run) (f.history ++ [e]) := by
  obtain ⟨t', ho', ht'⟩ := hsub n t ho ht
  exact (h.recent n t' ho' ht').record hstop

theorem Books.bounded_record {e : IntakeEvent} (h : Books f)
    (hbody : ∀ n body, e = .executed n body → body.length ≤ kMaxGatewayRequestBytes) (n : Nat)
    (body : Bytes) (hmem : .executed n body ∈ f.history ++ [e]) :
    body.length ≤ kMaxGatewayRequestBytes := by
  rcases List.mem_append.mp hmem with hmem | hmem
  · exact h.bounded n body hmem
  · exact hbody n body (List.mem_singleton.mp hmem).symm

theorem Books.receive (h : Books f) (hhand : f.inHand = none) :
    Books { f with
      inHand := some f.arrivals
      arrivals := f.arrivals + 1
      history := f.history ++ [.received f.arrivals] } where
  depth := h.depth
  accounts := by
    have hfresh : Foundation.course IntakeEvent.concerns f.history f.arrivals = [] :=
      h.accounts.unknown _ (lt_irrefl _)
    refine h.accounts.record ?_ ?_ ?_ ?_
    · intro n hn t
      refine Open.congr ?_ (fun _ => Iff.rfl) fun _ _ _ => Iff.rfl
      simp only [IntakeEvent.concerns, beq_eq_false_iff_ne] at hn
      simp [hhand, hn]
    · intro n hn t ho
      obtain rfl := eq_of_beq hn
      rw [hfresh]
      rcases ho with ho | ⟨run, ho⟩ | ⟨run, w, executed, ho⟩
      · rfl
      · exact absurd (h.lt_of_open (.queued run ho)) (lt_irrefl _)
      · exact absurd (h.lt_of_open (.working run w executed ho)) (lt_irrefl _)
    · intro n hn
      obtain rfl := eq_of_beq hn
      exact Or.inl ⟨_, .inHand rfl⟩
    · intro n
      simp only [IntakeEvent.concerns, beq_iff_eq]
      omega
  last n hn := by rw [← Option.some.inj hn]
  inOrder := by simpa [takenArrivals] using h.inOrder
  bounded := h.bounded_record fun _ _ he => by cases he
  recent := by
    refine h.recent_record (by simp) fun n t ho ht => ?_
    rcases ho with ho | ⟨run, ho⟩ | ⟨run, w, executed, ho⟩
    · exact absurd rfl ht
    · exact ⟨_, .queued run ho, by simp⟩
    · exact ⟨_, .working run w executed ho, by simp⟩
  stopped := stopped_record h.stopped (by simp) fun _ _ he => by cases he

theorem Books.answer (h : Books f) (answer : InlineAnswer) (hhand : f.inHand = some n) :
    Books { f with inHand := none, history := f.history ++ [.answeredInline n answer] } where
  depth := h.depth
  accounts := by
    refine h.accounts.record ?_ ?_ ?_ ?_
    · intro m hm t
      refine Open.congr ?_ (fun _ => Iff.rfl) fun _ _ _ => Iff.rfl
      simp only [IntakeEvent.concerns, beq_eq_false_iff_ne] at hm
      simp [hhand, hm]
    · intro m hm t ho
      obtain rfl := eq_of_beq hm
      rcases ho with ho | ⟨run, ho⟩ | ⟨run, w, executed, ho⟩
      · cases ho
      · exact absurd (h.eq_of_inHand hhand (.queued run ho)) (by simp)
      · exact absurd (h.eq_of_inHand hhand (.working run w executed ho)) (by simp)
    · intro m hm
      obtain rfl := eq_of_beq hm
      rw [h.accounts.course_open n _ (.inHand hhand)]
      exact Or.inr (.inline answer)
    · intro m
      have hlt := h.lt_of_open (.inHand hhand)
      simp only [IntakeEvent.concerns, beq_iff_eq]
      omega
  last m hm := by cases hm
  inOrder := by simpa [takenArrivals] using h.inOrder
  bounded := h.bounded_record fun _ _ he => by cases he
  recent := by
    refine h.recent_record (by simp) fun m t ho ht => ?_
    rcases ho with ho | ⟨run, ho⟩ | ⟨run, w, executed, ho⟩
    · cases ho
    · exact ⟨_, .queued run ho, by simp⟩
    · exact ⟨_, .working run w executed ho, by simp⟩
  stopped := stopped_record h.stopped (by simp) fun _ _ he => by cases he

/-- Everything that was taken or waits came before the request in hand. -/
theorem Books.lt_of_inHand (h : Books f) (hhand : f.inHand = some n) {m : Nat}
    (hm : m ∈ takenArrivals f.history ++ f.queue.map Ticket.arrival) : m < n := by
  have hlast := h.last n hhand
  suffices hne : m ≠ n ∧ m < f.arrivals by omega
  rcases List.mem_append.mp hm with hm | hm
  · obtain ⟨w, hw⟩ := mem_takenArrivals hm
    refine ⟨?_, h.accounts.known hw (beq_self_eq_true m)⟩
    rintro rfl
    have hmem := h.accounts.mem_of_open (.inHand hhand) hw (beq_self_eq_true m)
    cases List.mem_singleton.mp hmem
  · obtain ⟨⟨arrival, run⟩, hqueue, rfl⟩ := List.mem_map.mp hm
    refine ⟨?_, h.lt_of_open (.queued run hqueue)⟩
    rintro rfl
    exact absurd (h.eq_of_inHand hhand (.queued run hqueue)) (by simp)

theorem Books.accept (h : Books f) (run : Nat) (hhand : f.inHand = some n)
    (hdepth : f.queue.length < kGatewayJobQueueMaxDepth) :
    Books { f with
      inHand := none
      queue := f.queue ++ [⟨n, run⟩]
      history := f.history ++ [.accepted n run] } where
  depth := by
    rw [List.length_append]
    exact hdepth
  accounts := by
    refine h.accounts.record ?_ ?_ ?_ ?_
    · intro m hm t
      simp only [IntakeEvent.concerns, beq_eq_false_iff_ne] at hm
      refine Open.congr ?_ (fun _ => ?_) fun _ _ _ => Iff.rfl
      · simp [hhand, hm]
      · simp [Ne.symm hm]
    · intro m hm t ho
      obtain rfl := eq_of_beq hm
      rw [h.accounts.course_open n _ (.inHand hhand)]
      rcases ho with ho | ⟨run', ho⟩ | ⟨run', w, executed, ho⟩
      · cases ho
      · rcases List.mem_append.mp ho with ho | ho
        · exact absurd (h.eq_of_inHand hhand (.queued run' ho)) (by simp)
        · cases List.mem_singleton.mp ho
          rfl
      · exact absurd (h.eq_of_inHand hhand (.working run' w executed ho)) (by simp)
    · intro m hm
      obtain rfl := eq_of_beq hm
      exact Or.inl ⟨_, .queued run (List.mem_append_right _ (List.mem_singleton_self _))⟩
    · intro m
      have hlt := h.lt_of_open (.inHand hhand)
      simp only [IntakeEvent.concerns, beq_iff_eq]
      omega
  last m hm := by cases hm
  inOrder := by
    have happend : takenArrivals (f.history ++ [.accepted n run]) ++
        (f.queue ++ [(⟨n, run⟩ : Ticket)]).map Ticket.arrival =
          (takenArrivals f.history ++ f.queue.map Ticket.arrival) ++ [n] := by
      simp [takenArrivals]
    rw [happend]
    refine List.pairwise_append.mpr ⟨h.inOrder, List.pairwise_singleton _ _, ?_⟩
    intro m hm n' hn'
    rw [List.mem_singleton.mp hn']
    exact h.lt_of_inHand hhand hm
  bounded := h.bounded_record fun _ _ he => by cases he
  recent m t ho ht := by
    rcases ho with ho | ⟨run', ho⟩ | ⟨run', w, executed, ho⟩
    · cases ho
    · rcases List.mem_append.mp ho with ho | ho
      · exact (h.recent m _ (.queued run' ho) (by simp)).record (by simp)
      · cases List.mem_singleton.mp ho
        exact behindMarks_record_self (by simp) ⟨run, rfl⟩
    · exact (h.recent m _ (.working run' w executed ho) (by simp)).record (by simp)
  stopped := stopped_record h.stopped (by simp) fun _ _ he => by cases he

theorem Books.take {run w : Nat} {rest : List Ticket} (h : Books f)
    (hqueue : f.queue = ⟨n, run⟩ :: rest) (hw : f.worker w = none) :
    Books { f with
      queue := rest
      worker := Function.update f.worker w (some (⟨n, run⟩, none))
      history := f.history ++ [.taken n w] } := by
  have hmem : ⟨n, run⟩ ∈ f.queue := hqueue ▸ List.mem_cons_self
  have hrest : ∀ ticket ∈ rest, ticket ∈ f.queue := fun ticket ht =>
    hqueue ▸ List.mem_cons_of_mem _ ht
  have horder := h.inOrder
  rw [hqueue, List.map_cons] at horder
  have hlater : ∀ run', ⟨n, run'⟩ ∉ rest := by
    intro run' hin
    have hcons := (List.pairwise_append.mp horder).2.1
    exact absurd ((List.pairwise_cons.mp hcons).1 n (List.mem_map_of_mem hin)) (lt_irrefl n)
  refine ⟨?_, ?_, h.last, ?_, ?_, ?_, ?_⟩
  · have hdepth := h.depth
    rw [hqueue, List.length_cons] at hdepth
    exact Nat.le_of_succ_le hdepth
  · refine h.accounts.record ?_ ?_ ?_ ?_
    · intro m hm t
      simp only [IntakeEvent.concerns, beq_eq_false_iff_ne] at hm
      refine Open.congr Iff.rfl (fun run' => ?_) fun w' run' executed => ?_
      · simp [hqueue, Ne.symm hm]
      · rw [worker_eq_some_iff (f := f) (w := w) rfl]
        constructor
        · rintro (⟨-, ho⟩ | ⟨-, ho⟩)
          · cases ho
            exact absurd rfl hm
          · exact ho
        · intro ho
          refine Or.inr ⟨?_, ho⟩
          rintro rfl
          cases hw.symm.trans ho
    · intro m hm t ho
      obtain rfl := eq_of_beq hm
      rw [h.accounts.course_open n _ (.queued run hmem)]
      rcases ho with ho | ⟨run', ho⟩ | ⟨run', w', executed, ho⟩
      · exact absurd (h.eq_of_inHand ho (.queued run hmem)) (by simp)
      · exact absurd ho (hlater run')
      · rcases (worker_eq_some_iff (f := f) (w := w) rfl).mp ho with ⟨rfl, hx⟩ | ⟨-, hx⟩
        · cases hx
          rfl
        · exact absurd (h.eq_of_queued hmem (.working run' w' executed hx)) (by simp)
    · intro m hm
      obtain rfl := eq_of_beq hm
      exact Or.inl ⟨_, .working run w none (Function.update_self w _ _)⟩
    · intro m
      have hlt := h.lt_of_open (.queued run hmem)
      simp only [IntakeEvent.concerns, beq_iff_eq]
      omega
  · simpa [takenArrivals] using horder
  · exact h.bounded_record fun _ _ he => by cases he
  · refine h.recent_record (by simp) fun m t ho ht => ?_
    rcases ho with ho | ⟨run', ho⟩ | ⟨run', w', executed, ho⟩
    · exact absurd rfl ht
    · exact ⟨_, .queued run' (hrest _ ho), by simp⟩
    · rcases (worker_eq_some_iff (f := f) (w := w) rfl).mp ho with ⟨-, ho⟩ | ⟨-, ho⟩
      · cases ho
        exact ⟨_, .queued run hmem, by simp⟩
      · exact ⟨_, .working run' w' executed ho, by simp⟩
  · exact stopped_record h.stopped (by simp) fun _ _ he => by cases he

/-- A worker's job gets a longer course, or ends. -/
theorem Books.work {run w : Nat} {executed : Option Bytes} {o : Option (Ticket × Option Bytes)}
    {e : IntakeEvent} (h : Books f) (hw : f.worker w = some (⟨n, run⟩, executed))
    (hconcerns : ∀ m, e.concerns m = (n == m)) (htaken : takenArrivals [e] = [])
    (hstop : e ≠ .stopReturned)
    (hbody : ∀ m body, e = .executed m body → m = n ∧ body.length ≤ kMaxGatewayRequestBytes)
    (ho : (∃ body, o = some (⟨n, run⟩, some body) ∧ executed = none ∧ e = .executed n body) ∨
      o = none ∧ Settles n executed e) :
    Books { f with
      worker := Function.update f.worker w o
      history := f.history ++ [e] } := by
  have hopen : ∀ {history m t},
      Open { f with worker := Function.update f.worker w o, history := history } m t →
      f.Open m t ∧ m ≠ n ∨ m = n ∧ ∃ body, o = some (⟨n, run⟩, some body) ∧ executed = none ∧
        e = .executed n body ∧
          t = [.received n, .accepted n run, .taken n w, .executed n body] := by
    rintro history m t (hm | ⟨run', hm⟩ | ⟨run', w', executed', hm⟩)
    · refine Or.inl ⟨.inHand hm, ?_⟩
      rintro rfl
      exact absurd (h.eq_of_inHand hm (.working run w executed hw)) (by simp)
    · refine Or.inl ⟨.queued run' hm, ?_⟩
      rintro rfl
      exact absurd (h.eq_of_queued hm (.working run w executed hw)) (by simp)
    · rcases (worker_eq_some_iff (f := f) (w := w) rfl).mp hm with ⟨rfl, hx⟩ | ⟨hne, hx⟩
      · rcases ho with ⟨body, rfl, hexecuted, he⟩ | ⟨rfl, -⟩
        · cases hx
          exact Or.inr ⟨rfl, body, rfl, hexecuted, he, rfl⟩
        · cases hx
      · refine Or.inl ⟨.working run' w' executed' hx, ?_⟩
        rintro rfl
        have heq := h.eq_of_working hw (.working run' w' executed' hx)
        simp only [List.cons.injEq, IntakeEvent.taken.injEq] at heq
        exact hne heq.2.2.1.2
  refine ⟨h.depth, ?_, h.last, ?_, ?_, ?_, ?_⟩
  · refine h.accounts.record ?_ ?_ ?_ ?_
    · intro m hm t
      rw [hconcerns, beq_eq_false_iff_ne] at hm
      refine Open.congr Iff.rfl (fun _ => Iff.rfl) fun w' run' executed' => ?_
      rw [worker_eq_some_iff (f := f) (w := w) rfl]
      constructor
      · rintro (⟨-, hx⟩ | ⟨-, hx⟩)
        · rcases ho with ⟨body, rfl, -, -⟩ | ⟨rfl, -⟩
          · cases hx
            exact absurd rfl hm
          · cases hx
        · exact hx
      · intro hx
        refine Or.inr ⟨?_, hx⟩
        rintro rfl
        cases hw.symm.trans hx
        exact hm rfl
    · intro m hm t hx
      rw [hconcerns] at hm
      obtain rfl := eq_of_beq hm
      rw [h.accounts.course_open n _ (.working run w executed hw)]
      rcases hopen hx with ⟨-, hne⟩ | ⟨-, body, -, rfl, rfl, rfl⟩
      · exact absurd rfl hne
      · rfl
    · intro m hm
      rw [hconcerns] at hm
      obtain rfl := eq_of_beq hm
      rw [h.accounts.course_open n _ (.working run w executed hw)]
      rcases ho with ⟨body, rfl, rfl, rfl⟩ | ⟨rfl, he⟩
      · exact Or.inl ⟨_, .working run w (some body) (Function.update_self w _ _)⟩
      · exact Or.inr (.settled run w executed e he)
    · intro m
      have hlt := h.lt_of_open (.working run w executed hw)
      show m < f.arrivals ↔ _
      rw [hconcerns, beq_iff_eq]
      omega
  · simpa [htaken] using h.inOrder
  · exact h.bounded_record fun m body he => (hbody m body he).2
  · refine h.recent_record hstop fun m t hx ht => ?_
    rcases hopen hx with ⟨hx, -⟩ | ⟨rfl, -⟩
    · exact ⟨t, hx, ht⟩
    · exact ⟨_, .working run w executed hw, by simp⟩
  · refine stopped_record h.stopped hstop fun m body he => ?_
    rw [(hbody m body he).1]
    exact h.recent n _ (.working run w executed hw) (by simp)

theorem Books.discard (h : Books f) (hhand : f.inHand = none) (hworker : ∀ w, f.worker w = none) :
    Books { f with
      queue := []
      history := f.history ++ [.discarded (f.queue.map Ticket.arrival)] } := by
  have hclosed : ∀ {history} m t, ¬ Open { f with queue := [], history := history } m t := by
    rintro history m t (hm | ⟨run, hm⟩ | ⟨run, w, executed, hm⟩)
    · cases hhand.symm.trans hm
    · cases hm
    · cases (hworker w).symm.trans hm
  refine ⟨Nat.zero_le _, ?_, h.last, ?_, ?_, ?_, ?_⟩
  · refine h.accounts.record ?_ ?_ ?_ ?_
    · intro m hm t
      refine iff_of_false (hclosed m t) ?_
      rintro (hx | ⟨run, hx⟩ | ⟨run, w, executed, hx⟩)
      · cases hhand.symm.trans hx
      · have hin : m ∈ f.queue.map Ticket.arrival := List.mem_map_of_mem hx
        rw [← List.contains_iff_mem] at hin
        exact Bool.false_ne_true (hm.symm.trans hin)
      · cases (hworker w).symm.trans hx
    · intro m _ t hx
      exact absurd hx (hclosed m t)
    · intro m hm
      obtain ⟨⟨arrival, run⟩, hqueue, rfl⟩ := List.mem_map.mp (List.contains_iff_mem.mp hm)
      rw [h.accounts.course_open arrival _ (.queued run hqueue)]
      exact Or.inr (.discarded run _)
    · intro m
      refine ⟨Or.inl, ?_⟩
      rintro (hm | hm)
      · exact hm
      · obtain ⟨⟨arrival, run⟩, hqueue, rfl⟩ := List.mem_map.mp (List.contains_iff_mem.mp hm)
        exact h.lt_of_open (.queued run hqueue)
  · have htaken := (List.pairwise_append.mp h.inOrder).1
    simpa [takenArrivals] using htaken
  · exact h.bounded_record fun _ _ he => by cases he
  · exact fun m t hx => absurd hx (hclosed m t)
  · exact stopped_record h.stopped (by simp) fun _ _ he => by cases he

theorem Books.stop (h : Books f) (hhand : f.inHand = none) (hqueue : f.queue = [])
    (hworker : ∀ w, f.worker w = none) :
    Books { f with history := f.history ++ [.stopReturned] } := by
  have hclosed : ∀ {history} m t, ¬ Open { f with history := history } m t := by
    rintro history m t (hm | ⟨run, hm⟩ | ⟨run, w, executed, hm⟩)
    · cases hhand.symm.trans hm
    · cases hqueue ▸ hm
    · cases (hworker w).symm.trans hm
  refine ⟨h.depth, ?_, h.last, ?_, ?_, ?_, ?_⟩
  · refine h.accounts.record (fun m _ t => ?_) ?_ ?_ ?_
    · exact Open.congr Iff.rfl (fun _ => Iff.rfl) fun _ _ _ => Iff.rfl
    · exact fun m _ t hx => absurd hx (hclosed m t)
    · intro m hm
      cases hm
    · simp [IntakeEvent.concerns]
  · simpa [takenArrivals] using h.inOrder
  · exact h.bounded_record fun _ _ he => by cases he
  · exact fun m t hx => absurd hx (hclosed m t)
  · intro before after heq m body hmem
    rcases after.eq_nil_or_concat with rfl | ⟨rest, y, rfl⟩
    · cases hmem
    · rw [List.concat_eq_append, ← List.cons_append, ← List.append_assoc] at heq
      obtain ⟨hfront, hlast⟩ := List.append_inj' heq rfl
      rw [List.concat_eq_append, ← List.singleton_inj.mp hlast] at hmem ⊢
      rcases List.mem_append.mp hmem with hmem | hmem
      · obtain ⟨run, hrun⟩ := h.stopped before rest hfront m body hmem
        exact ⟨run, List.mem_append_left _ hrun⟩
      · cases List.mem_singleton.mp hmem

/-- **Every move keeps the books.** -/
theorem Books.move (h : Books f) (hmove : f.Move f') : Books f' := by
  cases hmove with
  | receive hhand => exact h.receive hhand
  | answer n answer hhand => exact h.answer answer hhand
  | accept n run hhand hdepth => exact h.accept run hhand hdepth
  | take w n run rest hqueue hw => exact h.take hqueue hw
  | execute w n run body hw hbody =>
    refine h.work hw (fun _ => rfl) rfl (by simp) (fun m body' he => ?_)
      (Or.inl ⟨body, rfl, rfl, rfl⟩)
    cases he
    exact ⟨rfl, hbody⟩
  | settle w n run executed e hw he =>
    refine h.work hw ?_ ?_ ?_ ?_ (Or.inr ⟨rfl, he⟩)
    · cases he <;> exact fun _ => rfl
    · cases he <;> rfl
    · cases he <;> simp
    · cases he <;> exact fun _ _ he => by cases he
  | discard hhand hworker => exact h.discard hhand hworker
  | stop hhand hqueue hworker => exact h.stop hhand hqueue hworker

end Flight

end Gateway
end MasterControl
