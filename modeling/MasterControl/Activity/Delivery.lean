import MasterControl.Activity.Ring
import MasterControl.Foundation.Runs

/-!
# What a consumer of the activity ring receives

Two readers follow the ring with a cursor.  The event stream reads a page of 100 at each
tick and resumes a broken connection behind the last event received; the poll route answers
one request, with a bound and a filter on the kind.  Both hand out the newest number as the
next cursor, whatever part of the ring the page covered, so an event behind a page that was
cut short is skipped (`cut_page_skips`).  In the runs in which no page is cut, the consumer
gets every event it waits for, once and in order (`activity_delivered`).
-/

namespace MasterControl
namespace Activity

open Foundation

/-! ## The two readers -/

/-- A filter on the kind of an event; no text, no filter. -/
structure KindFilter where
  text : Bytes
  isPrefix : Bool

/-- The value of `kind`: a trailing `*` asks for a prefix. -/
def kindFilterOf (kind : Bytes) : KindFilter :=
  if kind.getLast? = some 42 then { text := kind.dropLast, isPrefix := true }
  else { text := kind, isPrefix := false }

def KindFilter.accepts (filter : KindFilter) (e : ActivityEvent) : Bool :=
  if filter.text = [] then true
  else if filter.isPrefix then filter.text.isPrefixOf e.kind
  else e.kind = filter.text

/-- The value of `max`: a positive number, cut off at the capacity, or else the capacity. -/
def maxCountOf (maxValue : Bytes) : Nat :=
  match stoull maxValue with
  | none => kCapacity
  | some parsed =>
    if 0 < parsed then (if kCapacity < parsed then kCapacity else parsed) else kCapacity

/-- How many events the route looks at. -/
def readCountOf (filter : KindFilter) (maxCount : Nat) : Nat :=
  if filter.text = [] then maxCount
  else if maxCount * 4 < kCapacity then maxCount * 4 else kCapacity

/-- The loop of the route: accepted events, until so many are out. -/
def emit (filter : KindFilter) (maxCount : Nat) (emitted : Nat) :
    List ActivityEvent → List ActivityEvent
  | [] => []
  | e :: events =>
    if filter.accepts e then
      e :: if maxCount ≤ emitted + 1 then [] else emit filter maxCount (emitted + 1) events
    else emit filter maxCount emitted events

/-- `GET /api/activity`.  `none` is an exception: the body is dumped with the kind of the
request in it. -/
def activityRoute (r : ActivityEventRing) (sinceId maxValue kind : Bytes) : Option Snapshot :=
  let filter := kindFilterOf kind
  let maxCount := maxCountOf maxValue
  let snap := r.read sinceId (readCountOf filter maxCount)
  let events := emit filter maxCount 0 snap.events
  if events.all ActivityEvent.writable && validUtf8 filter.text then
    some { events, highWaterMarkId := snap.highWaterMarkId }
  else none

/-- The page of the event stream. -/
def streamPage : Nat := 100

/-- The activity part of a tick: the events that are sent, and `lastActivityId` after it.
An event that cannot be written ends the tick. -/
def streamTick (r : ActivityEventRing) (lastActivityId : Bytes) : List ActivityEvent × Bytes :=
  let recent := r.read lastActivityId streamPage
  if recent.events = [] then
    ([], if lastActivityId = [] then recent.highWaterMarkId else lastActivityId)
  else if recent.events.all ActivityEvent.writable then (recent.events, recent.highWaterMarkId)
  else (recent.events.takeWhile ActivityEvent.writable, lastActivityId)

/-- Who reads. -/
inductive Consumer where
  | stream
  | poll (kind : Bytes)

namespace Consumer

def accepts : Consumer → ActivityEvent → Bool
  | stream, _ => true
  | poll kind, e => (kindFilterOf kind).accepts e

/-- How many events a read looks at. -/
def readCount : Consumer → Bytes → Nat
  | stream, _ => streamPage
  | poll kind, maxValue => readCountOf (kindFilterOf kind) (maxCountOf maxValue)

/-- How many events a page holds. -/
def pageSize : Consumer → Bytes → Nat
  | stream, _ => streamPage
  | poll _, maxValue => maxCountOf maxValue

/-- What one read brings, and the cursor for the next one.  A request that is not answered
leaves the consumer where it was. -/
def answer (consumer : Consumer) (r : ActivityEventRing) (cursor maxValue : Bytes) :
    List ActivityEvent × Bytes :=
  match consumer with
  | stream => streamTick r cursor
  | poll kind =>
    match activityRoute r cursor maxValue kind with
    | some snap => (snap.events, snap.highWaterMarkId)
    | none => ([], cursor)

end Consumer

/-! ## Runs -/

/-- Where a consumer starts. -/
structure Start where
  consumer : Consumer
  ring : ActivityEventRing
  cursor : Bytes

/-- The number behind which the consumer waits for events. -/
def Start.mark (start : Start) : Nat :=
  if start.cursor = [] then start.ring.nextSequence else cursorValue start.cursor

/-- The ring and one consumer of it. -/
structure World where
  ring : ActivityEventRing
  cursor : Bytes
  /-- The events it received, over all pages. -/
  received : List ActivityEvent := []
  /-- The events it waits for that were in the ring at the read after they were recorded. -/
  due : List ActivityEvent := []
  /-- The number up to which its reads have come. -/
  seen : Nat

inductive Action where
  | append (now : Bytes) (input : ActivityEvent)
  /-- A tick of the stream, or a poll with a value of `max`. -/
  | read (maxValue : Bytes)
  /-- The connection of the stream breaks in a tick, after so many of its events, and the
  client resumes. -/
  | reconnect (sent : Nat)

namespace World

/-- Accepted events behind the start that no read has come to. -/
def pending (start : Start) (w : World) : List ActivityEvent :=
  w.ring.ring.filter fun e =>
    start.consumer.accepts e && decide (start.mark < e.sequence) && decide (w.seen < e.sequence)

def read (start : Start) (w : World) (maxValue : Bytes) : World :=
  let answer := start.consumer.answer w.ring w.cursor maxValue
  { w with
    cursor := answer.2
    received := w.received ++ answer.1
    due := w.due ++ w.pending start
    seen := w.ring.nextSequence }

/-- The client resumes with the id of the last event it received, or as it started. -/
def resume (start : Start) (received : List ActivityEvent) : Bytes × Nat :=
  match received.getLast? with
  | none => (start.cursor, start.mark)
  | some last => (last.id, last.sequence)

def reconnect (start : Start) (w : World) (sent : Nat) : World :=
  match start.consumer with
  | .poll _ => w
  | .stream =>
    let received := w.received ++ (streamTick w.ring w.cursor).1.take sent
    let resumed := resume start received
    { w with
      cursor := resumed.1
      received
      due := w.due ++ (w.pending start).filter fun e => e.sequence ≤ resumed.2
      seen := resumed.2 }

end World

def step (start : Start) (w : World) : Action → World
  | .append now input => { w with ring := w.ring.append now input }
  | .read maxValue => w.read start maxValue
  | .reconnect sent => w.reconnect start sent

/-- The runs of a consumer. -/
def delivery (start : Start) : TransitionSystem World Action where
  init := { ring := start.ring, cursor := start.cursor, seen := start.mark }
  step := step start

/-! ## Runs in which no page is cut -/

/-- Events that no read has come to. -/
def World.unread (w : World) : List ActivityEvent :=
  w.ring.ring.filter fun e => w.seen < e.sequence

/-- The part of the ring before a reader that looks at so many events: without a cursor the
newest ones, otherwise the first that it has not come to. -/
def World.window (w : World) (readCount : Nat) : List ActivityEvent :=
  if w.cursor = [] then w.ring.ring.drop (w.ring.ring.length - readCount)
  else w.unread.take readCount

/-- The kind that a request asks for comes back in the body. -/
def Consumer.KindValid : Consumer → Prop
  | stream => True
  | poll kind => validUtf8 (kindFilterOf kind).text = true

/-- A read whose page is not cut: what the consumer accepts of the unread events lies in the
window, the page holds all that is accepted there, and it can be written. -/
structure Fits (consumer : Consumer) (w : World) (maxValue : Bytes) : Prop where
  inWindow : ∀ e ∈ w.unread, consumer.accepts e = true → e ∈ w.window (consumer.readCount maxValue)
  onPage : w.unread.filter consumer.accepts = [] ∨
    (w.window (consumer.readCount maxValue)).countP consumer.accepts ≤ consumer.pageSize maxValue
  writable : ∀ e ∈ w.window (consumer.readCount maxValue), consumer.accepts e = true →
    e.writable = true
  kind : consumer.KindValid

/-- The steps in which no event is lost. -/
def Lossless (consumer : Consumer) (w : World) : Action → Prop
  | .append _ _ => w.ring.nextSequence + 1 < 2 ^ 64
  | .read maxValue => Fits consumer w maxValue
  | .reconnect _ => w.cursor = [] → ∀ e ∈ w.unread, e ∈ w.window streamPage

instance : (consumer : Consumer) → Decidable consumer.KindValid
  | .stream => isTrue trivial
  | .poll kind => inferInstanceAs (Decidable (validUtf8 (kindFilterOf kind).text = true))

instance (consumer : Consumer) (w : World) (maxValue : Bytes) :
    Decidable (Fits consumer w maxValue) :=
  decidable_of_iff
    ((∀ e ∈ w.unread, consumer.accepts e = true → e ∈ w.window (consumer.readCount maxValue)) ∧
      (w.unread.filter consumer.accepts = [] ∨
        (w.window (consumer.readCount maxValue)).countP consumer.accepts ≤
          consumer.pageSize maxValue) ∧
      (∀ e ∈ w.window (consumer.readCount maxValue), consumer.accepts e = true →
        e.writable = true) ∧
      consumer.KindValid)
    ⟨fun h => ⟨h.1, h.2.1, h.2.2.1, h.2.2.2⟩, fun h => ⟨h.inWindow, h.onPage, h.writable, h.kind⟩⟩

instance (consumer : Consumer) (w : World) : (a : Action) → Decidable (Lossless consumer w a)
  | .append _ _ => inferInstanceAs (Decidable (w.ring.nextSequence + 1 < 2 ^ 64))
  | .read maxValue => inferInstanceAs (Decidable (Fits consumer w maxValue))
  | .reconnect _ =>
    inferInstanceAs (Decidable (w.cursor = [] → ∀ e ∈ w.unread, e ∈ w.window streamPage))

/-- A start with a numbered ring and a cursor that is not ahead of it. -/
structure Start.Sound (start : Start) : Prop where
  numbered : Numbered start.ring
  small : start.ring.nextSequence < 2 ^ 64
  mark_le : start.mark ≤ start.ring.nextSequence

/-! ## What a read answers -/

section Answers

variable {r : ActivityEventRing}

theorem read_events_newest (r : ActivityEventRing) (n : Nat) :
    (r.read [] n).events = r.ring.drop (r.ring.length - n) := by
  have hstart : r.ring.length - min n r.ring.length = r.ring.length - n := by omega
  show r.ring.drop (r.ring.length - min n r.ring.length) = _
  rw [hstart]

theorem read_events_newer {cursor : Bytes} (h : cursor ≠ []) (n : Nat) :
    (r.read cursor n).events =
      (r.ring.filter fun e => cursorValue cursor < e.sequence).take n := by
  rw [ActivityEventRing.read, if_neg h, collectNewer_eq]

/-- The loop of the route takes accepted events from the front. -/
theorem emit_eq (filter : KindFilter) {maxCount emitted : Nat} (h : emitted < maxCount)
    (events : List ActivityEvent) :
    emit filter maxCount emitted events =
      (events.filter filter.accepts).take (maxCount - emitted) := by
  induction events generalizing emitted with
  | nil => rw [emit, List.filter_nil, List.take_nil]
  | cons e events ih =>
    rw [emit]
    by_cases haccepts : filter.accepts e = true
    · rw [if_pos haccepts, List.filter_cons_of_pos haccepts]
      by_cases hfull : maxCount ≤ emitted + 1
      · rw [if_pos hfull, show maxCount - emitted = 0 + 1 by omega, List.take_succ_cons,
          List.take_zero]
      · rw [if_neg hfull, ih (not_le.mp hfull),
          show maxCount - emitted = (maxCount - (emitted + 1)) + 1 by omega, List.take_succ_cons]
    · rw [if_neg haccepts, List.filter_cons_of_neg haccepts, ih h]

theorem maxCountOf_pos (maxValue : Bytes) : 0 < maxCountOf maxValue := by
  unfold maxCountOf
  split
  · decide
  · split_ifs
    · decide
    · assumption
    · decide

end Answers

section Fits

variable {consumer : Consumer} {w : World} {maxValue : Bytes}

theorem mem_ring_of_mem_window {e : ActivityEvent} {n : Nat} (h : e ∈ w.window n) :
    e ∈ w.ring.ring := by
  unfold World.window at h
  split_ifs at h
  · exact List.mem_of_mem_drop h
  · exact List.mem_of_mem_filter (List.mem_of_mem_take h)

theorem mem_unread {e : ActivityEvent} :
    e ∈ w.unread ↔ e ∈ w.ring.ring ∧ w.seen < e.sequence := by
  rw [World.unread, List.mem_filter, decide_eq_true_eq]

theorem mem_unread_of_mem_window {e : ActivityEvent} {n : Nat} (hcursor : w.cursor ≠ [])
    (h : e ∈ w.window n) : e ∈ w.unread := by
  rw [World.window, if_neg hcursor] at h
  exact List.mem_of_mem_take h

theorem length_window_le (w : World) (n : Nat) : (w.window n).length ≤ n := by
  unfold World.window
  split_ifs
  · rw [List.length_drop]
    omega
  · exact List.length_take_le n _

theorem window_sublist (w : World) (n : Nat) : (w.window n).Sublist w.ring.ring := by
  unfold World.window
  split_ifs
  · exact List.drop_sublist _ _
  · exact (List.take_sublist _ _).trans List.filter_sublist

/-- The accepted part of the window, as far as the page reaches. -/
def World.page (consumer : Consumer) (w : World) (maxValue : Bytes) : List ActivityEvent :=
  ((w.window (consumer.readCount maxValue)).filter consumer.accepts).take
    (consumer.pageSize maxValue)

theorem mem_window_of_mem_page {e : ActivityEvent} (h : e ∈ w.page consumer maxValue) :
    e ∈ w.window (consumer.readCount maxValue) ∧ consumer.accepts e = true :=
  List.mem_filter.mp (List.mem_of_mem_take h)

theorem page_sublist (consumer : Consumer) (w : World) (maxValue : Bytes) :
    (w.page consumer maxValue).Sublist (w.window (consumer.readCount maxValue)) :=
  (List.take_sublist _ _).trans List.filter_sublist

theorem page_stream : w.page .stream maxValue = w.window streamPage := by
  have hall : (w.window streamPage).filter (Consumer.accepts .stream) = w.window streamPage :=
    List.filter_eq_self.mpr fun _ _ => rfl
  show ((w.window streamPage).filter (Consumer.accepts .stream)).take streamPage = _
  rw [hall, List.take_of_length_le (length_window_le w streamPage)]

/-- The page of an uncut read, and the cursor after it: the newest number, or the old cursor
where nothing was unread. -/
theorem Fits.answer_eq (h : Fits consumer w maxValue)
    (hread : ∀ n, (w.ring.read w.cursor n).events = w.window n) :
    (consumer.answer w.ring w.cursor maxValue).1 = w.page consumer maxValue ∧
      ((consumer.answer w.ring w.cursor maxValue).2 = decimal w.ring.nextSequence ∨
        (consumer.answer w.ring w.cursor maxValue).2 = w.cursor ∧ w.cursor ≠ [] ∧
          w.unread = []) := by
  have hall : (w.page consumer maxValue).all ActivityEvent.writable = true := by
    refine List.all_eq_true.mpr fun e he => ?_
    obtain ⟨hwindow, haccepts⟩ := mem_window_of_mem_page he
    exact h.writable e hwindow haccepts
  cases consumer with
  | stream =>
    rw [page_stream] at hall ⊢
    simp only [Consumer.answer, streamTick, hread]
    by_cases hempty : w.window streamPage = []
    · rw [if_pos hempty, hempty]
      refine ⟨rfl, ?_⟩
      by_cases hcursor : w.cursor = []
      · rw [if_pos hcursor]
        exact Or.inl rfl
      · rw [if_neg hcursor]
        refine Or.inr ⟨rfl, hcursor, ?_⟩
        rw [World.window, if_neg hcursor, List.take_eq_nil_iff] at hempty
        exact hempty.resolve_left (by decide)
    · rw [if_neg hempty, if_pos hall]
      exact ⟨rfl, Or.inl rfl⟩
  | poll kind =>
    have hevents : emit (kindFilterOf kind) (maxCountOf maxValue) 0
        (w.window (readCountOf (kindFilterOf kind) (maxCountOf maxValue))) =
          w.page (.poll kind) maxValue := by
      rw [emit_eq _ (maxCountOf_pos maxValue), Nat.sub_zero]
      rfl
    have hkind : validUtf8 (kindFilterOf kind).text = true := h.kind
    have hroute : activityRoute w.ring w.cursor maxValue kind =
        some ⟨w.page (.poll kind) maxValue, decimal w.ring.nextSequence⟩ := by
      simp only [activityRoute, hread, hevents, hall, hkind, Bool.and_self, if_true]
      rfl
    simp only [Consumer.answer, hroute]
    exact ⟨trivial, Or.inl trivial⟩

end Fits

/-! ## The invariant -/

/-- A cursor at the place up to which the reads have come. -/
structure Follows (w : World) : Prop where
  le_seen : cursorValue w.cursor ≤ w.seen
  newer : ∀ e ∈ w.ring.ring, cursorValue w.cursor < e.sequence → w.seen < e.sequence
  received_le : ∀ e ∈ w.received, e.sequence ≤ cursorValue w.cursor

/-- What holds of a consumer that has lost nothing. -/
structure Delivered (start : Start) (w : World) : Prop where
  numbered : Numbered w.ring
  small : w.ring.nextSequence < 2 ^ 64
  mark_le : start.mark ≤ w.ring.nextSequence
  seen_le : w.seen ≤ w.ring.nextSequence
  received_le : ∀ e ∈ w.received, e.sequence ≤ w.ring.nextSequence
  named : ∀ e ∈ w.received, e.id ≠ []
  increasing : Increasing w.received
  law : w.received.filter (fun e => start.mark < e.sequence) = w.due
  /-- What the reads have come to was due. -/
  covered : ∀ e ∈ w.ring.ring, start.consumer.accepts e = true → start.mark < e.sequence →
    e.sequence ≤ w.seen → e ∈ w.due
  fresh : w.cursor = [] → w.received = []
  follows : w.cursor ≠ [] → Follows w

section Invariant

variable {start : Start} {w : World} {e : ActivityEvent}

theorem mem_pending : e ∈ w.pending start ↔
    e ∈ w.ring.ring ∧ start.consumer.accepts e = true ∧ start.mark < e.sequence ∧
      w.seen < e.sequence := by
  rw [World.pending, List.mem_filter, Bool.and_eq_true, Bool.and_eq_true, decide_eq_true_eq,
    decide_eq_true_eq, and_assoc]

theorem Start.Sound.delivered (hstart : start.Sound) : Delivered start (delivery start).init where
  numbered := hstart.numbered
  small := hstart.small
  mark_le := hstart.mark_le
  seen_le := hstart.mark_le
  received_le _ h := by cases h
  named _ h := by cases h
  increasing := List.Pairwise.nil
  law := rfl
  covered _ _ _ hlt hle := absurd hlt (not_lt.mpr hle)
  fresh _ := rfl
  follows hcursor := by
    have hmark : start.mark = cursorValue start.cursor := if_neg hcursor
    refine ⟨hmark.ge, fun e _ hlt => ?_, fun _ h => (by cases h)⟩
    show start.mark < e.sequence
    rwa [hmark]

variable (h : Delivered start w)
include h

/-- A read looks at the window. -/
theorem Delivered.read_events (n : Nat) : (w.ring.read w.cursor n).events = w.window n := by
  by_cases hcursor : w.cursor = []
  · rw [World.window, if_pos hcursor, hcursor, read_events_newest]
  · rw [World.window, if_neg hcursor, read_events_newer hcursor, World.unread]
    congr 1
    refine List.filter_congr fun e he => decide_eq_decide.mpr ⟨(h.follows hcursor).newer e he, ?_⟩
    exact (h.follows hcursor).le_seen.trans_lt

theorem Delivered.increasing_window (n : Nat) : Increasing (w.window n) :=
  h.numbered.increasing.sublist (window_sublist w n)

/-- What a window shows behind the start is waited for. -/
theorem Delivered.pending_of_window {n : Nat} (hwindow : e ∈ w.window n)
    (haccepts : start.consumer.accepts e = true) (hmark : start.mark < e.sequence) :
    e ∈ w.pending start := by
  have hring := mem_ring_of_mem_window hwindow
  refine mem_pending.mpr ⟨hring, haccepts, hmark, ?_⟩
  by_cases hcursor : w.cursor = []
  · by_contra hle
    have hdue := h.covered e hring haccepts hmark (not_lt.mp hle)
    rw [← h.law, h.fresh hcursor] at hdue
    cases hdue
  · exact (mem_unread.mp (mem_unread_of_mem_window hcursor hwindow)).2

/-- What is received from a window comes behind what was received before. -/
theorem Delivered.increasing_append {n : Nat} {events : List ActivityEvent}
    (hevents : events.Sublist (w.window n)) : Increasing (w.received ++ events) := by
  refine List.pairwise_append.mpr
    ⟨h.increasing, (h.increasing_window n).sublist hevents, fun a ha b hb => ?_⟩
  have hcursor : w.cursor ≠ [] := by
    intro hcursor
    rw [h.fresh hcursor] at ha
    cases ha
  have hfollows := h.follows hcursor
  have hunread := (mem_unread.mp (mem_unread_of_mem_window hcursor (hevents.subset hb))).2
  exact ((hfollows.received_le a ha).trans hfollows.le_seen).trans_lt hunread

/-- The received events keep the law when what arrives behind the start is what is due. -/
theorem Delivered.law_append {n : Nat} {events due : List ActivityEvent}
    (hevents : events.Sublist (w.window n)) (hdue : due.Sublist (w.pending start))
    (hmem : ∀ e, e ∈ due ↔ e ∈ events ∧ start.mark < e.sequence) :
    (w.received ++ events).filter (fun e => start.mark < e.sequence) = w.due ++ due := by
  rw [List.filter_append, h.law]
  congr 1
  have hpending : Increasing (w.pending start) := h.numbered.increasing.sublist List.filter_sublist
  refine Increasing.ext (((h.increasing_window n).sublist hevents).sublist List.filter_sublist)
    (hpending.sublist hdue) fun e => ?_
  rw [List.mem_filter, decide_eq_true_eq]
  exact (hmem e).symm

theorem Delivered.received_append_le {n : Nat} {events : List ActivityEvent}
    (hevents : events.Sublist (w.window n)) :
    ∀ e ∈ w.received ++ events, e.sequence ≤ w.ring.nextSequence := by
  intro e he
  rcases List.mem_append.mp he with he | he
  · exact h.received_le e he
  · exact h.numbered.le_next e (mem_ring_of_mem_window (hevents.subset he))

theorem Delivered.named_append {n : Nat} {events : List ActivityEvent}
    (hevents : events.Sublist (w.window n)) : ∀ e ∈ w.received ++ events, e.id ≠ [] := by
  intro e he
  rcases List.mem_append.mp he with he | he
  · exact h.named e he
  · rw [h.numbered.id_eq e (mem_ring_of_mem_window (hevents.subset he))]
    exact decimal_ne_nil e.sequence

/-! ### One step -/

theorem Delivered.append (now : Bytes) (input : ActivityEvent)
    (hsmall : w.ring.nextSequence + 1 < 2 ^ 64) :
    Delivered start { w with ring := w.ring.append now input } := by
  have hnext : (w.ring.append now input).nextSequence = w.ring.nextSequence + 1 := bumped_eq hsmall
  have hstamp := sequence_stamp now input hsmall
  refine ⟨h.numbered.append hsmall, ?_, ?_, ?_, fun e he => ?_, h.named, h.increasing, h.law,
    fun e he haccepts hmark hle => ?_, h.fresh, fun hcursor => ?_⟩
  · exact hnext.trans_lt hsmall
  · exact h.mark_le.trans ((Nat.le_succ _).trans hnext.ge)
  · exact h.seen_le.trans ((Nat.le_succ _).trans hnext.ge)
  · exact (h.received_le e he).trans ((Nat.le_succ _).trans hnext.ge)
  · rcases mem_pushBounded he with he | rfl
    · exact h.covered e he haccepts hmark hle
    · rw [hstamp] at hle
      exact absurd hle (not_le.mpr (Nat.lt_succ_of_le h.seen_le))
  · have hfollows := h.follows hcursor
    refine ⟨hfollows.le_seen, fun e he hlt => ?_, hfollows.received_le⟩
    rcases mem_pushBounded he with he | rfl
    · exact hfollows.newer e he hlt
    · rw [hstamp]
      exact Nat.lt_succ_of_le h.seen_le

/-- An uncut page brings what was waited for. -/
theorem Delivered.mem_page {maxValue : Bytes} (hfits : Fits start.consumer w maxValue) :
    e ∈ w.pending start ↔ e ∈ w.page start.consumer maxValue ∧ start.mark < e.sequence := by
  constructor
  · intro he
    obtain ⟨hring, haccepts, hmark, hseen⟩ := mem_pending.mp he
    have hunread : e ∈ w.unread := mem_unread.mpr ⟨hring, hseen⟩
    have hwindow := hfits.inWindow e hunread haccepts
    refine ⟨?_, hmark⟩
    rcases hfits.onPage with hnone | hcount
    · have hmem : e ∈ w.unread.filter start.consumer.accepts :=
        List.mem_filter.mpr ⟨hunread, haccepts⟩
      rw [hnone] at hmem
      cases hmem
    · rw [World.page, List.take_of_length_le (by rwa [← List.countP_eq_length_filter])]
      exact List.mem_filter.mpr ⟨hwindow, haccepts⟩
  · rintro ⟨hpage, hmark⟩
    obtain ⟨hwindow, haccepts⟩ := mem_window_of_mem_page hpage
    exact h.pending_of_window hwindow haccepts hmark

theorem Delivered.read (maxValue : Bytes) (hfits : Fits start.consumer w maxValue) :
    Delivered start (w.read start maxValue) := by
  obtain ⟨hpage, hcursor⟩ := hfits.answer_eq h.read_events
  have hsublist := page_sublist start.consumer w maxValue
  have hread : w.read start maxValue =
      { w with
        cursor := (start.consumer.answer w.ring w.cursor maxValue).2
        received := w.received ++ w.page start.consumer maxValue
        due := w.due ++ w.pending start
        seen := w.ring.nextSequence } := by
    rw [← hpage]
    rfl
  rw [hread]
  have hreceived := h.received_append_le hsublist
  refine ⟨h.numbered, h.small, h.mark_le, le_rfl, hreceived, h.named_append hsublist,
    h.increasing_append hsublist,
    h.law_append hsublist (List.Sublist.refl _) fun e => h.mem_page hfits,
    fun e he haccepts hmark _ => ?_, fun hnil => ?_, fun _ => ?_⟩
  · by_cases hle : e.sequence ≤ w.seen
    · exact List.mem_append_left _ (h.covered e he haccepts hmark hle)
    · exact List.mem_append_right _ (mem_pending.mpr ⟨he, haccepts, hmark, not_le.mp hle⟩)
  · rcases hcursor with hnew | ⟨hold, hne, -⟩
    · exact absurd (hnew.symm.trans hnil) (decimal_ne_nil _)
    · exact absurd (hold.symm.trans hnil) hne
  · rcases hcursor with hnew | ⟨hold, hne, hunread⟩
    · have hvalue : cursorValue (start.consumer.answer w.ring w.cursor maxValue).2 =
          w.ring.nextSequence := by
        rw [hnew, cursorValue, stoull_decimal h.small, Option.getD_some]
      exact ⟨hvalue.le, fun e _ hlt => hvalue.ge.trans_lt hlt,
        fun e he => (hreceived e he).trans hvalue.ge⟩
    · -- nothing was unread, so nothing was received either
      have hfollows := h.follows hne
      refine ⟨?_, fun e he hlt => ?_, fun e he => ?_⟩
      · exact (hold ▸ hfollows.le_seen).trans h.seen_le
      · have hmem : e ∈ w.unread := mem_unread.mpr ⟨he, hfollows.newer e he (hold ▸ hlt)⟩
        rw [hunread] at hmem
        cases hmem
      · rw [hold]
        rcases List.mem_append.mp he with he | he
        · exact hfollows.received_le e he
        · have hmem := mem_unread_of_mem_window hne (hsublist.subset he)
          rw [hunread] at hmem
          cases hmem

/-- What a tick sends is the front of the window. -/
theorem Delivered.streamTick_prefix : (streamTick w.ring w.cursor).1 <+: w.window streamPage := by
  simp only [streamTick, h.read_events]
  split
  · exact List.nil_prefix
  · split
    · exact List.prefix_rfl
    · exact List.takeWhile_prefix _

omit h in
/-- Where a client resumes: behind all that it received. -/
theorem resume_spec (start : Start) {received : List ActivityEvent}
    (hincreasing : Increasing received)
    (hnamed : ∀ e ∈ received, e.id ≠ []) :
    (World.resume start received).1 = [] ∧ received = [] ∨
      (World.resume start received).1 ≠ [] ∧
        cursorValue (World.resume start received).1 = (World.resume start received).2 ∧
        ∀ e ∈ received, e.sequence ≤ (World.resume start received).2 := by
  unfold World.resume
  split
  · rename_i hnone
    rw [List.getLast?_eq_none_iff] at hnone
    by_cases hcursor : start.cursor = []
    · exact Or.inl ⟨hcursor, hnone⟩
    · refine Or.inr ⟨hcursor, (if_neg hcursor).symm, fun e he => ?_⟩
      rw [hnone] at he
      cases he
  · rename_i last hlast
    exact Or.inr ⟨hnamed last (List.mem_of_getLast? hlast), rfl, fun e he =>
      hincreasing.le_getLast hlast he⟩

/-- Up to where the client resumes, the front of a tick brings what was waited for. -/
theorem Delivered.mem_front {events : List ActivityEvent}
    (hstream : start.consumer = .stream) (hfront : events <+: w.window streamPage)
    (hwindow : w.cursor = [] → ∀ e ∈ w.unread, e ∈ w.window streamPage) :
    (e ∈ (w.pending start).filter fun e =>
        e.sequence ≤ (World.resume start (w.received ++ events)).2) ↔
      e ∈ events ∧ start.mark < e.sequence := by
  have hincreasing := h.increasing_append hfront.sublist
  rw [List.mem_filter, decide_eq_true_eq]
  constructor
  · rintro ⟨hpending, hle⟩
    obtain ⟨hring, -, hmark, hseen⟩ := mem_pending.mp hpending
    refine ⟨?_, hmark⟩
    unfold World.resume at hle
    split at hle
    · exact absurd hmark (not_lt.mpr hle)
    · rename_i last hlast
      have hunread : e ∈ w.unread := mem_unread.mpr ⟨hring, hseen⟩
      rcases List.mem_append.mp (List.mem_of_getLast? hlast) with hold | hnew
      · -- an event received before is not behind what the reads have come to
        have hcursor : w.cursor ≠ [] := by
          intro hcursor
          rw [h.fresh hcursor] at hold
          cases hold
        have hfollows := h.follows hcursor
        exact absurd (hseen.trans_le hle)
          (not_lt.mpr ((hfollows.received_le last hold).trans hfollows.le_seen))
      · by_cases hcursor : w.cursor = []
        · exact (h.increasing_window streamPage).mem_of_front hfront hnew
            (hwindow hcursor e hunread) hle
        · rw [World.window, if_neg hcursor] at hfront
          exact Increasing.mem_of_front (h.numbered.increasing.sublist List.filter_sublist)
            (hfront.trans (List.take_prefix _ _)) hnew hunread hle
  · rintro ⟨hevents, hmark⟩
    refine ⟨h.pending_of_window (hfront.subset hevents) ?_ hmark, ?_⟩
    · rw [hstream]
      rfl
    · rcases resume_spec start hincreasing (h.named_append hfront.sublist) with
        ⟨-, hnil⟩ | ⟨-, -, hle⟩
      · rw [(List.append_eq_nil_iff.mp hnil).2] at hevents
        cases hevents
      · exact hle e (List.mem_append_right _ hevents)

theorem Delivered.resume_le {received : List ActivityEvent}
    (hreceived : ∀ e ∈ received, e.sequence ≤ w.ring.nextSequence) :
    (World.resume start received).2 ≤ w.ring.nextSequence := by
  unfold World.resume
  split
  · exact h.mark_le
  · rename_i last hlast
    exact hreceived last (List.mem_of_getLast? hlast)

theorem Delivered.reconnect (sent : Nat)
    (hwindow : w.cursor = [] → ∀ e ∈ w.unread, e ∈ w.window streamPage) :
    Delivered start (w.reconnect start sent) := by
  unfold World.reconnect
  split
  · exact h
  · rename_i hstream
    have hfront : (streamTick w.ring w.cursor).1.take sent <+: w.window streamPage :=
      (List.take_prefix _ _).trans h.streamTick_prefix
    generalize (streamTick w.ring w.cursor).1.take sent = events at hfront
    have hsublist := hfront.sublist
    have hincreasing := h.increasing_append hsublist
    have hnamed := h.named_append hsublist
    have hspec := resume_spec start hincreasing hnamed
    refine ⟨h.numbered, h.small, h.mark_le, h.resume_le (h.received_append_le hsublist),
      h.received_append_le hsublist, hnamed, hincreasing,
      h.law_append hsublist List.filter_sublist fun e => h.mem_front hstream hfront hwindow,
      fun e he haccepts hmark hle => ?_, fun hnil => ?_, fun hne => ?_⟩
    · by_cases hseen : e.sequence ≤ w.seen
      · exact List.mem_append_left _ (h.covered e he haccepts hmark hseen)
      · refine List.mem_append_right _ (List.mem_filter.mpr ⟨?_, decide_eq_true hle⟩)
        exact mem_pending.mpr ⟨he, haccepts, hmark, not_le.mp hseen⟩
    · exact (hspec.resolve_right fun hright => hright.1 hnil).2
    · obtain ⟨-, hvalue, hreceived⟩ := hspec.resolve_left fun hleft => hne hleft.1
      exact ⟨hvalue.le, fun e _ hlt => hvalue.ge.trans_lt hlt,
        fun e he => (hreceived e he).trans hvalue.ge⟩

end Invariant

/-- **One step** in which no event is lost. -/
theorem delivered_step {start : Start} {w : World} (h : Delivered start w) (a : Action)
    (ha : Lossless start.consumer w a) : Delivered start (step start w a) := by
  cases a with
  | append now input => exact h.append now input ha
  | read maxValue => exact h.read maxValue ha
  | reconnect sent => exact h.reconnect sent ha

/-- **A run** of such steps. -/
theorem delivered_of_reachable {start : Start} (hstart : start.Sound) {w : World}
    (hw : (delivery start).ReachableBy (Lossless start.consumer) w) : Delivered start w :=
  hw.invariant hstart.delivered fun _ a h ha => delivered_step h a ha

/-- **Every event is delivered once and in order.**  In a run in which no page is cut short,
what arrived behind the start is what was due, in the order of the numbers, and resuming with
the id of the last event received continues with the next event in the ring. -/
theorem activity_delivered {start : Start} (hstart : start.Sound) {w : World}
    (hw : (delivery start).ReachableBy (Lossless start.consumer) w) :
    w.received.filter (fun e => start.mark < e.sequence) = w.due ∧
      Increasing w.received ∧
      ∀ last, w.received.getLast? = some last → ∀ n,
        (w.ring.read last.id n).events =
          (w.ring.ring.filter fun e => last.sequence < e.sequence).take n := by
  have h := delivered_of_reachable hstart hw
  refine ⟨h.law, h.increasing, fun last hlast n => ?_⟩
  exact read_events_newer (h.named last (List.mem_of_getLast? hlast)) n

/-- A stream on an empty ring. -/
def quietStream : Start where
  consumer := .stream
  ring := {}
  cursor := []

/-- Three events, and a connection that breaks between the second and the third. -/
def brokenConnection : List Action :=
  [.append [] {}, .read [], .append [] {}, .append [] {}, .reconnect 1, .read []]

theorem activity_delivered_brokenConnection :
    let w := (delivery quietStream).run (delivery quietStream).init brokenConnection
    w.received.map (·.id) = [asciiBytes "1", asciiBytes "2", asciiBytes "3"] ∧
      w.received.filter (fun e => quietStream.mark < e.sequence) = w.due := by
  have hstart : quietStream.Sound := ⟨numbered_empty, by decide, by decide⟩
  have hallowed : (delivery quietStream).Allowed (Lossless .stream) (delivery quietStream).init
      brokenConnection := by decide
  exact ⟨by decide, (activity_delivered hstart (.run .init brokenConnection hallowed)).1⟩

/-! ## A page that is cut -/

/-- A stream whose page is cut has its cursor past the events behind the cut. -/
theorem cut_page_skips {start : Start} {w : World} (h : Delivered start w)
    (hstream : start.consumer = .stream) (hcursor : w.cursor ≠ [])
    (hwritable : ∀ e ∈ w.unread, e.writable = true) (maxValue : Bytes) {e : ActivityEvent}
    (he : e ∈ w.unread.drop streamPage) :
    e ∉ (w.read start maxValue).received ∧
      e.sequence ≤ cursorValue (w.read start maxValue).cursor := by
  obtain ⟨hring, hseen⟩ := mem_unread.mp (List.mem_of_mem_drop he)
  have hincreasing : Increasing w.unread := h.numbered.increasing.sublist List.filter_sublist
  have hwindow : w.window streamPage = w.unread.take streamPage := if_neg hcursor
  have hnonempty : w.unread.take streamPage ≠ [] := by
    rw [Ne, List.take_eq_nil_iff]
    rintro (hpage | hnone)
    · exact absurd hpage (by decide)
    · rw [hnone, List.drop_nil] at he
      cases he
  have hall : (w.unread.take streamPage).all ActivityEvent.writable = true :=
    List.all_eq_true.mpr fun e he => hwritable e (List.mem_of_mem_take he)
  have hanswer : start.consumer.answer w.ring w.cursor maxValue =
      (w.unread.take streamPage, decimal w.ring.nextSequence) := by
    rw [hstream]
    simp only [Consumer.answer, streamTick, h.read_events, hwindow]
    rw [if_neg hnonempty, if_pos hall]
    rfl
  refine ⟨fun hreceived => ?_, ?_⟩
  · have hmem : e ∈ w.received ++ w.unread.take streamPage := by
      rw [World.read, hanswer] at hreceived
      exact hreceived
    rcases List.mem_append.mp hmem with hold | hnew
    · have hfollows := h.follows hcursor
      exact absurd hseen (not_lt.mpr ((hfollows.received_le e hold).trans hfollows.le_seen))
    · rw [← List.take_append_drop streamPage w.unread] at hincreasing
      exact lt_irrefl _ ((List.pairwise_append.mp hincreasing).2.2 e hnew e he)
  · have hvalue : (w.read start maxValue).cursor = decimal w.ring.nextSequence := by
      rw [World.read, hanswer]
    rw [hvalue, cursorValue, stoull_decimal h.small, Option.getD_some]
    exact h.numbered.le_next e hring

/-- A poller that has read nothing yet. -/
def firstPoll : Start where
  consumer := .poll []
  ring := {}
  cursor := asciiBytes "0"

/-- Two events, and a poll that asks for one: the cursor it gets is past both. -/
theorem poll_skips_event :
    ∃ w, (delivery firstPoll).Reachable w ∧ firstPoll.Sound ∧
      w.received.map (·.id) = [asciiBytes "1"] ∧ w.cursor = asciiBytes "2" ∧
      w.received.filter (fun e => firstPoll.mark < e.sequence) ≠ w.due :=
  ⟨(delivery firstPoll).run (delivery firstPoll).init
      [.append [] {}, .append [] {}, .read (asciiBytes "1")],
    TransitionSystem.Reachable.run .init _, ⟨numbered_empty, by decide, by decide⟩, by decide,
    by decide, by decide⟩

end Activity
end MasterControl
