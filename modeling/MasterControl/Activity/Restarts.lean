import MasterControl.Activity.Ring
import MasterControl.Foundation.Lines
import MasterControl.Foundation.Runs
import Mathlib.Data.List.Induction
import Mathlib.Data.List.Infix
import Mathlib.Data.List.TakeDrop

/-!
# The activity ring across restarts

Every event goes to a file of JSON lines before it goes to the ring, and a start reads the
file back.  A disk may write less than it is asked to, and a line that is left without its
newline is joined by the next one, so that both are lost and their numbers are given out
again (`torn_line_loses_next`).  In the runs in which no line is joined to a torn one and no
rewrite stops in the middle, the ring is numbered, no number goes to two events on disk, and
a start finds what was written (`activity_ring_restarts`).
-/

namespace MasterControl
namespace Activity

open Foundation

/-! ## The file -/

/-- The JSON library on events. -/
structure EventCodec where
  /-- `json(event).dump()`, or `none` where it throws. -/
  dump : ActivityEvent → Option Bytes
  /-- `json::parse(line).get<ActivityEvent>()`, or `none` where it throws. -/
  parse : Bytes → Option ActivityEvent

/-- What is relied on: a dump is one line that is read back, and no part of it is. -/
structure EventCodec.Faithful (codec : EventCodec) : Prop where
  round_trip : ∀ {e text}, codec.dump e = some text → codec.parse text = some e
  one_line : ∀ {e text}, codec.dump e = some text → 10 ∉ text
  nonempty : ∀ {e text}, codec.dump e = some text → text ≠ []
  torn : ∀ {e text part}, codec.dump e = some text → part <+: text → part ≠ text →
    codec.parse part = none

/-- What the disk does during one append. -/
structure DiskAnswer where
  /-- Whether `file_size` succeeds on a file that is there. -/
  sized : Bool
  /-- Whether a rewrite can open the file, and how many of its bytes get there. -/
  rewriteOpens : Bool
  rewriteBytes : Nat
  /-- Whether the append can open the file, and how many of its bytes get there. -/
  opens : Bool
  bytes : Nat

def kFileBytesSoftMax : Nat := 8 * 1024 * 1024

/-- The lines of the ring, up to the first event that cannot be written. -/
def ringLines (codec : EventCodec) : List ActivityEvent → Bytes
  | [] => []
  | e :: events =>
    match codec.dump e with
    | none => []
    | some text => text ++ 10 :: ringLines codec events

/-- `rewriteFromRingLocked`: what the file holds after it. -/
def rewriteFromRingLocked (codec : EventCodec) (disk : DiskAnswer) (ring : List ActivityEvent)
    (content : Bytes) : Bytes :=
  if disk.rewriteOpens then (ringLines codec ring).take disk.rewriteBytes else content

/-- Whether an append rewrites the file first. -/
def rewrites (disk : DiskAnswer) (content : Bytes) : Bool :=
  disk.sized && kFileBytesSoftMax < content.length

/-- The file when the append opens it. -/
def fileFound (codec : EventCodec) (disk : DiskAnswer) (ring : List ActivityEvent) :
    Option Bytes → Option Bytes
  | none => none
  | some content =>
    some (if rewrites disk content then rewriteFromRingLocked codec disk ring content else content)

def appendToDiskLocked (codec : EventCodec) (disk : DiskAnswer) (ring : List ActivityEvent)
    (event : ActivityEvent) (file : Option Bytes) : Option Bytes :=
  let file := fileFound codec disk ring file
  if disk.opens then
    match codec.dump event with
    | none => some (file.getD [])
    | some text => some (file.getD [] ++ (text ++ [10]).take disk.bytes)
  else file

/-- Whether the append wrote its event. -/
def writesAll (codec : EventCodec) (disk : DiskAnswer) (event : ActivityEvent) : Bool :=
  disk.opens &&
    match codec.dump event with
    | none => false
    | some text => text.length < disk.bytes

/-- One line of the file: what is loaded so far, and the highest number seen. -/
def loadLine (codec : EventCodec) (found : List ActivityEvent × Nat) (line : Bytes) :
    List ActivityEvent × Nat :=
  match codec.parse line with
  | none => found
  | some evt =>
    (pushBounded found.1 evt, if found.2 < evt.sequence then evt.sequence else found.2)

/-- `loadFromDiskLocked` of a new process, on a file that can be opened or not. -/
def loadFromDiskLocked (codec : EventCodec) (opens : Bool) : Option Bytes → ActivityEventRing
  | none => {}
  | some content =>
    if opens then
      let loaded := (nonemptyLines 10 content).foldl (loadLine codec) ([], 0)
      { ring := loaded.1, nextSequence := loaded.2 }
    else {}

/-! ## Runs -/

/-- The file and the ring of the process that runs. -/
structure Service where
  file : Option Bytes := none
  ring : ActivityEventRing := {}
  /-- The events whose append was written to disk, over all runs. -/
  written : List ActivityEvent := []
  /-- Whether every append so far was. -/
  synced : Bool := true

inductive Event where
  /-- A new process sets the path. -/
  | start (opens : Bool)
  | append (now : Bytes) (input : ActivityEvent) (disk : DiskAnswer)

namespace Service

def append (codec : EventCodec) (s : Service) (now : Bytes) (input : ActivityEvent)
    (disk : DiskAnswer) : Service :=
  let event := s.ring.stamp now input
  { file := appendToDiskLocked codec disk s.ring.ring event s.file
    ring := s.ring.append now input
    written := if writesAll codec disk event then s.written ++ [event] else s.written
    synced := s.synced && writesAll codec disk event }

def step (codec : EventCodec) (s : Service) : Event → Service
  | .start opens => { s with ring := loadFromDiskLocked codec opens s.file }
  | .append now input disk => s.append codec now input disk

end Service

/-- Runs of processes, one after the other, on a file that is not there at first. -/
def persistence (codec : EventCodec) : TransitionSystem Service Event where
  init := {}
  step := Service.step codec

/-! ## Runs in which no line is joined to a torn one -/

/-- A rewrite is due and can open the file. -/
def Rewriting (s : Service) (disk : DiskAnswer) : Prop :=
  ∃ content ∈ s.file, rewrites disk content = true ∧ disk.rewriteOpens = true

/-- An append that adds no line to a torn one and whose rewrite, if any, is complete. -/
structure Whole (codec : EventCodec) (s : Service) (now : Bytes) (input : ActivityEvent)
    (disk : DiskAnswer) : Prop where
  small : s.ring.nextSequence + 1 < 2 ^ 64
  rewritable : Rewriting s disk → ∀ e ∈ s.ring.ring, codec.dump e ≠ none
  rewritten : Rewriting s disk → (ringLines codec s.ring.ring).length ≤ disk.rewriteBytes
  terminated : disk.opens = true → 0 < disk.bytes → codec.dump (s.ring.stamp now input) ≠ none →
    Rewriting s disk ∨ Terminated 10 (s.file.getD [])

/-- The steps after which nothing on disk is lost. -/
def Intact (codec : EventCodec) (s : Service) : Event → Prop
  | .start opens => opens = true ∨ s.file = none
  | .append now input disk => Whole codec s now input disk

instance (codec : EventCodec) (s : Service) (now : Bytes) (input : ActivityEvent)
    (disk : DiskAnswer) : Decidable (Whole codec s now input disk) :=
  have : Decidable (Rewriting s disk) :=
    inferInstanceAs (Decidable (∃ content ∈ s.file, _))
  decidable_of_iff
    (s.ring.nextSequence + 1 < 2 ^ 64 ∧
      (Rewriting s disk → ∀ e ∈ s.ring.ring, codec.dump e ≠ none) ∧
      (Rewriting s disk → (ringLines codec s.ring.ring).length ≤ disk.rewriteBytes) ∧
      (disk.opens = true → 0 < disk.bytes → codec.dump (s.ring.stamp now input) ≠ none →
        Rewriting s disk ∨ Terminated 10 (s.file.getD [])))
    ⟨fun h => ⟨h.1, h.2.1, h.2.2.1, h.2.2.2⟩,
      fun h => ⟨h.small, h.rewritable, h.rewritten, h.terminated⟩⟩

instance (codec : EventCodec) (s : Service) : (event : Event) → Decidable (Intact codec s event)
  | .start opens => inferInstanceAs (Decidable (opens = true ∨ s.file = none))
  | .append now input disk => inferInstanceAs (Decidable (Whole codec s now input disk))

/-! ## What is loaded -/

/-- The newest events of a list, as many as a ring holds. -/
def lastEvents (events : List ActivityEvent) : List ActivityEvent :=
  events.drop (events.length - kCapacity)

/-- The highest number in a list. -/
def maxSequence (events : List ActivityEvent) : Nat :=
  events.foldl (fun highest e => if highest < e.sequence then e.sequence else highest) 0

/-- The events that the lines of a file hold. -/
def eventsIn (codec : EventCodec) (content : Bytes) : List ActivityEvent :=
  (nonemptyLines 10 content).filterMap codec.parse

section Load

variable {codec : EventCodec} {events : List ActivityEvent} {event e : ActivityEvent}

theorem lastEvents_of_length_le (h : events.length ≤ kCapacity) : lastEvents events = events := by
  rw [lastEvents, Nat.sub_eq_zero_of_le h, List.drop_zero]

theorem lastEvents_nil : lastEvents [] = [] := lastEvents_of_length_le (Nat.zero_le kCapacity)

theorem length_lastEvents_le (events : List ActivityEvent) :
    (lastEvents events).length ≤ kCapacity := by
  rw [lastEvents, List.length_drop]
  omega

theorem lastEvents_sublist (events : List ActivityEvent) : (lastEvents events).Sublist events :=
  List.drop_sublist _ _

theorem pushBounded_lastEvents (events : List ActivityEvent) (event : ActivityEvent) :
    pushBounded (lastEvents events) event = lastEvents (events ++ [event]) := by
  have happend : (events ++ [event]).drop (events.length - kCapacity) =
      lastEvents events ++ [event] := List.drop_append_of_le_length (Nat.sub_le _ _)
  unfold pushBounded
  dsimp only
  rw [← happend, lastEvents, List.length_drop, List.length_append, List.length_singleton]
  split_ifs with hfull
  · rw [List.tail_drop]
    exact congrArg (fun n => (events ++ [event]).drop n) (by omega)
  · exact congrArg (fun n => (events ++ [event]).drop n) (by omega)

theorem maxSequence_append (events : List ActivityEvent) (event : ActivityEvent) :
    maxSequence (events ++ [event]) =
      if maxSequence events < event.sequence then event.sequence else maxSequence events := by
  rw [maxSequence, List.foldl_append]
  rfl

theorem maxSequence_le {bound : Nat} (h : ∀ e ∈ events, e.sequence ≤ bound) :
    maxSequence events ≤ bound := by
  induction events using List.reverseRecOn with
  | nil => exact Nat.zero_le bound
  | append_singleton events event ih =>
    rw [maxSequence_append]
    split_ifs
    · exact h event (List.mem_append_right _ (List.mem_singleton_self event))
    · exact ih fun e he => h e (List.mem_append_left _ he)

theorem le_maxSequence (h : e ∈ events) : e.sequence ≤ maxSequence events := by
  induction events using List.reverseRecOn with
  | nil => cases h
  | append_singleton events event ih =>
    rw [maxSequence_append]
    rcases List.mem_append.mp h with h | h
    · have hle := ih h
      split_ifs <;> omega
    · rw [List.mem_singleton.mp h]
      split_ifs <;> omega

/-- Loading, line by line. -/
theorem foldl_loadLine (codec : EventCodec) (lines : List Bytes) (events : List ActivityEvent) :
    lines.foldl (loadLine codec) (lastEvents events, maxSequence events) =
      (lastEvents (events ++ lines.filterMap codec.parse),
        maxSequence (events ++ lines.filterMap codec.parse)) := by
  induction lines generalizing events with
  | nil => rw [List.filterMap_nil, List.append_nil, List.foldl_nil]
  | cons line lines ih =>
    rw [List.foldl_cons, loadLine]
    cases hparse : codec.parse line with
    | none => rw [List.filterMap_cons_none hparse, ← ih events]
    | some evt =>
      dsimp only
      rw [List.filterMap_cons_some hparse, pushBounded_lastEvents, ← maxSequence_append, ih,
        List.append_assoc, List.singleton_append]

/-- **What a start loads**: the newest events of the file, and the highest number in it. -/
theorem loadFromDiskLocked_eq (codec : EventCodec) (file : Option Bytes) :
    loadFromDiskLocked codec true file =
      { ring := lastEvents (eventsIn codec (file.getD []))
        nextSequence := maxSequence (eventsIn codec (file.getD [])) } := by
  cases file with
  | none =>
    rw [Option.getD_none, eventsIn, nonemptyLines_nil, List.filterMap_nil, lastEvents_nil]
    rfl
  | some content =>
    have hfold := foldl_loadLine codec (nonemptyLines 10 content) []
    have hzero : maxSequence [] = 0 := rfl
    rw [List.nil_append, lastEvents_nil, hzero] at hfold
    simp only [loadFromDiskLocked, if_true, hfold, Option.getD_some, eventsIn]

end Load

/-! ## What a file holds -/

section Files

variable {codec : EventCodec} {content text : Bytes} {event e : ActivityEvent}

theorem eventsIn_append (h : Terminated 10 content) (more : Bytes) :
    eventsIn codec (content ++ more) = eventsIn codec content ++ eventsIn codec more := by
  rw [eventsIn, nonemptyLines_append h, List.filterMap_append]
  rfl

variable (hcodec : codec.Faithful)
include hcodec

theorem eventsIn_line (h : codec.dump event = some text) :
    eventsIn codec (text ++ [10]) = [event] := by
  rw [eventsIn, nonemptyLines_line (hcodec.one_line h) (hcodec.nonempty h)]
  exact List.filterMap_cons_some (hcodec.round_trip h)

/-- Of a line that is cut off, the event is there when only the newline is missing. -/
theorem eventsIn_take (h : codec.dump event = some text) (bytes : Nat) :
    eventsIn codec ((text ++ [10]).take bytes) =
      if text.length ≤ bytes then [event] else [] := by
  have hparts : ∀ part, part <+: text →
      eventsIn codec part = if part = text then [event] else [] := by
    intro part hpart
    by_cases hnil : part = []
    · rw [hnil, if_neg (hcodec.nonempty h).symm, eventsIn, nonemptyLines_nil]
      rfl
    · have hline : 10 ∉ part := fun hmem => hcodec.one_line h (hpart.subset hmem)
      rw [eventsIn, nonemptyLines_of_not_mem hline hnil]
      split_ifs with heq
      · rw [heq]
        exact List.filterMap_cons_some (hcodec.round_trip h)
      · exact List.filterMap_cons_none (hcodec.torn h hpart heq)
  by_cases hbytes : bytes ≤ text.length
  · rw [List.take_append_of_le_length hbytes, hparts _ (List.take_prefix bytes text)]
    congr 1
    rw [eq_iff_iff, List.take_eq_self_iff]
  · rw [List.take_of_length_le (by rw [List.length_append, List.length_singleton]; omega),
      eventsIn_line hcodec h, if_pos (by omega)]

/-- A complete rewrite holds the ring. -/
theorem eventsIn_ringLines {ring : List ActivityEvent} (h : ∀ e ∈ ring, codec.dump e ≠ none) :
    Terminated 10 (ringLines codec ring) ∧ eventsIn codec (ringLines codec ring) = ring := by
  induction ring with
  | nil =>
    rw [ringLines, eventsIn, nonemptyLines_nil]
    exact ⟨Or.inl rfl, rfl⟩
  | cons e ring ih =>
    obtain ⟨hterminated, hevents⟩ := ih fun e' he => h e' (List.mem_cons_of_mem e he)
    obtain ⟨text, htext⟩ := Option.ne_none_iff_exists'.mp (h e List.mem_cons_self)
    have hlines : ringLines codec (e :: ring) = (text ++ [10]) ++ ringLines codec ring := by
      rw [ringLines, htext, List.append_assoc, List.singleton_append]
    rw [hlines, eventsIn_append (terminated_line text), eventsIn_line hcodec htext, hevents]
    exact ⟨(terminated_line text).append hterminated, rfl⟩

end Files

/-! ## Events that are not lost -/

/-- An event in a list, or one that as many newer ones have pushed out as a ring holds. -/
def Survives (events : List ActivityEvent) (e : ActivityEvent) : Prop :=
  e ∈ events ∨ kCapacity ≤ (events.filter fun f => e.sequence < f.sequence).length

instance (events : List ActivityEvent) (e : ActivityEvent) : Decidable (Survives events e) :=
  inferInstanceAs (Decidable (_ ∨ _))

section Survives

variable {as bs events : List ActivityEvent} {e : ActivityEvent}

theorem Survives.of_sublist (h : Survives as e) (hsublist : as.Sublist bs) : Survives bs e := by
  rcases h with h | h
  · exact Or.inl (hsublist.subset h)
  · exact Or.inr (h.trans (hsublist.filter _).length_le)

theorem Survives.le_maxSequence (h : Survives events e) : e.sequence ≤ maxSequence events := by
  rcases h with h | h
  · exact Activity.le_maxSequence h
  · obtain ⟨f, hf⟩ := List.exists_mem_of_length_pos (Nat.lt_of_lt_of_le (by decide) h)
    obtain ⟨hmem, hlt⟩ := List.mem_filter.mp hf
    exact (of_decide_eq_true hlt).le.trans (Activity.le_maxSequence hmem)

/-- Keeping the newest events loses none that survives. -/
theorem Survives.lastEvents (h : Survives events e) (hincreasing : Increasing events) :
    Survives (lastEvents events) e := by
  obtain ⟨cut, hcut⟩ : ∃ cut, cut = events.length - kCapacity := ⟨_, rfl⟩
  rw [Activity.lastEvents, ← hcut]
  have hsplit := List.take_append_drop cut events
  by_cases hold : ∃ f ∈ events.take cut, e.sequence ≤ f.sequence
  · -- something in front of the cut is no older, so all behind it are newer
    obtain ⟨f, hf, hle⟩ := hold
    rw [← hsplit] at hincreasing
    have hnewer : ∀ g ∈ events.drop cut, decide (e.sequence < g.sequence) = true := fun g hg =>
      decide_eq_true (hle.trans_lt ((List.pairwise_append.mp hincreasing).2.2 f hf g hg))
    refine Or.inr ?_
    rw [List.filter_eq_self.mpr hnewer, List.length_drop]
    have hpos : 0 < (events.take cut).length := List.length_pos_of_mem hf
    rw [List.length_take] at hpos
    omega
  · have hnone : ∀ f ∈ events.take cut, ¬ e.sequence ≤ f.sequence :=
      fun f hf hle => hold ⟨f, hf, hle⟩
    rcases h with h | h
    · rw [← hsplit] at h
      exact Or.inl ((List.mem_append.mp h).resolve_left fun hf => hnone e hf le_rfl)
    · have hfront : (events.take cut).filter (fun f => e.sequence < f.sequence) = [] :=
        List.filter_eq_nil_iff.mpr fun f hf hlt => hnone f hf (of_decide_eq_true hlt).le
      rw [← hsplit, List.filter_append, hfront, List.nil_append] at h
      exact Or.inr h

theorem maxSequence_lastEvents (h : Increasing events) :
    maxSequence (lastEvents events) = maxSequence events := by
  refine le_antisymm (maxSequence_le fun e he => ?_) (maxSequence_le fun e he => ?_)
  · exact Activity.le_maxSequence ((lastEvents_sublist events).subset he)
  · exact (Survives.lastEvents (Or.inl he) h).le_maxSequence

end Survives

/-! ## The invariant -/

/-- What the file holds, beside the ring and the events written. -/
structure Tracks (s : Service) (stored : List ActivityEvent) : Prop where
  increasing : Increasing stored
  named : ∀ e ∈ stored, e.id = decimal e.sequence
  le_next : ∀ e ∈ stored, e.sequence ≤ s.ring.nextSequence
  survives : ∀ e ∈ s.written, Survives stored e
  synced : s.synced = true →
    s.ring = { ring := lastEvents stored, nextSequence := maxSequence stored }

structure Kept (codec : EventCodec) (s : Service) : Prop where
  numbered : Numbered s.ring
  increasing : Increasing s.written
  written_le : ∀ e ∈ s.written, e.sequence ≤ s.ring.nextSequence
  held : ∀ e ∈ s.written, Survives s.ring.ring e
  tracks : Tracks s (eventsIn codec (s.file.getD []))

theorem kept_init (codec : EventCodec) : Kept codec (persistence codec).init := by
  have hnothing : eventsIn codec ((persistence codec).init.file.getD []) = [] := by
    show eventsIn codec [] = []
    rw [eventsIn, nonemptyLines_nil, List.filterMap_nil]
  refine ⟨numbered_empty, List.Pairwise.nil, fun _ h => (by cases h), fun _ h => (by cases h), ?_⟩
  rw [hnothing]
  refine ⟨List.Pairwise.nil, fun _ h => (by cases h), fun _ h => (by cases h),
    fun _ h => (by cases h), fun _ => ?_⟩
  rw [lastEvents_nil]
  rfl

section Steps

variable {codec : EventCodec} {s : Service} {now : Bytes} {input : ActivityEvent}
  {disk : DiskAnswer} {stored : List ActivityEvent}

/-- The ring holds what survives in it, so a complete rewrite may take its place. -/
theorem Kept.tracks_ring (h : Kept codec s) : Tracks s s.ring.ring where
  increasing := h.numbered.increasing
  named := h.numbered.id_eq
  le_next := h.numbered.le_next
  survives := h.held
  synced hsynced := by
    have hring := h.tracks.synced hsynced
    have hevents : s.ring.ring = lastEvents (eventsIn codec (s.file.getD [])) := by rw [hring]
    have hnext : s.ring.nextSequence = maxSequence (eventsIn codec (s.file.getD [])) := by
      rw [hring]
    rw [lastEvents_of_length_le h.numbered.length_le, hevents,
      maxSequence_lastEvents h.tracks.increasing, ← hnext, ← hevents]

/-- What an append finds on disk is the old file or the whole ring. -/
theorem Kept.found (hcodec : codec.Faithful) (h : Kept codec s)
    (hwhole : Whole codec s now input disk) :
    Tracks s (eventsIn codec ((fileFound codec disk s.ring.ring s.file).getD [])) ∧
      (Rewriting s disk ∨ Terminated 10 (s.file.getD []) →
        Terminated 10 ((fileFound codec disk s.ring.ring s.file).getD [])) := by
  by_cases hrewriting : Rewriting s disk
  · obtain ⟨content, hfile, hdue, hopens⟩ := id hrewriting
    have hfound : (fileFound codec disk s.ring.ring s.file).getD [] =
        ringLines codec s.ring.ring := by
      rw [hfile, fileFound, if_pos hdue, rewriteFromRingLocked, if_pos hopens, Option.getD_some,
        List.take_of_length_le (hwhole.rewritten hrewriting)]
    obtain ⟨hterminated, hevents⟩ := eventsIn_ringLines hcodec (hwhole.rewritable hrewriting)
    rw [hfound, hevents]
    exact ⟨h.tracks_ring, fun _ => hterminated⟩
  · have hfound : fileFound codec disk s.ring.ring s.file = s.file := by
      cases hfile : s.file with
      | none => rfl
      | some content =>
        rw [fileFound]
        split_ifs with hdue
        · rw [rewriteFromRingLocked, if_neg fun hopens => hrewriting ⟨content, hfile, hdue, hopens⟩]
        · rfl
    rw [hfound]
    exact ⟨h.tracks, fun hterminated => hterminated.resolve_left hrewriting⟩

theorem Tracks.skip (h : Tracks s stored) (hsmall : s.ring.nextSequence + 1 < 2 ^ 64)
    (hwrites : writesAll codec disk (s.ring.stamp now input) = false) :
    Tracks (s.append codec now input disk) stored := by
  have hnext : (s.append codec now input disk).ring.nextSequence = s.ring.nextSequence + 1 :=
    bumped_eq hsmall
  have hwritten : (s.append codec now input disk).written = s.written := by
    simp only [Service.append, hwrites, Bool.false_eq_true, if_false]
  refine ⟨h.increasing, h.named, fun e he => ?_, fun e he => ?_, fun hsynced => ?_⟩
  · rw [hnext]
    exact (h.le_next e he).trans (Nat.le_succ _)
  · exact h.survives e (hwritten ▸ he)
  · simp only [Service.append, hwrites, Bool.and_false, Bool.false_eq_true] at hsynced

theorem increasing_push (now : Bytes) (input : ActivityEvent) (h : Tracks s stored)
    (hsmall : s.ring.nextSequence + 1 < 2 ^ 64) :
    Increasing (stored ++ [s.ring.stamp now input]) := by
  refine List.pairwise_append.mpr ⟨h.increasing, List.pairwise_singleton _ _, fun a ha b hb => ?_⟩
  rw [List.mem_singleton.mp hb, sequence_stamp now input hsmall]
  exact Nat.lt_succ_of_le (h.le_next a ha)

theorem Tracks.push (h : Tracks s stored) (hsmall : s.ring.nextSequence + 1 < 2 ^ 64) :
    Tracks (s.append codec now input disk) (stored ++ [s.ring.stamp now input]) := by
  have hstamp := sequence_stamp now input hsmall
  have hnext : (s.append codec now input disk).ring.nextSequence = s.ring.nextSequence + 1 :=
    bumped_eq hsmall
  refine ⟨increasing_push now input h hsmall, fun e he => ?_, fun e he => ?_, fun e he => ?_,
    fun hsynced => ?_⟩
  · rcases List.mem_append.mp he with he | he
    · exact h.named e he
    · rw [List.mem_singleton.mp he, hstamp, ← bumped_eq hsmall]
      rfl
  · rw [hnext]
    rcases List.mem_append.mp he with he | he
    · exact (h.le_next e he).trans (Nat.le_succ _)
    · rw [List.mem_singleton.mp he, hstamp]
  · have hold : ∀ e ∈ s.written, Survives (stored ++ [s.ring.stamp now input]) e :=
      fun e he => (h.survives e he).of_sublist (List.sublist_append_left _ _)
    have hnew : Survives (stored ++ [s.ring.stamp now input]) (s.ring.stamp now input) :=
      Or.inl (List.mem_append_right _ (List.mem_singleton_self _))
    dsimp only [Service.append] at he
    split_ifs at he
    · rcases List.mem_append.mp he with he | he
      · exact hold e he
      · rw [List.mem_singleton.mp he]
        exact hnew
    · exact hold e he
  · have hring := h.synced (Bool.and_eq_true_iff.mp hsynced).1
    have hmax : maxSequence stored = s.ring.nextSequence := by rw [hring]
    have hevents : lastEvents stored = s.ring.ring := by rw [hring]
    rw [← pushBounded_lastEvents, hevents, maxSequence_append, hmax, hstamp,
      if_pos (Nat.lt_succ_self _), ← bumped_eq hsmall]
    rfl

/-- **An append** keeps the file beside the ring. -/
theorem Kept.tracks_append (hcodec : codec.Faithful) (h : Kept codec s)
    (hwhole : Whole codec s now input disk) :
    Tracks (s.append codec now input disk)
      (eventsIn codec ((s.append codec now input disk).file.getD [])) := by
  obtain ⟨hfound, hterminated⟩ := h.found hcodec hwhole
  show Tracks _ (eventsIn codec
    ((appendToDiskLocked codec disk s.ring.ring (s.ring.stamp now input) s.file).getD []))
  unfold appendToDiskLocked
  dsimp only
  by_cases hopens : disk.opens = true
  · rw [if_pos hopens]
    cases hdump : codec.dump (s.ring.stamp now input) with
    | none => exact hfound.skip hwhole.small (by simp [writesAll, hdump])
    | some text =>
      have hwrites : writesAll codec disk (s.ring.stamp now input) =
          decide (text.length < disk.bytes) := by
        simp only [writesAll, hopens, hdump, Bool.true_and]
      rw [Option.getD_some]
      rcases Nat.eq_zero_or_pos disk.bytes with hbytes | hbytes
      · rw [hbytes, List.take_zero, List.append_nil]
        refine hfound.skip hwhole.small ?_
        rw [hwrites, hbytes]
        exact decide_eq_false (Nat.not_lt_zero _)
      · have hline := hterminated (hwhole.terminated hopens hbytes (by rw [hdump]; simp))
        rw [eventsIn_append hline, eventsIn_take hcodec hdump]
        split_ifs with hlength
        · exact hfound.push hwhole.small
        · rw [List.append_nil]
          refine hfound.skip hwhole.small ?_
          rw [hwrites]
          exact decide_eq_false fun hlt => hlength hlt.le
  · rw [if_neg hopens]
    exact hfound.skip hwhole.small (by simp [writesAll, hopens])

theorem Kept.append (hcodec : codec.Faithful) (h : Kept codec s)
    (hwhole : Whole codec s now input disk) : Kept codec (s.append codec now input disk) := by
  have hsmall := hwhole.small
  have hstamp := sequence_stamp now input hsmall
  have hnext : (s.append codec now input disk).ring.nextSequence = s.ring.nextSequence + 1 :=
    bumped_eq hsmall
  have hwritten : ∀ e ∈ (s.append codec now input disk).written,
      e ∈ s.written ∨ e = s.ring.stamp now input := by
    intro e he
    dsimp only [Service.append] at he
    split_ifs at he
    · exact (List.mem_append.mp he).imp_right List.mem_singleton.mp
    · exact Or.inl he
  -- the ring is the newest part of what it would be without a bound
  have hring : (s.append codec now input disk).ring.ring =
      lastEvents (s.ring.ring ++ [s.ring.stamp now input]) := by
    rw [← pushBounded_lastEvents, lastEvents_of_length_le h.numbered.length_le]
    rfl
  have hlonger := increasing_push now input h.tracks_ring hsmall
  refine ⟨h.numbered.append hsmall, ?_, fun e he => ?_, fun e he => ?_,
    h.tracks_append hcodec hwhole⟩
  · dsimp only [Service.append]
    split_ifs
    · refine List.pairwise_append.mpr
        ⟨h.increasing, List.pairwise_singleton _ _, fun a ha b hb => ?_⟩
      rw [List.mem_singleton.mp hb, hstamp]
      exact Nat.lt_succ_of_le (h.written_le a ha)
    · exact h.increasing
  · rw [hnext]
    rcases hwritten e he with he | rfl
    · exact (h.written_le e he).trans (Nat.le_succ _)
    · exact hstamp.le
  · rw [hring]
    refine Survives.lastEvents ?_ hlonger
    rcases hwritten e he with he | rfl
    · exact (h.held e he).of_sublist (List.sublist_append_left _ _)
    · exact Or.inl (List.mem_append_right _ (List.mem_singleton_self _))

/-- **A start** finds what survives on disk. -/
theorem Kept.start (h : Kept codec s) (opens : Bool) (hopens : opens = true ∨ s.file = none) :
    Kept codec { s with ring := loadFromDiskLocked codec opens s.file } := by
  have hload : loadFromDiskLocked codec opens s.file =
      { ring := lastEvents (eventsIn codec (s.file.getD []))
        nextSequence := maxSequence (eventsIn codec (s.file.getD [])) } := by
    rw [← loadFromDiskLocked_eq]
    rcases hopens with rfl | hnone
    · rfl
    · rw [hnone]
      rfl
  have hring : (loadFromDiskLocked codec opens s.file).ring =
      lastEvents (eventsIn codec (s.file.getD [])) := by rw [hload]
  have hnext : (loadFromDiskLocked codec opens s.file).nextSequence =
      maxSequence (eventsIn codec (s.file.getD [])) := by rw [hload]
  generalize loadFromDiskLocked codec opens s.file = loaded at hload hring hnext
  have htracks := h.tracks
  refine ⟨⟨fun e he => ?_, ?_, fun e he => ?_, ?_⟩, h.increasing, fun e he => ?_, fun e he => ?_,
    ⟨htracks.increasing, htracks.named, fun e he => ?_, htracks.survives, fun _ => hload⟩⟩
  · exact htracks.named e ((lastEvents_sublist _).subset (hring ▸ he))
  · rw [hring]
    exact htracks.increasing.sublist (lastEvents_sublist _)
  · rw [hnext]
    exact le_maxSequence ((lastEvents_sublist _).subset (hring ▸ he))
  · rw [hring]
    exact length_lastEvents_le _
  · exact (htracks.survives e he).le_maxSequence.trans hnext.ge
  · rw [hring]
    exact (htracks.survives e he).lastEvents htracks.increasing
  · exact (le_maxSequence he).trans hnext.ge

end Steps

/-- **A run** keeps the file beside the ring. -/
theorem kept_of_reachable {codec : EventCodec} (hcodec : codec.Faithful) {s : Service}
    (hs : (persistence codec).ReachableBy (Intact codec) s) : Kept codec s :=
  hs.invariant (kept_init codec) fun s event h hintact => by
    cases event with
    | start opens => exact h.start opens hintact
    | append now input disk => exact h.append hcodec hintact

/-- **The ring across restarts.**  In runs in which no line is joined to a torn one and no
rewrite stops in the middle, ids are the decimals of increasing numbers, at most 512 of them;
no two events on disk share an id; a start finds the ring as it was if every append was
written; and it finds every event that was written, or 512 newer ones. -/
theorem activity_ring_restarts {codec : EventCodec} (hcodec : codec.Faithful) {s : Service}
    (hs : (persistence codec).ReachableBy (Intact codec) s) :
    Numbered s.ring ∧
      (s.written.map (·.id)).Nodup ∧
      (s.synced = true → loadFromDiskLocked codec true s.file = s.ring) ∧
      ∀ e ∈ s.written, Survives (loadFromDiskLocked codec true s.file).ring e := by
  have h := kept_of_reachable hcodec hs
  refine ⟨h.numbered, ?_, fun hsynced => ?_, fun e he => ?_⟩
  · refine List.pairwise_map.mpr (h.increasing.imp fun {a b} hlt heq => ?_)
    rw [ActivityEvent.sequence, ActivityEvent.sequence, heq] at hlt
    exact lt_irrefl _ hlt
  · rw [loadFromDiskLocked_eq]
    exact (h.tracks.synced hsynced).symm
  · rw [loadFromDiskLocked_eq]
    dsimp only
    exact (h.tracks.survives e he).lastEvents h.tracks.increasing

/-! ## A torn line -/

def sampleNow : Bytes := asciiBytes "2026-01-01T00:00:00.000Z"

def sampleEvent (id kind : String) : ActivityEvent :=
  { id := asciiBytes id, kind := asciiBytes kind, timestampUtc := sampleNow }

/-- How an event is dumped whose texts need no escape. -/
def eventText (e : ActivityEvent) : Bytes :=
  asciiBytes "\x7b\"actor\":\"" ++ e.actor ++ asciiBytes "\",\"detail\":\"" ++ e.detail ++
    asciiBytes "\",\"id\":\"" ++ e.id ++ asciiBytes "\",\"kind\":\"" ++ e.kind ++
    asciiBytes "\",\"latencyMs\":" ++ asciiBytes (toString e.latencyMs) ++
    asciiBytes ",\"message\":\"" ++ e.message ++ asciiBytes "\",\"method\":\"" ++ e.method ++
    asciiBytes "\",\"statusCode\":" ++ asciiBytes (toString e.statusCode) ++
    asciiBytes ",\"target\":\"" ++ e.target ++ asciiBytes "\",\"timestampUtc\":\"" ++
    e.timestampUtc ++ asciiBytes "\"\x7d"

def sampleEvents : List ActivityEvent :=
  [sampleEvent "1" "a", sampleEvent "2" "b", sampleEvent "2" "c", sampleEvent "2" "d"]

/-- The library on a few events, of which it is known how they are dumped. -/
def codecOf (text : ActivityEvent → Bytes) (events : List ActivityEvent) : EventCodec where
  dump e := if e ∈ events then some (text e) else none
  parse line := events.find? fun e => text e = line

theorem codecOf_faithful {text : ActivityEvent → Bytes} {events : List ActivityEvent}
    (hfront : ∀ e ∈ events, ∀ f ∈ events, text f <+: text e → f = e)
    (hline : ∀ e ∈ events, 10 ∉ text e ∧ text e ≠ []) : (codecOf text events).Faithful := by
  have hdump : ∀ {e line}, (codecOf text events).dump e = some line →
      e ∈ events ∧ text e = line := by
    intro e line h
    dsimp only [codecOf] at h
    split_ifs at h with he
    exact ⟨he, Option.some.inj h⟩
  refine ⟨fun {e line} h => ?_, fun {e line} h => ?_, fun {e line} h => ?_,
    fun {e line part} h hpart hne => ?_⟩ <;> obtain ⟨he, rfl⟩ := hdump h
  · cases hparse : (codecOf text events).parse (text e) with
    | none => exact absurd (List.find?_eq_none.mp hparse e he) (by simp)
    | some f =>
      have htext : text f = text e := by simpa using List.find?_some hparse
      rw [hfront e he f (List.mem_of_find?_eq_some hparse) (by rw [htext])]
  · exact (hline e he).1
  · exact (hline e he).2
  · refine List.find?_eq_none.mpr fun f hf heq => hne ?_
    have htext : text f = part := by simpa using heq
    rw [← htext, hfront e he f hf (by rwa [htext])]

def sampleCodec : EventCodec := codecOf eventText sampleEvents

theorem sampleCodec_faithful : sampleCodec.Faithful :=
  codecOf_faithful (by decide +kernel) (by decide +kernel)

/-- A disk that takes so many bytes. -/
def diskTakes (bytes : Nat) : DiskAnswer :=
  { sized := true, rewriteOpens := true, rewriteBytes := bytes, opens := true, bytes }

/-- A line that is torn, and a start behind it. -/
def tornAtTheEnd : List Event :=
  [.append sampleNow { kind := asciiBytes "a" } (diskTakes 4096),
    .append sampleNow { kind := asciiBytes "b" } (diskTakes 20), .start true]

/-- The torn event alone is lost. -/
theorem activity_ring_restarts_tornAtTheEnd :
    let s := (persistence sampleCodec).run (persistence sampleCodec).init tornAtTheEnd
    s.written = [sampleEvent "1" "a"] ∧ (s.written.map (·.id)).Nodup ∧
      ∀ e ∈ s.written, Survives (loadFromDiskLocked sampleCodec true s.file).ring e := by
  have hallowed : (persistence sampleCodec).Allowed (Intact sampleCodec)
      (persistence sampleCodec).init tornAtTheEnd := by decide +kernel
  have hrestarts := activity_ring_restarts sampleCodec_faithful (.run .init tornAtTheEnd hallowed)
  exact ⟨by decide +kernel, hrestarts.2.1, hrestarts.2.2.2⟩

/-- The next append is joined to the torn line.  It is lost with it, and its number goes to a
second event on disk. -/
theorem torn_line_loses_next :
    ∃ s, (persistence sampleCodec).Reachable s ∧ sampleCodec.Faithful ∧
      s.written = [sampleEvent "1" "a", sampleEvent "2" "c", sampleEvent "2" "d"] ∧
      ¬ (s.written.map (·.id)).Nodup ∧
      ¬ Survives (loadFromDiskLocked sampleCodec true s.file).ring (sampleEvent "2" "c") :=
  ⟨(persistence sampleCodec).run (persistence sampleCodec).init
      (tornAtTheEnd ++
        [.append sampleNow { kind := asciiBytes "c" } (diskTakes 4096), .start true,
          .append sampleNow { kind := asciiBytes "d" } (diskTakes 4096)]),
    TransitionSystem.Reachable.run .init _, sampleCodec_faithful, by decide +kernel,
    by decide +kernel, by decide +kernel⟩

end Activity
end MasterControl
