import MasterControl.Foundation.ByteText
import Mathlib.Data.List.Sort

/-!
# The activity ring

The last 512 events, each with a number of its own as a decimal text.  `append` numbers an
event and pushes it; `read` answers with the events behind a cursor, or with the newest ones
where there is no cursor, and with the number of the newest event as the next cursor.

`Numbered` is what a ring keeps: ids are the decimals of strictly increasing numbers, none
above the sequence, and no more events than the capacity.
-/

namespace MasterControl
namespace Activity

open Foundation

structure ActivityEvent where
  id : Bytes := []
  kind : Bytes := []
  timestampUtc : Bytes := []
  actor : Bytes := []
  method : Bytes := []
  target : Bytes := []
  statusCode : Int := 0
  latencyMs : Int := 0
  message : Bytes := []
  detail : Bytes := []
deriving DecidableEq

namespace ActivityEvent

/-- The texts of an event. -/
def texts (e : ActivityEvent) : List Bytes :=
  [e.id, e.kind, e.timestampUtc, e.actor, e.method, e.target, e.message, e.detail]

/-- Whether the JSON writer takes the event: it throws on a text that is not UTF-8. -/
def writable (e : ActivityEvent) : Bool := e.texts.all validUtf8

/-- The number an id is read as. -/
def sequence (e : ActivityEvent) : Nat := (stoull e.id).getD 0

end ActivityEvent

def kCapacity : Nat := 512

structure ActivityEventRing where
  ring : List ActivityEvent := []
  nextSequence : Nat := 0
deriving DecidableEq

/-- What a read answers. -/
structure Snapshot where
  events : List ActivityEvent
  highWaterMarkId : Bytes

/-- `push_back`, and `pop_front` where there is one event too many. -/
def pushBounded (events : List ActivityEvent) (event : ActivityEvent) : List ActivityEvent :=
  let events := events ++ [event]
  if kCapacity < events.length then events.tail else events

/-- The loop of `read`: with room for so many events, those whose id is a number above the
cursor. -/
def collectNewer (sinceSeq : Nat) : Nat → List ActivityEvent → List ActivityEvent
  | 0, _ => []
  | _ + 1, [] => []
  | room + 1, event :: events =>
    match stoull event.id with
    | none => collectNewer sinceSeq (room + 1) events
    | some eventSeq =>
      if sinceSeq < eventSeq then event :: collectNewer sinceSeq room events
      else collectNewer sinceSeq (room + 1) events

/-- A cursor as a number; one that cannot be read counts from the start. -/
def cursorValue (sinceId : Bytes) : Nat := (stoull sinceId).getD 0

namespace ActivityEventRing

/-- `++nextSequence_` on an `uint64_t`. -/
def bumped (r : ActivityEventRing) : Nat := (r.nextSequence + 1) % 2 ^ 64

/-- The event as it is recorded: with its id, and stamped where the caller did not. -/
def stamp (r : ActivityEventRing) (now : Bytes) (input : ActivityEvent) : ActivityEvent :=
  { input with
    id := decimal r.bumped
    timestampUtc := if input.timestampUtc = [] then now else input.timestampUtc }

/-- `append`, as far as memory goes. -/
def append (r : ActivityEventRing) (now : Bytes) (input : ActivityEvent) : ActivityEventRing where
  ring := pushBounded r.ring (r.stamp now input)
  nextSequence := r.bumped

def read (r : ActivityEventRing) (sinceId : Bytes) (maxCount : Nat) : Snapshot where
  events :=
    if sinceId = [] then r.ring.drop (r.ring.length - min maxCount r.ring.length)
    else collectNewer (cursorValue sinceId) maxCount r.ring
  highWaterMarkId := decimal r.nextSequence

end ActivityEventRing

/-! ## Reading -/

/-- **What an incremental read collects**: the events above the cursor, as far as there is
room. -/
theorem collectNewer_eq (sinceSeq : Nat) (room : Nat) (events : List ActivityEvent) :
    collectNewer sinceSeq room events =
      (events.filter fun e => sinceSeq < e.sequence).take room := by
  induction events generalizing room with
  | nil => cases room <;> rfl
  | cons event events ih =>
    cases room with
    | zero => rw [collectNewer, List.take_zero]
    | succ room =>
      have hsequence : event.sequence = (stoull event.id).getD 0 := rfl
      rw [collectNewer]
      cases hid : stoull event.id with
      | none =>
        rw [hid, Option.getD_none] at hsequence
        have hskip : ¬ sinceSeq < event.sequence := by
          rw [hsequence]
          exact Nat.not_lt_zero sinceSeq
        rw [List.filter_cons_of_neg (by simpa using hskip)]
        exact ih (room + 1)
      | some eventSeq =>
        rw [hid, Option.getD_some] at hsequence
        rw [← hsequence]
        dsimp only
        by_cases hnewer : sinceSeq < event.sequence
        · rw [if_pos hnewer, List.filter_cons_of_pos (by simpa using hnewer),
            List.take_succ_cons, ih room]
        · rw [if_neg hnewer, List.filter_cons_of_neg (by simpa using hnewer)]
          exact ih (room + 1)

/-! ## Numbered rings -/

/-- In the order of their numbers, no number twice. -/
abbrev Increasing (events : List ActivityEvent) : Prop :=
  events.Pairwise fun a b => a.sequence < b.sequence

section Increasing

variable {as bs events : List ActivityEvent}

/-- Increasing lists of the same events are equal. -/
theorem Increasing.ext (ha : Increasing as) (hb : Increasing bs) (h : ∀ e, e ∈ as ↔ e ∈ bs) :
    as = bs := by
  have hirrefl : Std.Irrefl fun a b : ActivityEvent => a.sequence < b.sequence :=
    ⟨fun a => lt_irrefl a.sequence⟩
  have hantisymm : Std.Antisymm fun a b : ActivityEvent => a.sequence < b.sequence :=
    ⟨fun a b hab hba => absurd hab (Nat.lt_asymm hba)⟩
  exact List.Pairwise.eq_of_mem_iff ha hb h

/-- The events up to one of a front part are in that front part. -/
theorem Increasing.mem_of_front (h : Increasing bs) (hfront : as <+: bs) {last e : ActivityEvent}
    (hlast : last ∈ as) (he : e ∈ bs) (hle : e.sequence ≤ last.sequence) : e ∈ as := by
  obtain ⟨behind, rfl⟩ := hfront
  rcases List.mem_append.mp he with he | he
  · exact he
  · have hlt := (List.pairwise_append.mp h).2.2 last hlast e he
    omega

/-- Nothing stands behind the last event. -/
theorem Increasing.le_getLast (h : Increasing events) {last e : ActivityEvent}
    (hlast : events.getLast? = some last) (he : e ∈ events) : e.sequence ≤ last.sequence := by
  obtain ⟨front, rfl⟩ := List.getLast?_eq_some_iff.mp hlast
  rcases List.mem_append.mp he with he | he
  · exact ((List.pairwise_append.mp h).2.2 e he last (List.mem_singleton_self last)).le
  · rw [List.mem_singleton.mp he]

end Increasing

/-- Ids are the decimals of increasing numbers that the sequence has passed, and there are
no more events than the capacity. -/
structure Numbered (r : ActivityEventRing) : Prop where
  id_eq : ∀ e ∈ r.ring, e.id = decimal e.sequence
  increasing : Increasing r.ring
  le_next : ∀ e ∈ r.ring, e.sequence ≤ r.nextSequence
  length_le : r.ring.length ≤ kCapacity

theorem numbered_empty : Numbered {} where
  id_eq _ h := by cases h
  increasing := List.Pairwise.nil
  le_next _ h := by cases h
  length_le := Nat.zero_le kCapacity

section Push

variable {events : List ActivityEvent} {event : ActivityEvent}

theorem mem_pushBounded {e : ActivityEvent} (h : e ∈ pushBounded events event) :
    e ∈ events ∨ e = event := by
  have hmem : e ∈ events ++ [event] := by
    unfold pushBounded at h
    dsimp only at h
    split_ifs at h
    · exact List.mem_of_mem_tail h
    · exact h
  rcases List.mem_append.mp hmem with h | h
  · exact Or.inl h
  · exact Or.inr (List.mem_singleton.mp h)

theorem pushBounded_sublist : (pushBounded events event).Sublist (events ++ [event]) := by
  unfold pushBounded
  dsimp only
  split_ifs
  · exact List.tail_sublist _
  · exact List.Sublist.refl _

theorem length_pushBounded_le (h : events.length ≤ kCapacity) :
    (pushBounded events event).length ≤ kCapacity := by
  unfold pushBounded
  dsimp only
  split_ifs with hfull
  · rw [List.length_tail, List.length_append, List.length_singleton]
    omega
  · exact not_lt.mp hfull

end Push

section Append

variable {r : ActivityEventRing} {now : Bytes} {input : ActivityEvent}

theorem bumped_eq (h : r.nextSequence + 1 < 2 ^ 64) : r.bumped = r.nextSequence + 1 :=
  Nat.mod_eq_of_lt h

theorem sequence_stamp (now : Bytes) (input : ActivityEvent) (h : r.nextSequence + 1 < 2 ^ 64) :
    (r.stamp now input).sequence = r.nextSequence + 1 := by
  show (stoull (decimal r.bumped)).getD 0 = r.nextSequence + 1
  rw [bumped_eq h, stoull_decimal h, Option.getD_some]

/-- A recorded event stands behind all others. -/
theorem Numbered.append (hr : Numbered r) (h : r.nextSequence + 1 < 2 ^ 64) :
    Numbered (r.append now input) := by
  have hstamp := sequence_stamp now input h
  have hnext : (r.append now input).nextSequence = r.nextSequence + 1 := bumped_eq h
  refine ⟨fun e he => ?_, ?_, fun e he => ?_, length_pushBounded_le hr.length_le⟩
  · rcases mem_pushBounded he with he | rfl
    · exact hr.id_eq e he
    · rw [hstamp, ← bumped_eq h]
      rfl
  · refine List.Pairwise.sublist pushBounded_sublist ?_
    refine List.pairwise_append.mpr ⟨hr.increasing, List.pairwise_singleton _ _, ?_⟩
    intro a ha b hb
    rw [List.mem_singleton.mp hb, hstamp]
    exact Nat.lt_succ_of_le (hr.le_next a ha)
  · rw [hnext]
    rcases mem_pushBounded he with he | rfl
    · exact (hr.le_next e he).trans (Nat.le_succ _)
    · exact hstamp.le

end Append

end Activity
end MasterControl
