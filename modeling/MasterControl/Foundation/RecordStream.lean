import Mathlib.Data.List.Basic

/-!
# Records of a stream

A *record reader* looks at the front of a stream: it takes the first record, finds that there is
not yet a whole one, or finds that no further record follows.  What it finds does not depend on
what stands behind the record.  So the records of a stream do not depend on the pieces in which the
stream arrives: who keeps what is left over and appends what comes in, reads the same records as
who has the whole stream (`records_of_record`), and a record that breaks off gives nothing
(`front_unfinished`).
-/

namespace MasterControl
namespace Foundation

universe u v w

/-- What stands at the front of a stream. -/
inductive Front (σ : Type u) (α : Type v) (β : Type w) where
  | unfinished
  | record (state : σ) (content : β) (rest : List α)
  | last

/-- A reader of records; what it finds stands, whatever follows. -/
structure RecordReader (σ : Type u) (α : Type v) (β : Type w) where
  front : σ → List α → Front σ α β
  record_append : ∀ {s t : σ} {stream rest : List α} {content : β} (more : List α),
    front s stream = .record t content rest →
      front s (stream ++ more) = .record t content (rest ++ more)
  last_append : ∀ {s : σ} {stream : List α} (more : List α),
    front s stream = .last → front s (stream ++ more) = .last
  length_lt : ∀ {s t : σ} {stream rest : List α} {content : β},
    front s stream = .record t content rest → rest.length < stream.length

namespace RecordReader

variable {σ : Type u} {α : Type v} {β : Type w} (R : RecordReader σ α β) {s t : σ}
  {stream rest : List α} {content : β}

/-- The records that stand in a stream. -/
def records (s : σ) (stream : List α) : List β :=
  match h : R.front s stream with
  | .unfinished => []
  | .record t content rest => content :: records t rest
  | .last => []
termination_by stream.length
decreasing_by exact R.length_lt h

theorem records_of_unfinished (h : R.front s stream = .unfinished) : R.records s stream = [] := by
  rw [records]
  split
  · rfl
  · rename_i h'
    rw [h] at h'
    cases h'
  · rfl

theorem records_of_last (h : R.front s stream = .last) : R.records s stream = [] := by
  rw [records]
  split
  · rfl
  · rename_i h'
    rw [h] at h'
    cases h'
  · rfl

theorem records_of_record (h : R.front s stream = .record t content rest) :
    R.records s stream = content :: R.records t rest := by
  rw [records]
  split
  · rename_i h'
    rw [h] at h'
    cases h'
  · rename_i h'
    rw [h] at h'
    cases h'
    rfl
  · rename_i h'
    rw [h] at h'
    cases h'

/-- Within the first record nothing is found. -/
theorem front_unfinished (h : R.front s (stream ++ rest) = .record t content [])
    (hrest : rest ≠ []) : R.front s stream = .unfinished := by
  cases hfront : R.front s stream with
  | unfinished => rfl
  | record t' content' rest' =>
    have happend := R.record_append rest hfront
    rw [h] at happend
    injection happend with _ _ hnil
    exact absurd (List.append_eq_nil_iff.mp hnil.symm).2 hrest
  | last =>
    rw [R.last_append rest hfront] at h
    cases h

end RecordReader

end Foundation
end MasterControl
