import MasterControl.Foundation.Runs
import Mathlib.Data.List.Nodup
import Mathlib.Data.List.Perm.Basic

/-!
# Log rotation

`appendJsonLine` appends a record to a file.  Before that the file is moved to `.rotating` and
from there to `.1` if it is too large, too old or too long: four steps, each of which may fail, and
between any two of them the process may stop.

A record is given its number when it is appended, so that one can say where it is.  `.1` is removed
before `.rotating` takes its place, and what an earlier rotation has left in `.rotating` is removed
first of all.  So the rotations lose more than what a completed one replaces unless each of them is
careful, and then they do not (`losesOnlyOldest_iff`).
-/

namespace MasterControl
namespace Diagnostics

open Foundation

universe u

/-! ## The files -/

/-- The live file, `.1` and `.rotating`. -/
structure LogFiles (α : Type u) where
  live : Option (List α) := none
  rotated : Option (List α) := none
  rotating : Option (List α) := none

/-- How far a rotation gets, and which of its steps work. -/
structure RotationOutcome where
  /-- How many steps are carried out before the process stops; four are all. -/
  stepsDone : ℕ
  removeRotating : Bool
  renameLive : Bool
  removeRotated : Bool
  renameRotating : Bool

inductive RotationEnd where
  | stopped
  /-- The live file could not be renamed. -/
  | abandoned
  | promoted
  /-- `.rotating` could not be renamed. -/
  | leftBehind
  deriving DecidableEq

section Rotation

variable {α : Type u}

def LogFiles.entries (files : LogFiles α) : List α :=
  files.live.getD [] ++ files.rotated.getD [] ++ files.rotating.getD []

/-- A rename overwrites its target, and fails without its source. -/
def performRotationLocked (o : RotationOutcome) (files : LogFiles α) : LogFiles α × RotationEnd :=
  if o.stepsDone = 0 then (files, .stopped)
  else
    let files := if o.removeRotating then { files with rotating := none } else files
    if o.stepsDone = 1 then (files, .stopped)
    else if !(o.renameLive && files.live.isSome) then (files, .abandoned)
    else
      let files : LogFiles α := { files with live := none, rotating := files.live }
      if o.stepsDone = 2 then (files, .stopped)
      else
        let files := if o.removeRotated then { files with rotated := none } else files
        if o.stepsDone = 3 then (files, .stopped)
        else if o.renameRotating then
          ({ files with rotated := files.rotating, rotating := none }, .promoted)
        else (files, .leftBehind)

/-! ## What a rotation does -/

def RotationOutcome.removesLeftover (o : RotationOutcome) : Bool :=
  1 ≤ o.stepsDone && o.removeRotating

/-- The live file becomes `.rotating`. -/
def RotationOutcome.moves (o : RotationOutcome) (files : LogFiles α) : Bool :=
  2 ≤ o.stepsDone && o.renameLive && files.live.isSome

def RotationOutcome.removesPrevious (o : RotationOutcome) (files : LogFiles α) : Bool :=
  o.moves files && 3 ≤ o.stepsDone && o.removeRotated

/-- `.rotating` becomes `.1`. -/
def RotationOutcome.promotes (o : RotationOutcome) (files : LogFiles α) : Bool :=
  o.moves files && 4 ≤ o.stepsDone && o.renameRotating

/-- All four steps are carried out, and work. -/
def RotationOutcome.succeeds (o : RotationOutcome) (files : LogFiles α) : Bool :=
  o.promotes files && o.removeRotating && o.removeRotated

/-- A step that is carried out fails. -/
def RotationOutcome.fails (o : RotationOutcome) (files : LogFiles α) : Bool :=
  (1 ≤ o.stepsDone && !o.removeRotating) ||
    (2 ≤ o.stepsDone && !(o.renameLive && files.live.isSome)) ||
    (o.moves files && 3 ≤ o.stepsDone && !o.removeRotated) ||
    (o.moves files && 4 ≤ o.stepsDone && !o.renameRotating)

/-- The live file stays where it is. -/
theorem performRotationLocked_of_not_moves {o : RotationOutcome} {files : LogFiles α}
    (h : o.moves files = false) :
    (performRotationLocked o files).1 =
        { files with rotating := if o.removesLeftover then none else files.rotating } ∧
      (performRotationLocked o files).2 ≠ .promoted := by
  rw [RotationOutcome.moves, Bool.and_assoc] at h
  unfold performRotationLocked RotationOutcome.removesLeftover
  by_cases h0 : o.stepsDone = 0
  · rw [if_pos h0, h0]
    exact ⟨rfl, nofun⟩
  · have hdone : decide (1 ≤ o.stepsDone) = true := decide_eq_true (Nat.one_le_iff_ne_zero.mpr h0)
    have hfiles : (if o.removeRotating = true then { files with rotating := none } else files) =
        { files with rotating := if o.removeRotating then none else files.rotating } := by
      cases o.removeRotating <;> rfl
    rw [if_neg h0, hdone, Bool.true_and, hfiles]
    by_cases h1 : o.stepsDone = 1
    · rw [if_pos h1]
      exact ⟨rfl, nofun⟩
    · have hmoves : (o.renameLive && files.live.isSome) = false := by
        rwa [decide_eq_true (by omega), Bool.true_and] at h
      rw [if_neg h1, if_pos (by rw [hmoves]; rfl)]
      exact ⟨rfl, nofun⟩

/-- What is left to do once the live file is `.rotating`. -/
theorem performRotationLocked_of_moves {o : RotationOutcome} {files : LogFiles α}
    (h : o.moves files = true) :
    performRotationLocked o files =
      if o.stepsDone = 2 then
        ({ live := none, rotated := files.rotated, rotating := files.live }, .stopped)
      else
        let previous := if o.removeRotated then none else files.rotated
        if o.stepsDone = 3 then
          ({ live := none, rotated := previous, rotating := files.live }, .stopped)
        else if o.renameRotating then
          ({ live := none, rotated := files.live, rotating := none }, .promoted)
        else ({ live := none, rotated := previous, rotating := files.live }, .leftBehind) := by
  rw [RotationOutcome.moves, Bool.and_assoc, Bool.and_eq_true, decide_eq_true_iff] at h
  obtain ⟨hdone, hrename⟩ := h
  have hlive : (if o.removeRotating = true then { files with rotating := none } else files).live =
      files.live := by
    cases o.removeRotating <;> rfl
  have hrotated : (if o.removeRotating = true then { files with rotating := none }
      else files).rotated = files.rotated := by
    cases o.removeRotating <;> rfl
  unfold performRotationLocked
  dsimp only
  rw [if_neg (by omega), if_neg (by omega), hlive, hrotated,
    if_neg (by rw [hrename]; exact Bool.false_ne_true)]
  cases o.removeRotated <;> rfl

theorem performRotationLocked_of_not_promotes {o : RotationOutcome} {files : LogFiles α}
    (hmoves : o.moves files = true) (h : o.promotes files = false) :
    (performRotationLocked o files).1 =
        { live := none
          rotated := if o.removesPrevious files then none else files.rotated
          rotating := files.live } ∧
      (performRotationLocked o files).2 ≠ .promoted := by
  have hdone : 2 ≤ o.stepsDone := by
    rw [RotationOutcome.moves, Bool.and_assoc, Bool.and_eq_true, decide_eq_true_iff] at hmoves
    exact hmoves.1
  rw [RotationOutcome.promotes, hmoves, Bool.true_and] at h
  rw [performRotationLocked_of_moves hmoves, RotationOutcome.removesPrevious, hmoves,
    Bool.true_and]
  by_cases h2 : o.stepsDone = 2
  · rw [if_pos h2, decide_eq_false (by omega), Bool.false_and]
    exact ⟨rfl, nofun⟩
  · rw [if_neg h2, decide_eq_true (by omega : 3 ≤ o.stepsDone), Bool.true_and]
    dsimp only
    by_cases h3 : o.stepsDone = 3
    · rw [if_pos h3]
      exact ⟨rfl, nofun⟩
    · have hrename : o.renameRotating = false := by
        rwa [decide_eq_true (by omega), Bool.true_and] at h
      rw [if_neg h3, if_neg (by rw [hrename]; exact Bool.false_ne_true)]
      exact ⟨rfl, nofun⟩

theorem moves_of_promotes {o : RotationOutcome} {files : LogFiles α}
    (h : o.promotes files = true) : o.moves files = true := by
  rw [RotationOutcome.promotes, Bool.and_assoc, Bool.and_eq_true] at h
  exact h.1

theorem performRotationLocked_of_promotes {o : RotationOutcome} {files : LogFiles α}
    (h : o.promotes files = true) :
    performRotationLocked o files =
      ({ live := none, rotated := files.live, rotating := none }, .promoted) := by
  have hmoves := moves_of_promotes h
  rw [RotationOutcome.promotes, hmoves, Bool.true_and, Bool.and_eq_true, decide_eq_true_iff] at h
  rw [performRotationLocked_of_moves hmoves, if_neg (by omega)]
  dsimp only
  rw [if_neg (by omega), if_pos h.2]

/-- A leftover is neither removed nor overwritten, and `.1` only if all four steps work. -/
structure RotationOutcome.Safe (o : RotationOutcome) (files : LogFiles α) : Prop where
  leftover : files.rotating = none ∨ (o.removesLeftover = false ∧ o.moves files = false)
  previous : files.rotated = none ∨ o.succeeds files = true ∨
    (o.removesPrevious files = false ∧ o.promotes files = false)

end Rotation

/-! ## Histories -/

variable {ρ : Type u}

/-- A record, with the number of records that were appended before it. -/
structure Entry (ρ : Type u) where
  number : ℕ
  record : ρ

/-- The files, and what became of what was appended. -/
structure LogHistory (ρ : Type u) where
  files : LogFiles (Entry ρ) := {}
  appended : List (Entry ρ) := []
  /-- What completed rotations have replaced. -/
  replaced : List (Entry ρ) := []
  /-- `.1` before and after every rotation a step of which failed. -/
  failures : List (Option (List (Entry ρ)) × Option (List (Entry ρ))) := []

namespace LogHistory

def rotate (o : RotationOutcome) (h : LogHistory ρ) : LogHistory ρ × RotationEnd :=
  let result := performRotationLocked o h.files
  ({ h with
     files := result.1
     replaced := if result.2 = .promoted then h.replaced ++ h.files.rotated.getD [] else h.replaced
     failures := if o.fails h.files then (h.files.rotated, result.1.rotated) :: h.failures
       else h.failures }, result.2)

def append (record : ρ) (h : LogHistory ρ) : LogHistory ρ :=
  let entry : Entry ρ := ⟨h.appended.length, record⟩
  { h with
    files := { h.files with live := some (h.files.live.getD [] ++ [entry]) }
    appended := h.appended ++ [entry] }

end LogHistory

/-- **Only the oldest generation is lost.** -/
structure LosesOnlyOldest (h : LogHistory ρ) : Prop where
  /-- What was appended is in a file unless a completed rotation has replaced it. -/
  kept : ∀ entry ∈ h.appended, entry ∈ h.files.entries ∨ entry ∈ h.replaced
  /-- A rotation a step of which fails leaves `.1`. -/
  intact : ∀ failure ∈ h.failures, ∀ content, failure.1 = some content → failure.2 = some content
  /-- No record is in two files. -/
  apart : h.files.entries.Nodup

/-! ## Calls -/

def kLogRotationBytes : ℕ := 52428800
def kLogMaxEntries : ℕ := 200000

/-- One call, with what it meets. -/
structure AppendCall (ρ : Type u) where
  record : ρ
  sizeKnown : Bool
  oversized : RotationOutcome
  /-- It is time to look into the file, and it can be opened. -/
  deepCheck : Bool
  /-- Whether a file that begins with a record is too old. -/
  tooOld : ρ → Bool
  aged : RotationOutcome
  opensForAppend : Bool

/-- A record takes its text and a line feed. -/
def fileSize (size : ρ → ℕ) (entries : List (Entry ρ)) : ℕ :=
  entries.foldl (fun total entry => total + (size entry.record + 1)) 0

def isOversized (size : ρ → ℕ) (call : AppendCall ρ) (files : LogFiles (Entry ρ)) : Bool :=
  match files.live with
  | none => false
  | some entries => call.sizeKnown && kLogRotationBytes ≤ fileSize size entries

def isAgedOrOverCount (call : AppendCall ρ) (files : LogFiles (Entry ρ)) : Bool :=
  match files.live with
  | some (first :: rest) =>
    call.deepCheck && (call.tooOld first.record || kLogMaxEntries < rest.length + 1)
  | _ => false

/-- A rotation if there is need, and whether the process has stopped in it. -/
def rotateIf (needed : Bool) (o : RotationOutcome) (h : LogHistory ρ) : LogHistory ρ × Bool :=
  if needed then ((h.rotate o).1, (h.rotate o).2 = .stopped) else (h, false)

def rotateIfOversizedLocked (size : ρ → ℕ) (call : AppendCall ρ) (h : LogHistory ρ) :
    LogHistory ρ × Bool :=
  rotateIf (isOversized size call h.files) call.oversized h

def rotateIfAgedOrOverCountLocked (call : AppendCall ρ) (h : LogHistory ρ) : LogHistory ρ × Bool :=
  rotateIf (isAgedOrOverCount call h.files) call.aged h

/-- The call behind the check of the size. -/
def checkAgeAndAppend (call : AppendCall ρ) (h : LogHistory ρ) : LogHistory ρ :=
  let aged := rotateIfAgedOrOverCountLocked call h
  if aged.2 || !call.opensForAppend then aged.1 else aged.1.append call.record

def appendJsonLine (size : ρ → ℕ) (call : AppendCall ρ) (h : LogHistory ρ) : LogHistory ρ :=
  let oversized := rotateIfOversizedLocked size call h
  if oversized.2 then oversized.1 else checkAgeAndAppend call oversized.1

def logSystem (size : ρ → ℕ) : TransitionSystem (LogHistory ρ) (AppendCall ρ) where
  init := {}
  step h call := appendJsonLine size call h

/-- Every rotation of a call is safe for the files that it finds. -/
structure Careful (size : ρ → ℕ) (h : LogHistory ρ) (call : AppendCall ρ) : Prop where
  oversized : isOversized size call h.files = true → call.oversized.Safe h.files
  aged : (rotateIfOversizedLocked size call h).2 = false →
    isAgedOrOverCount call (rotateIfOversizedLocked size call h).1.files = true →
      call.aged.Safe (rotateIfOversizedLocked size call h).1.files

/-! ## Where the records are -/

section Rotate

variable {o : RotationOutcome} {h : LogHistory ρ} {entry : Entry ρ}

/-- The records that are in a file or were replaced. -/
def LogHistory.known (h : LogHistory ρ) : List (Entry ρ) := h.files.entries ++ h.replaced

@[simp] theorem appended_rotate : (h.rotate o).1.appended = h.appended := rfl

/-- The live file stays. -/
theorem rotate_of_not_moves (hmoves : o.moves h.files = false) :
    (h.rotate o).1.files =
        { h.files with rotating := if o.removesLeftover then none else h.files.rotating } ∧
      (h.rotate o).1.replaced = h.replaced := by
  obtain ⟨hfiles, hend⟩ := performRotationLocked_of_not_moves hmoves
  exact ⟨hfiles, if_neg hend⟩

theorem rotate_of_not_promotes (hmoves : o.moves h.files = true)
    (hpromotes : o.promotes h.files = false) :
    (h.rotate o).1.files =
        { live := none
          rotated := if o.removesPrevious h.files then none else h.files.rotated
          rotating := h.files.live } ∧
      (h.rotate o).1.replaced = h.replaced := by
  obtain ⟨hfiles, hend⟩ := performRotationLocked_of_not_promotes hmoves hpromotes
  exact ⟨hfiles, if_neg hend⟩

theorem rotate_of_promotes (hpromotes : o.promotes h.files = true) :
    (h.rotate o).1.files = { live := none, rotated := h.files.live, rotating := none } ∧
      (h.rotate o).1.replaced = h.replaced ++ h.files.rotated.getD [] := by
  have hresult := performRotationLocked_of_promotes hpromotes
  unfold LogHistory.rotate
  dsimp only
  rw [hresult]
  exact ⟨rfl, rfl⟩

/-- **A safe rotation loses nothing.** -/
theorem perm_known_rotate (hsafe : o.Safe h.files) : (h.rotate o).1.known.Perm h.known := by
  cases hmoves : o.moves h.files with
  | false =>
    obtain ⟨hfiles, hreplaced⟩ := rotate_of_not_moves hmoves
    have hkept : (if o.removesLeftover then none else h.files.rotating) = h.files.rotating := by
      rcases hsafe.leftover with hnone | ⟨hremoves, -⟩
      · rw [hnone, ite_self]
      · rw [hremoves, if_neg Bool.false_ne_true]
    rw [LogHistory.known, hfiles, hreplaced, hkept]
    exact List.Perm.refl _
  | true =>
    have hleftover : h.files.rotating = none := by
      rcases hsafe.leftover with hnone | ⟨-, hstays⟩
      · exact hnone
      · rw [hmoves] at hstays
        cases hstays
    cases hpromotes : o.promotes h.files with
    | false =>
      obtain ⟨hfiles, hreplaced⟩ := rotate_of_not_promotes hmoves hpromotes
      have hkept : (if o.removesPrevious h.files then none else h.files.rotated) =
          h.files.rotated := by
        rcases hsafe.previous with hnone | hsucceeds | ⟨hremoves, -⟩
        · rw [hnone, ite_self]
        · rw [RotationOutcome.succeeds, hpromotes] at hsucceeds
          cases hsucceeds
        · rw [hremoves, if_neg Bool.false_ne_true]
      rw [LogHistory.known, LogHistory.known, hfiles, hreplaced, hkept, LogFiles.entries,
        LogFiles.entries, hleftover]
      refine List.Perm.append_right _ ?_
      rw [Option.getD_none, List.append_nil, List.nil_append]
      exact List.perm_append_comm
    | true =>
      obtain ⟨hfiles, hreplaced⟩ := rotate_of_promotes hpromotes
      rw [LogHistory.known, LogHistory.known, hfiles, hreplaced, LogFiles.entries,
        LogFiles.entries, hleftover]
      simp only [Option.getD_none, List.append_nil, List.nil_append, List.append_assoc]
      exact List.Perm.append_left _ List.perm_append_comm

theorem mem_known {h : LogHistory ρ} : entry ∈ h.known ↔
    entry ∈ h.files.live.getD [] ∨ entry ∈ h.files.rotated.getD [] ∨
      entry ∈ h.files.rotating.getD [] ∨ entry ∈ h.replaced := by
  rw [LogHistory.known, LogFiles.entries]
  simp only [List.mem_append, or_assoc]

/-- A rotation makes nothing known, and forgets a leftover that it removes or overwrites. -/
theorem mem_known_of_rotate (hentry : entry ∈ (h.rotate o).1.known) :
    entry ∈ h.files.live.getD [] ∨ entry ∈ h.files.rotated.getD [] ∨ entry ∈ h.replaced ∨
      (entry ∈ h.files.rotating.getD [] ∧ o.removesLeftover = false ∧
        o.moves h.files = false) := by
  rw [mem_known] at hentry
  cases hmoves : o.moves h.files with
  | false =>
    obtain ⟨hfiles, hreplaced⟩ := rotate_of_not_moves hmoves
    rw [hfiles, hreplaced] at hentry
    rcases hentry with hlive | hrotated | hrotating | hreplaced
    · exact Or.inl hlive
    · exact Or.inr (Or.inl hrotated)
    · cases hremoves : o.removesLeftover with
      | false =>
        rw [hremoves, if_neg Bool.false_ne_true] at hrotating
        exact Or.inr (Or.inr (Or.inr ⟨hrotating, rfl, rfl⟩))
      | true =>
        rw [hremoves, if_pos rfl] at hrotating
        cases hrotating
    · exact Or.inr (Or.inr (Or.inl hreplaced))
  | true =>
    cases hpromotes : o.promotes h.files with
    | false =>
      obtain ⟨hfiles, hreplaced⟩ := rotate_of_not_promotes hmoves hpromotes
      rw [hfiles, hreplaced] at hentry
      rcases hentry with hlive | hrotated | hrotating | hreplaced
      · cases hlive
      · cases hremoves : o.removesPrevious h.files with
        | false =>
          rw [hremoves, if_neg Bool.false_ne_true] at hrotated
          exact Or.inr (Or.inl hrotated)
        | true =>
          rw [hremoves, if_pos rfl] at hrotated
          cases hrotated
      · exact Or.inl hrotating
      · exact Or.inr (Or.inr (Or.inl hreplaced))
    | true =>
      obtain ⟨hfiles, hreplaced⟩ := rotate_of_promotes hpromotes
      rw [hfiles, hreplaced, List.mem_append] at hentry
      rcases hentry with hlive | hrotated | hrotating | hreplaced | hprevious
      · cases hlive
      · exact Or.inl hrotated
      · cases hrotating
      · exact Or.inr (Or.inr (Or.inl hreplaced))
      · exact Or.inr (Or.inl hprevious)

theorem known_rotate_subset (hentry : entry ∈ (h.rotate o).1.known) : entry ∈ h.known := by
  rw [mem_known]
  rcases mem_known_of_rotate hentry with hlive | hrotated | hreplaced | ⟨hrotating, -, -⟩
  · exact Or.inl hlive
  · exact Or.inr (Or.inl hrotated)
  · exact Or.inr (Or.inr (Or.inr hreplaced))
  · exact Or.inr (Or.inr (Or.inl hrotating))

/-- A safe rotation with a failure leaves `.1`. -/
theorem rotated_of_safe_of_fails (hsafe : o.Safe h.files) (hfails : o.fails h.files = true)
    {content : List (Entry ρ)} (hcontent : h.files.rotated = some content) :
    (h.rotate o).1.files.rotated = some content := by
  rcases hsafe.previous with hnone | hsucceeds | ⟨hremoves, hpromotes⟩
  · rw [hnone] at hcontent
    cases hcontent
  · -- all steps are carried out and work
    rw [RotationOutcome.succeeds, Bool.and_eq_true, Bool.and_eq_true] at hsucceeds
    obtain ⟨⟨hpromotes, hleftover⟩, hprevious⟩ := hsucceeds
    have hmoves := moves_of_promotes hpromotes
    rw [RotationOutcome.promotes, hmoves, Bool.true_and, Bool.and_eq_true] at hpromotes
    have hlive : (o.renameLive && h.files.live.isSome) = true := by
      rw [RotationOutcome.moves, Bool.and_assoc, Bool.and_eq_true] at hmoves
      exact hmoves.2
    rw [RotationOutcome.fails, hleftover, hlive, hprevious, hpromotes.2] at hfails
    simp at hfails
  · cases hmoves : o.moves h.files with
    | false => rw [(rotate_of_not_moves hmoves).1, ← hcontent]
    | true =>
      rw [(rotate_of_not_promotes hmoves hpromotes).1, ← hcontent, hremoves,
        if_neg Bool.false_ne_true]

theorem failures_rotate : (h.rotate o).1.failures =
    if o.fails h.files then (h.files.rotated, (h.rotate o).1.files.rotated) :: h.failures
    else h.failures := rfl

end Rotate

/-! ## Appended records -/

section Append

variable {h : LogHistory ρ} {record : ρ}

theorem mem_known_append {entry : Entry ρ} : entry ∈ (h.append record).known ↔
    entry ∈ h.known ∨ entry = ⟨h.appended.length, record⟩ := by
  rw [mem_known, mem_known]
  simp only [LogHistory.append, Option.getD_some, List.mem_append, List.mem_singleton]
  constructor
  · rintro ((hlive | rfl) | hother)
    · exact Or.inl (Or.inl hlive)
    · exact Or.inr rfl
    · exact Or.inl (Or.inr hother)
  · rintro ((hlive | hother) | rfl)
    · exact Or.inl (Or.inl hlive)
    · exact Or.inr hother
    · exact Or.inl (Or.inr rfl)

theorem perm_known_append :
    (h.append record).known.Perm (h.known ++ [⟨h.appended.length, record⟩]) := by
  simp only [LogHistory.known, LogFiles.entries, LogHistory.append, Option.getD_some,
    List.append_assoc]
  refine List.Perm.append_left _ ?_
  rw [List.singleton_append, ← List.append_assoc, ← List.append_assoc, ← List.append_assoc]
  exact (List.perm_append_singleton _ _).symm

end Append

/-! ## The invariant -/

/-- Each record is accounted for once, no file is empty, and `.1` was left where a step failed. -/
structure LogInv (h : LogHistory ρ) : Prop where
  accounted : h.known.Perm h.appended
  numbered : h.appended.map Entry.number = List.range h.appended.length
  nonempty : ∀ content, h.files.rotated = some content ∨ h.files.rotating = some content ∨
    h.files.live = some content → content ≠ []
  intact : ∀ failure ∈ h.failures, ∀ content, failure.1 = some content → failure.2 = some content

theorem LogInv.nodup_known {h : LogHistory ρ} (hinv : LogInv h) : h.known.Nodup := by
  rw [hinv.accounted.nodup_iff]
  refine List.Nodup.of_map Entry.number ?_
  rw [hinv.numbered]
  exact List.nodup_range

theorem LogInv.losesOnlyOldest {h : LogHistory ρ} (hinv : LogInv h) : LosesOnlyOldest h where
  kept _ hentry := List.mem_append.mp (hinv.accounted.mem_iff.mpr hentry)
  intact := hinv.intact
  apart := (List.nodup_append.mp hinv.nodup_known).1

theorem logInv_init : LogInv ({} : LogHistory ρ) where
  accounted := List.Perm.refl _
  numbered := rfl
  nonempty _ h := by
    rcases h with h | h | h <;> cases h
  intact _ h := absurd h List.not_mem_nil

/-- **A safe rotation keeps the invariant.** -/
theorem LogInv.rotate {h : LogHistory ρ} {o : RotationOutcome} (hinv : LogInv h)
    (hsafe : o.Safe h.files) : LogInv (h.rotate o).1 where
  accounted := (perm_known_rotate hsafe).trans hinv.accounted
  numbered := hinv.numbered
  nonempty content hcontent := by
    refine hinv.nonempty content ?_
    cases hmoves : o.moves h.files with
    | false =>
      rw [(rotate_of_not_moves hmoves).1] at hcontent
      rcases hcontent with hrotated | hrotating | hlive
      · exact Or.inl hrotated
      · dsimp only at hrotating
        split_ifs at hrotating
        exact Or.inr (Or.inl hrotating)
      · exact Or.inr (Or.inr hlive)
    | true =>
      cases hpromotes : o.promotes h.files with
      | false =>
        rw [(rotate_of_not_promotes hmoves hpromotes).1] at hcontent
        rcases hcontent with hrotated | hrotating | hlive
        · dsimp only at hrotated
          split_ifs at hrotated
          exact Or.inl hrotated
        · exact Or.inr (Or.inr hrotating)
        · cases hlive
      | true =>
        rw [(rotate_of_promotes hpromotes).1] at hcontent
        rcases hcontent with hrotated | hrotating | hlive
        · exact Or.inr (Or.inr hrotated)
        · cases hrotating
        · cases hlive
  intact failure hfailure content hcontent := by
    rw [failures_rotate] at hfailure
    split_ifs at hfailure with hfails
    · rcases List.mem_cons.mp hfailure with rfl | hfailure
      · exact rotated_of_safe_of_fails hsafe hfails hcontent
      · exact hinv.intact failure hfailure content hcontent
    · exact hinv.intact failure hfailure content hcontent

theorem LogInv.append {h : LogHistory ρ} (hinv : LogInv h) (record : ρ) :
    LogInv (h.append record) where
  accounted := perm_known_append.trans (List.Perm.append_right _ hinv.accounted)
  numbered := by
    simp only [LogHistory.append, List.map_append, hinv.numbered, List.length_append,
      List.map_singleton, List.length_singleton, List.range_succ]
  nonempty content hcontent := by
    rcases hcontent with hrotated | hrotating | hlive
    · exact hinv.nonempty content (Or.inl hrotated)
    · exact hinv.nonempty content (Or.inr (Or.inl hrotating))
    · cases hlive
      exact List.append_ne_nil_of_right_ne_nil _ (List.cons_ne_nil _ _)
  intact := hinv.intact

theorem LogInv.rotateIf {h : LogHistory ρ} {needed : Bool} {o : RotationOutcome} (hinv : LogInv h)
    (hsafe : needed = true → o.Safe h.files) : LogInv (rotateIf needed o h).1 := by
  unfold Diagnostics.rotateIf
  split_ifs with hneeded
  · exact hinv.rotate (hsafe hneeded)
  · exact hinv

theorem LogInv.checkAgeAndAppend {h : LogHistory ρ} {call : AppendCall ρ} (hinv : LogInv h)
    (hsafe : isAgedOrOverCount call h.files = true → call.aged.Safe h.files) :
    LogInv (checkAgeAndAppend call h) := by
  have haged : LogInv (rotateIfAgedOrOverCountLocked call h).1 := hinv.rotateIf hsafe
  unfold Diagnostics.checkAgeAndAppend
  dsimp only
  split_ifs
  · exact haged
  · exact haged.append call.record

theorem LogInv.appendJsonLine {size : ρ → ℕ} {h : LogHistory ρ} {call : AppendCall ρ}
    (hinv : LogInv h) (hcareful : Careful size h call) : LogInv (appendJsonLine size call h) := by
  have hoversized : LogInv (rotateIfOversizedLocked size call h).1 :=
    hinv.rotateIf hcareful.oversized
  unfold Diagnostics.appendJsonLine
  dsimp only
  split_ifs with hstopped
  · exact hoversized
  · exact hoversized.checkAgeAndAppend (hcareful.aged (Bool.eq_false_iff.mpr hstopped))

/-! ## Careless rotations -/

/-- A record is gone, or a `.1` in spite of a failure. -/
def Violated (h : LogHistory ρ) : Prop :=
  (∃ entry ∈ h.appended, entry ∉ h.known) ∨
    ∃ failure ∈ h.failures, ∃ content, failure.1 = some content ∧ failure.2 ≠ some content

theorem not_losesOnlyOldest_of_violated {h : LogHistory ρ} (hviolated : Violated h) :
    ¬ LosesOnlyOldest h := by
  intro hloses
  rcases hviolated with ⟨entry, happended, hgone⟩ | ⟨failure, hfailure, content, hbefore, hafter⟩
  · exact hgone (List.mem_append.mpr (hloses.kept entry happended))
  · exact hafter (hloses.intact failure hfailure content hbefore)

section Careless

variable {h : LogHistory ρ} {o : RotationOutcome}

/-- What is gone stays gone. -/
theorem Violated.rotate (hviolated : Violated h) : Violated (h.rotate o).1 := by
  rcases hviolated with ⟨entry, happended, hgone⟩ | ⟨failure, hfailure, hcontent⟩
  · exact Or.inl ⟨entry, happended, fun hknown => hgone (known_rotate_subset hknown)⟩
  · refine Or.inr ⟨failure, ?_, hcontent⟩
    rw [failures_rotate]
    split_ifs
    · exact List.mem_cons_of_mem _ hfailure
    · exact hfailure

theorem Violated.append (hnumbered : h.appended.map Entry.number = List.range h.appended.length)
    (hviolated : Violated h) (record : ρ) : Violated (h.append record) := by
  rcases hviolated with ⟨entry, happended, hgone⟩ | hfailure
  · refine Or.inl ⟨entry, List.mem_append_left _ happended, fun hknown => ?_⟩
    rcases mem_known_append.mp hknown with hknown | rfl
    · exact hgone hknown
    · -- the new number is not among the old ones
      have hnumber : h.appended.length ∈ h.appended.map Entry.number :=
        List.mem_map.mpr ⟨_, happended, rfl⟩
      rw [hnumbered, List.mem_range] at hnumber
      exact absurd hnumber (Nat.lt_irrefl _)
  · exact Or.inr hfailure

theorem Violated.rotateIf {needed : Bool} (hviolated : Violated h) :
    Violated (rotateIf needed o h).1 := by
  unfold Diagnostics.rotateIf
  split_ifs
  · exact hviolated.rotate
  · exact hviolated

@[simp] theorem appended_rotateIf {needed : Bool} :
    (rotateIf needed o h).1.appended = h.appended := by
  unfold Diagnostics.rotateIf
  split_ifs <;> rfl

/-- A record of a file that is known to nobody after a rotation. -/
theorem violated_of_forgotten (hinv : LogInv h) {entry : Entry ρ} (hknown : entry ∈ h.known)
    (hgone : entry ∉ (h.rotate o).1.known) : Violated (h.rotate o).1 :=
  Or.inl ⟨entry, hinv.accounted.mem_iff.mp hknown, hgone⟩

/-- A leftover that is removed or overwritten is lost. -/
theorem violated_of_leftover (hinv : LogInv h) (hsome : h.files.rotating ≠ none)
    (hforgets : ¬ (o.removesLeftover = false ∧ o.moves h.files = false)) :
    Violated (h.rotate o).1 := by
  obtain ⟨content, hcontent⟩ := Option.ne_none_iff_exists'.mp hsome
  obtain ⟨entry, hentry⟩ :=
    List.exists_mem_of_ne_nil content (hinv.nonempty content (Or.inr (Or.inl hcontent)))
  have hrotating : entry ∈ h.files.rotating.getD [] := by rwa [hcontent]
  have hnodup := hinv.nodup_known
  rw [LogHistory.known, LogFiles.entries, List.nodup_append, List.nodup_append] at hnodup
  obtain ⟨⟨-, -, hothers⟩, -, hreplaced⟩ := hnodup
  refine violated_of_forgotten hinv
    (mem_known.mpr (Or.inr (Or.inr (Or.inl hrotating)))) fun hknown => ?_
  rcases mem_known_of_rotate hknown with hlive | hrotated | hold | ⟨-, hkept⟩
  · exact hothers entry (List.mem_append_left _ hlive) entry hrotating rfl
  · exact hothers entry (List.mem_append_right _ hrotated) entry hrotating rfl
  · exact hreplaced entry (List.mem_append_right _ hrotating) entry hold rfl
  · exact hforgets hkept

/-- A `.1` that is removed is lost unless `.rotating` takes its place. -/
theorem violated_of_removed (hinv : LogInv h) {content : List (Entry ρ)}
    (hcontent : h.files.rotated = some content) (hremoves : o.removesPrevious h.files = true)
    (hpromotes : o.promotes h.files = false) : Violated (h.rotate o).1 := by
  have hmoves : o.moves h.files = true := by
    rw [RotationOutcome.removesPrevious, Bool.and_assoc, Bool.and_eq_true] at hremoves
    exact hremoves.1
  obtain ⟨hfiles, hreplaced⟩ := rotate_of_not_promotes hmoves hpromotes
  obtain ⟨entry, hentry⟩ :=
    List.exists_mem_of_ne_nil content (hinv.nonempty content (Or.inl hcontent))
  have hrotated : entry ∈ h.files.rotated.getD [] := by rwa [hcontent]
  have hnodup := hinv.nodup_known
  rw [LogHistory.known, LogFiles.entries, List.nodup_append, List.nodup_append,
    List.nodup_append] at hnodup
  obtain ⟨⟨⟨-, -, hlive⟩, -, -⟩, -, hold⟩ := hnodup
  refine violated_of_forgotten hinv (mem_known.mpr (Or.inr (Or.inl hrotated))) fun hknown => ?_
  rw [mem_known, hfiles, hreplaced, hremoves, if_pos rfl] at hknown
  rcases hknown with hnew | hnew | hnew | hnew
  · cases hnew
  · cases hnew
  · exact hlive entry hnew entry hrotated rfl
  · exact hold entry (List.mem_append_left _ (List.mem_append_right _ hrotated)) entry hnew rfl

/-- A `.1` that is overwritten although a step has failed. -/
theorem violated_of_overwritten (hinv : LogInv h) {content : List (Entry ρ)}
    (hcontent : h.files.rotated = some content) (hpromotes : o.promotes h.files = true)
    (hfails : o.succeeds h.files = false) : Violated (h.rotate o).1 := by
  have hmoves := moves_of_promotes hpromotes
  have hfailed : o.fails h.files = true := by
    have hsteps := hpromotes
    rw [RotationOutcome.promotes, hmoves, Bool.true_and, Bool.and_eq_true,
      decide_eq_true_iff] at hsteps
    rw [RotationOutcome.succeeds, hpromotes, Bool.true_and] at hfails
    rw [RotationOutcome.fails, hmoves, decide_eq_true (by omega : 1 ≤ o.stepsDone),
      decide_eq_true (by omega : 3 ≤ o.stepsDone)]
    cases hleftover : o.removeRotating with
    | false => rfl
    | true =>
      rw [hleftover, Bool.true_and] at hfails
      rw [hfails]
      simp
  refine Or.inr ⟨(h.files.rotated, (h.rotate o).1.files.rotated), ?_, content, hcontent, ?_⟩
  · rw [failures_rotate, if_pos hfailed]
    exact List.mem_cons_self
  · -- the live file is another one
    rw [(rotate_of_promotes hpromotes).1]
    intro hlive
    obtain ⟨entry, hentry⟩ :=
      List.exists_mem_of_ne_nil content (hinv.nonempty content (Or.inl hcontent))
    have hnodup := hinv.nodup_known
    rw [LogHistory.known, LogFiles.entries, List.nodup_append, List.nodup_append,
      List.nodup_append] at hnodup
    have hlive' : entry ∈ h.files.live.getD [] := by
      rw [show h.files.live = some content from hlive]
      exact hentry
    exact hnodup.1.1.2.2 entry hlive' entry (by rwa [hcontent]) rfl

/-- **A rotation that is not safe violates the rules.** -/
theorem violated_of_not_safe (hinv : LogInv h) (hrisk : ¬ o.Safe h.files) :
    Violated (h.rotate o).1 := by
  by_cases hleftover : h.files.rotating = none ∨
      (o.removesLeftover = false ∧ o.moves h.files = false)
  · have hprevious : ¬ (h.files.rotated = none ∨ o.succeeds h.files = true ∨
        (o.removesPrevious h.files = false ∧ o.promotes h.files = false)) :=
      fun hprevious => hrisk ⟨hleftover, hprevious⟩
    rw [not_or, not_or] at hprevious
    obtain ⟨hsome, hfails, htouches⟩ := hprevious
    obtain ⟨content, hcontent⟩ := Option.ne_none_iff_exists'.mp hsome
    cases hpromotes : o.promotes h.files with
    | true => exact violated_of_overwritten hinv hcontent hpromotes (Bool.eq_false_iff.mpr hfails)
    | false =>
      refine violated_of_removed hinv hcontent ?_ hpromotes
      rw [← Bool.not_eq_false]
      exact fun hremoves => htouches ⟨hremoves, hpromotes⟩
  · rw [not_or] at hleftover
    exact violated_of_leftover hinv hleftover.1 hleftover.2

theorem violated_of_rotateIf (hinv : LogInv h) {needed : Bool}
    (hrisk : ¬ (needed = true → o.Safe h.files)) : Violated (rotateIf needed o h).1 := by
  rw [Classical.not_imp] at hrisk
  rw [Diagnostics.rotateIf, if_pos hrisk.1]
  exact violated_of_not_safe hinv hrisk.2

end Careless

theorem Violated.checkAgeAndAppend {h : LogHistory ρ} {call : AppendCall ρ}
    (hnumbered : h.appended.map Entry.number = List.range h.appended.length)
    (hviolated : Violated h) : Violated (checkAgeAndAppend call h) := by
  have haged : Violated (rotateIfAgedOrOverCountLocked call h).1 := hviolated.rotateIf
  unfold Diagnostics.checkAgeAndAppend
  dsimp only
  split_ifs
  · exact haged
  · refine haged.append ?_ call.record
    rwa [rotateIfAgedOrOverCountLocked, appended_rotateIf]

/-- A call with a rotation that is not safe violates the rules. -/
theorem violated_of_not_careful {size : ρ → ℕ} {h : LogHistory ρ} {call : AppendCall ρ}
    (hinv : LogInv h) (hcareless : ¬ Careful size h call) :
    Violated (appendJsonLine size call h) := by
  have happended : (rotateIfOversizedLocked size call h).1.appended = h.appended :=
    appended_rotateIf
  unfold appendJsonLine
  dsimp only
  by_cases hoversized : isOversized size call h.files = true → call.oversized.Safe h.files
  · -- the second rotation is the one that is not safe
    have hfirst : LogInv (rotateIfOversizedLocked size call h).1 := hinv.rotateIf hoversized
    have haged := fun haged => hcareless ⟨hoversized, haged⟩
    rw [imp_false, Classical.not_imp] at haged
    obtain ⟨hstopped, haged⟩ := haged
    have hviolated : Violated (rotateIfAgedOrOverCountLocked call
        (rotateIfOversizedLocked size call h).1).1 := violated_of_rotateIf hfirst haged
    rw [if_neg (Bool.eq_false_iff.mp hstopped)]
    unfold checkAgeAndAppend
    dsimp only
    split_ifs
    · exact hviolated
    · refine hviolated.append ?_ call.record
      rw [rotateIfAgedOrOverCountLocked, appended_rotateIf]
      exact hfirst.numbered
  · have hviolated : Violated (rotateIfOversizedLocked size call h).1 :=
      violated_of_rotateIf hinv hoversized
    split_ifs
    · exact hviolated
    · exact hviolated.checkAgeAndAppend (by rw [happended]; exact hinv.numbered)

/-! ## Runs -/

theorem losesOnlyOldest_run_iff {size : ρ → ℕ} {h : LogHistory ρ} (hinv : LogInv h)
    (calls : List (AppendCall ρ)) :
    (∀ n, LosesOnlyOldest ((logSystem size).run h (calls.take n))) ↔
      (logSystem size).Allowed (Careful size) h calls := by
  induction calls generalizing h with
  | nil => exact iff_of_true (fun n => by rw [List.take_nil]; exact hinv.losesOnlyOldest) trivial
  | cons call calls ih =>
    constructor
    · intro hloses
      have hcareful : Careful size h call := by
        by_contra hcareless
        exact not_losesOnlyOldest_of_violated (violated_of_not_careful hinv hcareless) (hloses 1)
      exact ⟨hcareful, (ih (hinv.appendJsonLine hcareful)).mp fun n => hloses (n + 1)⟩
    · rintro ⟨hcareful, hrest⟩ n
      cases n with
      | zero => exact hinv.losesOnlyOldest
      | succ n => exact (ih (hinv.appendJsonLine hcareful)).mpr hrest n

/-- **When only the oldest generation is lost**: in every state of a run if and only if all the
rotations of the run are safe. -/
theorem losesOnlyOldest_iff (size : ρ → ℕ) (calls : List (AppendCall ρ)) :
    (∀ n, LosesOnlyOldest ((logSystem size).run (logSystem size).init (calls.take n))) ↔
      (logSystem size).Allowed (Careful size) (logSystem size).init calls :=
  losesOnlyOldest_run_iff logInv_init calls

/-- All four steps work. -/
def goodRotation : RotationOutcome := ⟨4, true, true, true, true⟩

/-- A record that fills a file, with one way for the rotation to end. -/
def bigRecord (oversized : RotationOutcome) : AppendCall ℕ where
  record := 52428799
  sizeKnown := true
  oversized := oversized
  deepCheck := false
  tooOld _ := false
  aged := goodRotation
  opensForAppend := true

/-- The first record is moved to `.1`, and removed from there although the rename that follows
fails. -/
theorem previous_generation_lost :
    ¬ LosesOnlyOldest ((logSystem id).run (logSystem id).init
      [bigRecord goodRotation, bigRecord goodRotation,
        bigRecord ⟨4, true, true, true, false⟩]) := by
  intro h
  have hintact := h.intact (some [⟨0, 52428799⟩], none) List.mem_cons_self _ rfl
  cases hintact

end Diagnostics
end MasterControl
