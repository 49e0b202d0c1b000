import MasterControl.Configuration.Startup
import MasterControl.Foundation.Files
import MasterControl.Foundation.Runs
import Mathlib.Data.List.Basic
import Mathlib.Logic.Function.Basic

/-!
# Replacing a file

`writeJsonFile` writes the new text into a temporary file beside the target and renames it.  If
that fails it copies the temporary file over the target, removes it, and answers whether the copy
has worked.  The name of the temporary file is the target's, so all calls for one target share it.

A run is any number of calls that go on side by side, one file-system step at a time.  The target
is replaced atomically in every run in which no call opens the temporary file while another one
uses it, and no copy breaks off that has already changed the target
(`replacement_of_undisturbed`).
-/

namespace MasterControl
namespace Configuration

open Foundation

/-! ## The calls -/

/-- How far a call of `writeJsonFile` has come. -/
inductive WritePhase where
  | begun
  /-- The directories are there. -/
  | directories
  /-- The temporary file is open, and so many bytes of the text are out. -/
  | streaming (offset : ℕ)
  /-- The stream is not good, and the temporary file is to be removed. -/
  | discarding
  /-- The stream is flushed and closed. -/
  | written
  | notRenamed
  /-- The copy has worked or not, and the temporary file is to be removed. -/
  | copied (ok : Bool)
  | returned (result : Bool)
  deriving DecidableEq

/-- The two files, and where each call stands. -/
structure Replacement where
  target : Option Bytes
  temporary : Option Bytes
  phase : ℕ → WritePhase
  /-- Each change of the target: the call and what it left. -/
  changes : List (ℕ × Option Bytes)

/-- One file-system step of a call, with how it goes. -/
inductive FileStep where
  | createDirectories (i : ℕ) (ok : Bool)
  | openTemporary (i : ℕ) (ok : Bool)
  /-- Some more bytes go out. -/
  | write (i : ℕ) (count : ℕ)
  /-- The stream is flushed, and closed if it is good. -/
  | endStream (i : ℕ) (good : Bool)
  | discard (i : ℕ) (removed : Bool)
  | rename (i : ℕ) (ok : Bool)
  | copy (i : ℕ) (outcome : CopyOutcome)
  | removeTemporary (i : ℕ) (removed : Bool)

namespace Replacement

def goTo (s : Replacement) (i : ℕ) (phase : WritePhase) : Replacement :=
  { s with phase := Function.update s.phase i phase }

/-- The temporary file after an attempt to remove it. -/
def afterRemoval (s : Replacement) (removed : Bool) : Option Bytes :=
  if removed then none else s.temporary

/-- The target gets a new content. -/
def replace (s : Replacement) (i : ℕ) (content : Option Bytes) : Replacement :=
  { s with target := content, changes := s.changes ++ [(i, content)] }

end Replacement

/-- One step; one that does not fit the phase of its call does nothing.  The text of a call is
what `dump(2)` gives, `none` where it throws. -/
def fileStep (texts : ℕ → Option Bytes) (s : Replacement) : FileStep → Replacement
  | .createDirectories i ok =>
    match s.phase i with
    | .begun => s.goTo i (if ok then .directories else .returned false)
    | _ => s
  | .openTemporary i ok =>
    match s.phase i with
    | .directories =>
      if ok then { s.goTo i (.streaming 0) with temporary := some [] }
      else s.goTo i (.returned false)
    | _ => s
  | .write i count =>
    match s.phase i, texts i with
    | .streaming offset, some text =>
      let bytes := (text.drop offset).take count
      { s.goTo i (.streaming (offset + bytes.length)) with
        temporary := some (writeAt (s.temporary.getD []) offset bytes) }
    | .streaming _, none => s.goTo i (.returned false)
    | _, _ => s
  | .endStream i good =>
    match s.phase i, texts i with
    | .streaming offset, some text =>
      if !good then s.goTo i .discarding
      else if offset = text.length then s.goTo i .written
      else s
    | _, _ => s
  | .discard i removed =>
    match s.phase i with
    | .discarding => { s.goTo i (.returned false) with temporary := s.afterRemoval removed }
    | _ => s
  | .rename i ok =>
    match s.phase i, s.temporary with
    | .written, some content =>
      if ok then { (s.goTo i (.returned true)).replace i (some content) with temporary := none }
      else s.goTo i .notRenamed
    | .written, none => s.goTo i .notRenamed
    | _, _ => s
  | .copy i outcome =>
    match s.phase i, outcome, s.temporary with
    | .notRenamed, .copied, some content => (s.goTo i (.copied true)).replace i (some content)
    | .notRenamed, .failed left, _ =>
      if left = s.target then s.goTo i (.copied false)
      else (s.goTo i (.copied false)).replace i left
    | _, _, _ => s
  | .removeTemporary i removed =>
    match s.phase i with
    | .copied ok => { s.goTo i (.returned ok) with temporary := s.afterRemoval removed }
    | _ => s

/-- The calls over a target with some content, and whatever is left of a temporary file. -/
def fileSystem (texts : ℕ → Option Bytes) (target temporary : Option Bytes) :
    TransitionSystem Replacement FileStep where
  init := { target, temporary, phase := fun _ => .begun, changes := [] }
  step := fileStep texts

/-! ## Atomic replacement -/

/-- The target only ever holds what it held first or the whole text of a call, and a call has put
its text there if and only if it has returned true. -/
structure AtomicReplacement (texts : ℕ → Option Bytes) (start : Option Bytes) (s : Replacement) :
    Prop where
  complete : ∀ change ∈ s.changes, ∃ text, texts change.1 = some text ∧ change.2 = some text
  target_eq : s.target = (s.changes.getLast?.map Prod.snd).getD start
  returned_true : ∀ i, s.phase i = .returned true →
    s.changes.countP (fun change => change.1 = i) = 1
  returned_false : ∀ i, s.phase i = .returned false →
    s.changes.countP (fun change => change.1 = i) = 0

/-- Whether a call counts on the temporary file. -/
def WritePhase.usesTemporary : WritePhase → Bool
  | begun | directories | returned _ => false
  | _ => true

/-- Nobody opens the temporary file while another call uses it, and a copy that fails has not
touched the target. -/
def Undisturbed (s : Replacement) : FileStep → Prop
  | .openTemporary i true => ∀ j, j ≠ i → (s.phase j).usesTemporary = false
  | .copy _ (.failed left) => left = s.target
  | _ => True

/-! ## The invariant -/

/-- Whether a call has put its text into the target. -/
def WritePhase.hasReplaced : WritePhase → Bool
  | copied ok => ok
  | returned result => result
  | _ => false

/-- What a call knows of the temporary file. -/
def TemporaryHolds (text : Option Bytes) (temporary : Option Bytes) : WritePhase → Prop
  | .streaming offset =>
    offset ≤ (text.getD []).length ∧ temporary = some ((text.getD []).take offset)
  | .written | .notRenamed => ∃ content, text = some content ∧ temporary = some content
  | _ => True

structure ReplacementLaw (texts : ℕ → Option Bytes) (start : Option Bytes) (s : Replacement) :
    Prop where
  alone : ∀ i j, (s.phase i).usesTemporary = true → (s.phase j).usesTemporary = true → i = j
  holds : ∀ i, TemporaryHolds (texts i) s.temporary (s.phase i)
  complete : ∀ change ∈ s.changes, ∃ text, texts change.1 = some text ∧ change.2 = some text
  target_eq : s.target = (s.changes.getLast?.map Prod.snd).getD start
  count : ∀ i, s.changes.countP (fun change => change.1 = i) =
    if (s.phase i).hasReplaced then 1 else 0

section Law

variable {texts : ℕ → Option Bytes} {start temporary : Option Bytes} {s : Replacement} {i : ℕ}
  {phase : WritePhase}

theorem temporaryHolds_of_not_uses {text : Option Bytes} (h : phase.usesTemporary = false) :
    TemporaryHolds text temporary phase := by
  cases phase with
  | streaming offset => cases h
  | written => cases h
  | notRenamed => cases h
  | _ => trivial

/-- Some more bytes of the text go out. -/
theorem temporaryHolds_write {text : Bytes} {offset : ℕ}
    (h : TemporaryHolds (some text) temporary (.streaming offset)) (count : ℕ) :
    TemporaryHolds (some text)
      (some (writeAt (temporary.getD []) offset ((text.drop offset).take count)))
      (.streaming (offset + ((text.drop offset).take count).length)) := by
  obtain ⟨hoffset, rfl⟩ := h
  rw [Option.getD_some] at hoffset
  have hstand : (text.take offset).length = offset := by
    rw [List.length_take, Nat.min_eq_left hoffset]
  have hwritten : writeAt (text.take offset) offset ((text.drop offset).take count) =
      text.take offset ++ (text.drop offset).take count := by
    have hend := writeAt_length (text.take offset) ((text.drop offset).take count)
    rwa [hstand] at hend
  refine ⟨?_, ?_⟩
  · rw [Option.getD_some, List.length_take, List.length_drop]
    omega
  · rw [Option.getD_some, Option.getD_some, hwritten, List.take_add, List.length_take,
      ← List.take_eq_take_min]

namespace ReplacementLaw

theorem atomic (h : ReplacementLaw texts start s) : AtomicReplacement texts start s where
  complete := h.complete
  target_eq := h.target_eq
  returned_true i hi := by rw [h.count, hi]; rfl
  returned_false i hi := by rw [h.count, hi]; rfl

theorem init (texts : ℕ → Option Bytes) (start temporary : Option Bytes) :
    ReplacementLaw texts start (fileSystem texts start temporary).init where
  alone i j hi := by cases hi
  holds i := trivial
  complete change hchange := by cases hchange
  target_eq := rfl
  count i := rfl

/-- While a call uses the temporary file, no other one does. -/
theorem others (h : ReplacementLaw texts start s) (hi : (s.phase i).usesTemporary = true) (j : ℕ)
    (hj : j ≠ i) : (s.phase j).usesTemporary = false := by
  by_contra huses
  exact hj (h.alone j i (by simpa using huses) hi)

theorem alone_goTo (h : ReplacementLaw texts start s)
    (halone : phase.usesTemporary = true → ∀ j, j ≠ i → (s.phase j).usesTemporary = false)
    (j k : ℕ) (hj : ((s.goTo i phase).phase j).usesTemporary = true)
    (hk : ((s.goTo i phase).phase k).usesTemporary = true) : j = k := by
  simp only [Replacement.goTo, Function.update_apply] at hj hk
  by_cases hji : j = i
  · by_cases hki : k = i
    · exact hji.trans hki.symm
    · rw [if_pos hji] at hj
      rw [if_neg hki, halone hj k hki] at hk
      cases hk
  · rw [if_neg hji] at hj
    by_cases hki : k = i
    · rw [if_pos hki] at hk
      rw [halone hk j hji] at hj
      cases hj
    · rw [if_neg hki] at hk
      exact h.alone j k hj hk

theorem holds_goTo (h : ReplacementLaw texts start s)
    (htemporary : temporary = s.temporary ∨ ∀ j, j ≠ i → (s.phase j).usesTemporary = false)
    (hholds : TemporaryHolds (texts i) temporary phase) (j : ℕ) :
    TemporaryHolds (texts j) temporary ((s.goTo i phase).phase j) := by
  simp only [Replacement.goTo, Function.update_apply]
  split_ifs with hji
  · exact hji ▸ hholds
  · rcases htemporary with rfl | hothers
    · exact h.holds j
    · exact temporaryHolds_of_not_uses (hothers j hji)

/-- **A call goes on**, and may change the temporary file if no other one uses it. -/
theorem goTo (h : ReplacementLaw texts start s)
    (halone : phase.usesTemporary = true → ∀ j, j ≠ i → (s.phase j).usesTemporary = false)
    (htemporary : temporary = s.temporary ∨ ∀ j, j ≠ i → (s.phase j).usesTemporary = false)
    (hholds : TemporaryHolds (texts i) temporary phase)
    (hreplaced : phase.hasReplaced = (s.phase i).hasReplaced) :
    ReplacementLaw texts start { s.goTo i phase with temporary } := by
  refine ⟨h.alone_goTo halone, h.holds_goTo htemporary hholds, h.complete, h.target_eq,
    fun j => ?_⟩
  simp only [Replacement.goTo, Function.update_apply]
  rw [h.count]
  by_cases hji : j = i
  · rw [if_pos hji, hreplaced, hji]
  · rw [if_neg hji]

/-- A call goes on and leaves the temporary file alone. -/
theorem goTo_of_uses (h : ReplacementLaw texts start s) (hi : (s.phase i).usesTemporary = true)
    (hholds : TemporaryHolds (texts i) s.temporary phase)
    (hreplaced : phase.hasReplaced = (s.phase i).hasReplaced) :
    ReplacementLaw texts start (s.goTo i phase) :=
  h.goTo (fun _ => h.others hi) (.inl rfl) hholds hreplaced

/-- **A call puts its text into the target.** -/
theorem replace (h : ReplacementLaw texts start s) (hi : (s.phase i).usesTemporary = true)
    (hnot : (s.phase i).hasReplaced = false) (hreplaced : phase.hasReplaced = true)
    {content : Bytes} (htext : texts i = some content)
    (hholds : TemporaryHolds (texts i) temporary phase) :
    ReplacementLaw texts start
      { (s.goTo i phase).replace i (some content) with temporary } := by
  refine ⟨h.alone_goTo fun _ => h.others hi, h.holds_goTo (.inr (h.others hi)) hholds,
    fun change hchange => ?_, ?_, fun j => ?_⟩
  · rcases List.mem_append.mp hchange with hold | hnew
    · exact h.complete change hold
    · obtain rfl := List.mem_singleton.mp hnew
      exact ⟨content, htext, rfl⟩
  · show some content = ((s.changes ++ [(i, some content)]).getLast?.map Prod.snd).getD start
    rw [List.getLast?_concat]
    rfl
  · have hcount := h.count j
    simp only [Replacement.replace, Replacement.goTo, Function.update_apply, List.countP_append,
      List.countP_singleton, hcount]
    by_cases hji : j = i
    · subst hji
      simp [hnot, hreplaced]
    · simp [hji, Ne.symm hji]

/-- **Every undisturbed step keeps the law.** -/
theorem step (h : ReplacementLaw texts start s) {a : FileStep} (ha : Undisturbed s a) :
    ReplacementLaw texts start (fileStep texts s a) := by
  cases a with
  | createDirectories i ok =>
    unfold fileStep
    dsimp only
    split
    · next hi =>
      refine h.goTo (fun huses => ?_) (.inl rfl) ?_ ?_
      · cases ok <;> cases huses
      · cases ok <;> trivial
      · rw [hi]
        cases ok <;> rfl
    · exact h
  | openTemporary i ok =>
    unfold fileStep
    dsimp only
    split
    · next hi =>
      cases ok with
      | true => exact h.goTo (fun _ => ha) (.inr ha) ⟨Nat.zero_le _, rfl⟩ (by rw [hi]; rfl)
      | false => exact h.goTo (fun huses => by cases huses) (.inl rfl) trivial (by rw [hi]; rfl)
    · exact h
  | write i count =>
    unfold fileStep
    dsimp only
    split
    · next offset text hi htext =>
      have huses : (s.phase i).usesTemporary = true := by rw [hi]; rfl
      have hholds := h.holds i
      rw [hi, htext] at hholds
      exact h.goTo (fun _ => h.others huses) (.inr (h.others huses))
        (htext ▸ temporaryHolds_write hholds count) (by rw [hi]; rfl)
    · next offset hi htext =>
      exact h.goTo_of_uses (by rw [hi]; rfl) trivial (by rw [hi]; rfl)
    · exact h
  | endStream i good =>
    unfold fileStep
    dsimp only
    split
    · next offset text hi htext =>
      have huses : (s.phase i).usesTemporary = true := by rw [hi]; rfl
      split_ifs with hgood hwhole
      · exact h.goTo_of_uses huses trivial (by rw [hi]; rfl)
      · refine h.goTo_of_uses huses ⟨text, htext, ?_⟩ (by rw [hi]; rfl)
        have hholds := h.holds i
        rw [hi, htext, hwhole] at hholds
        rw [hholds.2, Option.getD_some, List.take_length]
      · exact h
    · exact h
  | discard i removed =>
    unfold fileStep
    dsimp only
    split
    · next hi =>
      have huses : (s.phase i).usesTemporary = true := by rw [hi]; rfl
      exact h.goTo (fun _ => h.others huses) (.inr (h.others huses)) trivial (by rw [hi]; rfl)
    · exact h
  | rename i ok =>
    unfold fileStep
    dsimp only
    split
    · next content hi htemporary =>
      have huses : (s.phase i).usesTemporary = true := by rw [hi]; rfl
      have hholds := h.holds i
      rw [hi] at hholds
      split_ifs with hok
      · obtain ⟨text, htext, hcontent⟩ := hholds
        obtain rfl := Option.some.inj (htemporary.symm.trans hcontent)
        exact h.replace huses (by rw [hi]; rfl) rfl htext trivial
      · exact h.goTo_of_uses huses hholds (by rw [hi]; rfl)
    · next hi htemporary =>
      have hholds := h.holds i
      rw [hi] at hholds
      exact h.goTo_of_uses (by rw [hi]; rfl) hholds (by rw [hi]; rfl)
    · exact h
  | copy i outcome =>
    unfold fileStep
    dsimp only
    split
    · next content hi htemporary =>
      have hholds := h.holds i
      rw [hi] at hholds
      obtain ⟨text, htext, hcontent⟩ := hholds
      obtain rfl := Option.some.inj (htemporary.symm.trans hcontent)
      exact h.replace (by rw [hi]; rfl) (by rw [hi]; rfl) rfl htext trivial
    · next left hi =>
      have hleft : left = s.target := ha
      rw [if_pos hleft]
      exact h.goTo_of_uses (by rw [hi]; rfl) trivial (by rw [hi]; rfl)
    · exact h
  | removeTemporary i removed =>
    unfold fileStep
    dsimp only
    split
    · next ok hi =>
      have huses : (s.phase i).usesTemporary = true := by rw [hi]; rfl
      exact h.goTo (fun _ => h.others huses) (.inr (h.others huses)) trivial (by rw [hi]; rfl)
    · exact h

end ReplacementLaw

end Law

/-- **Atomic replacement**, in every run whose steps are undisturbed. -/
theorem replacement_of_undisturbed {texts : ℕ → Option Bytes} {start temporary : Option Bytes}
    {s : Replacement} (h : (fileSystem texts start temporary).ReachableBy Undisturbed s) :
    AtomicReplacement texts start s :=
  (h.invariant (ReplacementLaw.init texts start temporary) fun _ _ hlaw ha => hlaw.step ha).atomic

/-! ## One call alone -/

/-- The steps of a single call that go as given. -/
def stepsOf (steps : WriteSteps) (text : Bytes) : List FileStep :=
  [.createDirectories 0 steps.createDirectories, .openTemporary 0 steps.openTemporary,
   .write 0 text.length, .endStream 0 steps.streamGood, .discard 0 true, .rename 0 steps.rename,
   .copy 0 steps.copyFile, .removeTemporary 0 true]

/-- One call alone leaves and answers what `writeDocument` says. -/
theorem run_stepsOf (steps : WriteSteps) (text : Bytes) (target temporary : Option Bytes) :
    let T := fileSystem (fun _ => some text) target temporary
    let s := T.run T.init (stepsOf steps text)
    (s.target, s.phase 0) =
      ((writeDocument steps text target).1, .returned (writeDocument steps text target).2) := by
  obtain ⟨directories, opens, good, renames, copies⟩ := steps
  have hwhole : writeAt [] 0 text = text := writeAt_length [] text
  cases directories with
  | false => rfl
  | true =>
    cases opens with
    | false => rfl
    | true =>
      cases good with
      | false =>
        simp [stepsOf, TransitionSystem.run, fileSystem, fileStep, writeDocument,
          Replacement.goTo]
      | true =>
        cases renames with
        | true =>
          simp [stepsOf, TransitionSystem.run, fileSystem, fileStep, writeDocument,
            Replacement.goTo, Replacement.replace, hwhole]
        | false =>
          cases copies with
          | copied =>
            simp [stepsOf, TransitionSystem.run, fileSystem, fileStep, writeDocument,
              Replacement.goTo, Replacement.replace, hwhole]
          | failed left =>
            simp [stepsOf, TransitionSystem.run, fileSystem, fileStep, writeDocument,
              Replacement.goTo, Replacement.replace, hwhole]
            split_ifs with hleft <;> simp [hleft]

/-! ### Runs -/

/-- One call whose rename fails and whose copy works. -/
def copiedRun : List FileStep := stepsOf { rename := false } [98]

theorem replacement_copiedRun :
    AtomicReplacement (fun _ => some [98]) (some [97])
      ((fileSystem (fun _ => some [98]) (some [97]) none).run
        (fileSystem (fun _ => some [98]) (some [97]) none).init copiedRun) := by
  refine replacement_of_undisturbed (TransitionSystem.ReachableBy.init.run copiedRun
    ⟨trivial, fun j hj => ?_, trivial, trivial, trivial, trivial, trivial, trivial, trivial⟩)
  simp [fileSystem, fileStep, Replacement.goTo, Function.update_of_ne hj, WritePhase.usesTemporary]

/-- The rename fails, and the copy breaks off when it has emptied the target. -/
def brokenCopy : List FileStep := stepsOf { rename := false, copyFile := .failed (some []) } [98]

/-- Two calls have the temporary file open at once, and the one that wrote last is renamed. -/
def overlappingCalls : List FileStep :=
  [.createDirectories 0 true, .openTemporary 0 true, .createDirectories 1 true,
   .openTemporary 1 true, .write 0 2, .endStream 0 true, .write 1 1, .endStream 1 true,
   .rename 1 true]

def twoTexts : ℕ → Option Bytes
  | 0 => some [97, 97]
  | _ => some [98]

/-- Neither what was there nor a whole text is left. -/
theorem target_mangled :
    ¬ AtomicReplacement (fun _ => some [98]) (some [97])
        ((fileSystem (fun _ => some [98]) (some [97]) none).run
          (fileSystem (fun _ => some [98]) (some [97]) none).init brokenCopy) ∧
      ¬ AtomicReplacement twoTexts none
        ((fileSystem twoTexts none none).run (fileSystem twoTexts none none).init
          overlappingCalls) := by
  constructor
  · intro atomic
    obtain ⟨text, htext, hchange⟩ := atomic.complete (0, some []) (by decide)
    cases htext
    cases hchange
  · intro atomic
    obtain ⟨text, htext, hchange⟩ := atomic.complete (1, some [98, 97]) (by decide)
    cases htext
    cases hchange

end Configuration
end MasterControl
