import MasterControl.Foundation.Runs
import Mathlib.Data.List.Dedup
import Mathlib.Data.List.Sort
import Mathlib.Logic.Function.Basic

/-!
# Module entitlements

Which modules are unlocked is kept in a file and in memory.  `setModuleUnlocked` reads the file,
changes one entry, writes the file and reads it again; `refreshEntitlements`, which the watcher
calls as well, reads the file and puts what it read in place.  No lock is held from one of these
actions to the next, and what cannot be read counts as the default state.

A change is *promised* from its write on.  In a run in which no read and no write fails and no
call writes while another one holds what it has read (`Undisturbed`), the file, every state that
a call holds and the memory keep all promises (`Kept`), so a module is as the last change left it,
and no other module or product has changed (`entitlements_survive`).
-/

namespace MasterControl
namespace Configuration
namespace Entitlements

open Foundation

/-! ## States and the file -/

structure EntitlementStateDocument where
  unlockedModuleIDs : List String := []
  unlockedProductIDs : List String := []
  deriving DecidableEq

/-- `isUnlocked`, for the state in memory. -/
def EntitlementStateDocument.unlocks (state : EntitlementStateDocument) (id : String) : Bool :=
  state.unlockedModuleIDs.contains id || state.unlockedProductIDs.contains id

/-- Sorted, and every entry once. -/
def sortUnique (ids : List String) : List String := (ids.mergeSort fun a b => a ≤ b).dedup

/-- The change of one module. -/
def EntitlementStateDocument.withModule (state : EntitlementStateDocument) (moduleId : String)
    (unlocked : Bool) : EntitlementStateDocument :=
  { state with
    unlockedModuleIDs := sortUnique
      (state.unlockedModuleIDs.filter (fun id => id ≠ moduleId) ++
        if unlocked then [moduleId] else []) }

/-- What the file holds.  `unreadable` is what no JSON value, or an empty one, is read from, and
`foreign` a value that is no entitlement state. -/
inductive StateFile where
  | absent
  | unreadable
  | foreign
  | document (state : EntitlementStateDocument)
  deriving DecidableEq

/-- How a write ends: `writeJsonFile` may leave the old file, a partial copy or anything else. -/
inductive SaveOutcome where
  | written
  | failed (left : StateFile)
  deriving DecidableEq

def SaveOutcome.save (outcome : SaveOutcome) (state : EntitlementStateDocument) : StateFile :=
  match outcome with
  | .written => .document state
  | .failed left => left

/-- What a read takes the state to be: the default state if the read fails or finds nothing;
`none` if it throws. -/
def readState (defaultState : EntitlementStateDocument) (fails : Bool) (file : StateFile) :
    Option EntitlementStateDocument :=
  if fails then some defaultState
  else
    match file with
    | .absent => some defaultState
    | .unreadable => some defaultState
    | .foreign => none
    | .document state => some state

/-! ## Calls in progress -/

/-- A change, up to its write, or a refresh, alone or at the end of the change of a module. -/
inductive Task where
  | setModuleUnlocked (moduleId : String) (unlocked : Bool)
  | refreshEntitlements (after : Option String)
  deriving DecidableEq

/-- Where a thread is: it has yet to look whether the file exists, to create it, to read it, to
write what it has read and changed, or to put in place what it has read. -/
inductive Activity where
  | idle
  | ensuring (task : Task)
  | creating (task : Task)
  | reading (task : Task)
  | writing (moduleId : String) (unlocked : Bool) (state : EntitlementStateDocument)
  | publishing (after : Option String) (state : EntitlementStateDocument)
  deriving DecidableEq

/-- What a thread has read and not yet used. -/
def Activity.held : Activity → Option EntitlementStateDocument
  | .writing _ _ state => some state
  | .publishing _ state => some state
  | _ => none

/-- The module whose change a task belongs to, once it is written. -/
def Task.after : Task → Option String
  | .setModuleUnlocked _ _ => none
  | .refreshEntitlements after => after

/-- The module whose change a thread has written and not yet put in place. -/
def Activity.written : Activity → Option String
  | .ensuring task => task.after
  | .creating task => task.after
  | .reading task => task.after
  | .publishing after _ => after
  | _ => none

/-- The module that a task changes. -/
def Task.changes : Task → Option String
  | .setModuleUnlocked moduleId _ => some moduleId
  | .refreshEntitlements after => after

/-- The module whose change a thread is at. -/
def Activity.changes : Activity → Option String
  | .idle => none
  | .ensuring task => task.changes
  | .creating task => task.changes
  | .reading task => task.changes
  | .writing moduleId _ _ => some moduleId
  | .publishing after _ => after

/-- The provider with its threads.  `promised` is what callers may rely on: the status that the
last change of an id has given it, or that it had at the start, since the last edit of the file
by somebody else. -/
structure Provider where
  file : StateFile
  unlocked : EntitlementStateDocument
  threads : ℕ → Activity
  promised : String → Option Bool

def Provider.isUnlocked (s : Provider) (moduleIDOrProductID : String) : Bool :=
  s.unlocked.unlocks moduleIDOrProductID

/-- A change of this module has been called and has not returned. -/
def Provider.Changing (s : Provider) (id : String) : Prop := ∃ t, (s.threads t).changes = some id

/-- A call, the next action of a thread, with what the file system does with it, or an edit of the
file from outside. -/
inductive Step where
  | setModuleUnlocked (thread : ℕ) (moduleId : String) (unlocked : Bool)
  | refreshEntitlements (thread : ℕ)
  | advance (thread : ℕ) (readFails : Bool) (outcome : SaveOutcome)
  | edit (content : StateFile)

/-- A thread that has nothing else to do starts a task. -/
def Provider.begin (thread : ℕ) (task : Task) (s : Provider) : Provider :=
  match s.threads thread with
  | .idle => { s with threads := Function.update s.threads thread (.ensuring task) }
  | _ => s

/-- A call that throws promises nothing. -/
def forget (after : Option String) (promised : String → Option Bool) : String → Option Bool :=
  match after with
  | none => promised
  | some moduleId => Function.update promised moduleId none

/-- The next action of a thread. -/
def Provider.advance (defaultState : EntitlementStateDocument) (thread : ℕ) (readFails : Bool)
    (outcome : SaveOutcome) (s : Provider) : Provider :=
  match s.threads thread with
  | .idle => s
  | .ensuring task =>
    let next := if s.file = .absent then .creating task else .reading task
    { s with threads := Function.update s.threads thread next }
  | .creating task =>
    { s with
      file := outcome.save defaultState
      threads := Function.update s.threads thread (.reading task) }
  | .reading task =>
    match readState defaultState readFails s.file with
    | none =>
      { s with
        threads := Function.update s.threads thread .idle
        promised := forget task.after s.promised }
    | some state =>
      let next : Activity :=
        match task with
        | .setModuleUnlocked moduleId unlocked => .writing moduleId unlocked state
        | .refreshEntitlements after => .publishing after state
      { s with threads := Function.update s.threads thread next }
  | .writing moduleId unlocked state =>
    { s with
      file := outcome.save (state.withModule moduleId unlocked)
      threads := Function.update s.threads thread (.ensuring (.refreshEntitlements (some moduleId)))
      promised := Function.update s.promised moduleId (some unlocked) }
  | .publishing _ state =>
    { s with unlocked := state, threads := Function.update s.threads thread .idle }

def Provider.step (defaultState : EntitlementStateDocument) (s : Provider) : Step → Provider
  | .setModuleUnlocked thread moduleId unlocked =>
    s.begin thread (.setModuleUnlocked moduleId unlocked)
  | .refreshEntitlements thread => s.begin thread (.refreshEntitlements none)
  | .advance thread readFails outcome => s.advance defaultState thread readFails outcome
  | .edit content => { s with file := content, promised := fun _ => none }

/-- The provider from its construction on, which has read the file. -/
def provider (defaultState state : EntitlementStateDocument) : TransitionSystem Provider Step where
  init :=
    { file := .document state, unlocked := state, threads := fun _ => .idle,
      promised := fun id => some (state.unlocks id) }
  step := Provider.step defaultState

/-! ## Promises -/

/-- Nothing disturbs the next action: the file is created only if it is still missing, a read
succeeds and finds a state, and a write succeeds, while no other thread holds what it has read;
and no module is to be locked whose id is that of an unlocked product. -/
def Undisturbed (s : Provider) : Step → Prop
  | .advance thread readFails outcome =>
    match s.threads thread with
    | .creating _ => outcome = .written ∧ s.file = .absent
    | .reading _ => readFails = false ∧ ∃ state, s.file = .document state
    | .writing moduleId unlocked state =>
      outcome = .written ∧ (∀ other, other ≠ thread → (s.threads other).held = none) ∧
        (unlocked = true ∨ state.unlockedProductIDs.contains moduleId = false)
    | _ => True
  | _ => True

/-- What callers may rely on. -/
structure Survives (s : Provider) : Prop where
  /-- An id is as it was promised, unless its change is in progress. -/
  unlocked : ∀ id status, s.promised id = some status → ¬ s.Changing id → s.isUnlocked id = status
  /-- The file says so, too; nothing but the promised states has been written. -/
  stored : ∀ id status, s.promised id = some status →
    ∃ state, s.file = .document state ∧ state.unlocks id = status

/-- The file, every state that is held and the memory keep the promises; the memory comes last. -/
structure Kept (s : Provider) : Prop where
  stored : ∀ id status, s.promised id = some status →
    ∃ state, s.file = .document state ∧ state.unlocks id = status
  held : ∀ id status, s.promised id = some status →
    ∀ t state, (s.threads t).held = some state → state.unlocks id = status
  shown : ∀ id status, s.promised id = some status →
    (∀ t, (s.threads t).written ≠ some id) → s.unlocked.unlocks id = status

theorem mem_sortUnique {id : String} {ids : List String} : id ∈ sortUnique ids ↔ id ∈ ids := by
  rw [sortUnique, List.mem_dedup, List.mem_mergeSort]

/-- A change leaves the other ids alone. -/
theorem unlocks_withModule_of_ne (state : EntitlementStateDocument) {moduleId id : String}
    (unlocked : Bool) (h : id ≠ moduleId) :
    (state.withModule moduleId unlocked).unlocks id = state.unlocks id := by
  have hmem : (state.withModule moduleId unlocked).unlockedModuleIDs.contains id =
      state.unlockedModuleIDs.contains id := by
    rw [Bool.eq_iff_iff, List.contains_iff_mem, List.contains_iff_mem,
      EntitlementStateDocument.withModule, mem_sortUnique, List.mem_append, List.mem_filter]
    cases unlocked <;> simp [h]
  rw [EntitlementStateDocument.unlocks, hmem]
  rfl

/-- A change takes effect, unless a product of that id stays unlocked. -/
theorem unlocks_withModule_self (state : EntitlementStateDocument) {moduleId : String}
    {unlocked : Bool}
    (h : unlocked = true ∨ state.unlockedProductIDs.contains moduleId = false) :
    (state.withModule moduleId unlocked).unlocks moduleId = unlocked := by
  have hmem : (state.withModule moduleId unlocked).unlockedModuleIDs.contains moduleId =
      unlocked := by
    rw [Bool.eq_iff_iff, List.contains_iff_mem, EntitlementStateDocument.withModule,
      mem_sortUnique, List.mem_append, List.mem_filter]
    cases unlocked <;> simp
  have hproducts : (state.withModule moduleId unlocked).unlockedProductIDs =
      state.unlockedProductIDs := rfl
  rw [EntitlementStateDocument.unlocks, hmem, hproducts]
  rcases h with rfl | h
  · rfl
  · rw [h, Bool.or_false]

/-! ## What the actions keep -/

variable {defaultState : EntitlementStateDocument} {s : Provider}

theorem kept_of_no_promises (h : ∀ id, s.promised id = none) : Kept s where
  stored id status hid := by
    rw [h id] at hid
    cases hid
  held id status hid := by
    rw [h id] at hid
    cases hid
  shown id status hid := by
    rw [h id] at hid
    cases hid

/-- A thread may go on to hold a state that keeps the promises, if it does not drop a change that
is not in place yet. -/
theorem Kept.move (h : Kept s) {thread : ℕ} {next : Activity}
    (hheld : ∀ state, next.held = some state →
      ∀ id status, s.promised id = some status → state.unlocks id = status)
    (hwritten : ∀ id, (s.threads thread).written = some id → next.written = some id) :
    Kept { s with threads := Function.update s.threads thread next } where
  stored := h.stored
  held id status hid t state hstate := by
    dsimp only at hstate
    by_cases ht : t = thread
    · subst ht
      rw [Function.update_self] at hstate
      exact hheld state hstate id status hid
    · rw [Function.update_of_ne ht] at hstate
      exact h.held id status hid t state hstate
  shown id status hid hnone := by
    refine h.shown id status hid fun t ht => hnone t ?_
    dsimp only
    by_cases hthread : t = thread
    · subst hthread
      rw [Function.update_self]
      exact hwritten id ht
    · rwa [Function.update_of_ne hthread]

theorem Kept.begin (h : Kept s) (thread : ℕ) (task : Task) : Kept (s.begin thread task) := by
  unfold Provider.begin
  split
  · rename_i hidle
    refine h.move (fun state hstate => by cases hstate) fun id hid => ?_
    rw [hidle] at hid
    cases hid
  · exact h

/-- A missing file is created when nothing is promised. -/
theorem Kept.create (h : Kept s) (habsent : s.file = .absent) (outcome : SaveOutcome)
    (thread : ℕ) (next : Activity) :
    Kept { s with
      file := outcome.save defaultState, threads := Function.update s.threads thread next } := by
  refine kept_of_no_promises fun id => ?_
  cases hid : s.promised id with
  | none => rfl
  | some status =>
    obtain ⟨state, hfile, -⟩ := h.stored id status hid
    rw [habsent] at hfile
    cases hfile

/-- A write by the only thread that holds a state changes one promise and keeps the others. -/
theorem Kept.write (h : Kept s) {thread : ℕ} {moduleId : String} {unlocked : Bool}
    {state : EntitlementStateDocument}
    (hthread : s.threads thread = .writing moduleId unlocked state)
    (halone : ∀ other, other ≠ thread → (s.threads other).held = none)
    (hproduct : unlocked = true ∨ state.unlockedProductIDs.contains moduleId = false) :
    Kept { s with
      file := .document (state.withModule moduleId unlocked)
      threads := Function.update s.threads thread
        (.ensuring (.refreshEntitlements (some moduleId)))
      promised := Function.update s.promised moduleId (some unlocked) } where
  stored id status hid := by
    refine ⟨_, rfl, ?_⟩
    dsimp only at hid
    by_cases hmodule : id = moduleId
    · subst hmodule
      rw [Function.update_self] at hid
      rw [← Option.some.inj hid]
      exact unlocks_withModule_self state hproduct
    · rw [Function.update_of_ne hmodule] at hid
      rw [unlocks_withModule_of_ne state unlocked hmodule]
      refine h.held id status hid thread state ?_
      rw [hthread]
      rfl
  held id status hid t other hother := by
    dsimp only at hother
    by_cases ht : t = thread
    · subst ht
      rw [Function.update_self] at hother
      cases hother
    · rw [Function.update_of_ne ht, halone t ht] at hother
      cases hother
  shown id status hid hnone := by
    by_cases hmodule : id = moduleId
    · -- this module's change is not in place yet
      subst hmodule
      refine absurd ?_ (hnone thread)
      dsimp only
      rw [Function.update_self]
      rfl
    · dsimp only at hid
      rw [Function.update_of_ne hmodule] at hid
      refine h.shown id status hid fun t ht => hnone t ?_
      dsimp only
      by_cases hthread' : t = thread
      · subst hthread'
        rw [hthread] at ht
        cases ht
      · rwa [Function.update_of_ne hthread']

/-- What a thread holds may be put in place. -/
theorem Kept.publish (h : Kept s) {thread : ℕ} {state : EntitlementStateDocument}
    (hheld : (s.threads thread).held = some state) :
    Kept { s with unlocked := state, threads := Function.update s.threads thread .idle } where
  stored := h.stored
  held id status hid t other hother := by
    dsimp only at hother
    by_cases ht : t = thread
    · subst ht
      rw [Function.update_self] at hother
      cases hother
    · rw [Function.update_of_ne ht] at hother
      exact h.held id status hid t other hother
  shown id status hid _ := h.held id status hid thread state hheld

theorem Kept.advance (h : Kept s) {thread : ℕ} {readFails : Bool} {outcome : SaveOutcome}
    (hstep : Undisturbed s (.advance thread readFails outcome)) :
    Kept (s.advance defaultState thread readFails outcome) := by
  unfold Provider.advance
  simp only [Undisturbed] at hstep
  cases hactivity : s.threads thread with
  | idle => exact h
  | ensuring task =>
    have hwritten : (s.threads thread).written = task.after := by
      rw [hactivity]
      rfl
    refine h.move (fun state hstate => ?_) fun id hid => ?_
    · split at hstate <;> cases hstate
    · rw [hwritten] at hid
      split <;> exact hid
  | creating task =>
    rw [hactivity] at hstep
    exact h.create hstep.2 outcome thread _
  | reading task =>
    rw [hactivity] at hstep
    obtain ⟨rfl, state, hfile⟩ := hstep
    have hread : readState defaultState false s.file = some state := by
      rw [hfile]
      rfl
    have hkeeps : ∀ id status, s.promised id = some status → state.unlocks id = status := by
      intro id status hid
      obtain ⟨state', hfile', hstate'⟩ := h.stored id status hid
      rw [hfile] at hfile'
      cases hfile'
      exact hstate'
    dsimp only
    rw [hread]
    refine h.move (fun held hheld => ?_) fun id hid => ?_
    · cases task <;> cases hheld <;> exact hkeeps
    · rw [hactivity] at hid
      cases task with
      | setModuleUnlocked moduleId unlocked => cases hid
      | refreshEntitlements after => exact hid
  | writing moduleId unlocked state =>
    rw [hactivity] at hstep
    obtain ⟨rfl, halone, hproduct⟩ := hstep
    exact h.write hactivity halone hproduct
  | publishing after state =>
    refine h.publish ?_
    rw [hactivity]
    rfl

theorem Kept.step (h : Kept s) {step : Step} (hstep : Undisturbed s step) :
    Kept (s.step defaultState step) := by
  cases step with
  | setModuleUnlocked thread moduleId unlocked => exact h.begin thread _
  | refreshEntitlements thread => exact h.begin thread _
  | advance thread readFails outcome => exact h.advance hstep
  | edit content => exact kept_of_no_promises fun _ => rfl

theorem kept_init (defaultState state : EntitlementStateDocument) :
    Kept (provider defaultState state).init where
  stored id status hid := ⟨state, rfl, Option.some.inj hid⟩
  held id status _ t held hheld := by cases hheld
  shown id status hid _ := Option.some.inj hid

/-- A change that is written and not in place is in progress. -/
theorem Activity.changes_of_written {activity : Activity} {id : String}
    (h : activity.written = some id) : activity.changes = some id := by
  have htask : ∀ task : Task, task.after = some id → task.changes = some id := by
    intro task htask
    cases task with
    | setModuleUnlocked moduleId unlocked => cases htask
    | refreshEntitlements after => exact htask
  cases activity with
  | idle => cases h
  | ensuring task => exact htask task h
  | creating task => exact htask task h
  | reading task => exact htask task h
  | writing moduleId unlocked state => cases h
  | publishing after state => exact h

theorem Kept.survives (h : Kept s) : Survives s where
  unlocked id status hid hchanging :=
    h.shown id status hid fun t ht => hchanging ⟨t, Activity.changes_of_written ht⟩
  stored := h.stored

/-- **Entitlements survive** in every run in which nothing disturbs a thread between its reading
and its writing. -/
theorem entitlements_survive {state : EntitlementStateDocument}
    (h : (provider defaultState state).ReachableBy Undisturbed s) : Survives s :=
  (h.invariant (kept_init defaultState state) fun _ _ hs hstep => hs.step hstep).survives

/-! ### Two changes, one after the other and at once -/

/-- All actions of one change, undisturbed. -/
def wholeChange (thread : ℕ) (moduleId : String) (unlocked : Bool) : List Step :=
  .setModuleUnlocked thread moduleId unlocked ::
    List.replicate 6 (.advance thread false .written)

/-- Both read before either writes. -/
def changesAtOnce : List Step :=
  [.setModuleUnlocked 0 "export" true, .setModuleUnlocked 1 "telemetry" true] ++
    List.replicate 2 (.advance 0 false .written) ++ List.replicate 2 (.advance 1 false .written) ++
    List.replicate 4 (.advance 0 false .written) ++ List.replicate 4 (.advance 1 false .written)

/-- One undisturbed change of a module that was locked. -/
def changedProvider : Provider :=
  (provider {} {}).run (provider {} {}).init (wholeChange 0 "export" true)

theorem reachable_changedProvider : (provider {} {}).ReachableBy Undisturbed changedProvider := by
  refine TransitionSystem.ReachableBy.init.run _ ⟨trivial, trivial, ⟨rfl, {}, rfl⟩,
    ⟨rfl, fun other hother => ?_, Or.inl rfl⟩, trivial, ⟨rfl, _, rfl⟩, trivial, trivial⟩
  cases other with
  | zero => exact absurd rfl hother
  | succ other => rfl

theorem survives_changedProvider :
    Survives changedProvider ∧ changedProvider.isUnlocked "export" = true :=
  ⟨entitlements_survive reachable_changedProvider, by decide +kernel⟩

/-- The second of two changes at once is written over the first, and both have returned. -/
theorem lost_change :
    ¬ ∀ s, (provider {} {}).Reachable s → Survives s := by
  intro h
  have hsurvives := h _ (TransitionSystem.Reachable.run TransitionSystem.ReachableBy.init
    changesAtOnce)
  have hlost := hsurvives.unlocked "export" true (by decide +kernel) ?_
  · exact absurd hlost (by decide +kernel)
  · rintro ⟨_ | _ | t, ht⟩
    · cases ht
    · cases ht
    · cases ht

end Entitlements
end Configuration
end MasterControl
