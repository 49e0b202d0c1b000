import MasterControl.Foundation.Processes
import MasterControl.Worker.PersistentContext

/-!
# When the context is one shared map

A process that reads while another has the file truncated takes the empty or a torn file for the
empty map, and so does one whose open fails; a process that saves what it read before another
saved takes back what the other has set.  Where none of this happens, the processes together are
one map: every call is answered as if it had taken effect alone at that moment
(`contextIsShared_of_reachable`).

The invariant (`ContextLaw`) says what the file holds: the map after the calls answered so far,
or, while a process saves, a first part of what it writes.
-/

namespace MasterControl
namespace Worker

open Foundation

variable {format : DocumentFormat} {start : ContextStore} {o : ContextWorkers} {i j : ℕ}
  {phase : ContextPhase} {call : ContextCall}

/-- Whether a process has truncated the file and not yet closed it. -/
def ContextPhase.isSaving : ContextPhase → Bool
  | .saving .. => true
  | .idle | .loaded .. => false

/-- Whether the file still holds what a process has read of it. -/
def ContextPhase.isCurrent (file : Option Bytes) : ContextPhase → Bool
  | .loaded _ content _ _ => file = content
  | .idle | .saving .. => true

/-- No process has the file open for writing. -/
def NobodySaving (o : ContextWorkers) : Prop := ∀ phase ∈ o.processes, phase.isSaving = false

/-- No open of an existing file fails. -/
def OpensWork (o : ContextWorkers) : ContextStep → Prop
  | .load _ _ opens => opens = true ∨ o.file = none
  | .truncate _ opens => opens = true
  | .write .. | .close _ => True

/-- No process opens the file while another has it open for writing, and none truncates it that
has not read what it holds now. -/
def OpensApart (o : ContextWorkers) : ContextStep → Prop
  | .load .. => NobodySaving o
  | .truncate i _ =>
    NobodySaving o ∧ ∀ phase ∈ o.processes[i]?, phase.isCurrent o.file = true
  | .write .. | .close _ => True

instance (o : ContextWorkers) : Decidable (NobodySaving o) :=
  inferInstanceAs (Decidable (∀ phase ∈ o.processes, phase.isSaving = false))

instance (o : ContextWorkers) (a : ContextStep) : Decidable (OpensWork o a) :=
  match a with
  | .load _ _ opens => inferInstanceAs (Decidable (opens = true ∨ o.file = none))
  | .truncate _ opens => inferInstanceAs (Decidable (opens = true))
  | .write .. | .close _ => isTrue trivial

instance (o : ContextWorkers) (a : ContextStep) : Decidable (OpensApart o a) :=
  match a with
  | .load .. => inferInstanceAs (Decidable (NobodySaving o))
  | .truncate i _ => inferInstanceAs (Decidable (NobodySaving o ∧
      ∀ phase ∈ o.processes[i]?, phase.isCurrent o.file = true))
  | .write .. | .close _ => isTrue trivial

/-- What sharing the map means: the calls are answered by one map; a value that was set is what
every later `ctx.get` answers until a call writes its key; and the file holds the map whenever no
process is saving. -/
structure ContextIsShared (format : DocumentFormat) (start : ContextStore) (o : ContextWorkers) :
    Prop where
  legal : sharedMap.Legal start o.history
  kept : ∀ (before between rest : List (ContextCall × Json)) (call : ContextCall) (key : String)
    (value result shown : Json), call.sets = some (key, value) →
      o.history = before ++ (call, result) :: (between ++ (.get key, shown) :: rest) →
        (∀ e ∈ between, e.1.writes key = false) → shown = getAnswer key value
  onDisk : NobodySaving o →
    loadPersistentContext format o.file = sharedMap.after start o.history

/-! ## The invariant -/

/-- What the file is while a process saves. -/
def Saves (format : DocumentFormat) (start : ContextStore) (o : ContextWorkers)
    (call : ContextCall) (result : Json) (offset : ℕ) (rest : Bytes) : Prop :=
  ∃ store done, call.perform (sharedMap.after start o.history) = (result, some store) ∧
    store ∈ o.written ∧ o.file = some done ∧ done.length = offset ∧
    done ++ rest = savedText format store

/-- At most one process has the file open for writing. -/
def AtMostOneSaving (processes : List ContextPhase) : Prop :=
  ∀ (i j : ℕ) (p q : ContextPhase), processes[i]? = some p → processes[j]? = some q →
    p.isSaving = true → q.isSaving = true → i = j

/-- The invariant of the processes over the file. -/
structure ContextLaw (format : DocumentFormat) (start : ContextStore) (o : ContextWorkers) :
    Prop where
  legal : sharedMap.Legal start o.history
  loaded : ∀ call content result store, .loaded call content result store ∈ o.processes →
    call.perform (loadPersistentContext format content) = (result, some store)
  saves : ∀ call result offset rest, .saving call result offset rest ∈ o.processes →
    Saves format start o call result offset rest
  alone : AtMostOneSaving o.processes
  quiet : NobodySaving o →
    loadPersistentContext format o.file = sharedMap.after start o.history

theorem ContextLaw.shared (h : ContextLaw format start o) : ContextIsShared format start o where
  legal := h.legal
  kept before between rest call key value result shown hsets heq hbetween := by
    have hlegal := h.legal
    rw [heq] at hlegal
    exact get_after_set hlegal hsets hbetween
  onDisk := h.quiet

theorem contextLaw_init (format : DocumentFormat) (file : Option Bytes) (processes : ℕ) :
    ContextLaw format (loadPersistentContext format file)
      (contextSystem format file processes).init where
  legal := trivial
  loaded call content result store hphase := by cases List.eq_of_mem_replicate hphase
  saves call result offset rest hphase := by cases List.eq_of_mem_replicate hphase
  alone i j p q hi _ hsaving := by
    rw [List.eq_of_mem_replicate (List.mem_of_getElem? hi)] at hsaving
    cases hsaving
  quiet _ := rfl

/-! ## A process goes on -/

/-- After a process goes over to another phase, still only one of them saves. -/
theorem atMostOneSaving_set {processes : List ContextPhase} {new : ContextPhase}
    (h : AtMostOneSaving processes)
    (hnew : new.isSaving = true → ∀ (j : ℕ) (p : ContextPhase), processes[j]? = some p →
      p.isSaving = true → i = j) : AtMostOneSaving (processes.set i new) := by
  intro j k p q hj hk hp hq
  rcases getElem?_set_cases hj with ⟨hij, hpnew⟩ | ⟨hij, hold⟩
  · rcases getElem?_set_cases hk with ⟨hik, -⟩ | ⟨hik, hold⟩
    · exact hij.symm.trans hik
    · exact absurd (hnew (hpnew ▸ hp) k q hold hq) hik
  · rcases getElem?_set_cases hk with ⟨hik, hqnew⟩ | ⟨hik, hold'⟩
    · exact absurd (hnew (hqnew ▸ hq) j p hold hp) hij
    · exact h j k p q hold hold' hp hq

namespace ContextLaw

/-- Once a process that saves has gone over to another phase, none is saving. -/
theorem nobody_after (h : ContextLaw format start o) (hi : o.processes[i]? = some phase)
    (hphase : phase.isSaving = true) {new : ContextPhase} (hnew : new.isSaving = false) :
    ∀ p ∈ o.processes.set i new, p.isSaving = false := by
  intro p hp
  rcases mem_set_cases hp with ⟨j, hij, hj⟩ | rfl
  · by_contra hsaving
    exact hij (h.alone i j phase p hi hj hphase (by simpa using hsaving))
  · exact hnew

/-- **A call is answered that saves nothing**, while nobody saves. -/
theorem answer_of_quiet (h : ContextLaw format start o) (hquiet : NobodySaving o)
    {result : Json}
    (hperform : call.perform (sharedMap.after start o.history) = (result, none)) :
    ContextLaw format start (o.answer i call result) := by
  have hafter : sharedMap.after start (o.history ++ [(call, result)]) =
      sharedMap.after start o.history := by
    rw [SequentialObject.after_concat]
    show call.leaves _ = _
    rw [ContextCall.leaves, hperform]
    rfl
  refine ⟨?_, fun call content result store hmem => ?_, fun call result offset rest hmem => ?_,
    ?_, fun _ => ?_⟩
  · refine (SequentialObject.legal_concat _ _ _).mpr ⟨h.legal, ?_⟩
    show result = (call.perform _).1
    rw [hperform]
  · rcases List.mem_or_eq_of_mem_set hmem with hold | hnew
    · exact h.loaded call content result store hold
    · cases hnew
  · rcases List.mem_or_eq_of_mem_set hmem with hold | hnew
    · exact absurd (hquiet _ hold) (by simp [ContextPhase.isSaving])
    · cases hnew
  · exact atMostOneSaving_set h.alone fun hidle => by cases hidle
  · exact (h.quiet hquiet).trans hafter.symm

/-- **A process opens and reads the file.** -/
theorem load (h : ContextLaw format start o) (hquiet : NobodySaving o) {opens : Bool}
    (hopens : opens = true ∨ o.file = none) :
    ContextLaw format start (o.load format i call opens) := by
  have hcontent : (if opens then o.file else none) = o.file := by
    rcases hopens with rfl | hnone
    · exact if_pos rfl
    · rw [hnone, ite_self]
  unfold ContextWorkers.load
  rw [hcontent]
  dsimp only
  have hfile := h.quiet hquiet
  cases hperform : call.perform (loadPersistentContext format o.file) with
  | mk result saved =>
    cases saved with
    | none =>
      rw [hfile] at hperform
      exact h.answer_of_quiet hquiet hperform
    | some store =>
      dsimp only
      refine ⟨h.legal, fun call' content result' store' hmem => ?_,
        fun call' result' offset rest hmem => ?_, ?_, fun _ => hfile⟩
      · rcases List.mem_or_eq_of_mem_set hmem with hold | hnew
        · exact h.loaded call' content result' store' hold
        · cases hnew
          exact hperform
      · rcases List.mem_or_eq_of_mem_set hmem with hold | hnew
        · exact h.saves call' result' offset rest hold
        · cases hnew
      · exact atMostOneSaving_set h.alone fun hloaded => by cases hloaded

/-- **A process truncates the file** to save what it has made of its content. -/
theorem truncate (h : ContextLaw format start o) (hquiet : NobodySaving o)
    {content : Option Bytes} {result : Json} {store : ContextStore}
    (hi : o.processes[i]? = some (.loaded call content result store))
    (hcurrent : o.file = content) :
    ContextLaw format start
      { o.goTo i (.saving call result 0 (savedText format store)) with
        file := some [], written := o.written ++ [store] } := by
  have hperform : call.perform (sharedMap.after start o.history) = (result, some store) := by
    rw [← h.quiet hquiet, hcurrent]
    exact h.loaded call content result store (List.mem_of_getElem? hi)
  refine ⟨h.legal, fun call' content' result' store' hmem => ?_,
    fun call' result' offset rest hmem => ?_, ?_, fun hnobody => ?_⟩
  · rcases List.mem_or_eq_of_mem_set hmem with hold | hnew
    · exact h.loaded call' content' result' store' hold
    · cases hnew
  · rcases List.mem_or_eq_of_mem_set hmem with hold | hnew
    · exact absurd (hquiet _ hold) (by simp [ContextPhase.isSaving])
    · cases hnew
      exact ⟨store, [], hperform, List.mem_append_right _ (List.mem_singleton_self store), rfl,
        rfl, List.nil_append _⟩
  · refine atMostOneSaving_set h.alone fun _ j p hj hp => ?_
    have hno := hquiet p (List.mem_of_getElem? hj)
    rw [hp] at hno
    cases hno
  · -- the process itself is saving
    have hlt : i < o.processes.length := (List.getElem?_eq_some_iff.mp hi).1
    cases hnobody _ (List.mem_set hlt _)

/-- **Some more bytes go out.** -/
theorem write (h : ContextLaw format start o) {result : Json} {offset : ℕ} {rest : Bytes}
    (hi : o.processes[i]? = some (.saving call result offset rest)) (count : ℕ) :
    ContextLaw format start
      { o.goTo i (.saving call result (offset + (rest.take count).length) (rest.drop count)) with
        file := some (writeAt (o.file.getD []) offset (rest.take count)) } := by
  obtain ⟨store, done, hperform, hwritten, hfile, hdone, htext⟩ :=
    h.saves call result offset rest (List.mem_of_getElem? hi)
  have hgrown : writeAt (o.file.getD []) offset (rest.take count) = done ++ rest.take count := by
    rw [hfile, ← hdone]
    exact writeAt_length done _
  refine ⟨h.legal, fun call' content' result' store' hmem => ?_,
    fun call' result' offset' rest' hmem => ?_, ?_, fun hnobody => ?_⟩
  · rcases List.mem_or_eq_of_mem_set hmem with hold | hnew
    · exact h.loaded call' content' result' store' hold
    · cases hnew
  · rcases mem_set_cases hmem with ⟨j, hij, hj⟩ | hnew
    · exact absurd (h.alone i j _ _ hi hj rfl rfl) hij
    · cases hnew
      refine ⟨store, done ++ rest.take count, hperform, hwritten, congrArg some hgrown, ?_, ?_⟩
      · rw [List.length_append, hdone]
      · rw [List.append_assoc, List.take_append_drop, htext]
  · exact atMostOneSaving_set h.alone fun _ j p hj hp => h.alone i j _ p hi hj rfl hp
  · have hlt : i < o.processes.length := (List.getElem?_eq_some_iff.mp hi).1
    cases hnobody _ (List.mem_set hlt _)

/-- **The file is closed** when everything is written: the call has taken effect. -/
theorem close (h : ContextLaw format start o) {result : Json} {offset : ℕ}
    (hi : o.processes[i]? = some (.saving call result offset []))
    (hread : ∀ store ∈ o.written, ReadsBack format store) :
    ContextLaw format start (o.answer i call result) := by
  obtain ⟨store, done, hperform, hwritten, hfile, -, htext⟩ :=
    h.saves call result offset [] (List.mem_of_getElem? hi)
  have hnobody : ∀ p ∈ o.processes.set i .idle, p.isSaving = false := h.nobody_after hi rfl rfl
  refine ⟨?_, fun call' content result' store' hmem => ?_,
    fun call' result' offset' rest hmem => ?_, ?_, fun _ => ?_⟩
  · refine (SequentialObject.legal_concat _ _ _).mpr ⟨h.legal, ?_⟩
    show result = (call.perform _).1
    rw [hperform]
  · rcases List.mem_or_eq_of_mem_set hmem with hold | hnew
    · exact h.loaded call' content result' store' hold
    · cases hnew
  · cases hnobody _ hmem
  · exact atMostOneSaving_set h.alone fun hidle => by cases hidle
  · show loadPersistentContext format o.file =
      sharedMap.after start (o.history ++ [(call, result)])
    rw [SequentialObject.after_concat, hfile, ← List.append_nil done, htext, hread store hwritten]
    show store = call.leaves _
    rw [ContextCall.leaves, hperform, Option.getD_some]

/-- **Every step keeps the law** that works and comes alone. -/
theorem step (h : ContextLaw format start o) {a : ContextStep} (hopens : OpensWork o a)
    (hapart : OpensApart o a) (hread : ∀ store ∈ o.written, ReadsBack format store) :
    ContextLaw format start (contextStep format o a) := by
  cases a with
  | load i call opens =>
    unfold contextStep
    dsimp only
    split
    · exact h.load hapart hopens
    · exact h
  | truncate i opens =>
    unfold contextStep
    dsimp only
    split
    · next call content result store hi =>
      have hworks : opens = true := hopens
      rw [if_pos hworks]
      have hcurrent := hapart.2 _ hi
      exact h.truncate hapart.1 hi (of_decide_eq_true hcurrent)
    · exact h
  | write i count =>
    unfold contextStep
    dsimp only
    split
    · next call result offset rest hi => exact h.write hi count
    · exact h
  | close i =>
    unfold contextStep
    dsimp only
    split
    · next call result offset hi => exact h.close hi hread
    · exact h

end ContextLaw

/-- The stores that were written stay written. -/
theorem written_contextStep (format : DocumentFormat) (o : ContextWorkers) (a : ContextStep) :
    ∃ more, (contextStep format o a).written = o.written ++ more := by
  cases a with
  | load i call opens =>
    refine ⟨[], ?_⟩
    rw [List.append_nil, contextStep]
    split
    · unfold ContextWorkers.load
      dsimp only
      split <;> rfl
    · rfl
  | truncate i opens =>
    rw [contextStep]
    split
    · split
      · exact ⟨_, rfl⟩
      · exact ⟨[], (List.append_nil _).symm⟩
    · exact ⟨[], (List.append_nil _).symm⟩
  | write i count =>
    refine ⟨[], ?_⟩
    rw [List.append_nil, contextStep]
    split <;> rfl
  | close i =>
    refine ⟨[], ?_⟩
    rw [List.append_nil, contextStep]
    split <;> rfl

/-- **The context is one shared map** in every run in which no open of an existing file fails, no
process opens the file while another has it open for writing, and none truncates it that has not
read what it holds; as long as the library reads back what was written. -/
theorem contextIsShared_of_reachable {file : Option Bytes} {processes : ℕ}
    (h : (contextSystem format file processes).ReachableBy
      (fun o a => OpensWork o a ∧ OpensApart o a) o)
    (hread : ∀ store ∈ o.written, ReadsBack format store) :
    ContextIsShared format (loadPersistentContext format file) o := by
  refine ContextLaw.shared ?_
  refine h.invariant (I := fun o => (∀ store ∈ o.written, ReadsBack format store) →
    ContextLaw format (loadPersistentContext format file) o)
    (fun _ => contextLaw_init format file processes) (fun o a ho ha hread => ?_) hread
  obtain ⟨more, hmore⟩ := written_contextStep format o a
  have hread : ∀ store ∈ (contextStep format o a).written, ReadsBack format store := hread
  rw [hmore] at hread
  have hold : ∀ store ∈ o.written, ReadsBack format store := fun store hstore =>
    hread store (List.mem_append_left _ hstore)
  exact (ho hold).step ha.1 ha.2 hold

/-! ### Two processes and two notes -/

/-- A library that knows three documents. -/
def noteFormat : DocumentFormat where
  read content :=
    if content = asciiBytes "\x7b\n  \"a\": 1\n\x7d" then some (.object [("a", .integer 1)])
    else if content = asciiBytes "\x7b\n  \"b\": 2\n\x7d" then some (.object [("b", .integer 2)])
    else if content = asciiBytes "\x7b\n  \"a\": 1,\n  \"b\": 2\n\x7d" then
      some (.object [("a", .integer 1), ("b", .integer 2)])
    else none
  dump
    | .object [("a", _), ("b", _)] => asciiBytes "\x7b\n  \"a\": 1,\n  \"b\": 2\n\x7d"
    | .object [("a", _)] => asciiBytes "\x7b\n  \"a\": 1\n\x7d"
    | .object [("b", _)] => asciiBytes "\x7b\n  \"b\": 2\n\x7d"
    | _ => asciiBytes "\x7b\x7d"

def noteA : ContextStore := OrdMap.empty.insert "a" (.integer 1)

def noteB : ContextStore := OrdMap.empty.insert "b" (.integer 2)

def bothNotes : ContextStore := noteA.insert "b" (.integer 2)

theorem readsBack_notes {store : ContextStore} (h : store ∈ [noteA, noteB, bothNotes]) :
    ReadsBack noteFormat store := by
  simp only [List.mem_cons, List.not_mem_nil, or_false] at h
  rcases h with rfl | rfl | rfl
  · exact (rfl : loadPersistentContext noteFormat (some (savedText noteFormat noteA)) = noteA)
  · exact (rfl : loadPersistentContext noteFormat (some (savedText noteFormat noteB)) = noteB)
  · exact (rfl :
      loadPersistentContext noteFormat (some (savedText noteFormat bothNotes)) = bothNotes)

/-- Process 0 sets one note, process 1 the other, and process 0 reads its own. -/
def setInTurn : List ContextStep :=
  [.load 0 (.set "a" (.integer 1)) true, .truncate 0 true, .write 0 5, .write 0 100, .close 0,
   .load 1 (.set "b" (.integer 2)) true, .truncate 1 true, .write 1 100, .close 1,
   .load 0 (.get "a") true]

def twoNotes : ContextWorkers :=
  (contextSystem noteFormat none 2).run (contextSystem noteFormat none 2).init setInTurn

theorem contextIsShared_twoNotes :
    ContextIsShared noteFormat OrdMap.empty twoNotes ∧
      ∃ before, twoNotes.history = before ++ [(.get "a", getAnswer "a" (.integer 1))] := by
  have hreach : (contextSystem noteFormat none 2).ReachableBy
      (fun o a => OpensWork o a ∧ OpensApart o a) twoNotes :=
    TransitionSystem.ReachableBy.init.run _ (by decide +kernel)
  have hwritten : twoNotes.written = [noteA, bothNotes] := rfl
  have hread : ∀ store ∈ twoNotes.written, ReadsBack noteFormat store := by
    intro store hstore
    rw [hwritten] at hstore
    refine readsBack_notes ?_
    simp only [List.mem_cons, List.not_mem_nil, or_false] at hstore ⊢
    exact hstore.imp_right Or.inr
  exact ⟨contextIsShared_of_reachable hreach hread, _, rfl⟩

/-- The process that sets the second note cannot open the file for reading. -/
def oneReadFails : ContextWorkers :=
  (contextSystem noteFormat none 2).run (contextSystem noteFormat none 2).init
    [.load 0 (.set "a" (.integer 1)) true, .truncate 0 true, .write 0 100, .close 0,
     .load 1 (.set "b" (.integer 2)) false, .truncate 1 true, .write 1 100, .close 1,
     .load 0 (.get "a") true]

/-- Both processes read the file before either has written it. -/
def bothReadFirst : ContextWorkers :=
  (contextSystem noteFormat none 2).run (contextSystem noteFormat none 2).init
    [.load 0 (.set "a" (.integer 1)) true, .load 1 (.set "b" (.integer 2)) true,
     .truncate 0 true, .write 0 100, .close 0, .truncate 1 true, .write 1 100, .close 1,
     .load 0 (.get "a") true]

/-- A call is only taken up when no other is under way. -/
def OneAtATime (o : ContextWorkers) : ContextStep → Prop
  | .load .. => (o.processes.all fun phase => phase matches .idle) = true
  | _ => True

instance (o : ContextWorkers) (a : ContextStep) : Decidable (OneAtATime o a) :=
  match a with
  | .load .. =>
    inferInstanceAs (Decidable ((o.processes.all fun phase => phase matches .idle) = true))
  | .truncate .. | .write .. | .close _ => isTrue trivial

theorem context_loses_notes :
    (¬ ∀ o, (contextSystem noteFormat none 2).ReachableBy OneAtATime o →
      (∀ store ∈ o.written, ReadsBack noteFormat store) →
        ContextIsShared noteFormat OrdMap.empty o) ∧
    (¬ ∀ o, (contextSystem noteFormat none 2).ReachableBy OpensWork o →
      (∀ store ∈ o.written, ReadsBack noteFormat store) →
        ContextIsShared noteFormat OrdMap.empty o) := by
  have hlost : ∀ o, o.written = [noteA, noteB] →
      (∃ result result', o.history = [] ++ (ContextCall.set "a" (.integer 1), result) ::
        ([(.set "b" (.integer 2), result')] ++ [(.get "a", persistentCtxGet "a" noteB)])) →
      ((∀ store ∈ o.written, ReadsBack noteFormat store) →
        ContextIsShared noteFormat OrdMap.empty o) → False := by
    rintro o hwritten ⟨result, result', hhistory⟩ h
    have hshared := h fun store hstore => by
      rw [hwritten] at hstore
      refine readsBack_notes ?_
      simp only [List.mem_cons, List.not_mem_nil, or_false] at hstore ⊢
      exact hstore.imp_right Or.inl
    have hbetween : ∀ e ∈ [(ContextCall.set "b" (.integer 2), result')],
        e.1.writes "a" = false := by
      intro e he
      rw [List.mem_singleton.mp he]
      exact (by decide : decide ("b" = "a") = false)
    have hkept := hshared.kept _ _ _ _ _ _ _ _ rfl hhistory hbetween
    have hexists : persistentCtxGet "a" noteB ≠ getAnswer "a" (.integer 1) := nofun
    exact hexists hkept
  constructor
  · intro h
    refine hlost oneReadFails rfl ⟨_, _, rfl⟩ (h oneReadFails ?_)
    exact TransitionSystem.ReachableBy.init.run _ (by decide +kernel)
  · intro h
    refine hlost bothReadFirst rfl ⟨_, _, rfl⟩ (h bothReadFirst ?_)
    exact TransitionSystem.ReachableBy.init.run _ (by decide +kernel)

end Worker
end MasterControl
