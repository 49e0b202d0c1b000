import MasterControl.Diagnostics.Story
import Mathlib.Data.List.Nodup

/-!
# Steady runs

The invariant: the ring is the window, and where the store is open its table ends with the rows of
the window (`StoryLaw`).  A report appends to both, a clear filters both by the same bound, and a
prune that leaves the window alone changes only what is older.
-/

namespace MasterControl
namespace Diagnostics

open Foundation

variable {format : JsonText} {store : SqliteDiagnosticsStore} {io : StoreIO}
  {window : List DiagnosticsRecord} {record : DiagnosticsRecord} {s : Story} {r : Report}

/-! ## The end of the table -/

/-- The table ends with the rows of the window. -/
structure Persisted (format : JsonText) (store : SqliteDiagnosticsStore)
    (window : List DiagnosticsRecord) : Prop where
  rows : ∃ older, store.rows = older ++ window.map (windowRow format)
  storable : ∀ record ∈ window, Storable format record

theorem persisted_nil (format : JsonText) (store : SqliteDiagnosticsStore) :
    Persisted format store [] where
  rows := ⟨store.rows, (List.append_nil _).symm⟩
  storable record hrecord := by cases hrecord

theorem lastRecords_length_le {α : Type} (capacity : ℕ) (records : List α) :
    (lastRecords capacity records).length ≤ capacity := by
  rw [lastRecords, List.length_drop]
  omega

/-- A row goes to the end, and the oldest record may leave the window. -/
theorem Persisted.push (h : Persisted format store window) (hrecord : Storable format record)
    (capacity : ℕ) : Persisted format (store.push format record)
      (lastRecords capacity (window ++ [{ record with id := store.nextId }])) := by
  obtain ⟨⟨older, hrows⟩, hstorable⟩ := h
  have hnew : windowRow format { record with id := store.nextId } =
      rowOf format store.nextId record := rfl
  refine ⟨?_, fun other hother => ?_⟩
  · let all := window ++ [{ record with id := store.nextId }]
    have hsplit : all.map (windowRow format) =
        (all.take (all.length - capacity)).map (windowRow format) ++
          (lastRecords capacity all).map (windowRow format) := by
      rw [lastRecords, ← List.map_append, List.take_append_drop]
    refine ⟨older ++ (all.take (all.length - capacity)).map (windowRow format), ?_⟩
    rw [List.append_assoc, ← hsplit, List.map_append, ← List.append_assoc, ← hrows,
      List.map_singleton, hnew]
    rfl
  · rcases List.mem_append.mp (List.mem_of_mem_drop hother) with hold | hlast
    · exact hstorable other hold
    · rw [List.mem_singleton.mp hlast]
      exact ⟨hrecord.1, hrecord.2, hrecord.3, hrecord.4, hrecord.5, hrecord.6⟩

/-- Rows and records are dropped by the same test. -/
theorem Persisted.keep (h : Persisted format store window) {kept : Row → Bool}
    {kept' : DiagnosticsRecord → Bool}
    (hkept : ∀ record ∈ window, kept (windowRow format record) = kept' record) :
    Persisted format (store.keep kept) (window.filter kept') := by
  obtain ⟨⟨older, hrows⟩, hstorable⟩ := h
  refine ⟨⟨older.filter kept, ?_⟩, fun record hrecord =>
    hstorable record (List.mem_of_mem_filter hrecord)⟩
  show store.rows.filter kept = _
  rw [hrows, List.filter_append, List.filter_map]
  congr 2
  exact List.filter_congr hkept

/-- The self-tests of the window are among the newest. -/
theorem Persisted.newest (h : Persisted format store window) {keepCount : ℕ}
    (hcount : (window.filter fun record => record.source = "self-test").length ≤ keepCount)
    (hrecord : record ∈ window) (hself : SqliteDiagnosticsStore.isSelfTest (windowRow format record)
      = true) : record.id ∈ store.newestSelfTests keepCount := by
  obtain ⟨⟨older, hrows⟩, hstorable⟩ := h
  have hsame : ∀ record ∈ window,
      SqliteDiagnosticsStore.isSelfTest (windowRow format record) =
        decide (record.source = "self-test") := fun record hrecord => by
    have hsource := (hstorable record hrecord).source
    rw [NulFree] at hsource
    rw [SqliteDiagnosticsStore.isSelfTest, windowRow, rowOf, hsource]
  have hfilter : window.filter (SqliteDiagnosticsStore.isSelfTest ∘ windowRow format) =
      window.filter fun record => record.source = "self-test" := List.filter_congr hsame
  have hlength : ((window.map (windowRow format)).filter
      SqliteDiagnosticsStore.isSelfTest).length ≤ keepCount := by
    rw [List.filter_map, List.length_map, hfilter]
    exact hcount
  rw [SqliteDiagnosticsStore.newestSelfTests, hrows, List.filter_append, List.reverse_append,
    List.take_append, List.take_of_length_le (by rwa [List.length_reverse])]
  refine List.mem_map.mpr ⟨windowRow format record, List.mem_append_left _ ?_, rfl⟩
  exact List.mem_reverse.mpr (List.mem_filter.mpr ⟨List.mem_map_of_mem hrecord, hself⟩)

theorem Persisted.prune (h : Persisted format store window)
    (hcount : io.works = true →
      (window.filter fun record => record.source = "self-test").length ≤ kSelfTestRetention)
    (hopen : store.isOpen = true) :
    Persisted format (store.pruneSelfTestSnapshots io kSelfTestRetention) window := by
  have hreopen : store.reopen io = store := by
    rw [SqliteDiagnosticsStore.reopen, hopen, Bool.true_or, ← hopen]
  rw [SqliteDiagnosticsStore.pruneSelfTestSnapshots, hreopen]
  split_ifs with hboth
  · have hworks : io.works = true := (Bool.and_eq_true _ _ ▸ hboth).2
    let kept (row : Row) : Bool := !(SqliteDiagnosticsStore.isSelfTest row &&
      !(store.newestSelfTests kSelfTestRetention).contains row.id)
    have hkept : ∀ record ∈ window, kept (windowRow format record) = true := by
      intro record hrecord
      show (!(SqliteDiagnosticsStore.isSelfTest (windowRow format record) && _)) = true
      cases hself : SqliteDiagnosticsStore.isSelfTest (windowRow format record) with
      | false => rfl
      | true =>
        have hnewest := h.newest (hcount hworks) hrecord hself
        rw [Bool.true_and, Bool.not_not]
        exact List.contains_iff_mem.mpr hnewest
    have hkeep : Persisted format (store.keep kept) (window.filter fun _ => true) := h.keep hkept
    rwa [List.filter_true] at hkeep
  · exact h

/-- The rows before those of the window have smaller ids. -/
theorem older_notMem {older : List Row} {selected : Row → Bool}
    (hrows : store.rows = older ++ window.map (windowRow format))
    (hrecord : record ∈ (older.reverse.filter selected).map (Row.record format)) :
    record ∉ window := by
  intro hwindow
  obtain ⟨row, hrow, rfl⟩ := List.mem_map.mp hrecord
  have holder : row ∈ older := List.mem_reverse.mp (List.mem_of_mem_filter hrow)
  have hsorted := store.sorted
  rw [hrows, List.pairwise_append] at hsorted
  have hlt := hsorted.2.2 row holder (windowRow format (row.record format))
    (List.mem_map_of_mem hwindow)
  exact Nat.lt_irrefl row.id hlt

/-! ## The invariant -/

/-- The numbers that were given out, and the next one. -/
structure Numbered (s : Story) : Prop where
  increasing : s.sequences.Pairwise (· < ·)
  below : ∀ n ∈ s.sequences, n < s.service.nextSequence

structure StoryLaw (format : JsonText) (s : Story) : Prop where
  numbered : Numbered s
  ring_eq : s.service.ring = s.window
  bounded : s.window.length ≤ kRingCapacity
  ordered : (s.window.map DiagnosticsRecord.sequence).Sublist s.sequences
  persisted : ∀ store, s.service.store = some store → store.isOpen = true →
    Persisted format store s.window

namespace StoryLaw

theorem init (format : JsonText) (store : Option SqliteDiagnosticsStore) (sessionId : String) :
    StoryLaw format (diagnosticsSystem format store sessionId).init where
  numbered := ⟨List.Pairwise.nil, fun n hn => by cases hn⟩
  ring_eq := rfl
  bounded := Nat.zero_le _
  ordered := List.Sublist.refl _
  persisted store _ _ := persisted_nil format store

/-- **The law is the story.** -/
theorem tells (h : StoryLaw format s) : TellsSameStory format s where
  increasing := h.numbered.increasing
  once := by
    have hsequences : (s.window.map DiagnosticsRecord.sequence).Pairwise (· < ·) :=
      h.numbered.increasing.sublist h.ordered
    have hnodup : (s.window.map DiagnosticsRecord.sequence).Nodup :=
      hsequences.imp fun hlt => Nat.ne_of_lt hlt
    exact List.Nodup.of_map _ hnodup
  answers failsAfter filters hanswerable := by
    have hring : ringQuery s.service.ring filters =
        filters.limitRows ((s.window.filter filters.selects).reverse ++ []) := by
      rw [h.ring_eq, ringQuery_eq h.bounded, List.append_nil]
    rw [DiagnosticsService.query]
    cases hstore : s.service.store with
    | none => exact ⟨[], fun record hrecord => absurd hrecord List.not_mem_nil, hring⟩
    | some store =>
      dsimp only
      split_ifs with hopen
      · obtain ⟨⟨older, hrows⟩, hstorable⟩ := h.persisted store hstore hopen
        refine ⟨(older.reverse.filter filters.selectsRow).map (Row.record format),
          fun record hrecord => older_notMem hrows hrecord, ?_⟩
        obtain ⟨hfilters, rfl⟩ := hanswerable store hstore hopen
        rw [SqliteDiagnosticsStore.query, if_pos hopen, hrows]
        exact answerFrom_window hstorable hfilters
      · exact ⟨[], fun record hrecord => absurd hrecord List.not_mem_nil, hring⟩
  agree store hstore hopen filters hfilters := by
    obtain ⟨⟨older, hrows⟩, hstorable⟩ := h.persisted store hstore hopen
    have hlast : lastRecords s.window.length store.rows = s.window.map (windowRow format) := by
      rw [lastRecords, hrows, List.length_append, List.length_map, Nat.add_sub_cancel,
        List.drop_left]
    have hanswer : answerFrom format ([] ++ s.window.map (windowRow format)) filters =
        filters.limitRows ((s.window.filter filters.selects).reverse ++ []) :=
      answerFrom_window hstorable hfilters
    rw [List.nil_append, List.append_nil] at hanswer
    rw [hlast, hanswer, h.ring_eq, ringQuery_eq h.bounded]

theorem insert_sequence (format : JsonText) (store : SqliteDiagnosticsStore) (io : StoreIO)
    (record : DiagnosticsRecord) :
    (store.insert format io record).2.1.sequence = record.sequence := by
  rw [SqliteDiagnosticsStore.insert]
  split_ifs <;> rfl

theorem isOpen_insert (store : SqliteDiagnosticsStore) (record : DiagnosticsRecord) :
    (store.insert format io record).2.2.isOpen = (store.reopen io).isOpen := by
  rw [SqliteDiagnosticsStore.insert]
  split_ifs <;> rfl

theorem isOpen_prune (store : SqliteDiagnosticsStore) (keepCount : ℕ) :
    (store.pruneSelfTestSnapshots io keepCount).isOpen = (store.reopen io).isOpen := by
  rw [SqliteDiagnosticsStore.pruneSelfTestSnapshots]
  split_ifs <;> rfl

theorem insert_of_works (hopen : (store.reopen io).isOpen = true) (hworks : io.works = true) :
    store.insert format io record =
      (true, { record with id := (store.reopen io).nextId },
        (store.reopen io).push format record) := by
  rw [SqliteDiagnosticsStore.insert]
  exact if_pos (by rw [hopen, hworks]; rfl)

/-- A store that is open, or opens while nothing is in the window. -/
theorem reopen (h : StoryLaw format s) (hstore : s.service.store = some store)
    (hfound : store.isOpen = true ∨ s.window = []) :
    Persisted format (store.reopen io) s.window := by
  rcases hfound with hopen | hnil
  · exact ⟨(h.persisted store hstore hopen).rows, (h.persisted store hstore hopen).storable⟩
  · rw [hnil]
    exact persisted_nil format _

/-- What a report leaves, whatever becomes of the insert. -/
theorem report_cases (format : JsonText) (s : Story) (io : StoreIO) (r : Report) :
    ∃ record, record.sequence = s.service.nextSequence ∧
      (s.report format io r).window = lastRecords kRingCapacity (s.window ++ [record]) ∧
      (s.report format io r).service.ring =
        lastRecords kRingCapacity (s.service.ring ++ [record]) ∧
      (s.report format io r).sequences = s.sequences ++ [s.service.nextSequence] ∧
      (s.report format io r).service.nextSequence = s.service.nextSequence + 1 ∧
      ((s.service.store = none ∧ (s.report format io r).service.store = none) ∨
        ∃ store, s.service.store = some store ∧
          (s.report format io r).service.store =
            some (store.insert format io (s.service.recordOf r)).2.2 ∧
          record = (store.insert format io (s.service.recordOf r)).2.1) := by
  cases hstore : s.service.store with
  | none =>
    refine ⟨s.service.recordOf r, rfl, ?_⟩
    simp [Story.report, DiagnosticsService.report, DiagnosticsService.recordOf, hstore]
  | some store =>
    refine ⟨(store.insert format io (s.service.recordOf r)).2.1,
      insert_sequence format store io _, ?_⟩
    have hsequence := insert_sequence format store io (s.service.recordOf r)
    simp [Story.report, DiagnosticsService.report, hstore, hsequence]
    rfl

/-- Each report gets the next number, whatever becomes of it. -/
theorem numbered_report (h : Numbered s) : Numbered (s.report format io r) := by
  obtain ⟨-, -, -, -, hsequences, hnext, -⟩ := report_cases format s io r
  refine ⟨?_, fun n hn => ?_⟩
  · rw [hsequences]
    refine List.pairwise_append.mpr ⟨h.increasing, List.pairwise_singleton _ _, ?_⟩
    intro n hn m hm
    rw [List.mem_singleton.mp hm]
    exact h.below n hn
  · rw [hsequences] at hn
    rw [hnext]
    rcases List.mem_append.mp hn with hold | hnew
    · exact Nat.lt_succ_of_lt (h.below n hold)
    · rw [List.mem_singleton.mp hnew]
      exact Nat.lt_succ_self _

/-- A report keeps everything but the table. -/
theorem report_frame (h : StoryLaw format s)
    (hpersisted : ∀ store, (s.report format io r).service.store = some store →
      store.isOpen = true → Persisted format store (s.report format io r).window) :
    StoryLaw format (s.report format io r) := by
  obtain ⟨record, hsequence, hwindow, hring, hsequences, -⟩ := report_cases format s io r
  refine ⟨numbered_report h.numbered, ?_, ?_, ?_, hpersisted⟩
  · rw [hring, hwindow, h.ring_eq]
  · rw [hwindow]
    exact lastRecords_length_le _ _
  · rw [hwindow, hsequences]
    refine ((List.drop_sublist _ _).map _).trans ?_
    rw [List.map_append, List.map_singleton, hsequence]
    exact h.ordered.append (List.Sublist.refl _)

/-- **A report whose insert works.** -/
theorem report (h : StoryLaw format s) (hinserts : Inserts format s io r) :
    StoryLaw format (s.report format io r) := by
  refine h.report_frame fun store hstore hopen => ?_
  obtain ⟨record, -, hwindow, -, -, -, ⟨-, hnone⟩ | ⟨before, hbefore, hafter, hrecord⟩⟩ :=
    report_cases format s io r
  · rw [hnone] at hstore
    cases hstore
  · rw [hafter] at hstore
    obtain rfl := Option.some.inj hstore
    rw [isOpen_insert] at hopen
    obtain ⟨hworks, hstorable, hfound⟩ := hinserts before hbefore hopen
    rw [insert_of_works hopen hworks] at hrecord ⊢
    rw [hwindow, hrecord]
    exact (h.reopen hbefore hfound).push hstorable kRingCapacity

/-- **A prune that leaves the window alone.** -/
theorem prune (h : StoryLaw format s) (hprunes : Prunes s io) : StoryLaw format (s.prune io) := by
  refine ⟨⟨h.numbered.increasing, h.numbered.below⟩, h.ring_eq, h.bounded, h.ordered,
    fun store hstore hopen => ?_⟩
  obtain ⟨before, hbefore, rfl⟩ := Option.map_eq_some_iff.mp hstore
  rw [isOpen_prune] at hopen
  obtain ⟨hwasOpen, hcount⟩ := hprunes before hbefore hopen
  exact (h.persisted before hbefore hwasOpen).prune hcount hwasOpen

theorem clearLocked_of_none (hstore : s.service.store = none) (retainSinceUtc : String) :
    s.clearLocked io retainSinceUtc =
      (none, { s with
        service := { s.service with ring := [] }
        window := s.window.filter fun record =>
          DiagnosticsService.retains retainSinceUtc record.capturedAtUtc }) := by
  obtain ⟨⟨_, sessionId, nextSequence, ring⟩, window, sequences⟩ := s
  obtain rfl := hstore
  rfl

theorem clearLocked_of_works (hstore : s.service.store = some store)
    (hopen : (store.reopen io).isOpen = true) (hworks : io.works = true) (retainSinceUtc : String) :
    (s.clearLocked io retainSinceUtc).2 =
      { s with
        service := { s.service with
          store := some <| (store.reopen io).keep fun row =>
            SqliteDiagnosticsStore.retains retainSinceUtc row.capturedAtUtc
          ring := s.service.ring.filter fun record =>
            DiagnosticsService.retains retainSinceUtc record.capturedAtUtc }
        window := s.window.filter fun record =>
          DiagnosticsService.retains retainSinceUtc record.capturedAtUtc } := by
  obtain ⟨⟨_, sessionId, nextSequence, ring⟩, window, sequences⟩ := s
  obtain rfl := hstore
  simp [Story.clearLocked, DiagnosticsService.clearLocked, SqliteDiagnosticsStore.clear, hopen,
    hworks]

theorem clearLocked_of_fails (hstore : s.service.store = some store)
    (hfails : ((store.reopen io).isOpen && io.works) = false) (retainSinceUtc : String) :
    (s.clearLocked io retainSinceUtc).2 =
      { s with service := { s.service with store := some (store.reopen io) } } := by
  obtain ⟨⟨_, sessionId, nextSequence, ring⟩, window, sequences⟩ := s
  obtain rfl := hstore
  simp [Story.clearLocked, DiagnosticsService.clearLocked, SqliteDiagnosticsStore.clear, hfails]

/-- The rows and the records that a clear retains are the same. -/
theorem retains_windowRow {retainSinceUtc : String} (hrecord : Storable format record)
    (hretain : NulFree retainSinceUtc) :
    SqliteDiagnosticsStore.retains retainSinceUtc (windowRow format record).capturedAtUtc =
      DiagnosticsService.retains retainSinceUtc record.capturedAtUtc := by
  have hcaptured := hrecord.capturedAtUtc
  rw [NulFree] at hcaptured hretain
  rw [SqliteDiagnosticsStore.retains, DiagnosticsService.retains, windowRow, rowOf, hcaptured,
    hretain]

/-- **A clear** under the lock. -/
theorem clearLocked (h : StoryLaw format s) {retainSinceUtc : String}
    (hclears : Clears s io retainSinceUtc) :
    StoryLaw format (s.clearLocked io retainSinceUtc).2 := by
  have hordered (kept : DiagnosticsRecord → Bool) :
      ((s.window.filter kept).map DiagnosticsRecord.sequence).Sublist s.sequences :=
    (List.filter_sublist.map _).trans h.ordered
  have hbounded (kept : DiagnosticsRecord → Bool) :
      (s.window.filter kept).length ≤ kRingCapacity :=
    Nat.le_trans (List.length_filter_le _ _) h.bounded
  have hnothing (houtdated : Outdated s retainSinceUtc) :
      (s.window.filter fun record =>
        DiagnosticsService.retains retainSinceUtc record.capturedAtUtc) = [] :=
    List.filter_eq_nil_iff.mpr fun record hrecord => by simp [houtdated record hrecord]
  rw [Clears] at hclears
  cases hstore : s.service.store with
  | none =>
    rw [hstore] at hclears
    rw [clearLocked_of_none hstore]
    refine ⟨⟨h.numbered.increasing, h.numbered.below⟩, (hnothing hclears).symm, hbounded _,
      hordered _, fun store hsome => ?_⟩
    cases hstore.symm.trans hsome
  | some before =>
    rw [hstore] at hclears
    cases hboth : (before.reopen io).isOpen && io.works with
    | false =>
      rw [clearLocked_of_fails hstore hboth]
      refine ⟨⟨h.numbered.increasing, h.numbered.below⟩, h.ring_eq, h.bounded, h.ordered,
        fun store hsome hopen => ?_⟩
      obtain rfl := Option.some.inj hsome
      refine h.reopen hstore ?_
      rcases (hclears hopen).2 with hwasOpen | hnil | ⟨hworks, -⟩
      · exact .inl hwasOpen
      · exact .inr hnil
      · rw [hopen, hworks] at hboth
        cases hboth
    | true =>
      obtain ⟨hopen, hworks⟩ := Bool.and_eq_true_iff.mp hboth
      rw [clearLocked_of_works hstore hopen hworks]
      obtain ⟨hretain, hfound⟩ := hclears hopen
      refine ⟨⟨h.numbered.increasing, h.numbered.below⟩, congrArg (List.filter _) h.ring_eq,
        hbounded _, hordered _, fun store hsome _ => ?_⟩
      obtain rfl := Option.some.inj hsome
      have hkept (hfound : before.isOpen = true ∨ s.window = []) :
          Persisted format ((before.reopen io).keep fun row =>
              SqliteDiagnosticsStore.retains retainSinceUtc row.capturedAtUtc)
            (s.window.filter fun record =>
              DiagnosticsService.retains retainSinceUtc record.capturedAtUtc) := by
        have hpersisted : Persisted format (before.reopen io) s.window := h.reopen hstore hfound
        exact hpersisted.keep fun record hrecord =>
          retains_windowRow (hpersisted.storable record hrecord) hretain
      rcases hfound with hwasOpen | hnil | ⟨-, houtdated⟩
      · exact hkept (.inl hwasOpen)
      · exact hkept (.inr hnil)
      · dsimp only
        rw [hnothing houtdated]
        exact persisted_nil format _

/-- **Every steady call keeps the law.** -/
theorem step (h : StoryLaw format s) {call : DiagnosticsCall} (hsteady : Steady format s call) :
    StoryLaw format (storyStep format s call) := by
  cases call with
  | report report io => exact h.report hsteady
  | recordSelfTest snapshot capturedAtUtc io ioPrune => exact (h.report hsteady.1).prune hsteady.2
  | clear reason retainSinceUtc capturedAtUtc io ioReport =>
    obtain ⟨hclears, hreport⟩ := hsteady
    have hcleared := h.clearLocked hclears
    rw [storyStep]
    cases hclear : s.clearLocked io retainSinceUtc with
    | mk deleted after =>
      rw [hclear] at hcleared hreport
      cases deleted with
      | none => exact hcleared
      | some deleted => exact hcleared.report (hreport deleted rfl)

end StoryLaw

/-- What a clear does under the lock, it does to the window and the copies of it. -/
theorem numbered_clearLocked (h : Numbered s) (retainSinceUtc : String) :
    Numbered (s.clearLocked io retainSinceUtc).2 := by
  obtain ⟨⟨store, sessionId, nextSequence, ring⟩, window, sequences⟩ := s
  cases store with
  | none => exact ⟨h.increasing, h.below⟩
  | some store =>
    cases hboth : (store.reopen io).isOpen && io.works with
    | false =>
      rw [StoryLaw.clearLocked_of_fails rfl hboth]
      exact ⟨h.increasing, h.below⟩
    | true =>
      obtain ⟨hopen, hworks⟩ := Bool.and_eq_true_iff.mp hboth
      rw [StoryLaw.clearLocked_of_works rfl hopen hworks]
      exact ⟨h.increasing, h.below⟩

theorem numbered_storyStep (h : Numbered s) (call : DiagnosticsCall) :
    Numbered (storyStep format s call) := by
  cases call with
  | report report io => exact StoryLaw.numbered_report h
  | recordSelfTest snapshot capturedAtUtc io ioPrune =>
    have hreported : Numbered (s.report format io _) :=
      StoryLaw.numbered_report (r := DiagnosticsService.selfTestReport snapshot capturedAtUtc) h
    exact ⟨hreported.increasing, hreported.below⟩
  | clear reason retainSinceUtc capturedAtUtc io ioReport =>
    have hcleared : Numbered (s.clearLocked io retainSinceUtc).2 :=
      numbered_clearLocked h retainSinceUtc
    rw [storyStep]
    cases hclear : s.clearLocked io retainSinceUtc with
    | mk deleted after =>
      rw [hclear] at hcleared
      cases deleted with
      | none => exact hcleared
      | some deleted => exact StoryLaw.numbered_report hcleared

/-- **Numbers increase in every run**, whatever the store does. -/
theorem increasing_of_reachable {sessionId : String} {opened : Option SqliteDiagnosticsStore}
    (h : (diagnosticsSystem format opened sessionId).Reachable s) :
    s.sequences.Pairwise (· < ·) := by
  have hnumbered : Numbered s :=
    h.invariant (StoryLaw.init format opened sessionId).numbered fun _ call hnumbered _ =>
      numbered_storyStep hnumbered call
  exact hnumbered.increasing

/-- **The same story**, in every run whose calls are steady. -/
theorem tellsSameStory_of_steady (format : JsonText) (store : Option SqliteDiagnosticsStore)
    (sessionId : String)
    (h : (diagnosticsSystem format store sessionId).ReachableBy (Steady format) s) :
    TellsSameStory format s :=
  (h.invariant (StoryLaw.init format store sessionId) fun _ _ hlaw hsteady =>
    hlaw.step hsteady).tells

def emptyStore (isOpen : Bool) : SqliteDiagnosticsStore where
  isOpen
  rows := []
  nextId := 1
  sorted := List.Pairwise.nil
  below row hrow := by cases hrow

def sampleReport (message : String) : Report where
  severity := .warning
  source := "runtime"
  eventName := "sample"
  message
  data := .object []
  capturedAtUtc := "2024-05-01T00:00:00Z"

/-- The data of a report, and those of the clear of one row. -/
def sampleFormat : JsonText where
  parse text :=
    if text = [] then some (.object []) else
      some (.object [("deletedRows", .integer 1), ("retainSinceUtc", .string "")])
  dump data :=
    match data with
    | .object [] => []
    | _ => [1]

/-- A report, a self-test, and a clear. -/
def steadyCalls : List DiagnosticsCall :=
  [.report (sampleReport "one") ⟨true, true⟩,
    .clear "" "" "2024-05-01T00:00:01Z" ⟨true, true⟩ ⟨true, true⟩,
    .recordSelfTest (.object []) "2024-05-01T00:00:02Z" ⟨true, true⟩ ⟨true, true⟩]

/-- A store that is open. -/
theorem tellsSameStory_steadyCalls :
    TellsSameStory sampleFormat
      ((diagnosticsSystem sampleFormat (some (emptyStore true)) "session").run
        (diagnosticsSystem sampleFormat (some (emptyStore true)) "session").init steadyCalls) := by
  refine tellsSameStory_of_steady sampleFormat (some (emptyStore true)) "session"
    (TransitionSystem.ReachableBy.init.run steadyCalls ⟨?_, ⟨?_, ?_⟩, ⟨?_, ?_⟩, trivial⟩)
  · intro store hstore _
    cases hstore
    exact ⟨rfl, ⟨by decide, by decide, by decide, by decide, by decide, rfl⟩, .inl rfl⟩
  · exact fun _ => ⟨by decide, .inl rfl⟩
  · intro deleted hdeleted store hstore _
    cases hdeleted
    cases hstore
    exact ⟨rfl, ⟨by decide, by decide, by decide, by decide, by decide, rfl⟩, .inl rfl⟩
  · intro store hstore _
    cases hstore
    exact ⟨rfl, ⟨by decide, by decide, by decide, by decide, by decide, rfl⟩, .inl rfl⟩
  · intro store hstore _
    cases hstore
    refine ⟨rfl, fun _ => ?_⟩
    exact Nat.le_trans (List.length_filter_le _ _) (by decide)

/-- Two reports, and the store opens for the second. -/
def recoveringCalls : List DiagnosticsCall :=
  [.report (sampleReport "one") ⟨false, true⟩, .report (sampleReport "two") ⟨true, true⟩]

/-- The first report cannot be found any more. -/
theorem recovered_store_forgets :
    ¬ ∀ (format : JsonText) (store : Option SqliteDiagnosticsStore) (sessionId : String)
        (s : Story), (diagnosticsSystem format store sessionId).Reachable s →
      TellsSameStory format s := by
  intro hall
  let T := diagnosticsSystem sampleFormat (some (emptyStore false)) "session"
  let s := T.run T.init recoveringCalls
  have hstory : TellsSameStory sampleFormat s :=
    hall sampleFormat _ _ _ (TransitionSystem.Reachable.run (T := T) .init recoveringCalls)
  obtain ⟨older, -, hanswer⟩ := hstory.answers none {}
    fun _ _ _ => ⟨⟨by decide, by decide, by decide⟩, rfl⟩
  have hone : (s.service.query sampleFormat none {}).length = 1 := by decide
  have htwo : (s.window.filter (DiagnosticsQuery.selects {})).length = 2 := by decide
  rw [hanswer, DiagnosticsQuery.limitRows, if_pos (.inl rfl), List.length_append,
    List.length_reverse, htwo] at hone
  omega

end Diagnostics
end MasterControl
