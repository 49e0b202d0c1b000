import MasterControl.Diagnostics.Service

/-!
# One story

Beside the service a run keeps what was reported: the last 1000 records without those that a clear
has removed (`Story.window`).  `TellsSameStory` says that numbers increase, that a query answers
with the records of the window it selects and then older ones, and that ring and table agree.

The ring takes every record and the table only those whose insert works, a query asks just one of
them, and only the table is pruned.  So the story is the same in the runs whose steps are `Steady`
(`tellsSameStory_of_steady`).
-/

namespace MasterControl
namespace Diagnostics

open Foundation

/-- The service, and what was reported to it. -/
structure Story where
  service : DiagnosticsService
  /-- The last records that were reported and not cleared. -/
  window : List DiagnosticsRecord := []
  /-- The number of every record that was reported. -/
  sequences : List ℕ := []

/-- The calls that change something, with how the store operations go. -/
inductive DiagnosticsCall where
  | report (report : Report) (io : StoreIO)
  | recordSelfTest (snapshot : Json) (capturedAtUtc : String) (io ioPrune : StoreIO)
  | clear (reason retainSinceUtc capturedAtUtc : String) (io ioReport : StoreIO)

namespace Story

variable (format : JsonText)

/-- A report joins the window. -/
def report (s : Story) (io : StoreIO) (report : Report) : Story :=
  let (record, service) := s.service.report format io report
  { service
    window := lastRecords kRingCapacity (s.window ++ [record])
    sequences := s.sequences ++ [record.sequence] }

def prune (s : Story) (io : StoreIO) : Story := { s with service := s.service.prune io }

/-- A clear removes the records that are older than its bound, if it is `ok`. -/
def clearLocked (s : Story) (io : StoreIO) (retainSinceUtc : String) : Option ℕ × Story :=
  let (ok, deleted, service) := s.service.clearLocked io retainSinceUtc
  (deleted, { s with
    service
    window :=
      if ok then s.window.filter fun record =>
        DiagnosticsService.retains retainSinceUtc record.capturedAtUtc
      else s.window })

end Story

open DiagnosticsService in
/-- One call. -/
def storyStep (format : JsonText) (s : Story) : DiagnosticsCall → Story
  | .report report io => s.report format io report
  | .recordSelfTest snapshot capturedAtUtc io ioPrune =>
    (s.report format io (selfTestReport snapshot capturedAtUtc)).prune ioPrune
  | .clear reason retainSinceUtc capturedAtUtc io ioReport =>
    match s.clearLocked io retainSinceUtc with
    | (some deleted, s) =>
      s.report format ioReport (clearReport reason retainSinceUtc capturedAtUtc deleted)
    | (none, s) => s

def diagnosticsSystem (format : JsonText) (store : Option SqliteDiagnosticsStore)
    (sessionId : String) : TransitionSystem Story DiagnosticsCall where
  init := { service := { store, sessionId } }
  step := storyStep format

/-! ## The same story -/

/-- A text that a C string holds. -/
def NulFree (text : String) : Prop := cText text = text

instance (text : String) : Decidable (NulFree text) :=
  inferInstanceAs (Decidable (cText text = text))

/-- The filters can be asked of the store. -/
def DiagnosticsQuery.Askable (filters : DiagnosticsQuery) : Prop :=
  NulFree filters.source ∧ NulFree filters.eventName ∧ NulFree filters.sinceUtc

/-- The filters reach the side that answers, and it does answer. -/
def Answerable (s : Story) (failsAfter : Option ℕ) (filters : DiagnosticsQuery) : Prop :=
  ∀ store, s.service.store = some store → store.isOpen = true →
    filters.Askable ∧ failsAfter = none

structure TellsSameStory (format : JsonText) (s : Story) : Prop where
  increasing : s.sequences.Pairwise (· < ·)
  once : s.window.Nodup
  answers : ∀ failsAfter filters, Answerable s failsAfter filters →
    ∃ older, (∀ record ∈ older, record ∉ s.window) ∧
      s.service.query format failsAfter filters =
        filters.limitRows ((s.window.filter filters.selects).reverse ++ older)
  agree : ∀ store, s.service.store = some store → store.isOpen = true →
    ∀ filters, filters.Askable →
      answerFrom format (lastRecords s.window.length store.rows) filters =
        ringQuery s.service.ring filters

/-! ## What a step needs -/

/-- The table gives the record back as it is. -/
structure Storable (format : JsonText) (record : DiagnosticsRecord) : Prop where
  capturedAtUtc : NulFree record.capturedAtUtc
  source : NulFree record.source
  eventName : NulFree record.eventName
  message : NulFree record.message
  sessionId : NulFree record.sessionId
  data : format.parse (format.dump record.data) = some record.data

/-- If the store is open for the insert, the insert works, and the store has been open since there
was something in the window. -/
def Inserts (format : JsonText) (s : Story) (io : StoreIO) (report : Report) : Prop :=
  ∀ store, s.service.store = some store → (store.reopen io).isOpen = true →
    io.works = true ∧ Storable format (s.service.recordOf report) ∧
      (store.isOpen = true ∨ s.window = [])

/-- No record of the window is pruned, and the store is not opened for it. -/
def Prunes (s : Story) (io : StoreIO) : Prop :=
  ∀ store, s.service.store = some store → (store.reopen io).isOpen = true →
    store.isOpen = true ∧ (io.works = true →
      (s.window.filter fun record => record.source = "self-test").length ≤ kSelfTestRetention)

/-- Nothing of the window has to be retained. -/
def Outdated (s : Story) (retainSinceUtc : String) : Prop :=
  ∀ record ∈ s.window, DiagnosticsService.retains retainSinceUtc record.capturedAtUtc = false

/-- Without a store nothing has to be retained, and a store that opens finds nothing missing. -/
def Clears (s : Story) (io : StoreIO) (retainSinceUtc : String) : Prop :=
  match s.service.store with
  | none => Outdated s retainSinceUtc
  | some store => (store.reopen io).isOpen = true → NulFree retainSinceUtc ∧
      (store.isOpen = true ∨ s.window = [] ∨ io.works = true ∧ Outdated s retainSinceUtc)

open DiagnosticsService in
/-- A call whose store operations keep ring and table together. -/
def Steady (format : JsonText) (s : Story) : DiagnosticsCall → Prop
  | .report report io => Inserts format s io report
  | .recordSelfTest snapshot capturedAtUtc io ioPrune =>
    Inserts format s io (selfTestReport snapshot capturedAtUtc) ∧
      Prunes (s.report format io (selfTestReport snapshot capturedAtUtc)) ioPrune
  | .clear reason retainSinceUtc capturedAtUtc io ioReport =>
    Clears s io retainSinceUtc ∧
      ∀ deleted, (s.clearLocked io retainSinceUtc).1 = some deleted →
        Inserts format (s.clearLocked io retainSinceUtc).2 ioReport
          (clearReport reason retainSinceUtc capturedAtUtc deleted)

/-! ## What a query answers -/

section Query

variable {format : JsonText} {filters : DiagnosticsQuery} {record : DiagnosticsRecord}
  {window : List DiagnosticsRecord} {older : List Row}

/-- The row of a record of the window. -/
def windowRow (format : JsonText) (record : DiagnosticsRecord) : Row :=
  rowOf format record.id record

theorem record_windowRow (h : Storable format record) :
    (windowRow format record).record format = record := by
  obtain ⟨hcaptured, hsource, hevent, hmessage, hsession, hdata⟩ := h
  rw [NulFree] at hcaptured hsource hevent hmessage hsession
  cases record
  simp_all [windowRow, rowOf, Row.record]

theorem selectsRow_windowRow (h : Storable format record) (hfilters : filters.Askable) :
    filters.selectsRow (windowRow format record) = filters.selects record := by
  obtain ⟨hsource, hevent, hsince⟩ := hfilters
  have hcaptured := h.capturedAtUtc
  have hrecordSource := h.source
  have hrecordEvent := h.eventName
  rw [NulFree] at *
  simp only [DiagnosticsQuery.selectsRow, DiagnosticsQuery.selects, windowRow, rowOf, hsource,
    hevent, hsince, hcaptured, hrecordSource, hrecordEvent]

/-- The selected rows of the window, as records. -/
theorem filter_windowRows (hstorable : ∀ record ∈ window, Storable format record)
    (hfilters : filters.Askable) :
    ((window.map (windowRow format)).filter filters.selectsRow).map (Row.record format) =
      window.filter filters.selects := by
  induction window with
  | nil => rfl
  | cons record window ih =>
    have hrecord := hstorable record List.mem_cons_self
    have hrest := ih fun other hother => hstorable other (List.mem_cons_of_mem _ hother)
    rw [List.map_cons, List.filter_cons, List.filter_cons, selectsRow_windowRow hrecord hfilters]
    split_ifs
    · rw [List.map_cons, hrest, record_windowRow hrecord]
    · exact hrest

/-- **The table answers with the window, and then with what is older.** -/
theorem answerFrom_window (hstorable : ∀ record ∈ window, Storable format record)
    (hfilters : filters.Askable) :
    answerFrom format (older ++ window.map (windowRow format)) filters =
      filters.limitRows ((window.filter filters.selects).reverse ++
        (older.reverse.filter filters.selectsRow).map (Row.record format)) := by
  rw [answerFrom, ← limitRows_map, List.reverse_append, List.filter_append, List.map_append,
    List.filter_reverse, List.map_reverse, filter_windowRows hstorable hfilters]

theorem collect_eq (records results : List DiagnosticsRecord)
    (h : filters.maxResults = 0 ∨ results.length < filters.maxResults) :
    collect filters records results =
      if filters.maxResults = 0 then results ++ records.filter filters.selects
      else (results ++ records.filter filters.selects).take filters.maxResults := by
  induction records generalizing results with
  | nil =>
    rw [collect, List.filter_nil, List.append_nil]
    split_ifs with hmax
    · rfl
    · rw [List.take_of_length_le]
      omega
  | cons record records ih =>
    rw [collect, List.filter_cons]
    by_cases hselects : filters.selects record = true
    · rw [if_pos hselects, if_pos hselects,
        List.append_cons results record (records.filter filters.selects)]
      dsimp only
      by_cases hfull : 0 < filters.maxResults ∧
          filters.maxResults ≤ (results ++ [record]).length
      · rw [if_pos hfull, if_neg (by omega), List.take_append_of_le_length hfull.2,
          List.take_of_length_le]
        rw [List.length_append, List.length_singleton]
        omega
      · rw [if_neg hfull]
        exact ih _ (by omega)
    · rw [if_neg hselects, if_neg hselects]
      exact ih _ h

/-- **The ring answers with the window.** -/
theorem ringQuery_eq (h : window.length ≤ kRingCapacity) :
    ringQuery window filters = filters.limitRows (window.filter filters.selects).reverse := by
  have hlength : (window.filter filters.selects).reverse.length ≤ 1000 := by
    rw [List.length_reverse]
    exact Nat.le_trans (List.length_filter_le _ _) h
  rw [ringQuery, collect_eq _ _ (by rw [List.length_nil]; omega), List.nil_append,
    List.filter_reverse, DiagnosticsQuery.limitRows]
  by_cases hzero : filters.maxResults = 0
  · rw [if_pos hzero, if_pos (.inl hzero)]
  · rw [if_neg hzero]
    split_ifs with hlarge
    · exact List.take_of_length_le (by omega)
    · rfl

end Query

end Diagnostics
end MasterControl
