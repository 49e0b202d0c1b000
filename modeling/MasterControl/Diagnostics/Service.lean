import MasterControl.Foundation.Json
import MasterControl.Foundation.Runs
import Mathlib.Data.List.Basic

/-!
# Diagnostics: the ring and the store

`DiagnosticsService` gives every record a number, inserts it into a table of an SQLite database
and pushes it onto a ring of the last 1000.  A query asks the table if the database is open, and
else the ring.  The database may fail to open and be opened by a later call, and a statement may
fail.

The table takes texts as C strings, so it keeps what stands before the first NUL, and it keeps the
data of a record as a JSON text.
-/

namespace MasterControl
namespace Diagnostics

open Foundation

/-! ## Records -/

inductive DiagnosticsSeverity where
  | debug
  | info
  | warning
  | error
  | critical
  deriving DecidableEq

def diagnosticsSeverityFromString (value : String) : DiagnosticsSeverity :=
  if value = "debug" then .debug
  else if value = "warning" ∨ value = "warn" then .warning
  else if value = "error" then .error
  else if value = "critical" then .critical
  else .info

structure DiagnosticsRecord where
  id : ℕ := 0
  capturedAtUtc : String
  source : String
  severity : DiagnosticsSeverity
  eventName : String
  message : String
  data : Json
  sessionId : String
  sequence : ℕ

/-- The filters of a query; an empty text and zero are no filter. -/
structure DiagnosticsQuery where
  severity : String := ""
  source : String := ""
  eventName : String := ""
  sinceUtc : String := ""
  maxResults : ℕ := 0

/-! ## The store -/

/-- What a C string keeps of a text. -/
def cText (text : String) : String := String.ofList (text.toList.takeWhile (· ≠ '\x00'))

/-- A row of `diagnostics_events`. -/
structure Row where
  id : ℕ
  capturedAtUtc : String
  source : String
  severity : DiagnosticsSeverity
  eventName : String
  message : String
  dataJson : Bytes
  sessionId : String
  sequence : ℕ

/-- The table, and whether the database is open. -/
structure SqliteDiagnosticsStore where
  isOpen : Bool
  rows : List Row
  nextId : ℕ
  /-- `AUTOINCREMENT`. -/
  sorted : rows.Pairwise fun row row' => row.id < row'.id
  below : ∀ row ∈ rows, row.id < nextId

/-- How a call of the store goes: whether a database that is closed opens, and whether the
statement works. -/
structure StoreIO where
  opens : Bool
  works : Bool
  deriving DecidableEq

section Store

variable (format : JsonText)

/-- The row that is inserted for a record. -/
def rowOf (id : ℕ) (record : DiagnosticsRecord) : Row where
  id := id
  capturedAtUtc := cText record.capturedAtUtc
  source := cText record.source
  severity := record.severity
  eventName := cText record.eventName
  message := cText record.message
  dataJson := format.dump record.data
  sessionId := cText record.sessionId
  sequence := record.sequence

/-- The record that is read from a row. -/
def Row.record (row : Row) : DiagnosticsRecord where
  id := row.id
  capturedAtUtc := row.capturedAtUtc
  source := row.source
  severity := row.severity
  eventName := row.eventName
  message := row.message
  data := (format.parse row.dataJson).getD (.object [])
  sessionId := row.sessionId
  sequence := row.sequence

/-- The `WHERE` of a query. -/
def DiagnosticsQuery.selectsRow (filters : DiagnosticsQuery) (row : Row) : Bool :=
  (filters.severity = "" || row.severity = diagnosticsSeverityFromString filters.severity) &&
  (filters.source = "" || row.source = cText filters.source) &&
  (filters.eventName = "" || row.eventName = cText filters.eventName) &&
  (filters.sinceUtc = "" || !decide (row.capturedAtUtc < cText filters.sinceUtc))

/-- `LIMIT`; a number that is negative as `int64_t` is no limit. -/
def DiagnosticsQuery.limitRows {α : Type} (filters : DiagnosticsQuery) (found : List α) : List α :=
  if filters.maxResults = 0 ∨ 9223372036854775808 ≤ filters.maxResults then found
  else found.take filters.maxResults

theorem limitRows_map {α β : Type} (filters : DiagnosticsQuery) (f : α → β) (found : List α) :
    filters.limitRows (found.map f) = (filters.limitRows found).map f := by
  rw [DiagnosticsQuery.limitRows, DiagnosticsQuery.limitRows]
  split_ifs
  · rfl
  · rw [List.map_take]

/-- The rows that a query selects, newest first. -/
def answerFrom (rows : List Row) (filters : DiagnosticsQuery) : List DiagnosticsRecord :=
  (filters.limitRows (rows.reverse.filter filters.selectsRow)).map (Row.record format)

namespace SqliteDiagnosticsStore

/-- `query`, which returns the rows it has when the statement fails. -/
def query (store : SqliteDiagnosticsStore) (failsAfter : Option ℕ) (filters : DiagnosticsQuery) :
    List DiagnosticsRecord :=
  if store.isOpen then
    match failsAfter with
    | none => answerFrom format store.rows filters
    | some rows => (answerFrom format store.rows filters).take rows
  else []

/-- `openAndMigrateLocked`. -/
def reopen (store : SqliteDiagnosticsStore) (io : StoreIO) : SqliteDiagnosticsStore :=
  { store with isOpen := store.isOpen || io.opens }

/-- The table without some rows. -/
def keep (store : SqliteDiagnosticsStore) (kept : Row → Bool) : SqliteDiagnosticsStore where
  isOpen := store.isOpen
  rows := store.rows.filter kept
  nextId := store.nextId
  sorted := store.sorted.filter kept
  below row hrow := store.below row (List.mem_of_mem_filter hrow)

/-- The table with one more row. -/
def push (store : SqliteDiagnosticsStore) (record : DiagnosticsRecord) :
    SqliteDiagnosticsStore where
  isOpen := store.isOpen
  rows := store.rows ++ [rowOf format store.nextId record]
  nextId := store.nextId + 1
  sorted := List.pairwise_append.mpr ⟨store.sorted, List.pairwise_singleton _ _,
    fun row hrow row' hrow' => by
      rw [List.mem_singleton.mp hrow']
      exact store.below row hrow⟩
  below row hrow := by
    rcases List.mem_append.mp hrow with hold | hnew
    · exact Nat.lt_succ_of_lt (store.below row hold)
    · rw [List.mem_singleton.mp hnew]
      exact Nat.lt_succ_self _

/-- `insert`: the record with its row id, if that worked. -/
def insert (store : SqliteDiagnosticsStore) (io : StoreIO) (record : DiagnosticsRecord) :
    Bool × DiagnosticsRecord × SqliteDiagnosticsStore :=
  let store := store.reopen io
  if store.isOpen && io.works then
    (true, { record with id := store.nextId }, store.push format record)
  else (false, record, store)

/-- Whether a clear with this bound leaves a row. -/
def retains (retainSinceUtc : String) (capturedAtUtc : String) : Bool :=
  !(retainSinceUtc = "" || decide (capturedAtUtc < cText retainSinceUtc))

/-- `clear`, and how many rows are deleted if that worked. -/
def clear (store : SqliteDiagnosticsStore) (io : StoreIO) (retainSinceUtc : String) :
    Option ℕ × SqliteDiagnosticsStore :=
  let store := store.reopen io
  if store.isOpen && io.works then
    let left := store.keep fun row => retains retainSinceUtc row.capturedAtUtc
    (some (store.rows.length - left.rows.length), left)
  else (none, store)

def isSelfTest (row : Row) : Bool := row.source = "self-test"

/-- The ids of the self-tests that are kept. -/
def newestSelfTests (store : SqliteDiagnosticsStore) (keepCount : ℕ) : List ℕ :=
  ((store.rows.filter isSelfTest).reverse.take keepCount).map Row.id

def pruneSelfTestSnapshots (store : SqliteDiagnosticsStore) (io : StoreIO) (keepCount : ℕ) :
    SqliteDiagnosticsStore :=
  let store := store.reopen io
  if store.isOpen && io.works then
    store.keep fun row => !(isSelfTest row && !(store.newestSelfTests keepCount).contains row.id)
  else store

end SqliteDiagnosticsStore

end Store

/-! ## The service -/

def kRingCapacity : ℕ := 1000

def kSelfTestRetention : ℕ := 50

structure DiagnosticsService where
  store : Option SqliteDiagnosticsStore
  sessionId : String
  nextSequence : ℕ := 1
  ring : List DiagnosticsRecord := []

/-- The last records of a list. -/
def lastRecords {α : Type} (capacity : ℕ) (records : List α) : List α :=
  records.drop (records.length - capacity)

/-- The tests in the loop over the ring. -/
def DiagnosticsQuery.selects (filters : DiagnosticsQuery) (record : DiagnosticsRecord) : Bool :=
  (filters.severity = "" || record.severity = diagnosticsSeverityFromString filters.severity) &&
  (filters.source = "" || record.source = filters.source) &&
  (filters.eventName = "" || record.eventName = filters.eventName) &&
  (filters.sinceUtc = "" || !decide (record.capturedAtUtc < filters.sinceUtc))

/-- The loop over the ring, newest first, with so many results so far. -/
def collect (filters : DiagnosticsQuery) :
    List DiagnosticsRecord → List DiagnosticsRecord → List DiagnosticsRecord
  | [], results => results
  | record :: rest, results =>
    if filters.selects record then
      let results := results ++ [record]
      if 0 < filters.maxResults ∧ filters.maxResults ≤ results.length then results
      else collect filters rest results
    else collect filters rest results

def ringQuery (ring : List DiagnosticsRecord) (filters : DiagnosticsQuery) :
    List DiagnosticsRecord :=
  collect filters ring.reverse []

/-- The arguments of `report`. -/
structure Report where
  severity : DiagnosticsSeverity
  source : String
  eventName : String
  message : String
  data : Json
  capturedAtUtc : String

namespace DiagnosticsService

variable (format : JsonText)

/-- The record of a report. -/
def recordOf (service : DiagnosticsService) (report : Report) : DiagnosticsRecord where
  capturedAtUtc := report.capturedAtUtc
  source := if report.source = "" then "runtime" else report.source
  severity := report.severity
  eventName := report.eventName
  message := report.message
  data := report.data
  sessionId := service.sessionId
  sequence := service.nextSequence

/-- `report`: the record as it is pushed onto the ring. -/
def report (service : DiagnosticsService) (io : StoreIO) (report : Report) :
    DiagnosticsRecord × DiagnosticsService :=
  let record := service.recordOf report
  let (record, store) :=
    match service.store with
    | none => (record, none)
    | some store =>
      let (_, record, store) := store.insert format io record
      (record, some store)
  (record, { service with
    store
    nextSequence := service.nextSequence + 1
    ring := lastRecords kRingCapacity (service.ring ++ [record]) })

def selfTestReport (snapshot : Json) (capturedAtUtc : String) : Report where
  severity := .info
  source := "self-test"
  eventName := "boot_self_test_snapshot"
  message := "Boot self-test snapshot persisted."
  data := snapshot
  capturedAtUtc := capturedAtUtc

def prune (service : DiagnosticsService) (io : StoreIO) : DiagnosticsService :=
  { service with
    store := service.store.map fun store => store.pruneSelfTestSnapshots io kSelfTestRetention }

/-- `query`, with the rows after which the statement fails. -/
def query (service : DiagnosticsService) (failsAfter : Option ℕ) (filters : DiagnosticsQuery) :
    List DiagnosticsRecord :=
  match service.store with
  | some store =>
    if store.isOpen then store.query format failsAfter filters else ringQuery service.ring filters
  | none => ringQuery service.ring filters

def clearReport (reason retainSinceUtc capturedAtUtc : String) (deletedRows : ℕ) : Report where
  severity := .info
  source := "runtime"
  eventName := "diagnostics_cleared"
  message :=
    if reason = "" then "Diagnostics cleared by operator request."
    else "Diagnostics cleared: " ++ reason
  data := .object [("deletedRows", .integer deletedRows), ("retainSinceUtc", .string retainSinceUtc)]
  capturedAtUtc := capturedAtUtc

/-- Whether a clear with this bound leaves a record on the ring. -/
def retains (retainSinceUtc capturedAtUtc : String) : Bool :=
  !(retainSinceUtc = "" || decide (capturedAtUtc < retainSinceUtc))

/-- The part of `clear` under the lock: whether it is `ok`, and the deleted rows if the clear is to
be reported. -/
def clearLocked (service : DiagnosticsService) (io : StoreIO) (retainSinceUtc : String) :
    Bool × Option ℕ × DiagnosticsService :=
  match service.store with
  | none => (true, none, { service with ring := [] })
  | some store =>
    match store.clear io retainSinceUtc with
    | (some deleted, store) =>
      (true, some deleted, { service with
        store := some store
        ring := service.ring.filter fun record => retains retainSinceUtc record.capturedAtUtc })
    | (none, store) => (false, none, { service with store := some store })

end DiagnosticsService

end Diagnostics
end MasterControl
