import MasterControl.Diagnostics.Service
import MasterControl.Foundation.ByteText
import MasterControl.Foundation.JsonAccess
import MasterControl.Foundation.NewestFirst
import MasterControl.Foundation.Search
import MasterControl.Foundation.Utf8

/-!
# The events that are asked for

`GET /api/diagnostics/events` answers from the store if that is open and has rows, and else from the
`events.jsonl` files of the components.  Either way it first reads a multiple of the number asked
for, counted modulo 2^64, and then drops the events that do not match.
-/

namespace MasterControl
namespace Diagnostics

open Foundation

/-! ## The parameters -/

/-- What follows `name=` at the start of the query or behind an `&`. -/
def valueStart (query name : Bytes) : Option Bytes :=
  let needle := name ++ [61]
  if needle.isPrefixOf query then some (query.drop needle.length)
  else (cut (38 :: needle) query).map Prod.snd

/-- The value of the first name that is present. -/
def extractQueryParamAny (query : Bytes) : List Bytes → Bytes
  | [] => []
  | name :: candidates =>
    match valueStart query name with
    | some value => value.takeWhile (· ≠ 38)
    | none => extractQueryParamAny query candidates

def severityOf (query : Bytes) : Bytes :=
  extractQueryParamAny query [asciiBytes "severity", asciiBytes "level"]

def sourceOf (query : Bytes) : Bytes :=
  extractQueryParamAny query [asciiBytes "source", asciiBytes "component"]

def maxTextOf (query : Bytes) : Bytes :=
  extractQueryParamAny query
    [asciiBytes "max", asciiBytes "limit", asciiBytes "count", asciiBytes "n", asciiBytes "top"]

/-- `maxN`. -/
def maxOf (query : Bytes) : ℕ :=
  let maxN := (stoull (maxTextOf query)).getD 200
  if maxN = 0 then 200 else maxN

/-! ## The log files -/

/-- The files of a component that can be read. -/
structure ComponentLogs where
  /-- `events.jsonl`. -/
  live : Option Bytes
  /-- `events.jsonl.1`. -/
  rotated : Option Bytes

/-- The service, and what stands below the logs root, if that exists. -/
structure DiagnosticsHistory where
  diagnosticsService : Option DiagnosticsService
  logsRoot : Option (List ComponentLogs)

/-- `std::size_t`. -/
def sizeT (n : ℕ) : ℕ := n % 18446744073709551616

def capturedAtUtc (event : Json) : Option String := Json.valueString "capturedAtUtc" "" event

/-- How old a value is; one that has no time is as old as can be. -/
def age (event : Json) : String := (capturedAtUtc event).getD ""

/-- `std::sort`, which may leave events of one time in any order. -/
structure NewestSort where
  sort : List Json → List Json
  perm : ∀ events, (sort events).Perm events
  newestFirst : ∀ events, NewestFirst age (sort events)

/-- The comparison throws on a value whose time cannot be read, and a single value is compared with
nothing. -/
def NewestSort.sortEvents (sorter : NewestSort) (events : List Json) : Option (List Json) :=
  if 2 ≤ events.length && events.any fun event => (capturedAtUtc event).isNone then none
  else some (sorter.sort events)

section Route

variable (format : JsonText) (sorter : NewestSort)

/-- The lines of a file that are JSON. -/
def readJsonlLines (file : Option Bytes) : List Json :=
  match file with
  | none => []
  | some text => ((getLines text).filter (· ≠ [])).filterMap format.parse

def headroomCap (softCap : ℕ) : ℕ := if softCap = 0 then 0 else sizeT (softCap * 4 + 32)

def haveEnough (softCap : ℕ) (events : List Json) : Bool :=
  headroomCap softCap ≠ 0 && headroomCap softCap ≤ events.length

/-- The second pass, over the rotated files. -/
def readRotated (softCap : ℕ) : List ComponentLogs → List Json → List Json
  | [], events => events
  | component :: components, events =>
    let events := events ++ readJsonlLines format component.rotated
    if haveEnough softCap events then events else readRotated softCap components events

/-- The values that are read. -/
def readEvents (softCap : ℕ) (components : List ComponentLogs) : List Json :=
  let events := components.flatMap fun component => readJsonlLines format component.live
  if haveEnough softCap events then events else readRotated format softCap components events

def aggregateDiagnosticsEventsFromRoot (softCap : ℕ) (logsRoot : Option (List ComponentLogs)) :
    Option (List Json) :=
  match logsRoot with
  | none => some []
  | some components => sorter.sortEvents (readEvents format softCap components)

/-! ## The route -/

def severityText : DiagnosticsSeverity → String
  | .debug => "debug"
  | .info => "info"
  | .warning => "warning"
  | .error => "error"
  | .critical => "critical"

def DiagnosticsRecord.toLegacyJson (record : DiagnosticsRecord) : Json :=
  .object [("capturedAtUtc", .string record.capturedAtUtc), ("component", .string record.source),
    ("data", record.data), ("event", .string record.eventName), ("message", .string record.message),
    ("sequence", .integer record.sequence), ("sessionId", .string record.sessionId),
    ("severity", .string (severityText record.severity))]

/-- The store whose rows are the history. -/
def DiagnosticsHistory.usedStore (history : DiagnosticsHistory) : Option SqliteDiagnosticsStore :=
  (history.diagnosticsService.bind DiagnosticsService.store).filter fun store =>
    store.isOpen && 0 < store.rows.length

def storeQuery (softCap : ℕ) : DiagnosticsQuery where
  maxResults := if 0 < softCap then sizeT (softCap * 4) else 0

def aggregateEvents (history : DiagnosticsHistory) (softCap : ℕ) : Option (List Json) :=
  match history.usedStore with
  | some store =>
    some ((store.query format none (storeQuery softCap)).map DiagnosticsRecord.toLegacyJson)
  | none => aggregateDiagnosticsEventsFromRoot format sorter softCap history.logsRoot

/-- Drop the events where a member is not the wanted text. -/
def keepEqual (key : String) (wanted : Bytes) (events : List Json) : Option (List Json) :=
  if wanted = [] then some events
  else Json.filter?
    (fun event => (Json.valueString key "" event).map fun value => utf8Bytes value.toList = wanted)
    events

def applyFilters (query : Bytes) (events : List Json) : Option (List Json) :=
  if query = [] then some events
  else (keepEqual "severity" (severityOf query) events).bind
    (keepEqual "component" (sourceOf query))

def eventsBody (events : List Json) : Json :=
  .object [("count", .integer events.length), ("events", .array events)]

/-- `GET /api/diagnostics/events`; `none` is an exception. -/
def diagnosticsEvents (history : DiagnosticsHistory) (query : Bytes) : Option Json := do
  let maxN := maxOf query
  let events ← aggregateEvents format sorter history maxN
  let events ← applyFilters query events
  some (eventsBody (events.take maxN))

end Route

end Diagnostics
end MasterControl
