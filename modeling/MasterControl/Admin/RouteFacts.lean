import MasterControl.Admin.RouteTable
import Mathlib

/-!
# What the tables and blocks are, checked once

The facts about the finitely many blocks and rows that the comparison over all paths rests on.
They are the fields of `RouteFacts`, and `routeFacts` is where they are evaluated.

A block or a row is found by its start: of the starts of a path, no two are listed here
(`RouteFacts.comparable_starts`).
-/

namespace MasterControl
namespace Admin

open Foundation

/-! ## Identifiers -/

/-- The starts and endings between which a client, an approval or a dependency is named. -/
def namedParts : List (Bytes × Bytes) :=
  ["/config", "/disable", "/enable", "/privileges", "/autonomous-mode"].map
      (fun ending => (literal "/api/clients/", literal ending)) ++
    [(literal "/api/clu/approvals/", literal "/approve"),
     (literal "/api/clu/approvals/", literal "/reject"),
     (literal "/api/setup/dependencies/", literal "/install")]

/-- The patterns of what is below a client. -/
def clientPatterns : List Bytes :=
  ["/api/clients/*/config", "/api/clients/*/disable", "/api/clients/*/enable",
    "/api/clients/*/privileges", "/api/clients/*/autonomous-mode"].map literal

def RouteCondition.parts? : RouteCondition → Option (Bytes × Bytes)
  | .closing start ending => some (start, ending)
  | .exact _ | .under _ => none

/-- Paths in which an identifier is missing. -/
def jointPaths : List Bytes :=
  namedParts.flatMap fun parts => [parts.1 ++ parts.2, parts.1 ++ parts.2.tail]

/-! ## Exact paths -/

/-- The paths and methods of the exact conditions. -/
def exactMethods : List (Bytes × Verb) :=
  routeBlocks.filterMap fun block =>
    match block.method, block.condition with
    | some method, .exact path => some (path, method)
    | _, _ => none

/-- The paths and methods of the exact rows. -/
def rowMethods : List (Bytes × Verb) :=
  kExact.flatMap fun entry => entry.2.map fun method => (entry.1, method)

def profilePath : Bytes := literal "/api/governance/profile"

def eventsPath : Bytes := literal "/api/telemetry/events"

def activityPath : Bytes := literal "/api/activity"

def activityHealthPath : Bytes := literal "/api/activity/health"

/-- The exact conditions without an exact row: the first has none, the others have a start. -/
def unlisted : List (Bytes × Verb) :=
  [(profilePath, .post), (eventsPath, .get), (activityPath, .get)]

/-- The paths of the exact conditions and rows. -/
def exactPaths : List Bytes := eventsPath :: activityPath :: kExact.map Prod.fst

/-! ## Starts -/

/-- The starts below which every method of the row, and no other, is answered. -/
def uniformStarts : List (Bytes × List Verb) :=
  [row "/api/governance/agentic-edition/document/" [.get], row "/api/onboarding/" [.get],
   row "/api/client-integrations/" [.get], row "/api/governance/bundles/" [.get],
   row "/api/pools/" [.get, .post], row "/api/leases/" [.post],
   row "/api/setup/dependencies/" [.post], row "/api/platform-services/config/" [.get],
   row "/mcp/gateway/" [.get], row "/mcp/governance/" [.get, .post],
   row "/api/clu/approvals/" [.post]]

def templatesStart : Bytes := literal "/api/setup/workflow-templates/"

def clientsStart : Bytes := literal "/api/clients/"

def workflowsStart : Bytes := literal "/api/workflows/"

/-- The starts of the blocks. -/
def blockStarts : List Bytes :=
  uniformStarts.map Prod.fst ++ [templatesStart, clientsStart, workflowsStart]

/-- The starts of the blocks and rows. -/
def allStarts : List Bytes := blockStarts ++ [eventsPath, activityPath]

def RouteBlock.isOpen (block : RouteBlock) : Bool :=
  match block.condition with
  | .exact _ => false
  | .under _ | .closing _ _ => true

/-- The texts around the star of a pattern. -/
def patternAround (pattern : Bytes) : Bytes × Bytes :=
  let segments := splitRouteSegments pattern
  let star := literal "*"
  ((segments.takeWhile (· ≠ star)).flatMap (· ++ [slash]),
    (segments.dropWhile (· ≠ star)).tail.flatMap (slash :: ·))

/-- Away from the paths that are given as a whole, four starts are those of the drifted ones. -/
def driftStarts : List Bytes := [workflowsStart, clientsStart, eventsPath, activityPath]

/-! ## The facts -/

structure RouteFacts : Type where
  row_methods : ∀ entry ∈ kExact ++ kPatterns ++ kPrefix, ∀ method ∈ entry.2,
    method ∈ requestMethods
  exact_listed : ∀ pair ∈ exactMethods.map numbered, pair ∈ (rowMethods ++ unlisted).map numbered
  exact_served : ∀ pair ∈ (rowMethods ++ unlisted).map numbered, pair ∈ exactMethods.map numbered
  exact_nodup : (kExact.map fun entry => number entry.1).Nodup
  /-- A block with an exact condition asks for the method. -/
  exact_method : ∀ block ∈ routeBlocks, block.isOpen = false → block.method ≠ none
  exact_not_under : ∀ path ∈ exactPaths,
    (∀ start ∈ blockStarts, start.isPrefixOf path = false) ∧
    (eventsPath.isPrefixOf path = true → path = eventsPath) ∧
    (activityPath.isPrefixOf path = true → path = activityPath ∨ path = activityHealthPath)
  special_rows : profilePath ∈ kExact.map Prod.fst ∧ activityHealthPath ∈ kExact.map Prod.fst ∧
    eventsPath ∉ kExact.map Prod.fst ∧ activityPath ∉ kExact.map Prod.fst
  special_methods : supportedMethodsForPath profilePath = [.get] ∧
    supportedMethodsForPath eventsPath = [.get] ∧ supportedMethodsForPath activityPath = [.get]
  comparable_starts : ∀ start ∈ allStarts, ∀ other ∈ allStarts,
    comparable start other = true → start = other
  block_start : ∀ block ∈ routeBlocks, block.isOpen = true → block.around.1 ∈ blockStarts
  pattern_start : ∀ entry ∈ kPatterns, (patternAround entry.1).1 ∈ blockStarts
  row_start : ∀ entry ∈ kPrefix, entry.1 ∈ allStarts
  pattern_starred : ∀ entry ∈ kPatterns,
    let segments := splitRouteSegments entry.1
    let star := literal "*"
    segments = segments.takeWhile (· ≠ star) ++ star :: (segments.dropWhile (· ≠ star)).tail ∧
      star ∉ segments.takeWhile (· ≠ star) ∧ star ∉ (segments.dropWhile (· ≠ star)).tail
  uniform : ∀ family ∈ uniformStarts,
    (∀ method ∈ family.2, ∃ block ∈ routeBlocks,
      block.method = some method ∧ block.condition = .under family.1) ∧
    (∀ block ∈ routeBlocks, block.isOpen = true → block.around.1 = family.1 →
      ∃ method ∈ family.2, block.method = some method) ∧
    (∀ entry ∈ kPatterns, (patternAround entry.1).1 = family.1 → entry.2 = family.2) ∧
    (∀ entry ∈ kPrefix, entry.1 = family.1 → entry.2 = family.2) ∧ family.1 ∉ driftStarts
  templates :
    (∀ block ∈ routeBlocks, block.isOpen = true → block.around.1 = templatesStart →
      block.method = some .post) ∧
    (∃ block ∈ routeBlocks, block.method = some .post ∧
      block.condition = .closing templatesStart (literal "/instantiate")) ∧
    (∀ entry ∈ kPatterns, (patternAround entry.1).1 = templatesStart →
      (patternAround entry.1).2 = literal "/instantiate" ∧ entry.2 = [.post]) ∧
    (∀ entry ∈ kPrefix, entry.1 ≠ templatesStart) ∧ templatesStart ∉ driftStarts
  workflows :
    (∃ block ∈ routeBlocks, block.method = none ∧ block.condition = .under workflowsStart) ∧
    (∀ entry ∈ kPatterns, (patternAround entry.1).1 ≠ workflowsStart) ∧
    (∀ entry ∈ kPrefix, entry.1 = workflowsStart → entry.2 = [.get, .post, .delete]) ∧
    ∃ entry ∈ kPrefix, entry.1 = workflowsStart
  clients :
    (∀ block ∈ routeBlocks, block.isOpen = true → block.around.1 = clientsStart →
      block.method = some .get ∨ block.method = some .delete ∨
        ∃ parts ∈ namedParts, block.condition.parts? = some parts) ∧
    (∀ method ∈ [Verb.get, Verb.delete], ∃ block ∈ routeBlocks,
      block.method = some method ∧ block.condition = .under clientsStart) ∧
    (∀ entry ∈ kPatterns, (patternAround entry.1).1 = clientsStart →
      (entry.1 ∈ clientPatterns ∧ entry.2 ≠ [] ∧ .delete ∉ entry.2) ∨
        ((patternAround entry.1).2 = [] ∧ entry.2 = [.get, .delete])) ∧
    ∀ entry ∈ kPrefix, entry.1 ≠ clientsStart
  /-- The patterns below a client are in the table, and have a slash behind the star. -/
  client_patterns : ∀ pattern ∈ clientPatterns, slash ∈ (patternAround pattern).2 ∧
    ∃ entry ∈ kPatterns, entry.1 = pattern ∧ (patternAround entry.1).1 = clientsStart
  /-- The rows that take a whole path for a start have no blocks. -/
  overreaching : ∀ start ∈ [eventsPath, activityPath],
    start ∉ blockStarts ∧ (∀ entry ∈ kPatterns, (patternAround entry.1).1 ≠ start) ∧
      (∀ entry ∈ kPrefix, entry.1 = start → entry.2 = [.get]) ∧
      ∃ entry ∈ kPrefix, entry.1 = start
  drift_start : ∀ start ∈ driftStarts, start ∈ allStarts
  named : ∀ block ∈ routeBlocks, block.named = true →
    ∀ parts ∈ block.condition.parts?, parts ∈ namedParts
  named_parts : ∀ parts ∈ namedParts, parts.1 ∈ blockStarts ∧ parts.1.getLast? = some slash ∧
    parts.2.head? = some slash ∧ slash ∉ parts.2.tail
  joint_identifier : ∀ path ∈ jointPaths, ∃ method ∈ [Verb.post, Verb.get],
    ∃ block ∈ route method path, ∃ id ∈ block.actsOn path,
      ¬ (id ≠ [] ∧ path = block.around.1 ++ id ++ block.around.2)

def routeFacts : RouteFacts where
  row_methods := by decide +kernel
  exact_listed := by decide +kernel
  exact_served := by decide +kernel
  exact_nodup := by decide +kernel
  exact_method := by decide +kernel
  exact_not_under := by decide +kernel
  special_rows := by decide +kernel
  special_methods := by decide +kernel
  comparable_starts := by decide +kernel
  block_start := by decide +kernel
  pattern_start := by decide +kernel
  row_start := by decide +kernel
  pattern_starred := by decide +kernel
  uniform := by decide +kernel
  templates := by decide +kernel
  workflows := by decide +kernel
  clients := by decide +kernel
  client_patterns := by decide +kernel
  overreaching := by decide +kernel
  drift_start := by decide +kernel
  named := by decide +kernel
  named_parts := by decide +kernel
  joint_identifier := by decide +kernel

end Admin
end MasterControl
