import MasterControl.Foundation.ByteText
import MasterControl.Foundation.RoutePatterns

/-!
# The table of the admin routes and their dispatch

`handleHttpRequest` goes through some hundred and thirty blocks, each with a condition on the
method and the path, and the first whose condition holds answers.  Where none does, three tables
say which methods the path supports: one of whole paths, one of patterns, and one of starts, in
this order.  A path with a row is answered with status 405 and an `Allow` header, any other by the
file server.

The dispatch is the one behind authentication.
-/

namespace MasterControl
namespace Admin

open Foundation

/-- The bytes of a string literal. -/
def literal (text : String) : Bytes := text.toUTF8.data.toList

/-! ## Methods -/

inductive Verb where
  | get | head | post | put | patch | delete | options
  deriving DecidableEq

def Verb.text : Verb → Bytes
  | .get => literal "GET"
  | .head => literal "HEAD"
  | .post => literal "POST"
  | .put => literal "PUT"
  | .patch => literal "PATCH"
  | .delete => literal "DELETE"
  | .options => literal "OPTIONS"

/-- The methods of requests that reach the dispatch. -/
def requestMethods : List Verb := [.get, .post, .put, .patch, .delete]

/-! ## The registry -/

def slash : UInt8 := 47

def questionMark : UInt8 := 63

def splitRouteSegments (path : Bytes) : List Bytes := path.splitOn slash

def routePatternMatches (path pattern : Bytes) : Bool :=
  segmentsMatch (literal "*") (splitRouteSegments path) (splitRouteSegments pattern)

def row (path : String) (methods : List Verb) : Bytes × List Verb := (literal path, methods)

def kExact : List (Bytes × List Verb) :=
  [row "/api/health" [.get], row "/api/version" [.get], row "/api/health/summary" [.get],
   row "/api/host/telemetry" [.get], row "/api/readiness" [.get],
   row "/api/activity/health" [.get], row "/.well-known/mcos.json" [.get],
   row "/api/discovery" [.get], row "/api/onboarding" [.get], row "/api/beacon" [.get],
   row "/api/environment-hints" [.get], row "/api/governance/profile" [.get],
   row "/api/governance/bundles" [.get], row "/api/governance/decisions" [.get, .post],
   row "/api/dashboard" [.get], row "/api/config" [.get, .post, .patch],
   row "/api/exports" [.get], row "/api/workflows" [.get, .post], row "/api/clu" [.get],
   row "/api/clu/tools" [.get], row "/api/clu/apple-operations" [.get],
   row "/api/clu/apple-operations/cancel" [.post], row "/api/clu/approvals" [.get],
   row "/api/clu/execute" [.post], row "/api/forsetti/surface" [.get],
   row "/api/forsetti/modules" [.get], row "/api/forsetti/modules/state" [.post],
   row "/api/pools" [.get, .post], row "/api/telemetry/clients" [.get],
   row "/api/telemetry/gateway" [.get], row "/api/telemetry/heartbeat" [.post],
   row "/api/gateway/status" [.get], row "/api/gateway/health" [.get],
   row "/api/gateway/tools" [.get], row "/api/gateway/start" [.post],
   row "/api/gateway/stop" [.post], row "/api/gateway/restart" [.post],
   row "/api/client/mcp-servers" [.get], row "/api/client/sub-agents" [.get],
   row "/api/client/activity" [.get], row "/api/client/governance/profile" [.get],
   row "/api/client/governance/decisions" [.post], row "/api/client/heartbeat" [.post],
   row "/api/clients" [.get, .post], row "/api/setup/state" [.get],
   row "/api/setup/start" [.post], row "/api/setup/complete" [.post],
   row "/api/setup/dismiss" [.post], row "/api/setup/reset" [.post],
   row "/api/setup/dependencies" [.get], row "/api/setup/workflow-templates" [.get],
   row "/api/install/history" [.get], row "/api/install/package" [.post],
   row "/api/install/repo" [.post], row "/api/install/zip" [.post],
   row "/api/settings/advanced-mode" [.post], row "/api/runtime/mcp-servers" [.post],
   row "/api/runtime/mcp-servers/remove" [.post], row "/api/runtime/subagents" [.post],
   row "/api/runtime/subagents/remove" [.post], row "/api/runtime/subagent-groups" [.post],
   row "/api/runtime/subagent-groups/remove" [.post], row "/api/platform-services" [.get],
   row "/api/platform-services/gateways" [.get], row "/api/platform-services/governance" [.get],
   row "/api/platform-services/apple-hosts" [.get, .post],
   row "/api/platform-services/apple-hosts/remove" [.post],
   row "/api/claude-plugin/status" [.get], row "/api/claude-plugin/toggle" [.post],
   row "/api/chatgpt-plugin/status" [.get], row "/api/chatgpt-plugin/toggle" [.post],
   row "/api/grok-plugin/status" [.get], row "/api/grok-plugin/toggle" [.post],
   row "/api/diagnostics/runtime-stats" [.get], row "/api/diagnostics/events" [.get],
   row "/api/diagnostics/summary" [.get], row "/api/diagnostics/self-test" [.get],
   row "/api/diagnostics/export" [.get], row "/api/diagnostics/clear" [.post],
   row "/api/self-tests" [.get], row "/api/self-tests/run" [.post], row "/api/events" [.get],
   row "/api/governance/agentic-edition/manifest" [.get], row "/api/supervisor/assignment" [.get],
   row "/api/supervisor/assignment/select" [.post],
   row "/api/supervisor/assignment/revoke" [.post], row "/api/supervisor/config/generate" [.post],
   row "/api/supervisor/connect/confirm" [.post], row "/api/supervisor/heartbeat" [.post],
   row "/api/supervisor/status" [.get], row "/api/supervisor/reachability-check" [.get],
   row "/api/client-integrations" [.get]]

def kPatterns : List (Bytes × List Verb) :=
  [row "/api/setup/workflow-templates/*/instantiate" [.post],
   row "/api/clients/*" [.get, .delete], row "/api/clients/*/config" [.get],
   row "/api/clients/*/disable" [.post], row "/api/clients/*/enable" [.post],
   row "/api/clients/*/privileges" [.post], row "/api/clients/*/autonomous-mode" [.post],
   row "/api/clu/approvals/*/approve" [.post], row "/api/clu/approvals/*/reject" [.post]]

def kPrefix : List (Bytes × List Verb) :=
  [row "/api/onboarding/" [.get], row "/api/client-integrations/" [.get],
   row "/api/governance/bundles/" [.get], row "/api/setup/dependencies/" [.post],
   row "/api/platform-services/config/" [.get], row "/api/leases/" [.post],
   row "/api/pools/" [.get, .post], row "/api/telemetry/events" [.get],
   row "/api/activity" [.get], row "/api/workflows/" [.get, .post, .delete],
   row "/mcp/gateway/" [.get], row "/mcp/governance/" [.get, .post],
   row "/api/governance/agentic-edition/document/" [.get]]

/-- The rows of patterns and of starts. -/
def openMethods (path : Bytes) : List Verb :=
  match kPatterns.find? fun entry => routePatternMatches path entry.1 with
  | some entry => entry.2
  | none =>
    match kPrefix.find? fun entry => entry.1.isPrefixOf path with
    | some entry => entry.2
    | none => []

def supportedMethodsForPath (path : Bytes) : List Verb :=
  let p := path.takeWhile (· ≠ questionMark)
  match kExact.find? fun entry => entry.1 = p with
  | some entry => entry.2
  | none => openMethods p

def kOrder : List Verb := [.get, .head, .post, .put, .patch, .delete, .options]

/-- The methods in the `Allow` header. -/
def allowedVerbs (methods : List Verb) : List Verb :=
  kOrder.filter fun verb =>
    methods.contains verb || (verb = .head && methods.contains .get) || verb = .options

def buildAllowHeader (methods : List Verb) : Bytes :=
  (literal ", ").intercalate ((allowedVerbs methods).map Verb.text)

/-! ## The blocks of the dispatch -/

/-- The condition of a block on the path. -/
inductive RouteCondition where
  | exact (path : Bytes)
  | under (start : Bytes)
  /-- `startsWith` and `endsWith`. -/
  | closing (start ending : Bytes)
  deriving DecidableEq

def RouteCondition.holds (path : Bytes) : RouteCondition → Bool
  | .exact whole => path = whole
  | .under start => start.isPrefixOf path
  | .closing start ending => start.isPrefixOf path && ending.isSuffixOf path

/-- Whether the condition can hold for a path with this start. -/
def RouteCondition.mayHold (start : Bytes) : RouteCondition → Bool
  | .exact path => start.isPrefixOf path
  | .under other | .closing other _ => other.isPrefixOf start || start.isPrefixOf other

theorem comparable_of_isPrefixOf {other start text : Bytes}
    (h : other.isPrefixOf (start ++ text) = true) :
    (other.isPrefixOf start || start.isPrefixOf other) = true := by
  rw [List.isPrefixOf_iff_prefix] at h
  rw [Bool.or_eq_true, List.isPrefixOf_iff_prefix, List.isPrefixOf_iff_prefix]
  exact List.prefix_or_prefix_of_prefix h (List.prefix_append start text)

theorem RouteCondition.mayHold_of_holds {condition : RouteCondition} {start text : Bytes}
    (h : condition.holds (start ++ text) = true) : condition.mayHold start = true := by
  cases condition with
  | exact path =>
    rw [RouteCondition.holds, decide_eq_true_eq] at h
    exact List.isPrefixOf_iff_prefix.mpr (h ▸ List.prefix_append start text)
  | under other => exact comparable_of_isPrefixOf h
  | closing other ending =>
    rw [RouteCondition.holds, Bool.and_eq_true] at h
    exact comparable_of_isPrefixOf h.1

/-- `path.substr(start.size(), path.size() - start.size() - ending.size())`.  If the path is too
short, the number of letters wraps around, and everything behind the start is taken. -/
def textBetween (path start ending : Bytes) : Bytes :=
  if start.length + ending.length ≤ path.length then
    (path.drop start.length).take (path.length - start.length - ending.length)
  else path.drop start.length

/-- A block; `none` is a block that does not ask for the method. -/
structure RouteBlock where
  method : Option Verb
  condition : RouteCondition
  /-- Whether it acts on the identifier in its path. -/
  named : Bool := false
  deriving DecidableEq

namespace RouteBlock

def admits (method : Verb) (path : Bytes) (block : RouteBlock) : Bool :=
  (block.method = none || block.method = some method) && block.condition.holds path

/-- The identifier that it acts on.  Without an ending, the block turns away a path without an
identifier and one with more segments. -/
def actsOn (path : Bytes) (block : RouteBlock) : Option Bytes :=
  if block.named then
    match block.condition with
    | .exact _ => none
    | .under start =>
      let suffix := path.drop start.length
      if suffix = [] || suffix.contains slash then none else some suffix
    | .closing start ending => some (textBetween path start ending)
  else none

/-- The text before the identifier, and the one behind it. -/
def around (block : RouteBlock) : Bytes × Bytes :=
  match block.condition with
  | .exact path => (path, [])
  | .under start => (start, [])
  | .closing start ending => (start, ending)

end RouteBlock

def onGet (path : String) : RouteBlock := ⟨some .get, .exact (literal path), false⟩

def onPost (path : String) : RouteBlock := ⟨some .post, .exact (literal path), false⟩

def onPatch (path : String) : RouteBlock := ⟨some .patch, .exact (literal path), false⟩

def onGetUnder (start : String) : RouteBlock := ⟨some .get, .under (literal start), false⟩

def onPostUnder (start : String) : RouteBlock := ⟨some .post, .under (literal start), false⟩

def onAnyUnder (start : String) : RouteBlock := ⟨none, .under (literal start), false⟩

def onPostClosing (start ending : String) : RouteBlock :=
  ⟨some .post, .closing (literal start) (literal ending), false⟩

def onGetTail (start : String) : RouteBlock := ⟨some .get, .under (literal start), true⟩

def onDeleteTail (start : String) : RouteBlock := ⟨some .delete, .under (literal start), true⟩

def onGetNamed (start ending : String) : RouteBlock :=
  ⟨some .get, .closing (literal start) (literal ending), true⟩

def onPostNamed (start ending : String) : RouteBlock :=
  ⟨some .post, .closing (literal start) (literal ending), true⟩

/-- The blocks in their order. -/
def routeBlocks : List RouteBlock :=
  [onGet "/api/events", onGet "/api/governance/agentic-edition/manifest",
   onGetUnder "/api/governance/agentic-edition/document/", onGet "/api/supervisor/assignment",
   onGet "/api/supervisor/status", onGet "/api/supervisor/reachability-check",
   onPost "/api/supervisor/assignment/select", onPost "/api/supervisor/config/generate",
   onPost "/api/supervisor/assignment/revoke", onPost "/api/supervisor/heartbeat",
   onPost "/api/supervisor/connect/confirm", onGet "/api/self-tests",
   onPost "/api/self-tests/run", onGet "/api/activity/health", onGet "/api/activity",
   onGet "/api/health", onGet "/api/version", onGet "/api/health/summary",
   onGet "/api/diagnostics/events", onGet "/api/diagnostics/summary",
   onGet "/api/diagnostics/self-test", onGet "/api/diagnostics/export",
   onPost "/api/diagnostics/clear", onGet "/api/host/telemetry",
   onGet "/api/claude-plugin/status", onPost "/api/claude-plugin/toggle",
   onGet "/api/chatgpt-plugin/status", onPost "/api/chatgpt-plugin/toggle",
   onGet "/api/grok-plugin/status", onPost "/api/grok-plugin/toggle", onGet "/api/dashboard",
   onGet "/api/diagnostics/runtime-stats", onGet "/api/config", onGet "/api/exports",
   onGet "/api/workflows", onPost "/api/workflows", onAnyUnder "/api/workflows/",
   onGet "/api/clu", onGet "/api/clu/tools", onGet "/api/clu/apple-operations",
   onGet "/api/forsetti/surface", onGet "/api/forsetti/modules", onGet "/api/install/history",
   onGet "/api/beacon", onGet "/.well-known/mcos.json", onGet "/api/discovery",
   onGet "/api/onboarding", onGetUnder "/api/onboarding/", onGet "/api/client-integrations",
   onGetUnder "/api/client-integrations/", onGet "/api/governance/profile",
   onPost "/api/governance/profile", onGetUnder "/api/governance/bundles/",
   onGet "/api/governance/bundles", onGet "/api/governance/decisions",
   onPost "/api/governance/decisions", onGet "/api/pools", onGetUnder "/api/pools/",
   onPost "/api/pools", onPostUnder "/api/pools/", onGet "/api/telemetry/events",
   onGet "/api/telemetry/clients", onGet "/api/telemetry/gateway",
   onPost "/api/telemetry/heartbeat", onPostUnder "/api/leases/", onGet "/api/gateway/status",
   onGet "/api/gateway/health", onGet "/api/gateway/tools", onPost "/api/gateway/start",
   onPost "/api/gateway/stop", onPost "/api/gateway/restart", onGet "/api/environment-hints",
   onGet "/api/client/mcp-servers", onGet "/api/client/sub-agents", onGet "/api/client/activity",
   onGet "/api/client/governance/profile", onPost "/api/client/governance/decisions",
   onPost "/api/client/heartbeat", onGet "/api/readiness", onGet "/api/setup/state",
   onPost "/api/setup/start", onPost "/api/setup/complete", onPost "/api/setup/dismiss",
   onPost "/api/setup/reset", onGet "/api/setup/dependencies",
   onPostNamed "/api/setup/dependencies/" "/install", onPostUnder "/api/setup/dependencies/",
   onGet "/api/setup/workflow-templates",
   onPostClosing "/api/setup/workflow-templates/" "/instantiate", onGet "/api/platform-services",
   onGet "/api/platform-services/gateways", onGet "/api/platform-services/governance",
   onGet "/api/platform-services/apple-hosts", onGetUnder "/api/platform-services/config/",
   onGetUnder "/mcp/gateway/", onGetUnder "/mcp/governance/",
   onPost "/api/settings/advanced-mode", onPost "/api/config", onPatch "/api/config",
   onPost "/api/platform-services/apple-hosts",
   onPost "/api/platform-services/apple-hosts/remove", onPost "/api/runtime/mcp-servers",
   onPost "/api/runtime/mcp-servers/remove", onPost "/api/runtime/subagents",
   onPost "/api/runtime/subagents/remove", onPost "/api/runtime/subagent-groups",
   onPost "/api/runtime/subagent-groups/remove", onGet "/api/clients",
   onGetNamed "/api/clients/" "/config", onGetTail "/api/clients/", onPost "/api/clients",
   onPostNamed "/api/clients/" "/disable", onPostNamed "/api/clients/" "/enable",
   onPostNamed "/api/clients/" "/privileges", onPostNamed "/api/clients/" "/autonomous-mode",
   onDeleteTail "/api/clients/", onPost "/api/forsetti/modules/state",
   onGet "/api/clu/approvals", onPostNamed "/api/clu/approvals/" "/approve",
   onPostNamed "/api/clu/approvals/" "/reject", onPostUnder "/api/clu/approvals/",
   onPost "/api/clu/execute", onPost "/api/clu/apple-operations/cancel",
   onPost "/api/install/package", onPost "/api/install/repo", onPost "/api/install/zip",
   onPostUnder "/mcp/governance/"]

/-! ## The dispatch -/

/-- The block that a request is routed to. -/
def route (method : Verb) (path : Bytes) : Option RouteBlock :=
  routeBlocks.find? (RouteBlock.admits method path)

/-- The answer with status 405: its `Allow` header, and what its body says besides. -/
structure MethodNotAllowed where
  allow : Bytes
  path : Bytes
  method : Bytes
  deriving DecidableEq

inductive RouteAnswer where
  | handled (block : RouteBlock)
  | methodNotAllowed (response : MethodNotAllowed)
  /-- Status 500: the path is no UTF-8 and cannot be written into the body. -/
  | unwritable
  | staticFile

def answerRequest (method : Verb) (path : Bytes) : RouteAnswer :=
  match route method path with
  | some block => .handled block
  | none =>
    let allowed := supportedMethodsForPath path
    if allowed = [] then .staticFile
    else if validUtf8 path then
      .methodNotAllowed ⟨buildAllowHeader allowed, path, method.text⟩
    else .unwritable

/-- Whether a request with the verb has a handler: the preflight answers every `OPTIONS`, and a
`HEAD` request is dispatched as `GET`. -/
def accepts (path : Bytes) : Verb → Bool
  | .options => true
  | .head => (route .get path).isSome
  | method => (route method path).isSome

end Admin
end MasterControl
