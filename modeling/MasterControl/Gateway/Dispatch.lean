import MasterControl.Foundation.Json
import MasterControl.Gateway.ToolNames
import MasterControl.Leasing.Router
import MasterControl.Stdio.Bridge

/-!
# The JSON-RPC dispatcher of the gateway

`handleMcpRequest` turns one HTTP body into one reply body, and `processGatewayJob` drains
the rest of the body before it and turns what it throws into a 500.  A reply body is
`none` when it is empty, else the document it carries; how a document is written is left
to the JSON library, whose parser is a parameter.

A notification, a request without `id`, must never be answered, and any other request must
be answered with its own id.  The dispatcher looks at the missing id on some of its exits
only, and a 500 always carries the id null; `reply_discipline_iff` says for which requests
the rule is kept.
-/

namespace MasterControl
namespace Gateway

open Foundation Supervisor Leasing Stdio

/-! ## What the dispatcher uses -/

/-- What a call may throw: a standard exception with its text, or anything else. -/
inductive GatewayException where
  | standard (what : String)
  | other

structure CapabilityAuthorizationContext where
  actor : String := "anonymous"
  clientId : String := ""
  capabilities : List String := []
  denialReason : String := ""

structure CapabilityDenialAuditEvent where
  actor : String
  clientId : String
  remoteAddress : String
  method : String
  toolName : String
  requiredCapabilities : List String
  reason : String

/-- What the adapter is attached to, as one request meets it. -/
structure GatewayServices where
  json : JsonLibrary
  /-- `MASTERCONTROL_VERSION`. -/
  version : String
  /-- Whether both the supervisor and the lease router are attached. -/
  bridgeAttached : Bool
  /-- `toolCatalogCache_`. -/
  toolCatalogCache : List McpToolDescriptor
  /-- The answer of `currentToolCatalog()`. -/
  currentToolCatalog : List McpToolDescriptor
  capabilityResolver :
    Option (String → String → Except GatewayException CapabilityAuthorizationContext)
  capabilityDenialAuditSink : Option (CapabilityDenialAuditEvent → Except GatewayException Unit)
  bridgeRequestIdCounter : Nat
  acquireLease : LeaseRequest → EndpointLease
  sendStdioJsonRpc : String → Json → StdioBridgeResult

/-- How one read of the remaining body ends. -/
inductive EntityRead where
  | bytes (chunk : Bytes)
  | endOfFile
  | connectionGone
  | otherError

structure GatewayRequestJob where
  body : Bytes
  drainRemainingBody : Bool := false
  /-- The reads of the rest of the body. -/
  entityReads : List EntityRead := []
  clientIpAddress : String := ""
  clientType : String := ""
  clientId : String := ""
  sessionId : String := ""

/-- What goes back to the client. -/
inductive GatewayHttpResponse where
  /-- Nothing: the client is gone. -/
  | unanswered
  | answered (statusCode : Nat) (reason : String) (body : Option Json)

/-! ## Envelopes -/

def jsonRpcEnvelope (id : Json) (key : String) (value : Json) : Json :=
  .object [("jsonrpc", .string "2.0"), ("id", id), (key, value)]

/-- `buildJsonRpcError`; without an id it carries null. -/
def buildJsonRpcError (code : Int) (message : String) (id : Json := .null) : Json :=
  jsonRpcEnvelope id "error" (.object [("code", .integer code), ("message", .string message)])

def buildGatewayInternalErrorBody (detail : String) : Json :=
  jsonRpcEnvelope .null "error"
    (.object [("code", .integer (-32603)), ("message", .string detail)])

def initializeResult (services : GatewayServices) : Json :=
  .object
    [("protocolVersion", .string "2025-03-26"),
     ("serverInfo", .object
       [("name", .string "MCOS Native Gateway"), ("version", .string services.version)]),
     ("capabilities", .object [("tools", .object [("listChanged", .boolean false)])]),
     ("instructions", .string
       ("This is a governed MCOS LAN orchestration gateway. Use read-only inspection tools by " ++
        "default. Mutating or destructive operations require explicit operator confirmation and " ++
        "must be verified after execution. Do not bypass governance, confirm guards, or Forsetti " ++
        "boundary rules. Treat governance bundles as authoritative policy contracts."))]

/-! ## Capabilities -/

def resolveCapabilities (services : GatewayServices) (clientId clientIpAddress : String) :
    Except GatewayException CapabilityAuthorizationContext :=
  match services.capabilityResolver with
  | none =>
    .ok { actor := if clientId = "" then "anonymous" else clientId, clientId := clientId,
          denialReason := "MCP capability resolver is not configured." }
  | some resolver => resolver clientId clientIpAddress

def auditCapabilityDenial (services : GatewayServices) (event : CapabilityDenialAuditEvent) :
    Except GatewayException Unit :=
  match services.capabilityDenialAuditSink with
  | none => .ok ()
  | some auditSink => auditSink event

/-! ## tools/list -/

/-- The schema a tool is shown with: the child's if it parses to an object, else the open
placeholder. -/
def shownInputSchema (json : JsonLibrary) (d : McpToolDescriptor) : Json :=
  let placeholder : Json := .object [("type", .string "object")]
  if d.inputSchemaJson = "" then placeholder
  else
    match json.parse d.inputSchemaJson.toUTF8.toList with
    | .ok (.object members) => .object members
    | _ => placeholder

def shownTool (json : JsonLibrary) (d : McpToolDescriptor) : Json :=
  .object
    [("name", .string (qualifiedName d)), ("description", .string d.description),
     ("inputSchema", shownInputSchema json d),
     ("requiredCapabilities", .array (d.requiredCapabilities.map .string)),
     ("risk", .string d.risk), ("highRisk", .boolean d.highRisk)]

def toolsListResult (services : GatewayServices) (granted : List String) : Json :=
  .object [("tools",
    .array ((listedTools services.currentToolCatalog granted).map (shownTool services.json)))]

/-! ## tools/call -/

/-- `params.name`, if `params` is an object with a string there. -/
def requestedToolName (members : List (String × Json)) : Option String :=
  match Json.lookup "params" members with
  | some (.object params) =>
    match Json.lookup "name" params with
    | some (.string name) => some name
    | _ => none
  | _ => none

/-- How the lookup of a tool ends. -/
inductive ToolLookup where
  | ambiguous
  | unknown
  | known (resolution : McpToolNameResolution)

/-- The lookup in the cached catalog, and in a fresh one if that names no pool. -/
def lookupTool (services : GatewayServices) (requestedName : String) : ToolLookup :=
  let cached := resolve services.toolCatalogCache requestedName
  if cached.status = .ambiguous then .ambiguous
  else if cached.status = .found && cached.poolId ≠ "" then .known cached
  else
    let refreshed := resolve services.currentToolCatalog requestedName
    if refreshed.status = .ambiguous then .ambiguous
    else if refreshed.status = .found && refreshed.poolId ≠ "" then .known refreshed
    else .unknown

/-- The client's request with the bridge's id and the child's own tool name. -/
def forwardedEnvelope (bridgeId : Nat) (localToolName : String)
    (members : List (String × Json)) : Json :=
  let members := Json.setMember "id" (.integer bridgeId) members
  match Json.lookup "params" members with
  | some (.object params) =>
    .object (Json.setMember "params"
      (.object (Json.setMember "name" (.string localToolName) params)) members)
  | _ => .object members

def capabilityDenialReason (context : CapabilityAuthorizationContext)
    (requiredCapabilities : List String) : String :=
  if context.denialReason = "" then
    "Required capability missing: " ++
      (if requiredCapabilities = [] then "none" else ", ".intercalate requiredCapabilities) ++ "."
  else context.denialReason

/-- What a `tools/call` comes to before it acquires a lease. -/
inductive PreparedCall where
  | answered (reply : Json)
  | forward (poolId : String) (forwarded : Json)

def prepareToolsCall (services : GatewayServices) (job : GatewayRequestJob)
    (members : List (String × Json)) (id : Json) : Except GatewayException PreparedCall :=
  if !services.bridgeAttached then
    .ok <| .answered <| buildJsonRpcError (-32603)
      ("tools/call: stdio bridge is not attached. The native gateway " ++
        "was started before WorkerSupervisor and LeaseRouter were ready. " ++
        "This is an internal wiring bug -- restart MCOS to retry.") id
  else
    match requestedToolName members with
    | none =>
      .ok <| .answered <| buildJsonRpcError (-32602)
        "tools/call: params.name is required (string)." id
    | some requestedName =>
      match lookupTool services requestedName with
      | .ambiguous =>
        .ok <| .answered <| buildJsonRpcError (-32602)
          ("tools/call: tool name '" ++ requestedName ++
            "' is exposed by multiple pools. Use the qualified " ++
            "form '<poolId>__<toolName>' returned by tools/list.") id
      | .unknown =>
        .ok <| .answered <| buildJsonRpcError (-32601)
          ("tools/call: tool '" ++ requestedName ++
            "' not found in any supervised pool. Call tools/list to see " ++
            "the current catalog.") id
      | .known tool =>
        match resolveCapabilities services job.clientId job.clientIpAddress with
        | .error exception => .error exception
        | .ok context =>
          if hasAllCapabilities context.capabilities tool.requiredCapabilities then
            .ok <| .forward tool.poolId
              (forwardedEnvelope services.bridgeRequestIdCounter tool.localToolName members)
          else
            let reason := capabilityDenialReason context tool.requiredCapabilities
            match auditCapabilityDenial services
                { actor := context.actor, clientId := context.clientId,
                  remoteAddress := job.clientIpAddress, method := "tools/call",
                  toolName := requestedName,
                  requiredCapabilities := tool.requiredCapabilities, reason := reason } with
            | .error exception => .error exception
            | .ok () =>
              .ok <| .answered <| buildJsonRpcError (-32001)
                ("Capability denied for tool '" ++ requestedName ++ "': " ++ reason) id

/-- The lease a `tools/call` asks for. -/
def leaseRequestFor (job : GatewayRequestJob) (poolId : String) : LeaseRequest :=
  { poolId := poolId, sessionId := job.sessionId, stateful := job.sessionId ≠ "",
    clientIpAddress := job.clientIpAddress, clientType := job.clientType }

/-- `reply["id"] = id`: an object takes the id, null becomes an object, anything else
throws. -/
def restampId (id : Json) : Json → Option Json
  | .object members => some (.object (Json.setMember "id" id members))
  | .null => some (.object [("id", id)])
  | _ => none

/-- The reply to a `tools/call` whose lease is Active. -/
def replyAfterBridge (json : JsonLibrary) (id : Json) (lease : EndpointLease)
    (bridgeResult : StdioBridgeResult) : Json :=
  if !bridgeResult.succeeded then
    buildJsonRpcError (-32603)
      ("tools/call: stdio bridge to instance '" ++ lease.instanceId ++ "' failed. " ++
        bridgeResult.errorMessage) id
  else
    match json.parse bridgeResult.responseBody with
    | .error _ =>
      buildJsonRpcError (-32603) "tools/call: child returned a malformed JSON-RPC envelope." id
    | .ok reply =>
      match restampId id reply with
      | some stamped => stamped
      | none =>
        buildJsonRpcError (-32603) "tools/call: child returned a malformed JSON-RPC envelope." id

def callTool (services : GatewayServices) (job : GatewayRequestJob)
    (members : List (String × Json)) (id : Json) : Except GatewayException Json :=
  match prepareToolsCall services job members id with
  | .error exception => .error exception
  | .ok (.answered reply) => .ok reply
  | .ok (.forward poolId forwarded) =>
    let lease := services.acquireLease (leaseRequestFor job poolId)
    if lease.state ≠ .active then
      .ok <| buildJsonRpcError (-32603)
        ("tools/call: could not acquire instance lease for pool '" ++ poolId ++ "'. " ++
          lease.statusMessage) id
    else
      .ok <| replyAfterBridge services.json id lease
        (services.sendStdioJsonRpc lease.instanceId forwarded)

/-! ## The dispatcher -/

/-- `req.value("method", "")`: a member that is no string throws. -/
def methodOf (json : JsonLibrary) (members : List (String × Json)) :
    Except GatewayException String :=
  match Json.lookup "method" members with
  | none => .ok ""
  | some (.string method) => .ok method
  | some value => .error (.standard (json.stringExpected value))

/-- The dispatcher on a request object, once its method is known. -/
def dispatchMethod (services : GatewayServices) (job : GatewayRequestJob)
    (members : List (String × Json)) (method : String) : Except GatewayException (Option Json) :=
  let isNotification := (Json.lookup "id" members).isNone
  let id := (Json.lookup "id" members).getD .null
  if method = "" then
    if isNotification then .ok none
    else .ok (some (buildJsonRpcError (-32600) "Invalid Request: missing method." id))
  else if isNotification &&
      (method = "notifications/initialized" || method = "notifications/cancelled") then
    .ok none
  else if method = "initialize" then
    .ok (some (jsonRpcEnvelope id "result" (initializeResult services)))
  else if method = "ping" then .ok (some (jsonRpcEnvelope id "result" (.object [])))
  else if method = "tools/list" then
    match resolveCapabilities services job.clientId job.clientIpAddress with
    | .error exception => .error exception
    | .ok context =>
      .ok (some (jsonRpcEnvelope id "result" (toolsListResult services context.capabilities)))
  else if method = "tools/call" then
    match callTool services job members id with
    | .error exception => .error exception
    | .ok reply => .ok (some reply)
  else if isNotification then .ok none
  else .ok (some (buildJsonRpcError (-32601) ("Method not implemented: " ++ method) id))

/-- The dispatcher on a request object. -/
def dispatchObject (services : GatewayServices) (job : GatewayRequestJob)
    (members : List (String × Json)) : Except GatewayException (Option Json) :=
  match methodOf services.json members with
  | .error exception => .error exception
  | .ok method => dispatchMethod services job members method

/-- What `handleMcpRequest` parses: an empty body counts as the empty object. -/
def parsedText (body : Bytes) : Bytes := if body = [] then "{}".toUTF8.toList else body

def handleMcpRequest (services : GatewayServices) (job : GatewayRequestJob) (body : Bytes) :
    Except GatewayException (Option Json) :=
  match services.json.parse (parsedText body) with
  | .error what => .ok (some (buildJsonRpcError (-32700) ("Parse error: " ++ what)))
  | .ok (.array _) =>
    .ok (some (buildJsonRpcError (-32600)
      ("Invalid Request: JSON-RPC batches are not supported by this gateway. " ++
        "Send a single request object per HTTP POST.")))
  | .ok (.object members) => dispatchObject services job members
  | .ok _ =>
    .ok (some (buildJsonRpcError (-32600)
      "Invalid Request: top-level JSON must be a request object."))

/-! ## The HTTP job -/

def kMaxGatewayRequestBytes : Nat := 10 * 1024 * 1024

/-- How draining the body ends. -/
inductive DrainOutcome where
  | complete (body : Bytes)
  | tooLarge
  | broken

/-- The reads of the remaining body, appended to what is there. -/
def drainBody (body : Bytes) : List EntityRead → DrainOutcome
  | [] => .complete body
  | .bytes [] :: _ => .complete body
  | .bytes chunk :: reads =>
    if kMaxGatewayRequestBytes < (body ++ chunk).length then .tooLarge
    else drainBody (body ++ chunk) reads
  | .endOfFile :: _ => .complete body
  | .connectionGone :: _ => .broken
  | .otherError :: _ => .complete body

/-- The body `processGatewayJob` hands on. -/
def receivedBody (job : GatewayRequestJob) : DrainOutcome :=
  if job.drainRemainingBody then drainBody job.body job.entityReads else .complete job.body

def processGatewayJob (services : GatewayServices) (job : GatewayRequestJob) :
    GatewayHttpResponse :=
  match receivedBody job with
  | .broken => .unanswered
  | .tooLarge =>
    .answered 413 "Payload Too Large" (some (.object
      [("error", .string "MCP request body exceeds the gateway limit"),
       ("maxRequestBytes", .integer kMaxGatewayRequestBytes)]))
  | .complete body =>
    match handleMcpRequest services job body with
    | .error (.standard what) =>
      .answered 500 "Internal Server Error"
        (some (buildGatewayInternalErrorBody ("Internal error: " ++ what)))
    | .error .other =>
      .answered 500 "Internal Server Error"
        (some (buildGatewayInternalErrorBody "Internal error: unknown exception."))
    | .ok none => .answered 204 "No Content" none
    | .ok (some reply) => .answered 200 "OK" (some reply)

end Gateway
end MasterControl
