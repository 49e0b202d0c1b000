import MasterControl.Gateway.Dispatch

/-!
# Which requests are answered, and how

The reply discipline of JSON-RPC for a request object: without an `id` the body is empty;
with one it is an object that carries that id and, unless it is a child's reply, exactly
one of `result` and `error` (`ReplyDiscipline`).

Two things break it.  The dispatcher answers `initialize`, `ping`, `tools/list` and
`tools/call` before it looks at the missing id.  And whatever is thrown, by a `method`
that is no string or by an attached function, ends as a 500 whose id is null.
-/

namespace MasterControl
namespace Gateway

open Foundation Supervisor Leasing Stdio

variable {services : GatewayServices} {job : GatewayRequestJob} {body : Bytes}
  {members : List (String × Json)} {id reply : Json}

/-! ## Replies -/

/-- An object with a `result` or an `error`, and not both. -/
def ExactlyOneOutcome (members : List (String × Json)) : Prop :=
  (Json.lookup "result" members).isSome ≠ (Json.lookup "error" members).isSome

/-- The bridge's answer to a `tools/call`, and the tool it is about. -/
def callBridge (services : GatewayServices) (job : GatewayRequestJob)
    (members : List (String × Json)) (tool : McpToolNameResolution) : StdioBridgeResult :=
  services.sendStdioJsonRpc (services.acquireLease (leaseRequestFor job tool.poolId)).instanceId
    (forwardedEnvelope services.bridgeRequestIdCounter tool.localToolName members)

/-- The reply of the child that the call was forwarded to, with the client's id. -/
def RelayedReply (services : GatewayServices) (job : GatewayRequestJob)
    (members : List (String × Json)) (id reply : Json) : Prop :=
  ∃ name tool child, requestedToolName members = some name ∧
    lookupTool services name = .known tool ∧
    (callBridge services job members tool).succeeded = true ∧
    services.json.parse (callBridge services job members tool).responseBody = .ok child ∧
    restampId id child = some reply

/-- A reply a client can match: an object with the request's id, and one outcome if the
gateway built it. -/
def MatchingReply (services : GatewayServices) (job : GatewayRequestJob)
    (members : List (String × Json)) (id reply : Json) : Prop :=
  ∃ replied, reply = .object replied ∧ Json.lookup "id" replied = some id ∧
    (ExactlyOneOutcome replied ∨ RelayedReply services job members id reply)

/-- The reply discipline, for a request object and what goes back. -/
def ReplyDiscipline (services : GatewayServices) (job : GatewayRequestJob)
    (members : List (String × Json)) (response : GatewayHttpResponse) : Prop :=
  match Json.lookup "id" members with
  | none => ∃ statusCode reason, response = .answered statusCode reason none
  | some id => ∃ statusCode reason reply, response = .answered statusCode reason (some reply) ∧
      MatchingReply services job members id reply

theorem matchingReply_result (result : Json) :
    MatchingReply services job members id (jsonRpcEnvelope id "result" result) :=
  ⟨_, rfl, rfl, Or.inl (by simp [ExactlyOneOutcome, Json.lookup])⟩

theorem matchingReply_error (code : Int) (message : String) :
    MatchingReply services job members id (buildJsonRpcError code message id) :=
  ⟨_, rfl, rfl, Or.inl (by simp [ExactlyOneOutcome, Json.lookup])⟩

/-- A child's reply is an object with the client's id once that is written into it. -/
theorem exists_object_of_restampId {child : Json} (h : restampId id child = some reply) :
    ∃ replied, reply = .object replied ∧ Json.lookup "id" replied = some id := by
  cases child with
  | object members =>
    cases h
    exact ⟨_, rfl, Json.lookup_setMember_self _ _ _⟩
  | null =>
    cases h
    exact ⟨_, rfl, rfl⟩
  | boolean _ => cases h
  | integer _ => cases h
  | real _ => cases h
  | string _ => cases h
  | array _ => cases h

/-! ## tools/call -/

/-- What `prepareToolsCall` answers with is an error, and what it forwards is the client's
request, to the pool of its tool. -/
theorem prepareToolsCall_cases {prepared : PreparedCall}
    (h : prepareToolsCall services job members id = .ok prepared) :
    (∃ code message, prepared = .answered (buildJsonRpcError code message id)) ∨
      ∃ name tool, requestedToolName members = some name ∧
        lookupTool services name = .known tool ∧
        prepared = .forward tool.poolId
          (forwardedEnvelope services.bridgeRequestIdCounter tool.localToolName members) := by
  unfold prepareToolsCall at h
  split_ifs at h
  · cases h
    exact Or.inl ⟨_, _, rfl⟩
  · split at h
    · cases h
      exact Or.inl ⟨_, _, rfl⟩
    · rename_i name hname
      split at h
      · cases h
        exact Or.inl ⟨_, _, rfl⟩
      · cases h
        exact Or.inl ⟨_, _, rfl⟩
      · rename_i tool hlookup
        split at h
        · cases h
        · split_ifs at h
          · cases h
            exact Or.inr ⟨name, tool, hname, hlookup, rfl⟩
          · dsimp only at h
            split at h
            · cases h
            · cases h
              exact Or.inl ⟨_, _, rfl⟩

/-- The reply after the bridge is an error, or the child's with the client's id. -/
theorem replyAfterBridge_cases (json : JsonLibrary) (id : Json) (lease : EndpointLease)
    (bridgeResult : StdioBridgeResult) :
    (∃ code message, replyAfterBridge json id lease bridgeResult =
      buildJsonRpcError code message id) ∨
      ∃ child, bridgeResult.succeeded = true ∧ json.parse bridgeResult.responseBody = .ok child ∧
        restampId id child = some (replyAfterBridge json id lease bridgeResult) := by
  unfold replyAfterBridge
  by_cases hsucceeded : bridgeResult.succeeded = true
  · rw [if_neg (by simp [hsucceeded])]
    cases hparse : json.parse bridgeResult.responseBody with
    | error what => exact Or.inl ⟨_, _, rfl⟩
    | ok child =>
      dsimp only
      cases hstamp : restampId id child with
      | none => exact Or.inl ⟨_, _, rfl⟩
      | some stamped => exact Or.inr ⟨child, hsucceeded, rfl, hstamp⟩
  · rw [if_pos (by simp [hsucceeded])]
    exact Or.inl ⟨_, _, rfl⟩

/-- **Every reply of a `tools/call` matches.** -/
theorem matchingReply_callTool (h : callTool services job members id = .ok reply) :
    MatchingReply services job members id reply := by
  unfold callTool at h
  cases hprepare : prepareToolsCall services job members id with
  | error exception =>
    rw [hprepare] at h
    cases h
  | ok prepared =>
    rw [hprepare] at h
    rcases prepareToolsCall_cases hprepare with
      ⟨code, message, rfl⟩ | ⟨name, tool, hname, hlookup, rfl⟩
    · cases h
      exact matchingReply_error _ _
    · dsimp only at h
      split_ifs at h
      · cases h
        exact matchingReply_error _ _
      · cases h
        rcases replyAfterBridge_cases services.json id
            (services.acquireLease (leaseRequestFor job tool.poolId))
            (callBridge services job members tool) with
          ⟨code, message, heq⟩ | ⟨child, hsucceeded, hparse, hstamp⟩
        · rw [callBridge] at heq
          rw [heq]
          exact matchingReply_error _ _
        · obtain ⟨replied, hreplied, hid⟩ := exists_object_of_restampId hstamp
          exact ⟨replied, hreplied, hid,
            Or.inr ⟨name, tool, child, hname, hlookup, hsucceeded, hparse, hstamp⟩⟩

/-- The denial that a `tools/call` of `name` reports when its client may not use `tool`. -/
def denialEvent (job : GatewayRequestJob) (context : CapabilityAuthorizationContext)
    (name : String) (tool : McpToolNameResolution) : CapabilityDenialAuditEvent :=
  { actor := context.actor, clientId := context.clientId,
    remoteAddress := job.clientIpAddress, method := "tools/call", toolName := name,
    requiredCapabilities := tool.requiredCapabilities,
    reason := capabilityDenialReason context tool.requiredCapabilities }

/-- The resolver throws on the client's identity. -/
def ResolverThrows (services : GatewayServices) (job : GatewayRequestJob) : Prop :=
  ∃ exception, resolveCapabilities services job.clientId job.clientIpAddress = .error exception

/-- The client is denied `tool`, and the sink throws on the report of it. -/
def DenialThrows (services : GatewayServices) (job : GatewayRequestJob) (name : String)
    (tool : McpToolNameResolution) : Prop :=
  ∃ context, resolveCapabilities services job.clientId job.clientIpAddress = .ok context ∧
    hasAllCapabilities context.capabilities tool.requiredCapabilities = false ∧
    ∃ exception, auditCapabilityDenial services (denialEvent job context name tool) =
      .error exception

/-- An attached function that a `tools/call` gets to throws. -/
def CallThrows (services : GatewayServices) (job : GatewayRequestJob)
    (members : List (String × Json)) : Prop :=
  services.bridgeAttached = true ∧ ∃ name tool, requestedToolName members = some name ∧
    lookupTool services name = .known tool ∧
    (ResolverThrows services job ∨ DenialThrows services job name tool)

theorem prepareToolsCall_error_iff :
    (∃ exception, prepareToolsCall services job members id = .error exception) ↔
      CallThrows services job members := by
  constructor
  · rintro ⟨exception, h⟩
    unfold prepareToolsCall at h
    split_ifs at h with hattached
    split at h
    · cases h
    · rename_i name hname
      split at h
      · cases h
      · cases h
      · rename_i tool hlookup
        refine ⟨by simpa using hattached, name, tool, hname, hlookup, ?_⟩
        split at h
        · rename_i thrown hresolve
          exact Or.inl ⟨thrown, hresolve⟩
        · rename_i context hresolve
          split_ifs at h with hgranted
          dsimp only at h
          split at h
          · rename_i thrown haudit
            exact Or.inr ⟨context, hresolve, by simpa using hgranted, thrown, haudit⟩
          · cases h
  · rintro ⟨hattached, name, tool, hname, hlookup, hthrows⟩
    unfold prepareToolsCall
    rw [if_neg (by simp [hattached]), hname]
    dsimp only
    rw [hlookup]
    dsimp only
    rcases hthrows with ⟨exception, hresolve⟩ | ⟨context, hresolve, hdenied, exception, haudit⟩
    · exact ⟨exception, by rw [hresolve]⟩
    · refine ⟨exception, ?_⟩
      rw [hresolve]
      dsimp only
      rw [if_neg (by simp [hdenied])]
      rw [denialEvent] at haudit
      rw [haudit]

/-- A `tools/call` throws exactly when an attached function does. -/
theorem callTool_error_iff :
    (∃ exception, callTool services job members id = .error exception) ↔
      CallThrows services job members := by
  have hprepare : (∃ exception, prepareToolsCall services job members id = .error exception) ↔
      CallThrows services job members := prepareToolsCall_error_iff
  rw [← hprepare]
  unfold callTool
  cases prepareToolsCall services job members id with
  | error exception => simp
  | ok prepared =>
    cases prepared with
    | answered reply => simp
    | forward poolId forwarded =>
      dsimp only
      split_ifs <;> simp

/-! ## The dispatcher -/

/-- The methods that are answered whether or not there is an id. -/
def answeredMethods : List String := ["initialize", "ping", "tools/list", "tools/call"]

/-- An attached function that the dispatcher gets to throws. -/
def MethodThrows (services : GatewayServices) (job : GatewayRequestJob)
    (members : List (String × Json)) (method : String) : Prop :=
  (method = "tools/list" ∧ ResolverThrows services job) ∨
    (method = "tools/call" ∧ CallThrows services job members)

variable {method : String} {outcome : Option Json}

/-- The dispatcher throws exactly when an attached function does. -/
theorem dispatchMethod_error_iff :
    (∃ exception, dispatchMethod services job members method = .error exception) ↔
      MethodThrows services job members method := by
  unfold MethodThrows
  have hcalls : (∃ exception, callTool services job members
      ((Json.lookup "id" members).getD .null) = .error exception) ↔
      CallThrows services job members := callTool_error_iff
  rw [← hcalls]
  constructor
  · rintro ⟨exception, h⟩
    unfold dispatchMethod at h
    dsimp only at h
    split_ifs at h with _ _ _ _ _ hlist hcall
    · split at h
      · rename_i thrown hresolve
        exact Or.inl ⟨hlist, thrown, hresolve⟩
      · cases h
    · split at h
      · rename_i thrown hcalled
        exact Or.inr ⟨hcall, thrown, hcalled⟩
      · cases h
  · rintro (⟨rfl, exception, hresolve⟩ | ⟨rfl, exception, hcalled⟩)
    · exact ⟨exception, by simp [dispatchMethod, hresolve]⟩
    · exact ⟨exception, by simp [dispatchMethod, hcalled]⟩

/-- A notification is left unanswered exactly if its method is none of the four. -/
theorem dispatchMethod_notification_iff (hid : Json.lookup "id" members = none) :
    dispatchMethod services job members method = .ok none ↔ method ∉ answeredMethods := by
  unfold dispatchMethod answeredMethods
  rw [hid]
  by_cases hempty : method = ""
  · simp [hempty]
  by_cases hinit : method = "initialize"
  · simp [hinit]
  by_cases hping : method = "ping"
  · simp [hping]
  by_cases hlist : method = "tools/list"
  · subst hlist
    cases resolveCapabilities services job.clientId job.clientIpAddress <;> simp
  by_cases hcall : method = "tools/call"
  · subst hcall
    cases hcalled : callTool services job members .null <;> simp [hcalled]
  · simp [hempty, hinit, hping, hlist, hcall]

/-- **Every reply of the dispatcher to a request with an id matches, and there is one.** -/
theorem matchingReply_dispatchMethod (hid : Json.lookup "id" members = some id)
    (h : dispatchMethod services job members method = .ok outcome) :
    ∃ reply, outcome = some reply ∧ MatchingReply services job members id reply := by
  unfold dispatchMethod at h
  simp only [hid, Option.isNone_some, Option.getD_some, Bool.false_and, Bool.false_eq_true,
    if_false] at h
  split_ifs at h
  · cases h
    exact ⟨_, rfl, matchingReply_error _ _⟩
  · cases h
    exact ⟨_, rfl, matchingReply_result _⟩
  · cases h
    exact ⟨_, rfl, matchingReply_result _⟩
  · split at h
    · cases h
    · cases h
      exact ⟨_, rfl, matchingReply_result _⟩
  · split at h
    · cases h
    · rename_i reply hcall
      cases h
      exact ⟨reply, rfl, matchingReply_callTool hcall⟩
  · cases h
    exact ⟨_, rfl, matchingReply_error _ _⟩

/-! ## The whole job -/

section Job

variable (hbody : receivedBody job = .complete body)
  (hparse : services.json.parse (parsedText body) = .ok (.object members))

include hparse in
theorem handleMcpRequest_object :
    handleMcpRequest services job body = dispatchObject services job members := by
  simp only [handleMcpRequest, hparse]

include hbody in
theorem replyDiscipline_notification_iff (hid : Json.lookup "id" members = none) :
    ReplyDiscipline services job members (processGatewayJob services job) ↔
      handleMcpRequest services job body = .ok none := by
  unfold ReplyDiscipline processGatewayJob
  rw [hid, hbody]
  dsimp only
  rcases handleMcpRequest services job body with (_ | _) | (_ | _) <;> simp

include hbody hparse in
theorem replyDiscipline_request_iff (hid : Json.lookup "id" members = some id) :
    ReplyDiscipline services job members (processGatewayJob services job) ↔
      id = .null ∨ ∀ exception, handleMcpRequest services job body ≠ .error exception := by
  have hinternal : ∀ detail,
      MatchingReply services job members id (buildGatewayInternalErrorBody detail) ↔
        id = .null := by
    intro detail
    constructor
    · rintro ⟨members', hreply, hid', -⟩
      cases hreply
      cases hid'
      rfl
    · rintro rfl
      exact matchingReply_error (-32603) detail
  have hreply : ∀ outcome, handleMcpRequest services job body = .ok outcome →
      ∃ reply, outcome = some reply ∧ MatchingReply services job members id reply := by
    intro outcome h
    rw [handleMcpRequest_object hparse, dispatchObject] at h
    split at h
    · cases h
    · exact matchingReply_dispatchMethod hid h
  unfold ReplyDiscipline processGatewayJob
  rw [hid, hbody]
  dsimp only
  cases hhandled : handleMcpRequest services job body with
  | error exception => cases exception <;> simp [hinternal]
  | ok outcome =>
    obtain ⟨reply, rfl, hmatches⟩ := hreply outcome hhandled
    simp [hmatches]

/-- When the reply discipline is kept.  Without an id, the method is missing or a text
other than the four; with one that is not null, it is missing or a text, and no attached
function throws on it. -/
def AnswersProperly (services : GatewayServices) (job : GatewayRequestJob)
    (members : List (String × Json)) : Prop :=
  match Json.lookup "id" members with
  | none => ∀ value, Json.lookup "method" members = some value →
      ∃ method, value = .string method ∧ method ∉ answeredMethods
  | some id => id = .null ∨ ∀ value, Json.lookup "method" members = some value →
      ∃ method, value = .string method ∧ ¬ MethodThrows services job members method

include hbody hparse in
/-- **The reply discipline is kept exactly on the requests of `AnswersProperly`.** -/
theorem reply_discipline_iff :
    ReplyDiscipline services job members (processGatewayJob services job) ↔
      AnswersProperly services job members := by
  have hhandled : handleMcpRequest services job body = dispatchObject services job members :=
    handleMcpRequest_object hparse
  unfold dispatchObject methodOf at hhandled
  unfold AnswersProperly
  cases hid : Json.lookup "id" members with
  | none =>
    rw [replyDiscipline_notification_iff hbody hid, hhandled]
    cases Json.lookup "method" members with
    | none =>
      have hempty : "" ∉ answeredMethods := by decide
      simp [dispatchMethod_notification_iff hid, hempty]
    | some value =>
      cases value with
      | string method => simp [dispatchMethod_notification_iff hid]
      | _ => simp
  | some id =>
    rw [replyDiscipline_request_iff hbody hparse hid, hhandled]
    refine or_congr Iff.rfl ?_
    cases Json.lookup "method" members with
    | none =>
      have hempty : ¬ MethodThrows services job members "" := by
        rintro (⟨h, -⟩ | ⟨h, -⟩)
        · exact absurd h (by decide)
        · exact absurd h (by decide)
      rw [← dispatchMethod_error_iff] at hempty
      simpa using hempty
    | some value =>
      cases value with
      | string method =>
        simp [← dispatchMethod_error_iff]
      | _ => simp

end Job

/-! ### A ping with an id, a ping without, and a method that is a number -/

def pingBody : Bytes := asciiBytes "\x7b\"id\":1,\"jsonrpc\":\"2.0\",\"method\":\"ping\"\x7d"

def pingMembers : List (String × Json) :=
  [("id", .integer 1), ("jsonrpc", .string "2.0"), ("method", .string "ping")]

def pingNotificationBody : Bytes := asciiBytes "\x7b\"jsonrpc\":\"2.0\",\"method\":\"ping\"\x7d"

def pingNotificationMembers : List (String × Json) :=
  [("jsonrpc", .string "2.0"), ("method", .string "ping")]

def numberMethodBody : Bytes := asciiBytes "\x7b\"id\":1,\"jsonrpc\":\"2.0\",\"method\":5\x7d"

def numberMethodMembers : List (String × Json) :=
  [("id", .integer 1), ("jsonrpc", .string "2.0"), ("method", .integer 5)]

/-- A gateway with nothing attached, and the JSON library on these three bodies. -/
def bareGateway : GatewayServices where
  json :=
    { parse := fun text =>
        if text = pingBody then .ok (.object pingMembers)
        else if text = pingNotificationBody then .ok (.object pingNotificationMembers)
        else if text = numberMethodBody then .ok (.object numberMethodMembers)
        else .error "[json.exception.parse_error.101] parse error"
      dump := Json.dumpScalar
      stringExpected := fun _ =>
        "[json.exception.type_error.302] type must be string, but is number" }
  version := "1.0.0"
  bridgeAttached := false
  toolCatalogCache := []
  currentToolCatalog := []
  capabilityResolver := none
  capabilityDenialAuditSink := none
  bridgeRequestIdCounter := 1
  acquireLease := fun request => { poolId := request.poolId, state := .failed }
  sendStdioJsonRpc := fun _ _ => { succeeded := false }

theorem reply_discipline_ping :
    ReplyDiscipline bareGateway { body := pingBody } pingMembers
      (processGatewayJob bareGateway { body := pingBody }) := by
  refine (reply_discipline_iff rfl (by rfl)).mpr (Or.inr fun value hvalue => ?_)
  cases hvalue
  refine ⟨"ping", rfl, ?_⟩
  rintro (⟨h, -⟩ | ⟨h, -⟩)
  · exact absurd h (by decide)
  · exact absurd h (by decide)

/-- The ping without an id is answered, and the other gets a reply with the id null. -/
theorem reply_discipline_broken :
    (bareGateway.json.parse pingNotificationBody = .ok (.object pingNotificationMembers) ∧
      ¬ ReplyDiscipline bareGateway { body := pingNotificationBody } pingNotificationMembers
        (processGatewayJob bareGateway { body := pingNotificationBody })) ∧
    bareGateway.json.parse numberMethodBody = .ok (.object numberMethodMembers) ∧
      ¬ ReplyDiscipline bareGateway { body := numberMethodBody } numberMethodMembers
        (processGatewayJob bareGateway { body := numberMethodBody }) := by
  refine ⟨⟨rfl, ?_⟩, rfl, ?_⟩
  · rintro ⟨statusCode, reason, hresponse⟩
    have hanswered : processGatewayJob bareGateway { body := pingNotificationBody } =
        .answered 200 "OK" (some (jsonRpcEnvelope .null "result" (.object []))) := rfl
    rw [hanswered] at hresponse
    cases hresponse
  · rintro ⟨statusCode, reason, reply, hresponse, replied, rfl, hid, -⟩
    have hanswered : processGatewayJob bareGateway { body := numberMethodBody } =
        .answered 500 "Internal Server Error" (some (buildGatewayInternalErrorBody
          ("Internal error: " ++ bareGateway.json.stringExpected (.integer 5)))) := rfl
    rw [hanswered] at hresponse
    cases hresponse
    cases hid

end Gateway
end MasterControl
