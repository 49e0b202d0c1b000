import MasterControl.Foundation.ByteText
import MasterControl.Foundation.Search
import MasterControl.Gateway.Dispatch
import MasterControl.Gateway.Lifecycle

/-!
# The intake of the native gateway

One thread receives requests and answers the cheap ones itself; the others it copies into a
bounded queue, from which four workers take them.  `Start` and `Stop` run beside these threads.
Every section under a lock is one step here, as is every answer that is sent; who moves next, and
what HTTP.sys returns, is in the label.

An answer that repeats the path of its request is written by the strict writer of the JSON
library, which throws on a path that is not UTF-8.  Nothing on the receive thread catches that,
and the process ends (`terminated`).
-/

namespace MasterControl
namespace Gateway

open Foundation

/-! ## Requests -/

inductive HttpVerb where
  | post
  | get
  | put
  | delete
  | head
  | options
  | trace
  | connect
  | other
  deriving DecidableEq

/-- What `HttpReceiveHttpRequest` fills in. -/
structure ReceivedRequest where
  requestId : Nat := 0
  verb : HttpVerb := .post
  rawUrl : Bytes := []
  /-- The chunks of the body that came along. -/
  entityChunks : List Bytes := []
  /-- `HTTP_REQUEST_FLAG_MORE_ENTITY_BODY_EXISTS`. -/
  moreEntityBodyExists : Bool := false
  /-- The `Content-Length` header; empty if there is none. -/
  contentLength : Bytes := []
  remoteAddress : String := ""
  unknownHeaders : List (String × String) := []
  userAgent : String := ""

/-- The part of the configuration that the receive loop reads. -/
structure IntakeConfiguration extends McpGatewayConfiguration where
  healthPath : String := "/health"

def kGatewayJobQueueMaxDepth : Nat := 64

def asciiLower (text : String) : String := text.map Char.toLower

def ReceivedRequest.path (request : ReceivedRequest) : Bytes :=
  request.rawUrl.takeWhile fun b => b ≠ 63

def ReceivedRequest.body (request : ReceivedRequest) : Bytes := request.entityChunks.flatten

def ReceivedRequest.drainRemainingBody (request : ReceivedRequest) : Bool :=
  request.moreEntityBodyExists || request.body.isEmpty

/-- Whether the header declares a number of at most 18 digits that is over the limit. -/
def declaredTooLarge (declared : Bytes) : Bool :=
  !declared.isEmpty && declared.length ≤ 18 && declared.all isDigitByte &&
    kMaxGatewayRequestBytes < decimalValue declared

def ReceivedRequest.payloadTooLarge (request : ReceivedRequest) : Bool :=
  kMaxGatewayRequestBytes < request.body.length || declaredTooLarge request.contentLength

/-- The value of the last unknown header of this name. -/
def ReceivedRequest.header (name : String) (request : ReceivedRequest) : String :=
  request.unknownHeaders.foldl
    (fun value h => if asciiLower h.1 = name then h.2 else value) ""

def mentions (userAgent : String) (product : String) : Bool :=
  (cut product.toList userAgent.toList).isSome

def inferClientType (userAgent : String) : String :=
  let uaLower := asciiLower userAgent
  if userAgent = "" then ""
  else if mentions uaLower "claude" then "claude-code"
  else if mentions uaLower "codex" then "codex"
  else if mentions uaLower "grok" then "grok"
  else if mentions uaLower "chatgpt" || mentions uaLower "openai" then "chatgpt"
  else "generic-mcp"

def ReceivedRequest.clientId (request : ReceivedRequest) : String :=
  request.header "x-mcos-client-id"

def ReceivedRequest.clientType (request : ReceivedRequest) : String :=
  let declared := request.header "x-mcos-client-type"
  if declared ≠ "" then declared
  else if request.clientId ≠ "" then request.clientId
  else inferClientType request.userAgent

def ReceivedRequest.sessionId (request : ReceivedRequest) : String :=
  let mcpSessionId := request.header "mcp-session-id"
  if mcpSessionId ≠ "" then mcpSessionId else request.header "x-mcos-session-id"

/-! ## Inline answers -/

/-- A member of the document of an inline answer. -/
inductive InlineValue where
  | text (value : String)
  /-- Bytes of the request as they came. -/
  | raw (value : Bytes)
  | number (value : Nat)

structure InlineAnswer where
  statusCode : Nat := 200
  reason : String := "OK"
  allow : Option String := none
  document : List (String × InlineValue)

/-- Whether the strict writer writes this value. -/
def InlineValue.writable : InlineValue → Bool
  | .raw value => validUtf8 value
  | _ => true

def InlineAnswer.writable (answer : InlineAnswer) : Bool :=
  answer.document.all fun member => member.2.writable

/-- What the health route reads from the status. -/
structure HealthReport where
  state : GatewayState
  health : String
  message : String

def GatewayState.name : GatewayState → String
  | .disabled => "disabled"
  | .configured => "configured"
  | .starting => "starting"
  | .running => "running"
  | .stopping => "stopping"
  | .stopped => "stopped"
  | .failed => "failed"

def HttpVerb.name : HttpVerb → String
  | .get => "GET"
  | .put => "PUT"
  | .delete => "DELETE"
  | .head => "HEAD"
  | .options => "OPTIONS"
  | .trace => "TRACE"
  | .connect => "CONNECT"
  | _ => "OTHER"

def healthAnswer (report : HealthReport) : InlineAnswer where
  document :=
    [("adapterType", .text "native"), ("state", .text report.state.name),
     ("health", .text report.health), ("message", .text report.message)]

def payloadTooLargeAnswer : InlineAnswer where
  statusCode := 413
  reason := "Payload Too Large"
  document :=
    [("error", .text "MCP request body exceeds the gateway limit"),
     ("maxRequestBytes", .number kMaxGatewayRequestBytes)]

def wrongVerbAnswer (request : ReceivedRequest) : InlineAnswer where
  statusCode := 405
  reason := "Method Not Allowed"
  allow := some "POST"
  document :=
    [("error", .text "MCP path requires POST"), ("path", .raw request.path),
     ("allow", .text "POST"), ("method_received", .text request.verb.name),
     ("hint", .text
       "MCP traffic is JSON-RPC 2.0 over POST. SSE upgrade is not implemented in this build.")]

def saturatedAnswer (queueDepth : Nat) : InlineAnswer where
  statusCode := 503
  reason := "Service Unavailable"
  document :=
    [("error", .text "Gateway request queue is saturated"), ("queueDepth", .number queueDepth),
     ("maxQueueDepth", .number kGatewayJobQueueMaxDepth),
     ("hint", .text
       ("Retry shortly. Long-running tools/call requests are occupying " ++
        "all gateway workers and the bounded request queue is full."))]

def IntakeConfiguration.healthRoute (configuration : IntakeConfiguration) : String :=
  if configuration.healthPath = "" then "/health" else configuration.healthPath

def IntakeConfiguration.mcpRoute (configuration : IntakeConfiguration) : String :=
  if configuration.mcpPath = "" then "/mcp" else configuration.mcpPath

def notFoundAnswer (configuration : IntakeConfiguration) (request : ReceivedRequest) :
    InlineAnswer where
  statusCode := 404
  reason := "Not Found"
  document :=
    [("error", .text "Path not handled by native MCP gateway"), ("path", .raw request.path),
     ("hint", .text ("Use " ++ configuration.mcpRoute ++ " for MCP traffic, " ++
       configuration.healthRoute ++ " for health."))]

/-! ## Routing -/

/-- Whether a path is a route or lies under it. -/
def servedUnder (route : String) (path : Bytes) : Bool :=
  let base := route.toUTF8.toList
  path == base ||
    (base.length < path.length && base.isPrefixOf path && path[base.length]? == some 47)

/-- Where a request goes. -/
inductive Route where
  | health
  | payloadTooLarge
  | wrongVerb
  | queue
  | notFound
  deriving DecidableEq

def routeOf (configuration : IntakeConfiguration) (request : ReceivedRequest) : Route :=
  if servedUnder configuration.healthRoute request.path then .health
  else if servedUnder configuration.mcpRoute request.path then
    if request.payloadTooLarge then .payloadTooLarge
    else if request.verb ≠ .post then .wrongVerb
    else .queue
  else .notFound

/-- A job in the queue, with the receive it came from and the run of the gateway that accepted
it; these two are kept for the record only. -/
structure AcceptedJob where
  arrival : Nat
  run : Nat
  requestId : Nat
  path : Bytes
  job : GatewayRequestJob

/-- The job that the receive loop copies out of a request. -/
def jobOf (arrival run : Nat) (request : ReceivedRequest) : AcceptedJob where
  arrival := arrival
  run := run
  requestId := request.requestId
  path := request.path
  job :=
    { body := request.body
      drainRemainingBody := request.drainRemainingBody
      clientIpAddress := request.remoteAddress
      clientType := request.clientType
      clientId := request.clientId
      sessionId := request.sessionId }

/-! ## Threads -/

inductive ServeThread where
  | absent
  /-- About to test `running_`, with the request that the next receive is pinned to. -/
  | checking (pendingRequestId : Option Nat)
  | receiving (pendingRequestId : Option Nat)
  | routing (arrival : Nat) (request : ReceivedRequest)
  | answering (arrival : Nat) (answer : InlineAnswer)
  /-- A job is in the queue; `notify_one` comes next. -/
  | notifying
  | finished

inductive WorkerThread where
  /-- About to test the queue under its mutex. -/
  | awake
  /-- Blocked in the condition variable. -/
  | waiting
  | holding (job : AcceptedJob)
  | executing (job : AcceptedJob) (body : Bytes)
  | finished

/-- The sections of `Start` and `Stop` that are still to come; `idle` if neither is running. -/
inductive LifecycleStage where
  | idle
  | resetQueue
  | spawnServe
  | spawnWorkers (remaining : Nat)
  | signal
  | notifyAll
  | joinServe
  | joinWorkers
  | clearQueue
  | closeHandles
  deriving DecidableEq

/-- The record of what happened, request by request. -/
inductive IntakeEvent where
  | received (arrival : Nat)
  | answeredInline (arrival : Nat) (answer : InlineAnswer)
  | accepted (arrival run : Nat)
  | taken (arrival worker : Nat)
  | executed (arrival : Nat) (body : Bytes)
  | responded (arrival statusCode : Nat) (reason : String) (body : Option Json)
  | abandoned (arrival : Nat)
  | discarded (arrivals : List Nat)
  | stopReturned

structure GatewayIntake where
  running : Bool := false
  requestQueue : Bool := false
  jobQueue : List AcceptedJob := []
  jobQueueShutdown : Bool := false
  serve : ServeThread := .absent
  workers : List WorkerThread := []
  lifecycle : LifecycleStage := .idle
  /-- Whether an exception left a thread. -/
  terminated : Bool := false
  arrivals : Nat := 0
  runs : Nat := 0
  history : List IntakeEvent := []

/-! ## The receive loop -/

/-- How `HttpReceiveHttpRequest` returns. -/
inductive ReceiveOutcome where
  | operationAborted
  | moreData (requestId : Nat)
  | connectionInvalid
  | otherError
  | request (request : ReceivedRequest)

namespace GatewayIntake

def log (g : GatewayIntake) (event : IntakeEvent) : GatewayIntake :=
  { g with history := g.history ++ [event] }

def checkRunning (g : GatewayIntake) : GatewayIntake :=
  match g.serve with
  | .checking pending =>
    if g.running then { g with serve := .receiving pending } else { g with serve := .finished }
  | _ => g

def receive (g : GatewayIntake) (outcome : ReceiveOutcome) : GatewayIntake :=
  match g.serve, outcome with
  | .receiving _, .operationAborted => { g with serve := .finished }
  | .receiving _, .moreData requestId => { g with serve := .checking (some requestId) }
  | .receiving _, .connectionInvalid => { g with serve := .checking none }
  | .receiving _, .otherError => { g with serve := .checking none }
  | .receiving _, .request request =>
    ({ g with
      serve := .routing g.arrivals request
      arrivals := g.arrivals + 1 }).log (.received g.arrivals)
  | _, _ => g

/-- The section under the mutex of the queue. -/
def enqueue (g : GatewayIntake) (arrival : Nat) (request : ReceivedRequest) : GatewayIntake :=
  if !g.jobQueueShutdown && g.jobQueue.length < kGatewayJobQueueMaxDepth then
    ({ g with
      jobQueue := g.jobQueue ++ [jobOf arrival g.runs request]
      serve := .notifying }).log (.accepted arrival g.runs)
  else { g with serve := .answering arrival (saturatedAnswer g.jobQueue.length) }

def route (configuration : IntakeConfiguration) (g : GatewayIntake) (report : HealthReport) :
    GatewayIntake :=
  match g.serve with
  | .routing arrival request =>
    match routeOf configuration request with
    | .health => { g with serve := .answering arrival (healthAnswer report) }
    | .payloadTooLarge => { g with serve := .answering arrival payloadTooLargeAnswer }
    | .wrongVerb => { g with serve := .answering arrival (wrongVerbAnswer request) }
    | .queue => g.enqueue arrival request
    | .notFound => { g with serve := .answering arrival (notFoundAnswer configuration request) }
  | _ => g

/-- The document is written and sent. -/
def answer (g : GatewayIntake) : GatewayIntake :=
  match g.serve with
  | .answering arrival answer =>
    if answer.writable then
      ({ g with serve := .checking none }).log (.answeredInline arrival answer)
    else { g with terminated := true }
  | _ => g

/-- `notify_one` wakes one waiting worker: the chosen one, or another if that one does not
wait. -/
def notifyOne (g : GatewayIntake) (choice : Nat) : GatewayIntake :=
  match g.serve with
  | .notifying =>
    let w := match g.workers[choice]? with
      | some .waiting => choice
      | _ => g.workers.findIdx fun worker => worker matches .waiting
    { g with
      serve := .checking none
      workers := if w < g.workers.length then g.workers.set w .awake else g.workers }
  | _ => g

/-! ## The workers -/

/-- A waiting worker may also wake up for no reason. -/
def wake (g : GatewayIntake) (w : Nat) : GatewayIntake :=
  match g.workers[w]? with
  | some .waiting => { g with workers := g.workers.set w .awake }
  | _ => g

/-- The section under the mutex of the queue. -/
def takeJob (g : GatewayIntake) (w : Nat) : GatewayIntake :=
  match g.workers[w]? with
  | some .awake =>
    if g.jobQueueShutdown then { g with workers := g.workers.set w .finished }
    else
      match g.jobQueue with
      | [] => { g with workers := g.workers.set w .waiting }
      | job :: rest =>
        ({ g with
          jobQueue := rest
          workers := g.workers.set w (.holding job) }).log (.taken job.arrival w)
  | _ => g

/-- The record of the end of a job. -/
def settled (services : GatewayServices) (job : AcceptedJob) : IntakeEvent :=
  match processGatewayJob services job.job with
  | .unanswered => .abandoned job.arrival
  | .answered statusCode reason body => .responded job.arrival statusCode reason body

/-- The rest of the body is read, and the job goes to `handleMcpRequest` or ends here. -/
def drain (g : GatewayIntake) (w : Nat) (reads : List EntityRead) (services : GatewayServices) :
    GatewayIntake :=
  match g.workers[w]? with
  | some (.holding job) =>
    let job := { job with job := { job.job with entityReads := reads } }
    match receivedBody job.job with
    | .complete body =>
      ({ g with workers := g.workers.set w (.executing job body) }).log
        (.executed job.arrival body)
    | _ => ({ g with workers := g.workers.set w .awake }).log (settled services job)
  | _ => g

def respond (g : GatewayIntake) (w : Nat) (services : GatewayServices) : GatewayIntake :=
  match g.workers[w]? with
  | some (.executing job _) =>
    ({ g with workers := g.workers.set w .awake }).log (settled services job)
  | _ => g

/-! ## Start and Stop -/

/-- The first section of `Start`; `opened` says whether HTTP.sys gave every handle. -/
def start (configuration : IntakeConfiguration) (g : GatewayIntake) (opened : Bool) :
    GatewayIntake :=
  if g.lifecycle = .idle && configuration.enabled && !g.running && opened then
    { g with
      running := true
      requestQueue := true
      runs := g.runs + 1
      lifecycle := .resetQueue }
  else g

/-- The first section of `Stop`. -/
def stop (g : GatewayIntake) : GatewayIntake :=
  if g.lifecycle = .idle then
    if !g.running && !g.requestQueue then g.log .stopReturned
    else { g with running := false, lifecycle := .signal }
  else g

/-- The next section of the `Start` or `Stop` that is running.  A join waits until its thread has
ended, and a thread cannot be put in the place of one that was not joined. -/
def proceed (g : GatewayIntake) : GatewayIntake :=
  match g.lifecycle with
  | .idle => g
  | .resetQueue => { g with jobQueueShutdown := false, jobQueue := [], lifecycle := .spawnServe }
  | .spawnServe =>
    match g.serve with
    | .absent =>
      { g with serve := .checking none, lifecycle := .spawnWorkers kGatewayWorkerCount }
    | _ => { g with terminated := true }
  | .spawnWorkers 0 => { g with lifecycle := .idle }
  | .spawnWorkers (remaining + 1) =>
    { g with workers := g.workers ++ [.awake], lifecycle := .spawnWorkers remaining }
  | .signal => { g with jobQueueShutdown := true, lifecycle := .notifyAll }
  | .notifyAll =>
    { g with
      workers := g.workers.map fun
        | .waiting => .awake
        | worker => worker
      lifecycle := .joinServe }
  | .joinServe =>
    match g.serve with
    | .absent => { g with lifecycle := .joinWorkers }
    | .finished => { g with serve := .absent, lifecycle := .joinWorkers }
    | _ => g
  | .joinWorkers =>
    if g.workers.all fun worker => worker matches .finished then
      { g with workers := [], lifecycle := .clearQueue }
    else g
  | .clearQueue =>
    ({ g with
      jobQueue := []
      jobQueueShutdown := false
      lifecycle := .closeHandles }).log (.discarded (g.jobQueue.map AcceptedJob.arrival))
  | .closeHandles => ({ g with requestQueue := false, lifecycle := .idle }).log .stopReturned

end GatewayIntake

/-! ## The whole -/

inductive IntakeLabel where
  | start (opened : Bool)
  | stop
  | proceed
  | checkRunning
  | receive (outcome : ReceiveOutcome)
  | route (report : HealthReport)
  | answer
  | notifyOne (choice : Nat)
  | wake (w : Nat)
  | takeJob (w : Nat)
  | drain (w : Nat) (reads : List EntityRead) (services : GatewayServices)
  | respond (w : Nat) (services : GatewayServices)

/-- One step; a process that has ended takes none. -/
def GatewayIntake.step (configuration : IntakeConfiguration) (g : GatewayIntake)
    (label : IntakeLabel) : GatewayIntake :=
  if g.terminated then g
  else
    match label with
    | .start opened => g.start configuration opened
    | .stop => g.stop
    | .proceed => g.proceed
    | .checkRunning => g.checkRunning
    | .receive outcome => g.receive outcome
    | .route report => g.route configuration report
    | .answer => g.answer
    | .notifyOne choice => g.notifyOne choice
    | .wake w => g.wake w
    | .takeJob w => g.takeJob w
    | .drain w reads services => g.drain w reads services
    | .respond w services => g.respond w services

def gatewayIntake (configuration : IntakeConfiguration) :
    TransitionSystem GatewayIntake IntakeLabel where
  init := {}
  step := GatewayIntake.step configuration

end Gateway
end MasterControl
