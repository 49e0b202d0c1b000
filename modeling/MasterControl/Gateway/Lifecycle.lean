import MasterControl.Foundation.Runs
import MasterControl.Gateway.ToolNames
import Mathlib.Data.Option.Basic

/-!
# The lifecycle of the native gateway

`Start` opens a session, a URL group and a request queue with HTTP.sys, one after the other, and
gives up at the first step that fails; `Stop` closes them.  Both hold the lifecycle mutex from end
to end, so each is one step here.  What the steps of HTTP.sys return is the environment's
(`HttpSysOutcomes`).

The status is written beside that, field by field.  Its TLS fields are written by a `Start` that
succeeds, and by nothing else: a gateway that is stopped under TLS keeps announcing it, and so does
every failed `Start` after that.  Where no gateway is stopped under TLS, the status is truthful
(`gateway_status_truthful`).
-/

namespace MasterControl
namespace Gateway

open Foundation

/-! ## Records -/

inductive GatewayState where
  | disabled
  | configured
  | starting
  | running
  | stopping
  | stopped
  | failed
  deriving DecidableEq

structure McpGatewayConfiguration where
  enabled : Bool := false
  listenHost : String := "127.0.0.1"
  listenPort : UInt16 := 8080
  mcpPath : String := "/mcp"
  tlsEnabled : Bool := false
  tlsListenPort : UInt16 := 8443
  tlsCertThumbprint : String := ""

structure GatewayStatus where
  state : GatewayState := .disabled
  message : String := ""
  mcpUrl : String := ""
  startedAtUtc : String := ""
  tlsBound : Bool := false
  mcpUrlTls : String := ""
  tlsCertThumbprint : String := ""
  deriving DecidableEq

/-- A URL group: the prefixes that are registered in it, and whether a queue is bound to it. -/
structure UrlGroup where
  httpPrefix : Bool := false
  tlsPrefix : Bool := false
  bound : Bool := false
  deriving DecidableEq

def UrlGroup.bindQueue (group : UrlGroup) : UrlGroup := { group with bound := true }

/-- The adapter.  A thread is named by the run that started it; `runs` counts them. -/
structure NativeGateway where
  status : GatewayStatus
  running : Bool := false
  httpInitialized : Bool := false
  serverSession : Bool := false
  urlGroup : Option UrlGroup := none
  requestQueue : Bool := false
  serveThread : Option Nat := none
  workerThreads : List Nat := []
  runs : Nat := 0
  deriving DecidableEq

/-- What the steps of HTTP.sys return; a URL is tried several times. -/
structure HttpSysOutcomes where
  httpInitialize : Nat := 0
  createServerSession : Nat := 0
  createUrlGroup : Nat := 0
  addUrl : Nat → Nat := fun _ => 0
  addTlsUrl : Nat → Nat := fun _ => 0
  createRequestQueue : Nat := 0
  bindQueue : Nat := 0

def NO_ERROR : Nat := 0
def ERROR_ACCESS_DENIED : Nat := 5
def ERROR_ALREADY_EXISTS : Nat := 183

def kMaxRetries : Nat := 8
def kGatewayWorkerCount : Nat := 4

/-! ## URLs -/

def ensureLeadingSlash (value : String) : String :=
  match value.toList with
  | [] => "/"
  | '/' :: _ => value
  | _ => "/" ++ value

def bracketIpv6Host (host : String) : String :=
  if host = "" then host
  else if host.toList.head? = some '[' && host.toList.getLast? = some ']' then host
  else if host.toList.contains ':' then "[" ++ host ++ "]"
  else host

def gatewayHost (configuration : McpGatewayConfiguration) : String :=
  if configuration.listenHost = "" then "0.0.0.0" else bracketIpv6Host configuration.listenHost

def composeMcpUrl (configuration : McpGatewayConfiguration) : String :=
  "http://" ++ gatewayHost configuration ++ ":" ++ toString configuration.listenPort ++
    ensureLeadingSlash configuration.mcpPath

def composeMcpUrlTls (configuration : McpGatewayConfiguration) : String :=
  if !configuration.tlsEnabled then ""
  else
    "https://" ++ gatewayHost configuration ++ ":" ++ toString configuration.tlsListenPort ++
      ensureLeadingSlash configuration.mcpPath

/-! ## Start -/

/-- The constructor. -/
def constructGateway (configuration : McpGatewayConfiguration) : NativeGateway where
  status :=
    { state := if configuration.enabled then .configured else .disabled
      mcpUrl := composeMcpUrl configuration
      message :=
        if configuration.enabled then
          "Native HTTP.sys adapter is configured. Call Start() to bind the listener."
        else
          "MCP Gateway is disabled. Set mcpGateway.enabled=true in configuration to opt in." }

def NativeGateway.fail (g : NativeGateway) (message : String) : NativeGateway :=
  { g with status := { g.status with state := .failed, message } }

/-- `closeHttpSysHandlesLocked`. -/
def NativeGateway.closeHttpSysHandles (g : NativeGateway) : NativeGateway :=
  { g with
    running := false
    requestQueue := false
    urlGroup := none
    serverSession := false
    httpInitialized := false }

/-- A URL is tried again while it exists already. -/
def retryUrl (attempts : Nat → Nat) : Nat :=
  (((List.range kMaxRetries).map attempts).find? (· ≠ ERROR_ALREADY_EXISTS)).getD
    ERROR_ALREADY_EXISTS

def urlMessage (configuration : McpGatewayConfiguration) (result : Nat) : String :=
  if result = ERROR_ACCESS_DENIED then
    "HttpAddUrlToUrlGroup access denied. Either run MCOS as the Windows service (LocalSystem " ++
      "has the privilege automatically), or pre-register the URL ACL from elevated PowerShell: " ++
      "netsh http add urlacl url=http://+:" ++ toString configuration.listenPort ++
      "/ user=Everyone"
  else if result = ERROR_ALREADY_EXISTS then
    "HttpAddUrlToUrlGroup: URL prefix http://+:" ++ toString configuration.listenPort ++
      "/ is held by another process / leaked HTTP.sys URL group and did not clear within the " ++
      "v0.9.3 retry budget (2s). Identify the holder with: netsh http show servicestate " ++
      "view=requestq, then stop it."
  else "HttpAddUrlToUrlGroup failed (code " ++ toString result ++ ")."

def tlsBindError (configuration : McpGatewayConfiguration) (result : Nat) : String :=
  if result = ERROR_ACCESS_DENIED then
    "TLS prefix bind: ACCESS_DENIED on https://+:" ++ toString configuration.tlsListenPort ++
      "/ -- run scripts\\Configure-LocalServerCert.ps1 from an elevated shell, or pre-register: " ++
      "netsh http add urlacl url=https://+:" ++ toString configuration.tlsListenPort ++
      "/ user=Everyone"
  else if result = ERROR_ALREADY_EXISTS then
    "TLS prefix bind: https://+:" ++ toString configuration.tlsListenPort ++
      "/ is held by another process / leaked URL group."
  else "TLS prefix bind failed (code " ++ toString result ++ ")."

/-- The TLS prefix and a declared certificate. -/
def tlsRuntimeReady (configuration : McpGatewayConfiguration) (tlsBound : Bool) : Bool :=
  configuration.tlsEnabled && tlsBound && configuration.tlsCertThumbprint ≠ ""

def runningMessage (configuration : McpGatewayConfiguration) (status : GatewayStatus)
    (tlsBound : Bool) (tlsResult : Nat) : String :=
  "the in-process HTTP.sys adapter listening on " ++ status.mcpUrl ++
    (if configuration.tlsEnabled then
      if tlsRuntimeReady configuration tlsBound then
        " (+ TLS dual-bind on " ++ status.mcpUrlTls ++ ")"
      else if !tlsBound then
        " (TLS configured but URL prefix bind FAILED: " ++ tlsBindError configuration tlsResult ++
          ")"
      else
        " (TLS configured + URL prefix registered, but cfg.mcpGateway.tlsCertThumbprint is " ++
          "empty -- run scripts\\Configure-LocalServerCert.ps1 and merge the printed snippet into " ++
          "mcos.config.json. HTTPS handshakes will fail until a cert is bound.)"
    else "") ++
    ". MCP tools/list and tools/call routed through the supervisor + lease router."

section Start

variable (configuration : McpGatewayConfiguration) (timestampNowUtc : String)
  (outcomes : HttpSysOutcomes)

/-- Everything is bound: the threads are started, and the status is written. -/
def NativeGateway.listen (g : NativeGateway) (tlsBound : Bool) (tlsResult : Nat) : NativeGateway :=
  let ready := tlsRuntimeReady configuration tlsBound
  let status :=
    { g.status with
      state := .running
      tlsBound := ready
      mcpUrlTls := if ready then composeMcpUrlTls configuration else ""
      tlsCertThumbprint := if ready then configuration.tlsCertThumbprint else "" }
  { g with
    running := true
    runs := g.runs + 1
    serveThread := some (g.runs + 1)
    workerThreads := g.workerThreads ++ List.replicate kGatewayWorkerCount (g.runs + 1)
    status :=
      { status with
        message := runningMessage configuration status tlsBound tlsResult
        startedAtUtc := timestampNowUtc } }

def NativeGateway.startQueue (g : NativeGateway) (tlsBound : Bool) (tlsResult : Nat) :
    NativeGateway :=
  if outcomes.createRequestQueue ≠ NO_ERROR then
    (g.fail ("HttpCreateRequestQueue failed (code " ++ toString outcomes.createRequestQueue ++
      ").")).closeHttpSysHandles
  else
    let g := { g with requestQueue := true }
    if outcomes.bindQueue ≠ NO_ERROR then
      (g.fail ("HttpSetUrlGroupProperty(BindingProperty) failed (code " ++
        toString outcomes.bindQueue ++ ").")).closeHttpSysHandles
    else
      let g := { g with urlGroup := g.urlGroup.map UrlGroup.bindQueue }
      g.listen configuration timestampNowUtc tlsBound tlsResult

/-- The TLS prefix is tried where TLS is enabled, and may fail. -/
def NativeGateway.startPrefixes (g : NativeGateway) : NativeGateway :=
  let result := retryUrl outcomes.addUrl
  if result ≠ NO_ERROR then (g.fail (urlMessage configuration result)).closeHttpSysHandles
  else
    let tlsResult := retryUrl outcomes.addTlsUrl
    let tlsBound := configuration.tlsEnabled && tlsResult = NO_ERROR
    let g := { g with urlGroup := some { httpPrefix := true, tlsPrefix := tlsBound } }
    g.startQueue configuration timestampNowUtc outcomes tlsBound tlsResult

/-- The failure of the session is the one exit that closes nothing. -/
def NativeGateway.startSession (g : NativeGateway) : NativeGateway :=
  if outcomes.createServerSession ≠ NO_ERROR then
    g.fail ("HttpCreateServerSession failed (code " ++ toString outcomes.createServerSession ++
      ").")
  else
    let g := { g with serverSession := true }
    if outcomes.createUrlGroup ≠ NO_ERROR then
      (g.fail ("HttpCreateUrlGroup failed (code " ++ toString outcomes.createUrlGroup ++
        ").")).closeHttpSysHandles
    else
      let g := { g with urlGroup := some {} }
      g.startPrefixes configuration timestampNowUtc outcomes

/-- `Start`. -/
def NativeGateway.start (g : NativeGateway) : NativeGateway :=
  if !configuration.enabled then
    { g with
      status := { g.status with
        state := .disabled, message := "Cannot start: mcpGateway.enabled is false." } }
  else if g.running then g
  else if !g.httpInitialized && outcomes.httpInitialize ≠ NO_ERROR then
    g.fail ("HttpInitialize failed (code " ++ toString outcomes.httpInitialize ++ ").")
  else
    let g := { g with httpInitialized := true }
    g.startSession configuration timestampNowUtc outcomes

end Start

/-! ## Stop -/

/-- `Stop`.  Where nothing runs only the status is written. -/
def NativeGateway.stop (g : NativeGateway) : NativeGateway :=
  if g.status.state = .stopping then g
  else if !g.running && !g.requestQueue then
    if g.status.state ≠ .disabled then
      { g with
        status := { g.status with
          state := .stopped, startedAtUtc := ""
          message := "the in-process HTTP.sys adapter stopped." } }
    else g
  else
    let g := { g with serveThread := none, workerThreads := [] }.closeHttpSysHandles
    { g with
      status := { g.status with
        state := .stopped, startedAtUtc := ""
        message :=
          "the in-process HTTP.sys adapter stopped. Registry preserved in-memory." } }

/-! ## Runs -/

inductive LifecycleCall where
  | start (timestampNowUtc : String) (outcomes : HttpSysOutcomes)
  | stop

def gatewayLifecycle (configuration : McpGatewayConfiguration) :
    TransitionSystem NativeGateway LifecycleCall where
  init := constructGateway configuration
  step g call :=
    match call with
    | .start timestampNowUtc outcomes => g.start configuration timestampNowUtc outcomes
    | .stop => g.stop

end Gateway
end MasterControl
