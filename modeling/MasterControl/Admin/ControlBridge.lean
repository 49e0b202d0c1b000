import MasterControl.Admin.RouteTable

/-!
# The bridge to the admin server

The bridge turns a tool call into at most one request to the admin server.  Tools that destroy
something refuse to run unless `confirm` is passed.  Fifteen tools put an argument, as it is, into
the path of their request, between a start and an ending.

`urllib` drops what is behind the last `#`, and refuses blanks, control characters and what is not
ASCII.  The server cuts the path at the first `?`, finds the block and lets its handler read the
rest.  With neither letter in the identifier the ending arrives, and keeps the actions of a family
apart; with one of them it does not, and the identifier alone says what is done.
-/

namespace MasterControl
namespace Admin
namespace ControlBridge

open Foundation

/-! ## The handlers of the server -/

/-- What a handler that reads an identifier does. -/
inductive Action where
  | poolDetail | activeLeases | saturation
  | poolRemove | poolScale | poolDrain | poolRestart | leaseAcquire
  | leaseRelease | profile | bundle
  | clientDisable | clientEnable | clientPrivileges | clientAutonomousMode
  | approve | reject
  deriving DecidableEq

inductive Handling where
  | acts (action : Action) (identifier : Bytes)
  /-- A block that reads no identifier. -/
  | served (block : RouteBlock)
  /-- Status 400, 404 or 405. -/
  | refused
  deriving DecidableEq

def beforeSlash (suffix : Bytes) : Bytes := suffix.takeWhile (· ≠ slash)

/-- The text behind the first slash. -/
def afterSlash (suffix : Bytes) : Option Bytes :=
  if suffix.contains slash then some (suffix.dropWhile (· ≠ slash)).tail else none

/-- `GET /api/pools/{poolId}` and what is below it. -/
def handlePoolRead (suffix : Bytes) : Handling :=
  let poolId := beforeSlash suffix
  let subResource := (afterSlash suffix).getD []
  if subResource = literal "leases" then .acts .activeLeases poolId
  else if subResource = literal "saturation" then .acts .saturation poolId
  else if subResource ≠ [] then .refused
  else .acts .poolDetail poolId

/-- The actions on a pool. -/
def poolActions : List (Bytes × Action) :=
  [(literal "remove", .poolRemove), (literal "scale", .poolScale), (literal "drain", .poolDrain),
   (literal "restart", .poolRestart), (literal "leases", .leaseAcquire)]

/-- `POST /api/pools/{poolId}/{action}`. -/
def handlePoolAction (suffix : Bytes) : Handling :=
  match poolActions.find? fun entry => some entry.1 = afterSlash suffix with
  | some entry => .acts entry.2 (beforeSlash suffix)
  | none => .refused

def handleLease (suffix : Bytes) : Handling :=
  if afterSlash suffix = some (literal "release") then .acts .leaseRelease (beforeSlash suffix)
  else .refused

inductive Handler where
  | poolRead
  | poolAction
  | lease
  /-- Everything behind the start is the identifier. -/
  | tail (action : Action)
  /-- The identifier is between the start and the ending. -/
  | between (action : Action)
  | turnsAway
  | other
  deriving DecidableEq

def handlers : List (RouteBlock × Handler) :=
  [(onGetUnder "/api/pools/", .poolRead), (onPostUnder "/api/pools/", .poolAction),
   (onPostUnder "/api/leases/", .lease), (onGetUnder "/api/onboarding/", .tail .profile),
   (onGetUnder "/api/governance/bundles/", .tail .bundle),
   (onPostNamed "/api/clients/" "/disable", .between .clientDisable),
   (onPostNamed "/api/clients/" "/enable", .between .clientEnable),
   (onPostNamed "/api/clients/" "/privileges", .between .clientPrivileges),
   (onPostNamed "/api/clients/" "/autonomous-mode", .between .clientAutonomousMode),
   (onPostNamed "/api/clu/approvals/" "/approve", .between .approve),
   (onPostNamed "/api/clu/approvals/" "/reject", .between .reject),
   (onPostUnder "/api/clu/approvals/", .turnsAway)]

def handlerOf (block : RouteBlock) : Handler :=
  ((handlers.find? fun entry => entry.1 = block).map Prod.snd).getD .other

def handle (path : Bytes) (block : RouteBlock) : Handling :=
  let suffix := path.drop block.around.1.length
  match handlerOf block with
  | .poolRead => handlePoolRead suffix
  | .poolAction => handlePoolAction suffix
  | .lease => handleLease suffix
  | .tail action => .acts action suffix
  | .between action => .acts action (textBetween path block.around.1 block.around.2)
  | .turnsAway => .refused
  | .other => .served block

def dispatchPath (method : Verb) (path : Bytes) : Handling :=
  match route method path with
  | some block => handle path block
  | none => .refused

/-- A request of the bridge, with the `action` in its body. -/
structure Request where
  method : Verb
  target : Bytes
  moduleAction : Option Bytes := none
  deriving DecidableEq

def dispatch (request : Request) : Handling :=
  dispatchPath request.method (request.target.takeWhile (· ≠ questionMark))

/-- The actions that the bridge asks to be confirmed. -/
def destroys (moduleAction : Option Bytes) : Handling → Bool
  | .acts action _ =>
    [Action.poolDrain, .poolRemove, .clientDisable, .approve, .reject].contains action
  | .served block =>
    block = onPost "/api/gateway/stop" || block = onPost "/api/diagnostics/clear" ||
      (block = onPost "/api/forsetti/modules/state" && moduleAction = some (literal "disable"))
  | .refused => false

/-! ## What `urllib` does with a URL -/

def hash : UInt8 := 35

/-- The text before the last `#`; behind the host, as the host has none. -/
def dropFragment : Bytes → Bytes
  | [] => []
  | b :: rest => if b = hash && !rest.contains hash then [] else b :: dropFragment rest

/-- No blank, no control character, and ASCII. -/
def sendableByte (b : UInt8) : Bool := 32 < b && b < 127

/-- What arrives; `none` if the URL is refused. -/
def urlopen (request : Request) : Option Request :=
  if (dropFragment request.target).all sendableByte then
    some { request with target := dropFragment request.target }
  else none

/-! ## The tools -/

structure Arguments where
  /-- The arguments that are strings. -/
  text : String → Option Bytes
  /-- Whether `confirm` is there and not falsy. -/
  confirm : Bool
  /-- What `int` makes of the number of events; `none` if it raises. -/
  count : Option ℤ
  /-- Whether `max` is given. -/
  limited : Bool
  /-- Whether the object to be sent, `fields` or `pool`, is given. -/
  filled : Bool

/-- The tools with an identifier. -/
inductive NamedTool where
  | poolGet | poolLeases | poolSaturation | onboarding | governanceBundle
  | poolScale | poolDrain | poolRemove | leaseAcquire | leaseRelease
  | governanceApprove | governanceReject
  | clientPrivileges | clientEnable | clientDisable
  deriving DecidableEq

/-- The request of a tool: the text before the identifier and the one behind it, and what the tool
says that it does. -/
structure Template where
  argument : String
  method : Verb
  start : Bytes
  ending : Bytes
  action : Action
  guarded : Bool

def poolsStart : Bytes := literal "/api/pools/"

def leasesStart : Bytes := literal "/api/leases/"

def onboardingStart : Bytes := literal "/api/onboarding/"

def bundlesStart : Bytes := literal "/api/governance/bundles/"

def approvalsStart : Bytes := literal "/api/clu/approvals/"

def lanClientsStart : Bytes := literal "/api/clients/"

def NamedTool.template : NamedTool → Template
  | .poolGet => ⟨"poolId", .get, poolsStart, [], .poolDetail, false⟩
  | .poolLeases => ⟨"poolId", .get, poolsStart, literal "/leases", .activeLeases, false⟩
  | .poolSaturation => ⟨"poolId", .get, poolsStart, literal "/saturation", .saturation, false⟩
  | .onboarding => ⟨"clientType", .get, onboardingStart, [], .profile, false⟩
  | .governanceBundle => ⟨"platform", .get, bundlesStart, [], .bundle, false⟩
  | .poolScale => ⟨"poolId", .post, poolsStart, literal "/scale", .poolScale, false⟩
  | .poolDrain => ⟨"poolId", .post, poolsStart, literal "/drain", .poolDrain, true⟩
  | .poolRemove => ⟨"poolId", .post, poolsStart, literal "/remove", .poolRemove, true⟩
  | .leaseAcquire => ⟨"poolId", .post, poolsStart, literal "/leases", .leaseAcquire, false⟩
  | .leaseRelease => ⟨"leaseId", .post, leasesStart, literal "/release", .leaseRelease, false⟩
  | .governanceApprove => ⟨"id", .post, approvalsStart, literal "/approve", .approve, true⟩
  | .governanceReject => ⟨"id", .post, approvalsStart, literal "/reject", .reject, true⟩
  | .clientPrivileges => ⟨"clientId", .post, lanClientsStart, literal "/privileges",
      .clientPrivileges, false⟩
  | .clientEnable => ⟨"clientId", .post, lanClientsStart, literal "/enable", .clientEnable, false⟩
  | .clientDisable => ⟨"clientId", .post, lanClientsStart, literal "/disable", .clientDisable, true⟩

/-- The identifier of a call.  An empty `clientType` counts as none. -/
def NamedTool.identifier (args : Arguments) (tool : NamedTool) : Option Bytes :=
  if tool = .onboarding then (args.text tool.template.argument).filter (· ≠ [])
  else args.text tool.template.argument

def NamedTool.requestFor (tool : NamedTool) (identifier : Bytes) : Request :=
  { method := tool.template.method,
    target := tool.template.start ++ (identifier ++ tool.template.ending) }

def NamedTool.request? (args : Arguments) (tool : NamedTool) : Option Request :=
  if tool.template.guarded && !args.confirm then none
  else
    match tool.identifier args with
    | some identifier => some (tool.requestFor identifier)
    | none =>
      if tool = .onboarding then some { method := .get, target := literal "/api/onboarding" }
      else none

/-- The other tools. -/
inductive PlainTool where
  | health | dashboard | gatewayStatus | gatewayHealth | gatewayTools | poolsList
  | telemetryEvents | telemetryClients | telemetryGateway | discovery
  | governanceApprovals | clientsList | configGet | activity | forsettiModules
  | diagnosticsSummary | diagnosticsEvents | diagnosticsSelfTest
  | diagnosticsExportMarkdown | diagnosticsExportJson | diagnosticsClear
  | configUpdate | telemetryHeartbeat | poolUpsert | gatewayStart | gatewayStop
  | clientRegister | forsettiModuleEnable | forsettiModuleDisable
  /-- These ask Windows, and send no request. -/
  | serviceStatus | logsTail | firewallCheck | dnsSdCheck
  deriving DecidableEq

structure PlainTemplate where
  method : Verb
  path : Bytes
  guarded : Bool
  moduleAction : Option Bytes

def plainGet (path : String) : Option PlainTemplate := some ⟨.get, literal path, false, none⟩

def plainPost (path : String) : Option PlainTemplate := some ⟨.post, literal path, false, none⟩

def guardedPost (path : String) : Option PlainTemplate := some ⟨.post, literal path, true, none⟩

def PlainTool.template : PlainTool → Option PlainTemplate
  | .health => plainGet "/api/health"
  | .dashboard => plainGet "/api/dashboard"
  | .gatewayStatus => plainGet "/api/gateway/status"
  | .gatewayHealth => plainGet "/api/gateway/health"
  | .gatewayTools => plainGet "/api/gateway/tools"
  | .poolsList => plainGet "/api/pools"
  | .telemetryEvents => plainGet "/api/telemetry/events"
  | .telemetryClients => plainGet "/api/telemetry/clients"
  | .telemetryGateway => plainGet "/api/telemetry/gateway"
  | .discovery => plainGet "/api/discovery"
  | .governanceApprovals => plainGet "/api/clu/approvals"
  | .clientsList => plainGet "/api/clients"
  | .configGet => plainGet "/api/config"
  | .activity => plainGet "/api/activity"
  | .forsettiModules => plainGet "/api/forsetti/modules"
  | .diagnosticsSummary => plainGet "/api/diagnostics/summary"
  | .diagnosticsEvents => plainGet "/api/diagnostics/events"
  | .diagnosticsSelfTest => plainGet "/api/diagnostics/self-test"
  | .diagnosticsExportMarkdown | .diagnosticsExportJson => plainGet "/api/diagnostics/export"
  | .diagnosticsClear => guardedPost "/api/diagnostics/clear"
  | .configUpdate => some ⟨.patch, literal "/api/config", false, none⟩
  | .telemetryHeartbeat => plainPost "/api/telemetry/heartbeat"
  | .poolUpsert => plainPost "/api/pools"
  | .gatewayStart => plainPost "/api/gateway/start"
  | .gatewayStop => guardedPost "/api/gateway/stop"
  | .clientRegister => plainPost "/api/clients"
  | .forsettiModuleEnable =>
    some ⟨.post, literal "/api/forsetti/modules/state", false, some (literal "enable")⟩
  | .forsettiModuleDisable =>
    some ⟨.post, literal "/api/forsetti/modules/state", true, some (literal "disable")⟩
  | .serviceStatus | .logsTail | .firewallCheck | .dnsSdCheck => none

/-! ## Queries -/

def unreserved (b : UInt8) : Bool :=
  (48 ≤ b && b ≤ 57) || (65 ≤ b && b ≤ 90) || (97 ≤ b && b ≤ 122) || (literal "_.-~").contains b

def hexDigit (n : UInt8) : UInt8 := if n < 10 then 48 + n else 55 + n

def quoteByte (b : UInt8) : Bytes :=
  if unreserved b then [b]
  else if b = 32 then [43]
  else [37, hexDigit (b / 16), hexDigit (b % 16)]

/-- `urlencode`, for keys that need no quoting. -/
def urlencode (params : List (String × Bytes)) : Bytes :=
  (literal "&").intercalate
    (params.map fun param => literal param.1 ++ literal "=" ++ param.2.flatMap quoteByte)

def integerText (n : ℤ) : Bytes :=
  if n < 0 then 45 :: decimal n.natAbs else decimal n.natAbs

/-- An argument that is there and not empty. -/
def Arguments.nonempty (args : Arguments) (name : String) : Option Bytes :=
  (args.text name).filter (· ≠ [])

/-- The filters of `mcos_diagnostics_events`. -/
def Arguments.filters (args : Arguments) (limit : Option ℤ) : List (String × Bytes) :=
  (limit.map fun n => ("max", integerText n)).toList ++
    ((args.nonempty "severity").map fun text => ("severity", text)).toList ++
    ((args.nonempty "source").map fun text => ("source", text)).toList

def filterQuery (params : List (String × Bytes)) : Bytes :=
  if params = [] then [] else literal "?" ++ urlencode params

/-- What the tool puts behind its path; `none` if it sends no request. -/
def PlainTool.query? (args : Arguments) : PlainTool → Option Bytes
  | .telemetryEvents => args.count.map fun n => literal "?max=" ++ integerText n
  | .diagnosticsEvents =>
    if args.limited then args.count.map fun n => filterQuery (args.filters (some n))
    else some (filterQuery (args.filters none))
  | .diagnosticsExportMarkdown => some (literal "?format=markdown")
  | .diagnosticsExportJson => some (literal "?format=json")
  | .configUpdate | .poolUpsert => if args.filled then some [] else none
  | .forsettiModuleEnable | .forsettiModuleDisable => (args.text "moduleId").map fun _ => []
  | _ => some []

def PlainTool.request? (args : Arguments) (tool : PlainTool) : Option Request :=
  match tool.template with
  | some template =>
    if template.guarded && !args.confirm then none
    else (tool.query? args).map fun query =>
      { method := template.method, target := template.path ++ query,
        moduleAction := template.moduleAction }
  | none => none

inductive Tool where
  | named (tool : NamedTool)
  | plain (tool : PlainTool)

def Tool.request? (args : Arguments) : Tool → Option Request
  | .named tool => tool.request? args
  | .plain tool => tool.request? args

/-- The request of a call that reaches the server. -/
def arrives (args : Arguments) (tool : Tool) : Option Request :=
  (tool.request? args).bind urlopen

/-! ## The property -/

/-- Without confirmation nothing is destroyed. -/
def GuardHolds (args : Arguments) (tool : Tool) : Prop :=
  args.confirm = false → ∀ request, arrives args tool = some request →
    destroys request.moduleAction (dispatch request) = false

/-- The identifier is refused, or acted on as the tool says. -/
def ReachesItsRoute (args : Arguments) (tool : NamedTool) : Prop :=
  ∀ identifier, tool.identifier args = some identifier →
    ∀ request, arrives args (.named tool) = some request →
      dispatch request = .refused ∨ dispatch request = .acts tool.template.action identifier

def NotBypassed (args : Arguments) (tool : Tool) : Prop :=
  GuardHolds args tool ∧ ∀ named, tool = .named named → ReachesItsRoute args named

/-! ## The condition -/

/-- What is left of an identifier, if it holds a `?` or a `#`. -/
def remains (identifier : Bytes) : Bytes :=
  (dropFragment identifier).takeWhile (· ≠ questionMark)

/-- The endings below a start, in the order of their blocks. -/
def clientEndings : List (Bytes × Action) :=
  [(literal "/disable", .clientDisable), (literal "/enable", .clientEnable),
   (literal "/privileges", .clientPrivileges), (literal "/autonomous-mode", .clientAutonomousMode)]

def approvalEndings : List (Bytes × Action) :=
  [(literal "/approve", .approve), (literal "/reject", .reject)]

/-- Behind its first slash the text has nothing, `leases` or `saturation`, or it has no slash. -/
def namesPoolRead (text : Bytes) : Bool :=
  [[], literal "leases", literal "saturation"].contains ((afterSlash text).getD [])

/-- Whether a text behind the start of the tool names an action. -/
def NamedTool.namesAction (tool : NamedTool) (text : Bytes) : Bool :=
  match tool with
  | .poolGet | .poolLeases | .poolSaturation => namesPoolRead text
  | .onboarding | .governanceBundle => true
  | .poolScale | .poolDrain | .poolRemove | .leaseAcquire =>
    poolActions.any fun entry => afterSlash text = some entry.1
  | .leaseRelease => afterSlash text = some (literal "release")
  | .governanceApprove | .governanceReject =>
    approvalEndings.any fun entry => entry.1.isSuffixOf (approvalsStart ++ text)
  | .clientPrivileges | .clientEnable | .clientDisable =>
    clientEndings.any fun entry => entry.1.isSuffixOf (lanClientsStart ++ text)

/-- With a `?` or a `#`, what remains of the identifier names no action.  Without them only
`mcos_pool_get`, which has no ending, must be given no slash behind which it finds something. -/
def NamedTool.harmless (tool : NamedTool) (identifier : Bytes) : Bool :=
  if identifier.contains questionMark || identifier.contains hash then
    !tool.namesAction (remains identifier)
  else
    tool ≠ .poolGet || !identifier.contains slash || !namesPoolRead identifier

/-- The guard refuses, or no identifier is given, or it cannot be sent, or it is harmless. -/
def Tool.safelyCalled (args : Arguments) : Tool → Prop
  | .plain _ => True
  | .named tool => ∀ identifier, tool.identifier args = some identifier →
      (tool.template.guarded → args.confirm) → (dropFragment identifier).all sendableByte →
      tool.harmless identifier

end ControlBridge
end Admin
end MasterControl
