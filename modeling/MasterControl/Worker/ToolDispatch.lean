import MasterControl.Clients.ToolCapabilities
import MasterControl.Foundation.Codec
import MasterControl.Foundation.JsonAccess

/-!
# What the tools of the worker do

`dispatchToolCall` serves the tools of one specialization, and four tools in every one.  A tool
reads its arguments (`Reading`) and then does one thing (`ToolAction`); how the result is written
into the reply is left out.

What an action needs is the capability to do it: to run a program, to read or write what is
stored, to see and control windows, to synthesise input, to capture the screen.
-/

namespace MasterControl
namespace Worker

open Foundation Clients

inductive Specialization where
  | baselineTools
  | terminalShell
  | localGit
  | fileSearch
  | clientTracker
  | metrics
  | codeExecutionRepl
  | localTestRunner
  | localBuildTool
  | localLinter
  | localIndexer
  | persistentContext
  | knowledgeGraph
  | fileWatcher
  | keyboardMouseControl
  | screenCaptureVision
  | desktopControl
  | computerUse
  | agentSentinel
  | agentArchitect
  | agentForge
  | agentScribe
  | agentRecon
  | agentNexus
  | agentWatchtower
  | localDatabase
  deriving DecidableEq

/-! ## Actions -/

/-- What a tool does, with what it is given. -/
inductive ToolAction where
  | shellExec (command cwd : String) (timeoutMs : Int32)
  | gitRun (args : List String) (cwd : String) (timeoutMs : Int32)
  | replExec (language code : String) (timeoutMs : Int32)
  | runCommandLineTool (exe : String) (args : List String) (cwd : String) (timeoutMs : Int32)
      (label : String)
  | searchGrep (pattern path glob : String) (maxMatches timeoutMs : Int32)
  | indexListFiles (path glob : String) (maxFiles : Int32)
  | listReleaseReports
  | persistentCtxGet (key : String)
  | persistentCtxList
  | persistentCtxSet (key : String) (value : Json)
  | persistentCtxDelete (key : String)
  | kgSearch (query : String)
  | loadKnowledgeGraph
  | kgEntityUpsert (name entityType : String) (observations : List String)
  | kgRelationCreate (source target relationType : String)
  | kgDeleteEntity (name : String)
  | fileWatchAdd (path : String) (recursive : Bool)
  | fileWatchPoll (path : String)
  | fileWatchList
  | fileWatchRemove (path : String)
  | databaseStatus
  | listTables
  | describeTable (table : String)
  | queryReadonly (sql : String) (rowLimit : Int32)
  | desktopListWindows (includeHidden : Bool)
  | desktopFocus (titleSubstring : String)
  | desktopLaunch (path args : String)
  | desktopForeground
  | inputKeyboard (text : String) (delayMs : Int32)
  | inputClick (x y : Int32) (button : String) (count : Int32)
  | inputMove (x y : Int32)
  | inputScroll (dx dy : Int32)
  | screenCapture (x y width height : Int32)
  | screenSize
  /-- A relayed GET route of the admin interface. -/
  | httpBridgeGet (route : String) (timeoutMs : Int32)
  | draftAdr (title context decision : String)
  | draftReleaseReport (version summary : String)
  | suggestPoolTemplate (poolId displayName : String)
  | listSpecializations
  | echo (text : String)
  | nowIso8601Utc
  | hostInfo
  | add (a b : Int)

/-- The capabilities for what a tool does. -/
def ToolAction.needs : ToolAction → List String
  | shellExec .. | gitRun .. | replExec .. | runCommandLineTool .. => [kCapabilityProcessExec]
  | searchGrep .. | indexListFiles .. | listReleaseReports | persistentCtxGet _
  | persistentCtxList | kgSearch _ | loadKnowledgeGraph | fileWatchAdd .. | fileWatchPoll _
  | fileWatchList | fileWatchRemove _ | databaseStatus | listTables | describeTable _
  | queryReadonly .. => [kCapabilityFilesystemRead]
  | persistentCtxSet .. | persistentCtxDelete _ | kgEntityUpsert .. | kgRelationCreate ..
  | kgDeleteEntity _ => [kCapabilityFilesystemWrite]
  | desktopLaunch .. => [kCapabilityProcessExec, kCapabilityDesktopControl]
  | desktopListWindows _ | desktopFocus _ | desktopForeground => [kCapabilityDesktopControl]
  | inputKeyboard .. | inputClick .. | inputMove .. | inputScroll .. => [kCapabilityInputSynthesize]
  | screenCapture .. | screenSize => [kCapabilityScreenCapture]
  | httpBridgeGet .. | draftAdr .. | draftReleaseReport .. | suggestPoolTemplate ..
  | listSpecializations | echo _ | nowIso8601Utc | hostInfo | add .. => []

/-! ## Arguments -/

/-- Reading arguments: a refusal with its message, or nothing where an accessor throws. -/
abbrev Reading (α : Type) := ExceptT String Option α

/-- A tool, on the arguments it is called with. -/
abbrev Tool := Json → Reading ToolAction

/-- A tool reads its arguments, and what it does depends on them. -/
def tool {α : Type} (read : Json → Reading α) (act : α → ToolAction) : Tool :=
  fun arguments => act <$> read arguments

theorem eq_act_of_tool {α : Type} {read : Json → Reading α} {act : α → ToolAction}
    {arguments : Json} {action : ToolAction}
    (h : (tool read act arguments).run = some (.ok action)) : ∃ a, action = act a := by
  rw [tool, ExceptT.run_map] at h
  cases hread : (read arguments).run with
  | none =>
    rw [hread] at h
    cases h
  | some result =>
    rw [hread] at h
    cases result with
    | error message => cases h
    | ok a =>
      refine ⟨a, ?_⟩
      cases h
      rfl

/-- A member that has to be there. -/
def required {α : Type} (message : String) : Option α → Reading α
  | some a => pure a
  | none => throw message

/-- `is_object`, `contains` and `is_string`. -/
def string? (key : String) (arguments : Json) : Option String :=
  (arguments.member? key).bind Json.asString?

def nonempty? (key : String) (arguments : Json) : Option String :=
  (string? key arguments).filter (· ≠ "")

/-- A member that passes `is_number_integer`, as an `int`. -/
def integer? (key : String) (arguments : Json) : Option Int :=
  match arguments.member? key with
  | some (.integer value) => some value
  | _ => none

def allStrings? : List Json → Option (List String)
  | [] => some []
  | element :: elements => do
    let text ← element.asString?
    let texts ← allStrings? elements
    some (text :: texts)

/-- The strings of a member that is an array. -/
def stringsAt (key : String) (arguments : Json) : List String :=
  match arguments.arrayAt key with
  | some elements => Json.strings elements
  | none => []

variable (conversions : NumberConversions)

/-- `value(key, fallback)` of an integer. -/
def valueInt (key : String) (fallback : Int32) (arguments : Json) : Option Int32 :=
  match arguments with
  | .object members =>
    match Json.lookup key members with
    | none => some fallback
    | some value => (Codec.int conversions).decode value
  | _ => none

def valueBool (key : String) (fallback : Bool) (arguments : Json) : Option Bool :=
  match arguments with
  | .object members =>
    match Json.lookup key members with
    | none => some fallback
    | some value => Codec.boolean.decode value
  | _ => none

/-- `arguments.is_object() ? arguments.value(key, fallback) : fallback`. -/
def ifObject {α : Type} (read : Json → Option α) (fallback : α) (arguments : Json) : Reading α :=
  match arguments with
  | .object _ => read arguments
  | _ => pure fallback

/-! ## Programs -/

def shellExecTool : Tool :=
  tool (fun arguments => do
    let command ← required "shell.exec: arguments.command (string) is required."
      (string? "command" arguments)
    let cwd ← arguments.valueString "cwd" ""
    let timeoutMs ← valueInt conversions "timeoutMs" 0 arguments
    return (command, cwd, timeoutMs))
  fun (command, cwd, timeoutMs) => .shellExec command cwd timeoutMs

def gitRunTool : Tool :=
  tool (fun arguments => do
    let elements ← required "git.run: arguments.args (array of strings) is required."
      (arguments.arrayAt "args")
    let args ← required "git.run: every entry in arguments.args must be a string."
      (allStrings? elements)
    let cwd ← arguments.valueString "cwd" ""
    let timeoutMs ← valueInt conversions "timeoutMs" 0 arguments
    return (args, cwd, timeoutMs))
  fun (args, cwd, timeoutMs) => .gitRun args cwd timeoutMs

def replExecTool : Tool :=
  tool (fun arguments => do
    let message := "repl.exec: arguments.language and arguments.code (strings) are required."
    let language ← required message (string? "language" arguments)
    let code ← required message (string? "code" arguments)
    let timeoutMs ← valueInt conversions "timeoutMs" 0 arguments
    return (language, code, timeoutMs))
  fun (language, code, timeoutMs) => .replExec language code timeoutMs

/-- The program of a framework or tool; the shell has none and takes a command line. -/
structure ToolBinding where
  exe : String
  joinShell : Bool := false

def pickTestBinding : String → ToolBinding
  | "ctest" => ⟨"ctest", false⟩
  | "pytest" => ⟨"pytest", false⟩
  | "jest" => ⟨"jest", false⟩
  | "npm" => ⟨"npm.cmd", false⟩
  | "dotnet" => ⟨"dotnet", false⟩
  | "cargo" => ⟨"cargo", false⟩
  | "shell" => ⟨"", true⟩
  | _ => ⟨"", false⟩

def pickBuildBinding : String → ToolBinding
  | "cmake" => ⟨"cmake", false⟩
  | "msbuild" => ⟨"msbuild", false⟩
  | "cargo" => ⟨"cargo", false⟩
  | "npm" => ⟨"npm.cmd", false⟩
  | "dotnet" => ⟨"dotnet", false⟩
  | "gradle" => ⟨"gradle.bat", false⟩
  | "make" => ⟨"make", false⟩
  | _ => ⟨"", false⟩

def pickLinterBinding : String → ToolBinding
  | "eslint" => ⟨"eslint.cmd", false⟩
  | "pylint" => ⟨"pylint", false⟩
  | "ruff" => ⟨"ruff", false⟩
  | "clang-tidy" => ⟨"clang-tidy", false⟩
  | "dotnet-format" => ⟨"dotnet", false⟩
  | "rustfmt" => ⟨"rustfmt", false⟩
  | _ => ⟨"", false⟩

/-- What `test.run` runs: a program, or the command line of the shell. -/
inductive TestRun where
  | program (exe : String) (args : List String)
  | shell (commandLine : String)

def testRunTool : Tool :=
  tool (fun arguments => do
    let framework ← required "test.run: arguments.framework (string) is required."
      (string? "framework" arguments)
    let args := stringsAt "args" arguments
    let cwd ← arguments.valueString "cwd" ""
    let timeoutMs ← valueInt conversions "timeoutMs" 300000 arguments
    let binding := pickTestBinding framework
    let run ←
      if binding.exe = "" && !binding.joinShell then
        throw ("test.run: unsupported framework '" ++ framework ++
          "'. Supported: ctest, pytest, jest, npm, dotnet, cargo, shell.")
      else if binding.joinShell then
        required "test.run framework='shell' requires args[0] to be the command line."
          (args.head?.map TestRun.shell)
      else pure (TestRun.program binding.exe args)
    return (run, cwd, timeoutMs, framework))
  fun (run, cwd, timeoutMs, framework) =>
    match run with
    | .program exe args => .runCommandLineTool exe args cwd timeoutMs framework
    | .shell commandLine => .shellExec commandLine cwd timeoutMs

/-- `build.run` and `lint.run`, with the program for each tool and the arguments in front. -/
def commandLineTool (name supported : String) (defaultTimeoutMs : Int32)
    (pickBinding : String → ToolBinding) (prepended : String → List String) : Tool :=
  tool (fun arguments => do
    let called ← required (name ++ ": arguments.tool (string) is required.")
      (string? "tool" arguments)
    let args := stringsAt "args" arguments
    let cwd ← arguments.valueString "cwd" ""
    let timeoutMs ← valueInt conversions "timeoutMs" defaultTimeoutMs arguments
    let binding := pickBinding called
    if binding.exe = "" then
      throw (name ++ ": unsupported tool '" ++ called ++ "'. Supported: " ++ supported ++ ".")
    return (binding.exe, prepended called ++ args, cwd, timeoutMs, called))
  fun (exe, args, cwd, timeoutMs, called) => .runCommandLineTool exe args cwd timeoutMs called

def buildRunTool : Tool :=
  commandLineTool conversions "build.run" "cmake, msbuild, cargo, npm, dotnet, gradle, make" 600000
    pickBuildBinding fun _ => []

/-- `dotnet-format` is called as `dotnet format`. -/
def lintRunTool : Tool :=
  commandLineTool conversions "lint.run" "eslint, pylint, ruff, clang-tidy, dotnet-format, rustfmt"
    120000 pickLinterBinding fun called => if called = "dotnet-format" then ["format"] else []

/-! ## Files -/

def searchGrepTool : Tool :=
  tool (fun arguments => do
    let pattern ← required "search.grep: arguments.pattern (string) is required."
      (string? "pattern" arguments)
    let path ← arguments.valueString "path" ""
    let glob ← arguments.valueString "glob" ""
    let maxMatches ← valueInt conversions "maxMatches" 0 arguments
    let timeoutMs ← valueInt conversions "timeoutMs" 0 arguments
    return (pattern, path, glob, maxMatches, timeoutMs))
  fun (pattern, path, glob, maxMatches, timeoutMs) =>
    .searchGrep pattern path glob maxMatches timeoutMs

def indexListFilesTool : Tool :=
  tool (fun arguments => do
    let path ← required "index.list_files: arguments.path (string) is required."
      (string? "path" arguments)
    let glob ← arguments.valueString "glob" ""
    let maxFiles ← valueInt conversions "maxFiles" 0 arguments
    return (path, glob, maxFiles))
  fun (path, glob, maxFiles) => .indexListFiles path glob maxFiles

/-- A tool with one argument, a string that has to be there. -/
def textTool (message key : String) (act : String → ToolAction) : Tool :=
  tool (fun arguments => required message (string? key arguments)) act

/-- A tool that reads no arguments. -/
def plainTool (action : ToolAction) : Tool := tool (fun _ => pure ()) fun _ => action

def watchAddTool : Tool :=
  tool (fun arguments => do
    let path ← required "watch.add: arguments.path (string) is required." (string? "path" arguments)
    let recursive ← valueBool "recursive" true arguments
    return (path, recursive))
  fun (path, recursive) => .fileWatchAdd path recursive

def watchPollTool : Tool :=
  tool (fun arguments => ifObject (Json.valueString "path" "") "" arguments) .fileWatchPoll

/-! ## Stored state -/

def ctxSetTool : Tool :=
  tool (fun arguments => do
    let message := "ctx.set: arguments.key (string) and arguments.value are required."
    let key ← required message (string? "key" arguments)
    let value ← required message (arguments.member? "value")
    return (key, value))
  fun (key, value) => .persistentCtxSet key value

def kgEntityUpsertTool : Tool :=
  tool (fun arguments => do
    let message :=
      "kg.entity.upsert: arguments.name and arguments.entityType (strings) are required."
    let name ← required message (string? "name" arguments)
    let entityType ← required message (string? "entityType" arguments)
    return (name, entityType, stringsAt "observations" arguments))
  fun (name, entityType, observations) => .kgEntityUpsert name entityType observations

def kgRelationCreateTool : Tool :=
  tool (fun arguments => do
    let message := "kg.relation.create: arguments.from, arguments.to, arguments.relationType " ++
      "(strings) are required."
    let source ← required message (string? "from" arguments)
    let target ← required message (string? "to" arguments)
    let relationType ← required message (string? "relationType" arguments)
    return (source, target, relationType))
  fun (source, target, relationType) => .kgRelationCreate source target relationType

def setConnectionStringTool : Tool :=
  textTool ("db.set_connection_string: arguments.connectionString (string, a SQLite database " ++
    "file path) is required.") "connectionString"
    fun connectionString =>
      .persistentCtxSet "local-database.connection-string" (.string connectionString)

def describeTableTool : Tool :=
  tool (fun arguments =>
    required "db.describe_table: arguments.table (non-empty string) is required."
      (nonempty? "table" arguments)) .describeTable

def queryReadonlyTool : Tool :=
  tool (fun arguments => do
    let sql ← required "db.query_readonly: arguments.sql (non-empty string) is required."
      (nonempty? "sql" arguments)
    let rowLimit ← valueInt conversions "rowLimit" 0 arguments
    return (sql, rowLimit))
  fun (sql, rowLimit) => .queryReadonly sql rowLimit

/-! ## The desktop -/

def keyboardTool : Tool :=
  tool (fun arguments => do
    let text ← required "input.keyboard / computer.type: arguments.text (string) is required."
      (string? "text" arguments)
    let delayMs ← valueInt conversions "delayMs" 5 arguments
    return (text, delayMs))
  fun (text, delayMs) => .inputKeyboard text delayMs

def clickTool : Tool :=
  tool (fun arguments => do
    let message :=
      "input.click / computer.click: arguments.x and arguments.y (integers) are required."
    let x ← required message (integer? "x" arguments)
    let y ← required message (integer? "y" arguments)
    let button ← arguments.valueString "button" "left"
    let count ← valueInt conversions "count" 1 arguments
    return (x, y, button, count))
  fun (x, y, button, count) => .inputClick (.ofInt x) (.ofInt y) button count

def moveTool : Tool :=
  tool (fun arguments => do
    let message :=
      "input.move / computer.move_mouse: arguments.x and arguments.y (integers) are required."
    let x ← required message (integer? "x" arguments)
    let y ← required message (integer? "y" arguments)
    return (x, y))
  fun (x, y) => .inputMove (.ofInt x) (.ofInt y)

def scrollTool : Tool :=
  tool (fun arguments => do
    let dx ← ifObject (valueInt conversions "dx" 0) 0 arguments
    let dy ← ifObject (valueInt conversions "dy" 0) 0 arguments
    return (dx, dy))
  fun (dx, dy) => .inputScroll dx dy

def captureTool : Tool :=
  tool (fun arguments => do
    let x ← ifObject (valueInt conversions "x" 0) 0 arguments
    let y ← ifObject (valueInt conversions "y" 0) 0 arguments
    let width ← ifObject (valueInt conversions "width" 0) 0 arguments
    let height ← ifObject (valueInt conversions "height" 0) 0 arguments
    return (x, y, width, height))
  fun (x, y, width, height) => .screenCapture x y width height

def listWindowsTool : Tool :=
  tool (fun arguments => ifObject (valueBool "includeHidden" false) false arguments)
    .desktopListWindows

def desktopLaunchTool : Tool :=
  tool (fun arguments => do
    let path ← required "desktop.launch: arguments.path (string) is required."
      (string? "path" arguments)
    let args ← arguments.valueString "args" ""
    return (path, args))
  fun (path, args) => .desktopLaunch path args

/-! ## Roles -/

def relayTool (route : String) (timeoutMs : Int32) : Tool :=
  plainTool (.httpBridgeGet route timeoutMs)

/-- The newest activity, from 1 up to 500 entries. -/
def activityTool : Tool :=
  tool (fun arguments => ifObject (valueInt conversions "max" 50) 50 arguments) fun max =>
    let clamped : Int32 := if max < 1 then 1 else if max > 500 then 500 else max
    .httpBridgeGet ("/api/activity?max=" ++ toString clamped.toInt) 5000

def draftAdrTool : Tool :=
  tool (fun arguments => do
    let title ← ifObject (Json.valueString "title" "(set title)") "(set title)" arguments
    let context ←
      ifObject (Json.valueString "context" "(describe context)") "(describe context)" arguments
    let decision ←
      ifObject (Json.valueString "decision" "(state decision)") "(state decision)" arguments
    return (title, context, decision))
  fun (title, context, decision) => .draftAdr title context decision

def draftReleaseReportTool : Tool :=
  tool (fun arguments => do
    let version ← ifObject (Json.valueString "version" "(set version)") "(set version)" arguments
    let summary ← ifObject (Json.valueString "summary" "(one-paragraph summary)")
      "(one-paragraph summary)" arguments
    return (version, summary))
  fun (version, summary) => .draftReleaseReport version summary

def suggestPoolTemplateTool : Tool :=
  tool (fun arguments => do
    let poolId ← required "forge.suggest_pool_template: arguments.poolId (string) is required."
      (string? "poolId" arguments)
    let displayName ← arguments.valueString "displayName" ("MCP — " ++ poolId)
    return (poolId, displayName))
  fun (poolId, displayName) => .suggestPoolTemplate poolId displayName

def addTool : Tool :=
  tool (fun arguments => do
    let message := "mcos.add: arguments.a and arguments.b (integers) are required."
    let a ← required message (integer? "a" arguments)
    let b ← required message (integer? "b" arguments)
    return (a, b))
  fun (a, b) => .add a b

/-! ## The dispatcher -/

def inputTools : List (String × Tool) :=
  [("input.keyboard", keyboardTool conversions), ("input.click", clickTool conversions),
   ("input.move", moveTool), ("input.scroll", scrollTool conversions)]

def screenTools : List (String × Tool) :=
  [("screen.capture", captureTool conversions), ("screen.size", plainTool .screenSize)]

def desktopTools : List (String × Tool) :=
  [("desktop.list_windows", listWindowsTool),
   ("desktop.focus", textTool "desktop.focus: arguments.titleSubstring (string) is required."
      "titleSubstring" .desktopFocus),
   ("desktop.launch", desktopLaunchTool), ("desktop.foreground", plainTool .desktopForeground)]

/-- The other names of `computerUse` for tools that it has. -/
def computerAliases : List (String × Tool) :=
  [("computer.type", keyboardTool conversions), ("computer.click", clickTool conversions),
   ("computer.move_mouse", moveTool), ("computer.screenshot", captureTool conversions),
   ("computer.window_list", listWindowsTool)]

def persistentContextTools : List (String × Tool) :=
  [("ctx.set", ctxSetTool),
   ("ctx.get", textTool "ctx.get: arguments.key (string) is required." "key" .persistentCtxGet),
   ("ctx.list", plainTool .persistentCtxList),
   ("ctx.delete",
      textTool "ctx.delete: arguments.key (string) is required." "key" .persistentCtxDelete)]

def knowledgeGraphTools : List (String × Tool) :=
  [("kg.entity.upsert", kgEntityUpsertTool), ("kg.relation.create", kgRelationCreateTool),
   ("kg.search", textTool "kg.search: arguments.query (string) is required." "query" .kgSearch),
   ("kg.read_graph", plainTool .loadKnowledgeGraph),
   ("kg.delete_entity",
      textTool "kg.delete_entity: arguments.name (string) is required." "name" .kgDeleteEntity)]

def fileWatcherTools : List (String × Tool) :=
  [("watch.add", watchAddTool), ("watch.poll", watchPollTool),
   ("watch.list", plainTool .fileWatchList),
   ("watch.remove",
      textTool "watch.remove: arguments.path (string) is required." "path" .fileWatchRemove)]

def localDatabaseTools : List (String × Tool) :=
  [("db.status", plainTool .databaseStatus), ("db.set_connection_string", setConnectionStringTool),
   ("db.list_tables", plainTool .listTables), ("db.describe_table", describeTableTool),
   ("db.query_readonly", queryReadonlyTool conversions)]

/-- The tools of a specialization. -/
def specializedTools : Specialization → List (String × Tool)
  | .baselineTools => []
  | .terminalShell => [("shell.exec", shellExecTool conversions)]
  | .localGit => [("git.run", gitRunTool conversions)]
  | .fileSearch => [("search.grep", searchGrepTool conversions)]
  | .clientTracker => [("clients.list", relayTool "/api/clients" 5000)]
  | .metrics =>
    [("metrics.host", relayTool "/api/host/telemetry" 5000),
     ("metrics.gateway", relayTool "/api/telemetry/gateway" 5000)]
  | .codeExecutionRepl => [("repl.exec", replExecTool conversions)]
  | .localTestRunner => [("test.run", testRunTool conversions)]
  | .localBuildTool => [("build.run", buildRunTool conversions)]
  | .localLinter => [("lint.run", lintRunTool conversions)]
  | .localIndexer => [("index.list_files", indexListFilesTool conversions)]
  | .persistentContext => persistentContextTools
  | .knowledgeGraph => knowledgeGraphTools
  | .fileWatcher => fileWatcherTools
  | .keyboardMouseControl => inputTools conversions
  | .screenCaptureVision => screenTools conversions
  | .desktopControl => desktopTools
  | .computerUse =>
    inputTools conversions ++ screenTools conversions ++ desktopTools ++ computerAliases conversions
  | .agentSentinel =>
    [("sentinel.list_rules", relayTool "/api/forsetti/surface" 5000),
     ("sentinel.recent_activity", activityTool conversions),
     ("sentinel.health_summary", relayTool "/api/health/summary" 5000)]
  | .agentArchitect =>
    [("architect.list_phases", relayTool "/api/forsetti/surface" 5000),
     ("architect.discovery_doc", relayTool "/.well-known/mcos.json" 5000),
     ("architect.draft_adr", draftAdrTool)]
  | .agentForge =>
    [("forge.list_pools", relayTool "/api/pools" 5000),
     ("forge.suggest_pool_template", suggestPoolTemplateTool),
     ("forge.list_specializations", plainTool .listSpecializations)]
  | .agentScribe =>
    [("scribe.list_release_reports", plainTool .listReleaseReports),
     ("scribe.draft_release_report", draftReleaseReportTool),
     ("scribe.version_state", relayTool "/api/version" 5000)]
  | .agentRecon =>
    [("recon.dashboard", relayTool "/api/dashboard" 10000),
     ("recon.diagnostics", relayTool "/api/diagnostics/runtime-stats" 5000),
     ("recon.gateway_tools", relayTool "/api/gateway/tools" 5000)]
  | .agentNexus =>
    [("nexus.health_summary", relayTool "/api/health/summary" 5000),
     ("nexus.discovery", relayTool "/api/discovery" 5000),
     ("nexus.list_clients", relayTool "/api/clients" 5000)]
  | .agentWatchtower =>
    [("watchtower.health_summary", relayTool "/api/health/summary" 5000),
     ("watchtower.gateway_status", relayTool "/api/gateway/status" 5000),
     ("watchtower.activity_tail", activityTool conversions)]
  | .localDatabase => localDatabaseTools conversions

def commonTools : List (String × Tool) :=
  [("mcos.echo", textTool "mcos.echo: arguments.text (string) is required." "text" .echo),
   ("mcos.now", plainTool .nowIso8601Utc), ("mcos.host_info", plainTool .hostInfo),
   ("mcos.add", addTool)]

/-- The tools that are served, in the order in which they are looked up. -/
def servedTools (specialization : Specialization) : List (String × Tool) :=
  specializedTools conversions specialization ++ commonTools

/-- What a call comes to before its result is written. -/
inductive ToolOutcome where
  | does (action : ToolAction)
  | error (code : Int) (message : String)

/-- `dispatchToolCall`; nothing where an accessor throws. -/
def dispatchToolCall (specialization : Specialization) (toolName : String) (arguments : Json) :
    Option ToolOutcome :=
  match (servedTools conversions specialization).find? fun entry => entry.1 = toolName with
  | none =>
    some (.error (-32601)
      ("Tool not implemented: " ++ toolName ++ ". Call tools/list for the supported set."))
  | some (_, served) =>
    match (served arguments).run with
    | none => none
    | some (.error message) => some (.error (-32602) message)
    | some (.ok action) => some (.does action)

/-- **A tool that does something is served, under its name.** -/
theorem served_of_does {specialization : Specialization} {toolName : String} {arguments : Json}
    {action : ToolAction}
    (h : dispatchToolCall conversions specialization toolName arguments = some (.does action)) :
    ∃ served, (toolName, served) ∈ servedTools conversions specialization ∧
      (served arguments).run = some (.ok action) := by
  unfold dispatchToolCall at h
  split at h
  · cases h
  · next name served hfind =>
    have hname : name = toolName := by simpa using List.find?_some hfind
    subst hname
    refine ⟨served, List.mem_of_find?_eq_some hfind, ?_⟩
    split at h
    · cases h
    · cases h
    · next action' hrun =>
      cases h
      exact hrun

end Worker
end MasterControl
