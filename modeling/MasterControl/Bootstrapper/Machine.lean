import MasterControl.Foundation.ByteText
import MasterControl.Foundation.OrdMap
import Mathlib.Data.String.Basic

/-!
# What the bootstrapper changes

An installation consists of the directory of the program, with its installation state, and of four
integrations into Windows: the service, the rules of the firewall, the shortcuts and the entry
under which it is uninstalled.  Each is kept here with what the calls of the bootstrapper make of
it.  How a call goes is given to it: as it should, or with something else left behind, and
reported.

The rules, the shortcuts and the entry are those that the bootstrapper itself writes or deletes.
-/

namespace MasterControl
namespace Bootstrapper

open Foundation

/-! ## Directories -/

/-- What is at a path; `other` is neither a directory nor a regular file. -/
inductive Node where
  | file (content : Bytes)
  | directory
  | other
deriving DecidableEq

/-- What is below a directory, by path. -/
abbrev Tree := OrdMap String Node

def directoryHasEntries (directory : Option Tree) : Bool :=
  directory.any fun tree => !tree.entries.isEmpty

/-- Why `copy_file` fails. -/
inductive CopyError where
  | sharingViolation
  | lockViolation
  | accessDenied
  | userMappedFile
  | lasting
deriving DecidableEq

def isTransientCopyError : CopyError → Bool
  | .sharingViolation | .lockViolation | .accessDenied | .userMappedFile => true
  | .lasting => false

def kMaxAttempts : ℕ := 24

/-- The attempts from one on, with the errors that they meet until one copies the file; `false` is
an exception. -/
def copyFileWithRetry (attempt : ℕ) : List CopyError → Bool
  | [] => true
  | error :: errors =>
    if !isTransientCopyError error || kMaxAttempts ≤ attempt + 1 then false
    else copyFileWithRetry (attempt + 1) errors

/-- How the copying of a directory goes. -/
structure Copying where
  errors : String → List CopyError := fun _ => []
  /-- A directory cannot be read or made. -/
  blocked : Bool := false
  /-- What is there if it ends in an exception. -/
  left : Tree := OrdMap.empty

/-- A file does not replace a directory, nor the other way round. -/
def Node.collides : Node → Option Node → Bool
  | .file _, some .directory | .file _, some .other => true
  | .directory, some (.file _) | .directory, some .other => true
  | _, _ => false

/-- One entry fails. -/
def Copying.fails (c : Copying) (destination : Tree) (entry : String × Node) : Bool :=
  entry.2.collides (destination.find? entry.1) ||
    match entry.2 with
    | .file _ => !copyFileWithRetry 0 (c.errors entry.1)
    | .directory | .other => false

def place (tree : Tree) (entry : String × Node) : Tree :=
  if entry.2 = .other then tree else tree.insert entry.1 entry.2

/-- `copyRecursive` of one directory to another one; what is left is that of an exception. -/
def copyRecursive (c : Copying) (source destination : Tree) : Except Tree Tree :=
  if c.blocked || source.entries.any (c.fails destination) then .error c.left
  else .ok (source.entries.foldl place destination)

/-- `remove_all`, whose error nobody looks at; what it leaves, if it does not remove all. -/
abbrev Removal := Option Tree

/-! ## The payload -/

/-- A directory of the payload: another one, or the install directory itself (`samePath`). -/
inductive Source where
  | same
  | other (tree : Tree)

structure PayloadLayout where
  flatPayload : Bool
  flatRoot : Source
  bootstrapperDirectory : Source
  serviceDirectory : Source
  shellDirectory : Source
  manifestsDirectory : Source
  webDirectory : Source

/-- A tree below further directories. -/
def below (directories : List String) (tree : Tree) : Tree :=
  let parents := directories.inits.tail.map ("/".intercalate ·)
  let made := parents.foldl (fun made path => made.insert path .directory) OrdMap.empty
  tree.entries.foldl
    (fun made entry => made.insert ("/".intercalate (directories ++ [entry.1])) entry.2) made

/-- The trees of a payload, where they go. -/
def PayloadLayout.trees (layout : PayloadLayout) : List Tree :=
  let whole (source : Source) : List Tree :=
    match source with
    | .same => []
    | .other tree => [tree]
  let shared (leaf : String) (source : Source) : List Tree :=
    (whole source).map (below ["share", "MasterControlOrchestrationServer", leaf])
  if layout.flatPayload then whole layout.flatRoot
  else
    whole layout.bootstrapperDirectory ++ whole layout.serviceDirectory ++
      whole layout.shellDirectory ++ shared "ForsettiManifests" layout.manifestsDirectory ++
      shared "web" layout.webDirectory

/-- `stagePayload`; each tree has its own copying. -/
def stageTrees : List Tree → List Copying → Tree → Except Tree Tree
  | [], _, tree => .ok tree
  | source :: sources, copyings, tree =>
    match copyRecursive (copyings.headD {}) source tree with
    | .error left => .error left
    | .ok tree => stageTrees sources copyings.tail tree

def stagePayload (layout : PayloadLayout) (copyings : List Copying) (tree : Tree) :
    Except Tree Tree :=
  stageTrees layout.trees copyings tree

/-! ## Installation state -/

structure IntegrationOptions where
  manageService : Bool := true
  manageFirewall : Bool := true
  manageShortcuts : Bool := true
  manageUninstallRegistration : Bool := true
  jsonOutput : Bool := false

/-- What is used of the configuration. -/
structure AppConfiguration where
  bindAddress : String
  browserPort : ℕ
  beaconPort : ℕ
  listenPort : ℕ
  allowOpenLanAccess : Bool
  beaconEnabled : Bool

structure InstallationState where
  version : String := ""
  installDirectory : String := ""
  serviceBinary : String := ""
  launcherBinary : String := ""
  shellBinary : String := ""
  bootstrapperBinary : String := ""
  shellShortcutPath : String := ""
  dashboardShortcutPath : String := ""
  browserUrl : String := ""
  browserPort : ℕ := 0
  beaconPort : ℕ := 0
  gatewayPort : ℕ := 0
  allowOpenLanAccess : Bool := false
  beaconEnabled : Bool := false
  gatewayAdvertised : Bool := true
  mDnsAdvertised : Bool := true
  serviceManaged : Bool := true
  firewallManaged : Bool := true
  shortcutsManaged : Bool := true
  uninstallRegistrationManaged : Bool := true

/-- The computer, as a call finds it. -/
structure Host where
  version : String
  installDirectory : String
  preferredShortcutDirectory : String
  /-- The shortcuts that `removeShortcuts` deletes in the folders of programs. -/
  programsShortcuts : List String
  /-- `buildDefaultConfiguration`. -/
  defaultConfiguration : AppConfiguration
  /-- An installation state as JSON, and back; `none` is an exception. -/
  dump : InstallationState → Bytes
  parse : Bytes → Option InstallationState
  /-- `resolvePayloadLayout`; `none` is an exception. -/
  payload : Option PayloadLayout
  /-- `MASTERCONTROL_BOOTSTRAPPER_TEST_FAIL_AFTER_STAGE`. -/
  failAfterStage : Bool := false

def kInstallStateFileName : String := "installation-state.json"

def kDefaultGatewayPort : ℕ := 8080

def kMDnsLocalPort : ℕ := 5353

def browserHostForConfiguration (configuration : AppConfiguration) : String :=
  if configuration.bindAddress = "0.0.0.0" then "127.0.0.1" else configuration.bindAddress

/-- A path below another. -/
def pathBelow (directory leaf : String) : String := directory ++ "\\" ++ leaf

def buildInstallationState (host : Host) (configuration : AppConfiguration)
    (options : IntegrationOptions) : InstallationState where
  version := host.version
  installDirectory := host.installDirectory
  serviceBinary := pathBelow host.installDirectory "MasterControlServiceHost.exe"
  launcherBinary := pathBelow host.installDirectory "MasterControlOrchestrationServer.exe"
  shellBinary := pathBelow host.installDirectory "MasterControlShell.exe"
  bootstrapperBinary := pathBelow host.installDirectory "MasterControlBootstrapper.exe"
  shellShortcutPath :=
    pathBelow host.preferredShortcutDirectory "Master Control Orchestration Server.lnk"
  dashboardShortcutPath :=
    pathBelow (pathBelow host.preferredShortcutDirectory "Remote Access")
      "Browser Dashboard (Remote).url"
  browserUrl :=
    "http://" ++ browserHostForConfiguration configuration ++ ":" ++
      toString configuration.browserPort ++ "/"
  browserPort := configuration.browserPort
  beaconPort := configuration.beaconPort
  gatewayPort := if 0 < configuration.listenPort then configuration.listenPort
    else kDefaultGatewayPort
  allowOpenLanAccess := configuration.allowOpenLanAccess
  beaconEnabled := configuration.beaconEnabled
  serviceManaged := options.manageService
  firewallManaged := options.manageFirewall
  shortcutsManaged := options.manageShortcuts
  uninstallRegistrationManaged := options.manageUninstallRegistration

inductive StateRead where
  | absent
  | unreadable
  | read (state : InstallationState)

/-- `readInstallationState`; `unreadable` is an exception. -/
def readInstallationState (host : Host) (directory : Option Tree) : StateRead :=
  match directory.bind (OrdMap.find? · kInstallStateFileName) with
  | some (.file content) =>
    match host.parse content with
    | some state => .read state
    | none => .unreadable
  | _ => .absent

/-- The configuration file. -/
inductive ConfigurationFile where
  | absent
  /-- It cannot be opened. -/
  | closed
  /-- It is no JSON, or not that of a configuration. -/
  | unreadable
  | written (configuration : AppConfiguration)

/-- `ensureConfigurationPresent`, with what is in the file afterwards; `none` is an exception. -/
def ensureConfigurationPresent (host : Host) (blocked : Bool) (left : ConfigurationFile) :
    ConfigurationFile → Option (AppConfiguration × ConfigurationFile)
  | .written configuration => some (configuration, .written configuration)
  | .unreadable => none
  | .absent | .closed => if blocked then none else some (host.defaultConfiguration, left)

/-! ## Calls -/

/-- How a call goes: as it should, or with something else left, and reported. -/
inductive Going (α : Type) where
  | well
  | badly (left : α) (reported : Bool)

/-- The same for a call that may end in an exception. -/
inductive Risky (α : Type) where
  | well
  | badly (left : α) (reported : Bool)
  | throws (left : α)

variable {α : Type}

def Going.leaves (going : Going α) (aim : α) : α :=
  match going with
  | well => aim
  | badly left _ => left

def Going.reports (going : Going α) : Bool :=
  match going with
  | well => true
  | badly _ reported => reported

def Risky.leaves (risky : Risky α) (aim : α) : α :=
  match risky with
  | well => aim
  | badly left _ => left
  | throws left => left

/-- `none` is an exception. -/
def Risky.reports (risky : Risky α) : Option Bool :=
  match risky with
  | well => some true
  | badly _ reported => some reported
  | throws _ => none

/-! ## The service -/

structure Service where
  displayName : String
  account : String
  binaryPath : String
  autoStart : Bool
  description : String
  delayedAutoStart : Bool
  recoveryConfigured : Bool
  failureActionsOnNonCrash : Bool
  sidUnrestricted : Bool
  running : Bool
deriving DecidableEq

/-- A call to a service that is there: it works, or the service is left running or not. -/
inductive ServiceCall where
  | well
  | badly (running : Bool)

def ServiceCall.leaves (call : ServiceCall) (aim : Bool) : Bool :=
  match call with
  | well => aim
  | badly running => running

def ServiceCall.works : ServiceCall → Bool
  | well => true
  | badly _ => false

def Service.turned (service : Service) (running : Bool) : Service := { service with running }

/-- `stopServiceIfPresent`; `false` in the second place also if the service control manager
cannot be reached. -/
def stopServiceIfPresent (call : ServiceCall) (service : Option Service) : Option Service × Bool :=
  (service.map (Service.turned · (call.leaves false)), call.works)

/-- `startServiceIfPresent`. -/
def startServiceIfPresent (call : ServiceCall) (service : Option Service) : Option Service × Bool :=
  (service.map (Service.turned · (call.leaves true)), service.isSome && call.works)

/-- A new service, before its policies are set. -/
def newService (binaryPath : String) : Service where
  displayName := "Master Control Orchestration Server"
  account := "LocalSystem"
  binaryPath := binaryPath
  autoStart := true
  description := ""
  delayedAutoStart := false
  recoveryConfigured := false
  failureActionsOnNonCrash := false
  sidUnrestricted := false
  running := false

/-- The service as it is to be. -/
def Service.updated (service : Service) (binaryPath : String) : Service :=
  { service with
    binaryPath
    autoStart := true
    description := "Forsetti-native control service for MCP servers, sub-agents, telemetry, " ++
      "and browser administration."
    delayedAutoStart := true
    recoveryConfigured := true
    failureActionsOnNonCrash := true
    sidUnrestricted := true }

/-- How installing goes: if badly, with the service in part as it is to be, or not touched. -/
abbrev Installing := Option (Option Service)

/-- `installOrUpdateService`. -/
def installOrUpdateService (installing : Installing) (serviceBinary : String)
    (service : Option Service) : Option Service × Bool :=
  let binaryPath := "\"" ++ serviceBinary ++ "\""
  match installing with
  | none => (some ((service.getD (newService binaryPath)).updated binaryPath), true)
  | some left => (left <|> service, false)

/-- How uninstalling goes: if badly, the service is still there, whatever is reported. -/
inductive Uninstalling where
  | well
  | badly (running : Bool) (reported : Bool)

/-- `uninstallService`. -/
def uninstallService (uninstalling : Uninstalling) (service : Option Service) :
    Option Service × Bool :=
  match uninstalling with
  | .well => (none, true)
  | .badly running reported => (service.map (Service.turned · running), reported)

/-! ## Firewall, shortcuts and entry -/

structure FirewallRule where
  udp : Bool
  port : ℕ
  program : String
deriving DecidableEq

/-- By the name of the rule. -/
abbrev FirewallRules := OrdMap String FirewallRule

/-- The rules of an installation; the old ones are deleted first. -/
def rulesOf (state : InstallationState) : FirewallRules :=
  let add (on : Bool) (name : String) (udp : Bool) (port : ℕ) (rules : FirewallRules) :
      FirewallRules :=
    if on then
      rules.insert ("Master Control Orchestration Server - " ++ name)
        ⟨udp, port, state.serviceBinary⟩
    else rules
  add state.mDnsAdvertised "DNS-SD mDNS Advertising" true kMDnsLocalPort
    (add (state.gatewayAdvertised && decide (0 < state.gatewayPort)) "MCP Gateway" false
      state.gatewayPort
      (add state.beaconEnabled "Beacon Discovery" true state.beaconPort
        (add state.allowOpenLanAccess "Browser Access" false state.browserPort OrdMap.empty)))

/-- `configureFirewallRules`. -/
def configureFirewallRules (going : Going FirewallRules) (state : InstallationState) :
    FirewallRules × Bool :=
  (going.leaves (rulesOf state), going.reports)

/-- `removeFirewallRules`, with what it leaves if it does not remove all. -/
def removeFirewallRules (left : Option FirewallRules) : FirewallRules := left.getD OrdMap.empty

/-- `configureUrlAcl`, by the ports that are reserved. -/
def configureUrlAcl (going : Going (List ℕ)) (state : InstallationState) (ports : List ℕ) :
    List ℕ :=
  if !state.gatewayAdvertised || state.gatewayPort = 0 then ports
  else going.leaves (state.gatewayPort :: ports.filter (· ≠ state.gatewayPort))

inductive Shortcut where
  | shell (targetPath workingDirectory : String)
  | dashboard (url iconFile : String)
deriving DecidableEq

/-- By path. -/
abbrev Shortcuts := OrdMap String Shortcut

def InstallationState.launcher (state : InstallationState) : String :=
  if state.launcherBinary = "" then state.shellBinary else state.launcherBinary

/-- The shortcuts with those of an installation. -/
def withShortcuts (state : InstallationState) (shortcuts : Shortcuts) : Shortcuts :=
  (shortcuts.insert state.shellShortcutPath
    (.shell state.launcher state.installDirectory)).insert state.dashboardShortcutPath
      (.dashboard state.browserUrl state.launcher)

/-- `configureShortcuts`; `none` is an exception. -/
def configureShortcuts (risky : Risky Shortcuts) (state : InstallationState)
    (shortcuts : Shortcuts) : Shortcuts × Option Bool :=
  (risky.leaves (withShortcuts state shortcuts), risky.reports)

/-- `removeShortcuts`, with what it leaves if it does not remove all. -/
def removeShortcuts (host : Host) (left : Option Shortcuts) (state : InstallationState)
    (shortcuts : Shortcuts) : Shortcuts :=
  left.getD (shortcuts.filterMap fun path shortcut =>
    if (state.shellShortcutPath :: state.dashboardShortcutPath :: host.programsShortcuts).contains
      path then none
    else some shortcut)

structure UninstallEntry where
  displayVersion : String
  installLocation : String
  displayIcon : String
  uninstallString : String
deriving DecidableEq

def entryOf (state : InstallationState) : UninstallEntry where
  displayVersion := state.version
  installLocation := state.installDirectory
  displayIcon := state.launcher
  uninstallString :=
    "\"" ++ state.bootstrapperBinary ++ "\" uninstall \"" ++ state.installDirectory ++
      "\" --purge-install-dir"

/-- `registerUninstallEntry`. -/
def registerUninstallEntry (going : Going (Option UninstallEntry)) (state : InstallationState) :
    Option UninstallEntry × Bool :=
  (going.leaves (some (entryOf state)), going.reports)

/-- `unregisterUninstallEntry`. -/
def unregisterUninstallEntry (going : Going (Option UninstallEntry)) :
    Option UninstallEntry × Bool :=
  (going.leaves none, going.reports)

/-! ## The machine -/

structure Machine where
  installDirectory : Option Tree
  /-- The directory of the rollback snapshot of this call. -/
  rollbackSnapshot : Option Tree
  service : Option Service
  firewall : FirewallRules
  shortcuts : Shortcuts
  uninstallEntry : Option UninstallEntry
  configuration : ConfigurationFile
  urlAcl : List ℕ

end Bootstrapper
end MasterControl
