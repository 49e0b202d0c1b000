import MasterControl.Bootstrapper.Machine
import MasterControl.Foundation.StepRuns

/-!
# Installing, repairing and upgrading

`installLike` is a list of steps.  The first one that does not succeed ends it: by an exception,
which nobody catches before `wmain`, or by a result that is reported, after the changes are undone.
A repair or an upgrade of a directory that has something in it has a snapshot to go back to
(`rollback`); everything else is cleaned up (`cleanup`).
-/

namespace MasterControl
namespace Bootstrapper

open Foundation

inductive Mode where
  | install
  | repair
  | upgrade
deriving DecidableEq

def Mode.name : Mode → String
  | install => "install"
  | repair => "repair"
  | upgrade => "upgrade"

/-- How the calls go by which changes are undone. -/
structure Undoing where
  stopping : ServiceCall := .well
  uninstalling : Uninstalling := .well
  removingRules : Option FirewallRules := none
  removingShortcuts : Option Shortcuts := none
  unregistering : Going (Option UninstallEntry) := .well
  removal : Removal := none
  /-- The parent of the install directory is there, or can be made. -/
  parentMade : Bool := true
  restoring : Copying := {}
  installing : Installing := none
  starting : ServiceCall := .well
  firewall : Going FirewallRules := .well
  shortcuts : Risky Shortcuts := .well
  registering : Going (Option UninstallEntry) := .well

/-- How the calls of one run go. -/
structure Course where
  capturing : Copying := {}
  directoryMade : Bool := true
  stopping : ServiceCall := .well
  staging : List Copying := []
  /-- The default configuration cannot be written. -/
  configurationBlocked : Bool := false
  configurationLeft : ConfigurationFile := .absent
  /-- `buildInstallationState` finds the folders that it needs. -/
  foldersFound : Bool := true
  /-- What is in the file of the installation state; `none` is what was in it. -/
  recording : Risky (Option Bytes) := .well
  firewall : Going FirewallRules := .well
  urlAcl : Going (List ℕ) := .well
  shortcuts : Risky Shortcuts := .well
  registration : Going (Option UninstallEntry) := .well
  installing : Installing := none
  starting : ServiceCall := .well
  /-- What `validateInstalledApplication` finds; `none` is an exception. -/
  validation : Option Bool := some true
  undoing : Undoing := {}
  discarding : Removal := none

/-- A call of `installLike` for a payload. -/
structure Call where
  host : Host
  mode : Mode
  options : IntegrationOptions
  course : Course

/-! ## The steps -/

/-- A run under way: the machine and the local variables. -/
structure Progress where
  machine : Machine
  /-- `rollbackDirectory.has_value()`. -/
  rollbackDirectory : Bool := false
  stagedState : InstallationState := {}

/-- Why a step is the last one. -/
inductive Stop where
  | exception
  /-- `false`, with nothing to undo. -/
  | refusal
  /-- `failInstall`. -/
  | failure (message : String)
deriving DecidableEq

inductive Step where
  | capturing
  | creating
  | staging
  | preparing
  | recording
  | testing
  | firewall
  | urlAcl
  | shortcuts
  | registration
  | installing
  | starting
  | validation
deriving DecidableEq

def steps : List Step :=
  [.capturing, .creating, .staging, .preparing, .recording, .testing, .firewall, .urlAcl,
   .shortcuts, .registration, .installing, .starting, .validation]

def succeedOr (succeeded : Bool) (message : String) : Option Stop :=
  if succeeded then none else some (.failure message)

def riskyStop (reported : Option Bool) (message : String) : Option Stop :=
  match reported with
  | some succeeded => succeedOr succeeded message
  | none => some .exception

/-- `captureRollbackSnapshot`; the directory of the snapshot is new. -/
def captureRollbackSnapshot (copying : Copying) (directory : Option Tree) : Except Tree Tree :=
  copyRecursive copying (directory.getD OrdMap.empty) OrdMap.empty

/-- The file of the installation state. -/
def record (tree : Tree) : Option Bytes → Tree
  | none => tree
  | some content => tree.insert kInstallStateFileName (.file content)

namespace Call

variable (call : Call) (layout : PayloadLayout)

/-- A run that takes a snapshot first. -/
def guarded (m : Machine) : Bool :=
  (call.mode = .repair || call.mode = .upgrade) && directoryHasEntries m.installDirectory

def perform (step : Step) (p : Progress) : Progress × Option Stop :=
  let m := p.machine
  match step with
  | .capturing =>
    if call.guarded m then
      match captureRollbackSnapshot call.course.capturing m.installDirectory with
      | .error left =>
        ({ p with machine := { m with rollbackSnapshot := some left }, rollbackDirectory := true },
          some .exception)
      | .ok snapshot =>
        ({ p with
            machine := { m with rollbackSnapshot := some snapshot }, rollbackDirectory := true },
          if directoryHasEntries (some snapshot) then none else some .refusal)
    else (p, none)
  | .creating =>
    if call.course.directoryMade then
      ({ p with
          machine :=
            { m with
              installDirectory := some (m.installDirectory.getD OrdMap.empty)
              service :=
                if call.options.manageService then
                  (stopServiceIfPresent call.course.stopping m.service).1
                else m.service } },
        none)
    else (p, some .exception)
  | .staging =>
    match stagePayload layout call.course.staging (m.installDirectory.getD OrdMap.empty) with
    | .error left =>
      ({ p with machine := { m with installDirectory := some left } }, some .exception)
    | .ok tree => ({ p with machine := { m with installDirectory := some tree } }, none)
  | .preparing =>
    match ensureConfigurationPresent call.host call.course.configurationBlocked
      call.course.configurationLeft m.configuration with
    | none => (p, some .exception)
    | some (configuration, file) =>
      if call.course.foldersFound then
        ({ p with
            machine := { m with configuration := file }
            stagedState := buildInstallationState call.host configuration call.options },
          none)
      else ({ p with machine := { m with configuration := file } }, some .exception)
  | .recording =>
    let content := call.course.recording.leaves (some (call.host.dump p.stagedState))
    ({ p with
        machine :=
          { m with
            installDirectory := some (record (m.installDirectory.getD OrdMap.empty) content) } },
      riskyStop call.course.recording.reports "Failed to write installation state.")
  | .testing =>
    (p, succeedOr (!call.host.failAfterStage)
      "Simulated bootstrapper failure after staging payload and installation state.")
  | .firewall =>
    if call.options.manageFirewall then
      let configured := configureFirewallRules call.course.firewall p.stagedState
      ({ p with machine := { m with firewall := configured.1 } },
        succeedOr configured.2 "Failed to configure firewall rules.")
    else (p, none)
  | .urlAcl =>
    ({ p with
        machine :=
          { m with urlAcl := configureUrlAcl call.course.urlAcl p.stagedState m.urlAcl } },
      none)
  | .shortcuts =>
    if call.options.manageShortcuts then
      let configured := configureShortcuts call.course.shortcuts p.stagedState m.shortcuts
      ({ p with machine := { m with shortcuts := configured.1 } },
        riskyStop configured.2 "Failed to create shortcuts.")
    else (p, none)
  | .registration =>
    if call.options.manageUninstallRegistration then
      let registered := registerUninstallEntry call.course.registration p.stagedState
      ({ p with machine := { m with uninstallEntry := registered.1 } },
        succeedOr registered.2 "Failed to register the uninstall entry.")
    else
      ({ p with
          machine :=
            { m with uninstallEntry := (unregisterUninstallEntry call.course.registration).1 } },
        none)
  | .installing =>
    if call.options.manageService then
      let installed := installOrUpdateService call.course.installing
        (pathBelow call.host.installDirectory "MasterControlServiceHost.exe") m.service
      ({ p with machine := { m with service := installed.1 } },
        succeedOr installed.2 "Failed to install Windows service.")
    else (p, none)
  | .starting =>
    if call.options.manageService then
      let started := startServiceIfPresent call.course.starting m.service
      ({ p with machine := { m with service := started.1 } },
        succeedOr started.2 "Failed to start Windows service.")
    else (p, none)
  | .validation =>
    (p, riskyStop call.course.validation ("Post-" ++ call.mode.name ++ " validation failed."))

end Call

/-! ## Undoing -/

/-- `restoreRollbackSnapshot`, with what is in the directory afterwards. -/
def restoreRollbackSnapshot (u : Undoing) (snapshot directory : Option Tree) :
    Except (Option Tree) (Option Tree × Bool) :=
  if !directoryHasEntries snapshot then .ok (directory, false)
  else if !u.parentMade then .error u.removal
  else
    match copyRecursive u.restoring (snapshot.getD OrdMap.empty)
      (u.removal.getD OrdMap.empty) with
    | .error left => .error (some left)
    | .ok tree => .ok (some tree, directoryHasEntries (some tree))

section Restoring

variable (host : Host) (options : IntegrationOptions) (u : Undoing) (state : InstallationState)

/-- The service as the restored state has it. -/
def restoreService (service : Option Service) : Option Service × Bool :=
  if options.manageService || state.serviceManaged then
    if state.serviceManaged then
      let installed := installOrUpdateService u.installing
        (pathBelow host.installDirectory "MasterControlServiceHost.exe") service
      if installed.2 then startServiceIfPresent u.starting installed.1 else (installed.1, false)
    else uninstallService u.uninstalling service
  else (service, true)

def restoreFirewall (rules : FirewallRules) : FirewallRules × Bool :=
  if options.manageFirewall || state.firewallManaged then
    if state.firewallManaged then configureFirewallRules u.firewall state
    else (removeFirewallRules u.removingRules, true)
  else (rules, true)

/-- `none` is an exception. -/
def restoreShortcuts (shortcuts : Shortcuts) : Shortcuts × Option Bool :=
  if options.manageShortcuts || state.shortcutsManaged then
    let removed := removeShortcuts host u.removingShortcuts state shortcuts
    if state.shortcutsManaged then configureShortcuts u.shortcuts state removed
    else (removed, some true)
  else (shortcuts, some true)

def restoreEntry (entry : Option UninstallEntry) : Option UninstallEntry × Bool :=
  if options.manageUninstallRegistration || state.uninstallRegistrationManaged then
    if state.uninstallRegistrationManaged then registerUninstallEntry u.registering state
    else unregisterUninstallEntry u.unregistering
  else (entry, true)

end Restoring

/-- `rollbackOrCleanup` with a snapshot; `none` is an exception. -/
def rollback (host : Host) (options : IntegrationOptions) (u : Undoing) (m : Machine) :
    Machine × Option Bool :=
  let stopped :=
    if options.manageService then stopServiceIfPresent u.stopping m.service else (m.service, true)
  match restoreRollbackSnapshot u m.rollbackSnapshot m.installDirectory with
  | .error directory => ({ m with service := stopped.1, installDirectory := directory }, none)
  | .ok (directory, copied) =>
    let m := { m with service := stopped.1, installDirectory := directory }
    match readInstallationState host directory with
    | .absent => (m, some false)
    | .unreadable => (m, none)
    | .read state =>
      let service := restoreService host options u state m.service
      let firewall := restoreFirewall options u state m.firewall
      let shortcuts := restoreShortcuts host options u state m.shortcuts
      let entry := restoreEntry options u state m.uninstallEntry
      let m :=
        { m with service := service.1, firewall := firewall.1, shortcuts := shortcuts.1 }
      match shortcuts.2 with
      | none => (m, none)
      | some made =>
        ({ m with uninstallEntry := entry.1 },
          some (stopped.2 && copied && service.2 && firewall.2 && made && entry.2))

/-- `rollbackOrCleanup` without a snapshot. -/
def cleanup (host : Host) (options : IntegrationOptions) (u : Undoing)
    (stagedState : InstallationState) (m : Machine) : Machine × Bool :=
  let service :=
    if options.manageService then uninstallService u.uninstalling m.service else (m.service, true)
  let entry :=
    if options.manageUninstallRegistration then unregisterUninstallEntry u.unregistering
    else (m.uninstallEntry, true)
  ({ m with
      service := service.1
      firewall :=
        if options.manageFirewall then removeFirewallRules u.removingRules else m.firewall
      shortcuts :=
        if options.manageShortcuts || stagedState.shortcutsManaged then
          removeShortcuts host u.removingShortcuts stagedState m.shortcuts
        else m.shortcuts
      uninstallEntry := entry.1
      installDirectory := u.removal },
    service.2 && entry.2)

/-! ## The call -/

/-- What is reported of a failure. -/
structure Report where
  error : String
  rollbackAttempted : Bool
  rollbackRestored : Bool

/-- How a call of `installLike` ends. -/
inductive Outcome where
  | succeeded
  | refused
  | failed (report : Report)
  /-- `wmain` reports the text of the exception. -/
  | threw

/-- What `failInstall` reports on the console needs the installation state. -/
def reported (host : Host) (options : IntegrationOptions) (m : Machine) (report : Report) :
    Outcome :=
  match readInstallationState host m.installDirectory with
  | .unreadable => if options.jsonOutput then .threw else .failed report
  | .absent | .read _ => .failed report

namespace Call

variable (call : Call)

def failInstall (p : Progress) (message : String) : Machine × Outcome :=
  let u := call.course.undoing
  if p.rollbackDirectory then
    match rollback call.host call.options u p.machine with
    | (m, none) => (m, .threw)
    | (m, some restored) =>
      match reported call.host call.options m ⟨message, true, restored⟩ with
      | .failed report =>
        (if restored then { m with rollbackSnapshot := call.course.discarding } else m,
          .failed report)
      | outcome => (m, outcome)
  else
    let (m, cleaned) := cleanup call.host call.options u p.stagedState p.machine
    (m, reported call.host call.options m ⟨message, false, cleaned⟩)

def installLike (m : Machine) : Machine × Outcome :=
  match call.host.payload with
  | none => (m, .threw)
  | some layout =>
    match runSteps (call.perform layout) steps { machine := m } with
    | (p, none) =>
      (if p.rollbackDirectory then { p.machine with rollbackSnapshot := call.course.discarding }
        else p.machine, .succeeded)
    | (p, some (_, .exception)) => (p.machine, .threw)
    | (p, some (_, .refusal)) => (p.machine, .refused)
    | (p, some (_, .failure message)) => call.failInstall p message

end Call

end Bootstrapper
end MasterControl
