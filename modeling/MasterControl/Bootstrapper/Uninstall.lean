import MasterControl.Bootstrapper.InstallLike

/-!
# Uninstalling

`uninstallApplication` reads the configuration and the installation state, and then removes what an
installation has left on the machine, step after step.  Of most steps nobody looks at how they go;
an exception in one of them ends the call.

What is reported at the end is success.  This is true exactly when nothing that was to be removed is
left, and the steps are all attempted exactly when nothing throws and the removal of the directory
can be scheduled, where that is needed (`completesTruthfully_iff`).
-/

namespace MasterControl
namespace Bootstrapper

open Foundation

structure UninstallOptions extends IntegrationOptions where
  purgeInstallDirectory : Bool := false
  purgeData : Bool := false

/-- The computer, as the call finds it. -/
structure UninstallHost extends Host where
  configuredServiceName : String
  /-- The data directory of a new installation state, and of one that is read. -/
  dataDirectory : String
  recordedDataDirectory : Bytes → String

def kServiceName : String := "MasterControlProgram"

def kShareLeaves : List String := ["MasterControlOrchestrationServer", "MasterControlProgram"]

/-- The machine, with the directories outside the installation. -/
structure Site extends Machine where
  /-- The users with a junction in their plugins. -/
  pluginJunctions : List String
  runtimeData : Option Tree
  /-- By path; among them the one of the installation state. -/
  dataDirectories : OrdMap String Tree
  publicLogs : Option Tree

/-- Whether a directory holds an installation. -/
def directoryContainsInstallPayload (directory : Tree) : Bool :=
  let present (path : String) : Bool := (directory.find? path).isSome
  ["MasterControlBootstrapper.exe", "MasterControlOrchestrationServer.exe",
    "MasterControlServiceHost.exe", "MasterControlShell.exe", kInstallStateFileName].any present ||
  kShareLeaves.any fun leaf =>
    present ("share/" ++ leaf ++ "/ForsettiManifests") || present ("share/" ++ leaf ++ "/web")

def installStatePresent (directory : Option Tree) : Bool :=
  directory.any fun tree => (tree.find? kInstallStateFileName).isSome

/-- How the calls of one run go. -/
structure UninstallCourse where
  /-- The default configuration cannot be written. -/
  configurationBlocked : Bool := false
  configurationLeft : ConfigurationFile := .absent
  /-- `buildInstallationState` finds the folders that it needs. -/
  foldersFound : Bool := true
  uninstalling : Uninstalling := .well
  /-- `sc.exe delete` of the service with the fixed name. -/
  deleting : Bool := true
  removingRules : Option FirewallRules := none
  urlAcl : Going (List ℕ) := .well
  removingShortcuts : Option Shortcuts := none
  junctions : Risky (List String) := .well
  unregistering : Going (Option UninstallEntry) := .well
  stateFileRemoved : Bool := true
  runtimeData : Going (ConfigurationFile × Option Tree) := .well
  dataDirectory : Removal := none
  /-- `pathIsWithin(executablePath(), installDirectory)`. -/
  executableInside : Bool := false
  /-- `scheduleDeferredInstallRemoval`; `none` is an exception. -/
  scheduling : Option Bool := some true
  installDirectory : Removal := none
  publicLogs : Removal := none

structure UninstallCall where
  host : UninstallHost
  options : UninstallOptions
  course : UninstallCourse

/-! ## The steps -/

inductive RemovalStep where
  | service
  | firewall
  | urlAcl
  | shortcuts
  | pluginJunctions
  | uninstallEntry
  | stateFile
  | runtimeData
  | dataDirectory
  | installDirectory
  | publicLogs
deriving DecidableEq

/-- In the order of the source. -/
def allRemovals : List RemovalStep :=
  [.service, .firewall, .urlAcl, .shortcuts, .pluginJunctions, .uninstallEntry, .stateFile,
   .runtimeData, .dataDirectory, .installDirectory, .publicLogs]

/-- What the options ask for. -/
def UninstallOptions.asksFor (options : UninstallOptions) : RemovalStep → Bool
  | .service => options.manageService
  | .firewall => options.manageFirewall
  | .shortcuts => options.manageShortcuts
  | .uninstallEntry => options.manageUninstallRegistration
  | .dataDirectory => options.purgeData
  | .installDirectory => options.purgeInstallDirectory
  | .urlAcl | .pluginJunctions | .stateFile | .runtimeData | .publicLogs => true

/-- The entry is removed whatever the options say. -/
def UninstallOptions.performs (options : UninstallOptions) (step : RemovalStep) : Bool :=
  step = .uninstallEntry || options.asksFor step

def UninstallOptions.removals (options : UninstallOptions) : List RemovalStep :=
  allRemovals.filter options.performs

/-- A run under way. -/
structure Removing where
  site : Site
  attempted : List RemovalStep := []

/-- The installation state, with the data directory. -/
structure UninstallState where
  state : InstallationState
  dataDirectory : String

/-- `removeUrlAcl`. -/
def removeUrlAcl (going : Going (List ℕ)) (state : InstallationState) (ports : List ℕ) : List ℕ :=
  if state.gatewayPort = 0 then ports else going.leaves (ports.filter (· ≠ state.gatewayPort))

namespace UninstallCall

variable (call : UninstallCall)

/-- The service; if it cannot be uninstalled, `sc.exe` deletes the one with the fixed name. -/
def removeService (service : Option Service) : Option Service :=
  let uninstalled := uninstallService call.course.uninstalling service
  if !uninstalled.2 && call.course.deleting && call.host.configuredServiceName = kServiceName then
    none
  else uninstalled.1

def removeStateFile (directory : Option Tree) : Option Tree :=
  if call.course.stateFileRemoved then directory.map (OrdMap.erase · kInstallStateFileName)
  else directory

/-- A scheduled removal leaves the directory for now. -/
def purgeDirectory (directory : Option Tree) : Option Tree :=
  if call.course.executableInside then directory else call.course.installDirectory

/-- What a step makes of the machine. -/
def remove (state : UninstallState) (site : Site) : RemovalStep → Site
  | .service => { site with service := call.removeService site.service }
  | .firewall =>
    { site with firewall := Bootstrapper.removeFirewallRules call.course.removingRules }
  | .urlAcl =>
    { site with urlAcl := Bootstrapper.removeUrlAcl call.course.urlAcl state.state site.urlAcl }
  | .shortcuts =>
    { site with
      shortcuts := Bootstrapper.removeShortcuts call.host.toHost call.course.removingShortcuts
        state.state site.shortcuts }
  | .pluginJunctions => { site with pluginJunctions := call.course.junctions.leaves [] }
  | .uninstallEntry =>
    { site with uninstallEntry := (unregisterUninstallEntry call.course.unregistering).1 }
  | .stateFile => { site with installDirectory := call.removeStateFile site.installDirectory }
  | .runtimeData =>
    let left := call.course.runtimeData.leaves (.absent, none)
    { site with configuration := left.1, runtimeData := left.2 }
  | .dataDirectory =>
    { site with
      dataDirectories :=
        match call.course.dataDirectory with
        | none => site.dataDirectories.erase state.dataDirectory
        | some left => site.dataDirectories.insert state.dataDirectory left }
  | .installDirectory => { site with installDirectory := call.purgeDirectory site.installDirectory }
  | .publicLogs => { site with publicLogs := call.course.publicLogs }

/-- Why a step is the last one. -/
def stopOf : RemovalStep → Option Stop
  | .pluginJunctions =>
    match call.course.junctions with
    | .throws _ => some .exception
    | .well | .badly _ _ => none
  | .installDirectory =>
    if call.course.executableInside then
      match call.course.scheduling with
      | none => some .exception
      | some true => none
      | some false => some <| .failure
        "Failed to schedule deferred removal of the installation directory."
    else none
  | _ => none

def perform (state : UninstallState) (step : RemovalStep) (p : Removing) :
    Removing × Option Stop :=
  ({ site := call.remove state p.site step, attempted := p.attempted ++ [step] }, call.stopOf step)

end UninstallCall

/-! ## The call -/

structure UninstallReport where
  succeeded : Bool
  error : Option String
  purgeInstallDirectory : Bool
  purgeData : Bool
  /-- The directories, and the installation state; not of a failure. -/
  present : Option (Bool × Bool × Bool)
  serviceRegistered : Bool
  serviceRunning : Bool
  uninstallRegistered : Bool
  shellShortcutPresent : Bool
  dashboardShortcutPresent : Bool
  browserFirewallRulePresent : Bool
  beaconFirewallRulePresent : Bool
  gatewayFirewallRulePresent : Bool
  mDnsFirewallRulePresent : Bool

/-- What a call leaves; without a report, `wmain` reports the text of the exception as a
failure. -/
structure UninstallRun where
  site : Site
  attempted : List RemovalStep := []
  report : Option UninstallReport := none

def UninstallRun.succeeded (run : UninstallRun) : Bool := run.report.any UninstallReport.succeeded

namespace UninstallCall

variable (call : UninstallCall)

def reportOf (state : UninstallState) (site : Site) (error : Option String) : UninstallReport :=
  let rulePresent (name : String) : Bool :=
    (site.firewall.find? ("Master Control Orchestration Server - " ++ name)).isSome
  { succeeded := error.isNone
    error
    purgeInstallDirectory := call.options.purgeInstallDirectory
    purgeData := call.options.purgeData
    present :=
      if error.isNone then
        some (site.installDirectory.isSome, (site.dataDirectories.find? state.dataDirectory).isSome,
          installStatePresent site.installDirectory)
      else none
    serviceRegistered := site.service.isSome
    serviceRunning := site.service.any Service.running
    uninstallRegistered := site.uninstallEntry.isSome
    shellShortcutPresent := (site.shortcuts.find? state.state.shellShortcutPath).isSome
    dashboardShortcutPresent := (site.shortcuts.find? state.state.dashboardShortcutPath).isSome
    browserFirewallRulePresent := rulePresent "Browser Access"
    beaconFirewallRulePresent := rulePresent "Beacon Discovery"
    gatewayFirewallRulePresent := rulePresent "MCP Gateway"
    mDnsFirewallRulePresent := rulePresent "DNS-SD mDNS Advertising" }

/-- The steps and the report; the public logs are removed behind it. -/
def removeAll (state : UninstallState) (site : Site) : UninstallRun :=
  match runSteps (call.perform state) call.options.removals { site } with
  | (p, none) => ⟨p.site, p.attempted, some (call.reportOf state p.site none)⟩
  | (p, some (_, .failure message)) =>
    ⟨p.site, p.attempted, some (call.reportOf state p.site (some message))⟩
  | (p, some _) => { site := p.site, attempted := p.attempted }

/-- The installation state; `none` is an exception. -/
def stateOf (configuration : AppConfiguration) (directory : Option Tree) : Option UninstallState :=
  match readInstallationState call.host.toHost directory with
  | .unreadable => none
  | .read state =>
    match directory.bind (OrdMap.find? · kInstallStateFileName) with
    | some (.file content) => some ⟨state, call.host.recordedDataDirectory content⟩
    | _ => some ⟨state, ""⟩
  | .absent =>
    if call.course.foldersFound then
      some ⟨buildInstallationState call.host.toHost configuration call.options.toIntegrationOptions,
        call.host.dataDirectory⟩
    else none

def uninstallApplication (site : Site) : UninstallRun :=
  match ensureConfigurationPresent call.host.toHost call.course.configurationBlocked
    call.course.configurationLeft site.configuration with
  | none => { site }
  | some (configuration, file) =>
    let site := { site with configuration := file }
    match call.stateOf configuration site.installDirectory with
    | none => { site }
    | some state => call.removeAll state site

end UninstallCall

/-! ## What a run is for -/

/-- Nothing is left that was to be removed. -/
structure NothingLeft (options : UninstallOptions) (site : Site) : Prop where
  service : options.manageService = true → site.service = none
  firewall : options.manageFirewall = true → site.firewall.entries = []
  uninstallEntry : options.manageUninstallRegistration = true → site.uninstallEntry = none
  stateFile : installStatePresent site.installDirectory = false

/-- **Every removal that the options ask for is attempted, success is reported only if nothing is
left, and a directory is purged only if it holds an installation.** -/
structure CompletesTruthfully (call : UninstallCall) (site : Site) : Prop where
  attempts : ∀ step, call.options.asksFor step = true →
    step ∈ (call.uninstallApplication site).attempted
  truthful : (call.uninstallApplication site).succeeded = true →
    NothingLeft call.options (call.uninstallApplication site).site
  confined : .installDirectory ∈ (call.uninstallApplication site).attempted →
    site.installDirectory.all directoryContainsInstallPayload = true

/-- The configuration and the installation state can be read, or are absent and can be made. -/
structure UninstallCall.Readable (call : UninstallCall) (site : Site) : Prop where
  configuration : (ensureConfigurationPresent call.host.toHost call.course.configurationBlocked
    call.course.configurationLeft site.configuration).isSome = true
  state : readInstallationState call.host.toHost site.installDirectory ≠ .unreadable
  folders : readInstallationState call.host.toHost site.installDirectory = .absent →
    call.course.foldersFound = true

/-- Neither the junctions throw, nor does the removal of the directory stop the run. -/
def UninstallCall.GoesOn (call : UninstallCall) : Prop :=
  (∀ left, call.course.junctions ≠ .throws left) ∧
    (call.options.purgeInstallDirectory = true → call.course.executableInside = true →
      call.course.scheduling = some true)

/-- The service is uninstalled, or `sc.exe` deletes it. -/
def UninstallCall.serviceGoes (call : UninstallCall) : Bool :=
  match call.course.uninstalling with
  | .well => true
  | .badly _ reported =>
    !reported && call.course.deleting && call.host.configuredServiceName = kServiceName

/-- The calls remove what they are to remove. -/
structure UninstallCall.Removes (call : UninstallCall) (site : Site) : Prop where
  service : call.options.manageService = true → site.service = none ∨ call.serviceGoes = true
  firewall : call.options.manageFirewall = true →
    (removeFirewallRules call.course.removingRules).entries = []
  uninstallEntry : call.options.manageUninstallRegistration = true →
    call.course.unregistering.leaves none = none
  stateFile :
    if call.options.purgeInstallDirectory = true ∧ call.course.executableInside = false then
      installStatePresent call.course.installDirectory = false
    else call.course.stateFileRemoved = true ∨ installStatePresent site.installDirectory = false

/-! ## What a run leaves -/

namespace UninstallCall

variable {call : UninstallCall} {site : Site} {state : UninstallState} {step : RemovalStep}
  {steps : List RemovalStep}

theorem isSome_stateOf_iff {configuration : AppConfiguration} {directory : Option Tree} :
    (call.stateOf configuration directory).isSome = true ↔
      readInstallationState call.host.toHost directory ≠ .unreadable ∧
        (readInstallationState call.host.toHost directory = .absent →
          call.course.foldersFound = true) := by
  unfold stateOf
  cases hread : readInstallationState call.host.toHost directory with
  | absent =>
    dsimp only
    split_ifs with hfolders
    · exact iff_of_true rfl ⟨nofun, fun _ => hfolders⟩
    · exact iff_of_false Bool.false_ne_true fun h => hfolders (h.2 rfl)
  | unreadable => exact iff_of_false Bool.false_ne_true fun h => h.1 rfl
  | read state =>
    refine iff_of_true ?_ ⟨nofun, nofun⟩
    dsimp only
    split <;> rfl

theorem mem_removals_iff : step ∈ call.options.removals ↔ call.options.performs step = true := by
  rw [UninstallOptions.removals, List.mem_filter]
  refine and_iff_right ?_
  cases step <;> decide

theorem nodup_removals (options : UninstallOptions) : options.removals.Nodup :=
  List.Nodup.filter _ (by decide)

theorem performs_of_asksFor {options : UninstallOptions} (h : options.asksFor step = true) :
    options.performs step = true := by
  rw [UninstallOptions.performs, h, Bool.or_true]

/-- The step as it is folded. -/
def act (call : UninstallCall) (state : UninstallState) (p : Removing) (step : RemovalStep) :
    Removing :=
  { site := call.remove state p.site step, attempted := p.attempted ++ [step] }

theorem attempted_foldl (p : Removing) :
    (steps.foldl (call.act state) p).attempted = p.attempted ++ steps := by
  induction steps generalizing p with
  | nil => exact (List.append_nil _).symm
  | cons step steps ih =>
    rw [List.foldl_cons, ih, act, List.append_assoc]
    rfl

/-- Where nothing stops, all steps are performed. -/
theorem goesOn_iff : call.GoesOn ↔ ∀ step ∈ call.options.removals, call.stopOf step = none := by
  constructor
  · rintro ⟨hjunctions, hscheduling⟩ step hstep
    rw [mem_removals_iff] at hstep
    cases step with
    | pluginJunctions =>
      unfold stopOf
      cases hcourse : call.course.junctions with
      | well => rfl
      | badly left reported => rfl
      | throws left => exact absurd hcourse (hjunctions left)
    | installDirectory =>
      unfold stopOf
      dsimp only
      split_ifs with hinside
      · rw [hscheduling hstep hinside]
      · rfl
    | _ => rfl
  · intro h
    constructor
    · intro left hcourse
      have hstop := h .pluginJunctions (mem_removals_iff.mpr rfl)
      rw [stopOf, hcourse] at hstop
      cases hstop
    · intro hpurge hinside
      have hstop := h .installDirectory (mem_removals_iff.mpr hpurge)
      rw [stopOf, if_pos hinside] at hstop
      split at hstop
      · cases hstop
      · assumption
      · cases hstop

theorem removeAll_of_goesOn (h : call.GoesOn) : call.removeAll state site =
    { site := (call.options.removals.foldl (call.act state) { site }).site
      attempted := call.options.removals
      report := some (call.reportOf state
        (call.options.removals.foldl (call.act state) { site }).site none) } := by
  have hrun : runSteps (call.perform state) call.options.removals { site } =
      (call.options.removals.foldl (call.act state) { site }, none) :=
    runSteps_of_none (fun step hstep _ => goesOn_iff.mp h step hstep) _
  rw [removeAll, hrun]
  dsimp only
  rw [attempted_foldl]
  rfl

/-- The public logs come last, and do not stop a run. -/
theorem not_attempted_of_stop {before behind : List RemovalStep}
    (hsteps : call.options.removals = before ++ step :: behind) (hstop : step ≠ .publicLogs) :
    .publicLogs ∉ before ++ [step] := by
  have hlast : call.options.removals =
      (allRemovals.dropLast.filter call.options.performs) ++ [.publicLogs] := by
    have hall : allRemovals = allRemovals.dropLast ++ [.publicLogs] := rfl
    have hfilter := congrArg (List.filter call.options.performs) hall
    rwa [List.filter_append] at hfilter
  have hnodup := nodup_removals call.options
  rcases List.eq_nil_or_concat behind with rfl | ⟨front, last, rfl⟩
  · rw [hsteps] at hlast
    exact absurd (List.cons.inj (List.append_inj_right' hlast rfl)).1 hstop
  · rw [hsteps, List.concat_eq_append] at hlast hnodup
    have hends : before ++ step :: (front ++ [last]) = before ++ step :: front ++ [last] := by simp
    rw [hends] at hlast hnodup
    obtain rfl : last = .publicLogs :=
      (List.cons.inj (List.append_inj_right' hlast rfl)).1
    intro hmem
    refine (List.nodup_append.mp hnodup).2.2 .publicLogs ?_ .publicLogs (List.mem_singleton_self _)
      rfl
    rcases List.mem_append.mp hmem with hmem | hmem
    · exact List.mem_append_left _ hmem
    · rw [List.mem_singleton.mp hmem]
      exact List.mem_append_right _ List.mem_cons_self

/-- A run that stops does not remove the public logs. -/
theorem not_attempted_of_not_goesOn (h : ¬ call.GoesOn) :
    .publicLogs ∉ (call.removeAll state site).attempted := by
  rw [goesOn_iff, not_forall] at h
  obtain ⟨step, h⟩ := h
  rw [Classical.not_imp] at h
  obtain ⟨stop, hstop⟩ := Option.ne_none_iff_exists'.mp h.2
  have hstops : ∀ p : Removing, (call.perform state step p).2 = some stop := fun _ => hstop
  obtain ⟨p, step', stop', hrun⟩ := stops_of_mem h.1 hstops { site }
  obtain ⟨before, behind, hsteps, rfl⟩ := split_of_stop hrun
  have hstopped : call.stopOf step' = some stop' :=
    stop_of_runSteps (fun _ _ => rfl) hrun
  have hother : step' ≠ .publicLogs := by
    rintro rfl
    cases hstopped
  have hnot : .publicLogs ∉ ((before ++ [step']).foldl (call.act state) { site }).attempted := by
    rw [attempted_foldl]
    exact not_attempted_of_stop hsteps hother
  rw [removeAll, hrun]
  cases stop' with
  | exception => exact hnot
  | refusal => exact hnot
  | failure message => exact hnot

/-- The machine behind all steps. -/
def cleared (call : UninstallCall) (state : UninstallState) (site : Site) : Site :=
  (call.options.removals.foldl (call.act state) { site }).site

theorem service_cleared (h : call.options.manageService = true) :
    (call.cleared state site).service = call.removeService site.service := by
  have hmem : .service ∈ call.options.removals := mem_removals_iff.mpr (performs_of_asksFor h)
  refine foldl_touched (f := fun p : Removing => p.site.service) (nodup_removals _) hmem
    (fun _ => rfl) ?_ _
  intro step _ hstep p
  cases step <;> first | rfl | exact absurd rfl hstep

theorem firewall_cleared (h : call.options.manageFirewall = true) :
    (call.cleared state site).firewall = removeFirewallRules call.course.removingRules := by
  have hmem : .firewall ∈ call.options.removals := mem_removals_iff.mpr (performs_of_asksFor h)
  refine foldl_touched (f := fun p : Removing => p.site.firewall)
    (g := fun _ => removeFirewallRules call.course.removingRules) (nodup_removals _) hmem
    (fun _ => rfl) ?_ _
  intro step _ hstep p
  cases step <;> first | rfl | exact absurd rfl hstep

theorem uninstallEntry_cleared :
    (call.cleared state site).uninstallEntry = call.course.unregistering.leaves none := by
  have hmem : .uninstallEntry ∈ call.options.removals := mem_removals_iff.mpr rfl
  refine foldl_touched (f := fun p : Removing => p.site.uninstallEntry)
    (g := fun _ => call.course.unregistering.leaves none) (nodup_removals _) hmem
    (fun _ => rfl) ?_ _
  intro step _ hstep p
  cases step <;> first | rfl | exact absurd rfl hstep

/-- The removals up to the state file. -/
def firstRemovals (options : UninstallOptions) : List RemovalStep :=
  (allRemovals.take 7).filter options.performs

/-- The removals behind the state file. -/
def lastRemovals (options : UninstallOptions) : List RemovalStep :=
  (allRemovals.drop 7).filter options.performs

theorem removals_eq (options : UninstallOptions) :
    options.removals = firstRemovals options ++ lastRemovals options := by
  rw [firstRemovals, lastRemovals, ← List.filter_append]
  rfl

theorem nodup_firstRemovals (options : UninstallOptions) : (firstRemovals options).Nodup :=
  List.Nodup.filter _ (by decide)

theorem nodup_lastRemovals (options : UninstallOptions) : (lastRemovals options).Nodup :=
  List.Nodup.filter _ (by decide)

theorem installDirectory_firstRemovals (p : Removing) :
    ((firstRemovals call.options).foldl (call.act state) p).site.installDirectory =
      call.removeStateFile p.site.installDirectory := by
  have hmem : .stateFile ∈ firstRemovals call.options := List.mem_filter.mpr ⟨by decide, rfl⟩
  refine foldl_touched (f := fun p : Removing => p.site.installDirectory)
    (nodup_firstRemovals _) hmem (fun _ => rfl) ?_ p
  intro step hstep hother p
  have hfirst := (List.mem_filter.mp hstep).1
  cases step <;> first | rfl | exact absurd rfl hother | exact absurd hfirst (by decide)

theorem installDirectory_lastRemovals (p : Removing) :
    ((lastRemovals call.options).foldl (call.act state) p).site.installDirectory =
      if call.options.purgeInstallDirectory = true then
        call.purgeDirectory p.site.installDirectory
      else p.site.installDirectory := by
  split_ifs with hpurge
  · have hmem : .installDirectory ∈ lastRemovals call.options :=
      List.mem_filter.mpr ⟨by decide, performs_of_asksFor hpurge⟩
    refine foldl_touched (f := fun p : Removing => p.site.installDirectory)
      (nodup_lastRemovals _) hmem (fun _ => rfl) ?_ p
    intro step hstep hother p
    have hlast := (List.mem_filter.mp hstep).1
    cases step <;> first | rfl | exact absurd rfl hother | exact absurd hlast (by decide)
  · refine foldl_untouched (f := fun p : Removing => p.site.installDirectory) ?_ p
    intro step hstep p
    obtain ⟨hlast, hperforms⟩ := List.mem_filter.mp hstep
    cases step <;> first | rfl | exact absurd hlast (by decide) | exact absurd hperforms hpurge

/-- The install directory loses its state file first. -/
theorem installDirectory_cleared : (call.cleared state site).installDirectory =
    if call.options.purgeInstallDirectory = true then
      call.purgeDirectory (call.removeStateFile site.installDirectory)
    else call.removeStateFile site.installDirectory := by
  rw [cleared, removals_eq, List.foldl_append, installDirectory_lastRemovals,
    installDirectory_firstRemovals]

theorem removeService_eq_none_iff {service : Option Service} :
    call.removeService service = none ↔ service = none ∨ call.serviceGoes = true := by
  unfold removeService serviceGoes uninstallService
  cases call.course.uninstalling with
  | well => simp
  | badly running reported =>
    cases reported
    · cases service <;> simp
    · cases service <;> simp

theorem installStatePresent_removeStateFile {directory : Option Tree} :
    installStatePresent (call.removeStateFile directory) = false ↔
      call.course.stateFileRemoved = true ∨ installStatePresent directory = false := by
  unfold removeStateFile
  split_ifs with hremoved
  · refine iff_of_true ?_ (Or.inl hremoved)
    cases directory with
    | none => rfl
    | some tree =>
      rw [installStatePresent, Option.map_some, Option.any_some, OrdMap.find?_erase_self]
      rfl
  · rw [or_iff_right hremoved]

/-- What is left of the state file. -/
theorem installStatePresent_cleared :
    installStatePresent (call.cleared state site).installDirectory = false ↔
      if call.options.purgeInstallDirectory = true ∧ call.course.executableInside = false then
        installStatePresent call.course.installDirectory = false
      else call.course.stateFileRemoved = true ∨
        installStatePresent site.installDirectory = false := by
  rw [installDirectory_cleared]
  by_cases hpurge : call.options.purgeInstallDirectory = true
  · rw [if_pos hpurge, purgeDirectory]
    by_cases hinside : call.course.executableInside = true
    · rw [if_pos hinside, if_neg (by rw [hinside]; simp), installStatePresent_removeStateFile]
    · rw [if_neg hinside, if_pos ⟨hpurge, Bool.not_eq_true _ ▸ hinside⟩]
  · rw [if_neg hpurge, if_neg fun h => hpurge h.1, installStatePresent_removeStateFile]

/-- **Nothing is left exactly when the calls remove what they are to remove.** -/
theorem nothingLeft_cleared :
    NothingLeft call.options (call.cleared state site) ↔ call.Removes site := by
  constructor
  · intro h
    refine ⟨fun hmanage => ?_, fun hmanage => ?_, fun hmanage => ?_, ?_⟩
    · have hservice : (call.cleared state site).service = _ := service_cleared hmanage
      rw [← removeService_eq_none_iff, ← hservice]
      exact h.service hmanage
    · have hfirewall : (call.cleared state site).firewall = _ := firewall_cleared hmanage
      rw [← hfirewall]
      exact h.firewall hmanage
    · have hentry : (call.cleared state site).uninstallEntry = _ := uninstallEntry_cleared
      rw [← hentry]
      exact h.uninstallEntry hmanage
    · exact installStatePresent_cleared.mp h.stateFile
  · intro h
    refine ⟨fun hmanage => ?_, fun hmanage => ?_, fun hmanage => ?_, ?_⟩
    · rw [service_cleared hmanage, removeService_eq_none_iff]
      exact h.service hmanage
    · rw [firewall_cleared hmanage]
      exact h.firewall hmanage
    · rw [uninstallEntry_cleared]
      exact h.uninstallEntry hmanage
    · exact installStatePresent_cleared.mpr h.stateFile

theorem removes_configuration {file : ConfigurationFile} :
    call.Removes { site with configuration := file } ↔ call.Removes site :=
  ⟨fun h => ⟨h.service, h.firewall, h.uninstallEntry, h.stateFile⟩,
    fun h => ⟨h.service, h.firewall, h.uninstallEntry, h.stateFile⟩⟩

/-- What is read decides whether anything is attempted. -/
theorem run_of_readable (h : call.Readable site) : ∃ state file,
    call.uninstallApplication site = call.removeAll state { site with configuration := file } := by
  obtain ⟨⟨configuration, file⟩, hconfiguration⟩ := Option.isSome_iff_exists.mp h.configuration
  have hstate : (call.stateOf configuration site.installDirectory).isSome = true :=
    isSome_stateOf_iff.mpr ⟨h.state, h.folders⟩
  obtain ⟨state, hstate⟩ := Option.isSome_iff_exists.mp hstate
  refine ⟨state, file, ?_⟩
  rw [uninstallApplication, hconfiguration]
  dsimp only
  rw [hstate]

theorem attempted_of_not_readable (h : ¬ call.Readable site) :
    (call.uninstallApplication site).attempted = [] := by
  unfold uninstallApplication
  split
  · rfl
  · rename_i configuration file hconfiguration
    dsimp only
    split
    · rfl
    · rename_i state hstate
      have hread := isSome_stateOf_iff.mp (Option.isSome_iff_exists.mpr ⟨state, hstate⟩)
      refine absurd ⟨?_, hread.1, hread.2⟩ h
      rw [hconfiguration]
      rfl

end UninstallCall

/-- **An uninstallation is complete and truthful exactly when** the configuration and the
installation state can be read or are absent, nothing throws, a needed removal can be scheduled, the
calls remove what they are to remove, and a directory that is purged holds an installation. -/
theorem completesTruthfully_iff (call : UninstallCall) (site : Site) :
    CompletesTruthfully call site ↔ call.Readable site ∧ call.GoesOn ∧ call.Removes site ∧
      (call.options.purgeInstallDirectory = true →
        site.installDirectory.all directoryContainsInstallPayload = true) := by
  constructor
  · intro h
    have hlast := h.attempts .publicLogs rfl
    have hreadable : call.Readable site := by
      by_contra hreadable
      rw [UninstallCall.attempted_of_not_readable hreadable] at hlast
      cases hlast
    obtain ⟨state, file, hrun⟩ := UninstallCall.run_of_readable hreadable
    have hgoes : call.GoesOn := by
      by_contra hgoes
      rw [hrun] at hlast
      exact UninstallCall.not_attempted_of_not_goesOn hgoes hlast
    rw [UninstallCall.removeAll_of_goesOn hgoes] at hrun
    refine ⟨hreadable, hgoes, ?_, fun hpurge => ?_⟩
    · have hleft := h.truthful (by rw [hrun]; rfl)
      rw [hrun] at hleft
      exact UninstallCall.removes_configuration.mp (UninstallCall.nothingLeft_cleared.mp hleft)
    · refine h.confined ?_
      rw [hrun]
      exact UninstallCall.mem_removals_iff.mpr (UninstallCall.performs_of_asksFor hpurge)
  · rintro ⟨hreadable, hgoes, hremoves, hpayload⟩
    obtain ⟨state, file, hrun⟩ := UninstallCall.run_of_readable hreadable
    rw [UninstallCall.removeAll_of_goesOn hgoes] at hrun
    refine ⟨fun step hstep => ?_, fun _ => ?_, fun hpurge => ?_⟩
    · rw [hrun]
      exact UninstallCall.mem_removals_iff.mpr (UninstallCall.performs_of_asksFor hstep)
    · rw [hrun]
      exact UninstallCall.nothingLeft_cleared.mpr
        (UninstallCall.removes_configuration.mpr hremoves)
    · rw [hrun] at hpurge
      exact hpayload (UninstallCall.mem_removals_iff.mp hpurge)

/-! ## Runs that go wrong -/

def uninstallHost : UninstallHost where
  version := "0.11.0"
  installDirectory := "C:\\Users"
  preferredShortcutDirectory := "C:\\Programs"
  programsShortcuts := []
  defaultConfiguration := ⟨"127.0.0.1", 7300, 7301, 8080, false, true⟩
  dump _ := []
  parse _ := none
  payload := none
  configuredServiceName := kServiceName
  dataDirectory := "C:\\ProgramData\\MasterControlOrchestrationServer"
  recordedDataDirectory _ := ""

/-- A machine with a service, and an install directory that holds something else. -/
def strangeSite : Site where
  installDirectory := some (OrdMap.empty.insert "notes.txt" (.file []))
  rollbackSnapshot := none
  service := some (newService "MasterControlServiceHost.exe")
  firewall := OrdMap.empty
  shortcuts := OrdMap.empty
  uninstallEntry := none
  configuration := .absent
  urlAcl := []
  pluginJunctions := []
  runtimeData := none
  dataDirectories := OrdMap.empty
  publicLogs := none

/-- A configuration that is no JSON ends the call before anything is removed; a service that cannot
be deleted is reported as removed; and any directory is purged. -/
theorem uninstall_untruthful :
    ¬ CompletesTruthfully ⟨uninstallHost, {}, {}⟩
      { strangeSite with configuration := .unreadable } ∧
    ¬ CompletesTruthfully
      ⟨uninstallHost, {}, { uninstalling := .badly false false, deleting := false }⟩ strangeSite ∧
    ¬ CompletesTruthfully ⟨uninstallHost, { purgeInstallDirectory := true }, {}⟩ strangeSite := by
  refine ⟨fun h => ?_, fun h => ?_, fun h => ?_⟩
  · cases h.attempts .service rfl
  · have hleft := (h.truthful rfl).service rfl
    cases hleft
  · have hpayload := h.confined (by decide +kernel)
    revert hpayload
    decide +kernel

end Bootstrapper
end MasterControl
