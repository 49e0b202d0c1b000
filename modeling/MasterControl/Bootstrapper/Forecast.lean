import MasterControl.Bootstrapper.InstallLike

/-!
# What the steps of an installation leave

What each step leaves is known from the machine before the call and from how the calls go
(`after`), and so is the first step that does not succeed (`stops`): the steps are as they are
foretold (`runSteps_perform`).
-/

namespace MasterControl
namespace Bootstrapper

open Foundation

namespace Call

variable (call : Call) (layout : PayloadLayout) (m : Machine)

/-! ## What the steps leave -/

/-- The snapshot of the call, or what there was of it. -/
def snapshot : Option Tree :=
  if call.guarded m then
    match captureRollbackSnapshot call.course.capturing m.installDirectory with
    | .error snapshot | .ok snapshot => some snapshot
  else m.rollbackSnapshot

def captured : Progress :=
  { machine := { m with rollbackSnapshot := call.snapshot m }, rollbackDirectory := call.guarded m }

def created : Tree := m.installDirectory.getD OrdMap.empty

/-- The payload over what was there. -/
def staged : Tree :=
  match stagePayload layout call.course.staging (created m) with
  | .error left => left
  | .ok tree => tree

def prepared : Option (AppConfiguration × ConfigurationFile) :=
  ensureConfigurationPresent call.host call.course.configurationBlocked
    call.course.configurationLeft m.configuration

def stagedState : InstallationState :=
  match call.prepared m with
  | some (configuration, _) =>
    if call.course.foldersFound then
      buildInstallationState call.host configuration call.options
    else {}
  | none => {}

def configurationFile : ConfigurationFile := ((call.prepared m).map Prod.snd).getD m.configuration

/-- With the installation state. -/
def recorded : Tree :=
  record (call.staged layout m) (call.course.recording.leaves
    (some (call.host.dump (call.stagedState m))))

def stoppedService : Option Service :=
  if call.options.manageService then (stopServiceIfPresent call.course.stopping m.service).1
  else m.service

def installedService : Option Service :=
  if call.options.manageService then
    (installOrUpdateService call.course.installing
      (pathBelow call.host.installDirectory "MasterControlServiceHost.exe")
      (call.stoppedService m)).1
  else m.service

def startedService : Option Service :=
  if call.options.manageService then
    (startServiceIfPresent call.course.starting (call.installedService m)).1
  else m.service

def configuredRules : FirewallRules :=
  if call.options.manageFirewall then call.course.firewall.leaves (rulesOf (call.stagedState m))
  else m.firewall

def reservedPorts : List ℕ := configureUrlAcl call.course.urlAcl (call.stagedState m) m.urlAcl

def configuredShortcuts : Shortcuts :=
  if call.options.manageShortcuts then
    call.course.shortcuts.leaves (withShortcuts (call.stagedState m) m.shortcuts)
  else m.shortcuts

def registeredEntry : Option UninstallEntry :=
  call.course.registration.leaves
    (if call.options.manageUninstallRegistration then some (entryOf (call.stagedState m))
      else none)

/-- The machine with a directory and a service, before the other integrations. -/
def changed (directory : Tree) (service : Option Service) : Machine :=
  { (call.captured m).machine with installDirectory := some directory, service }

def recordedMachine : Machine :=
  { call.changed m (call.recorded layout m) (call.stoppedService m) with
    configuration := call.configurationFile m }

def firewalledMachine : Machine :=
  { call.recordedMachine layout m with firewall := call.configuredRules m }

def reservedMachine : Machine :=
  { call.firewalledMachine layout m with urlAcl := call.reservedPorts m }

def shortcutMachine : Machine :=
  { call.reservedMachine layout m with shortcuts := call.configuredShortcuts m }

def registeredMachine : Machine :=
  { call.shortcutMachine layout m with uninstallEntry := call.registeredEntry m }

/-- A run that has got to a machine. -/
def reached (machine : Machine) : Progress :=
  { call.captured m with machine, stagedState := call.stagedState m }

/-- What each step leaves, if those before it succeed. -/
def after : Step → Progress
  | .capturing => call.captured m
  | .creating =>
    if call.course.directoryMade then
      { call.captured m with machine := call.changed m (created m) (call.stoppedService m) }
    else call.captured m
  | .staging =>
    { call.captured m with
      machine := call.changed m (call.staged layout m) (call.stoppedService m) }
  | .preparing =>
    call.reached m
      { call.changed m (call.staged layout m) (call.stoppedService m) with
        configuration := call.configurationFile m }
  | .recording | .testing => call.reached m (call.recordedMachine layout m)
  | .firewall => call.reached m (call.firewalledMachine layout m)
  | .urlAcl => call.reached m (call.reservedMachine layout m)
  | .shortcuts => call.reached m (call.shortcutMachine layout m)
  | .registration => call.reached m (call.registeredMachine layout m)
  | .installing =>
    call.reached m { call.registeredMachine layout m with service := call.installedService m }
  | .starting | .validation =>
    call.reached m { call.registeredMachine layout m with service := call.startedService m }

/-- Why each step fails, if those before it succeed. -/
def stops : Step → Option Stop
  | .capturing =>
    if call.guarded m then
      match captureRollbackSnapshot call.course.capturing m.installDirectory with
      | .error _ => some .exception
      | .ok snapshot => if directoryHasEntries (some snapshot) then none else some .refusal
    else none
  | .creating => if call.course.directoryMade then none else some .exception
  | .staging =>
    match stagePayload layout call.course.staging (created m) with
    | .error _ => some .exception
    | .ok _ => none
  | .preparing =>
    if (call.prepared m).isSome && call.course.foldersFound then none else some .exception
  | .recording =>
    riskyStop call.course.recording.reports "Failed to write installation state."
  | .testing =>
    succeedOr (!call.host.failAfterStage)
      "Simulated bootstrapper failure after staging payload and installation state."
  | .firewall =>
    if call.options.manageFirewall then
      succeedOr call.course.firewall.reports "Failed to configure firewall rules."
    else none
  | .urlAcl => none
  | .shortcuts =>
    if call.options.manageShortcuts then
      riskyStop call.course.shortcuts.reports "Failed to create shortcuts."
    else none
  | .registration =>
    if call.options.manageUninstallRegistration then
      succeedOr call.course.registration.reports "Failed to register the uninstall entry."
    else none
  | .installing =>
    if call.options.manageService then
      succeedOr call.course.installing.isNone "Failed to install Windows service."
    else none
  | .starting =>
    if call.options.manageService then
      succeedOr ((call.installedService m).isSome && call.course.starting.works)
        "Failed to start Windows service."
    else none
  | .validation =>
    riskyStop call.course.validation ("Post-" ++ call.mode.name ++ " validation failed.")

variable {call : Call} {layout : PayloadLayout} {m : Machine}

theorem perform_capturing :
    call.perform layout .capturing { machine := m } =
      (call.after layout m .capturing, call.stops layout m .capturing) := by
  simp only [perform, after, stops, captured, snapshot]
  by_cases hguarded : call.guarded m = true
  · rw [hguarded]
    cases captureRollbackSnapshot call.course.capturing m.installDirectory <;> rfl
  · rw [Bool.not_eq_true] at hguarded
    rw [hguarded]
    rfl

theorem perform_creating :
    call.perform layout .creating (call.after layout m .capturing) =
      (call.after layout m .creating, call.stops layout m .creating) := by
  simp only [perform, after, stops]
  by_cases hmade : call.course.directoryMade = true
  · rw [if_pos hmade, if_pos hmade, if_pos hmade]
    rfl
  · rw [if_neg hmade, if_neg hmade, if_neg hmade]

theorem perform_staging (hmade : call.stops layout m .creating = none) :
    call.perform layout .staging (call.after layout m .creating) =
      (call.after layout m .staging, call.stops layout m .staging) := by
  have hcreated : call.course.directoryMade = true := by
    by_contra hnot
    rw [stops, if_neg hnot] at hmade
    exact Option.some_ne_none _ hmade
  simp only [perform, after, stops, if_pos hcreated, changed, staged, Option.getD_some]
  cases stagePayload layout call.course.staging (created m) <;> rfl

theorem perform_preparing :
    call.perform layout .preparing (call.after layout m .staging) =
      (call.after layout m .preparing, call.stops layout m .preparing) := by
  have hprepared : ensureConfigurationPresent call.host call.course.configurationBlocked
      call.course.configurationLeft
        (call.after layout m .staging).machine.configuration = call.prepared m := rfl
  simp only [perform, stops, hprepared]
  simp only [after, reached, configurationFile, stagedState]
  cases call.prepared m with
  | none => rfl
  | some pair =>
    cases call.course.foldersFound <;> rfl

theorem perform_recording :
    call.perform layout .recording (call.after layout m .preparing) =
      (call.after layout m .recording, call.stops layout m .recording) := rfl

theorem perform_testing :
    call.perform layout .testing (call.after layout m .recording) =
      (call.after layout m .testing, call.stops layout m .testing) := rfl

theorem perform_firewall :
    call.perform layout .firewall (call.after layout m .testing) =
      (call.after layout m .firewall, call.stops layout m .firewall) := by
  simp only [perform, after, stops, firewalledMachine, configuredRules]
  split_ifs <;> rfl

theorem perform_urlAcl :
    call.perform layout .urlAcl (call.after layout m .firewall) =
      (call.after layout m .urlAcl, call.stops layout m .urlAcl) := rfl

theorem perform_shortcuts :
    call.perform layout .shortcuts (call.after layout m .urlAcl) =
      (call.after layout m .shortcuts, call.stops layout m .shortcuts) := by
  simp only [perform, after, stops, shortcutMachine, configuredShortcuts]
  split_ifs <;> rfl

theorem perform_registration :
    call.perform layout .registration (call.after layout m .shortcuts) =
      (call.after layout m .registration, call.stops layout m .registration) := by
  simp only [perform, after, stops, registeredMachine, registeredEntry]
  split_ifs <;> rfl

theorem perform_installing :
    call.perform layout .installing (call.after layout m .registration) =
      (call.after layout m .installing, call.stops layout m .installing) := by
  have hservice : (call.registeredMachine layout m).service = call.stoppedService m := rfl
  simp only [perform, after, stops, installedService, reached, hservice]
  split_ifs with hmanaged
  · cases call.course.installing <;> rfl
  · simp only [registeredMachine, shortcutMachine, reservedMachine, firewalledMachine,
      recordedMachine, changed, stoppedService, if_neg hmanaged]

theorem perform_starting :
    call.perform layout .starting (call.after layout m .installing) =
      (call.after layout m .starting, call.stops layout m .starting) := by
  simp only [perform, after, stops, startedService, reached]
  split_ifs with hmanaged
  · rfl
  · simp only [installedService, if_neg hmanaged]

theorem perform_validation :
    call.perform layout .validation (call.after layout m .starting) =
      (call.after layout m .validation, call.stops layout m .validation) := rfl

/-- The steps as they are foretold. -/
theorem runSteps_perform :
    runSteps (call.perform layout) steps { machine := m } =
      (leaves (call.after layout m) (call.stops layout m) steps { machine := m },
        firstStop (call.stops layout m) steps) := by
  refine runSteps_eq_of_foretold ?_
  refine .cons perform_capturing fun _ => .cons perform_creating fun hmade => ?_
  refine .cons (perform_staging hmade) fun _ => .cons perform_preparing fun _ => ?_
  refine .cons perform_recording fun _ => .cons perform_testing fun _ => ?_
  refine .cons perform_firewall fun _ => .cons perform_urlAcl fun _ => ?_
  refine .cons perform_shortcuts fun _ => .cons perform_registration fun _ => ?_
  refine .cons perform_installing fun _ => .cons perform_starting fun _ => ?_
  exact .cons perform_validation fun _ => .nil

/-! ## What is left in the end -/

theorem rollbackDirectory_after (step : Step) :
    (call.after layout m step).rollbackDirectory = call.guarded m := by
  cases step with
  | creating => rw [after]; split_ifs <;> rfl
  | _ => rfl

theorem rollbackSnapshot_after (step : Step) :
    (call.after layout m step).machine.rollbackSnapshot = call.snapshot m := by
  cases step with
  | creating => rw [after]; split_ifs <;> rfl
  | _ => rfl

/-- A service that is not managed is left alone. -/
theorem service_after (hmanaged : call.options.manageService = false) (step : Step) :
    (call.after layout m step).machine.service = m.service := by
  have hnot : ¬call.options.manageService = true := by
    rw [hmanaged]
    exact Bool.false_ne_true
  have hstopped : call.stoppedService m = m.service := if_neg hnot
  have hinstalled : call.installedService m = m.service := if_neg hnot
  have hstarted : call.startedService m = m.service := if_neg hnot
  cases step with
  | capturing => rfl
  | creating =>
    rw [after]
    split_ifs
    · exact hstopped
    · rfl
  | installing => exact hinstalled
  | starting | validation => exact hstarted
  | _ => exact hstopped

theorem capturing_of_refusal {step : Step}
    (h : call.stops layout m step = some .refusal) : step = .capturing := by
  have hsucceed : ∀ (succeeded : Bool) (message : String),
      succeedOr succeeded message ≠ some .refusal := by
    intro succeeded message
    cases succeeded <;> simp [succeedOr]
  have hrisky : ∀ (reported : Option Bool) (message : String),
      riskyStop reported message ≠ some .refusal := by
    intro reported message
    cases reported with
    | none => simp [riskyStop]
    | some succeeded => exact hsucceed succeeded message
  cases step with
  | capturing => rfl
  | creating | preparing =>
    rw [stops] at h
    split_ifs at h
    exact absurd (Option.some.inj h) Stop.noConfusion
  | staging =>
    rw [stops] at h
    split at h
    · exact absurd (Option.some.inj h) Stop.noConfusion
    · exact absurd h.symm (Option.some_ne_none _)
  | recording | validation => exact absurd h (hrisky _ _)
  | testing => exact absurd h (hsucceed _ _)
  | urlAcl => exact absurd h.symm (Option.some_ne_none _)
  | shortcuts =>
    rw [stops] at h
    split_ifs at h
    exact absurd h (hrisky _ _)
  | firewall | registration | installing | starting =>
    rw [stops] at h
    split_ifs at h
    exact absurd h (hsucceed _ _)

/-- A failure that is reported comes after the snapshot. -/
theorem snapshot_of_failure {step : Step} {message : String} (hguarded : call.guarded m = true)
    (h : firstStop (call.stops layout m) steps = some (step, .failure message)) :
    ∃ snapshot, captureRollbackSnapshot call.course.capturing m.installDirectory = .ok snapshot ∧
      call.snapshot m = some snapshot := by
  cases hcapture : captureRollbackSnapshot call.course.capturing m.installDirectory with
  | error left =>
    have hstops : call.stops layout m .capturing = some .exception := by
      rw [stops, if_pos hguarded, hcapture]
    rw [steps, firstStop_cons_of_some hstops] at h
    exact absurd (Prod.mk.inj (Option.some.inj h)).2 Stop.noConfusion
  | ok snapshot =>
    refine ⟨snapshot, rfl, ?_⟩
    rw [Call.snapshot, if_pos hguarded, hcapture]

end Call
end Bootstrapper
end MasterControl
