import MasterControl.Bootstrapper.Forecast

/-!
# Failed installations

A failure is undone if what is left in the end is what was there, or if it is said that it is not,
and the snapshot is kept.  An exception is followed by nothing, so it has to come before anything
differs.  The clean-up removes what it finds, so nothing may have been there.  The rollback makes
the integrations those of the installation state in the snapshot, so they have to have been that
before.
-/

namespace MasterControl
namespace Bootstrapper

open Foundation

/-! ## What is promised -/

/-- The directory, and every integration that the options manage. -/
structure Unchanged (options : IntegrationOptions) (m m' : Machine) : Prop where
  installDirectory : m'.installDirectory = m.installDirectory
  service : options.manageService = true → m'.service = m.service
  firewall : options.manageFirewall = true → m'.firewall = m.firewall
  shortcuts : options.manageShortcuts = true → m'.shortcuts = m.shortcuts
  uninstallEntry :
    options.manageUninstallRegistration = true → m'.uninstallEntry = m.uninstallEntry

namespace Call

variable (call : Call) (layout : PayloadLayout) (m : Machine)

/-- The snapshot of the call is on disk. -/
def SnapshotKept (m' : Machine) : Prop :=
  call.guarded m = true ∧ ∃ snapshot,
    captureRollbackSnapshot call.course.capturing m.installDirectory = .ok snapshot ∧
      m'.rollbackSnapshot = some snapshot

/-- A path that the payload has. -/
def Stages (path : String) : Prop :=
  ∃ layout, call.host.payload = some layout ∧
    ∃ tree ∈ layout.trees, (tree.find? path).isSome = true

/-- No file of others is deleted, and no service of others is removed. -/
structure Spares (m' : Machine) : Prop where
  files : ∀ path content, m.installDirectory.bind (OrdMap.find? · path) = some (.file content) →
    ¬call.Stages path →
      ∃ content', m'.installDirectory.bind (OrdMap.find? · path) = some (.file content')
  service : m.service.isSome = true → m'.service.isSome = true

structure Transactional : Prop where
  undone : (call.installLike m).2 ≠ .succeeded →
    Unchanged call.options m (call.installLike m).1 ∨
      ∃ report, (call.installLike m).2 = .failed report ∧ report.rollbackRestored = false ∧
        call.SnapshotKept m (call.installLike m).1
  spared : call.mode = .install → directoryHasEntries m.installDirectory = true →
    call.Spares m (call.installLike m).1

variable {call : Call} {layout : PayloadLayout} {m : Machine}

/-! ## When the promise is kept -/

variable (call m) in
/-- The clean-up takes nothing away: there was no directory and no managed integration, or what
was there stays. -/
structure CleansUp (p : Progress) : Prop where
  installDirectory : m.installDirectory = call.course.undoing.removal
  service : call.options.manageService = true →
    m.service = (uninstallService call.course.undoing.uninstalling p.machine.service).1
  firewall : call.options.manageFirewall = true →
    m.firewall = removeFirewallRules call.course.undoing.removingRules
  shortcuts : call.options.manageShortcuts = true →
    m.shortcuts = removeShortcuts call.host call.course.undoing.removingShortcuts p.stagedState
      p.machine.shortcuts
  uninstallEntry : call.options.manageUninstallRegistration = true →
    m.uninstallEntry = (unregisterUninstallEntry call.course.undoing.unregistering).1

variable (call) in
/-- The service, stopped once more. -/
def stoppedAgain (p : Machine) : Option Service × Bool :=
  if call.options.manageService then stopServiceIfPresent call.course.undoing.stopping p.service
  else (p.service, true)

variable (call) in
/-- What the rollback makes of the machine when it has restored a directory with an installation
state; the entry comes last. -/
def restoredTo (p : Machine) (directory : Option Tree) (state : InstallationState) : Machine :=
  let u := call.course.undoing
  { p with
    installDirectory := directory
    service := (restoreService call.host call.options u state (call.stoppedAgain p).1).1
    firewall := (restoreFirewall call.options u state p.firewall).1
    shortcuts := (restoreShortcuts call.host call.options u state p.shortcuts).1 }

variable (call) in
/-- All calls of the rollback are reported to succeed. -/
def reportsRestored (p : Machine) (copied made : Bool) (state : InstallationState) : Bool :=
  let u := call.course.undoing
  (call.stoppedAgain p).2 && copied &&
    (restoreService call.host call.options u state (call.stoppedAgain p).1).2 &&
    (restoreFirewall call.options u state p.firewall).2 && made &&
    (restoreEntry call.options u state p.uninstallEntry).2

variable (call m) in
/-- The rollback says that it fails, or it finds the integrations as the installation state in the
snapshot has them; an exception comes when nothing is different. -/
inductive RollsBack (p : Machine) : Prop
  | interrupted {directory : Option Tree}
      (hrestored : restoreRollbackSnapshot call.course.undoing p.rollbackSnapshot
        p.installDirectory = .error directory)
      (hsame : Unchanged call.options m
        { p with installDirectory := directory, service := (call.stoppedAgain p).1 })
  | stateless {directory : Option Tree} {copied : Bool}
      (hrestored : restoreRollbackSnapshot call.course.undoing p.rollbackSnapshot
        p.installDirectory = .ok (directory, copied))
      (hread : readInstallationState call.host directory = .absent)
  | unreadable {directory : Option Tree} {copied : Bool}
      (hrestored : restoreRollbackSnapshot call.course.undoing p.rollbackSnapshot
        p.installDirectory = .ok (directory, copied))
      (hread : readInstallationState call.host directory = .unreadable)
      (hsame : Unchanged call.options m
        { p with installDirectory := directory, service := (call.stoppedAgain p).1 })
  | withoutShortcuts {directory : Option Tree} {copied : Bool} {state : InstallationState}
      (hrestored : restoreRollbackSnapshot call.course.undoing p.rollbackSnapshot
        p.installDirectory = .ok (directory, copied))
      (hread : readInstallationState call.host directory = .read state)
      (hthrows : (restoreShortcuts call.host call.options call.course.undoing state
        p.shortcuts).2 = none)
      (hsame : Unchanged call.options m (call.restoredTo p directory state))
  | failed {directory : Option Tree} {copied made : Bool} {state : InstallationState}
      (hrestored : restoreRollbackSnapshot call.course.undoing p.rollbackSnapshot
        p.installDirectory = .ok (directory, copied))
      (hread : readInstallationState call.host directory = .read state)
      (hmade : (restoreShortcuts call.host call.options call.course.undoing state
        p.shortcuts).2 = some made)
      (hfailed : call.reportsRestored p copied made state = false)
  | restored {directory : Option Tree} {copied made : Bool} {state : InstallationState}
      (hrestored : restoreRollbackSnapshot call.course.undoing p.rollbackSnapshot
        p.installDirectory = .ok (directory, copied))
      (hread : readInstallationState call.host directory = .read state)
      (hmade : (restoreShortcuts call.host call.options call.course.undoing state
        p.shortcuts).2 = some made)
      (hsame : Unchanged call.options m
        { call.restoredTo p directory state with
          uninstallEntry :=
            (restoreEntry call.options call.course.undoing state p.uninstallEntry).1 })

variable (call m) in
/-- When a call keeps the promise. -/
def Kept : Prop :=
  match call.host.payload with
  | none => True
  | some layout =>
    match firstStop (call.stops layout m) steps with
    | none | some (_, .refusal) => True
    | some (step, .exception) => Unchanged call.options m (call.after layout m step).machine
    | some (step, .failure _) =>
      if call.guarded m = true then call.RollsBack m (call.after layout m step).machine
      else call.CleansUp m (call.after layout m step)

/-! ## The rollback -/

section Rollback

variable {p : Machine} {directory : Option Tree} {copied made : Bool} {state : InstallationState}

theorem rollback_of_error (h : restoreRollbackSnapshot call.course.undoing p.rollbackSnapshot
      p.installDirectory = .error directory) :
    rollback call.host call.options call.course.undoing p =
      ({ p with installDirectory := directory, service := (call.stoppedAgain p).1 }, none) := by
  rw [rollback, h]
  rfl

theorem rollback_of_absent (h : restoreRollbackSnapshot call.course.undoing p.rollbackSnapshot
      p.installDirectory = .ok (directory, copied))
    (hread : readInstallationState call.host directory = .absent) :
    rollback call.host call.options call.course.undoing p =
      ({ p with installDirectory := directory, service := (call.stoppedAgain p).1 },
        some false) := by
  rw [rollback, h]
  dsimp only
  rw [hread]
  rfl

theorem rollback_of_unreadable (h : restoreRollbackSnapshot call.course.undoing p.rollbackSnapshot
      p.installDirectory = .ok (directory, copied))
    (hread : readInstallationState call.host directory = .unreadable) :
    rollback call.host call.options call.course.undoing p =
      ({ p with installDirectory := directory, service := (call.stoppedAgain p).1 }, none) := by
  rw [rollback, h]
  dsimp only
  rw [hread]
  rfl

theorem rollback_of_throw (h : restoreRollbackSnapshot call.course.undoing p.rollbackSnapshot
      p.installDirectory = .ok (directory, copied))
    (hread : readInstallationState call.host directory = .read state)
    (hthrows : (restoreShortcuts call.host call.options call.course.undoing state
      p.shortcuts).2 = none) :
    rollback call.host call.options call.course.undoing p =
      (call.restoredTo p directory state, none) := by
  rw [rollback, h]
  dsimp only
  rw [hread]
  dsimp only
  rw [hthrows]
  rfl

theorem rollback_of_made (h : restoreRollbackSnapshot call.course.undoing p.rollbackSnapshot
      p.installDirectory = .ok (directory, copied))
    (hread : readInstallationState call.host directory = .read state)
    (hmade : (restoreShortcuts call.host call.options call.course.undoing state
      p.shortcuts).2 = some made) :
    rollback call.host call.options call.course.undoing p =
      ({ call.restoredTo p directory state with
          uninstallEntry :=
            (restoreEntry call.options call.course.undoing state p.uninstallEntry).1 },
        some (call.reportsRestored p copied made state)) := by
  rw [rollback, h]
  dsimp only
  rw [hread]
  dsimp only
  rw [hmade]
  rfl

end Rollback

section Undone

variable {p : Progress} {m' : Machine} {message : String} {restored : Bool}

theorem failInstall_of_throw (hrollback : p.rollbackDirectory = true)
    (h : rollback call.host call.options call.course.undoing p.machine = (m', none)) :
    call.failInstall p message = (m', .threw) := by
  rw [failInstall, if_pos hrollback, h]

theorem failInstall_of_restored (hrollback : p.rollbackDirectory = true)
    (h : rollback call.host call.options call.course.undoing p.machine = (m', some restored))
    (hread : readInstallationState call.host m'.installDirectory ≠ .unreadable) :
    call.failInstall p message =
      (if restored then { m' with rollbackSnapshot := call.course.discarding } else m',
        .failed ⟨message, true, restored⟩) := by
  have hreported : reported call.host call.options m' ⟨message, true, restored⟩ =
      .failed ⟨message, true, restored⟩ := by
    rw [reported]
    cases hstate : readInstallationState call.host m'.installDirectory with
    | unreadable => exact absurd hstate hread
    | absent | read state => rfl
  rw [failInstall, if_pos hrollback, h]
  dsimp only
  rw [hreported]

variable (call m p message) in
/-- What a failure promises of the machine and of the report. -/
def Undone : Prop :=
  Unchanged call.options m (call.failInstall p message).1 ∨
    ∃ report, (call.failInstall p message).2 = .failed report ∧
      report.rollbackRestored = false ∧ call.SnapshotKept m (call.failInstall p message).1

/-- An exception leaves nothing to report. -/
theorem undone_of_throw_iff (h : call.failInstall p message = (m', .threw)) :
    call.Undone m p message ↔ Unchanged call.options m m' := by
  rw [Undone, h]
  refine or_iff_left ?_
  rintro ⟨report, hreport, -⟩
  exact Outcome.noConfusion hreport

/-- Where the snapshot is kept, a failure that is reported has undone enough. -/
theorem undone_of_false (hkept : call.SnapshotKept m m')
    (h : call.failInstall p message = (m', .failed ⟨message, true, false⟩)) :
    call.Undone m p message := by
  rw [Undone, h]
  exact Or.inr ⟨_, rfl, rfl, hkept⟩

theorem undone_of_true_iff
    (h : call.failInstall p message =
      ({ m' with rollbackSnapshot := call.course.discarding }, .failed ⟨message, true, true⟩)) :
    call.Undone m p message ↔ Unchanged call.options m m' := by
  rw [Undone, h]
  constructor
  · rintro (hsame | ⟨report, hreport, hfalse, -⟩)
    · exact ⟨hsame.installDirectory, hsame.service, hsame.firewall, hsame.shortcuts,
        hsame.uninstallEntry⟩
    · obtain rfl := Outcome.failed.inj hreport
      exact absurd hfalse (Bool.noConfusion)
  · intro hsame
    exact Or.inl ⟨hsame.installDirectory, hsame.service, hsame.firewall, hsame.shortcuts,
      hsame.uninstallEntry⟩

/-- With a snapshot. -/
theorem undone_iff_rollsBack (hguarded : call.guarded m = true)
    (hrollback : p.rollbackDirectory = true)
    (hsnapshot : ∃ snapshot,
      captureRollbackSnapshot call.course.capturing m.installDirectory = .ok snapshot ∧
        p.machine.rollbackSnapshot = some snapshot) :
    call.Undone m p message ↔ call.RollsBack m p.machine := by
  have hkept : ∀ m' : Machine, m'.rollbackSnapshot = p.machine.rollbackSnapshot →
      call.SnapshotKept m m' := by
    intro m' hsame
    obtain ⟨snapshot, hcapture, hdisk⟩ := hsnapshot
    exact ⟨hguarded, snapshot, hcapture, hsame.trans hdisk⟩
  have hthrown : ∀ m', rollback call.host call.options call.course.undoing p.machine =
      (m', none) → (call.Undone m p message ↔ Unchanged call.options m m') :=
    fun m' h => undone_of_throw_iff (failInstall_of_throw hrollback h)
  have hfalse : ∀ m', rollback call.host call.options call.course.undoing p.machine =
      (m', some false) → readInstallationState call.host m'.installDirectory ≠ .unreadable →
        m'.rollbackSnapshot = p.machine.rollbackSnapshot → call.Undone m p message :=
    fun m' h hread hdisk =>
      undone_of_false (hkept m' hdisk) (failInstall_of_restored hrollback h hread)
  have htrue : ∀ m', rollback call.host call.options call.course.undoing p.machine =
      (m', some true) → readInstallationState call.host m'.installDirectory ≠ .unreadable →
        (call.Undone m p message ↔ Unchanged call.options m m') :=
    fun m' h hread => undone_of_true_iff (failInstall_of_restored hrollback h hread)
  constructor
  · intro hundone
    cases hrestored : restoreRollbackSnapshot call.course.undoing p.machine.rollbackSnapshot
      p.machine.installDirectory with
    | error directory =>
      exact .interrupted hrestored ((hthrown _ (rollback_of_error hrestored)).mp hundone)
    | ok pair =>
      obtain ⟨directory, copied⟩ := pair
      cases hread : readInstallationState call.host directory with
      | absent => exact .stateless hrestored hread
      | unreadable =>
        exact .unreadable hrestored hread
          ((hthrown _ (rollback_of_unreadable hrestored hread)).mp hundone)
      | read state =>
        have hreadable : readInstallationState call.host directory ≠ .unreadable := by
          rw [hread]
          exact StateRead.noConfusion
        cases hmade : (restoreShortcuts call.host call.options call.course.undoing state
          p.machine.shortcuts).2 with
        | none =>
          exact .withoutShortcuts hrestored hread hmade
            ((hthrown _ (rollback_of_throw hrestored hread hmade)).mp hundone)
        | some made =>
          have hrollback := rollback_of_made hrestored hread hmade
          cases hreports : call.reportsRestored p.machine copied made state with
          | false => exact .failed hrestored hread hmade hreports
          | true =>
            rw [hreports] at hrollback
            exact .restored hrestored hread hmade ((htrue _ hrollback hreadable).mp hundone)
  · intro hback
    cases hback with
    | interrupted hrestored hsame =>
      exact (hthrown _ (rollback_of_error hrestored)).mpr hsame
    | stateless hrestored hread =>
      refine hfalse _ (rollback_of_absent hrestored hread) ?_ rfl
      rw [hread]
      exact StateRead.noConfusion
    | unreadable hrestored hread hsame =>
      exact (hthrown _ (rollback_of_unreadable hrestored hread)).mpr hsame
    | withoutShortcuts hrestored hread hmade hsame =>
      exact (hthrown _ (rollback_of_throw hrestored hread hmade)).mpr hsame
    | @failed directory copied made state hrestored hread hmade hfailed =>
      have hrollback := rollback_of_made hrestored hread hmade
      rw [hfailed] at hrollback
      refine hfalse _ hrollback ?_ rfl
      change readInstallationState call.host directory ≠ .unreadable
      rw [hread]
      exact StateRead.noConfusion
    | @restored directory copied made state hrestored hread hmade hsame =>
      have hrollback := rollback_of_made hrestored hread hmade
      have hreadable : readInstallationState call.host directory ≠ .unreadable := by
        rw [hread]
        exact StateRead.noConfusion
      cases hreports : call.reportsRestored p.machine copied made state with
      | false =>
        rw [hreports] at hrollback
        exact hfalse _ hrollback hreadable rfl
      | true =>
        rw [hreports] at hrollback
        exact (htrue _ hrollback hreadable).mpr hsame

/-- Without one. -/
theorem undone_iff_cleansUp (hguarded : call.guarded m = false)
    (hrollback : p.rollbackDirectory = false) :
    call.Undone m p message ↔ call.CleansUp m p := by
  have hnot : ¬p.rollbackDirectory = true := by
    rw [hrollback]
    exact Bool.false_ne_true
  have hundone : call.Undone m p message ↔ Unchanged call.options m
      (cleanup call.host call.options call.course.undoing p.stagedState p.machine).1 := by
    rw [Undone, failInstall, if_neg hnot]
    refine or_iff_left ?_
    rintro ⟨report, -, -, hkept⟩
    exact Bool.false_ne_true (hguarded.symm.trans hkept.1)
  rw [hundone]
  constructor
  · intro h
    refine ⟨h.installDirectory.symm, fun hmanaged => ?_, fun hmanaged => ?_, fun hmanaged => ?_,
      fun hmanaged => ?_⟩
    · have hsame := h.service hmanaged
      simp only [cleanup, if_pos hmanaged] at hsame
      exact hsame.symm
    · have hsame := h.firewall hmanaged
      simp only [cleanup, if_pos hmanaged] at hsame
      exact hsame.symm
    · have hsame := h.shortcuts hmanaged
      simp only [cleanup, hmanaged, Bool.true_or, if_true] at hsame
      exact hsame.symm
    · have hsame := h.uninstallEntry hmanaged
      simp only [cleanup, if_pos hmanaged] at hsame
      exact hsame.symm
  · intro h
    refine ⟨h.installDirectory.symm, fun hmanaged => ?_, fun hmanaged => ?_, fun hmanaged => ?_,
      fun hmanaged => ?_⟩
    · simp only [cleanup, if_pos hmanaged]
      exact (h.service hmanaged).symm
    · simp only [cleanup, if_pos hmanaged]
      exact (h.firewall hmanaged).symm
    · simp only [cleanup, hmanaged, Bool.true_or, if_true]
      exact (h.shortcuts hmanaged).symm
    · simp only [cleanup, if_pos hmanaged]
      exact (h.uninstallEntry hmanaged).symm

end Undone

/-! ## What is not the bootstrapper's -/

theorem find?_foldl_place {path : String} {entries : List (String × Node)}
    (hpath : ∀ entry ∈ entries, entry.1 ≠ path) (tree : Tree) :
    (entries.foldl place tree).find? path = tree.find? path := by
  induction entries generalizing tree with
  | nil => rfl
  | cons entry entries ih =>
    rw [List.foldl_cons, ih fun other hother => hpath other (List.mem_cons_of_mem entry hother),
      place]
    split_ifs
    · rfl
    · exact OrdMap.find?_insert_of_ne tree (hpath entry List.mem_cons_self) entry.2

/-- Staging does not touch what is not of the payload. -/
theorem find?_stageTrees {path : String} {sources : List Tree} {copyings : List Copying}
    {tree tree' : Tree} (hpath : ∀ source ∈ sources, (source.find? path).isSome = false)
    (h : stageTrees sources copyings tree = .ok tree') : tree'.find? path = tree.find? path := by
  induction sources generalizing copyings tree with
  | nil =>
    obtain rfl := Except.ok.inj h
    rfl
  | cons source sources ih =>
    have hentries : ∀ entry ∈ source.entries, entry.1 ≠ path := by
      rintro ⟨name, node⟩ hentry rfl
      have hfound := OrdMap.mem_entries_iff.mp hentry
      have hnone := hpath source List.mem_cons_self
      rw [hfound] at hnone
      exact Bool.noConfusion hnone
    rw [stageTrees, copyRecursive] at h
    by_cases hfails : ((copyings.headD {}).blocked ||
        source.entries.any ((copyings.headD {}).fails tree)) = true
    · rw [if_pos hfails] at h
      cases h
    · rw [if_neg hfails] at h
      rw [ih (fun other hother => hpath other (List.mem_cons_of_mem source hother)) h]
      exact find?_foldl_place hentries tree

/-- A file stays one when the installation state is written. -/
theorem find?_record {path : String} {content : Bytes} {tree : Tree} (state : Option Bytes)
    (h : tree.find? path = some (.file content)) :
    ∃ content', (record tree state).find? path = some (.file content') := by
  cases state with
  | none => exact ⟨content, h⟩
  | some written =>
    rw [record, OrdMap.find?_insert]
    split_ifs
    · exact ⟨written, rfl⟩
    · exact ⟨content, h⟩

theorem isSome_startedService (h : m.service.isSome = true) :
    (call.startedService m).isSome = true := by
  rw [startedService]
  split_ifs with hmanaged
  · have hstopped : (call.stoppedService m).isSome = true := by
      rw [stoppedService, if_pos hmanaged, stopServiceIfPresent, Option.isSome_map]
      exact h
    have hinstalled : (call.installedService m).isSome = true := by
      rw [installedService, if_pos hmanaged]
      cases call.course.installing with
      | none => rfl
      | some left =>
        cases left with
        | none => exact hstopped
        | some service => rfl
    rw [startServiceIfPresent, Option.isSome_map]
    exact hinstalled
  · exact h

/-- An installation that succeeds leaves the files and the services of others. -/
theorem spares_of_succeeded (hpayload : call.host.payload = some layout)
    (hstops : firstStop (call.stops layout m) steps = none) {m' : Machine}
    (hdirectory : m'.installDirectory = some (call.recorded layout m))
    (hservice : m'.service = call.startedService m) : call.Spares m m' := by
  constructor
  · intro path content hfile hnot
    have hstaging : call.stops layout m .staging = none := by
      have hall := List.findSome?_eq_none_iff.mp hstops .staging (by decide)
      exact Option.map_eq_none_iff.mp hall
    have hpath : ∀ source ∈ layout.trees, (source.find? path).isSome = false := by
      intro source hsource
      by_contra hsome
      exact hnot ⟨layout, hpayload, source, hsource, Bool.eq_true_of_not_eq_false hsome⟩
    have hcreated : (created m).find? path = some (.file content) := by
      rw [created]
      cases hbefore : m.installDirectory with
      | none =>
        rw [hbefore] at hfile
        exact absurd hfile.symm (Option.some_ne_none _)
      | some tree =>
        rw [hbefore] at hfile
        exact hfile
    have hstaged : (call.staged layout m).find? path = some (.file content) := by
      cases hstage : stagePayload layout call.course.staging (created m) with
      | error left =>
        rw [stops, hstage] at hstaging
        exact absurd hstaging (Option.some_ne_none _)
      | ok tree =>
        rw [staged, hstage, ← hcreated]
        exact find?_stageTrees hpath hstage
    rw [hdirectory]
    exact find?_record _ hstaged
  · intro hsome
    rw [hservice]
    exact isSome_startedService hsome

/-- What has not changed is spared. -/
theorem spares_of_unchanged {m' : Machine} (h : Unchanged call.options m m')
    (hservice : call.options.manageService = false → m'.service = m.service) :
    call.Spares m m' := by
  constructor
  · intro path content hfile _
    rw [h.installDirectory]
    exact ⟨content, hfile⟩
  · intro hsome
    cases hmanaged : call.options.manageService with
    | true => rw [h.service hmanaged]; exact hsome
    | false => rw [hservice hmanaged]; exact hsome

theorem guarded_of_install (hmode : call.mode = .install) : call.guarded m = false := by
  rw [guarded, hmode]
  rfl

/-! ## The promise -/

section Ends

variable {step : Step} {message : String}

theorem installLike_of_none (hpayload : call.host.payload = some layout)
    (hstops : firstStop (call.stops layout m) steps = none) :
    call.installLike m =
      (if call.guarded m then
          { (call.after layout m .validation).machine with
            rollbackSnapshot := call.course.discarding }
        else (call.after layout m .validation).machine, .succeeded) := by
  rw [installLike, hpayload]
  dsimp only
  rw [runSteps_perform, leaves, hstops]
  rfl

theorem installLike_of_exception (hpayload : call.host.payload = some layout)
    (hstops : firstStop (call.stops layout m) steps = some (step, .exception)) :
    call.installLike m = ((call.after layout m step).machine, .threw) := by
  rw [installLike, hpayload]
  dsimp only
  rw [runSteps_perform, leaves, hstops]

theorem installLike_of_refusal (hpayload : call.host.payload = some layout)
    (hstops : firstStop (call.stops layout m) steps = some (step, .refusal)) :
    call.installLike m = ((call.after layout m step).machine, .refused) := by
  rw [installLike, hpayload]
  dsimp only
  rw [runSteps_perform, leaves, hstops]

theorem installLike_of_failure (hpayload : call.host.payload = some layout)
    (hstops : firstStop (call.stops layout m) steps = some (step, .failure message)) :
    call.installLike m = call.failInstall (call.after layout m step) message := by
  rw [installLike, hpayload]
  dsimp only
  rw [runSteps_perform, leaves, hstops]

/-- An exception is not reported as a failed rollback. -/
theorem transactional_of_exception_iff (hpayload : call.host.payload = some layout)
    (hstops : firstStop (call.stops layout m) steps = some (step, .exception)) :
    call.Transactional m ↔ Unchanged call.options m (call.after layout m step).machine := by
  have hinstall := installLike_of_exception hpayload hstops
  constructor
  · intro h
    obtain hsame | ⟨report, hreport, -⟩ := h.undone (by rw [hinstall]; exact Outcome.noConfusion)
    · rw [hinstall] at hsame
      exact hsame
    · rw [hinstall] at hreport
      exact Outcome.noConfusion hreport
  · intro hsame
    refine ⟨fun _ => ?_, fun _ _ => ?_⟩
    · rw [hinstall]
      exact Or.inl hsame
    · rw [hinstall]
      exact spares_of_unchanged hsame fun hmanaged => service_after hmanaged step

/-- A reported failure ends as it is undone. -/
theorem transactional_of_failure_iff (hpayload : call.host.payload = some layout)
    (hstops : firstStop (call.stops layout m) steps = some (step, .failure message)) :
    call.Transactional m ↔ call.Undone m (call.after layout m step) message := by
  have hinstall := installLike_of_failure hpayload hstops
  have hfails : (call.failInstall (call.after layout m step) message).2 ≠ .succeeded := by
    have hreported : ∀ m' report, reported call.host call.options m' report ≠ .succeeded := by
      intro m' report
      rw [reported]
      split
      · split_ifs <;> exact Outcome.noConfusion
      all_goals exact Outcome.noConfusion
    rw [failInstall]
    split_ifs
    · split
      · exact Outcome.noConfusion
      · split
        · exact Outcome.noConfusion
        · exact hreported _ _
    · exact hreported _ _
  constructor
  · intro h
    have hundone := h.undone (by rw [hinstall]; exact hfails)
    rw [hinstall] at hundone
    exact hundone
  · intro hundone
    refine ⟨fun _ => ?_, fun hmode _ => ?_⟩
    · rw [hinstall]
      exact hundone
    · have hguarded : call.guarded m = false := guarded_of_install hmode
      have hrollback : (call.after layout m step).rollbackDirectory = false :=
        (rollbackDirectory_after step).trans hguarded
      obtain hsame | ⟨-, -, -, hkept⟩ := hundone
      · rw [hinstall]
        refine spares_of_unchanged hsame fun hmanaged => ?_
        rw [failInstall, hrollback]
        simp only [cleanup, hmanaged]
        exact service_after hmanaged step
      · exact absurd (hguarded.symm.trans hkept.1) Bool.false_ne_true

end Ends

/-- An installation. -/
def installedTree : Tree where
  entries :=
    [("MasterControlBootstrapper.exe", .file [77]),
      ("MasterControlOrchestrationServer.exe", .file [77]),
      ("MasterControlServiceHost.exe", .file [77]), ("MasterControlShell.exe", .file [77]),
      ("installation-state.json", .file [123, 125]), ("share", .directory),
      ("share/MasterControlOrchestrationServer", .directory),
      ("share/MasterControlOrchestrationServer/ForsettiManifests", .directory),
      ("share/MasterControlOrchestrationServer/web", .directory)]
  sorted := by decide +kernel

/-- Its service runs, and its configuration file is no JSON. -/
def installedMachine : Machine where
  installDirectory := some installedTree
  rollbackSnapshot := none
  service := some
    { (newService "C:\\MCOS\\MasterControlServiceHost.exe").updated
        "C:\\MCOS\\MasterControlServiceHost.exe" with running := true }
  firewall := OrdMap.empty
  shortcuts := OrdMap.empty
  uninstallEntry := none
  configuration := .unreadable
  urlAcl := []

/-- The bootstrapper of the installation itself. -/
def installedPayload : PayloadLayout := ⟨true, .same, .same, .same, .same, .same, .same⟩

/-- A repair of which every call goes well. -/
def repair : Call where
  host :=
    { version := "0.10.0"
      installDirectory := "C:\\MCOS"
      preferredShortcutDirectory := "C:\\Programs\\Master Control Orchestration Server"
      programsShortcuts := []
      defaultConfiguration := ⟨"0.0.0.0", 7300, 7301, 8080, true, true⟩
      dump := fun _ => [123, 125]
      parse := fun _ => some {}
      payload := some installedPayload }
  mode := .repair
  options := {}
  course := {}

end Call
end Bootstrapper
end MasterControl
