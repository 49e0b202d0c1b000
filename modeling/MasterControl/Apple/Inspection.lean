import MasterControl.Apple.Hosts
import MasterControl.Foundation.Runs

/-!
# Inspections and edits at the same time

`inspectHost` copies a record under the lock, asks the host for seconds without it, and writes
the whole copy back; `selectHostForPlatform` does so for one host after the other, from one
copy of the list.  An operator edits the list meanwhile.

The operator's view of the list is a roster: what was last sent for an id, or nothing.
Upserts and removals edit it, inspections do not (`Step.edit`).  The list follows its roster
in every run whose write-backs find the record they copied (`Current`): what an
inspection copied must not have been edited or removed since (`rosterOf_run`,
`edits_survive_inspection`).
Otherwise a write-back brings a removed host back, and it never goes away by itself.
-/

namespace MasterControl
namespace Apple

open Foundation

/-- The list, and for each inspection that is under way the copies it has not written back. -/
structure Desk where
  hosts : List AppleRemoteHost
  underWay : List (List AppleRemoteHost)

inductive Step where
  | upsertHost (host : AppleRemoteHost)
  | removeHost (hostId : Bytes)
  /-- `inspectHost` copies the record. -/
  | inspectHost (hostId : Bytes)
  /-- `selectHostForPlatform` copies the list. -/
  | selectHostForPlatform (platform : PlatformTarget)
  /-- One of the inspections that are under way has its answers and writes a copy back. -/
  | persistHost (inspection : Nat) (probe : Probe)

/-- The copy that an inspection writes back next. -/
def Desk.copy (desk : Desk) (inspection : Nat) : Option AppleRemoteHost :=
  (desk.underWay[inspection]?).bind List.head?

def Desk.writeBack (desk : Desk) (inspection : Nat) (probe : Probe) : Desk :=
  match desk.copy inspection with
  | none => desk
  | some copy =>
    { hosts := persistHost (inspectHostState probe copy) desk.hosts
      underWay := desk.underWay.modify inspection List.tail }

def Desk.step (desk : Desk) : Step → Desk
  | .upsertHost host => { desk with hosts := (upsertHost host desk.hosts).2 }
  | .removeHost hostId => { desk with hosts := (removeHost hostId desk.hosts).2 }
  | .inspectHost hostId =>
    { desk with underWay := desk.underWay ++ [(findHost hostId desk.hosts).toList] }
  | .selectHostForPlatform platform =>
    { desk with
      underWay := desk.underWay ++
        [desk.hosts.filter fun host => host.enabled && supportsPlatform host platform] }
  | .persistHost inspection probe => desk.writeBack inspection probe

/-- The list from a given start. -/
def system (start : Desk) : TransitionSystem Desk Step where
  init := start
  step := Desk.step

/-- The step sends a host under this id. -/
def Step.Upserts (hostId : Bytes) : Step → Prop
  | .upsertHost host => (normalizeHost host).hostId = hostId
  | _ => False

/-- The step sends or removes a host under this id. -/
def Step.Edits (hostId : Bytes) : Step → Prop
  | .upsertHost host => (normalizeHost host).hostId = hostId
  | .removeHost removed => trimCopy removed = hostId
  | _ => False

/-! ## The operator's view -/

/-- What an operator last sent for an id. -/
abbrev Roster : Type := Bytes → Option AppleRemoteHost

def rosterOf (hosts : List AppleRemoteHost) : Roster :=
  fun hostId => findHost hostId (hosts.map operatorSet)

/-- What a step does to the roster: an inspection does nothing. -/
def Step.edit (roster : Roster) : Step → Roster
  | .upsertHost host =>
    let normalized := normalizeHost host
    if (validateHost normalized).succeeded then
      Function.update roster normalized.hostId (some (operatorSet normalized))
    else roster
  | .removeHost hostId =>
    if trimCopy hostId = [] then roster else Function.update roster (trimCopy hostId) none
  | .inspectHost _ | .selectHostForPlatform _ | .persistHost _ _ => roster

/-- A write-back finds the record it copied, with nothing the operator sets changed, and the
inspection kept that record. -/
def Current (desk : Desk) : Step → Prop
  | .persistHost inspection probe =>
    ∀ copy, desk.copy inspection = some copy →
      rosterOf desk.hosts copy.hostId = some (operatorSet copy) ∧ probe.Keeps copy
  | _ => True

/-- The law for one step of a run, and the steps behind it: a removed host stays away until it
is sent again, a host that was sent keeps what the operator set until the next edit of it, and
an inspection changes the observed fields only. -/
def EditKept (start : Desk) (later : List Step) : Step → Prop
  | .removeHost hostId =>
    (removeHost hostId start.hosts).1.succeeded = true →
      (∀ step ∈ later, ¬ step.Upserts (trimCopy hostId)) →
        ∀ host ∈ ((system start).run start (.removeHost hostId :: later)).hosts,
          host.hostId ≠ trimCopy hostId
  | .upsertHost host =>
    (upsertHost host start.hosts).1.succeeded = true →
      (∀ step ∈ later, ¬ step.Edits (normalizeHost host).hostId) →
        rosterOf ((system start).run start (.upsertHost host :: later)).hosts
          (normalizeHost host).hostId = some (operatorSet (normalizeHost host))
  | step => (start.step step).hosts.map operatorSet = start.hosts.map operatorSet

/-! ## The list and its roster -/

theorem rosterOf_eq (hosts : List AppleRemoteHost) (hostId : Bytes) :
    rosterOf hosts hostId = (findHost hostId hosts).map operatorSet := List.find?_map ..

theorem rosterOf_eq_none_iff {hosts : List AppleRemoteHost} {hostId : Bytes} :
    rosterOf hosts hostId = none ↔ ∀ host ∈ hosts, host.hostId ≠ hostId := by
  rw [rosterOf_eq, Option.map_eq_none_iff, findHost, List.find?_eq_none]
  simp only [decide_eq_true_eq, ne_eq]

theorem rosterOf_upsertFirst (host : AppleRemoteHost) (hosts : List AppleRemoteHost) :
    rosterOf (upsertFirst (fun candidate => candidate.hostId = host.hostId) host hosts) =
      Function.update (rosterOf hosts) host.hostId (some (operatorSet host)) := by
  funext hostId
  rw [rosterOf_eq]
  by_cases hid : hostId = host.hostId
  · subst hid
    have hself : findHost host.hostId
        (upsertFirst (fun candidate => candidate.hostId = host.hostId) host hosts) = some host :=
      find?_upsertFirst_self (decide_eq_true rfl)
    rw [Function.update_self, hself, Option.map_some]
  · have hother : findHost hostId
        (upsertFirst (fun candidate => candidate.hostId = host.hostId) host hosts) =
          findHost hostId hosts := find?_upsertFirst_of_ne rfl hid
    rw [Function.update_of_ne hid, hother, rosterOf_eq]

theorem rosterOf_filter (hostId : Bytes) (hosts : List AppleRemoteHost) :
    rosterOf (hosts.filter (·.hostId ≠ hostId)) =
      Function.update (rosterOf hosts) hostId none := by
  funext other
  by_cases hid : other = hostId
  · rw [hid, Function.update_self, rosterOf_eq_none_iff]
    intro host hhost
    exact of_decide_eq_true (List.mem_filter.mp hhost).2
  · have hsame : (fun host : AppleRemoteHost =>
        decide (host.hostId ≠ hostId) && decide (host.hostId = other)) =
          fun host => decide (host.hostId = other) := by
      funext host
      by_cases hother : host.hostId = other
      · rw [hother, decide_eq_true hid, Bool.true_and]
      · rw [decide_eq_false hother, Bool.and_false]
    rw [Function.update_of_ne hid, rosterOf_eq, rosterOf_eq, findHost, findHost,
      List.find?_filter]
    simp only [Bool.decide_and, Bool.decide_eq_true, hsame]

/-- A removal edits the roster, whether or not the host was listed. -/
theorem rosterOf_removeHost (hostId : Bytes) (hosts : List AppleRemoteHost) :
    rosterOf (removeHost hostId hosts).2 = Step.edit (rosterOf hosts) (.removeHost hostId) := by
  unfold removeHost Step.edit
  dsimp only
  split_ifs with hempty habsent
  · rfl
  · have hnone : rosterOf hosts (trimCopy hostId) = none :=
      rosterOf_eq_none_iff.mpr fun host hhost =>
        of_decide_eq_true (List.all_eq_true.mp habsent host hhost)
    rw [← hnone, Function.update_eq_self]
  · exact rosterOf_filter (trimCopy hostId) hosts

theorem rosterOf_upsertHost (host : AppleRemoteHost) (hosts : List AppleRemoteHost) :
    rosterOf (upsertHost host hosts).2 = Step.edit (rosterOf hosts) (.upsertHost host) := by
  unfold upsertHost Step.edit
  dsimp only
  cases (validateHost (normalizeHost host)).succeeded with
  | false => rfl
  | true => exact rosterOf_upsertFirst (normalizeHost host) hosts

/-- **A write-back of a current copy** leaves everything the operator set. -/
theorem map_operatorSet_persistHost {copy inspected : AppleRemoteHost}
    {hosts : List AppleRemoteHost} (hcurrent : rosterOf hosts copy.hostId = some (operatorSet copy))
    (hkept : operatorSet inspected = operatorSet copy) :
    (persistHost inspected hosts).map operatorSet = hosts.map operatorSet := by
  have hid : (operatorSet inspected).hostId = (operatorSet copy).hostId := by rw [hkept]
  rw [rosterOf_eq, Option.map_eq_some_iff] at hcurrent
  obtain ⟨found, hfound, hsame⟩ := hcurrent
  have hid : inspected.hostId = copy.hostId := hid
  unfold findHost at hfound
  unfold persistHost upsertFirst
  rw [hid, if_pos (Option.isSome_iff_exists.mpr ⟨found, hfound⟩)]
  refine map_updateFirst_of_find? fun host hhost => ?_
  rw [Option.some.inj (hhost.symm.trans hfound), hkept, hsame]

/-- A write-back changes the roster exactly when the copy is not current. -/
theorem rosterOf_persistHost_iff {copy inspected : AppleRemoteHost} {hosts : List AppleRemoteHost}
    (hkept : operatorSet inspected = operatorSet copy) :
    rosterOf (persistHost inspected hosts) = rosterOf hosts ↔
      rosterOf hosts copy.hostId = some (operatorSet copy) := by
  have hid : (operatorSet inspected).hostId = (operatorSet copy).hostId := by rw [hkept]
  have hid : inspected.hostId = copy.hostId := hid
  rw [persistHost, rosterOf_upsertFirst, Function.update_eq_self_iff, hkept, hid, eq_comm]

theorem map_operatorSet_writeBack {desk : Desk} {inspection : Nat} {probe : Probe}
    (h : Current desk (.persistHost inspection probe)) :
    (desk.writeBack inspection probe).hosts.map operatorSet = desk.hosts.map operatorSet := by
  unfold Desk.writeBack
  cases hcopy : desk.copy inspection with
  | none => rfl
  | some copy =>
    obtain ⟨hcurrent, hkeeps⟩ := h copy hcopy
    exact map_operatorSet_persistHost hcurrent (operatorSet_inspectHostState hkeeps)

/-- **The list follows its roster**, step by step. -/
theorem rosterOf_step {desk : Desk} {step : Step} (h : Current desk step) :
    rosterOf (desk.step step).hosts = step.edit (rosterOf desk.hosts) := by
  cases step with
  | upsertHost host => exact rosterOf_upsertHost host desk.hosts
  | removeHost hostId => exact rosterOf_removeHost hostId desk.hosts
  | inspectHost hostId => rfl
  | selectHostForPlatform platform => rfl
  | persistHost inspection probe =>
    funext hostId
    exact congrArg (findHost hostId) (map_operatorSet_writeBack h)

/-- The roster after a run: the edits of its steps, and nothing else. -/
theorem rosterOf_run (start : Desk) {desk : Desk} {steps : List Step}
    (h : (system start).Allowed Current desk steps) :
    rosterOf ((system start).run desk steps).hosts =
      steps.foldl Step.edit (rosterOf desk.hosts) := by
  induction steps generalizing desk with
  | nil => rfl
  | cons step steps ih =>
    have hstep : rosterOf ((system start).step desk step).hosts =
        step.edit (rosterOf desk.hosts) := rosterOf_step h.1
    rw [TransitionSystem.run_cons, ih h.2, hstep, List.foldl_cons]

/-! ## Edits of a roster -/

/-- A step that does not edit a host leaves its entry. -/
theorem edit_apply_of_not_edits {step : Step} {hostId : Bytes} (h : ¬ step.Edits hostId)
    (roster : Roster) : step.edit roster hostId = roster hostId := by
  cases step with
  | upsertHost host =>
    have hid : hostId ≠ (normalizeHost host).hostId := fun heq => h heq.symm
    unfold Step.edit
    dsimp only
    split_ifs
    · rw [Function.update_of_ne hid]
    · rfl
  | removeHost removed =>
    have hid : hostId ≠ trimCopy removed := fun heq => h heq.symm
    unfold Step.edit
    dsimp only
    split_ifs
    · rfl
    · rw [Function.update_of_ne hid]
  | inspectHost inspected => rfl
  | selectHostForPlatform platform => rfl
  | persistHost inspection probe => rfl

/-- A host that nobody sends does not come back. -/
theorem edit_eq_none {step : Step} {hostId : Bytes} {roster : Roster}
    (h : ¬ step.Upserts hostId) (hnone : roster hostId = none) :
    step.edit roster hostId = none := by
  by_cases hedits : step.Edits hostId
  · cases step with
    | removeHost removed =>
      unfold Step.edit
      dsimp only
      split_ifs
      · exact hnone
      · rw [← hedits, Function.update_self]
    | upsertHost host => exact absurd hedits h
    | inspectHost inspected => exact hedits.elim
    | selectHostForPlatform platform => exact hedits.elim
    | persistHost inspection probe => exact hedits.elim
  · rw [edit_apply_of_not_edits hedits, hnone]

/-- An entry that no step edits is there in the end. -/
theorem foldl_edit_apply {steps : List Step} {hostId : Bytes}
    (h : ∀ step ∈ steps, ¬ step.Edits hostId) (roster : Roster) :
    steps.foldl Step.edit roster hostId = roster hostId := by
  induction steps generalizing roster with
  | nil => rfl
  | cons step steps ih =>
    rw [List.foldl_cons, ih fun step hstep => h step (List.mem_cons_of_mem _ hstep),
      edit_apply_of_not_edits (h step List.mem_cons_self)]

theorem foldl_edit_eq_none {steps : List Step} {hostId : Bytes} {roster : Roster}
    (h : ∀ step ∈ steps, ¬ step.Upserts hostId) (hnone : roster hostId = none) :
    steps.foldl Step.edit roster hostId = none := by
  induction steps generalizing roster with
  | nil => exact hnone
  | cons step steps ih =>
    exact ih (fun step hstep => h step (List.mem_cons_of_mem _ hstep))
      (edit_eq_none (h step List.mem_cons_self) hnone)

/-! ## Runs -/

theorem trimmed_of_removed {hostId : Bytes} {hosts : List AppleRemoteHost}
    (h : (removeHost hostId hosts).1.succeeded = true) : trimCopy hostId ≠ [] := by
  intro hempty
  rw [removeHost, if_pos hempty] at h
  exact Bool.false_ne_true h

theorem valid_of_upserted {host : AppleRemoteHost} {hosts : List AppleRemoteHost}
    (h : (upsertHost host hosts).1.succeeded = true) :
    (validateHost (normalizeHost host)).succeeded = true := by
  unfold upsertHost at h
  dsimp only at h
  cases hvalid : (validateHost (normalizeHost host)).succeeded with
  | true => rfl
  | false =>
    rw [hvalid, Bool.not_false, if_pos rfl, hvalid] at h
    exact h

/-- **Edits survive inspections** in every run whose write-backs find the record they copied. -/
theorem edits_survive_inspection (start : Desk) (step : Step) (later : List Step)
    (h : (system start).Allowed Current start (step :: later)) : EditKept start later step := by
  have hroster := rosterOf_run start h
  rw [List.foldl_cons] at hroster
  cases step with
  | removeHost hostId =>
    intro hremoved hlater
    refine rosterOf_eq_none_iff.mp ?_
    rw [hroster]
    refine foldl_edit_eq_none hlater ?_
    unfold Step.edit
    dsimp only
    rw [if_neg (trimmed_of_removed hremoved), Function.update_self]
  | upsertHost host =>
    intro hupserted hlater
    rw [hroster, foldl_edit_apply hlater]
    unfold Step.edit
    dsimp only
    rw [if_pos (valid_of_upserted hupserted), Function.update_self]
  | inspectHost hostId => exact rfl
  | selectHostForPlatform platform => exact rfl
  | persistHost inspection probe => exact map_operatorSet_writeBack h.1

/-! ## An inspection that is overtaken -/

/-- A host that is reached over ssh. -/
def macMini : AppleRemoteHost where
  hostId := asciiBytes "mac-mini"
  displayName := asciiBytes "Mac mini"
  transport := .ssh
  platforms := [.macOS]
  address := asciiBytes "mac-mini.local"

/-- The host is asked, but `ssh.exe` is missing. -/
def silentProbe : Probe where
  startedAtUtc := asciiBytes "2026-01-01T00:00:00Z"
  answeredAtUtc := asciiBytes "2026-01-01T00:00:01Z"
  sshFound := false
  runRemoteCommand _ := {}
  response := {}
  parse _ := none
  parsesFirst := true

/-- The list with one host, and an inspection of it under way. -/
def askedDesk : Desk := (system ⟨[macMini], []⟩).run ⟨[macMini], []⟩ [.inspectHost macMini.hostId]

theorem macMini_inspected :
    EditKept ⟨[macMini], [[macMini]]⟩ [.removeHost macMini.hostId]
      (.persistHost 0 silentProbe) := by
  refine edits_survive_inspection _ _ _ ⟨fun copy hcopy => ?_, trivial, trivial⟩
  obtain rfl : macMini = copy := Option.some.inj hcopy
  exact ⟨by decide, fun _ htransport => by cases htransport⟩

/-- The inspection is overtaken by the removal, and brings the host back. -/
theorem removed_host_comes_back :
    ¬ EditKept askedDesk [.persistHost 0 silentProbe] (.removeHost macMini.hostId) := by
  intro h
  refine h (by decide) (fun step hstep => ?_) (inspectHostState silentProbe macMini)
    List.mem_cons_self ?_
  · rw [List.mem_singleton.mp hstep]
    exact not_false
  · decide

end Apple
end MasterControl
