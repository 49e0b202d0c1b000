import MasterControl.Foundation.Processes
import MasterControl.Supervisor.Residue

/-!
# Restarts beside operators

`POST /api/pools/{id}/restart` is four calls of the supervisor, each under a lock of its own:
`findPool`, `removePool`, `upsertPool` with what was found, `ensureMinInstances`.  Between any two
of them other handlers may run.  `administration` is the supervisor with any number of restarts
under way, beside the supervisor that forgets an id whenever it is registered anew, and with the
definition each operator upserted last.

What is registered is what was last upserted, and the two supervisors show the same, as long as
nothing comes between a restart's calls that would change what it found, and no id is registered
anew while something of it counts (`leavesNothing_of_reachable`).
-/

namespace MasterControl
namespace Supervisor

open Foundation Relation

variable {host : Host} {s t : WorkerSupervisor} {p q : String}

/-! ## Definitions of pools -/

/-- What an operator says about a pool. -/
structure PoolDefinition where
  poolId : String
  template : EndpointTemplate
  scalePolicy : ScalePolicy
  deriving DecidableEq

def definitionOf (pool : ManagedEndpointPool) : PoolDefinition :=
  ⟨pool.poolId, pool.template, pool.scalePolicy⟩

/-- How a pool is registered. -/
def definedAs (s : WorkerSupervisor) (p : String) : Option PoolDefinition :=
  (s.pools.find? p).map definitionOf

theorem definedAs_congr (h : t.pools = s.pools) : definedAs t = definedAs s := by
  funext q
  rw [definedAs, h, definedAs]

theorem definedAs_modifyPool {f : ManagedEndpointPool → ManagedEndpointPool}
    (hf : ∀ pool, definitionOf (f pool) = definitionOf pool) :
    definedAs (modifyPool p f s) = definedAs s := by
  funext q
  rw [definedAs, definedAs, find?_modifyPool]
  split
  · rw [Option.map_map, show definitionOf ∘ f = definitionOf from funext hf]
  · rfl

/-- A new time stamp changes no definition. -/
theorem definedAs_touch (p utc : String) (s : WorkerSupervisor) :
    definedAs (modifyPool p (fun pool => { pool with updatedAtUtc := utc }) s) = definedAs s :=
  definedAs_modifyPool fun _ => rfl

theorem definedAs_map {f : String → ManagedEndpointPool → ManagedEndpointPool}
    (hf : ∀ q pool, definitionOf (f q pool) = definitionOf pool) :
    definedAs { s with pools := s.pools.map f } = definedAs s := by
  funext q
  rw [definedAs, definedAs, OrdMap.find?_map, Option.map_map]
  exact congrArg (fun g => (s.pools.find? q).map g) (funext (hf q))

theorem definedAs_removeDead (i : EndpointInstance) (code : ℕ) :
    definedAs (removeDead host p i code s) = definedAs s := by
  refine (definedAs_congr registerFailure_pools).trans ?_
  exact definedAs_modifyPool fun _ => rfl

theorem definedAs_spawnOne : definedAs (spawnOne host p s) = definedAs s := by
  unfold spawnOne
  cases s.pools.find? p with
  | none => rfl
  | some pool =>
    refine Eq.trans ?_ (definedAs_congr (startInstanceLocked_pools host s pool))
    exact definedAs_modifyPool fun _ => rfl

theorem definedAs_respawnOne : definedAs (respawnOne host p s) = definedAs s :=
  (definedAs_congr respawnOne_pools).trans definedAs_spawnOne

theorem definedAs_reapDeadInstancesLocked (h : WellFormed s) :
    definedAs (reapDeadInstancesLocked host s) = definedAs s := by
  refine reapDeadInstancesLocked_invariant (I := fun t => definedAs t = definedAs s)
    (fun t u ht htu => ?_) (fun t u ht htu => ?_) h rfl
  · cases htu with
    | intro _ _ => exact (definedAs_removeDead _ _).trans ht
  · cases htu with
    | respawn _ _ _ _ => exact definedAs_respawnOne.trans ht
    | touch => exact (definedAs_touch _ _ _).trans ht

theorem definedAs_ensureMinInstances (h : WellFormed s) :
    definedAs (ensureMinInstances host p s).2 = definedAs s := by
  cases hs : s.shuttingDown with
  | true => rw [ensureMinInstances_of_shuttingDown hs]
  | false =>
    refine invariant_of_moves (I := fun t => definedAs t = definedAs s) (fun t u ht htu => ?_)
      (ensureMinInstances_starts host p hs) (definedAs_reapDeadInstancesLocked h)
    cases htu with
    | spawn _ _ => exact definedAs_spawnOne.trans ht
    | touch => exact (definedAs_touch _ _ _).trans ht

theorem definedAs_scaleUpOnce (h : WellFormed s) :
    definedAs (scaleUpOnce host p s).2 = definedAs s := by
  have hpass : definedAs (reapDeadInstancesLocked host s) = definedAs s :=
    definedAs_reapDeadInstancesLocked h
  rcases scaleUpOnce_cases host p s with heq | heq | ⟨pool, -, -, -, heq⟩
  · rw [heq]
  · rw [heq]
    exact hpass
  · rw [heq]
    exact ((definedAs_touch _ _ _).trans definedAs_spawnOne).trans hpass

theorem definedAs_terminateInstancesLocked :
    definedAs (terminateInstancesLocked p s) = definedAs s := by
  unfold terminateInstancesLocked
  cases s.pools.find? p with
  | none => rfl
  | some pool => exact definedAs_modifyPool fun _ => rfl

/-- **Removal** takes the one definition. -/
theorem definedAs_removePool (p : String) (s : WorkerSupervisor) (q : String) :
    definedAs (removePool p s).2 q = if q = p then none else definedAs s q := by
  unfold removePool
  cases hp : s.pools.find? p with
  | none =>
    by_cases hq : q = p
    · rw [if_pos hq, hq]
      exact congrArg (Option.map definitionOf) hp
    · rw [if_neg hq]
  | some pool =>
    show ((Supervisor.terminateInstancesLocked p s).pools.erase p |>.find? q).map _ = _
    rw [OrdMap.find?_erase]
    by_cases hq : q = p
    · rw [if_pos hq, if_pos hq, Option.map_none]
    · rw [if_neg hq, if_neg hq]
      exact congrFun definedAs_terminateInstancesLocked q

theorem removePool_of_none (h : s.pools.find? p = none) : (removePool p s).2 = s := by
  rw [removePool, h]

theorem removePool_succeeded : (removePool p s).1.succeeded = (s.pools.find? p).isSome := by
  unfold removePool
  cases s.pools.find? p <;> rfl

/-- **An upsert** that is accepted replaces the one definition. -/
theorem definedAs_upsertPool {pool : ManagedEndpointPool} (h : upsertRejection pool = none)
    (q : String) : definedAs (upsertPool host pool s).2 q =
      if q = pool.poolId then some (definitionOf pool) else definedAs s q := by
  unfold upsertPool
  rw [h]
  show ((s.pools.insert pool.poolId _).find? q).map _ = _
  rw [OrdMap.find?_insert]
  by_cases hq : q = pool.poolId
  · rw [if_pos hq.symm, if_pos hq]
    cases s.pools.find? pool.poolId <;> rfl
  · rw [if_neg (Ne.symm hq), if_neg hq]
    rfl

theorem upsertPool_succeeded {pool : ManagedEndpointPool} :
    (upsertPool host pool s).1.succeeded = (upsertRejection pool).isNone := by
  unfold upsertPool
  cases upsertRejection pool <;> rfl

theorem upsertPool_of_rejected {pool : ManagedEndpointPool} {message : String}
    (h : upsertRejection pool = some message) : (upsertPool host pool s).2 = s := by
  rw [upsertPool, h]

/-- A call that neither registers nor removes. -/
def SupervisorCall.keepsDefinitions : SupervisorCall → Prop
  | .upsertPool _ | .removePool _ => False
  | _ => True

/-- **Every other call** keeps every definition. -/
theorem definedAs_perform (h : WellFormed s) {step : SupervisorStep}
    (hcall : step.call.keepsDefinitions) : definedAs (perform s step) = definedAs s := by
  obtain ⟨host, call⟩ := step
  cases call with
  | upsertPool pool => cases hcall
  | removePool p => cases hcall
  | ensureMinInstances p => exact definedAs_ensureMinInstances h
  | drainPool p =>
    show definedAs (drainPool host p s).2 = _
    unfold drainPool
    cases s.pools.find? p with
    | none => rfl
    | some pool => exact definedAs_modifyPool fun _ => rfl
  | scaleUpOnce p => exact definedAs_scaleUpOnce h
  | findPool p => exact definedAs_reapDeadInstancesLocked h
  | listPools => exact definedAs_reapDeadInstancesLocked h
  | shutdownAll =>
    exact invariant_foldl (I := fun t => definedAs t = definedAs s)
      (fun _ _ ht => definedAs_terminateInstancesLocked.trans ht) _ rfl
  | watchdogReap => exact definedAs_reapDeadInstancesLocked h
  | pruneCrashWindows => rfl
  | stdinWriteFailed instanceId =>
    refine definedAs_map (s := s) fun q pool => ?_
    split <;> rfl
  | handshakeConfirmed instanceId => exact definedAs_map (s := s) fun _ _ => rfl
  | drainSupervisorEvents => rfl

theorem validPool_not_rejected {pool : ManagedEndpointPool} (h : ValidPool pool) :
    upsertRejection pool = none := by
  have hne : pool.poolId ≠ "" := by
    intro heq
    have hsafe := h.safe
    rw [heq] at hsafe
    exact absurd hsafe (by decide)
  have hmin := h.min_nonneg
  have hmax := h.one_le_max
  have hle := h.min_le_max
  rw [upsertRejection, if_neg hne, h.safe, if_neg (by decide), if_neg (by omega),
    if_neg (by omega), if_neg (by omega)]

/-! ## Restarts under way -/

/-- How far a restart has come. -/
inductive RestartPhase where
  /-- `findPool` has answered. -/
  | found (pool : ManagedEndpointPool)
  /-- `removePool` has succeeded. -/
  | removed (pool : ManagedEndpointPool)
  /-- `upsertPool` has succeeded. -/
  | registered (poolId : String)
  /-- The request is answered. -/
  | returned (result : OperationResult)
  deriving DecidableEq

/-- The supervisor call a restart makes next. -/
def RestartPhase.nextCall : RestartPhase → Option SupervisorCall
  | .found pool => some (.removePool pool.poolId)
  | .removed pool => some (.upsertPool pool)
  | .registered poolId => some (.ensureMinInstances poolId)
  | .returned _ => none

/-- Where the restart stands after that call, which finds the supervisor in state `s`. -/
def RestartPhase.next (host : Host) (s : WorkerSupervisor) : RestartPhase → RestartPhase
  | .found pool =>
    let removeResult := (removePool pool.poolId s).1
    if removeResult.succeeded then .removed pool else .returned removeResult
  | .removed pool =>
    let upsertResult := (upsertPool host pool s).1
    if upsertResult.succeeded then .registered pool.poolId else .returned upsertResult
  | .registered poolId =>
    .returned ⟨true, false, "Pool restarted (removed + re-registered + scaled to minInstances): "
      ++ (ensureMinInstances host poolId s).1.message⟩
  | .returned result => .returned result

/-- The first call of a restart: the pool as it is now, without its instances and times. -/
def startRestart (host : Host) (poolId : String) (s : WorkerSupervisor) : RestartPhase :=
  match (findPool host poolId s).1 with
  | none => .returned ⟨false, false, "Cannot restart unknown pool '" ++ poolId ++ "'."⟩
  | some snapshot =>
    .found { snapshot with instances := [], createdAtUtc := "", updatedAtUtc := "" }

/-- The pool a restart has found and not yet registered again. -/
def RestartPhase.pending : RestartPhase → Option ManagedEndpointPool
  | .found pool | .removed pool => some pool
  | .registered _ | .returned _ => none

/-- Whether a restart has removed this pool and not yet registered it again. -/
def RestartPhase.lacks (p : String) : RestartPhase → Bool
  | .removed pool => pool.poolId = p
  | _ => false

/-- What each operator upserted last, after one more call of an operator. -/
def recordUpsert (host : Host) (s : WorkerSupervisor) (call : SupervisorCall)
    (lastUpserted : String → Option PoolDefinition) : String → Option PoolDefinition :=
  match call with
  | .upsertPool pool =>
    if (upsertPool host pool s).1.succeeded then
      fun q => if q = pool.poolId then some (definitionOf pool) else lastUpserted q
    else lastUpserted
  | .removePool p =>
    if (removePool p s).1.succeeded then fun q => if q = p then none else lastUpserted q
    else lastUpserted
  | _ => lastUpserted

/-- The supervisor and the restarts under way, beside the supervisor that forgets. -/
structure PoolAdministration where
  supervisor : WorkerSupervisor := {}
  fresh : WorkerSupervisor := {}
  clock : TimePoint
  restarts : List RestartPhase := []
  lastUpserted : String → Option PoolDefinition := fun _ => none

/-- One locked section. -/
inductive AdministrationStep where
  /-- A call that belongs to no restart. -/
  | call (step : SupervisorStep)
  | restart (host : Host) (poolId : String)
  /-- A restart goes on. -/
  | proceed (host : Host) (i : ℕ)

def PoolAdministration.locked (o : PoolAdministration) (step : SupervisorStep) :
    PoolAdministration :=
  { o with supervisor := perform o.supervisor step, fresh := performFresh o.fresh step,
           clock := step.host.steadyNow }

def administer (o : PoolAdministration) : AdministrationStep → PoolAdministration
  | .call step =>
    { o.locked step with
      lastUpserted := recordUpsert step.host o.supervisor step.call o.lastUpserted }
  | .restart host poolId =>
    { o.locked ⟨host, .findPool poolId⟩ with
      restarts := o.restarts ++ [startRestart host poolId o.supervisor] }
  | .proceed host i =>
    match o.restarts[i]? with
    | none => o
    | some phase =>
      match phase.nextCall with
      | none => o
      | some call =>
        { o.locked ⟨host, call⟩ with restarts := o.restarts.set i (phase.next host o.supervisor) }

/-- The supervisor from its construction at a given time on. -/
def administration (start : TimePoint) :
    TransitionSystem PoolAdministration AdministrationStep where
  init := { clock := start }
  step := administer

/-! ## Runs in which nothing comes between -/

/-- The supervisor call of a step. -/
def PoolAdministration.callOf (o : PoolAdministration) :
    AdministrationStep → Option SupervisorStep
  | .call step => some step
  | .restart host poolId => some ⟨host, .findPool poolId⟩
  | .proceed host i => (o.restarts[i]?.bind RestartPhase.nextCall).map (SupervisorStep.mk host)

/-- The pool that an operator upserts, with no restart. -/
def AdministrationStep.operatorUpsert : AdministrationStep → Option ManagedEndpointPool
  | .call step => step.call.upserted
  | _ => none

/-- The pool that an operator removes, with no restart. -/
def AdministrationStep.operatorRemoval : AdministrationStep → Option String
  | .call ⟨_, .removePool p⟩ => some p
  | _ => none

/-- `steady_clock` does not go back. -/
def TimeAdvances (o : PoolAdministration) (a : AdministrationStep) : Prop :=
  ∀ step ∈ o.callOf a, o.clock ≤ step.host.steadyNow

/-- No id is registered anew while something of it counts. -/
def RegistersCleanly (o : PoolAdministration) (a : AdministrationStep) : Prop :=
  ∀ step ∈ o.callOf a, RegistersClean o.supervisor step

/-- No operator redefines a pool between a restart's `findPool` and its `upsertPool`. -/
def NoRedefinition (o : PoolAdministration) (a : AdministrationStep) : Prop :=
  ∀ pool ∈ a.operatorUpsert, upsertRejection pool = none →
    ∀ phase ∈ o.restarts, ∀ found ∈ phase.pending,
      found.poolId = pool.poolId → definitionOf found = definitionOf pool

/-- No operator removes a registered pool between a restart's `removePool` and its
`upsertPool`. -/
def NoRemoval (o : PoolAdministration) (a : AdministrationStep) : Prop :=
  ∀ p ∈ a.operatorRemoval, (o.supervisor.pools.find? p).isSome = true →
    ∀ phase ∈ o.restarts, phase.lacks p = false

structure Undisturbed (o : PoolAdministration) (a : AdministrationStep) : Prop where
  time : TimeAdvances o a
  clean : RegistersCleanly o a
  noRedefinition : NoRedefinition o a
  noRemoval : NoRemoval o a

instance (o : PoolAdministration) (a : AdministrationStep) : Decidable (TimeAdvances o a) :=
  inferInstanceAs (Decidable (∀ step ∈ o.callOf a, (o.clock : Int) ≤ step.host.steadyNow))

instance (s : WorkerSupervisor) (step : SupervisorStep) : Decidable (RegistersClean s step) :=
  inferInstanceAs (Decidable (∀ pool ∈ step.call.upserted, upsertRejection pool = none →
    (s.pools.find? pool.poolId).isNone = true → NoResidue step.host.steadyNow s pool.poolId))

instance (o : PoolAdministration) (a : AdministrationStep) : Decidable (Undisturbed o a) :=
  have : Decidable (RegistersCleanly o a) :=
    inferInstanceAs (Decidable (∀ step ∈ o.callOf a, RegistersClean o.supervisor step))
  have : Decidable (NoRedefinition o a) :=
    inferInstanceAs (Decidable (∀ pool ∈ a.operatorUpsert, upsertRejection pool = none →
      ∀ phase ∈ o.restarts, ∀ found ∈ phase.pending,
        found.poolId = pool.poolId → definitionOf found = definitionOf pool))
  have : Decidable (NoRemoval o a) :=
    inferInstanceAs (Decidable (∀ p ∈ a.operatorRemoval,
      (o.supervisor.pools.find? p).isSome = true → ∀ phase ∈ o.restarts, phase.lacks p = false))
  decidable_of_iff (TimeAdvances o a ∧ RegistersCleanly o a ∧ NoRedefinition o a ∧ NoRemoval o a)
    ⟨fun h => ⟨h.1, h.2.1, h.2.2.1, h.2.2.2⟩,
      fun h => ⟨h.time, h.clean, h.noRedefinition, h.noRemoval⟩⟩

/-- What removal and restart are for: both supervisors show the same of every pool at any later
time, list the same workers and log the same events; and except for what a restart has removed
and not yet registered again, a pool is registered as it was last upserted. -/
structure LeavesNothing (o : PoolAdministration) : Prop where
  asFresh : ∀ host : Host, o.clock ≤ host.steadyNow →
    ∀ p, poolView host p o.supervisor = poolView host p o.fresh
  children : o.supervisor.children = o.fresh.children
  events : o.supervisor.deathLog = o.fresh.deathLog ∧
    o.supervisor.respawnLog = o.fresh.respawnLog ∧
    o.supervisor.quarantineLog = o.fresh.quarantineLog
  registered : ∀ p, (∀ phase ∈ o.restarts, phase.lacks p = false) →
    definedAs o.supervisor p = o.lastUpserted p

/-- What stands between a restart's calls. -/
structure RestartKept (last : String → Option PoolDefinition) (phase : RestartPhase) : Prop where
  valid : ∀ pool ∈ phase.pending, upsertRejection pool = none
  current : ∀ pool ∈ phase.pending, ∀ d ∈ last pool.poolId, definitionOf pool = d
  owed : ∀ pool, phase = .removed pool → (last pool.poolId).isSome = true

/-- The definitions, what was last upserted, and the restarts under way agree. -/
structure Ledger (defs last : String → Option PoolDefinition) (restarts : List RestartPhase) :
    Prop where
  known : ∀ p d, defs p = some d → last p = some d
  lacking : ∀ p, defs p = none → last p ≠ none → ∃ phase ∈ restarts, phase.lacks p = true
  restarts : ∀ phase ∈ restarts, RestartKept last phase

section Ledgers

variable {defs last : String → Option PoolDefinition} {restarts : List RestartPhase}
  {pool : ManagedEndpointPool} {phase phase' : RestartPhase} {i : ℕ}

theorem restartKept_of_pending_eq_none (h : phase.pending = none) : RestartKept last phase where
  valid pool hp := by rw [h] at hp; cases hp
  current pool hp := by rw [h] at hp; cases hp
  owed pool hp := by rw [hp] at h; cases h

namespace Ledger

/-- An operator upserts what every restart under way has found. -/
theorem upserted (h : Ledger defs last restarts)
    (hsame : ∀ phase ∈ restarts, ∀ found ∈ phase.pending,
      found.poolId = pool.poolId → definitionOf found = definitionOf pool) :
    Ledger (fun q => if q = pool.poolId then some (definitionOf pool) else defs q)
      (fun q => if q = pool.poolId then some (definitionOf pool) else last q) restarts where
  known p d hp := by
    by_cases hpool : p = pool.poolId
    · simpa only [if_pos hpool] using hp
    · rw [if_neg hpool] at hp ⊢
      exact h.known p d hp
  lacking p hp hlast := by
    by_cases hpool : p = pool.poolId
    · rw [if_pos hpool] at hp
      cases hp
    · rw [if_neg hpool] at hp hlast
      exact h.lacking p hp hlast
  restarts phase hphase := by
    have hkept := h.restarts phase hphase
    refine ⟨hkept.valid, fun found hfound d hd => ?_, fun found hfound => ?_⟩
    · by_cases hpool : found.poolId = pool.poolId
      · rw [if_pos hpool] at hd
        exact (hsame phase hphase found hfound hpool).trans (Option.some.inj hd)
      · rw [if_neg hpool] at hd
        exact hkept.current found hfound d hd
    · split
      · rfl
      · exact hkept.owed found hfound

/-- An operator removes what no restart has removed. -/
theorem erased (h : Ledger defs last restarts)
    (hnone : ∀ phase ∈ restarts, phase.lacks p = false) :
    Ledger (fun q => if q = p then none else defs q) (fun q => if q = p then none else last q)
      restarts where
  known q d hq := by
    by_cases hpq : q = p
    · rw [if_pos hpq] at hq
      cases hq
    · rw [if_neg hpq] at hq ⊢
      exact h.known q d hq
  lacking q hq hlast := by
    by_cases hpq : q = p
    · exact absurd (if_pos hpq) hlast
    · rw [if_neg hpq] at hq hlast
      exact h.lacking q hq hlast
  restarts phase hphase := by
    have hkept := h.restarts phase hphase
    refine ⟨hkept.valid, fun found hfound d hd => ?_, fun found hfound => ?_⟩
    · split at hd
      · cases hd
      · exact hkept.current found hfound d hd
    · have hne : found.poolId ≠ p := by
        intro heq
        have hlacks := hnone phase hphase
        rw [hfound, RestartPhase.lacks, heq] at hlacks
        exact absurd hlacks (by simp)
      rw [if_neg hne]
      exact hkept.owed found hfound

/-- One more restart. -/
theorem append (h : Ledger defs last restarts) (hkept : RestartKept last phase) :
    Ledger defs last (restarts ++ [phase]) where
  known := h.known
  lacking p hp hlast := by
    obtain ⟨other, hother, hlacks⟩ := h.lacking p hp hlast
    exact ⟨other, List.mem_append_left _ hother, hlacks⟩
  restarts other hother := by
    rcases List.mem_append.mp hother with hold | hnew
    · exact h.restarts other hold
    · rw [List.mem_singleton.mp hnew]
      exact hkept

/-- A restart goes on, and lacks nothing that is not registered by now. -/
theorem set (h : Ledger defs last restarts) (hi : restarts[i]? = some phase)
    (hkept : RestartKept last phase')
    (hlacks : ∀ p, phase.lacks p = true → defs p = none → last p = none) :
    Ledger defs last (restarts.set i phase') where
  known := h.known
  lacking p hp hlast := by
    obtain ⟨other, hother, hlacks'⟩ := h.lacking p hp hlast
    rcases mem_set_or_eq hi hother with hmem | rfl
    · exact ⟨other, hmem, hlacks'⟩
    · exact absurd (hlacks p hlacks' hp) hlast
  restarts other hother := by
    rcases List.mem_or_eq_of_mem_set hother with hold | rfl
    · exact h.restarts other hold
    · exact hkept

/-- A restart removes the pool it has found. -/
theorem removedByRestart (h : Ledger defs last restarts) (hi : restarts[i]? = some (.found pool))
    (hreg : defs pool.poolId ≠ none) :
    Ledger (fun q => if q = pool.poolId then none else defs q) last
      (restarts.set i (.removed pool)) := by
  have hi' : i < restarts.length := (List.getElem?_eq_some_iff.mp hi).1
  have hkept := h.restarts _ (List.mem_of_getElem? hi)
  refine ⟨fun q d hq => ?_, fun q hq hlast => ?_, fun other hother => ?_⟩
  · split at hq
    · cases hq
    · exact h.known q d hq
  · by_cases hpool : q = pool.poolId
    · exact ⟨.removed pool, List.mem_set hi' _, decide_eq_true hpool.symm⟩
    · rw [if_neg hpool] at hq
      obtain ⟨other, hother, hlacks⟩ := h.lacking q hq hlast
      rcases mem_set_or_eq hi hother with hmem | rfl
      · exact ⟨other, hmem, hlacks⟩
      · cases hlacks
  · rcases List.mem_or_eq_of_mem_set hother with hold | rfl
    · exact h.restarts other hold
    · refine ⟨hkept.valid, hkept.current, fun found hfound => ?_⟩
      cases hfound
      obtain ⟨d, hd⟩ := Option.ne_none_iff_exists'.mp hreg
      rw [h.known _ d hd, Option.isSome_some]

/-- A restart registers the pool it has removed. -/
theorem registeredByRestart (h : Ledger defs last restarts)
    (hi : restarts[i]? = some (.removed pool)) :
    Ledger (fun q => if q = pool.poolId then some (definitionOf pool) else defs q) last
      (restarts.set i (.registered pool.poolId)) := by
  have hkept := h.restarts _ (List.mem_of_getElem? hi)
  have howed : last pool.poolId = some (definitionOf pool) := by
    obtain ⟨d, hd⟩ := Option.isSome_iff_exists.mp (hkept.owed pool rfl)
    rw [hd, hkept.current pool rfl d hd]
  refine ⟨fun q d hq => ?_, fun q hq hlast => ?_, fun other hother => ?_⟩
  · by_cases hpool : q = pool.poolId
    · rw [if_pos hpool] at hq
      rw [hpool, howed, hq]
    · rw [if_neg hpool] at hq
      exact h.known q d hq
  · by_cases hpool : q = pool.poolId
    · rw [if_pos hpool] at hq
      cases hq
    · rw [if_neg hpool] at hq
      obtain ⟨other, hother, hlacks⟩ := h.lacking q hq hlast
      rcases mem_set_or_eq hi hother with hmem | rfl
      · exact ⟨other, hmem, hlacks⟩
      · exact absurd (of_decide_eq_true hlacks).symm hpool
  · rcases List.mem_or_eq_of_mem_set hother with hold | rfl
    · exact h.restarts other hold
    · exact restartKept_of_pending_eq_none rfl

end Ledger

end Ledgers

/-! ## Every step of administration -/

/-- The invariant of administration. -/
structure Administered (o : PoolAdministration) : Prop where
  wellFormed : WellFormed o.supervisor
  alike : Alike o.clock o.supervisor o.fresh
  ledger : Ledger (definedAs o.supervisor) o.lastUpserted o.restarts

namespace Administered

variable {o : PoolAdministration}

/-- What one locked section does to the two supervisors. -/
theorem locked (h : Administered o) {step : SupervisorStep}
    (htime : o.clock ≤ step.host.steadyNow) (hclean : RegistersClean o.supervisor step) :
    WellFormed (o.locked step).supervisor ∧
      Alike (o.locked step).clock (o.locked step).supervisor (o.locked step).fresh :=
  ⟨h.wellFormed.perform step, (h.alike.later htime).perform hclean⟩

/-- A call that belongs to no restart. -/
theorem call (h : Administered o) {step : SupervisorStep}
    (hstep : Undisturbed o (.call step)) : Administered (administer o (.call step)) := by
  obtain ⟨hwf, halike⟩ := h.locked (hstep.time step rfl) (hstep.clean step rfl)
  refine ⟨hwf, halike, ?_⟩
  show Ledger (definedAs (perform o.supervisor step))
    (recordUpsert step.host o.supervisor step.call o.lastUpserted) o.restarts
  obtain ⟨host, call⟩ := step
  have hother : call.keepsDefinitions →
      Ledger (definedAs (perform o.supervisor ⟨host, call⟩)) o.lastUpserted o.restarts := by
    intro hcall
    rw [definedAs_perform h.wellFormed hcall]
    exact h.ledger
  cases call with
  | upsertPool pool =>
    show Ledger (definedAs (upsertPool host pool o.supervisor).2) _ _
    cases haccepted : upsertRejection pool with
    | some message =>
      rw [upsertPool_of_rejected haccepted, recordUpsert, upsertPool_succeeded, haccepted,
        Option.isNone_some, if_neg Bool.false_ne_true]
      exact h.ledger
    | none =>
      rw [show definedAs (upsertPool host pool o.supervisor).2 = _ from
        funext (definedAs_upsertPool haccepted)]
      rw [recordUpsert, upsertPool_succeeded, haccepted, Option.isNone_none, if_pos rfl]
      exact h.ledger.upserted (hstep.noRedefinition pool rfl haccepted)
  | removePool p =>
    show Ledger (definedAs (removePool p o.supervisor).2) _ _
    rw [recordUpsert, removePool_succeeded]
    cases hp : o.supervisor.pools.find? p with
    | none =>
      rw [removePool_of_none hp, Option.isSome_none, if_neg Bool.false_ne_true]
      exact h.ledger
    | some pool =>
      rw [show definedAs (removePool p o.supervisor).2 = _ from
        funext (definedAs_removePool p o.supervisor)]
      exact h.ledger.erased (hstep.noRemoval p rfl (by rw [hp, Option.isSome_some]))
  | _ => exact hother trivial

/-- A restart begins: it finds what is registered. -/
theorem restart (h : Administered o) {poolId : String}
    (hstep : Undisturbed o (.restart host poolId)) :
    Administered (administer o (.restart host poolId)) := by
  obtain ⟨hwf, halike⟩ := h.locked (hstep.time _ rfl) (hstep.clean _ rfl)
  refine ⟨hwf, halike, ?_⟩
  have hdefs : definedAs (reapDeadInstancesLocked host o.supervisor) = definedAs o.supervisor :=
    definedAs_reapDeadInstancesLocked h.wellFormed
  show Ledger (definedAs (reapDeadInstancesLocked host o.supervisor)) o.lastUpserted
    (o.restarts ++ [startRestart host poolId o.supervisor])
  rw [hdefs]
  refine h.ledger.append ?_
  unfold startRestart findPool
  dsimp only
  cases hp : (reapDeadInstancesLocked host o.supervisor).pools.find? poolId with
  | none => exact restartKept_of_pending_eq_none rfl
  | some pool =>
    obtain ⟨hid, hvalid⟩ := (h.wellFormed.reapDeadInstancesLocked).registered hp
    have hdef : o.lastUpserted poolId = some (definitionOf pool) := by
      refine h.ledger.known poolId _ ?_
      rw [← hdefs, definedAs, hp, Option.map_some]
    refine ⟨fun found hfound => ?_, fun found hfound d hd => ?_, fun found hfound => ?_⟩
    · cases hfound
      exact validPool_not_rejected ⟨hvalid.safe, hvalid.min_nonneg, hvalid.one_le_max,
        hvalid.min_le_max⟩
    · cases hfound
      have hlast : o.lastUpserted pool.poolId = some d := hd
      rw [hid, hdef] at hlast
      exact Option.some.inj hlast
    · cases hfound

/-- A restart goes on. -/
theorem proceed (h : Administered o) {i : ℕ} (hstep : Undisturbed o (.proceed host i)) :
    Administered (administer o (.proceed host i)) := by
  cases hi : o.restarts[i]? with
  | none => simpa only [administer, hi] using h
  | some phase =>
    have hcall : ∀ call, phase.nextCall = some call →
        WellFormed (o.locked ⟨host, call⟩).supervisor ∧ Alike (o.locked ⟨host, call⟩).clock
          (o.locked ⟨host, call⟩).supervisor (o.locked ⟨host, call⟩).fresh := by
      intro call hcall
      have hmem : (⟨host, call⟩ : SupervisorStep) ∈ o.callOf (.proceed host i) := by
        rw [PoolAdministration.callOf, hi, Option.bind_some, hcall]
        rfl
      exact h.locked (hstep.time _ hmem) (hstep.clean _ hmem)
    have hkept := h.ledger.restarts _ (List.mem_of_getElem? hi)
    cases phase with
    | returned result =>
      rw [administer, hi]
      exact h
    | found pool =>
      obtain ⟨hwf, halike⟩ := hcall _ rfl
      rw [administer, hi]
      refine ⟨hwf, halike, ?_⟩
      show Ledger (definedAs (removePool pool.poolId o.supervisor).2) o.lastUpserted
        (o.restarts.set i ((RestartPhase.found pool).next host o.supervisor))
      rw [RestartPhase.next, removePool_succeeded]
      cases hp : o.supervisor.pools.find? pool.poolId with
      | none =>
        rw [removePool_of_none hp, Option.isSome_none, if_neg Bool.false_ne_true]
        exact h.ledger.set hi (restartKept_of_pending_eq_none rfl) fun _ hlacks => by cases hlacks
      | some known =>
        rw [show definedAs (removePool pool.poolId o.supervisor).2 = _ from
          funext (definedAs_removePool pool.poolId o.supervisor), Option.isSome_some, if_pos rfl]
        refine h.ledger.removedByRestart hi ?_
        rw [definedAs, hp]
        exact Option.some_ne_none _
    | removed pool =>
      obtain ⟨hwf, halike⟩ := hcall _ rfl
      have haccepted := hkept.valid pool rfl
      rw [administer, hi]
      refine ⟨hwf, halike, ?_⟩
      show Ledger (definedAs (upsertPool host pool o.supervisor).2) o.lastUpserted
        (o.restarts.set i ((RestartPhase.removed pool).next host o.supervisor))
      rw [show definedAs (upsertPool host pool o.supervisor).2 = _ from
        funext (definedAs_upsertPool haccepted)]
      rw [RestartPhase.next, upsertPool_succeeded, haccepted, Option.isNone_none, if_pos rfl]
      exact h.ledger.registeredByRestart hi
    | registered poolId =>
      obtain ⟨hwf, halike⟩ := hcall _ rfl
      rw [administer, hi]
      refine ⟨hwf, halike, ?_⟩
      show Ledger (definedAs (ensureMinInstances host poolId o.supervisor).2) o.lastUpserted
        (o.restarts.set i ((RestartPhase.registered poolId).next host o.supervisor))
      rw [definedAs_ensureMinInstances h.wellFormed]
      exact h.ledger.set hi (restartKept_of_pending_eq_none rfl) fun _ hlacks => by cases hlacks

/-- **Every undisturbed step keeps the invariant.** -/
theorem administer (h : Administered o) {a : AdministrationStep} (ha : Undisturbed o a) :
    Administered (administer o a) := by
  cases a with
  | call step => exact h.call ha
  | restart host poolId => exact h.restart ha
  | proceed host i => exact h.proceed ha

theorem leavesNothing (h : Administered o) : LeavesNothing o where
  asFresh host hnow p := ((h.alike.later hnow).poolView h.wellFormed p).symm
  children := h.alike.children.symm
  events := by
    rw [h.alike.same]
    exact ⟨rfl, rfl, rfl⟩
  registered p hp := by
    cases hdef : definedAs o.supervisor p with
    | some d => exact (h.ledger.known p d hdef).symm
    | none =>
      by_contra hne
      obtain ⟨phase, hphase, hlacks⟩ := h.ledger.lacking p hdef (Ne.symm hne)
      rw [hp phase hphase] at hlacks
      cases hlacks

end Administered

/-- The working machine two minutes later. -/
def laterHost : Host := { workingHost with steadyNow := seconds 120 }

/-- The five workers of a pool died, and the pool was removed. -/
def crashedAndRemoved : List AdministrationStep :=
  [.call ⟨workingHost, .upsertPool crashingPool⟩, .call ⟨workingHost, .watchdogReap⟩,
   .call ⟨crashedHost, .watchdogReap⟩, .call ⟨crashedHost, .removePool "p"⟩]

/-- The pool is registered again two minutes later, and restarted. -/
def registeredLater : List AdministrationStep :=
  [.call ⟨laterHost, .upsertPool crashingPool⟩, .restart laterHost "p", .proceed laterHost 0,
   .proceed laterHost 0, .proceed laterHost 0]

/-- What those calls leave. -/
def restartedPool : PoolAdministration :=
  (administration 0).run (administration 0).init (crashedAndRemoved ++ registeredLater)

/-- The pool is registered again at once. -/
def registeredAtOnce : PoolAdministration :=
  (administration 0).run (administration 0).init
    (crashedAndRemoved ++ [.call ⟨crashedHost, .upsertPool crashingPool⟩])

/-- An operator redefines the pool after a restart has found it. -/
def redefinedMeanwhile : PoolAdministration :=
  (administration 0).run (administration 0).init
    [.call ⟨workingHost, .upsertPool crashingPool⟩, .restart workingHost "p",
     .call ⟨workingHost, .upsertPool singlePool⟩, .proceed workingHost 0,
     .proceed workingHost 0, .proceed workingHost 0]

end Supervisor
end MasterControl
