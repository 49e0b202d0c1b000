import MasterControl.Supervisor.Capacity

/-!
# How long a pool's instance table gets

`startInstanceLocked` returns an instance in state Failed when a launch fails, and its
callers append it all the same.  Such an instance is not healthy, so the next pass over
a pool below its floor starts another one; and it has no child and is not supervised,
so no pass takes it away.

* Where no launch fails, every listed instance has its child record (`AllLive`), so the
  table is as long as the pool has live workers and the process bound applies to it
  (`instances_length_le_maxInstances`).
* Where launches fail, each turn of the watchdog makes the table longer by one
  (`Starved.pass`), and no bound holds over all runs (`no_instances_length_bound`).
-/

namespace MasterControl
namespace Supervisor

open Foundation Relation

variable {host : Host} {s t : WorkerSupervisor} {p q : String}

/-! ## Tables without failed launches -/

/-- Every listed instance has a child record. -/
def AllLive (s : WorkerSupervisor) : Prop :=
  ∀ p i, i ∈ instancesOf s p → hasChild s i = true

/-- No launch of a registered pool's template fails on this machine. -/
def LaunchesWork (host : Host) (s : WorkerSupervisor) : Prop :=
  ∀ p pool, s.pools.find? p = some pool →
    ∀ serial, launchSucceeds (host.launch serial) pool.template = true

/-- A table of live instances is as long as the pool has live workers. -/
theorem AllLive.length_eq (hlive : AllLive s) (h : WellFormed s) (p : String) :
    (instancesOf s p).length = liveWorkers s p := by
  rw [h.liveWorkers_eq_listed]
  exact (List.countP_eq_length.mpr fun i hi => hlive p i hi).symm

theorem AllLive.shrink (hlive : AllLive s) (hs : Shrinks s t) : AllLive t := by
  intro p i hi
  have hi' := hi
  obtain ⟨l, g, hsub, heq, hg⟩ := hs.tables p
  rw [heq] at hi'
  obtain ⟨j, hj, rfl⟩ := List.mem_map.mp hi'
  have hold : hasChild s (g j) = true := by
    rw [hasChild, (hg j).1]
    exact hlive p j (hsub.subset hj)
  exact hs.kept hi hold

/-- A start whose launch succeeds adds a live instance. -/
theorem AllLive.spawnOne (hlive : AllLive s) (h : WellFormed s)
    {pool : ManagedEndpointPool} (hp : s.pools.find? p = some pool)
    (hlaunch : launchSucceeds (host.launch s.nextInstanceSerial) pool.template = true) :
    AllLive (spawnOne host p s) := by
  intro q i hi
  rw [h.hasChild_spawnOne hp, hlaunch, Bool.true_and, Bool.or_eq_true]
  have hold : i ∈ instancesOf s q → hasChild s i = true := hlive q i
  rw [instancesOf_spawnOne hp] at hi
  split_ifs at hi
  · rcases List.mem_append.mp hi with hi | hi
    · exact Or.inl (hold hi)
    · right
      rw [List.mem_singleton.mp hi, startInstanceLocked_instanceId, (h.registered hp).1]
      exact decide_eq_true rfl
  · exact Or.inl (hold hi)

/-- What the moves of the supervisor do to the registered templates: nothing. -/
def SameTemplates (s t : WorkerSupervisor) : Prop :=
  ∀ p pool', t.pools.find? p = some pool' →
    ∃ pool, s.pools.find? p = some pool ∧ pool'.template = pool.template

theorem LaunchesWork.of_sameTemplates (h : LaunchesWork host s) (hst : SameTemplates s t) :
    LaunchesWork host t := by
  intro p pool' hp serial
  obtain ⟨pool, hpool, htemplate⟩ := hst p pool' hp
  rw [htemplate]
  exact h p pool hpool serial

theorem sameTemplates_modifyPool {f : ManagedEndpointPool → ManagedEndpointPool}
    (hf : ∀ pool, (f pool).template = pool.template) : SameTemplates s (modifyPool p f s) := by
  intro q pool' hq
  rw [find?_modifyPool] at hq
  split_ifs at hq
  · obtain ⟨pool, hpool, rfl⟩ := Option.map_eq_some_iff.mp hq
    exact ⟨pool, hpool, hf pool⟩
  · exact ⟨pool', hq, rfl⟩

theorem sameTemplates_removeDead (i : EndpointInstance) (code : ℕ) :
    SameTemplates s (removeDead host p i code s) := by
  intro q pool' hq
  rw [find?_removeDead] at hq
  split_ifs at hq
  · obtain ⟨pool, hpool, rfl⟩ := Option.map_eq_some_iff.mp hq
    exact ⟨pool, hpool, rfl⟩
  · exact ⟨pool', hq, rfl⟩

theorem sameTemplates_spawnOne {pool : ManagedEndpointPool}
    (hp : s.pools.find? p = some pool) : SameTemplates s (spawnOne host p s) := by
  intro q pool' hq
  rw [find?_spawnOne hp] at hq
  split_ifs at hq with hpq
  · cases hq
    exact ⟨pool, hpq ▸ hp, rfl⟩
  · exact ⟨pool', hq, rfl⟩

/-- **The pass keeps every instance live**, if its launches work. -/
theorem AllLive.reapDeadInstancesLocked (hlive : AllLive s) (h : WellFormed s)
    (hlaunch : LaunchesWork host s) :
    AllLive (reapDeadInstancesLocked host s) ∧
      LaunchesWork host (reapDeadInstancesLocked host s) := by
  refine (reapDeadInstancesLocked_invariant
    (I := fun t => WellFormed t ∧ AllLive t ∧ LaunchesWork host t)
    (fun t u ht htu => ?_) (fun t u ht htu => ?_) h ⟨h, hlive, hlaunch⟩).2
  · obtain ⟨hwf, hlive, hlaunch⟩ := ht
    refine ⟨hwf.death htu, ?_⟩
    cases htu with
    | @intro p i code hi _ =>
      exact ⟨hlive.shrink (hwf.restricts_removeDead hi).toShrinks,
        hlaunch.of_sameTemplates (sameTemplates_removeDead i code)⟩
  · obtain ⟨hwf, hlive, hlaunch⟩ := ht
    refine ⟨hwf.refill htu, ?_⟩
    cases htu with
    | @respawn p pool hp _ _ _ =>
      have hspawned := hlive.spawnOne hwf hp (hlaunch p pool hp _)
      have hsame : SameTemplates t (Supervisor.spawnOne host p t) :=
        sameTemplates_spawnOne hp
      have hsame := hlaunch.of_sameTemplates hsame
      refine ⟨hspawned.shrink (restricts_of_eq respawnOne_pools respawnOne_children
        respawnOne_nextInstanceSerial).toShrinks, ?_⟩
      intro q pool' hq
      rw [respawnOne_pools] at hq
      exact hsame q pool' hq
    | touch =>
      exact ⟨hlive.shrink (restricts_touch _ _ _).toShrinks,
        hlaunch.of_sameTemplates (sameTemplates_modifyPool fun _ => rfl)⟩

theorem AllLive.ensureMinInstances (hlive : AllLive s) (h : WellFormed s)
    (hlaunch : LaunchesWork host s) : AllLive (ensureMinInstances host p s).2 := by
  cases hs : s.shuttingDown with
  | true => rwa [ensureMinInstances_of_shuttingDown hs]
  | false =>
    have hpass := hlive.reapDeadInstancesLocked h hlaunch
    refine (invariant_of_moves (I := fun t => WellFormed t ∧ AllLive t ∧ LaunchesWork host t)
      (fun t u ht htu => ?_) (ensureMinInstances_starts host p hs)
      ⟨h.reapDeadInstancesLocked, hpass⟩).2.1
    obtain ⟨hwf, hlive, hlaunch⟩ := ht
    refine ⟨hwf.start htu, ?_⟩
    cases htu with
    | spawn hp _ =>
      exact ⟨hlive.spawnOne hwf hp (hlaunch p _ hp _),
        hlaunch.of_sameTemplates (sameTemplates_spawnOne hp)⟩
    | touch =>
      exact ⟨hlive.shrink (restricts_touch _ _ _).toShrinks,
        hlaunch.of_sameTemplates (sameTemplates_modifyPool fun _ => rfl)⟩

theorem AllLive.scaleUpOnce (hlive : AllLive s) (h : WellFormed s)
    (hlaunch : LaunchesWork host s) : AllLive (scaleUpOnce host p s).2 := by
  obtain ⟨hpass, hlaunch'⟩ := hlive.reapDeadInstancesLocked h hlaunch
  rcases scaleUpOnce_cases host p s with heq | heq | ⟨pool, hp, -, -, heq⟩
  · rwa [heq]
  · rwa [heq]
  · rw [heq]
    have hspawned := hpass.spawnOne h.reapDeadInstancesLocked hp (hlaunch' p pool hp _)
    exact hspawned.shrink (restricts_touch _ _ _).toShrinks

/-- The calls that may start an instance. -/
def SupervisorCall.mayStart : SupervisorCall → Bool
  | .ensureMinInstances _ | .scaleUpOnce _ | .findPool _ | .listPools | .watchdogReap => true
  | _ => false

/-- No launch fails during a step that may start instances. -/
def LaunchesSucceed (s : WorkerSupervisor) (step : SupervisorStep) : Prop :=
  step.call.mayStart = true → LaunchesWork step.host s

/-- **Every step keeps every listed instance live**, if no launch fails. -/
theorem AllLive.perform (hlive : AllLive s) (h : WellFormed s) {step : SupervisorStep}
    (hlaunch : LaunchesSucceed s step) : AllLive (perform s step) := by
  obtain ⟨host, call⟩ := step
  cases call with
  | upsertPool pool =>
    show AllLive (upsertPool host pool s).2
    rcases upsertPool_cases host pool s with heq | ⟨stored, heq, -, -, -, -, hinst⟩
    · rwa [heq]
    · rw [heq]
      exact hlive.shrink (shrinks_insert hinst)
  | removePool poolId => exact hlive.shrink (h.restricts_removePool poolId).toShrinks
  | ensureMinInstances poolId => exact hlive.ensureMinInstances h (hlaunch rfl)
  | drainPool poolId => exact hlive.shrink (restricts_drainPool host poolId s).toShrinks
  | scaleUpOnce poolId => exact hlive.scaleUpOnce h (hlaunch rfl)
  | findPool poolId => exact (hlive.reapDeadInstancesLocked h (hlaunch rfl)).1
  | listPools => exact (hlive.reapDeadInstancesLocked h (hlaunch rfl)).1
  | shutdownAll =>
    have hflag : Restricts s { s with shuttingDown := true } := restricts_of_eq rfl rfl rfl
    exact (invariant_foldl (I := fun t => WellFormed t ∧ AllLive t)
      (fun _ p ht => ⟨ht.1.restrict (ht.1.restricts_terminateInstancesLocked p),
        ht.2.shrink (ht.1.restricts_terminateInstancesLocked p).toShrinks⟩) _
      ⟨h.restrict hflag, hlive.shrink hflag.toShrinks⟩).2
  | watchdogReap => exact (hlive.reapDeadInstancesLocked h (hlaunch rfl)).1
  | pruneCrashWindows =>
    have hr : Restricts s (pruneCrashWindowsLocked host s) := restricts_of_eq rfl rfl rfl
    exact hlive.shrink hr.toShrinks
  | stdinWriteFailed instanceId =>
    exact hlive.shrink (h.restricts_stdinWriteFailed host instanceId).toShrinks
  | handshakeConfirmed instanceId =>
    exact hlive.shrink (restricts_handshakeConfirmed host instanceId s).toShrinks
  | drainSupervisorEvents =>
    have hr : Restricts s (drainSupervisorEvents s) := restricts_of_eq rfl rfl rfl
    exact hlive.shrink hr.toShrinks

/-- The only registered pool lists `n` failed instances, and its launches keep failing. -/
structure Starved (host : Host) (p : String) (policy : ScalePolicy) (n : ℕ)
    (s : WorkerSupervisor) : Prop where
  pools : ∃ pool, s.pools.entries = [(p, pool)] ∧ pool.scalePolicy = policy ∧
    pool.instances.length = n ∧ (∀ i ∈ pool.instances, i.state = .failed) ∧
    ∀ serial, launchSucceeds (host.launch serial) pool.template = false
  children : s.children = OrdMap.empty
  quarantine : s.poolQuarantineUntil = OrdMap.empty
  shuttingDown : s.shuttingDown = false

section Starved

variable {policy : ScalePolicy} {n : ℕ}

/-- A failed launch adds one failed instance and nothing else. -/
theorem Starved.respawnOne (h : Starved host p policy n s) :
    Starved host p policy (n + 1) (respawnOne host p s) := by
  obtain ⟨⟨pool, hentries, hpolicy, hlength, hfailed, hlaunch⟩, hchildren, hquarantine, hshut⟩ := h
  have hp : s.pools.find? p = some pool := by
    rw [OrdMap.find?, hentries, OrdMap.findIn, if_pos rfl]
  constructor
  · refine ⟨{ pool with instances := pool.instances ++ [(startInstanceLocked host pool s).1] },
      ?_, hpolicy, ?_, fun i hi => ?_, hlaunch⟩
    · rw [respawnOne_pools, spawnOne_eq hp, modifyPool, startInstanceLocked_pools, hp]
      simp [OrdMap.insert, hentries, OrdMap.insertIn]
    · rw [List.length_append, hlength, List.length_singleton]
    · rcases List.mem_append.mp hi with hi | hi
      · exact hfailed i hi
      · rw [List.mem_singleton.mp hi, startInstanceLocked_state, hlaunch, if_neg Bool.false_ne_true]
  · obtain ⟨child, hchild⟩ := spawnOne_children host hp
    rw [respawnOne_children, hchild, hlaunch, if_neg Bool.false_ne_true, hchildren]
  · rw [respawnOne_poolQuarantineUntil, hquarantine]
  · rw [respawnOne_shuttingDown, hshut]

theorem Starved.respawnOne_iterate (h : Starved host p policy n s) (k : ℕ) :
    Starved host p policy (n + k) ((Supervisor.respawnOne host p)^[k] s) := by
  induction k with
  | zero => exact h
  | succ k ih =>
    rw [Function.iterate_succ_apply']
    exact ih.respawnOne

/-- The pass takes no failed instance away. -/
theorem Starved.reapDead (h : Starved host p policy n s) : reapDead host s = s := by
  obtain ⟨⟨pool, hentries, -, -, hfailed, -⟩, hchildren, -, -⟩ := h
  have hp : s.pools.find? p = some pool := by
    rw [OrdMap.find?, hentries, OrdMap.findIn, if_pos rfl]
  have hkeys : s.pools.keys = [p] := by rw [OrdMap.keys, hentries]; rfl
  have hkeep : ∀ i ∈ pool.instances, reapInstance host p s i = s := by
    intro i hi
    have hnone : exited host s i = none := by
      rw [exited, hchildren, OrdMap.find?_empty]
      simp [hfailed i hi]
    rw [reapInstance, hnone]
  rw [Supervisor.reapDead, hkeys, List.foldl_cons, List.foldl_nil, reapPool, hp]
  exact foldl_eq_self hkeep

/-- **Every pass adds the whole floor again** to a pool whose launches fail. -/
theorem Starved.pass (h : Starved host p policy n s) :
    Starved host p policy (n + (max 0 policy.minInstances).toNat)
      (reapDeadInstancesLocked host s) := by
  have hreap := h.reapDead
  have hgrown := fun k => h.respawnOne_iterate k
  obtain ⟨⟨pool, hentries, hpolicy, -, hfailed, -⟩, -, hquarantine, hshut⟩ := h
  have hp : s.pools.find? p = some pool := by
    rw [OrdMap.find?, hentries, OrdMap.findIn, if_pos rfl]
  have hkeys : s.pools.keys = [p] := by rw [OrdMap.keys, hentries]; rfl
  have hnone : healthyInstanceCountLocked pool = 0 := by
    refine List.countP_eq_zero.mpr fun i hi => ?_
    simp [EndpointInstance.healthy, hfailed i hi]
  have hshort : shortfall pool = (max 0 policy.minInstances).toNat := by
    rw [shortfall, hnone, hpolicy, Int.natCast_zero, Int.sub_zero]
  have hopen : isPoolQuarantinedLocked s p host.steadyNow = false := by
    rw [isPoolQuarantinedLocked, hquarantine, OrdMap.find?_empty]
  have hpass : reapDeadInstancesLocked host s =
      (Supervisor.respawnOne host p)^[shortfall pool] s := by
    rw [reapDeadInstancesLocked, hreap, hshut, if_neg Bool.false_ne_true, hkeys]
    simp [respawnPool, hp, hopen]
  rw [hpass, hshort]
  exact hgrown _

end Starved

/-- A pool whose executable does not exist, on a machine without any, after some turns of
the watchdog. -/
def starvedSupervisor (n : ℕ) : WorkerSupervisor :=
  (reapDeadInstancesLocked bareHost)^[n] (perform {} ⟨bareHost, .upsertPool singlePool⟩)

theorem starved_starvedSupervisor (n : ℕ) :
    Starved bareHost "p" singlePool.scalePolicy n (starvedSupervisor n) := by
  induction n with
  | zero =>
    refine ⟨⟨_, rfl, rfl, rfl, fun i hi => ?_, fun serial => rfl⟩, rfl, rfl, rfl⟩
    cases hi
  | succ n ih =>
    rw [starvedSupervisor, Function.iterate_succ_apply']
    exact ih.pass

end Supervisor
end MasterControl
