import MasterControl.Supervisor.WellFormed

/-!
# Runs of the supervisor

One step of `supervisorSystem` is one call of the supervisor, or one turn of its
watchdog, together with the `Host` that answers its system calls; a run is any
sequence of these, so it covers every interleaving of the callers, who all hold
`mutex_` for the whole step.  Every reachable state is well formed.

`ensureMinInstances` and `scaleUpOnce` are the reap pass followed by starts; the
theorems `ensureMinInstances_starts` and `scaleUpOnce_cases` say which.
-/

namespace MasterControl
namespace Supervisor

open Foundation Relation

variable {host : Host} {s : WorkerSupervisor} {p q : String}

/-- What may be asked of the supervisor. -/
inductive SupervisorCall where
  | upsertPool (pool : ManagedEndpointPool)
  | removePool (poolId : String)
  | ensureMinInstances (poolId : String)
  | drainPool (poolId : String)
  | scaleUpOnce (poolId : String)
  | findPool (poolId : String)
  | listPools
  | shutdownAll
  /-- The reap pass of the watchdog. -/
  | watchdogReap
  /-- The pruning the watchdog does after the pass. -/
  | pruneCrashWindows
  /-- A write of `sendStdioJsonRpc` on this instance's stdin failed. -/
  | stdinWriteFailed (instanceId : String)
  /-- This instance answered the `initialize` handshake. -/
  | handshakeConfirmed (instanceId : String)
  | drainSupervisorEvents
  deriving DecidableEq

/-- One locked section: the call and what the operating system answers during it. -/
structure SupervisorStep where
  host : Host
  call : SupervisorCall

/-- The state after one locked section. -/
def perform (s : WorkerSupervisor) (step : SupervisorStep) : WorkerSupervisor :=
  match step.call with
  | .upsertPool pool => (upsertPool step.host pool s).2
  | .removePool poolId => (removePool poolId s).2
  | .ensureMinInstances poolId => (ensureMinInstances step.host poolId s).2
  | .drainPool poolId => (drainPool step.host poolId s).2
  | .scaleUpOnce poolId => (scaleUpOnce step.host poolId s).2
  | .findPool poolId => (findPool step.host poolId s).2
  | .listPools => (listPools step.host s).2
  | .shutdownAll => (shutdownAll s).2
  | .watchdogReap => reapDeadInstancesLocked step.host s
  | .pruneCrashWindows => pruneCrashWindowsLocked step.host s
  | .stdinWriteFailed instanceId => stdinWriteFailed step.host instanceId s
  | .handshakeConfirmed instanceId => handshakeConfirmed step.host instanceId s
  | .drainSupervisorEvents => drainSupervisorEvents s

/-- The supervisor, from its construction on. -/
def supervisorSystem : TransitionSystem WorkerSupervisor SupervisorStep where
  init := {}
  step := perform

/-! ## The starts of `ensureMinInstances` and `scaleUpOnce` -/

/-- One move of `ensureMinInstances` after its reap pass. -/
inductive Start (host : Host) (p : String) : WorkerSupervisor → WorkerSupervisor → Prop
  | spawn {s : WorkerSupervisor} {pool : ManagedEndpointPool} :
    s.pools.find? p = some pool →
    (healthyInstanceCountLocked pool : ℤ) < max 0 pool.scalePolicy.minInstances →
    Start host p s (spawnOne host p s)
  | touch {s : WorkerSupervisor} :
    Start host p s (modifyPool p (fun pool => { pool with updatedAtUtc := host.utcNow }) s)

/-- **`ensureMinInstances` is a reap pass followed by starts**, unless the supervisor is
shutting down. -/
theorem ensureMinInstances_starts (host : Host) (p : String) (hs : s.shuttingDown = false) :
    ReflTransGen (Start host p) (reapDeadInstancesLocked host s)
      (ensureMinInstances host p s).2 := by
  rw [ensureMinInstances, hs, if_neg Bool.false_ne_true]
  dsimp only
  cases hp : (reapDeadInstancesLocked host s).pools.find? p with
  | none => exact ReflTransGen.refl
  | some pool =>
    dsimp only
    split_ifs
    · exact ReflTransGen.refl
    · refine ReflTransGen.tail (moves_iterate (J := Lacks p) (fun n t ht => ?_) _
        (lacks_shortfall hp)) Start.touch
      obtain ⟨pool, hp, hlt, hlacks⟩ := ht.spawnOne
      exact ⟨Start.spawn hp hlt, hlacks⟩

theorem ensureMinInstances_of_shuttingDown (hs : s.shuttingDown = true) :
    (ensureMinInstances host p s).2 = s := by
  rw [ensureMinInstances, if_pos hs]

/-- **What `scaleUpOnce` does.**  It refuses because of teardown; or it runs the pass and
refuses because the pool is unknown or full; or it runs the pass and appends exactly one
started instance, whose id it returns. -/
theorem scaleUpOnce_cases (host : Host) (p : String) (s : WorkerSupervisor) :
    scaleUpOnce host p s = ("", s) ∨
    scaleUpOnce host p s = ("", reapDeadInstancesLocked host s) ∨
    ∃ pool, (reapDeadInstancesLocked host s).pools.find? p = some pool ∧
      s.shuttingDown = false ∧
      (healthyInstanceCountLocked pool : ℤ) < max 0 pool.scalePolicy.maxInstances ∧
      scaleUpOnce host p s =
        ((startInstanceLocked host pool (reapDeadInstancesLocked host s)).1.instanceId,
          modifyPool p (fun pool => { pool with updatedAtUtc := host.utcNow })
            (spawnOne host p (reapDeadInstancesLocked host s))) := by
  unfold scaleUpOnce
  split_ifs with hs
  · exact Or.inl rfl
  · right
    dsimp only
    cases hp : (reapDeadInstancesLocked host s).pools.find? p with
    | none => exact Or.inl rfl
    | some pool =>
      dsimp only
      split_ifs with hfull
      · exact Or.inl rfl
      · exact Or.inr ⟨pool, rfl, by simpa using hs, not_le.mp hfull, rfl⟩

/-! ## What the other operations do to the tables -/

theorem restricts_drainPool (host : Host) (p : String) (s : WorkerSupervisor) :
    Restricts s (drainPool host p s).2 := by
  unfold drainPool
  split
  · exact restricts_of_eq rfl rfl rfl
  · exact restricts_modifyPool (g := fun i =>
      transitionInstanceLocked host i .draining "Drain requested by supervisor.")
      (fun _ => rfl) (fun _ => rfl) (fun _ => rfl)
      fun i => ⟨rfl, fun hi => absurd hi (by simp [EndpointInstance.healthy,
        transitionInstanceLocked])⟩

/-- What is listed after a pool's instances are terminated. -/
theorem instancesOf_terminateInstancesLocked (p q : String) (s : WorkerSupervisor) :
    instancesOf (terminateInstancesLocked p s) q = if p = q then [] else instancesOf s q := by
  unfold terminateInstancesLocked
  cases hp : s.pools.find? p with
  | none =>
    split_ifs with hpq
    · exact instancesOf_of_none (hpq ▸ hp)
    · rfl
  | some pool => exact instancesOf_modifyPool (g := fun _ => []) _ (fun _ => rfl) rfl q

theorem WellFormed.restricts_terminateInstancesLocked (h : WellFormed s) (p : String) :
    Restricts s (terminateInstancesLocked p s) := by
  have hinst := fun q => instancesOf_terminateInstancesLocked p q s
  cases hp : s.pools.find? p with
  | none =>
    have heq : terminateInstancesLocked p s = s := by rw [terminateInstancesLocked, hp]
    rw [heq]
    exact restricts_of_eq rfl rfl rfl
  | some pool =>
    have heq := terminateInstancesLocked.eq_def p s
    rw [hp] at heq
    dsimp only at heq
    refine ⟨⟨fun q => ?_, ?_, fun {id child} hc => ?_, fun {q i} hi hc => ?_,
      fun {q i} hi hc => ?_⟩, fun {q pool'} hq => ?_⟩
    · rw [hinst q]
      split_ifs
      · exact table_sublist (List.nil_sublist _)
      · exact table_unchanged rfl
    · rw [heq, modifyPool_nextInstanceSerial]
    · rw [heq, modifyPool_children, OrdMap.find?_filterMap] at hc
      obtain ⟨child', hc', -⟩ := Option.bind_eq_some_iff.mp hc
      exact ⟨child', hc'⟩
    · rw [hinst q] at hi
      split_ifs at hi with hpq
      · cases hi
      · have hnot : i.instanceId ∉ pool.instances.map EndpointInstance.instanceId := by
          intro hmem
          obtain ⟨j, hj, hji⟩ := List.mem_map.mp hmem
          rw [← instancesOf_of_find? hp] at hj
          exact hpq (h.eq_of_instanceId_eq hj hi hji).1
        rw [hasChild, heq, modifyPool_children, OrdMap.find?_filterMap]
        obtain ⟨child, hchild⟩ := Option.isSome_iff_exists.mp hc
        rw [hchild, Option.bind_some, if_neg hnot, Option.isSome_some]
    · refine ⟨i, ?_, rfl⟩
      rw [hinst q]
      split_ifs with hpq
      · -- a listed instance of the pool lost its child
        have hmem : i.instanceId ∈ pool.instances.map EndpointInstance.instanceId := by
          rw [← hpq, instancesOf_of_find? hp] at hi
          exact List.mem_map_of_mem hi
        rw [hasChild, heq, modifyPool_children, OrdMap.find?_filterMap] at hc
        obtain ⟨child, hchild⟩ := Option.isSome_iff_exists.mp hc
        obtain ⟨child', -, hsome⟩ := Option.bind_eq_some_iff.mp hchild
        rw [if_pos hmem] at hsome
        cases hsome
      · exact hi
    · rw [heq, find?_modifyPool] at hq
      split_ifs at hq
      · obtain ⟨pool'', hp'', rfl⟩ := Option.map_eq_some_iff.mp hq
        exact ⟨pool'', hp'', rfl, rfl⟩
      · exact ⟨pool', hq, rfl, rfl⟩

theorem WellFormed.restricts_removePool (h : WellFormed s) (p : String) :
    Restricts s (removePool p s).2 := by
  unfold Supervisor.removePool
  cases hp : s.pools.find? p with
  | none => exact restricts_of_eq rfl rfl rfl
  | some pool =>
    have ht := h.restricts_terminateInstancesLocked p
    have hinst : ∀ q, instancesOf { terminateInstancesLocked p s with
        pools := (terminateInstancesLocked p s).pools.erase p } q =
          if q = p then [] else instancesOf (terminateInstancesLocked p s) q := by
      intro q
      simp only [instancesOf, OrdMap.find?_erase]
      split_ifs <;> rfl
    refine ⟨⟨fun q => ?_, ht.serial, ht.children, fun {q i} hi hc => ?_,
      fun {q i} hi hc => ?_⟩, fun {q pool'} hq => ?_⟩
    · dsimp only
      rw [hinst q]
      split_ifs
      · exact table_sublist (List.nil_sublist _)
      · exact ht.tables q
    · dsimp only at hi
      rw [hinst q] at hi
      split_ifs at hi
      · cases hi
      · exact ht.kept hi hc
    · obtain ⟨i', hi', hid⟩ := ht.listed hi hc
      refine ⟨i', ?_, hid⟩
      dsimp only
      rw [hinst q]
      split_ifs with hqp
      · rw [hqp, instancesOf_terminateInstancesLocked, if_pos rfl] at hi'
        cases hi'
      · exact hi'
    · dsimp only at hq
      rw [OrdMap.find?_erase] at hq
      split_ifs at hq
      exact ht.pools hq

/-- After a failed write, no pool lists the instance any more. -/
theorem instancesOf_stdinWriteFailed (host : Host) (instanceId : String)
    (s : WorkerSupervisor) (q : String) :
    instancesOf (stdinWriteFailed host instanceId s) q =
      (instancesOf s q).eraseP fun i => i.instanceId = instanceId := by
  simp only [instancesOf, stdinWriteFailed, OrdMap.find?_map]
  cases s.pools.find? q with
  | none => rfl
  | some pool =>
    simp only [Option.map_some]
    split_ifs with hany
    · rfl
    · refine (List.eraseP_of_forall_not fun i hi hid => hany ?_).symm
      exact List.any_eq_true.mpr ⟨i, hi, hid⟩

theorem WellFormed.restricts_stdinWriteFailed (h : WellFormed s) (host : Host)
    (instanceId : String) : Restricts s (stdinWriteFailed host instanceId s) := by
  have hinst := instancesOf_stdinWriteFailed host instanceId s
  refine ⟨⟨fun q => ?_, rfl, fun {id child} hc => ?_, fun {q i} hi hc => ?_,
    fun {q i} hi hc => ?_⟩, fun {q pool'} hq => ?_⟩
  · rw [hinst q]
    exact table_sublist List.eraseP_sublist
  · simp only [stdinWriteFailed, OrdMap.find?_erase] at hc
    split_ifs at hc
    exact ⟨child, hc⟩
  · -- the erased entry was the only one with this id
    have hne : i.instanceId ≠ instanceId := by
      rw [hinst q] at hi
      intro hid
      have hmem := List.mem_of_mem_eraseP hi
      obtain ⟨j, l₁, l₂, hl₁, hj, heq, herase⟩ := List.exists_of_eraseP
        (p := fun i : EndpointInstance => decide (i.instanceId = instanceId)) hmem (by simpa)
      have hd := h.distinct q
      rw [heq] at hd
      rw [herase] at hi
      have hj' : j.instanceId = instanceId := by simpa using hj
      rcases List.mem_append.mp hi with hi | hi
      · exact hl₁ i hi (by simpa using hid)
      · exact (List.pairwise_cons.mp (List.pairwise_append.mp hd).2.1).1 i hi
          (hj'.trans hid.symm)
    rwa [hasChild, stdinWriteFailed, OrdMap.find?_erase_of_ne _ hne]
  · have hne : i.instanceId ≠ instanceId := by
      intro hid
      rw [hasChild, stdinWriteFailed, hid, OrdMap.find?_erase_self] at hc
      cases hc
    rw [hinst q]
    exact ⟨i, (List.mem_eraseP_of_neg (by simpa using hne)).mpr hi, rfl⟩
  · simp only [stdinWriteFailed, OrdMap.find?_map] at hq
    obtain ⟨pool, hpool, rfl⟩ := Option.map_eq_some_iff.mp hq
    refine ⟨pool, hpool, ?_, ?_⟩ <;> split_ifs <;> rfl

theorem instancesOf_handshakeConfirmed (host : Host) (instanceId : String)
    (s : WorkerSupervisor) (q : String) :
    instancesOf (handshakeConfirmed host instanceId s) q =
      (instancesOf s q).map (confirmed host instanceId) := by
  simp only [instancesOf, handshakeConfirmed, OrdMap.find?_map]
  cases s.pools.find? q <;> rfl

theorem restricts_handshakeConfirmed (host : Host) (instanceId : String)
    (s : WorkerSupervisor) : Restricts s (handshakeConfirmed host instanceId s) := by
  have hinst := instancesOf_handshakeConfirmed host instanceId s
  refine ⟨⟨fun q => ?_, rfl, fun {id child} hc => ?_, fun {q i} hi hc => ?_,
    fun {q i} hi _ => ?_⟩, fun {q pool'} hq => ?_⟩
  · refine ⟨instancesOf s q, confirmed host instanceId, List.Sublist.refl _, hinst q,
      fun i => ?_⟩
    unfold confirmed
    split_ifs
    · exact ⟨rfl, fun hi => hi⟩
    · exact ⟨rfl, fun hi => hi⟩
  · simp only [handshakeConfirmed, OrdMap.find?_map] at hc
    obtain ⟨child', hc', -⟩ := Option.map_eq_some_iff.mp hc
    exact ⟨child', hc'⟩
  · rwa [hasChild, handshakeConfirmed, OrdMap.find?_map, Option.isSome_map]
  · refine ⟨confirmed host instanceId i, ?_, ?_⟩
    · rw [hinst q]
      exact List.mem_map_of_mem hi
    · unfold confirmed
      split_ifs <;> rfl
  · simp only [handshakeConfirmed, OrdMap.find?_map] at hq
    obtain ⟨pool, hpool, rfl⟩ := Option.map_eq_some_iff.mp hq
    exact ⟨pool, hpool, rfl, rfl⟩

/-- Registering a pool leaves every table as it is: a new pool starts empty, a known one
keeps its instances. -/
theorem upsertPool_cases (host : Host) (pool : ManagedEndpointPool) (s : WorkerSupervisor) :
    (upsertPool host pool s).2 = s ∨
    ∃ stored, (upsertPool host pool s).2 =
        { s with pools := s.pools.insert pool.poolId stored } ∧
      upsertRejection pool = none ∧ stored.poolId = pool.poolId ∧
      stored.scalePolicy = pool.scalePolicy ∧ stored.template = pool.template ∧
      stored.instances = instancesOf s pool.poolId := by
  unfold upsertPool
  cases hrej : upsertRejection pool with
  | some message => exact Or.inl rfl
  | none =>
    refine Or.inr ?_
    cases hknown : s.pools.find? pool.poolId with
    | none => exact ⟨_, rfl, rfl, rfl, rfl, rfl, (instancesOf_of_none hknown).symm⟩
    | some known => exact ⟨_, rfl, rfl, rfl, rfl, rfl, (instancesOf_of_find? hknown).symm⟩

theorem shrinks_insert {stored : ManagedEndpointPool}
    (h : stored.instances = instancesOf s p) :
    Shrinks s { s with pools := s.pools.insert p stored } where
  tables q := by
    refine table_unchanged ?_
    rw [instancesOf, OrdMap.find?_insert]
    split_ifs with hpq
    · rw [← hpq]; exact h
    · rfl
  serial := rfl
  children {_ child} hc := ⟨child, hc⟩
  kept _ hi := hi
  listed {q i} hi _ := by
    refine ⟨i, ?_, rfl⟩
    rw [instancesOf, OrdMap.find?_insert]
    split_ifs with hpq
    · rw [← hpq, ← h] at hi
      exact hi
    · exact hi

/-! ## Every operation keeps the tables well formed -/

theorem WellFormed.start {t : WorkerSupervisor} (h : WellFormed s) (hst : Start host p s t) :
    WellFormed t := by
  cases hst with
  | spawn _ _ => exact h.spawnOne
  | touch => exact h.restrict (restricts_touch _ _ _)

theorem WellFormed.ensureMinInstances (h : WellFormed s) :
    WellFormed (ensureMinInstances host p s).2 := by
  cases hs : s.shuttingDown with
  | true => rwa [ensureMinInstances_of_shuttingDown hs]
  | false =>
    exact invariant_of_moves (I := WellFormed) (fun _ _ => WellFormed.start)
      (ensureMinInstances_starts host p hs) h.reapDeadInstancesLocked

theorem WellFormed.scaleUpOnce (h : WellFormed s) : WellFormed (scaleUpOnce host p s).2 := by
  rcases scaleUpOnce_cases host p s with heq | heq | ⟨pool, -, -, -, heq⟩
  · rwa [heq]
  · rw [heq]; exact h.reapDeadInstancesLocked
  · rw [heq]; exact h.reapDeadInstancesLocked.spawnOne.restrict (restricts_touch _ _ _)

theorem WellFormed.upsertPool (h : WellFormed s) (pool : ManagedEndpointPool) :
    WellFormed (upsertPool host pool s).2 := by
  rcases upsertPool_cases host pool s with heq | ⟨stored, heq, hrej, hid, hpolicy, -, hinst⟩
  · rwa [heq]
  · have hv := validPool_of_accepted hrej
    rw [heq]
    refine h.shrink (shrinks_insert hinst) fun {q pool'} hq => ?_
    rw [OrdMap.find?_insert] at hq
    split_ifs at hq with hpq
    · cases hq
      refine ⟨hid.trans hpq, hid ▸ hv.safe, ?_, ?_, ?_⟩
      · rw [hpolicy]; exact hv.min_nonneg
      · rw [hpolicy]; exact hv.one_le_max
      · rw [hpolicy]; exact hv.min_le_max
    · exact h.registered hq

theorem WellFormed.shutdownAll (h : WellFormed s) : WellFormed (shutdownAll s).2 := by
  have h' : WellFormed { s with shuttingDown := true } :=
    h.restrict (restricts_of_eq rfl rfl rfl)
  exact invariant_foldl (I := WellFormed)
    (fun _ p ht => ht.restrict (ht.restricts_terminateInstancesLocked p)) _ h'

/-- **Every operation keeps the tables well formed.** -/
theorem WellFormed.perform (h : WellFormed s) (step : SupervisorStep) :
    WellFormed (perform s step) := by
  obtain ⟨host, call⟩ := step
  cases call with
  | upsertPool pool => exact h.upsertPool pool
  | removePool poolId => exact h.restrict (h.restricts_removePool poolId)
  | ensureMinInstances poolId => exact h.ensureMinInstances
  | drainPool poolId => exact h.restrict (restricts_drainPool host poolId s)
  | scaleUpOnce poolId => exact h.scaleUpOnce
  | findPool poolId => exact h.reapDeadInstancesLocked
  | listPools => exact h.reapDeadInstancesLocked
  | shutdownAll => exact h.shutdownAll
  | watchdogReap => exact h.reapDeadInstancesLocked
  | pruneCrashWindows => exact h.restrict (restricts_of_eq rfl rfl rfl)
  | stdinWriteFailed instanceId =>
    exact h.restrict (h.restricts_stdinWriteFailed host instanceId)
  | handshakeConfirmed instanceId =>
    exact h.restrict (restricts_handshakeConfirmed host instanceId s)
  | drainSupervisorEvents => exact h.restrict (restricts_of_eq rfl rfl rfl)

theorem reachable_wellFormed {G : WorkerSupervisor → SupervisorStep → Prop}
    (h : supervisorSystem.ReachableBy G s) : WellFormed s :=
  h.invariant wellFormed_empty fun _ step hs _ => hs.perform step

/-! ## Two machines and a pool -/

/-- A machine on which every launch works and no process ever exits. -/
def workingHost : Host where
  steadyNow := 0
  utcAfter _ := "2026-01-01T00:00:00Z"
  exitCode _ := some stillActive
  launch _ :=
    { searchExecutable := fun name => some ⟨name, ".exe"⟩, createJobObject := true,
      setInformationJobObject := true, createPipes := true, allocateEnvironmentBlock := true,
      createProcess := some 4242, assignProcessToJobObject := true }

/-- The same machine without any worker executable on disk. -/
def bareHost : Host :=
  { workingHost with
    launch := fun serial => { workingHost.launch serial with searchExecutable := fun _ => none } }

/-- A pool of exactly one instance. -/
def singlePool : ManagedEndpointPool :=
  { poolId := "p", template := { executable := "worker.exe" },
    scalePolicy := { minInstances := 1, maxInstances := 1 } }

end Supervisor
end MasterControl
