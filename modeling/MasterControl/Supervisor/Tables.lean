import MasterControl.Supervisor.Operations

/-!
# What the moves do to the tables

The frame of each small move of the supervisor: which fields it leaves alone, and what
it does to the instances listed under each pool id (`instancesOf`).  Removing a dead
instance, starting one and rewriting a pool are the only moves there are, so nothing
below this file unfolds them again.
-/

namespace MasterControl
namespace Supervisor

open Foundation

variable {host : Host} {s : WorkerSupervisor} {p q : String}

/-- The instances listed under a pool id; none when the pool is not registered. -/
def instancesOf (s : WorkerSupervisor) (p : String) : List EndpointInstance :=
  match s.pools.find? p with
  | none => []
  | some pool => pool.instances

theorem instancesOf_of_find? {pool : ManagedEndpointPool} (h : s.pools.find? p = some pool) :
    instancesOf s p = pool.instances := by
  rw [instancesOf, h]

theorem instancesOf_of_none (h : s.pools.find? p = none) : instancesOf s p = [] := by
  rw [instancesOf, h]

theorem exists_pool_of_mem {i : EndpointInstance} (h : i ∈ instancesOf s p) :
    ∃ pool, s.pools.find? p = some pool ∧ i ∈ pool.instances := by
  cases hp : s.pools.find? p with
  | none => rw [instancesOf_of_none hp] at h; cases h
  | some pool => exact ⟨pool, rfl, instancesOf_of_find? hp ▸ h⟩

/-- Whether the supervisor has a child record for an instance. -/
def hasChild (s : WorkerSupervisor) (i : EndpointInstance) : Bool :=
  (s.children.find? i.instanceId).isSome

/-! ## Rewriting one pool -/

section ModifyPool

variable (f : ManagedEndpointPool → ManagedEndpointPool)

theorem find?_modifyPool (p q : String) (s : WorkerSupervisor) :
    (modifyPool p f s).pools.find? q =
      if p = q then (s.pools.find? q).map f else s.pools.find? q := by
  unfold modifyPool
  cases h : s.pools.find? p with
  | none =>
    split_ifs with hpq
    · rw [← hpq, h, Option.map_none]
    · rfl
  | some pool =>
    simp only [OrdMap.find?_insert]
    split_ifs with hpq
    · rw [← hpq, h, Option.map_some]
    · rfl

theorem instancesOf_modifyPool {g : List EndpointInstance → List EndpointInstance}
    (hf : ∀ pool, (f pool).instances = g pool.instances) (hg : g [] = []) (q : String) :
    instancesOf (modifyPool p f s) q =
      if p = q then g (instancesOf s q) else instancesOf s q := by
  unfold instancesOf
  rw [find?_modifyPool]
  split_ifs with hpq
  · cases s.pools.find? q with
    | none => exact hg.symm
    | some pool => exact hf pool
  · rfl

@[simp] theorem modifyPool_children : (modifyPool p f s).children = s.children := by
  unfold modifyPool; split <;> rfl

@[simp] theorem modifyPool_nextInstanceSerial :
    (modifyPool p f s).nextInstanceSerial = s.nextInstanceSerial := by
  unfold modifyPool; split <;> rfl

@[simp] theorem modifyPool_shuttingDown :
    (modifyPool p f s).shuttingDown = s.shuttingDown := by
  unfold modifyPool; split <;> rfl

@[simp] theorem modifyPool_poolFailureTimestamps :
    (modifyPool p f s).poolFailureTimestamps = s.poolFailureTimestamps := by
  unfold modifyPool; split <;> rfl

@[simp] theorem modifyPool_poolQuarantineUntil :
    (modifyPool p f s).poolQuarantineUntil = s.poolQuarantineUntil := by
  unfold modifyPool; split <;> rfl

@[simp] theorem modifyPool_deathLog : (modifyPool p f s).deathLog = s.deathLog := by
  unfold modifyPool; split <;> rfl

@[simp] theorem modifyPool_quarantineLog :
    (modifyPool p f s).quarantineLog = s.quarantineLog := by
  unfold modifyPool; split <;> rfl

end ModifyPool

/-- Bringing `updatedAtUtc` up to date moves no instance. -/
theorem instancesOf_touch (p utc q : String) (s : WorkerSupervisor) :
    instancesOf (modifyPool p (fun pool => { pool with updatedAtUtc := utc }) s) q =
      instancesOf s q := by
  rw [instancesOf_modifyPool (g := id) (fun pool => { pool with updatedAtUtc := utc })
    (fun _ => rfl) rfl]
  split_ifs <;> rfl

/-! ## Removing a dead instance -/

@[simp] theorem registerFailure_pools : (registerFailure host p s).pools = s.pools := by
  unfold registerFailure; dsimp only; split <;> rfl

@[simp] theorem registerFailure_children :
    (registerFailure host p s).children = s.children := by
  unfold registerFailure; dsimp only; split <;> rfl

@[simp] theorem registerFailure_nextInstanceSerial :
    (registerFailure host p s).nextInstanceSerial = s.nextInstanceSerial := by
  unfold registerFailure; dsimp only; split <;> rfl

@[simp] theorem registerFailure_shuttingDown :
    (registerFailure host p s).shuttingDown = s.shuttingDown := by
  unfold registerFailure; dsimp only; split <;> rfl

@[simp] theorem registerFailure_deathLog :
    (registerFailure host p s).deathLog = s.deathLog := by
  unfold registerFailure; dsimp only; split <;> rfl

theorem find?_removeDead (i : EndpointInstance) (code : Nat) (q : String) :
    (removeDead host p i code s).pools.find? q =
      if p = q then
        (s.pools.find? q).map fun pool => { pool with instances := pool.instances.erase i }
      else s.pools.find? q := by
  rw [removeDead, registerFailure_pools, find?_modifyPool]

theorem instancesOf_removeDead (i : EndpointInstance) (code : Nat) (q : String) :
    instancesOf (removeDead host p i code s) q =
      if p = q then (instancesOf s q).erase i else instancesOf s q := by
  have h : instancesOf (removeDead host p i code s) q =
      instancesOf (modifyPool p
        (fun pool => { pool with instances := pool.instances.erase i }) s) q := by
    simp [instancesOf, removeDead]
  rw [h]
  exact instancesOf_modifyPool (g := fun l => l.erase i) _ (fun _ => rfl) rfl q

@[simp] theorem removeDead_children (i : EndpointInstance) (code : Nat) :
    (removeDead host p i code s).children = s.children.erase i.instanceId := by
  simp [removeDead]

@[simp] theorem removeDead_nextInstanceSerial (i : EndpointInstance) (code : Nat) :
    (removeDead host p i code s).nextInstanceSerial = s.nextInstanceSerial := by
  simp [removeDead]

@[simp] theorem removeDead_shuttingDown (i : EndpointInstance) (code : Nat) :
    (removeDead host p i code s).shuttingDown = s.shuttingDown := by
  simp [removeDead]

/-! ## Starting an instance -/

section Start

variable (host) (pool : ManagedEndpointPool) (s)

@[simp] theorem startInstanceLocked_instanceId :
    (startInstanceLocked host pool s).1.instanceId =
      instanceIdOf pool.poolId s.nextInstanceSerial := by
  unfold startInstanceLocked; dsimp only; split <;> rfl

/-- A started instance is Ready; one that could not be started is Failed. -/
theorem startInstanceLocked_state :
    (startInstanceLocked host pool s).1.state =
      if launchSucceeds (host.launch s.nextInstanceSerial) pool.template then .ready
      else .failed := by
  unfold startInstanceLocked launchSucceeds
  dsimp only
  split <;> rfl

theorem startInstanceLocked_healthy :
    (startInstanceLocked host pool s).1.healthy =
      launchSucceeds (host.launch s.nextInstanceSerial) pool.template := by
  rw [EndpointInstance.healthy, startInstanceLocked_state]
  cases launchSucceeds (host.launch s.nextInstanceSerial) pool.template <;> rfl

theorem startInstanceLocked_serving :
    (startInstanceLocked host pool s).1.serving =
      launchSucceeds (host.launch s.nextInstanceSerial) pool.template := by
  rw [EndpointInstance.serving, startInstanceLocked_state]
  cases launchSucceeds (host.launch s.nextInstanceSerial) pool.template <;> rfl

@[simp] theorem startInstanceLocked_pools :
    (startInstanceLocked host pool s).2.pools = s.pools := by
  unfold startInstanceLocked; dsimp only; split <;> rfl

@[simp] theorem startInstanceLocked_nextInstanceSerial :
    (startInstanceLocked host pool s).2.nextInstanceSerial = s.nextInstanceSerial + 1 := by
  unfold startInstanceLocked; dsimp only; split <;> rfl

@[simp] theorem startInstanceLocked_shuttingDown :
    (startInstanceLocked host pool s).2.shuttingDown = s.shuttingDown := by
  unfold startInstanceLocked; dsimp only; split <;> rfl

@[simp] theorem startInstanceLocked_poolQuarantineUntil :
    (startInstanceLocked host pool s).2.poolQuarantineUntil = s.poolQuarantineUntil := by
  unfold startInstanceLocked; dsimp only; split <;> rfl

@[simp] theorem startInstanceLocked_poolFailureTimestamps :
    (startInstanceLocked host pool s).2.poolFailureTimestamps = s.poolFailureTimestamps := by
  unfold startInstanceLocked; dsimp only; split <;> rfl

@[simp] theorem startInstanceLocked_deathLog :
    (startInstanceLocked host pool s).2.deathLog = s.deathLog := by
  unfold startInstanceLocked; dsimp only; split <;> rfl

@[simp] theorem startInstanceLocked_quarantineLog :
    (startInstanceLocked host pool s).2.quarantineLog = s.quarantineLog := by
  unfold startInstanceLocked; dsimp only; split <;> rfl

/-- A launch that fails leaves the child records alone; one that succeeds adds the
new instance's record. -/
theorem startInstanceLocked_children :
    ∃ child, (startInstanceLocked host pool s).2.children =
      if launchSucceeds (host.launch s.nextInstanceSerial) pool.template then
        s.children.emplace (instanceIdOf pool.poolId s.nextInstanceSerial) child
      else s.children := by
  unfold startInstanceLocked launchSucceeds
  dsimp only
  split
  · exact ⟨⟨false, false⟩, rfl⟩
  · exact ⟨_, rfl⟩

end Start

/-- What `spawnOne` does to a registered pool: the started instance joins the table. -/
theorem find?_spawnOne {pool : ManagedEndpointPool} (h : s.pools.find? p = some pool)
    (q : String) :
    (spawnOne host p s).pools.find? q =
      if p = q then
        some { pool with
          instances := pool.instances ++ [(startInstanceLocked host pool s).1] }
      else s.pools.find? q := by
  simp only [spawnOne, h, find?_modifyPool, startInstanceLocked_pools]
  split_ifs with hpq
  · rw [← hpq, h, Option.map_some]
  · rfl

theorem instancesOf_spawnOne {pool : ManagedEndpointPool} (h : s.pools.find? p = some pool)
    (q : String) :
    instancesOf (spawnOne host p s) q =
      if p = q then instancesOf s q ++ [(startInstanceLocked host pool s).1]
      else instancesOf s q := by
  rw [instancesOf, find?_spawnOne h]
  split_ifs with hpq
  · rw [← hpq, instancesOf_of_find? h]
  · rfl

theorem spawnOne_of_none (h : s.pools.find? p = none) : spawnOne host p s = s := by
  rw [spawnOne, h]

theorem spawnOne_eq {pool : ManagedEndpointPool} (h : s.pools.find? p = some pool) :
    spawnOne host p s =
      modifyPool p (fun pool' => { pool' with
        instances := pool'.instances ++ [(startInstanceLocked host pool s).1] })
        (startInstanceLocked host pool s).2 := by
  rw [spawnOne, h]

theorem spawnOne_nextInstanceSerial {pool : ManagedEndpointPool}
    (h : s.pools.find? p = some pool) :
    (spawnOne host p s).nextInstanceSerial = s.nextInstanceSerial + 1 := by
  rw [spawnOne_eq h, modifyPool_nextInstanceSerial, startInstanceLocked_nextInstanceSerial]

theorem spawnOne_children (host : Host) {pool : ManagedEndpointPool}
    (h : s.pools.find? p = some pool) :
    ∃ child, (spawnOne host p s).children =
      if launchSucceeds (host.launch s.nextInstanceSerial) pool.template then
        s.children.emplace (instanceIdOf pool.poolId s.nextInstanceSerial) child
      else s.children := by
  obtain ⟨child, hchild⟩ := startInstanceLocked_children host s pool
  exact ⟨child, by rw [spawnOne_eq h, modifyPool_children, hchild]⟩

@[simp] theorem spawnOne_shuttingDown :
    (spawnOne host p s).shuttingDown = s.shuttingDown := by
  unfold spawnOne; split <;> simp

@[simp] theorem spawnOne_poolQuarantineUntil :
    (spawnOne host p s).poolQuarantineUntil = s.poolQuarantineUntil := by
  unfold spawnOne; split <;> simp

@[simp] theorem spawnOne_poolFailureTimestamps :
    (spawnOne host p s).poolFailureTimestamps = s.poolFailureTimestamps := by
  unfold spawnOne; split <;> simp

@[simp] theorem spawnOne_deathLog : (spawnOne host p s).deathLog = s.deathLog := by
  unfold spawnOne; split <;> simp

@[simp] theorem spawnOne_quarantineLog :
    (spawnOne host p s).quarantineLog = s.quarantineLog := by
  unfold spawnOne; split <;> simp

/-! A respawn is a start plus a log entry, and the log entry changes nothing else. -/

@[simp] theorem respawnOne_pools :
    (respawnOne host p s).pools = (spawnOne host p s).pools := by
  unfold respawnOne; split <;> simp [spawnOne, *]

@[simp] theorem respawnOne_children :
    (respawnOne host p s).children = (spawnOne host p s).children := by
  unfold respawnOne; split <;> simp [spawnOne, *]

@[simp] theorem respawnOne_nextInstanceSerial :
    (respawnOne host p s).nextInstanceSerial = (spawnOne host p s).nextInstanceSerial := by
  unfold respawnOne; split <;> simp [spawnOne, *]

@[simp] theorem respawnOne_shuttingDown :
    (respawnOne host p s).shuttingDown = s.shuttingDown := by
  unfold respawnOne; split <;> simp

@[simp] theorem respawnOne_poolQuarantineUntil :
    (respawnOne host p s).poolQuarantineUntil = s.poolQuarantineUntil := by
  unfold respawnOne; split <;> simp

@[simp] theorem respawnOne_poolFailureTimestamps :
    (respawnOne host p s).poolFailureTimestamps = s.poolFailureTimestamps := by
  unfold respawnOne; split <;> simp

@[simp] theorem respawnOne_deathLog : (respawnOne host p s).deathLog = s.deathLog := by
  unfold respawnOne; split <;> simp

@[simp] theorem respawnOne_quarantineLog :
    (respawnOne host p s).quarantineLog = s.quarantineLog := by
  unfold respawnOne; split <;> simp

end Supervisor
end MasterControl
