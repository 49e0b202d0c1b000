import MasterControl.Leasing.Liveness

/-!
# Sticky sessions

A session whose Active lease is bound to a live instance should get that lease back.  The
router takes the bound instance for live if the pool snapshot lists it as Ready or Busy,
so a Draining instance, whose process still runs, loses its sessions: the acquire
releases the lease and binds the session elsewhere.  `sticky_lease_kept_iff` says that
this is the only way a session of a running instance loses its lease.
-/

namespace MasterControl
namespace Leasing

open Foundation Supervisor Relation

variable {host : Host} {s : WorkerSupervisor} {p : String} {clock : RouterClock}
  {r r' : LeaseRouter} {id : String} {lease : EndpointLease} {i : EndpointInstance}

/-! ## Instances that survive a pass -/

/-- **The pass keeps every listed instance whose process has not exited.** -/
theorem mem_reapDeadInstancesLocked (h : WellFormed s) (hi : i ∈ instancesOf s p)
    (halive : exited host s i = none) : i ∈ instancesOf (reapDeadInstancesLocked host s) p := by
  have hdeaths : WellFormed (reapDead host s) ∧ i ∈ instancesOf (reapDead host s) p ∧
      exited host (reapDead host s) i = none := by
    refine invariant_of_moves (I := fun t => WellFormed t ∧ i ∈ instancesOf t p ∧
      exited host t i = none) (fun t u ht htu => ?_) (reapDead_deaths h) ⟨h, hi, halive⟩
    obtain ⟨hwf, hmem, hnone⟩ := ht
    refine ⟨hwf.death htu, ?_⟩
    cases htu with
    | @intro q j code hj hcode =>
      -- the dead instance is another one, so it has another id
      have hne : i.instanceId ≠ j.instanceId := by
        intro heq
        obtain ⟨-, rfl⟩ := hwf.eq_of_instanceId_eq hmem hj heq
        rw [hnone] at hcode
        cases hcode
      have hchild : (removeDead host q j code t).children.find? i.instanceId =
          t.children.find? i.instanceId := by
        rw [removeDead_children, OrdMap.find?_erase_of_ne _ hne]
      constructor
      · rw [instancesOf_removeDead]
        split_ifs
        · exact (List.mem_erase_of_ne fun heq => hne (congrArg _ heq)).mpr hmem
        · exact hmem
      · rw [exited, hchild]
        exact hnone
  refine invariant_of_moves (I := fun t => i ∈ instancesOf t p) (fun t u ht htu => ?_)
    reapDeadInstancesLocked_refills hdeaths.2.1
  cases htu with
  | @respawn q pool hq _ _ _ =>
    have hsame : instancesOf (respawnOne host q t) p = instancesOf (spawnOne host q t) p := by
      rw [instancesOf, instancesOf, respawnOne_pools]
    rw [hsame, instancesOf_spawnOne hq]
    split_ifs
    · exact List.mem_append_left _ ht
    · exact ht
  | touch => rwa [instancesOf_touch]

/-- The snapshot takes an instance for live exactly when it serves. -/
theorem boundInstanceLive_iff (h : WellFormed s) {pool : ManagedEndpointPool}
    (hlist : pool.instances = instancesOf s p) (hi : i ∈ instancesOf s p) :
    boundInstanceLive pool i.instanceId = true ↔ i.serving = true := by
  constructor
  · intro hlive
    obtain ⟨j, hj, hid, hserving⟩ := exists_serving_of_boundInstanceLive hlive
    rw [hlist] at hj
    obtain ⟨-, rfl⟩ := h.eq_of_instanceId_eq hj hi hid
    exact hserving
  · intro hserving
    refine List.any_eq_true.mpr ⟨i, hlist ▸ hi, ?_⟩
    rw [hserving, decide_eq_true rfl]
    rfl

/-! ## What happens to lease states -/

/-- No lease that both routers record changed its state. -/
def LeaseStatesKept (r r' : LeaseRouter) : Prop :=
  ∀ id lease lease', r.leases.find? id = some lease → r'.leases.find? id = some lease' →
    lease'.state = lease.state

/-- The same, apart from the Active leases whose idle window has run out. -/
def FreshLeaseStatesKept (clock : RouterClock) (r r' : LeaseRouter) : Prop :=
  ∀ id lease lease', r.leases.find? id = some lease → r'.leases.find? id = some lease' →
    ¬ (lease.state = .active ∧ idleExpired clock r id = true) → lease'.state = lease.state

/-- No Active lease has been idle for the whole window. -/
def NoActiveLeaseIdle (clock : RouterClock) (r : LeaseRouter) : Prop :=
  ∀ id lease, r.leases.find? id = some lease → lease.state = .active →
    idleExpired clock r id = false

theorem freshLeaseStatesKept_of_prune
    (h : r'.leases = (pruneExpiredLeasesLocked clock r).leases) :
    FreshLeaseStatesKept clock r r' := by
  intro id lease lease' hfind hfind' hfresh
  rw [h, find?_pruneExpiredLeasesLocked, sweptLease, hfind] at hfind'
  dsimp only at hfind'
  split_ifs at hfind' with hidle hactive
  · exact absurd ⟨hactive, hidle⟩ hfresh
  · rw [Option.some.inj hfind']

theorem leaseStatesKept_of_prune_iff
    (h : r'.leases = (pruneExpiredLeasesLocked clock r).leases) :
    LeaseStatesKept r r' ↔ NoActiveLeaseIdle clock r := by
  constructor
  · intro hkept id lease hfind hactive
    by_contra hidle
    have hswept : r'.leases.find? id = some (lease.release clock
        "Lease expired after the idle timeout with no session activity.") := by
      rw [h, find?_pruneExpiredLeasesLocked, sweptLease, hfind]
      simp [hactive, hidle]
    have hsame := hkept id lease _ hfind hswept
    rw [hactive] at hsame
    cases hsame
  · intro hnone id lease lease' hfind hfind'
    refine freshLeaseStatesKept_of_prune h id lease lease' hfind hfind' ?_
    rintro ⟨hactive, hidle⟩
    rw [hnone id lease hfind hactive] at hidle
    cases hidle

/-- The sticky branch releases the session's Active lease when it does not reuse it. -/
theorem Bookkeeping.find?_dropStaleSticky (h : Bookkeeping r) (clock : RouterClock)
    {request : LeaseRequest}
    (hsafe : isSafeUrlSegmentId request.poolId = true)
    (hfind : r.leases.find? id = some lease)
    (hsticky : StickyUnder (stickyKey request.poolId request.sessionId) lease) :
    ∃ lease', (dropStaleSticky clock request r).leases.find? id = some lease' ∧
      lease'.state = .released := by
  have hown := h.sticky.mpr ⟨lease, hfind, hsticky⟩
  obtain ⟨hfree, heq | ⟨id', lease', hfind', hsticky', heq⟩⟩ := h.dropStaleSticky_cases clock hsafe
  · rw [heq, hown] at hfree
    cases hfree
  · have hid := h.sticky.mpr ⟨lease', hfind', hsticky'⟩
    rw [hown] at hid
    obtain rfl := Option.some.inj hid
    rw [heq]
    exact ⟨_, OrdMap.find?_insert_self _ _ _, rfl⟩

/-- The router's answer when the session's lease is Active: the lease itself if the bound
instance is live, else the lease ends Released. -/
theorem Bookkeeping.acquireFromPool_sticky (h : Bookkeeping r) {σ : Type}
    (clock : RouterClock) (supervisor : IWorkerSupervisor σ) {request : LeaseRequest}
    {pool : ManagedEndpointPool} (hsafe : isSafeUrlSegmentId request.poolId = true) (s : σ)
    (hfind : r.leases.find? id = some lease)
    (hsticky : StickyUnder (stickyKey request.poolId request.sessionId) lease)
    (hsession : request.sessionId ≠ "") :
    (boundInstanceLive pool lease.instanceId = true →
      (acquireFromPool supervisor clock request pool r s).1 = lease ∧
      (acquireFromPool supervisor clock request pool r s).2.1.leases = r.leases) ∧
    (boundInstanceLive pool lease.instanceId = false →
      ∃ lease', (acquireFromPool supervisor clock request pool r s).2.1.leases.find? id =
        some lease' ∧ lease'.state = .released) := by
  have hown := h.sticky.mpr ⟨lease, hfind, hsticky⟩
  constructor
  · intro hlive
    have hreuse : reusableLease r pool request = some (id, lease) :=
      reusableLease_eq_some.mpr ⟨hsession, hown, hfind, hsticky.1, hlive⟩
    rw [acquireFromPool, hreuse]
    exact ⟨rfl, rfl⟩
  · intro hdead
    have hbook : Bookkeeping (dropStaleSticky clock request r) :=
      h.moves (h.dropStaleSticky_moves hsafe)
    obtain ⟨lease', hreleased, hstate⟩ := h.find?_dropStaleSticky clock hsafe hfind hsticky
    rcases acquireFromPool_cases supervisor clock request pool r s with
      ⟨id', other, hreuse, heq⟩ | ⟨instanceId, -, -, heq⟩ | ⟨-, -, heq⟩ | ⟨-, -, heq⟩
    · -- the lease behind the sticky entry is this one, and its instance is dead
      obtain ⟨-, hkey, hfind', -, hlive⟩ := reusableLease_eq_some.mp hreuse
      rw [hown] at hkey
      obtain rfl := Option.some.inj hkey
      rw [hfind] at hfind'
      obtain rfl := Option.some.inj hfind'
      rw [hdead] at hlive
      cases hlive
    · exact ⟨lease', heq ▸ hbook.find?_bound clock _ _ _ _ hreleased, hstate⟩
    · exact ⟨lease', heq ▸ hbook.find?_bound clock _ _ _ _ hreleased, hstate⟩
    · exact ⟨lease', heq ▸ hreleased, hstate⟩

/-- **When a session keeps its lease.**  Take a reachable state in which a session has an
Active lease, not idle for the whole window, on an instance that the pool lists as Ready,
Busy or Draining and whose process runs.  The session's next acquire returns that lease
and releases no lease but expired ones exactly when the instance is Ready or Busy; and it
changes no lease's state at all exactly when moreover no lease is due to expire. -/
theorem sticky_lease_kept_iff {idleTimeoutSeconds : Int} {c : LeasingState}
    (h : (leasingSystem idleTimeoutSeconds).Reachable c) (call : AcquireCall)
    (hfind : c.router.leases.find? id = some lease) (hactive : lease.state = .active)
    (hpool : lease.poolId = call.request.poolId)
    (hsession : lease.sessionId = call.request.sessionId) (hs : call.request.sessionId ≠ "")
    (hfresh : idleExpired call.clock c.router id = false)
    (hi : i ∈ instancesOf c.supervisor call.request.poolId)
    (hid : i.instanceId = lease.instanceId)
    (halive : exited call.findHost c.supervisor i = none)
    (hstate : i.state = .ready ∨ i.state = .busy ∨ i.state = .draining) :
    ((call.answer c).1 = lease ∧
        FreshLeaseStatesKept call.clock c.router (call.answer c).2.router ↔
      i.state ≠ .draining) ∧
    ((call.answer c).1 = lease ∧ LeaseStatesKept c.router (call.answer c).2.router ↔
      i.state ≠ .draining ∧ NoActiveLeaseIdle call.clock c.router) := by
  obtain ⟨htables, hmaps⟩ := reachable_leasingInvariant h
  have hsafe : isSafeUrlSegmentId call.request.poolId = true := htables.safe_of_mem hi
  have hnonempty : call.request.poolId ≠ "" := by
    intro hempty
    rw [hempty] at hsafe
    exact absurd hsafe (by decide)
  -- the pool is known, and its snapshot lists the instance
  have hfound : WellFormed (findPool call.findHost call.request.poolId c.supervisor).2 :=
    htables.reapDeadInstancesLocked
  have hmem : i ∈ instancesOf (findPool call.findHost call.request.poolId c.supervisor).2
      call.request.poolId := mem_reapDeadInstancesLocked htables hi halive
  obtain ⟨known, hknown, -⟩ := exists_pool_of_mem hmem
  have hsnapshot : (findPool call.findHost call.request.poolId c.supervisor).1 =
      some (snapshot call.findHost
        (findPool call.findHost call.request.poolId c.supervisor).2 known) :=
    congrArg (Option.map _) hknown
  have hlive := boundInstanceLive_iff hfound (instances_of_findPool hsnapshot) hmem
  rw [hid] at hlive
  have hserving : i.serving = true ↔ i.state ≠ .draining := by
    rcases hstate with hstate | hstate | hstate <;> simp [EndpointInstance.serving, hstate]
  -- the sweep leaves the lease alone
  have hfind' := find?_pruned_of_fresh hfind hfresh
  have hsticky : StickyUnder (stickyKey call.request.poolId call.request.sessionId) lease :=
    ⟨hactive, hsession ▸ hs, by rw [hpool, hsession]⟩
  obtain ⟨hreused, hreleased⟩ := (hmaps.pruned call.clock).acquireFromPool_sticky
    call.clock call.supervisor hsafe (findPool call.findHost call.request.poolId c.supervisor).2
    hfind' hsticky hs
  rw [answer_of_known hnonempty hsnapshot]
  dsimp only
  by_cases hdraining : i.state = .draining
  · -- the lease is released although it was fresh
    obtain ⟨lease', hfinal, hgone⟩ := hreleased (by
      rw [← Bool.not_eq_true, hlive, hserving]
      exact not_not.mpr hdraining)
    constructor
    · refine ⟨?_, fun hne => absurd hdraining hne⟩
      rintro ⟨-, hkept⟩
      have hsame := hkept id lease lease' hfind hfinal fun hexpired => by
        rw [hfresh] at hexpired
        cases hexpired.2
      rw [hgone, hactive] at hsame
      cases hsame
    · refine ⟨?_, fun hne => absurd hdraining hne.1⟩
      rintro ⟨-, hkept⟩
      have hsame := hkept id lease lease' hfind hfinal
      rw [hgone, hactive] at hsame
      cases hsame
  · obtain ⟨hanswer, hleases⟩ := hreused (hlive.mpr (hserving.mpr hdraining))
    constructor
    · exact ⟨fun _ => hdraining, fun _ => ⟨hanswer, freshLeaseStatesKept_of_prune hleases⟩⟩
    · have hiff := leaseStatesKept_of_prune_iff hleases
      exact ⟨fun hboth => ⟨hdraining, hiff.mp hboth.2⟩,
        fun hboth => ⟨hanswer, hiff.mpr hboth.2⟩⟩

/-! ### A session on a working instance, and on a draining one -/

/-- The pool runs one worker, and a session holds a lease on it. -/
def sessionState : LeasingState :=
  (leasingSystem 900).run (leasingSystem 900).init
    [.supervisor ⟨workingHost, .upsertPool singlePool⟩, .supervisor ⟨workingHost, .watchdogReap⟩,
     .acquireLease (acquireOn workingHost { poolId := "p", sessionId := "s" })]

/-- The pool is drained. -/
def drainedState : LeasingState :=
  (leasingSystem 900).run sessionState [.supervisor ⟨workingHost, .drainPool "p"⟩]

def sessionLease : EndpointLease :=
  { leaseId := "lease-1", poolId := "p", instanceId := "p#1", sessionId := "s", state := .active,
    acquiredAtUtc := someClock.utcNow,
    statusMessage := "Lease bound to least-loaded Ready instance." }

def sessionInstance (state : EndpointInstanceState) (message : String) : EndpointInstance :=
  { instanceId := "p#1", poolId := "p", state := state, processId := 4242, supervised := true,
    startedAtUtc := workingHost.utcNow, lastTransitionAtUtc := workingHost.utcNow,
    statusMessage := message }

theorem reachable_sessionState : (leasingSystem 900).Reachable sessionState :=
  TransitionSystem.Reachable.run TransitionSystem.ReachableBy.init _

theorem sticky_lease_kept_on_working_instance :
    ((acquireOn workingHost { poolId := "p", sessionId := "s" }).answer sessionState).1 =
      sessionLease := by
  have hfind : sessionState.router.leases.find? "lease-1" = some sessionLease := by decide
  have hiff := sticky_lease_kept_iff (i := sessionInstance .ready
      "Instance started under MCOS Job Object supervision (stdio bridge active).")
    reachable_sessionState (acquireOn workingHost { poolId := "p", sessionId := "s" })
    hfind rfl rfl rfl (by decide) (by decide) (by decide) rfl (by decide) (Or.inl rfl)
  exact (hiff.1.mpr (by decide)).1

theorem sticky_lease_released_while_draining :
    ¬ ∀ (c : LeasingState) (call : AcquireCall) (id : String) (lease : EndpointLease)
        (i : EndpointInstance), (leasingSystem 900).Reachable c →
      c.router.leases.find? id = some lease → lease.state = .active →
      lease.poolId = call.request.poolId → lease.sessionId = call.request.sessionId →
      call.request.sessionId ≠ "" → idleExpired call.clock c.router id = false →
      i ∈ instancesOf c.supervisor call.request.poolId → i.instanceId = lease.instanceId →
      exited call.findHost c.supervisor i = none →
      (i.state = .ready ∨ i.state = .busy ∨ i.state = .draining) →
      (call.answer c).1 = lease ∧ LeaseStatesKept c.router (call.answer c).2.router := by
  intro h
  have hreach : (leasingSystem 900).Reachable drainedState :=
    TransitionSystem.Reachable.run reachable_sessionState _
  have hkept := h drainedState (acquireOn workingHost { poolId := "p", sessionId := "s" })
    "lease-1" sessionLease (sessionInstance .draining "Drain requested by supervisor.") hreach
    (by decide) rfl rfl rfl (by decide) (by decide) (by decide) rfl (by decide)
    (Or.inr (Or.inr rfl))
  exact absurd hkept.1 (by decide)

end Leasing
end MasterControl
