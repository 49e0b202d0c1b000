import MasterControl.Leasing.Bookkeeping

/-!
# What becomes of the Active leases

How an operation of the router changes the set of Active leases.  An acquire makes at most
the lease it returns Active (`ActivatesOnly`), and one that stops being Active has expired,
or was the caller's own session lease on an instance that is no longer live (`LosesOnly`).
A release touches its own lease only.  A lease that is no longer Active never is again
(`Evolves.not_activeAt`).
-/

namespace MasterControl
namespace Leasing

open Foundation Supervisor Relation

variable {σ : Type} {clock : RouterClock} {r r' : LeaseRouter} {id : String}
  {lease : EndpointLease} {supervisor : IWorkerSupervisor σ} {request : LeaseRequest} {s : σ}

/-- There is an Active lease with this id. -/
def ActiveAt (r : LeaseRouter) (id : String) : Prop :=
  ∃ lease, r.leases.find? id = some lease ∧ lease.state = .active

/-- The given lease is the only one that became Active. -/
def ActivatesOnly (lease : EndpointLease) (r r' : LeaseRouter) : Prop :=
  ∀ id lease', r'.leases.find? id = some lease' → lease'.state = .active →
    r.leases.find? id = some lease' ∨ lease' = lease ∧ id = lease.leaseId

/-- The lease of the caller's own session, on an instance that its pool does not list as
live. -/
def StaleFor (supervisor : IWorkerSupervisor σ) (s : σ) (request : LeaseRequest)
    (lease : EndpointLease) : Prop :=
  request.sessionId ≠ "" ∧ lease.poolId = request.poolId ∧
    lease.sessionId = request.sessionId ∧
    ∃ pool, (supervisor.findPool request.poolId s).1 = some pool ∧
      boundInstanceLive pool lease.instanceId = false

/-- An Active lease that changed was idle for the whole window, or stale. -/
def LosesOnly (clock : RouterClock) (supervisor : IWorkerSupervisor σ) (s : σ)
    (request : LeaseRequest) (r r' : LeaseRouter) : Prop :=
  ∀ id lease, r.leases.find? id = some lease → lease.state = .active →
    r'.leases.find? id = some lease ∨ idleExpired clock r id = true ∨
      StaleFor supervisor s request lease

/-! ## Nothing becomes Active again -/

/-- **An id that was given out and is not Active never is again.** -/
theorem Evolves.not_activeAt (h : Evolves r r') {k : ℕ} (hk : k < r.nextLeaseSerial)
    (hnot : ¬ ActiveAt r (leaseIdOf k)) : ¬ ActiveAt r' (leaseIdOf k) := by
  rintro ⟨lease', hfind', hactive'⟩
  rcases h.kept hfind' with ⟨lease, hfind, -, -, -, hstate⟩ | ⟨l, hl, hid⟩
  · rcases hstate with heq | ⟨-, hreleased⟩
    · exact hnot ⟨lease, hfind, heq ▸ hactive'⟩
    · rw [hactive'] at hreleased
      cases hreleased
  · have := leaseIdOf_inj hid
    omega

/-! ## Releasing -/

/-- **A release leaves its own lease inactive**, if it is recorded at all. -/
theorem not_activeAt_releaseLease (clock : RouterClock) (id reason : String) (r : LeaseRouter) :
    ¬ ActiveAt (releaseLease clock id reason r).2 id := by
  unfold releaseLease
  rintro ⟨lease', hfind', hactive'⟩
  cases hfind : r.leases.find? id with
  | none =>
    rw [hfind] at hfind'
    dsimp only at hfind'
    rw [hfind] at hfind'
    cases hfind'
  | some lease =>
    rw [hfind] at hfind'
    dsimp only at hfind'
    by_cases hstate : lease.state = .active
    · rw [if_neg (not_not.mpr hstate), find?_markReleased, if_pos rfl] at hfind'
      cases hfind'
      cases hactive'
    · rw [if_pos hstate, hfind] at hfind'
      cases hfind'
      exact hstate hactive'

/-- A release leaves the other leases alone. -/
theorem find?_releaseLease_of_ne {id' : String} (hne : id' ≠ id) (reason : String) :
    (releaseLease clock id reason r).2.leases.find? id' = r.leases.find? id' := by
  unfold releaseLease
  cases r.leases.find? id with
  | none => rfl
  | some lease =>
    dsimp only
    by_cases hstate : lease.state = .active
    · rw [if_neg (not_not.mpr hstate), find?_markReleased, if_neg hne.symm]
    · rw [if_pos hstate]

/-! ## Acquiring -/

/-- What is Active after the sweep was Active before, as it is. -/
theorem find?_of_swept (hfind : (pruneExpiredLeasesLocked clock r).leases.find? id = some lease)
    (hactive : lease.state = .active) : r.leases.find? id = some lease := by
  rw [find?_pruneExpiredLeasesLocked, sweptLease] at hfind
  cases hold : r.leases.find? id with
  | none =>
    rw [hold] at hfind
    cases hfind
  | some lease' =>
    rw [hold] at hfind
    dsimp only at hfind
    split_ifs at hfind
    · cases hfind
      cases hactive
    · exact hfind

/-- The sweep leaves a lease alone, unless it was idle for the whole window. -/
theorem find?_pruned_or_expired (clock : RouterClock) (hfind : r.leases.find? id = some lease) :
    (pruneExpiredLeasesLocked clock r).leases.find? id = some lease ∨
      idleExpired clock r id = true := by
  cases hidle : idleExpired clock r id with
  | true => exact Or.inr rfl
  | false => exact Or.inl (find?_pruned_of_fresh hfind hidle)

/-- What the stale sticky entry leaves Active was so before. -/
theorem Bookkeeping.find?_of_dropStaleSticky (h : Bookkeeping r)
    (hsafe : isSafeUrlSegmentId request.poolId = true)
    (hfind : (dropStaleSticky clock request r).leases.find? id = some lease)
    (hactive : lease.state = .active) : r.leases.find? id = some lease := by
  rcases (h.dropStaleSticky_cases clock hsafe).2 with heq | ⟨id', lease', -, -, heq⟩
  · rwa [heq] at hfind
  · rw [heq, find?_markReleased] at hfind
    split_ifs at hfind
    · cases hfind
      cases hactive
    · exact hfind

/-- A binding makes its own lease Active, and no other. -/
theorem activatesOnly_bindLeaseLocked (clock : RouterClock) (poolId instanceId : String)
    (request : LeaseRequest) (scaleOut : Bool) (r : LeaseRouter) :
    ActivatesOnly (bindLeaseLocked clock poolId instanceId request scaleOut r).1 r
      (bindLeaseLocked clock poolId instanceId request scaleOut r).2 := by
  intro id lease hfind _
  rw [find?_bindLeaseLocked] at hfind
  split_ifs at hfind with hid
  · cases hfind
    exact Or.inr ⟨rfl, hid.symm⟩
  · exact Or.inl hfind

section FromPool

variable {pool : ManagedEndpointPool}

/-- **An acquire makes at most the lease it returns Active.** -/
theorem Bookkeeping.activatesOnly_acquireFromPool (h : Bookkeeping r)
    (hsafe : isSafeUrlSegmentId request.poolId = true) :
    ActivatesOnly (acquireFromPool supervisor clock request pool r s).1 r
      (acquireFromPool supervisor clock request pool r s).2.1 := by
  intro id lease hfind hactive
  rcases acquireFromPool_cases supervisor clock request pool r s with
    ⟨_, _, -, heq⟩ | ⟨_, -, -, heq⟩ | ⟨-, -, heq⟩ | ⟨-, -, heq⟩
  · rw [heq] at hfind
    exact Or.inl hfind
  · rw [heq] at hfind ⊢
    exact (activatesOnly_bindLeaseLocked _ _ _ _ _ _ _ _ hfind hactive).imp_left
      fun hdropped => h.find?_of_dropStaleSticky hsafe hdropped hactive
  · rw [heq] at hfind ⊢
    exact (activatesOnly_bindLeaseLocked _ _ _ _ _ _ _ _ hfind hactive).imp_left
      fun hdropped => h.find?_of_dropStaleSticky hsafe hdropped hactive
  · rw [heq] at hfind
    exact Or.inl (h.find?_of_dropStaleSticky hsafe hfind hactive)

/-- Where the session's lease is not reused, the sticky entry takes away no lease but the
session's own, and that only if its instance is not live. -/
theorem Bookkeeping.dropStaleSticky_loses (h : Bookkeeping r)
    (hsafe : isSafeUrlSegmentId request.poolId = true)
    (hreuse : reusableLease r pool request = none)
    (hfind : r.leases.find? id = some lease) (hactive : lease.state = .active) :
    (dropStaleSticky clock request r).leases.find? id = some lease ∨
      request.sessionId ≠ "" ∧ lease.poolId = request.poolId ∧
        lease.sessionId = request.sessionId ∧
        boundInstanceLive pool lease.instanceId = false := by
  rcases (h.dropStaleSticky_cases clock hsafe).2 with heq | ⟨id', lease', hfind', hsticky, heq⟩
  · rw [heq]
    exact Or.inl hfind
  · rw [heq, find?_markReleased]
    by_cases hid : id' = id
    · subst hid
      rw [hfind] at hfind'
      cases hfind'
      obtain ⟨hpool, hsession⟩ := stickyKey_inj hsafe (h.poolSafe hfind) hsticky.2.2
      have hs : request.sessionId ≠ "" := hsession ▸ hsticky.2.1
      refine Or.inr ⟨hs, hpool.symm, hsession.symm, ?_⟩
      by_contra hlive
      have hown := h.sticky.mpr ⟨lease, hfind, hsticky⟩
      have hreused := reusableLease_eq_some.mpr
        ⟨hs, hown, hfind, hactive, Bool.not_eq_false _ ▸ hlive⟩
      rw [hreuse] at hreused
      cases hreused
    · rw [if_neg hid]
      exact Or.inl hfind

theorem Bookkeeping.acquireFromPool_loses (h : Bookkeeping r)
    (hsafe : isSafeUrlSegmentId request.poolId = true)
    (hfind : r.leases.find? id = some lease) (hactive : lease.state = .active) :
    (acquireFromPool supervisor clock request pool r s).2.1.leases.find? id = some lease ∨
      request.sessionId ≠ "" ∧ lease.poolId = request.poolId ∧
        lease.sessionId = request.sessionId ∧
        boundInstanceLive pool lease.instanceId = false := by
  have hmoves : ReflTransGen (RouterMove clock) r (dropStaleSticky clock request r) :=
    h.dropStaleSticky_moves hsafe
  have hdrop := h.moves hmoves
  rcases acquireFromPool_cases supervisor clock request pool r s with
    ⟨_, _, -, heq⟩ | ⟨instanceId, hreuse, -, heq⟩ | ⟨⟨hreuse, -⟩, -, heq⟩ | ⟨⟨hreuse, -⟩, -, heq⟩
  · rw [heq]
    exact Or.inl hfind
  · rw [heq]
    exact (h.dropStaleSticky_loses hsafe hreuse hfind hactive).imp_left
      (hdrop.find?_bound clock _ _ _ _)
  · rw [heq]
    exact (h.dropStaleSticky_loses hsafe hreuse hfind hactive).imp_left
      (hdrop.find?_bound clock _ _ _ _)
  · rw [heq]
    exact h.dropStaleSticky_loses hsafe hreuse hfind hactive

/-- **A lease an acquire returns as Active is recorded**, for the pool and session asked for. -/
theorem Bookkeeping.acquireFromPool_recorded (h : Bookkeeping r)
    (hpool : pool.poolId = request.poolId) (hsafe : isSafeUrlSegmentId request.poolId = true)
    (hactive : (acquireFromPool supervisor clock request pool r s).1.state = .active) :
    (acquireFromPool supervisor clock request pool r s).2.1.leases.find?
        (acquireFromPool supervisor clock request pool r s).1.leaseId =
      some (acquireFromPool supervisor clock request pool r s).1 ∧
    (acquireFromPool supervisor clock request pool r s).1.poolId = request.poolId ∧
    (acquireFromPool supervisor clock request pool r s).1.sessionId = request.sessionId := by
  rcases acquireFromPool_cases supervisor clock request pool r s with
    ⟨id, lease, hreuse, heq⟩ | ⟨_, -, -, heq⟩ | ⟨-, -, heq⟩ | ⟨-, -, heq⟩
  · rw [heq]
    obtain ⟨-, hkey, hfind, -, -⟩ := reusableLease_eq_some.mp hreuse
    obtain ⟨lease', hfind', hsticky⟩ := h.sticky.mp hkey
    rw [hfind] at hfind'
    cases hfind'
    obtain ⟨hp, hs⟩ := stickyKey_inj hsafe (h.poolSafe hfind) hsticky.2.2
    refine ⟨?_, hp.symm, hs.symm⟩
    show r.leases.find? lease.leaseId = some lease
    rw [(h.issued hfind).1, hfind]
  · rw [heq]
    exact ⟨OrdMap.find?_insert_self _ _ _, hpool, boundLease_sessionId _ _ _ _ _ _⟩
  · rw [heq]
    exact ⟨OrdMap.find?_insert_self _ _ _, hpool, boundLease_sessionId _ _ _ _ _ _⟩
  · rw [heq] at hactive
    cases hactive

end FromPool

section Acquire

variable (h : Bookkeeping r) (htruth : Truthful supervisor s)

include h htruth

theorem Bookkeeping.activatesOnly_acquireLease :
    ActivatesOnly (acquireLease supervisor clock request r s).1 r
      (acquireLease supervisor clock request r s).2.1 := by
  intro id lease hfind hactive
  unfold acquireLease at hfind ⊢
  split_ifs at hfind ⊢ with hid
  · exact Or.inl hfind
  · dsimp only at hfind ⊢
    cases hfound : (supervisor.findPool request.poolId s).1 with
    | none =>
      rw [hfound] at hfind
      exact Or.inl (find?_of_swept hfind hactive)
    | some pool =>
      rw [hfound] at hfind
      have hadds := (h.pruned clock).activatesOnly_acquireFromPool (htruth _ _ hfound).2
        id lease hfind hactive
      exact hadds.imp_left fun hswept => find?_of_swept hswept hactive

theorem Bookkeeping.losesOnly_acquireLease :
    LosesOnly clock supervisor s request r (acquireLease supervisor clock request r s).2.1 := by
  intro id lease hfind hactive
  unfold acquireLease
  split_ifs with hid
  · exact Or.inl hfind
  · rcases find?_pruned_or_expired clock hfind with hswept | hidle
    · dsimp only
      cases hfound : (supervisor.findPool request.poolId s).1 with
      | none => exact Or.inl hswept
      | some pool =>
        rcases (h.pruned clock).acquireFromPool_loses (htruth _ _ hfound).2 hswept hactive with
          hkept | ⟨hs, hp, hsession, hlive⟩
        · exact Or.inl hkept
        · exact Or.inr (Or.inr ⟨hs, hp, hsession, pool, hfound, hlive⟩)
    · exact Or.inr (Or.inl hidle)

theorem Bookkeeping.acquireLease_recorded
    (hactive : (acquireLease supervisor clock request r s).1.state = .active) :
    (acquireLease supervisor clock request r s).2.1.leases.find?
        (acquireLease supervisor clock request r s).1.leaseId =
      some (acquireLease supervisor clock request r s).1 ∧
    (acquireLease supervisor clock request r s).1.poolId = request.poolId ∧
    (acquireLease supervisor clock request r s).1.sessionId = request.sessionId := by
  unfold acquireLease at hactive ⊢
  split_ifs at hactive ⊢ with hid
  · cases hactive
  · dsimp only at hactive ⊢
    cases hfound : (supervisor.findPool request.poolId s).1 with
    | none =>
      rw [hfound] at hactive
      cases hactive
    | some pool =>
      rw [hfound] at hactive
      obtain ⟨hpool, hsafe⟩ := htruth _ _ hfound
      exact (h.pruned clock).acquireFromPool_recorded hpool hsafe hactive

/-- **An id that is not Active is never acquired again.** -/
theorem Bookkeeping.acquireLease_ne {k : ℕ} (hk : k < r.nextLeaseSerial)
    (hnot : ¬ ActiveAt r (leaseIdOf k))
    (hactive : (acquireLease supervisor clock request r s).1.state = .active) :
    (acquireLease supervisor clock request r s).1.leaseId ≠ leaseIdOf k := by
  intro hid
  have hmoves : ReflTransGen (RouterMove clock) r _ := h.acquireLease_moves htruth request
  refine (evolves_of_moves hmoves).not_activeAt hk hnot ⟨_, ?_, hactive⟩
  rw [← hid]
  exact (h.acquireLease_recorded htruth hactive).1

end Acquire

end Leasing
end MasterControl
