import MasterControl.Gateway.Dispatch
import MasterControl.Leasing.ActiveLeases

/-!
# The leases of tool calls

A `tools/call` that reaches the router goes through three sections: it acquires a lease,
it waits for the bridge, and it settles the lease on its way out.  The sections of
different calls, and the other operations of the router, come in any order
(`toolCallSystem`).

A stateless call releases its lease by a scope guard, a session's call does so if the
bridge failed.  Leases also go by the idle sweep, by a release from outside, and by
another call of the same session, so `lease_conservation` speaks of what a call itself
does: what it acquires, what it takes away, and what is left when it has returned.
-/

namespace MasterControl
namespace Gateway

open Foundation Supervisor Leasing Stdio Relation

/-! ## Calls -/

/-- Where a call is. -/
inductive CallPhase where
  /-- It could not acquire a lease. -/
  | refused
  /-- It waits for the bridge. -/
  | bridging (lease : EndpointLease)
  /-- The bridge has answered. -/
  | settling (lease : EndpointLease) (bridgeSucceeded : Bool)
  | returned (lease : EndpointLease) (bridgeSucceeded : Bool)
  deriving DecidableEq

/-- The lease a call has acquired. -/
def CallPhase.lease? : CallPhase → Option EndpointLease
  | .refused => none
  | .bridging lease => some lease
  | .settling lease _ => some lease
  | .returned lease _ => some lease

structure ToolCall where
  request : LeaseRequest
  phase : CallPhase
  deriving DecidableEq

/-- The router and the calls that have asked it for a lease, in the order they did. -/
structure ToolCalls where
  router : LeaseRouter
  calls : List ToolCall

/-- The phase after the acquire. -/
def acquiredPhase (lease : EndpointLease) : CallPhase :=
  if lease.state ≠ .active then .refused else .bridging lease

/-- What a call does to its lease after the bridge: a session's lease goes if the bridge
failed, then the scope guard of a stateless call goes off. -/
def settleLease (clock : RouterClock) (request : LeaseRequest) (lease : EndpointLease)
    (bridgeSucceeded : Bool) (r : LeaseRouter) : LeaseRouter :=
  let r :=
    if !bridgeSucceeded && request.stateful then
      (releaseLease clock lease.leaseId
        "stdio bridge failure; session will rebind on the next call" r).2
    else r
  if !request.stateful then (releaseLease clock lease.leaseId "tools/call complete" r).2 else r

/-- One section of a call, or an operation of the router from elsewhere. -/
inductive ToolCallStep where
  | router (step : RouterStep)
  | acquire (clock : RouterClock) (supervisor : IWorkerSupervisor Unit) (job : GatewayRequestJob)
    (poolId : String)
  | bridge (call : Nat) (bridgeResult : StdioBridgeResult)
  | settle (call : Nat) (clock : RouterClock)

/-- The call asks for its lease. -/
def acquireForCall (clock : RouterClock) (supervisor : IWorkerSupervisor Unit)
    (request : LeaseRequest) (c : ToolCalls) : ToolCalls :=
  let acquired := acquireLease supervisor clock request c.router ()
  { router := acquired.2.1
    calls := c.calls ++ [{ request := request, phase := acquiredPhase acquired.1 }] }

/-- The bridge answers a call that waits for it. -/
def bridgeReturns (call : Nat) (bridgeResult : StdioBridgeResult) (c : ToolCalls) : ToolCalls :=
  match c.calls[call]? with
  | some ⟨request, .bridging lease⟩ =>
    { c with calls := c.calls.set call ⟨request, .settling lease bridgeResult.succeeded⟩ }
  | _ => c

/-- A call returns once the bridge has answered it. -/
def callReturns (call : Nat) (clock : RouterClock) (c : ToolCalls) : ToolCalls :=
  match c.calls[call]? with
  | some ⟨request, .settling lease bridgeSucceeded⟩ =>
    { router := settleLease clock request lease bridgeSucceeded c.router
      calls := c.calls.set call ⟨request, .returned lease bridgeSucceeded⟩ }
  | _ => c

def performCall (c : ToolCalls) : ToolCallStep → ToolCalls
  | .router step => { c with router := performRouter c.router step }
  | .acquire clock supervisor job poolId =>
    acquireForCall clock supervisor (leaseRequestFor job poolId) c
  | .bridge call bridgeResult => bridgeReturns call bridgeResult c
  | .settle call clock => callReturns call clock c

def toolCallSystem (idleTimeoutSeconds : Int) : TransitionSystem ToolCalls ToolCallStep where
  init := { router := LeaseRouter.create idleTimeoutSeconds, calls := [] }
  step := performCall

/-- The supervisor of a step is truthful. -/
def TruthfulCallStep (_ : ToolCalls) : ToolCallStep → Prop
  | .router step => Truthful step.supervisor ()
  | .acquire _ supervisor _ _ => Truthful supervisor ()
  | .bridge _ _ => True
  | .settle _ _ => True

variable {clock : RouterClock} {r : LeaseRouter} {c : ToolCalls} {call : ToolCall}
  {request : LeaseRequest} {lease : EndpointLease} {bridgeSucceeded : Bool}

theorem bridgeReturns_cases (n : Nat) (bridgeResult : StdioBridgeResult) (c : ToolCalls) :
    bridgeReturns n bridgeResult c = c ∨
      ∃ request lease, c.calls[n]? = some ⟨request, .bridging lease⟩ ∧
        bridgeReturns n bridgeResult c =
          { c with calls := c.calls.set n ⟨request, .settling lease bridgeResult.succeeded⟩ } := by
  unfold bridgeReturns
  split
  · rename_i request lease hcall
    exact Or.inr ⟨request, lease, hcall, rfl⟩
  · exact Or.inl rfl

theorem callReturns_cases (n : Nat) (clock : RouterClock) (c : ToolCalls) :
    callReturns n clock c = c ∨
      ∃ request lease bridgeSucceeded,
        c.calls[n]? = some ⟨request, .settling lease bridgeSucceeded⟩ ∧
        callReturns n clock c =
          { router := settleLease clock request lease bridgeSucceeded c.router
            calls := c.calls.set n ⟨request, .returned lease bridgeSucceeded⟩ } := by
  unfold callReturns
  split
  · rename_i request lease succeeded hcall
    exact Or.inr ⟨request, lease, succeeded, hcall, rfl⟩
  · exact Or.inl rfl

/-! ## Settling -/

/-- Whether a call gives its lease back. -/
def GivesBack (request : LeaseRequest) (bridgeSucceeded : Bool) : Prop :=
  request.stateful = false ∨ bridgeSucceeded = false

/-- **Settling, by cases**: the lease is released, or the router is left as it is. -/
theorem settleLease_cases (clock : RouterClock) (request : LeaseRequest) (lease : EndpointLease)
    (bridgeSucceeded : Bool) (r : LeaseRouter) :
    (GivesBack request bridgeSucceeded ∧ ∃ reason,
      settleLease clock request lease bridgeSucceeded r =
        (releaseLease clock lease.leaseId reason r).2) ∨
    (request.stateful = true ∧ bridgeSucceeded = true ∧
      settleLease clock request lease bridgeSucceeded r = r) := by
  unfold settleLease GivesBack
  cases hstateful : request.stateful with
  | false =>
    refine Or.inl ⟨Or.inl rfl, "tools/call complete", ?_⟩
    simp
  | true =>
    cases bridgeSucceeded with
    | false =>
      refine Or.inl ⟨Or.inr rfl,
        "stdio bridge failure; session will rebind on the next call", ?_⟩
      simp
    | true => exact Or.inr ⟨rfl, rfl, rfl⟩

theorem settleLease_moves (clock : RouterClock) (request : LeaseRequest) (lease : EndpointLease)
    (bridgeSucceeded : Bool) (r : LeaseRouter) :
    ReflTransGen (RouterMove clock) r (settleLease clock request lease bridgeSucceeded r) := by
  rcases settleLease_cases clock request lease bridgeSucceeded r with
    ⟨-, reason, heq⟩ | ⟨-, -, heq⟩
  · rw [heq]
    exact releaseLease_moves _ _ _ _
  · rw [heq]

/-- Settling touches no lease but the call's own. -/
theorem find?_settleLease_of_ne {id : String} (hne : id ≠ lease.leaseId) :
    (settleLease clock request lease bridgeSucceeded r).leases.find? id = r.leases.find? id := by
  rcases settleLease_cases clock request lease bridgeSucceeded r with
    ⟨-, reason, heq⟩ | ⟨-, -, heq⟩
  · rw [heq, find?_releaseLease_of_ne hne]
  · rw [heq]

/-- **A lease that is given back is not Active afterwards.** -/
theorem not_activeAt_settleLease (hback : GivesBack request bridgeSucceeded) :
    ¬ ActiveAt (settleLease clock request lease bridgeSucceeded r) lease.leaseId := by
  rcases settleLease_cases clock request lease bridgeSucceeded r with
    ⟨-, reason, heq⟩ | ⟨hstateful, hsucceeded, -⟩
  · rw [heq]
    exact not_activeAt_releaseLease _ _ _ _
  · rcases hback with hstateless | hfailed
    · rw [hstateful] at hstateless
      cases hstateless
    · rw [hsucceeded] at hfailed
      cases hfailed

/-! ## The calls along a run -/

/-- What holds of one call and the router, at any time. -/
structure CallHolds (r : LeaseRouter) (call : ToolCall) : Prop where
  stateful : call.request.stateful = decide (call.request.sessionId ≠ "")
  /-- The call's lease carries a serial already given out. -/
  issued : ∀ lease, call.phase.lease? = some lease →
    ∃ k, k < r.nextLeaseSerial ∧ lease.leaseId = leaseIdOf k
  /-- As long as it is recorded, it is a lease of the call's pool and session. -/
  own : ∀ lease, call.phase.lease? = some lease → ∀ recorded,
    r.leases.find? lease.leaseId = some recorded →
    recorded.poolId = call.request.poolId ∧ recorded.sessionId = call.request.sessionId
  /-- What has been given back is not Active. -/
  settled : ∀ lease bridgeSucceeded, call.phase = .returned lease bridgeSucceeded →
    GivesBack call.request bridgeSucceeded → ¬ ActiveAt r lease.leaseId

/-- Whatever the router does, what holds of a call stays. -/
theorem CallHolds.evolve {r' : LeaseRouter} (h : CallHolds r call) (hr : Evolves r r') :
    CallHolds r' call := by
  refine ⟨h.stateful, fun lease hlease => ?_, fun lease hlease recorded hfind => ?_,
    fun lease succeeded hphase hback => ?_⟩
  · obtain ⟨k, hk, hid⟩ := h.issued lease hlease
    exact ⟨k, lt_of_lt_of_le hk hr.serial, hid⟩
  · rcases hr.kept hfind with ⟨earlier, hfind', hpool, -, hsession, -⟩ | ⟨l, hl, hid⟩
    · rw [hpool, hsession]
      exact h.own lease hlease earlier hfind'
    · obtain ⟨k, hk, hid'⟩ := h.issued lease hlease
      have := leaseIdOf_inj (hid'.symm.trans hid)
      omega
  · obtain ⟨k, hk, hid⟩ := h.issued lease (by rw [hphase]; rfl)
    have hnot := h.settled lease succeeded hphase hback
    rw [hid] at hnot ⊢
    exact hr.not_activeAt hk hnot

/-- What holds of the router and all calls, at any time. -/
structure CallsConsistent (c : ToolCalls) : Prop where
  book : Bookkeeping c.router
  holds : ∀ call ∈ c.calls, CallHolds c.router call

/-- A call that has just asked for a lease. -/
theorem callHolds_acquired {supervisor : IWorkerSupervisor Unit} (h : Bookkeeping r)
    (htruth : Truthful supervisor ()) (job : GatewayRequestJob) (poolId : String) :
    CallHolds (acquireLease supervisor clock (leaseRequestFor job poolId) r ()).2.1
      { request := leaseRequestFor job poolId
        phase := acquiredPhase
          (acquireLease supervisor clock (leaseRequestFor job poolId) r ()).1 } := by
  have hmoves : ReflTransGen (RouterMove clock) r _ :=
    h.acquireLease_moves htruth (leaseRequestFor job poolId)
  have hbook := h.moves hmoves
  unfold acquiredPhase
  split_ifs with hstate
  · exact ⟨rfl, fun _ hlease => (by cases hlease), fun _ hlease => (by cases hlease),
      fun _ _ hphase => (by cases hphase)⟩
  · obtain ⟨hfind, hpool, hsession⟩ := h.acquireLease_recorded htruth (not_not.mp hstate)
    refine ⟨rfl, fun lease hlease => ?_, fun lease hlease recorded hfind' => ?_,
      fun _ _ hphase => (by cases hphase)⟩
    · cases hlease
      exact (hbook.issued hfind).2
    · cases hlease
      rw [hfind] at hfind'
      cases hfind'
      exact ⟨hpool, hsession⟩

theorem CallsConsistent.evolve {r' : LeaseRouter} (h : CallsConsistent c)
    (hm : ReflTransGen (RouterMove clock) c.router r') :
    CallsConsistent { c with router := r' } where
  book := h.book.moves hm
  holds call hcall := (h.holds call hcall).evolve (evolves_of_moves hm)

/-- A call that moves on keeps what holds of it, if its lease is the same and is not yet
settled, or no longer Active. -/
theorem CallsConsistent.set {phase phase' : CallPhase} {n : Nat} (h : CallsConsistent c)
    (hcall : c.calls[n]? = some ⟨request, phase⟩) (hlease : phase'.lease? = phase.lease?)
    (hsettled : ∀ lease bridgeSucceeded, phase' = .returned lease bridgeSucceeded →
      GivesBack request bridgeSucceeded → ¬ ActiveAt c.router lease.leaseId) :
    CallsConsistent { c with calls := c.calls.set n ⟨request, phase'⟩ } := by
  refine ⟨h.book, fun call hmem => ?_⟩
  rcases List.mem_or_eq_of_mem_set hmem with hold | rfl
  · exact h.holds call hold
  · have hold := h.holds _ (List.mem_of_getElem? hcall)
    exact ⟨hold.stateful, fun lease h => hold.issued lease (hlease ▸ h),
      fun lease h => hold.own lease (hlease ▸ h), hsettled⟩

/-- **Every step keeps the calls consistent.** -/
theorem CallsConsistent.perform (h : CallsConsistent c) {step : ToolCallStep}
    (htruth : TruthfulCallStep c step) : CallsConsistent (performCall c step) := by
  cases step with
  | router step => exact h.evolve (h.book.performRouter_moves htruth)
  | acquire clock supervisor job poolId =>
    have hmoves : ReflTransGen (RouterMove clock) c.router _ :=
      h.book.acquireLease_moves htruth (leaseRequestFor job poolId)
    have hold := h.evolve hmoves
    refine ⟨hold.book, fun call hmem => ?_⟩
    rcases List.mem_append.mp hmem with hmem | hmem
    · exact hold.holds call hmem
    · obtain rfl := List.mem_singleton.mp hmem
      exact callHolds_acquired h.book htruth job poolId
  | bridge n bridgeResult =>
    show CallsConsistent (bridgeReturns n bridgeResult c)
    rcases bridgeReturns_cases n bridgeResult c with heq | ⟨request, lease, hcall, heq⟩
    · rw [heq]
      exact h
    · rw [heq]
      refine h.set hcall rfl ?_
      intro _ _ hphase
      cases hphase
  | settle n clock =>
    show CallsConsistent (callReturns n clock c)
    rcases callReturns_cases n clock c with heq | ⟨request, lease, succeeded, hcall, heq⟩
    · rw [heq]
      exact h
    · rw [heq]
      have hmoved := h.evolve (settleLease_moves clock request lease succeeded c.router)
      refine hmoved.set hcall rfl ?_
      intro lease' succeeded' hphase hback
      cases hphase
      exact not_activeAt_settleLease hback

theorem reachable_callsConsistent {idleTimeoutSeconds : Int}
    (h : (toolCallSystem idleTimeoutSeconds).ReachableBy TruthfulCallStep c) :
    CallsConsistent c :=
  h.invariant ⟨bookkeeping_create _, fun _ hmem => (by cases hmem)⟩ fun _ _ hc htruth =>
    hc.perform htruth

/-- What may take an Active lease away. -/
inductive TakenBy (c : ToolCalls) (id : String) (lease : EndpointLease) : ToolCallStep → Prop
  /-- It was released from outside. -/
  | released (clock : RouterClock) (supervisor : IWorkerSupervisor Unit) (reason : String) :
    TakenBy c id lease (.router ⟨clock, supervisor, .releaseLease id reason⟩)
  /-- It was idle for the whole window when the router was asked something else. -/
  | expired {step : RouterStep} : idleExpired step.clock c.router id = true →
    TakenBy c id lease (.router step)
  | stale {clock : RouterClock} {supervisor : IWorkerSupervisor Unit} {request : LeaseRequest} :
    StaleFor supervisor () request lease →
    TakenBy c id lease (.router ⟨clock, supervisor, .acquireLease request⟩)
  /-- The same, when a call asked for a lease. -/
  | callExpired {clock : RouterClock} (supervisor : IWorkerSupervisor Unit)
    (job : GatewayRequestJob) (poolId : String) : idleExpired clock c.router id = true →
    TakenBy c id lease (.acquire clock supervisor job poolId)
  | callStale (clock : RouterClock) {supervisor : IWorkerSupervisor Unit}
    {job : GatewayRequestJob} {poolId : String} :
    StaleFor supervisor () (leaseRequestFor job poolId) lease →
    TakenBy c id lease (.acquire clock supervisor job poolId)
  /-- A call of the lease's own pool and session gave it back. -/
  | givenBack {n : Nat} {request : LeaseRequest} {held : EndpointLease} {bridgeSucceeded : Bool}
    (clock : RouterClock) :
    c.calls[n]? = some ⟨request, .settling held bridgeSucceeded⟩ → held.leaseId = id →
    GivesBack request bridgeSucceeded → request.poolId = lease.poolId →
    request.sessionId = lease.sessionId → TakenBy c id lease (.settle n clock)

/-- **An Active lease stays as it is, unless something takes it away.** -/
theorem CallsConsistent.active_kept (h : CallsConsistent c) {step : ToolCallStep}
    (htruth : TruthfulCallStep c step) {id : String} (hfind : c.router.leases.find? id = some lease)
    (hactive : lease.state = .active) :
    (performCall c step).router.leases.find? id = some lease ∨ TakenBy c id lease step := by
  cases step with
  | router step =>
    obtain ⟨clock, supervisor, routerCall⟩ := step
    cases routerCall with
    | acquireLease request =>
      rcases h.book.losesOnly_acquireLease htruth id lease hfind hactive with
        hkept | hidle | hstale
      · exact Or.inl hkept
      · exact Or.inr (.expired hidle)
      · exact Or.inr (.stale hstale)
    | releaseLease leaseId reason =>
      by_cases hid : id = leaseId
      · subst hid
        exact Or.inr (.released clock supervisor reason)
      · refine Or.inl ?_
        show (releaseLease clock leaseId reason c.router).2.leases.find? id = some lease
        rw [find?_releaseLease_of_ne hid, hfind]
    | activeLeases poolId => exact (find?_pruned_or_expired _ hfind).imp_right .expired
    | saturationFor poolId =>
      show (saturationFor supervisor clock poolId c.router ()).2.1.leases.find? id = some lease ∨ _
      rw [saturationFor_router]
      exact (find?_pruned_or_expired _ hfind).imp_right .expired
  | acquire clock supervisor job poolId =>
    rcases h.book.losesOnly_acquireLease htruth id lease hfind hactive with
      hkept | hidle | hstale
    · exact Or.inl hkept
    · exact Or.inr (.callExpired supervisor job poolId hidle)
    · exact Or.inr (.callStale clock hstale)
  | bridge n bridgeResult =>
    refine Or.inl ?_
    show (bridgeReturns n bridgeResult c).router.leases.find? id = some lease
    rcases bridgeReturns_cases n bridgeResult c with heq | ⟨request, held, hcall, heq⟩
    · rwa [heq]
    · rwa [heq]
  | settle n clock =>
    show (callReturns n clock c).router.leases.find? id = some lease ∨ _
    rcases callReturns_cases n clock c with heq | ⟨request, held, succeeded, hcall, heq⟩
    · rw [heq]
      exact Or.inl hfind
    · rw [heq]
      dsimp only
      rcases settleLease_cases clock request held succeeded c.router with
        ⟨hback, -⟩ | ⟨-, -, heq⟩
      · by_cases hid : id = held.leaseId
        · have hown := (h.holds _ (List.mem_of_getElem? hcall)).own held rfl lease (hid ▸ hfind)
          exact Or.inr (.givenBack clock hcall hid.symm hback hown.1.symm hown.2.symm)
        · rw [find?_settleLease_of_ne hid]
          exact Or.inl hfind
      · rw [heq]
        exact Or.inl hfind

/-! ## Conservation -/

/-- What a caller may rely on about the leases of tool calls. -/
structure LeasesConserved (c : ToolCalls) : Prop where
  /-- An acquire makes at most its own lease Active, and takes none away that is neither
  expired nor the stale lease of its own session. -/
  acquiring : ∀ clock supervisor job poolId, Truthful supervisor () →
    ActivatesOnly (acquireLease supervisor clock (leaseRequestFor job poolId) c.router ()).1
      c.router (acquireLease supervisor clock (leaseRequestFor job poolId) c.router ()).2.1 ∧
    LosesOnly clock supervisor () (leaseRequestFor job poolId) c.router
      (acquireLease supervisor clock (leaseRequestFor job poolId) c.router ()).2.1
  /-- A call that could not acquire makes no lease Active. -/
  refused : ∀ clock supervisor job poolId, Truthful supervisor () →
    (acquireLease supervisor clock (leaseRequestFor job poolId) c.router ()).1.state ≠ .active →
    ∀ id lease, (acquireLease supervisor clock (leaseRequestFor job poolId)
      c.router ()).2.1.leases.find? id = some lease → lease.state = .active →
      c.router.leases.find? id = some lease
  /-- A call that returns changes no lease but its own. -/
  returning : ∀ n clock request lease bridgeSucceeded,
    c.calls[n]? = some ⟨request, .settling lease bridgeSucceeded⟩ → ∀ id, id ≠ lease.leaseId →
    (performCall c (.settle n clock)).router.leases.find? id = c.router.leases.find? id
  /-- A session's call whose bridge succeeded leaves the router as it is. -/
  succeeding : ∀ n clock request lease, c.calls[n]? = some ⟨request, .settling lease true⟩ →
    request.sessionId ≠ "" → (performCall c (.settle n clock)).router = c.router
  /-- Once a stateless call has returned, or a call whose bridge failed, its lease is
  Released, unless it is already collected, and no acquire returns it. -/
  returned : ∀ request lease bridgeSucceeded,
    ⟨request, .returned lease bridgeSucceeded⟩ ∈ c.calls →
    request.sessionId = "" ∨ bridgeSucceeded = false →
    (∀ recorded, c.router.leases.find? lease.leaseId = some recorded →
      recorded.state = .released) ∧
    ∀ clock supervisor next, Truthful supervisor () →
      (acquireLease supervisor clock next c.router ()).1.state = .active →
      (acquireLease supervisor clock next c.router ()).1.leaseId ≠ lease.leaseId
  /-- As long as the lease of a session's call is Active, the session leads to it. -/
  session : ∀ call ∈ c.calls, ∀ lease, call.phase.lease? = some lease →
    call.request.sessionId ≠ "" → ActiveAt c.router lease.leaseId →
    c.router.stickySessions.find? (stickyKey call.request.poolId call.request.sessionId) =
      some lease.leaseId
  /-- And it stays as it is unless something else takes it away. -/
  kept : ∀ step, TruthfulCallStep c step → ∀ id lease,
    c.router.leases.find? id = some lease → lease.state = .active →
    (performCall c step).router.leases.find? id = some lease ∨ TakenBy c id lease step

theorem CallsConsistent.leasesConserved (h : CallsConsistent c) : LeasesConserved c where
  acquiring clock supervisor job poolId htruth :=
    ⟨h.book.activatesOnly_acquireLease htruth, h.book.losesOnly_acquireLease htruth⟩
  refused clock supervisor job poolId htruth hfailed id lease hfind hactive := by
    rcases h.book.activatesOnly_acquireLease htruth id lease hfind hactive with
      hold | ⟨rfl, -⟩
    · exact hold
    · exact absurd hactive hfailed
  returning n clock request lease succeeded hcall id hne := by
    show (callReturns n clock c).router.leases.find? id = _
    simp only [callReturns, hcall]
    exact find?_settleLease_of_ne hne
  succeeding n clock request lease hcall hsession := by
    have hstateful := (h.holds _ (List.mem_of_getElem? hcall)).stateful
    rw [decide_eq_true hsession] at hstateful
    show (callReturns n clock c).router = _
    simp only [callReturns, hcall]
    rcases settleLease_cases clock request lease true c.router with
      ⟨hstateless | hfailed, -⟩ | ⟨-, -, heq⟩
    · rw [hstateless] at hstateful
      cases hstateful
    · cases hfailed
    · exact heq
  returned request lease succeeded hmem hback := by
    have hholds := h.holds _ hmem
    have hnot : ¬ ActiveAt c.router lease.leaseId := by
      refine hholds.settled lease succeeded rfl (hback.imp_left fun hs => ?_)
      rw [hholds.stateful]
      simp [hs]
    refine ⟨fun recorded hfind => ?_, fun clock supervisor next htruth hactive => ?_⟩
    · rcases h.book.state hfind with hactive | hreleased
      · exact absurd ⟨recorded, hfind, hactive⟩ hnot
      · exact hreleased
    obtain ⟨k, hk, hid⟩ := hholds.issued lease rfl
    rw [hid] at hnot ⊢
    exact h.book.acquireLease_ne htruth hk hnot hactive
  session call hmem lease hlease hsession hactive := by
    obtain ⟨recorded, hfind, hstate⟩ := hactive
    obtain ⟨hp, hs⟩ := (h.holds _ hmem).own lease hlease recorded hfind
    exact h.book.sticky.mpr ⟨recorded, hfind, hstate, hs ▸ hsession, by rw [hp, hs]⟩
  kept step htruth id lease hfind hactive := h.active_kept htruth hfind hactive

/-- **The leases of tool calls are conserved**, in every state of every run with a
truthful supervisor. -/
theorem lease_conservation {idleTimeoutSeconds : Int}
    (h : (toolCallSystem idleTimeoutSeconds).ReachableBy TruthfulCallStep c) :
    LeasesConserved c :=
  (reachable_callsConsistent h).leasesConserved

/-! ### Two calls of one session, and leases that others take away -/

/-- The first lease of the pool `p`. -/
def firstLease (sessionId : String) : EndpointLease :=
  { leaseId := "lease-1", poolId := "p", instanceId := "p#1", sessionId := sessionId,
    acquiredAtUtc := "2026-01-01T00:00:00Z",
    statusMessage := "Lease bound to least-loaded Ready instance." }

/-- Two calls of one session share a lease; the bridge fails the first and answers the
second, and the first returns. -/
def sharedSession : ToolCalls :=
  (toolCallSystem 900).run (toolCallSystem 900).init
    [.acquire someClock onePoolSupervisor { body := [], sessionId := "s" } "p",
     .acquire someClock onePoolSupervisor { body := [], sessionId := "s" } "p",
     .bridge 0 { succeeded := false }, .bridge 1 { succeeded := true }, .settle 0 someClock]

/-- A stateless call whose lease is released from outside and swept before it returns. -/
def collectedCall : ToolCalls :=
  (toolCallSystem 900).run (toolCallSystem 900).init
    [.acquire someClock onePoolSupervisor { body := [] } "p",
     .router ⟨someClock, onePoolSupervisor, .releaseLease "lease-1" ""⟩,
     .router ⟨{ someClock with steadyNow := seconds 900 }, onePoolSupervisor, .activeLeases "p"⟩,
     .bridge 0 { succeeded := true }, .settle 0 someClock]

/-- A stateless call that holds the first lease. -/
def statelessCall : ToolCalls :=
  (toolCallSystem 900).run (toolCallSystem 900).init
    [.acquire someClock onePoolSupervisor { body := [] } "p"]

theorem reachable_sharedSession :
    (toolCallSystem 900).ReachableBy TruthfulCallStep sharedSession :=
  TransitionSystem.ReachableBy.init.run _
    ⟨truthful_onePoolSupervisor, truthful_onePoolSupervisor, trivial, trivial, trivial, trivial⟩

theorem reachable_collectedCall :
    (toolCallSystem 900).ReachableBy TruthfulCallStep collectedCall :=
  TransitionSystem.ReachableBy.init.run _
    ⟨truthful_onePoolSupervisor, truthful_onePoolSupervisor, truthful_onePoolSupervisor,
      trivial, trivial, trivial⟩

theorem reachable_statelessCall :
    (toolCallSystem 900).ReachableBy TruthfulCallStep statelessCall :=
  TransitionSystem.ReachableBy.init.run _ ⟨truthful_onePoolSupervisor, trivial⟩

theorem lease_conservation_sharedSession : LeasesConserved sharedSession :=
  lease_conservation reachable_sharedSession

/-- The lease of a successful call may be gone when it returns, the lease of a stateless
call may be collected, and an acquire that fails may take an Active lease away. -/
theorem leases_taken_from_calls :
    (¬ ∀ c, (toolCallSystem 900).ReachableBy TruthfulCallStep c →
      ∀ n clock request lease, c.calls[n]? = some ⟨request, .settling lease true⟩ →
        request.sessionId ≠ "" →
        ActiveAt (performCall c (.settle n clock)).router lease.leaseId) ∧
    (¬ ∀ c, (toolCallSystem 900).ReachableBy TruthfulCallStep c →
      ∀ request lease bridgeSucceeded, ⟨request, .returned lease bridgeSucceeded⟩ ∈ c.calls →
        request.sessionId = "" →
        ∃ recorded, c.router.leases.find? lease.leaseId = some recorded ∧
          recorded.state = .released) ∧
    ¬ ∀ c, (toolCallSystem 900).ReachableBy TruthfulCallStep c →
      ∀ clock supervisor job poolId, Truthful supervisor () →
        (acquireLease supervisor clock (leaseRequestFor job poolId) c.router ()).1.state ≠ .active →
        ∀ id, ActiveAt c.router id → ActiveAt
          (acquireLease supervisor clock (leaseRequestFor job poolId) c.router ()).2.1 id := by
  refine ⟨fun h => ?_, fun h => ?_, fun h => ?_⟩
  · have hcall : sharedSession.calls[1]? =
        some ⟨leaseRequestFor { body := [], sessionId := "s" } "p",
          .settling (firstLease "s") true⟩ := by decide
    obtain ⟨lease, hfind, hactive⟩ :=
      h sharedSession reachable_sharedSession 1 someClock _ _ hcall (by decide)
    have hreleased : ((performCall sharedSession (.settle 1 someClock)).router.leases.find?
        (firstLease "s").leaseId).map EndpointLease.state = some .released := by decide
    rw [hfind, Option.map_some, hactive] at hreleased
    cases hreleased
  · have hcall : ⟨leaseRequestFor { body := [] } "p", .returned (firstLease "") true⟩ ∈
        collectedCall.calls := by decide
    obtain ⟨recorded, hfind, -⟩ :=
      h collectedCall reachable_collectedCall _ _ _ hcall (by decide)
    have hnone : collectedCall.router.leases.find? (firstLease "").leaseId = none := by decide
    rw [hnone] at hfind
    cases hfind
  · -- the first lease expires when a call for an unknown pool arrives
    obtain ⟨lease, hfind, hactive⟩ := h statelessCall reachable_statelessCall
      { someClock with steadyNow := seconds 900 } onePoolSupervisor { body := [] } "q"
      truthful_onePoolSupervisor (by decide) "lease-1" ⟨firstLease "", by decide, rfl⟩
    have hreleased : ((acquireLease onePoolSupervisor { someClock with steadyNow := seconds 900 }
        (leaseRequestFor { body := [] } "q") statelessCall.router ()).2.1.leases.find?
        "lease-1").map EndpointLease.state = some .released := by decide
    rw [hfind, Option.map_some, hactive] at hreleased
    cases hreleased

end Gateway
end MasterControl
