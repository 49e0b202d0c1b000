import MasterControl.Gateway.Lifecycle

/-!
# What the status of the gateway says

Between two calls the gateway is idle or up (`Settled`).  Whatever `Start` fails at, it ends idle;
where it succeeds, everything is bound and the threads are its own.  `Stop` ends idle but for the
TLS fields of the status, which it leaves.
-/

namespace MasterControl
namespace Gateway

open Foundation

/-! ## Idle and up -/

/-- Every handle of HTTP.sys is closed. -/
structure NativeGateway.Closed (g : NativeGateway) : Prop where
  serverSession : g.serverSession = false
  urlGroup : g.urlGroup = none
  requestQueue : g.requestQueue = false

/-- The listener is bound, and its threads were started by the last run. -/
structure NativeGateway.Listening (g : NativeGateway) : Prop where
  running : g.running = true
  serverSession : g.serverSession = true
  requestQueue : g.requestQueue = true
  urlGroup : ∃ group, g.urlGroup = some group ∧ group.httpPrefix = true ∧ group.bound = true
  serveThread : g.serveThread = some g.runs
  workerThreads : g.workerThreads = List.replicate kGatewayWorkerCount g.runs

/-- The status announces TLS. -/
def GatewayStatus.AnnouncesTls (status : GatewayStatus) : Prop :=
  status.tlsBound = true ∨ status.mcpUrlTls ≠ "" ∨ status.tlsCertThumbprint ≠ ""

structure Idle (configuration : McpGatewayConfiguration) (g : NativeGateway) : Prop where
  closed : g.Closed
  running : g.running = false
  serveThread : g.serveThread = none
  workerThreads : g.workerThreads = []
  state : g.status.state ≠ .running ∧ g.status.state ≠ .stopping
  startedAtUtc : g.status.startedAtUtc = ""
  mcpUrl : g.status.mcpUrl = composeMcpUrl configuration
  disabled : configuration.enabled = false → g.httpInitialized = false

structure Up (configuration : McpGatewayConfiguration) (g : NativeGateway) : Prop where
  enabled : configuration.enabled = true
  listening : g.Listening
  state : g.status.state = .running
  mcpUrl : g.status.mcpUrl = composeMcpUrl configuration
  tls : g.status.tlsBound = true → (∃ group, g.urlGroup = some group ∧ group.tlsPrefix = true) ∧
    configuration.tlsEnabled = true ∧ configuration.tlsCertThumbprint ≠ ""
  noTls : g.status.tlsBound = false → ¬ g.status.AnnouncesTls

/-- Idle without announcing TLS, or up. -/
def Settled (configuration : McpGatewayConfiguration) (g : NativeGateway) : Prop :=
  Idle configuration g ∧ ¬ g.status.AnnouncesTls ∨ Up configuration g

/-! ## Start -/

section Start

variable {configuration : McpGatewayConfiguration} {now : String} {outcomes : HttpSysOutcomes}
  {g : NativeGateway}

theorem idle_constructGateway (configuration : McpGatewayConfiguration) :
    Idle configuration (constructGateway configuration) where
  closed := ⟨rfl, rfl, rfl⟩
  running := rfl
  serveThread := rfl
  workerThreads := rfl
  state := by
    unfold constructGateway
    dsimp only
    split <;> exact ⟨GatewayState.noConfusion, GatewayState.noConfusion⟩
  startedAtUtc := rfl
  mcpUrl := rfl
  disabled _ := rfl

/-- What a start is in the middle of: no thread runs yet, and the status is as it was. -/
structure Starting (configuration : McpGatewayConfiguration) (status : GatewayStatus)
    (g : NativeGateway) : Prop where
  enabled : configuration.enabled = true
  serveThread : g.serveThread = none
  workerThreads : g.workerThreads = []
  unchanged : g.status = status
  startedAtUtc : status.startedAtUtc = ""
  mcpUrl : status.mcpUrl = composeMcpUrl configuration

/-- How a start ends: idle, with the TLS fields as they were, or up. -/
def Ends (configuration : McpGatewayConfiguration) (status : GatewayStatus)
    (after : NativeGateway) : Prop :=
  Idle configuration after ∧ (after.status.AnnouncesTls ↔ status.AnnouncesTls) ∨
    Up configuration after

variable {status : GatewayStatus} {tlsBound : Bool} {tlsResult : Nat}

theorem announcesTls_fail (h : g.status = status) (message : String) :
    (g.fail message).status.AnnouncesTls ↔ status.AnnouncesTls := by
  rw [← h]
  exact Iff.rfl

/-- A failure that closes everything ends idle. -/
theorem Starting.ends_fail (h : Starting configuration status g) (message : String) :
    Ends configuration status (g.fail message).closeHttpSysHandles := by
  refine Or.inl ⟨⟨⟨rfl, rfl, rfl⟩, rfl, h.serveThread, h.workerThreads,
    ⟨GatewayState.noConfusion, GatewayState.noConfusion⟩, ?_, ?_, fun _ => rfl⟩,
    announcesTls_fail h.unchanged message⟩
  · exact (congrArg GatewayStatus.startedAtUtc h.unchanged).trans h.startedAtUtc
  · exact (congrArg GatewayStatus.mcpUrl h.unchanged).trans h.mcpUrl

theorem Starting.ends_listen (h : Starting configuration status g)
    (hsession : g.serverSession = true) (hqueue : g.requestQueue = true)
    (hgroup : g.urlGroup = some { httpPrefix := true, tlsPrefix := tlsBound, bound := true }) :
    Ends configuration status (g.listen configuration now tlsBound tlsResult) := by
  refine Or.inr ⟨h.enabled, ⟨rfl, hsession, hqueue, ⟨_, hgroup, rfl, rfl⟩, rfl, ?_⟩, rfl,
    (congrArg GatewayStatus.mcpUrl h.unchanged).trans h.mcpUrl, fun hready => ?_, fun hready => ?_⟩
  · change g.workerThreads ++ _ = _
    rw [h.workerThreads]
    rfl
  · change tlsRuntimeReady configuration tlsBound = true at hready
    rw [tlsRuntimeReady, Bool.and_eq_true, Bool.and_eq_true, decide_eq_true_iff] at hready
    obtain ⟨⟨henabled, hbound⟩, hdeclared⟩ := hready
    exact ⟨⟨_, hgroup, hbound⟩, henabled, hdeclared⟩
  · change tlsRuntimeReady configuration tlsBound = false at hready
    unfold GatewayStatus.AnnouncesTls NativeGateway.listen
    dsimp only
    rw [hready, if_neg Bool.false_ne_true, if_neg Bool.false_ne_true]
    simp

theorem Starting.ends_startQueue (h : Starting configuration status g)
    (hsession : g.serverSession = true)
    (hgroup : g.urlGroup = some { httpPrefix := true, tlsPrefix := tlsBound }) :
    Ends configuration status (g.startQueue configuration now outcomes tlsBound tlsResult) := by
  unfold NativeGateway.startQueue
  split
  · exact h.ends_fail _
  · dsimp only
    split
    · refine Starting.ends_fail ?_ _
      exact ⟨h.enabled, h.serveThread, h.workerThreads, h.unchanged, h.startedAtUtc, h.mcpUrl⟩
    · refine Starting.ends_listen ?_ hsession rfl ?_
      · exact ⟨h.enabled, h.serveThread, h.workerThreads, h.unchanged, h.startedAtUtc, h.mcpUrl⟩
      · dsimp only
        rw [hgroup]
        rfl

theorem Starting.ends_startPrefixes (h : Starting configuration status g)
    (hsession : g.serverSession = true) :
    Ends configuration status (g.startPrefixes configuration now outcomes) := by
  unfold NativeGateway.startPrefixes
  dsimp only
  split
  · exact h.ends_fail _
  · refine Starting.ends_startQueue ?_ hsession rfl
    exact ⟨h.enabled, h.serveThread, h.workerThreads, h.unchanged, h.startedAtUtc, h.mcpUrl⟩

theorem Starting.ends_startSession (h : Starting configuration status g) (hclosed : g.Closed)
    (hrunning : g.running = false) :
    Ends configuration status (g.startSession configuration now outcomes) := by
  unfold NativeGateway.startSession
  split
  · -- the one exit that closes nothing finds everything closed
    refine Or.inl ⟨⟨⟨hclosed.serverSession, hclosed.urlGroup, hclosed.requestQueue⟩, hrunning,
      h.serveThread, h.workerThreads, ⟨GatewayState.noConfusion, GatewayState.noConfusion⟩,
      (congrArg GatewayStatus.startedAtUtc h.unchanged).trans h.startedAtUtc,
      (congrArg GatewayStatus.mcpUrl h.unchanged).trans h.mcpUrl, fun hdisabled => ?_⟩,
      announcesTls_fail h.unchanged _⟩
    rw [h.enabled] at hdisabled
    cases hdisabled
  · dsimp only
    split
    · refine Starting.ends_fail ?_ _
      exact ⟨h.enabled, h.serveThread, h.workerThreads, h.unchanged, h.startedAtUtc, h.mcpUrl⟩
    · refine Starting.ends_startPrefixes ?_ rfl
      exact ⟨h.enabled, h.serveThread, h.workerThreads, h.unchanged, h.startedAtUtc, h.mcpUrl⟩

/-- **A start that finds the gateway idle** ends idle or up. -/
theorem Idle.ends_start (h : Idle configuration g) :
    Ends configuration g.status (g.start configuration now outcomes) := by
  unfold NativeGateway.start
  split
  · exact Or.inl ⟨⟨⟨h.closed.serverSession, h.closed.urlGroup, h.closed.requestQueue⟩, h.running,
      h.serveThread, h.workerThreads, ⟨GatewayState.noConfusion, GatewayState.noConfusion⟩,
      h.startedAtUtc, h.mcpUrl, h.disabled⟩, Iff.rfl⟩
  · next henabled =>
    rw [Bool.not_eq_true', Bool.not_eq_false] at henabled
    rw [h.running, if_neg Bool.false_ne_true]
    split
    · exact Or.inl ⟨⟨⟨h.closed.serverSession, h.closed.urlGroup, h.closed.requestQueue⟩, h.running,
        h.serveThread, h.workerThreads, ⟨GatewayState.noConfusion, GatewayState.noConfusion⟩,
        h.startedAtUtc, h.mcpUrl, h.disabled⟩, Iff.rfl⟩
    · refine Starting.ends_startSession ?_ ?_ rfl
      · exact ⟨henabled, h.serveThread, h.workerThreads, rfl, h.startedAtUtc, h.mcpUrl⟩
      · exact ⟨h.closed.serverSession, h.closed.urlGroup, h.closed.requestQueue⟩

/-- A gateway that is up stays as it is. -/
theorem Up.start_eq (h : Up configuration g) : g.start configuration now outcomes = g := by
  unfold NativeGateway.start
  rw [h.enabled, h.listening.running]
  rfl

end Start

/-! ## Stop -/

section Stop

variable {configuration : McpGatewayConfiguration} {g : NativeGateway}

/-- A gateway that is idle stays idle, with the TLS fields as they were. -/
theorem Idle.stop (h : Idle configuration g) :
    Idle configuration g.stop ∧ (g.stop.status.AnnouncesTls ↔ g.status.AnnouncesTls) := by
  have hnothing : (!g.running && !g.requestQueue) = true := by
    rw [h.running, h.closed.requestQueue]
    rfl
  unfold NativeGateway.stop
  rw [if_neg h.state.2, if_pos hnothing]
  split
  · exact ⟨⟨⟨h.closed.serverSession, h.closed.urlGroup, h.closed.requestQueue⟩, h.running,
      h.serveThread, h.workerThreads, ⟨GatewayState.noConfusion, GatewayState.noConfusion⟩, rfl,
      h.mcpUrl, h.disabled⟩, Iff.rfl⟩
  · exact ⟨h, Iff.rfl⟩

/-- A gateway that is up ends idle, with the TLS fields as they were. -/
theorem Up.stop (h : Up configuration g) :
    Idle configuration g.stop ∧ (g.stop.status.AnnouncesTls ↔ g.status.AnnouncesTls) := by
  have hstate : ¬ g.status.state = .stopping := by
    rw [h.state]
    exact GatewayState.noConfusion
  unfold NativeGateway.stop
  rw [if_neg hstate, h.listening.running, if_neg (by simp)]
  exact ⟨⟨⟨rfl, rfl, rfl⟩, rfl, rfl, rfl, ⟨GatewayState.noConfusion, GatewayState.noConfusion⟩,
    rfl, h.mcpUrl, fun _ => rfl⟩, Iff.rfl⟩

end Stop

/-! ## Runs -/

/-- No gateway is stopped while it announces TLS. -/
def NotStoppedUnderTls (g : NativeGateway) (call : LifecycleCall) : Prop :=
  call = .stop → g.status.tlsBound = false

theorem settled_of_reachable {configuration : McpGatewayConfiguration} {g : NativeGateway}
    (h : (gatewayLifecycle configuration).ReachableBy NotStoppedUnderTls g) :
    Settled configuration g := by
  refine h.invariant ?_ fun g call hsettled hallowed => ?_
  · refine Or.inl ⟨idle_constructGateway configuration, ?_⟩
    change ¬ (constructGateway configuration).status.AnnouncesTls
    unfold GatewayStatus.AnnouncesTls constructGateway
    simp
  · cases call with
    | start now outcomes =>
      rcases hsettled with ⟨hidle, hquiet⟩ | hup
      · exact hidle.ends_start.imp_left fun ⟨hidle, htls⟩ => ⟨hidle, mt htls.mp hquiet⟩
      · change Settled configuration (g.start configuration now outcomes)
        rw [hup.start_eq]
        exact Or.inr hup
    | stop =>
      rcases hsettled with ⟨hidle, hquiet⟩ | hup
      · exact Or.inl ⟨hidle.stop.1, mt hidle.stop.2.mp hquiet⟩
      · exact Or.inl ⟨hup.stop.1, mt hup.stop.2.mp (hup.noTls (hallowed rfl))⟩

/-- What can be seen of the gateway: its status, and what is open. -/
def NativeGateway.visible (g : NativeGateway) :
    GatewayStatus × Bool × Bool × Bool × Option UrlGroup × Bool :=
  (g.status, g.running, g.httpInitialized, g.serverSession, g.urlGroup, g.requestQueue)

/-- The status says what is. -/
structure TruthfulStatus (configuration : McpGatewayConfiguration) (g : NativeGateway) : Prop where
  running : g.status.state = .running ↔ g.Listening
  tls : g.status.AnnouncesTls → g.status.state = .running ∧
    (∃ group, g.urlGroup = some group ∧ group.tlsPrefix = true) ∧
    configuration.tlsEnabled = true ∧ configuration.tlsCertThumbprint ≠ ""
  /-- A start that fails leaves nothing open. -/
  failed : ∀ now outcomes, (g.start configuration now outcomes).status.state ≠ .running →
    (g.start configuration now outcomes).Closed
  /-- A start of a gateway that does not run is like the first. -/
  asFirst : g.running = false → ∀ now outcomes, outcomes.httpInitialize = NO_ERROR →
    (g.start configuration now outcomes).visible =
      ((constructGateway configuration).start configuration now outcomes).visible

section Truth

variable {configuration : McpGatewayConfiguration} {g : NativeGateway}

/-- A start reads nothing of an idle gateway that the first one does not. -/
theorem Idle.visible_start (h : Idle configuration g) (hquiet : ¬ g.status.AnnouncesTls)
    (now : String) {outcomes : HttpSysOutcomes} (hready : outcomes.httpInitialize = NO_ERROR) :
    (g.start configuration now outcomes).visible =
      ((constructGateway configuration).start configuration now outcomes).visible := by
  obtain ⟨⟨state, message, mcpUrl, startedAtUtc, tlsBound, mcpUrlTls, tlsCertThumbprint⟩, running,
    httpInitialized, serverSession, urlGroup, requestQueue, serveThread, workerThreads, runs⟩ := g
  obtain ⟨⟨hsession, hgroup, hqueue⟩, hrunning, hserve, hworkers, -, hstarted, hurl, hdisabled⟩ := h
  unfold GatewayStatus.AnnouncesTls at hquiet
  rw [not_or, not_or, not_not, not_not] at hquiet
  obtain ⟨htls, hmcpUrlTls, hthumbprint⟩ := hquiet
  have htls' := Bool.eq_false_iff.mpr htls
  dsimp only at *
  subst hsession hgroup hqueue hrunning hserve hworkers hstarted hurl hmcpUrlTls hthumbprint htls'
  cases henabled : configuration.enabled with
  | false =>
    unfold NativeGateway.start NativeGateway.visible constructGateway
    rw [henabled, hdisabled henabled]
    rfl
  | true =>
    have hinitialize : ∀ initialized : Bool,
        (!initialized && decide (outcomes.httpInitialize ≠ NO_ERROR)) = false := by
      intro initialized
      rw [hready]
      simp
    unfold NativeGateway.start
    rw [henabled, Bool.not_true, if_neg Bool.false_ne_true, if_neg Bool.false_ne_true]
    unfold constructGateway
    dsimp only
    rw [if_neg Bool.false_ne_true, if_neg Bool.false_ne_true, hinitialize, hinitialize,
      if_neg Bool.false_ne_true, if_neg Bool.false_ne_true]
    unfold NativeGateway.startSession
    split
    · rfl
    · dsimp only
      split
      · rfl
      · unfold NativeGateway.startPrefixes
        dsimp only
        split
        · rfl
        · unfold NativeGateway.startQueue
          split
          · rfl
          · dsimp only
            split <;> rfl

theorem Idle.truthful (h : Idle configuration g) (hquiet : ¬ g.status.AnnouncesTls) :
    TruthfulStatus configuration g where
  running := iff_of_false h.state.1 fun hlistening => by
    have hrunning := hlistening.running
    rw [h.running] at hrunning
    cases hrunning
  tls htls := absurd htls hquiet
  failed now outcomes hstate := by
    have hends : Ends configuration g.status (g.start configuration now outcomes) := h.ends_start
    rcases hends with ⟨hidle, -⟩ | hup
    · exact hidle.closed
    · exact absurd hup.state hstate
  asFirst _ now _ hready := h.visible_start hquiet now hready

theorem Up.truthful (h : Up configuration g) : TruthfulStatus configuration g where
  running := iff_of_true h.state h.listening
  tls htls := by
    cases hbound : g.status.tlsBound with
    | false => exact absurd htls (h.noTls hbound)
    | true => exact ⟨h.state, h.tls hbound⟩
  failed now outcomes hstate := by
    rw [h.start_eq] at hstate
    exact absurd h.state hstate
  asFirst hrunning := by
    rw [h.listening.running] at hrunning
    cases hrunning

end Truth

/-- **The status of the gateway is truthful** after every sequence of starts and stops, whatever
fails in them, as long as no gateway is stopped while it announces TLS. -/
theorem gateway_status_truthful (configuration : McpGatewayConfiguration) {g : NativeGateway}
    (h : (gatewayLifecycle configuration).ReachableBy NotStoppedUnderTls g) :
    TruthfulStatus configuration g := by
  rcases settled_of_reachable h with ⟨hidle, hquiet⟩ | hup
  · exact hidle.truthful hquiet
  · exact hup.truthful

/-- A configuration with TLS and a certificate. -/
def tlsConfiguration : McpGatewayConfiguration :=
  { enabled := true, tlsEnabled := true, tlsCertThumbprint := "c0ffee" }

/-- A start where the TLS prefix is refused, and a stop. -/
theorem gateway_status_truthful_stopped :
    TruthfulStatus tlsConfiguration ((gatewayLifecycle tlsConfiguration).run
      (constructGateway tlsConfiguration)
        [.start "2026-01-01T00:00:00Z" { addTlsUrl := fun _ => ERROR_ACCESS_DENIED }, .stop]) :=
  gateway_status_truthful tlsConfiguration (TransitionSystem.ReachableBy.init.run _
    ⟨fun h => (by cases h), fun _ => (by decide +kernel), trivial⟩)

/-- **A stopped gateway announces TLS**: it was started with every step succeeding, and stopped. -/
theorem stopped_gateway_announces_tls :
    let g := (gatewayLifecycle tlsConfiguration).run (constructGateway tlsConfiguration)
      [.start "2026-01-01T00:00:00Z" {}, .stop]
    g.status.state = .stopped ∧ g.urlGroup = none ∧ g.status.tlsBound = true ∧
      g.status.mcpUrlTls = "https://127.0.0.1:8443/mcp" ∧ ¬ TruthfulStatus tlsConfiguration g := by
  refine ⟨by decide +kernel, by decide +kernel, by decide +kernel, by decide +kernel, fun h => ?_⟩
  have hstate := (h.tls (Or.inl (by decide +kernel))).1
  exact absurd hstate (by decide +kernel)

end Gateway
end MasterControl
