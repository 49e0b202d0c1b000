import MasterControl.Supervisor.Capacity

/-!
# The crash circuit breaker

The supervisor counts worker deaths per pool in a sliding window and quarantines a pool
that loses `kCrashThreshold` workers inside it.  To say what should be counted, a run is
watched: `Watched` keeps beside the supervisor the time of every death its log received
(`newDeaths`) and the last clock reading.

* **Deaths are counted** and the breaker opens with them, in every step of a run in which
  no failed write hits a listed instance: `sendStdioJsonRpc` logs such a death and does
  not count it.
* **A quarantined pool gets no new worker**, except from `ensureMinInstances`, in every
  step that does not call `scaleUpOnce` on a quarantined pool with room: `scaleUpOnce`
  does not consult the quarantine.
-/

namespace MasterControl
namespace Supervisor

open Foundation Relation

variable {host : Host} {s t u : WorkerSupervisor} {p q : String}

/-! ## The window -/

/-- The deaths the supervisor has counted for a pool and not pruned. -/
def failureTimes (s : WorkerSupervisor) (p : String) : List TimePoint :=
  (s.poolFailureTimestamps.find? p).getD []

/-- The times inside the window that ends now. -/
def recent (now : TimePoint) (times : List TimePoint) : List TimePoint :=
  times.filter (inCrashWindow now)

theorem recent_append (now : TimePoint) (l m : List TimePoint) :
    recent now (l ++ m) = recent now l ++ recent now m :=
  List.filter_append l m

/-- What leaves the window does not come back. -/
theorem recent_recent {now now' : TimePoint} (h : now ≤ now') (l : List TimePoint) :
    recent now' (recent now l) = recent now' l := by
  rw [recent, recent, recent, List.filter_filter]
  refine List.filter_congr fun t _ => ?_
  have hwindow : inCrashWindow now' t = true → inCrashWindow now t = true := by
    simp only [inCrashWindow, decide_eq_true_eq]
    exact le_trans (Int.sub_le_sub_right h _)
  cases h' : inCrashWindow now' t with
  | true => rw [hwindow h', Bool.and_self]
  | false => rw [Bool.false_and]

/-- Only the failure timestamps matter for `failureTimes`. -/
theorem failureTimes_congr (h : t.poolFailureTimestamps = s.poolFailureTimestamps) (p : String) :
    failureTimes t p = failureTimes s p := by
  rw [failureTimes, failureTimes, h]

theorem quarantined_congr (h : t.poolQuarantineUntil = s.poolQuarantineUntil) (p : String)
    (now : TimePoint) : isPoolQuarantinedLocked t p now = isPoolQuarantinedLocked s p now := by
  rw [isPoolQuarantinedLocked, isPoolQuarantinedLocked, h]

/-! ## One death -/

/-- A counted death joins the window of its pool. -/
theorem failureTimes_registerFailure (host : Host) (p q : String) (s : WorkerSupervisor) :
    failureTimes (registerFailure host p s) q =
      if p = q then recent host.steadyNow (failureTimes s q ++ [host.steadyNow])
      else failureTimes s q := by
  have hinsert : ∀ l : List TimePoint,
      ((s.poolFailureTimestamps.insert p l).find? q).getD [] =
        if p = q then l else failureTimes s q := by
    intro l
    rw [OrdMap.find?_insert]
    split_ifs <;> rfl
  have hlist : p = q → failureTimes s p = failureTimes s q := fun hpq => by rw [hpq]
  unfold registerFailure
  dsimp only
  split_ifs with _ hpq hpq
  · rw [failureTimes, hinsert, if_pos hpq, ← hlist hpq]; rfl
  · rw [failureTimes, hinsert, if_neg hpq]
  · rw [failureTimes, hinsert, if_pos hpq, ← hlist hpq]; rfl
  · rw [failureTimes, hinsert, if_neg hpq]

/-- **At the threshold the pool is quarantined**, and no quarantine ends. -/
theorem quarantined_registerFailure (host : Host) (p q : String) (s : WorkerSupervisor) :
    isPoolQuarantinedLocked (registerFailure host p s) q host.steadyNow =
      (isPoolQuarantinedLocked s q host.steadyNow ||
        (decide (p = q) &&
          decide (kCrashThreshold ≤ (failureTimes (registerFailure host p s) q).length))) := by
  rw [failureTimes_registerFailure]
  by_cases hpq : p = q
  · subst hpq
    rw [if_pos rfl]
    unfold registerFailure
    dsimp only
    have hsame : ((s.poolFailureTimestamps.find? p).getD [] ++ [host.steadyNow]).filter
        (inCrashWindow host.steadyNow) = recent host.steadyNow
          (failureTimes s p ++ [host.steadyNow]) := rfl
    rw [hsame]
    have hquar : ∀ ts, isPoolQuarantinedLocked { s with poolFailureTimestamps := ts } p
        host.steadyNow = isPoolQuarantinedLocked s p host.steadyNow := fun _ => rfl
    rw [hquar]
    by_cases hle : kCrashThreshold ≤ (recent host.steadyNow
        (failureTimes s p ++ [host.steadyNow])).length
    · cases hq : isPoolQuarantinedLocked s p host.steadyNow with
      | true => simp [hle, hquar, hq]
      | false =>
        simp only [hle, decide_true, Bool.not_false, Bool.and_self, if_true, Bool.or_true]
        simp [isPoolQuarantinedLocked, seconds, kQuarantineCooldownSeconds]
    · simp [hle, hquar]
  · have hother : isPoolQuarantinedLocked (registerFailure host p s) q host.steadyNow =
        isPoolQuarantinedLocked s q host.steadyNow := by
      unfold registerFailure
      dsimp only
      split_ifs
      · rw [isPoolQuarantinedLocked, OrdMap.find?_insert_of_ne _ hpq, isPoolQuarantinedLocked]
      · rfl
    rw [hother]
    simp [hpq]

/-! ## One step -/

/-- The times of the deaths of one pool, all observed at one clock reading. -/
def deathTimes (d : List DeathLogEntry) (now : TimePoint) (p : String) : List TimePoint :=
  (d.filter fun e => e.poolId = p).map fun _ => now

/-- The log gained the deaths `d`, the window counts them, the breaker opened where it
had to, and no quarantine ended. -/
structure Observes (host : Host) (s t : WorkerSupervisor) (d : List DeathLogEntry) : Prop where
  counted : ∀ p now, host.steadyNow ≤ now →
    recent now (failureTimes t p) =
      recent now (failureTimes s p ++ deathTimes d host.steadyNow p)
  opened : ∀ e ∈ d,
    kCrashThreshold ≤ (recent host.steadyNow (failureTimes t e.poolId)).length →
      isPoolQuarantinedLocked t e.poolId host.steadyNow = true
  lasting : ∀ p, isPoolQuarantinedLocked s p host.steadyNow = true →
    isPoolQuarantinedLocked t p host.steadyNow = true

/-- A step that touches neither the window nor the quarantines. -/
theorem observes_of_eq (hf : t.poolFailureTimestamps = s.poolFailureTimestamps)
    (hq : t.poolQuarantineUntil = s.poolQuarantineUntil) : Observes host s t [] where
  counted p now _ := by rw [failureTimes_congr hf, deathTimes]; simp
  opened e he := by cases he
  lasting p hp := by rwa [quarantined_congr hq]

/-- The log only grows, by the deaths observed. -/
def Logged (host : Host) (s t : WorkerSupervisor) : Prop :=
  ∃ d, t.deathLog = s.deathLog ++ d ∧ Observes host s t d

theorem logged_of_eq (hl : t.deathLog = s.deathLog)
    (hf : t.poolFailureTimestamps = s.poolFailureTimestamps)
    (hq : t.poolQuarantineUntil = s.poolQuarantineUntil) : Logged host s t :=
  ⟨[], by rw [hl, List.append_nil], observes_of_eq hf hq⟩

/-- Fields the breaker does not read may change on the way. -/
theorem Logged.congr (h : Logged host s t) (hl : u.deathLog = t.deathLog)
    (hf : u.poolFailureTimestamps = t.poolFailureTimestamps)
    (hq : u.poolQuarantineUntil = t.poolQuarantineUntil) : Logged host s u := by
  obtain ⟨d, hd, hcounted, hopened, hlasting⟩ := h
  refine ⟨d, hl.trans hd, ?_, ?_, ?_⟩
  · intro p now hnow
    rw [failureTimes_congr hf, hcounted p now hnow]
  · intro e he hcount
    rw [failureTimes_congr hf] at hcount
    rw [quarantined_congr hq]
    exact hopened e he hcount
  · intro p hp
    rw [quarantined_congr hq]
    exact hlasting p hp

/-- **A death is logged, counted, and may open the breaker.** -/
theorem Logged.death (h : Logged host s t) (htu : Death host t u) : Logged host s u := by
  obtain ⟨d, hd, hcounted, hopened, hlasting⟩ := h
  cases htu with
  | @intro p i code hi _ =>
    let t' : WorkerSupervisor :=
      { modifyPool p (fun pool => { pool with instances := pool.instances.erase i }) t with
        children := t.children.erase i.instanceId
        deathLog := t.deathLog ++ [⟨p, i.instanceId, i.state.toString, code⟩] }
    have hu : removeDead host p i code t = registerFailure host p t' := by
      simp [removeDead, t']
    have htimes : ∀ q, failureTimes t' q = failureTimes t q :=
      fun q => failureTimes_congr (modifyPool_poolFailureTimestamps _) q
    have hquar : ∀ q now, isPoolQuarantinedLocked t' q now = isPoolQuarantinedLocked t q now :=
      fun q now => quarantined_congr (modifyPool_poolQuarantineUntil _) q now
    rw [hu]
    refine ⟨d ++ [⟨p, i.instanceId, i.state.toString, code⟩], ?_, ?_, ?_, ?_⟩
    · rw [registerFailure_deathLog]
      show t.deathLog ++ _ = _
      rw [hd, List.append_assoc]
    · intro q now hnow
      have hsplit : deathTimes (d ++ [⟨p, i.instanceId, i.state.toString, code⟩]) host.steadyNow q
          = deathTimes d host.steadyNow q ++ if p = q then [host.steadyNow] else [] := by
        rw [deathTimes, List.filter_append, List.map_append, deathTimes]
        by_cases hpq : p = q <;> simp [hpq]
      rw [failureTimes_registerFailure, htimes, hsplit, ← List.append_assoc]
      by_cases hpq : p = q
      · rw [if_pos hpq, if_pos hpq, recent_recent hnow, recent_append, recent_append,
          hcounted q now hnow]
      · rw [if_neg hpq, if_neg hpq, List.append_nil]
        exact hcounted q now hnow
    · intro e he hcount
      rw [quarantined_registerFailure, hquar]
      by_cases hpe : p = e.poolId
      · have hrecent : recent host.steadyNow (failureTimes (registerFailure host p t') e.poolId) =
            failureTimes (registerFailure host p t') e.poolId := by
          rw [failureTimes_registerFailure, if_pos hpe, recent_recent le_rfl]
        rw [hrecent] at hcount
        simp [hpe, hpe ▸ hcount]
      · rw [failureTimes_registerFailure, if_neg hpe, htimes] at hcount
        rcases List.mem_append.mp he with he | he
        · rw [hopened e he hcount, Bool.true_or]
        · rw [List.mem_singleton.mp he] at hpe
          exact absurd rfl hpe
    · intro q hq
      rw [quarantined_registerFailure, hquar, hlasting q hq, Bool.true_or]

theorem Refill.breaker (h : Refill host s t) :
    t.deathLog = s.deathLog ∧ t.poolFailureTimestamps = s.poolFailureTimestamps ∧
      t.poolQuarantineUntil = s.poolQuarantineUntil := by
  cases h with
  | respawn _ _ _ _ =>
    exact ⟨respawnOne_deathLog, respawnOne_poolFailureTimestamps, respawnOne_poolQuarantineUntil⟩
  | touch =>
    exact ⟨modifyPool_deathLog _, modifyPool_poolFailureTimestamps _,
      modifyPool_poolQuarantineUntil _⟩

theorem Start.breaker (h : Start host p s t) :
    t.deathLog = s.deathLog ∧ t.poolFailureTimestamps = s.poolFailureTimestamps ∧
      t.poolQuarantineUntil = s.poolQuarantineUntil := by
  cases h with
  | spawn _ _ =>
    exact ⟨spawnOne_deathLog, spawnOne_poolFailureTimestamps, spawnOne_poolQuarantineUntil⟩
  | touch =>
    exact ⟨modifyPool_deathLog _, modifyPool_poolFailureTimestamps _,
      modifyPool_poolQuarantineUntil _⟩

theorem logged_reapDeadInstancesLocked (h : WellFormed s) :
    Logged host s (reapDeadInstancesLocked host s) :=
  reapDeadInstancesLocked_invariant (I := Logged host s) (fun _ _ => Logged.death)
    (fun _ _ ht htu => ht.congr htu.breaker.1 htu.breaker.2.1 htu.breaker.2.2) h
    (logged_of_eq rfl rfl rfl)

theorem logged_ensureMinInstances (h : WellFormed s) :
    Logged host s (ensureMinInstances host p s).2 := by
  cases hs : s.shuttingDown with
  | true =>
    rw [ensureMinInstances_of_shuttingDown hs]
    exact logged_of_eq rfl rfl rfl
  | false =>
    exact invariant_of_moves (I := Logged host s)
      (fun _ _ ht htu => ht.congr htu.breaker.1 htu.breaker.2.1 htu.breaker.2.2)
      (ensureMinInstances_starts host p hs) (logged_reapDeadInstancesLocked h)

theorem logged_scaleUpOnce (h : WellFormed s) : Logged host s (scaleUpOnce host p s).2 := by
  have hpass : Logged host s (reapDeadInstancesLocked host s) := logged_reapDeadInstancesLocked h
  rcases scaleUpOnce_cases host p s with heq | heq | ⟨pool, -, -, -, heq⟩
  · rw [heq]; exact logged_of_eq rfl rfl rfl
  · rw [heq]; exact hpass
  · rw [heq]
    exact hpass.congr (by simp) (by simp) (by simp)

/-! ## Starts and quarantines -/

/-- Pools under quarantine have no worker they did not have before. -/
def NoNewWorkers (host : Host) (s t : WorkerSupervisor) : Prop :=
  ∀ p, isPoolQuarantinedLocked t p host.steadyNow = true → workersOf t p ⊆ workersOf s p

/-- A start in a pool that is not quarantined. -/
theorem NoNewWorkers.spawnOne (hn : NoNewWorkers host s t) (h : WellFormed t)
    {pool : ManagedEndpointPool} (hp : t.pools.find? p = some pool)
    (hopen : isPoolQuarantinedLocked t p host.steadyNow = false) :
    NoNewWorkers host s (spawnOne host p t) := by
  intro q hq
  rw [quarantined_congr spawnOne_poolQuarantineUntil] at hq
  have hpq : p ≠ q := by
    rintro rfl
    rw [hopen] at hq
    cases hq
  exact List.Subset.trans (workersOf_spawnOne_subset h hp hpq) (hn q hq)

theorem NoNewWorkers.shrink (hn : NoNewWorkers host s t) (hs : Shrinks t u)
    (hq : u.poolQuarantineUntil = t.poolQuarantineUntil) : NoNewWorkers host s u := by
  intro p hp
  rw [quarantined_congr hq] at hp
  exact List.Subset.trans (workersOf_subset hs p) (hn p hp)

/-- **The pass starts no worker in a quarantined pool.** -/
theorem noNewWorkers_reapDeadInstancesLocked (h : WellFormed s) :
    NoNewWorkers host s (reapDeadInstancesLocked host s) := by
  -- while workers die the quarantines may change, but no worker is started
  have hdeaths : WellFormed (reapDead host s) ∧ ∀ p, workersOf (reapDead host s) p ⊆
      workersOf s p := by
    refine invariant_of_moves
      (I := fun t => WellFormed t ∧ ∀ p, workersOf t p ⊆ workersOf s p) (fun t u ht htu => ?_)
      (reapDead_deaths h) ⟨h, fun p => List.Subset.refl _⟩
    refine ⟨ht.1.death htu, fun p => ?_⟩
    cases htu with
    | intro hi _ =>
      exact List.Subset.trans (workersOf_subset (ht.1.restricts_removeDead hi).toShrinks p)
        (ht.2 p)
  -- while workers are started the quarantines stay
  refine (invariant_of_moves (I := fun t => WellFormed t ∧ NoNewWorkers host s t)
    (fun t u ht htu => ?_) reapDeadInstancesLocked_refills
    ⟨hdeaths.1, fun p _ => hdeaths.2 p⟩).2
  obtain ⟨hwf, hn⟩ := ht
  refine ⟨hwf.refill htu, ?_⟩
  cases htu with
  | @respawn p pool hp _ hopen _ =>
    have hs : Shrinks (Supervisor.spawnOne host p t) (Supervisor.respawnOne host p t) :=
      (restricts_of_eq respawnOne_pools respawnOne_children
        respawnOne_nextInstanceSerial).toShrinks
    refine (hn.spawnOne hwf hp hopen).shrink hs ?_
    rw [respawnOne_poolQuarantineUntil, spawnOne_poolQuarantineUntil]
  | touch => exact hn.shrink (restricts_touch _ _ _).toShrinks (modifyPool_poolQuarantineUntil _)

/-- `ensureMinInstances` starts workers in its own pool only, apart from the pass. -/
theorem noNewWorkers_ensureMinInstances (h : WellFormed s) (hpq : p ≠ q)
    (hq : isPoolQuarantinedLocked (ensureMinInstances host p s).2 q host.steadyNow = true) :
    workersOf (ensureMinInstances host p s).2 q ⊆ workersOf s q := by
  cases hs : s.shuttingDown with
  | true => rw [ensureMinInstances_of_shuttingDown hs]; exact List.Subset.refl _
  | false =>
    have hpass : NoNewWorkers host s (reapDeadInstancesLocked host s) :=
      noNewWorkers_reapDeadInstancesLocked h
    refine (invariant_of_moves (I := fun t => WellFormed t ∧
      (isPoolQuarantinedLocked t q host.steadyNow = true → workersOf t q ⊆ workersOf s q))
      (fun t u ht htu => ?_) (ensureMinInstances_starts host p hs)
      ⟨h.reapDeadInstancesLocked, hpass q⟩).2 hq
    obtain ⟨hwf, hn⟩ := ht
    refine ⟨hwf.start htu, fun hq => ?_⟩
    rw [quarantined_congr htu.breaker.2.2] at hq
    cases htu with
    | spawn hp _ => exact List.Subset.trans (workersOf_spawnOne_subset hwf hp hpq) (hn hq)
    | touch =>
      exact List.Subset.trans (workersOf_subset (restricts_touch _ _ _).toShrinks q) (hn hq)

/-! ## Watched runs -/

/-- A run as an outside observer sees it: beside the supervisor, every death its log ever
received and the last clock reading. -/
structure Watched where
  supervisor : WorkerSupervisor
  clock : TimePoint
  deaths : List (String × TimePoint)

/-- The deaths a step appends to the log. -/
def newDeaths (s : WorkerSupervisor) (step : SupervisorStep) : List DeathLogEntry :=
  (perform s step).deathLog.drop s.deathLog.length

def watch (o : Watched) (step : SupervisorStep) : Watched where
  supervisor := perform o.supervisor step
  clock := step.host.steadyNow
  deaths := o.deaths ++
    (newDeaths o.supervisor step).map fun e => (e.poolId, step.host.steadyNow)

/-- The supervisor under watch, from its construction at a given time on. -/
def watchedSystem (start : TimePoint) : TransitionSystem Watched SupervisorStep where
  init := ⟨{}, start, []⟩
  step := watch

/-- When the deaths of a pool were observed. -/
def observedDeaths (o : Watched) (p : String) : List TimePoint :=
  (o.deaths.filter fun e => e.1 = p).map Prod.snd

/-- What the circuit breaker is for, at one step: the window counts every observed death;
a pool that reaches the threshold is quarantined at the end of the step; a quarantine
lasts until its deadline; and a quarantined pool gets a new worker from
`ensureMinInstances` only. -/
structure BreakerHolds (o : Watched) (step : SupervisorStep) : Prop where
  counted : ∀ p, recent step.host.steadyNow (failureTimes (watch o step).supervisor p) =
    recent step.host.steadyNow (observedDeaths (watch o step) p)
  opened : ∀ e ∈ newDeaths o.supervisor step,
    kCrashThreshold ≤
        (recent step.host.steadyNow (observedDeaths (watch o step) e.poolId)).length →
      isPoolQuarantinedLocked (watch o step).supervisor e.poolId step.host.steadyNow = true
  lasting : ∀ p, isPoolQuarantinedLocked o.supervisor p step.host.steadyNow = true →
    isPoolQuarantinedLocked (watch o step).supervisor p step.host.steadyNow = true
  noStart : ∀ p,
    isPoolQuarantinedLocked (watch o step).supervisor p step.host.steadyNow = true →
      step.call ≠ .ensureMinInstances p →
        workersOf (watch o step).supervisor p ⊆ workersOf o.supervisor p

/-- `steady_clock` does not go back. -/
def ClockAdvances (o : Watched) (step : SupervisorStep) : Prop :=
  o.clock ≤ step.host.steadyNow

instance (o : Watched) (step : SupervisorStep) : Decidable (ClockAdvances o step) :=
  inferInstanceAs (Decidable ((o.clock : Int) ≤ step.host.steadyNow))

/-- No failed write hits an instance that some pool still lists. -/
def NoDeathOnWrite (s : WorkerSupervisor) (step : SupervisorStep) : Prop :=
  match step.call with
  | .stdinWriteFailed instanceId => ∀ p, ∀ i ∈ instancesOf s p, i.instanceId ≠ instanceId
  | _ => True

/-- `scaleUpOnce` finds the pool full if its pass leaves it quarantined. -/
def NoScaleUpInQuarantine (s : WorkerSupervisor) (step : SupervisorStep) : Prop :=
  match step.call with
  | .scaleUpOnce p => s.shuttingDown = false →
    isPoolQuarantinedLocked (reapDeadInstancesLocked step.host s) p step.host.steadyNow = true →
      ∀ pool, (reapDeadInstancesLocked step.host s).pools.find? p = some pool →
        max 0 pool.scalePolicy.maxInstances ≤ healthyInstanceCountLocked pool
  | _ => True

theorem Logged.observes {step : SupervisorStep} (h : Logged step.host s (perform s step)) :
    Observes step.host s (perform s step) (newDeaths s step) := by
  obtain ⟨d, hd, hobs⟩ := h
  have hnew : newDeaths s step = d := by rw [newDeaths, hd, List.drop_left]
  rw [hnew]
  exact hobs

theorem logged_stdinWriteFailed {instanceId : String}
    (h : ∀ p, ∀ i ∈ instancesOf s p, i.instanceId ≠ instanceId) :
    Logged host s (stdinWriteFailed host instanceId s) := by
  refine logged_of_eq ?_ rfl rfl
  have hnone : (s.pools.entries.filterMap fun entry =>
      (entry.2.instances.find? fun i => decide (i.instanceId = instanceId)).map fun i =>
        (⟨entry.1, instanceId, i.state.toString, 0⟩ : DeathLogEntry)) = [] := by
    refine List.filterMap_eq_nil_iff.mpr fun entry hentry => ?_
    have hp := OrdMap.mem_entries_iff.mp (show (entry.1, entry.2) ∈ s.pools.entries from hentry)
    have hfind : (entry.2.instances.find? fun i => decide (i.instanceId = instanceId)) = none := by
      refine List.find?_eq_none.mpr fun i hi => ?_
      rw [← instancesOf_of_find? hp] at hi
      simpa using h entry.1 i hi
    rw [hfind, Option.map_none]
  show s.deathLog ++ _ = s.deathLog
  rw [hnone, List.append_nil]

theorem observes_pruneCrashWindowsLocked :
    Observes host s (pruneCrashWindowsLocked host s) [] where
  counted p now hnow := by
    have hpruned : failureTimes (pruneCrashWindowsLocked host s) p =
        recent host.steadyNow (failureTimes s p) := by
      rw [failureTimes, pruneCrashWindowsLocked, OrdMap.find?_map, failureTimes]
      cases s.poolFailureTimestamps.find? p <;> rfl
    rw [hpruned, recent_recent hnow, deathTimes, List.filter_nil, List.map_nil, List.append_nil]
  opened e he := by cases he
  lasting p hp := by
    rw [isPoolQuarantinedLocked, pruneCrashWindowsLocked, OrdMap.find?_filterMap]
    rw [isPoolQuarantinedLocked] at hp
    cases hfind : s.poolQuarantineUntil.find? p with
    | none => rw [hfind] at hp; cases hp
    | some deadline =>
      rw [hfind] at hp
      have hlt : host.steadyNow < deadline := of_decide_eq_true hp
      rw [Option.bind_some, if_neg (not_le.mpr hlt)]
      exact hp

/-- **What every step does to the window**, as long as no death is missed. -/
theorem observes_perform (h : WellFormed s) {step : SupervisorStep}
    (hwrite : NoDeathOnWrite s step) :
    Observes step.host s (perform s step) (newDeaths s step) := by
  obtain ⟨host, call⟩ := step
  cases call with
  | upsertPool pool =>
    refine Logged.observes ?_
    show Logged host s (upsertPool host pool s).2
    rcases upsertPool_cases host pool s with heq | ⟨stored, heq, -⟩
    · rw [heq]; exact logged_of_eq rfl rfl rfl
    · rw [heq]; exact logged_of_eq rfl rfl rfl
  | removePool poolId =>
    refine Logged.observes ?_
    show Logged host s (removePool poolId s).2
    have hterm : Logged host s (terminateInstancesLocked poolId s) := by
      unfold terminateInstancesLocked
      split
      · exact logged_of_eq rfl rfl rfl
      · exact logged_of_eq (modifyPool_deathLog _) (modifyPool_poolFailureTimestamps _)
          (modifyPool_poolQuarantineUntil _)
    unfold removePool
    split
    · exact logged_of_eq rfl rfl rfl
    · exact hterm.congr rfl rfl rfl
  | ensureMinInstances poolId => exact Logged.observes (logged_ensureMinInstances h)
  | drainPool poolId =>
    refine Logged.observes ?_
    show Logged host s (drainPool host poolId s).2
    unfold drainPool
    split
    · exact logged_of_eq rfl rfl rfl
    · exact logged_of_eq (modifyPool_deathLog _) (modifyPool_poolFailureTimestamps _)
        (modifyPool_poolQuarantineUntil _)
  | scaleUpOnce poolId => exact Logged.observes (logged_scaleUpOnce h)
  | findPool poolId => exact Logged.observes (logged_reapDeadInstancesLocked h)
  | listPools => exact Logged.observes (logged_reapDeadInstancesLocked h)
  | shutdownAll =>
    refine Logged.observes (invariant_foldl (I := Logged host s) (fun t p ht => ?_) _
      (logged_of_eq rfl rfl rfl))
    unfold terminateInstancesLocked
    split
    · exact ht
    · exact ht.congr (modifyPool_deathLog _) (modifyPool_poolFailureTimestamps _)
        (modifyPool_poolQuarantineUntil _)
  | watchdogReap => exact Logged.observes (logged_reapDeadInstancesLocked h)
  | pruneCrashWindows =>
    have hnew : newDeaths s ⟨host, .pruneCrashWindows⟩ = [] := List.drop_length
    rw [hnew]
    exact observes_pruneCrashWindowsLocked
  | stdinWriteFailed instanceId => exact Logged.observes (logged_stdinWriteFailed hwrite)
  | handshakeConfirmed instanceId => exact Logged.observes (logged_of_eq rfl rfl rfl)
  | drainSupervisorEvents =>
    have hnew : newDeaths s ⟨host, .drainSupervisorEvents⟩ = [] := List.drop_nil
    rw [hnew]
    exact observes_of_eq rfl rfl

/-- **Which workers a step starts in a quarantined pool**: none, except by
`ensureMinInstances` and by `scaleUpOnce` on a pool with room. -/
theorem noStart_perform (h : WellFormed s) {step : SupervisorStep}
    (hscale : NoScaleUpInQuarantine s step)
    (hq : isPoolQuarantinedLocked (perform s step) p step.host.steadyNow = true)
    (hcall : step.call ≠ .ensureMinInstances p) :
    workersOf (perform s step) p ⊆ workersOf s p := by
  obtain ⟨host, call⟩ := step
  cases call with
  | upsertPool pool =>
    show workersOf (upsertPool host pool s).2 p ⊆ _
    rcases upsertPool_cases host pool s with heq | ⟨stored, heq, -, -, -, -, hinst⟩
    · rw [heq]; exact List.Subset.refl _
    · rw [heq]; exact workersOf_subset (shrinks_insert hinst) p
  | removePool poolId => exact workersOf_subset (h.restricts_removePool poolId).toShrinks p
  | ensureMinInstances poolId =>
    have hne : poolId ≠ p := fun heq => hcall (by rw [heq])
    exact noNewWorkers_ensureMinInstances h hne hq
  | drainPool poolId => exact workersOf_subset (restricts_drainPool host poolId s).toShrinks p
  | scaleUpOnce poolId =>
    have hpass : NoNewWorkers host s (reapDeadInstancesLocked host s) :=
      noNewWorkers_reapDeadInstancesLocked h
    have hq' : isPoolQuarantinedLocked (scaleUpOnce host poolId s).2 p host.steadyNow = true := hq
    show workersOf (scaleUpOnce host poolId s).2 p ⊆ _
    rcases scaleUpOnce_cases host poolId s with heq | heq | ⟨pool, hp, hs, hlt, heq⟩
    · rw [heq]; exact List.Subset.refl _
    · rw [heq] at hq' ⊢; exact hpass p hq'
    · rw [heq] at hq' ⊢
      have hopen : isPoolQuarantinedLocked (reapDeadInstancesLocked host s) poolId
          host.steadyNow = false := by
        by_contra hclosed
        have hfull := hscale hs (by simpa using hclosed) pool hp
        omega
      have hspawned := hpass.spawnOne h.reapDeadInstancesLocked hp hopen
      exact hspawned.shrink (restricts_touch _ _ _).toShrinks (modifyPool_poolQuarantineUntil _)
        p hq'
  | findPool poolId => exact noNewWorkers_reapDeadInstancesLocked h p hq
  | listPools => exact noNewWorkers_reapDeadInstancesLocked h p hq
  | shutdownAll =>
    have hflag : Restricts s { s with shuttingDown := true } := restricts_of_eq rfl rfl rfl
    exact (invariant_foldl (I := fun t => WellFormed t ∧ workersOf t p ⊆ workersOf s p)
      (fun _ q ht => ⟨ht.1.restrict (ht.1.restricts_terminateInstancesLocked q),
        List.Subset.trans
          (workersOf_subset (ht.1.restricts_terminateInstancesLocked q).toShrinks p) ht.2⟩) _
      ⟨h.restrict hflag, workersOf_subset hflag.toShrinks p⟩).2
  | watchdogReap => exact noNewWorkers_reapDeadInstancesLocked h p hq
  | pruneCrashWindows => exact List.Subset.refl _
  | stdinWriteFailed instanceId =>
    exact workersOf_subset (h.restricts_stdinWriteFailed host instanceId).toShrinks p
  | handshakeConfirmed instanceId =>
    exact workersOf_subset (restricts_handshakeConfirmed host instanceId s).toShrinks p
  | drainSupervisorEvents => exact List.Subset.refl _

/-! ## The invariant of watched runs -/

/-- Inside the window, the supervisor has counted exactly the deaths observed. -/
def Counted (o : Watched) : Prop :=
  ∀ p now, o.clock ≤ now →
    recent now (failureTimes o.supervisor p) = recent now (observedDeaths o p)

theorem observedDeaths_watch (o : Watched) (step : SupervisorStep) (p : String) :
    observedDeaths (watch o step) p =
      observedDeaths o p ++ deathTimes (newDeaths o.supervisor step) step.host.steadyNow p := by
  rw [observedDeaths, watch, List.filter_append, List.map_append, List.filter_map, List.map_map]
  rfl

theorem Counted.watch {o : Watched} (h : Counted o) {step : SupervisorStep}
    (hclock : ClockAdvances o step)
    (hobs : Observes step.host o.supervisor (perform o.supervisor step)
      (newDeaths o.supervisor step)) : Counted (watch o step) := by
  intro p now hnow
  have hlate : o.clock ≤ now := le_trans hclock hnow
  rw [observedDeaths_watch, recent_append, ← h p now hlate, ← recent_append]
  exact hobs.counted p now hnow

/-- **One step of a watched run.** -/
theorem breakerHolds_of_counted {o : Watched} (hwf : WellFormed o.supervisor) (hc : Counted o)
    {step : SupervisorStep} (hclock : ClockAdvances o step)
    (hwrite : NoDeathOnWrite o.supervisor step)
    (hscale : NoScaleUpInQuarantine o.supervisor step) : BreakerHolds o step := by
  have hobs := observes_perform hwf hwrite
  have hcounted := hc.watch hclock hobs
  refine ⟨fun p => hcounted p _ le_rfl, fun e he hle => ?_, hobs.lasting, fun p => ?_⟩
  · rw [← hcounted e.poolId step.host.steadyNow le_rfl] at hle
    exact hobs.opened e he hle
  · exact noStart_perform hwf hscale

/-- **The circuit breaker works** in every step of a run in which no failed write hits a
listed instance and no `scaleUpOnce` finds room in a quarantined pool. -/
theorem breakerHolds_of_reachable {start : TimePoint} {o : Watched} {step : SupervisorStep}
    (h : (watchedSystem start).ReachableBy (fun o step => ClockAdvances o step ∧
      NoDeathOnWrite o.supervisor step ∧ NoScaleUpInQuarantine o.supervisor step) o)
    (hclock : ClockAdvances o step) (hwrite : NoDeathOnWrite o.supervisor step)
    (hscale : NoScaleUpInQuarantine o.supervisor step) : BreakerHolds o step := by
  have hinv : WellFormed o.supervisor ∧ Counted o := by
    refine h.invariant (I := fun o => WellFormed o.supervisor ∧ Counted o)
      ⟨wellFormed_empty, fun p now _ => rfl⟩ ?_
    rintro o step ⟨hwf, hc⟩ ⟨hclock, hwrite, -⟩
    exact ⟨hwf.perform step, hc.watch hclock (observes_perform hwf hwrite)⟩
  exact breakerHolds_of_counted hinv.1 hinv.2 hclock hwrite hscale

/-! ### Five crashes, seen by the pass and seen by failed writes -/

/-- Five workers at least, six at most. -/
def crashingPool : ManagedEndpointPool :=
  { poolId := "p", template := { executable := "worker.exe" },
    scalePolicy := { minInstances := 5, maxInstances := 6 } }

/-- The working machine after all its processes have exited with code 1. -/
def crashedHost : Host := { workingHost with exitCode := fun _ => some 1 }

/-- The five workers run. -/
def fiveWorkers : Watched :=
  (watchedSystem 0).run (watchedSystem 0).init
    [⟨workingHost, .upsertPool crashingPool⟩, ⟨workingHost, .watchdogReap⟩]

theorem breakerHolds_fiveWorkers :
    BreakerHolds fiveWorkers ⟨crashedHost, .watchdogReap⟩ ∧
      isPoolQuarantinedLocked (watch fiveWorkers ⟨crashedHost, .watchdogReap⟩).supervisor "p" 0 =
        true := by
  have hreach : (watchedSystem 0).ReachableBy (fun o step => ClockAdvances o step ∧
      NoDeathOnWrite o.supervisor step ∧ NoScaleUpInQuarantine o.supervisor step) fiveWorkers :=
    TransitionSystem.ReachableBy.init.run _
      ⟨⟨by decide, trivial, trivial⟩, ⟨by decide, trivial, trivial⟩, trivial⟩
  exact ⟨breakerHolds_of_reachable hreach (by decide) trivial trivial, by decide⟩

/-- Four of the five workers died, each while it was being written to. -/
def fourWritesFailed : Watched :=
  (watchedSystem 0).run fiveWorkers
    [⟨workingHost, .stdinWriteFailed "p#1"⟩, ⟨workingHost, .stdinWriteFailed "p#2"⟩,
     ⟨workingHost, .stdinWriteFailed "p#3"⟩, ⟨workingHost, .stdinWriteFailed "p#4"⟩]

/-- All five died, and a pass noticed. -/
def quarantinedPool : Watched := watch fiveWorkers ⟨crashedHost, .watchdogReap⟩

theorem reachable_fiveWorkers : (watchedSystem 0).ReachableBy ClockAdvances fiveWorkers :=
  TransitionSystem.ReachableBy.init.run _ ⟨by decide, by decide, trivial⟩

theorem breaker_misses_failed_writes_and_scaleUp :
    (¬ ∀ o step, (watchedSystem 0).ReachableBy ClockAdvances o → ClockAdvances o step →
      ∀ e ∈ newDeaths o.supervisor step,
        kCrashThreshold ≤
            (recent step.host.steadyNow (observedDeaths (watch o step) e.poolId)).length →
          isPoolQuarantinedLocked (watch o step).supervisor e.poolId step.host.steadyNow = true) ∧
    (¬ ∀ o step, (watchedSystem 0).ReachableBy ClockAdvances o → ClockAdvances o step →
      ∀ p, isPoolQuarantinedLocked (watch o step).supervisor p step.host.steadyNow = true →
        step.call ≠ .ensureMinInstances p →
          workersOf (watch o step).supervisor p ⊆ workersOf o.supervisor p) := by
  constructor
  · intro h
    have hreach : (watchedSystem 0).ReachableBy ClockAdvances fourWritesFailed :=
      reachable_fiveWorkers.run _ ⟨by decide, by decide, by decide, by decide, trivial⟩
    have hopen := h fourWritesFailed ⟨workingHost, .stdinWriteFailed "p#5"⟩ hreach (by decide)
      ⟨"p", "p#5", "ready", 0⟩ (by decide) (by decide)
    exact absurd hopen (by decide)
  · intro h
    have hreach : (watchedSystem 0).ReachableBy ClockAdvances quarantinedPool :=
      reachable_fiveWorkers.step (by decide)
    have hsub := h quarantinedPool ⟨crashedHost, .scaleUpOnce "p"⟩ hreach (by decide) "p"
      (by decide) (by decide)
    exact absurd hsub (by decide)

end Supervisor
end MasterControl
