import MasterControl.Supervisor.CircuitBreaker

/-!
# What a removed pool leaves behind

A pool is kept in four tables under its id: its definition and its children, which `removePool`
clears, and the two maps of the crash breaker, which it does not.  `forget` clears these as well,
and `performFresh` is the supervisor that forgets an id whenever the id is registered anew: the
one for which no id was ever used before.

Beside it the real supervisor is `Alike` as long as the breaker says the same of every registered
pool.  Every step keeps that (`Alike.perform`), whatever stands in the tables under other ids, if
nothing of an id is left when it is registered anew (`NoResidue`).  What the two show of a pool is
then the same (`Alike.poolView`).
-/

namespace MasterControl
namespace Supervisor

open Foundation

variable {host : Host} {s t : WorkerSupervisor} {p q : String} {now : TimePoint}

/-! ## The breaker of a pool -/

/-- What counts of the breaker from now on: the crashes inside the window, and the deadline of a
quarantine that still runs. -/
def breakerAt (now : TimePoint) (s : WorkerSupervisor) (p : String) :
    List TimePoint × Option TimePoint :=
  (recent now (failureTimes s p), (s.poolQuarantineUntil.find? p).filter fun d => now < d)

/-- Nothing of an earlier pool of this id counts any more. -/
def NoResidue (now : TimePoint) (s : WorkerSupervisor) (p : String) : Prop :=
  breakerAt now s p = ([], none)

instance (now : TimePoint) (s : WorkerSupervisor) (p : String) : Decidable (NoResidue now s p) :=
  inferInstanceAs (Decidable (breakerAt now s p = ([], none)))

/-- The supervisor without the breaker's entries for an id. -/
def forget (p : String) (s : WorkerSupervisor) : WorkerSupervisor :=
  { s with
    poolFailureTimestamps := s.poolFailureTimestamps.erase p
    poolQuarantineUntil := s.poolQuarantineUntil.erase p }

/-- A step of the supervisor for which a new id was never used before. -/
def performFresh (s : WorkerSupervisor) (step : SupervisorStep) : WorkerSupervisor :=
  match step.call with
  | .upsertPool pool =>
    match s.pools.find? pool.poolId with
    | none => perform (forget pool.poolId s) step
    | some _ => perform s step
  | _ => perform s step

/-- What the supervisor shows of a pool: its snapshot with the table of instances, whether it is
quarantined, and how many crashes count against it. -/
def poolView (host : Host) (p : String) (s : WorkerSupervisor) :
    Option (ManagedEndpointPool × Bool × Nat) :=
  (s.pools.find? p).map fun pool =>
    (snapshot host s pool, isPoolQuarantinedLocked s p host.steadyNow,
      (recent host.steadyNow (failureTimes s p)).length)

theorem isPoolQuarantinedLocked_eq (s : WorkerSupervisor) (p : String) (now : TimePoint) :
    isPoolQuarantinedLocked s p now = (breakerAt now s p).2.isSome := by
  unfold isPoolQuarantinedLocked breakerAt
  cases s.poolQuarantineUntil.find? p with
  | none => rfl
  | some d =>
    by_cases h : now < d
    · simp [Option.filter_some, h]
    · simp [Option.filter_some, h]

theorem quarantineExpiryUtcLocked_eq (host : Host) (s : WorkerSupervisor) (p : String) :
    quarantineExpiryUtcLocked host s p =
      ((breakerAt host.steadyNow s p).2.map fun d => host.utcAfter (d - host.steadyNow)).getD "" := by
  unfold quarantineExpiryUtcLocked breakerAt
  cases s.poolQuarantineUntil.find? p with
  | none => rfl
  | some d =>
    by_cases h : host.steadyNow < d
    · simp [Option.filter_some, h, not_le.mpr h]
    · simp [Option.filter_some, h, not_lt.mp h]

/-- The breaker at a later time follows from the breaker now. -/
theorem breakerAt_later {now' : TimePoint} (h : now ≤ now') (s : WorkerSupervisor) (p : String) :
    breakerAt now' s p =
      (recent now' (breakerAt now s p).1, (breakerAt now s p).2.filter fun d => now' < d) := by
  refine Prod.ext (recent_recent h _).symm ?_
  show (s.poolQuarantineUntil.find? p).filter _ = ((s.poolQuarantineUntil.find? p).filter _).filter _
  cases s.poolQuarantineUntil.find? p with
  | none => rfl
  | some d =>
    by_cases hd : now' < d
    · simp [Option.filter_some, hd, lt_of_le_of_lt h hd]
    · by_cases hd' : now < d
      · simp [Option.filter_some, hd, hd']
      · simp [Option.filter_some, hd, hd']

theorem NoResidue.later {now' : TimePoint} (h : NoResidue now s p) (hnow : now ≤ now') :
    NoResidue now' s p := by
  rw [NoResidue, breakerAt_later hnow, h]
  rfl

theorem noResidue_forget (now : TimePoint) (p : String) (s : WorkerSupervisor) :
    NoResidue now (forget p s) p := by
  simp [NoResidue, breakerAt, failureTimes, forget, recent]

theorem breakerAt_forget_of_ne (h : q ≠ p) : breakerAt now (forget p s) q = breakerAt now s q := by
  simp [breakerAt, failureTimes, forget, OrdMap.find?_erase_of_ne _ h]

/-! ## Operations that do not look at the breaker -/

/-- The same supervisor with another breaker. -/
def withBreaker (s : WorkerSupervisor) (failures : OrdMap String (List TimePoint))
    (quarantines : OrdMap String TimePoint) : WorkerSupervisor :=
  { s with poolFailureTimestamps := failures, poolQuarantineUntil := quarantines }

/-- An operation that neither reads nor writes the breaker, and registers nothing. -/
structure Blind (f : WorkerSupervisor → WorkerSupervisor) : Prop where
  commutes : ∀ s failures quarantines,
    f (withBreaker s failures quarantines) = withBreaker (f s) failures quarantines
  registers : ∀ s p, s.pools.find? p = none → (f s).pools.find? p = none

namespace Blind

variable {f g : WorkerSupervisor → WorkerSupervisor}

theorem id : Blind fun s => s := ⟨fun _ _ _ => rfl, fun _ _ h => h⟩

theorem comp (hg : Blind g) (hf : Blind f) : Blind fun s => g (f s) where
  commutes s F Q := by rw [hf.commutes, hg.commutes]
  registers s p h := hg.registers _ p (hf.registers s p h)

theorem iterate (hf : Blind f) (n : ℕ) : Blind f^[n] := by
  induction n with
  | zero => exact id
  | succ n ih => exact ih.comp hf

theorem modifyPool (p : String) (h : ManagedEndpointPool → ManagedEndpointPool) :
    Blind (modifyPool p h) where
  commutes s F Q := by
    unfold Supervisor.modifyPool withBreaker
    dsimp only
    cases s.pools.find? p <;> rfl
  registers s q hq := by
    rw [find?_modifyPool]
    split
    · rw [hq, Option.map_none]
    · exact hq

theorem foldl {ι : Type*} {f : WorkerSupervisor → ι → WorkerSupervisor}
    (hf : ∀ i, Blind fun s => f s i) (l : List ι) : Blind fun s => l.foldl f s := by
  induction l with
  | nil => exact id
  | cons i l ih => exact ih.comp (hf i)

theorem spawnOne (host : Host) (p : String) : Blind (spawnOne host p) where
  commutes s F Q := by
    unfold Supervisor.spawnOne
    show (match s.pools.find? p with | none => _ | some pool => _) = _
    cases s.pools.find? p with
    | none => rfl
    | some pool =>
      have hstart : startInstanceLocked host pool (withBreaker s F Q) =
          ((startInstanceLocked host pool s).1,
            withBreaker (startInstanceLocked host pool s).2 F Q) := by
        unfold startInstanceLocked
        dsimp only [withBreaker]
        cases launchOutcome (host.launch s.nextInstanceSerial) pool.template <;> rfl
      dsimp only
      rw [hstart]
      exact (Blind.modifyPool p _).commutes _ F Q
  registers s q hq := by
    cases hp : s.pools.find? p with
    | none => rwa [spawnOne_of_none hp]
    | some pool =>
      rw [find?_spawnOne hp]
      split
      · next h => cases hp.symm.trans (h ▸ hq)
      · exact hq

theorem respawnOne (host : Host) (p : String) : Blind (respawnOne host p) where
  commutes s F Q := by
    unfold Supervisor.respawnOne
    show (match s.pools.find? p with | none => _ | some pool => _) = _
    cases s.pools.find? p with
    | none => rfl
    | some pool =>
      have hid : (startInstanceLocked host pool (withBreaker s F Q)).1.instanceId =
          (startInstanceLocked host pool s).1.instanceId := by
        rw [startInstanceLocked_instanceId, startInstanceLocked_instanceId]
        rfl
      dsimp only
      rw [hid, (Blind.spawnOne host p).commutes]
      rfl
  registers s q hq := by
    rw [respawnOne_pools]
    exact (Blind.spawnOne host p).registers s q hq

theorem terminateInstancesLocked (p : String) : Blind (terminateInstancesLocked p) where
  commutes s F Q := by
    unfold Supervisor.terminateInstancesLocked
    have hpools : (withBreaker s F Q).pools = s.pools := rfl
    rw [hpools]
    cases s.pools.find? p with
    | none => rfl
    | some pool =>
      dsimp only
      rw [← (Blind.modifyPool p _).commutes]
      rfl
  registers s q hq := by
    unfold Supervisor.terminateInstancesLocked
    cases s.pools.find? p with
    | none => exact hq
    | some pool => exact (Blind.modifyPool p _).registers _ q hq

theorem removePool (p : String) : Blind fun s => (removePool p s).2 where
  commutes s F Q := by
    unfold Supervisor.removePool
    have hpools : (withBreaker s F Q).pools = s.pools := rfl
    rw [hpools]
    cases s.pools.find? p with
    | none => rfl
    | some pool =>
      dsimp only
      rw [(Blind.terminateInstancesLocked p).commutes]
      rfl
  registers s q hq := by
    unfold Supervisor.removePool
    cases s.pools.find? p with
    | none => exact hq
    | some pool =>
      show ((Supervisor.terminateInstancesLocked p s).pools.erase p).find? q = none
      rw [OrdMap.find?_erase]
      split
      · rfl
      · exact (Blind.terminateInstancesLocked p).registers s q hq

theorem drainPool (host : Host) (p : String) : Blind fun s => (drainPool host p s).2 where
  commutes s F Q := by
    unfold Supervisor.drainPool
    have hpools : (withBreaker s F Q).pools = s.pools := rfl
    rw [hpools]
    cases s.pools.find? p with
    | none => rfl
    | some pool => exact (Blind.modifyPool p _).commutes s F Q
  registers s q hq := by
    unfold Supervisor.drainPool
    cases s.pools.find? p with
    | none => exact hq
    | some pool => exact (Blind.modifyPool p _).registers s q hq

theorem shutdownAll : Blind fun s => (shutdownAll s).2 where
  commutes s F Q :=
    (foldl (fun p => terminateInstancesLocked p) s.pools.keys).commutes
      { s with shuttingDown := true } F Q
  registers s q hq :=
    (foldl (fun p => terminateInstancesLocked p) s.pools.keys).registers
      { s with shuttingDown := true } q hq

theorem stdinWriteFailed (host : Host) (instanceId : String) :
    Blind (stdinWriteFailed host instanceId) where
  commutes _ _ _ := rfl
  registers s q hq := by
    show (s.pools.map _).find? q = none
    rw [OrdMap.find?_map, hq, Option.map_none]

theorem handshakeConfirmed (host : Host) (instanceId : String) :
    Blind (handshakeConfirmed host instanceId) where
  commutes _ _ _ := rfl
  registers s q hq := by
    show (s.pools.map _).find? q = none
    rw [OrdMap.find?_map, hq, Option.map_none]

theorem drainSupervisorEvents : Blind drainSupervisorEvents where
  commutes _ _ _ := rfl
  registers _ _ hq := hq

end Blind

/-! ## The real supervisor beside the fresh one -/

/-- The same supervisor, up to what the breaker has of ids that are not registered, and of the
past. -/
structure Alike (now : TimePoint) (s t : WorkerSupervisor) : Prop where
  same : t = withBreaker s t.poolFailureTimestamps t.poolQuarantineUntil
  breaker : ∀ p pool, s.pools.find? p = some pool → breakerAt now t p = breakerAt now s p

namespace Alike

variable {f : WorkerSupervisor → WorkerSupervisor}

theorem refl (now : TimePoint) (s : WorkerSupervisor) : Alike now s s := ⟨rfl, fun _ _ _ => rfl⟩

theorem pools (h : Alike now s t) : t.pools = s.pools := by rw [h.same]; rfl

theorem children (h : Alike now s t) : t.children = s.children := by rw [h.same]; rfl

theorem later {now' : TimePoint} (h : Alike now s t) (hnow : now ≤ now') : Alike now' s t where
  same := h.same
  breaker p pool hp := by rw [breakerAt_later hnow, breakerAt_later hnow, h.breaker p pool hp]

/-- What does not look at the breaker does the same to both. -/
theorem blind (h : Alike now s t) (hf : Blind f) : Alike now (f s) (f t) := by
  have hs : f s = withBreaker (f s) s.poolFailureTimestamps s.poolQuarantineUntil :=
    hf.commutes s s.poolFailureTimestamps s.poolQuarantineUntil
  have ht : f t = withBreaker (f s) t.poolFailureTimestamps t.poolQuarantineUntil := by
    conv_lhs => rw [h.same]
    exact hf.commutes s _ _
  refine ⟨?_, fun p pool hp => ?_⟩
  · rw [ht]
    rfl
  · have hold : ∃ old, s.pools.find? p = some old := by
      by_contra hnone
      rw [not_exists] at hnone
      have hgone := hf.registers s p (Option.eq_none_iff_forall_ne_some.mpr hnone)
      cases hgone.symm.trans hp
    obtain ⟨old, hold⟩ := hold
    rw [hs, ht]
    exact h.breaker p old hold

/-- A loop that keeps both alike. -/
theorem foldl {ι : Type*} {f : WorkerSupervisor → ι → WorkerSupervisor} {l : List ι}
    (hf : ∀ i s t, Alike now s t → Alike now (f s i) (f t i)) (h : Alike now s t) :
    Alike now (l.foldl f s) (l.foldl f t) := by
  induction l generalizing s t with
  | nil => exact h
  | cons i l ih => exact ih (hf i s t h)

end Alike

/-! ## The breaker of registered pools -/

/-- The times that `registerFailure` writes. -/
theorem counted_eq (host : Host) (p : String) (s : WorkerSupervisor) :
    ((s.poolFailureTimestamps.find? p).getD [] ++ [host.steadyNow]).filter
        (inCrashWindow host.steadyNow) =
      (breakerAt host.steadyNow s p).1 ++ [host.steadyNow] := by
  have hnow : inCrashWindow host.steadyNow host.steadyNow = true := by
    rw [inCrashWindow, decide_eq_true_eq]
    exact Int.sub_le_self _ (by decide)
  rw [List.filter_append, List.filter_singleton, hnow]
  rfl

/-- `registerFailure` in terms of what counts of the breaker. -/
theorem registerFailure_eq (host : Host) (p : String) (s : WorkerSupervisor) :
    registerFailure host p s =
      (let times := (breakerAt host.steadyNow s p).1 ++ [host.steadyNow]
       let opens := kCrashThreshold ≤ times.length && !(breakerAt host.steadyNow s p).2.isSome
       { s with
         poolFailureTimestamps := s.poolFailureTimestamps.insert p times
         poolQuarantineUntil :=
          if opens then
            s.poolQuarantineUntil.insert p (host.steadyNow + seconds kQuarantineCooldownSeconds)
          else s.poolQuarantineUntil
         quarantineLog :=
          if opens then
            s.quarantineLog ++
              [⟨p, times.length, kCrashWindowSeconds, kQuarantineCooldownSeconds⟩]
          else s.quarantineLog }) := by
  have hquarantined : ∀ ts, isPoolQuarantinedLocked { s with poolFailureTimestamps := ts } p
      host.steadyNow = (breakerAt host.steadyNow s p).2.isSome := fun _ =>
    isPoolQuarantinedLocked_eq s p host.steadyNow
  unfold registerFailure
  dsimp only
  simp only [counted_eq, hquarantined]
  split <;> rfl

theorem Alike.registerFailure (h : Alike host.steadyNow s t) {pool : ManagedEndpointPool}
    (hp : s.pools.find? p = some pool) :
    Alike host.steadyNow (registerFailure host p s) (registerFailure host p t) := by
  have hlog : t.quarantineLog = s.quarantineLog := by rw [h.same]; rfl
  have hother : ∀ {q pool'}, s.pools.find? q = some pool' →
      recent host.steadyNow ((t.poolFailureTimestamps.find? q).getD []) =
          recent host.steadyNow ((s.poolFailureTimestamps.find? q).getD []) ∧
        (t.poolQuarantineUntil.find? q).filter (fun d => host.steadyNow < d) =
          (s.poolQuarantineUntil.find? q).filter (fun d => host.steadyNow < d) := fun hq =>
    Prod.ext_iff.mp (h.breaker _ _ hq)
  rw [registerFailure_eq, registerFailure_eq, h.breaker p pool hp, hlog]
  dsimp only
  refine ⟨?_, fun q pool' hq => Prod.ext ?_ ?_⟩
  · conv_lhs => rw [h.same]
    rfl
  · show recent _ (((t.poolFailureTimestamps.insert p _).find? q).getD []) =
      recent _ (((s.poolFailureTimestamps.insert p _).find? q).getD [])
    rw [OrdMap.find?_insert, OrdMap.find?_insert]
    split
    · rfl
    · exact (hother hq).1
  · show (OrdMap.find? (if _ then t.poolQuarantineUntil.insert p _ else _) q).filter _ =
      (OrdMap.find? (if _ then s.poolQuarantineUntil.insert p _ else _) q).filter _
    split
    · rw [OrdMap.find?_insert, OrdMap.find?_insert]
      split
      · rfl
      · exact (hother hq).2
    · exact (hother hq).2

/-- The first half of `removeDead`: the table entry and the child go, and the death is logged. -/
def dropDead (p : String) (i : EndpointInstance) (code : ℕ) (s : WorkerSupervisor) :
    WorkerSupervisor :=
  let s := modifyPool p (fun pool => { pool with instances := pool.instances.erase i }) s
  { s with
    children := s.children.erase i.instanceId
    deathLog := s.deathLog ++ [⟨p, i.instanceId, i.state.toString, code⟩] }

theorem Blind.dropDead (p : String) (i : EndpointInstance) (code : ℕ) :
    Blind (dropDead p i code) where
  commutes s F Q := by
    unfold Supervisor.dropDead
    rw [(Blind.modifyPool p _).commutes]
    rfl
  registers s q hq := (Blind.modifyPool p _).registers s q hq

namespace Alike

theorem removeDead {pool : ManagedEndpointPool} (h : Alike host.steadyNow s t)
    (i : EndpointInstance) (code : ℕ) (hp : s.pools.find? p = some pool) :
    Alike host.steadyNow (removeDead host p i code s) (removeDead host p i code t) := by
  have hkept : ∃ kept, (dropDead p i code s).pools.find? p = some kept := by
    show ∃ kept, (Supervisor.modifyPool p _ s).pools.find? p = some kept
    rw [find?_modifyPool, if_pos rfl, hp]
    exact ⟨_, rfl⟩
  obtain ⟨kept, hkept⟩ := hkept
  exact (h.blind (Blind.dropDead p i code)).registerFailure hkept

theorem exited (h : Alike now s t) (i : EndpointInstance) : exited host t i = exited host s i := by
  unfold Supervisor.exited
  rw [h.children]

theorem reapPool (h : Alike host.steadyNow s t) (p : String) :
    Alike host.steadyNow (reapPool host s p) (reapPool host t p) := by
  unfold Supervisor.reapPool
  rw [h.pools]
  cases hp : s.pools.find? p with
  | none => exact h
  | some pool =>
    dsimp only
    -- the pool stays registered while its table is read
    suffices hloop : ∀ (l : List EndpointInstance) s t, Alike host.steadyNow s t →
        (∃ pool, s.pools.find? p = some pool) →
          Alike host.steadyNow (l.foldl (reapInstance host p) s)
            (l.foldl (reapInstance host p) t) from hloop _ _ _ h ⟨pool, hp⟩
    intro l
    induction l with
    | nil => exact fun _ _ h _ => h
    | cons i l ih =>
      rintro s t h ⟨pool, hp⟩
      rw [List.foldl_cons, List.foldl_cons]
      cases hcode : Supervisor.exited host s i with
      | none =>
        have hs : reapInstance host p s i = s := by rw [reapInstance, hcode]
        have ht : reapInstance host p t i = t := by rw [reapInstance, h.exited, hcode]
        rw [hs, ht]
        exact ih s t h ⟨pool, hp⟩
      | some code =>
        have hs : reapInstance host p s i = Supervisor.removeDead host p i code s := by
          rw [reapInstance, hcode]
        have ht : reapInstance host p t i = Supervisor.removeDead host p i code t := by
          rw [reapInstance, h.exited, hcode]
        rw [hs, ht]
        refine ih _ _ (h.removeDead i code hp) ?_
        rw [find?_removeDead, if_pos rfl, hp]
        exact ⟨_, rfl⟩

theorem reapDead (h : Alike host.steadyNow s t) :
    Alike host.steadyNow (reapDead host s) (reapDead host t) := by
  unfold Supervisor.reapDead
  rw [h.pools]
  exact h.foldl fun p s t h => h.reapPool p

theorem quarantined {pool : ManagedEndpointPool} (h : Alike now s t)
    (hp : s.pools.find? p = some pool) :
    isPoolQuarantinedLocked t p now = isPoolQuarantinedLocked s p now := by
  rw [isPoolQuarantinedLocked_eq, isPoolQuarantinedLocked_eq, h.breaker p pool hp]

theorem respawnPool (h : Alike host.steadyNow s t) (reapedAny : Bool) (p : String) :
    Alike host.steadyNow (respawnPool host reapedAny s p) (respawnPool host reapedAny t p) := by
  unfold Supervisor.respawnPool
  rw [h.pools]
  cases hp : s.pools.find? p with
  | none => exact h
  | some pool =>
    dsimp only
    rw [h.quarantined hp]
    have hfill := h.blind ((Blind.respawnOne host p).iterate (shortfall pool))
    split
    · exact h
    · split
      · exact hfill.blind (Blind.modifyPool p _)
      · exact hfill

theorem reapDeadInstancesLocked (h : Alike host.steadyNow s t) :
    Alike host.steadyNow (reapDeadInstancesLocked host s) (reapDeadInstancesLocked host t) := by
  have hreaped := h.reapDead
  have hdown : (Supervisor.reapDead host t).shuttingDown =
      (Supervisor.reapDead host s).shuttingDown := by rw [hreaped.same]; rfl
  have hlog : (Supervisor.reapDead host t).deathLog = (Supervisor.reapDead host s).deathLog := by
    rw [hreaped.same]
    rfl
  have hold : t.deathLog = s.deathLog := by rw [h.same]; rfl
  unfold Supervisor.reapDeadInstancesLocked
  dsimp only
  rw [hdown, hlog, hold, hreaped.pools]
  split
  · exact hreaped
  · exact hreaped.foldl fun p s t h => h.respawnPool _ p

theorem pruneCrashWindowsLocked (h : Alike host.steadyNow s t) :
    Alike host.steadyNow (pruneCrashWindowsLocked host s) (pruneCrashWindowsLocked host t) := by
  have hpruned : ∀ (u : WorkerSupervisor) q,
      breakerAt host.steadyNow (Supervisor.pruneCrashWindowsLocked host u) q =
        breakerAt host.steadyNow u q := by
    intro u q
    refine Prod.ext ?_ ?_
    · show recent _ (((u.poolFailureTimestamps.map _).find? q).getD []) = recent _ _
      rw [OrdMap.find?_map, failureTimes]
      cases u.poolFailureTimestamps.find? q with
      | none => rfl
      | some times => exact recent_recent le_rfl times
    · show ((u.poolQuarantineUntil.filterMap _).find? q).filter _ = _
      rw [OrdMap.find?_filterMap]
      cases hd : u.poolQuarantineUntil.find? q with
      | none => simp [breakerAt, hd]
      | some d =>
        by_cases hle : d ≤ host.steadyNow
        · simp [breakerAt, hd, Option.filter_some, hle, not_lt.mpr hle]
        · simp [breakerAt, hd, Option.filter_some, hle, not_le.mp hle]
  refine ⟨?_, fun q pool hq => ?_⟩
  · rw [h.same]
    rfl
  · rw [hpruned, hpruned]
    exact h.breaker q pool hq

theorem ensureMinInstances (h : Alike host.steadyNow s t) (p : String) :
    Alike host.steadyNow (ensureMinInstances host p s).2 (ensureMinInstances host p t).2 := by
  have hdown : t.shuttingDown = s.shuttingDown := by rw [h.same]; rfl
  have hpass := h.reapDeadInstancesLocked
  unfold Supervisor.ensureMinInstances
  rw [hdown]
  split
  · exact h
  · dsimp only
    rw [hpass.pools]
    cases (Supervisor.reapDeadInstancesLocked host s).pools.find? p with
    | none => exact hpass
    | some pool =>
      dsimp only
      split
      · exact hpass
      · exact (hpass.blind ((Blind.spawnOne host p).iterate _)).blind (Blind.modifyPool p _)

theorem scaleUpOnce (h : Alike host.steadyNow s t) (p : String) :
    Alike host.steadyNow (scaleUpOnce host p s).2 (scaleUpOnce host p t).2 := by
  have hdown : t.shuttingDown = s.shuttingDown := by rw [h.same]; rfl
  have hpass := h.reapDeadInstancesLocked
  unfold Supervisor.scaleUpOnce
  rw [hdown]
  split
  · exact h
  · dsimp only
    rw [hpass.pools]
    cases (Supervisor.reapDeadInstancesLocked host s).pools.find? p with
    | none => exact hpass
    | some pool =>
      dsimp only
      split
      · exact hpass
      · exact (hpass.blind (Blind.spawnOne host p)).blind (Blind.modifyPool p _)

theorem forget (h : Alike now s t) (hp : s.pools.find? p = none) :
    Alike now s (forget p t) where
  same := by
    conv_lhs => rw [Supervisor.forget, h.same]
    rfl
  breaker q pool hq := by
    have hne : q ≠ p := by
      rintro rfl
      cases hp.symm.trans hq
    rw [breakerAt_forget_of_ne hne]
    exact h.breaker q pool hq

theorem upsertPool (h : Alike now s t) {pool : ManagedEndpointPool}
    (hp : upsertRejection pool = none →
      breakerAt now t pool.poolId = breakerAt now s pool.poolId) :
    Alike now (upsertPool host pool s).2 (upsertPool host pool t).2 := by
  obtain ⟨F, Q, rfl⟩ : ∃ F Q, t = withBreaker s F Q := ⟨_, _, h.same⟩
  unfold Supervisor.upsertPool
  cases hrejection : upsertRejection pool with
  | some message => exact h
  | none =>
    refine ⟨rfl, fun q pool' hq => ?_⟩
    by_cases hne : pool.poolId = q
    · subst hne
      exact hp hrejection
    · rw [OrdMap.find?_insert_of_ne _ hne] at hq
      exact h.breaker q pool' hq

end Alike

/-! ## Every step -/

/-- The pool a call wants to register. -/
def SupervisorCall.upserted : SupervisorCall → Option ManagedEndpointPool
  | .upsertPool pool => some pool
  | _ => none

/-- A step that registers an id anew finds nothing of an earlier pool that still counts. -/
def RegistersClean (s : WorkerSupervisor) (step : SupervisorStep) : Prop :=
  ∀ pool ∈ step.call.upserted, upsertRejection pool = none →
    (s.pools.find? pool.poolId).isNone = true → NoResidue step.host.steadyNow s pool.poolId

/-- **A step keeps both alike**, unless it registers an id of which something is left. -/
theorem Alike.perform {step : SupervisorStep} (h : Alike step.host.steadyNow s t)
    (hclean : RegistersClean s step) :
    Alike step.host.steadyNow (perform s step) (performFresh t step) := by
  obtain ⟨host, call⟩ := step
  cases call with
  | upsertPool pool =>
    show Alike host.steadyNow (Supervisor.upsertPool host pool s).2
      (performFresh t ⟨host, .upsertPool pool⟩)
    unfold performFresh
    dsimp only
    rw [h.pools]
    cases hp : s.pools.find? pool.poolId with
    | none =>
      refine (h.forget hp).upsertPool fun haccepted => ?_
      have hnone : (s.pools.find? pool.poolId).isNone = true := by rw [hp, Option.isNone_none]
      exact (noResidue_forget _ _ t).trans (hclean pool rfl haccepted hnone).symm
    | some known => exact h.upsertPool fun _ => h.breaker _ known hp
  | removePool p => exact h.blind (Blind.removePool p)
  | ensureMinInstances p => exact h.ensureMinInstances p
  | drainPool p => exact h.blind (Blind.drainPool host p)
  | scaleUpOnce p => exact h.scaleUpOnce p
  | findPool p => exact h.reapDeadInstancesLocked
  | listPools => exact h.reapDeadInstancesLocked
  | shutdownAll => exact h.blind Blind.shutdownAll
  | watchdogReap => exact h.reapDeadInstancesLocked
  | pruneCrashWindows => exact h.pruneCrashWindowsLocked
  | stdinWriteFailed instanceId => exact h.blind (Blind.stdinWriteFailed host instanceId)
  | handshakeConfirmed instanceId => exact h.blind (Blind.handshakeConfirmed host instanceId)
  | drainSupervisorEvents => exact h.blind Blind.drainSupervisorEvents

/-- **What is alike shows the same.** -/
theorem Alike.poolView (h : Alike host.steadyNow s t) (hwf : WellFormed s) (p : String) :
    poolView host p t = poolView host p s := by
  unfold Supervisor.poolView
  rw [h.pools]
  cases hp : s.pools.find? p with
  | none => rfl
  | some pool =>
    have hid : pool.poolId = p := (hwf.registered hp).1
    have hbreaker := h.breaker p pool hp
    have htimes : recent host.steadyNow (failureTimes t p) =
        recent host.steadyNow (failureTimes s p) := congrArg Prod.fst hbreaker
    rw [Option.map_some, Option.map_some, snapshot, snapshot, hid, quarantineExpiryUtcLocked_eq,
      quarantineExpiryUtcLocked_eq, hbreaker, h.quarantined hp, htimes]

end Supervisor
end MasterControl
