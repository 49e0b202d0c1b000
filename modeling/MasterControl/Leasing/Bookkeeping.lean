import MasterControl.Leasing.Router
import MasterControl.Supervisor.WellFormed

/-!
# The router's bookkeeping

Everything an operation of the router does to its three maps is a sequence of four
moves: touching the activity of an Active lease, releasing one, collecting a Released
one, and binding a new one (`RouterMove`).

* **The maps agree** (`Bookkeeping`) along every run: the sticky map leads from a pool
  and a session exactly to their Active lease, and every lease has its activity stamp.
* **Records only evolve** (`Evolves`): a lease keeps its pool, instance and session, goes
  from Active to Released at most, and its id is never given out again.

Both need that the supervisor answers a query with the pool asked for, and that pool ids
contain no colon (`Truthful`), which `upsertPool` checks: the sticky map's keys are joined
texts, and `a` with session `b::c` reads like `a::b` with session `c`.
-/

namespace MasterControl
namespace Leasing

open Foundation Supervisor Relation

variable {σ : Type} {clock : RouterClock} {r r' : LeaseRouter} {id : String}
  {lease : EndpointLease}

/-! ## Ids and keys -/

theorem leaseIdOf_inj {k l : ℕ} (h : leaseIdOf k = leaseIdOf l) : k = l :=
  append_toString_inj h

theorem colon_notMem_of_safe {p : String} (h : isSafeUrlSegmentId p = true) :
    ':' ∉ p.toList := by
  intro hmem
  have hall := (Bool.and_eq_true _ _ ▸ h : _ ∧ _).2
  have hcolon := List.all_eq_true.mp hall ':' hmem
  exact absurd hcolon (by decide)

/-- The key of a safe pool id names the pool and the session. -/
theorem stickyKey_inj {p q a b : String} (hp : isSafeUrlSegmentId p = true)
    (hq : isSafeUrlSegmentId q = true) (h : stickyKey p a = stickyKey q b) : p = q ∧ a = b :=
  string_append_inj_left (a := ':') ⟨[':'], by decide⟩ (colon_notMem_of_safe hp)
    (colon_notMem_of_safe hq) h

/-! ## The invariant -/

/-- A lease that should be reachable through the sticky map under a key. -/
def StickyUnder (key : String) (lease : EndpointLease) : Prop :=
  lease.state = .active ∧ lease.sessionId ≠ "" ∧ key = stickyKey lease.poolId lease.sessionId

/-- What holds of the router's maps between two operations. -/
structure Bookkeeping (r : LeaseRouter) : Prop where
  /-- Leases are filed under their own id, whose serial has been given out. -/
  issued : ∀ {id lease}, r.leases.find? id = some lease →
    lease.leaseId = id ∧ ∃ k, k < r.nextLeaseSerial ∧ id = leaseIdOf k
  /-- Leases belong to pools with a safe id. -/
  poolSafe : ∀ {id lease}, r.leases.find? id = some lease →
    isSafeUrlSegmentId lease.poolId = true
  /-- A recorded lease is Active or Released. -/
  state : ∀ {id lease}, r.leases.find? id = some lease →
    lease.state = .active ∨ lease.state = .released
  /-- The sticky map leads to the Active session leases, and to nothing else. -/
  sticky : ∀ {key id}, r.stickySessions.find? key = some id ↔
    ∃ lease, r.leases.find? id = some lease ∧ StickyUnder key lease
  /-- Exactly the recorded leases have an activity stamp. -/
  activity : ∀ {id}, (∃ t, r.leaseActivity.find? id = some t) ↔
    ∃ lease, r.leases.find? id = some lease

theorem bookkeeping_create (idleTimeoutSeconds : Int) :
    Bookkeeping (LeaseRouter.create idleTimeoutSeconds) where
  issued h := by cases h
  poolSafe h := by cases h
  state h := by cases h
  sticky := by
    intro key id
    constructor
    · intro h; cases h
    · rintro ⟨lease, h, -⟩; cases h
  activity := by
    intro id
    constructor
    · rintro ⟨t, h⟩; cases h
    · rintro ⟨lease, h⟩; cases h

/-- The next id is fresh. -/
theorem Bookkeeping.find?_next (h : Bookkeeping r) :
    r.leases.find? (leaseIdOf r.nextLeaseSerial) = none := by
  by_contra hne
  obtain ⟨lease, hlease⟩ := Option.ne_none_iff_exists'.mp hne
  obtain ⟨-, k, hk, hid⟩ := h.issued hlease
  have := leaseIdOf_inj hid
  omega

/-- **One Active lease a session.**  Two Active leases of one pool and session are the
same lease. -/
theorem Bookkeeping.active_unique (h : Bookkeeping r) {id₁ id₂ : String}
    {lease₁ lease₂ : EndpointLease} (h₁ : r.leases.find? id₁ = some lease₁)
    (h₂ : r.leases.find? id₂ = some lease₂) (ha₁ : lease₁.state = .active)
    (ha₂ : lease₂.state = .active) (hs : lease₁.sessionId ≠ "")
    (hpool : lease₁.poolId = lease₂.poolId) (hsession : lease₁.sessionId = lease₂.sessionId) :
    id₁ = id₂ := by
  have hkey₁ := h.sticky.mpr ⟨lease₁, h₁, ha₁, hs, rfl⟩
  have hkey₂ := h.sticky.mpr ⟨lease₂, h₂, ha₂, hsession ▸ hs, rfl⟩
  rw [hpool, hsession, hkey₂] at hkey₁
  exact (Option.some.inj hkey₁).symm

/-! ## Moves -/

/-- A released record goes for good. -/
def collectLease (leaseId : String) (r : LeaseRouter) : LeaseRouter :=
  { r with leases := r.leases.erase leaseId, leaseActivity := r.leaseActivity.erase leaseId }

/-- The activity stamp of a lease moves to now. -/
def touchLease (clock : RouterClock) (leaseId : String) (r : LeaseRouter) : LeaseRouter :=
  { r with leaseActivity := r.leaseActivity.insert leaseId clock.steadyNow }

/-- What one move of the router does. -/
inductive RouterMove (clock : RouterClock) : LeaseRouter → LeaseRouter → Prop
  | touch {r : LeaseRouter} {id : String} {lease : EndpointLease} :
    r.leases.find? id = some lease → lease.state = .active →
    RouterMove clock r (touchLease clock id r)
  | release {r : LeaseRouter} {id : String} {lease : EndpointLease} (message : String) :
    r.leases.find? id = some lease → lease.state = .active →
    RouterMove clock r (markReleased clock id lease message r)
  | collect {r : LeaseRouter} {id : String} {lease : EndpointLease} :
    r.leases.find? id = some lease → lease.state ≠ .active →
    RouterMove clock r (collectLease id r)
  | bind {r : LeaseRouter} {poolId : String} {request : LeaseRequest} (instanceId : String)
    (scaleOut : Bool) :
    isSafeUrlSegmentId poolId = true →
    r.stickySessions.find? (stickyKey poolId request.sessionId) = none →
    RouterMove clock r (bindLeaseLocked clock poolId instanceId request scaleOut r).2

theorem Bookkeeping.touch (h : Bookkeeping r) (hfind : r.leases.find? id = some lease) :
    Bookkeeping (touchLease clock id r) where
  issued := h.issued
  poolSafe := h.poolSafe
  state := h.state
  sticky := h.sticky
  activity := by
    intro id'
    rw [touchLease, OrdMap.find?_insert]
    by_cases hid : id = id'
    · rw [if_pos hid]
      exact ⟨fun _ => ⟨lease, hid ▸ hfind⟩, fun _ => ⟨_, rfl⟩⟩
    · rw [if_neg hid]
      exact h.activity

theorem find?_markReleased (clock : RouterClock) (r : LeaseRouter) (id id' message : String)
    (lease : EndpointLease) :
    (markReleased clock id lease message r).leases.find? id' =
      if id = id' then some (lease.release clock message) else r.leases.find? id' :=
  OrdMap.find?_insert _ _ _ _

/-- The sticky map after a release: the session's entry is gone. -/
theorem Bookkeeping.sticky_markReleased (h : Bookkeeping r)
    (hfind : r.leases.find? id = some lease) (hactive : lease.state = .active)
    {message key id' : String} :
    (markReleased clock id lease message r).stickySessions.find? key = some id' ↔
      r.stickySessions.find? key = some id' ∧ id' ≠ id := by
  by_cases hs : lease.sessionId = ""
  · rw [markReleased, if_pos hs]
    refine ⟨fun hkey => ⟨hkey, ?_⟩, And.left⟩
    rintro rfl
    obtain ⟨lease', hfind', -, hs', -⟩ := h.sticky.mp hkey
    rw [hfind] at hfind'
    exact hs' (Option.some.inj hfind' ▸ hs)
  · have hown : r.stickySessions.find? (stickyKey lease.poolId lease.sessionId) = some id :=
      h.sticky.mpr ⟨lease, hfind, hactive, hs, rfl⟩
    rw [markReleased, if_neg hs, OrdMap.find?_erase]
    by_cases hkey : key = stickyKey lease.poolId lease.sessionId
    · rw [if_pos hkey, hkey, hown]
      refine ⟨fun hnone => (by cases hnone), ?_⟩
      rintro ⟨heq, hne⟩
      exact absurd (Option.some.inj heq).symm hne
    · rw [if_neg hkey]
      refine ⟨fun hfound => ⟨hfound, ?_⟩, And.left⟩
      rintro rfl
      obtain ⟨lease', hfind', -, -, hkey'⟩ := h.sticky.mp hfound
      rw [hfind] at hfind'
      exact hkey (Option.some.inj hfind' ▸ hkey')

theorem Bookkeeping.release (h : Bookkeeping r) (hfind : r.leases.find? id = some lease)
    (hactive : lease.state = .active) (message : String) :
    Bookkeeping (markReleased clock id lease message r) := by
  have hleases := fun id' => find?_markReleased clock r id id' message lease
  refine ⟨fun {id' lease'} hf => ?_, fun {id' lease'} hf => ?_, fun {id' lease'} hf => ?_,
    fun {key id'} => ?_, fun {id'} => ?_⟩
  · rw [hleases] at hf
    split_ifs at hf with hid
    · cases hf
      have hold := h.issued hfind
      exact hid ▸ hold
    · exact h.issued hf
  · rw [hleases] at hf
    split_ifs at hf with hid
    · cases hf
      have hold := h.poolSafe hfind
      exact hold
    · exact h.poolSafe hf
  · rw [hleases] at hf
    split_ifs at hf with hid
    · cases hf
      exact Or.inr rfl
    · exact h.state hf
  · rw [h.sticky_markReleased hfind hactive, h.sticky, hleases]
    constructor
    · rintro ⟨hold, hne⟩
      rwa [if_neg fun heq => hne heq.symm]
    · rintro ⟨lease', hf, hsticky⟩
      split_ifs at hf with hid
      · cases hf
        exact absurd hsticky.1 (by simp [EndpointLease.release])
      · exact ⟨⟨lease', hf, hsticky⟩, fun heq => hid heq.symm⟩
  · rw [hleases, markReleased, OrdMap.find?_insert]
    by_cases hid : id = id'
    · rw [if_pos hid, if_pos hid]
      exact ⟨fun _ => ⟨_, rfl⟩, fun _ => ⟨_, rfl⟩⟩
    · rw [if_neg hid, if_neg hid]
      exact h.activity

theorem Bookkeeping.collect (h : Bookkeeping r) (hfind : r.leases.find? id = some lease)
    (hactive : lease.state ≠ .active) : Bookkeeping (collectLease id r) := by
  have hleases : ∀ {id' lease'}, (collectLease id r).leases.find? id' = some lease' ↔
      id' ≠ id ∧ r.leases.find? id' = some lease' := by
    intro id' lease'
    rw [collectLease, OrdMap.find?_erase]
    split_ifs with hid <;> simp [hid]
  refine ⟨fun hf => h.issued (hleases.mp hf).2, fun hf => h.poolSafe (hleases.mp hf).2,
    fun hf => h.state (hleases.mp hf).2, fun {key id'} => ?_, fun {id'} => ?_⟩
  · show r.stickySessions.find? key = some id' ↔ _
    rw [h.sticky]
    constructor
    · rintro ⟨lease', hf, hsticky⟩
      refine ⟨lease', hleases.mpr ⟨?_, hf⟩, hsticky⟩
      rintro rfl
      rw [hfind] at hf
      exact hactive (Option.some.inj hf ▸ hsticky.1)
    · rintro ⟨lease', hf, hsticky⟩
      exact ⟨lease', (hleases.mp hf).2, hsticky⟩
  · simp only [collectLease, OrdMap.find?_erase]
    by_cases hid : id' = id
    · simp [hid]
    · simp only [if_neg hid]
      exact h.activity

theorem find?_bindLeaseLocked (clock : RouterClock) (poolId instanceId : String)
    (request : LeaseRequest) (scaleOut : Bool) (r : LeaseRouter) (id : String) :
    (bindLeaseLocked clock poolId instanceId request scaleOut r).2.leases.find? id =
      if leaseIdOf r.nextLeaseSerial = id then
        some (boundLease clock poolId instanceId request scaleOut r) else r.leases.find? id :=
  OrdMap.find?_insert _ _ _ _

/-- A binding is filed under a fresh id, so the recorded leases stay. -/
theorem Bookkeeping.find?_bound (h : Bookkeeping r) (clock : RouterClock)
    (poolId instanceId : String) (request : LeaseRequest) (scaleOut : Bool)
    (hfind : r.leases.find? id = some lease) :
    (bindLeaseLocked clock poolId instanceId request scaleOut r).2.leases.find? id = some lease := by
  rw [find?_bindLeaseLocked, if_neg, hfind]
  rintro rfl
  rw [h.find?_next] at hfind
  cases hfind

theorem Bookkeeping.bind (h : Bookkeeping r) {poolId instanceId : String}
    {request : LeaseRequest} {scaleOut : Bool} (hsafe : isSafeUrlSegmentId poolId = true)
    (hfree : r.stickySessions.find? (stickyKey poolId request.sessionId) = none) :
    Bookkeeping (bindLeaseLocked clock poolId instanceId request scaleOut r).2 := by
  have hleases := fun id' => find?_bindLeaseLocked clock poolId instanceId request scaleOut r id'
  have hkept := fun {id' lease'} (hf : r.leases.find? id' = some lease') =>
    h.find?_bound clock poolId instanceId request scaleOut hf
  refine ⟨fun {id' lease'} hf => ?_, fun {id' lease'} hf => ?_, fun {id' lease'} hf => ?_,
    fun {key id'} => ?_, fun {id'} => ?_⟩
  · rw [hleases] at hf
    split_ifs at hf with hid
    · cases hf
      exact ⟨hid, r.nextLeaseSerial, Nat.lt_succ_self _, hid.symm⟩
    · obtain ⟨hown, k, hk, hid'⟩ := h.issued hf
      exact ⟨hown, k, Nat.lt_succ_of_lt hk, hid'⟩
  · rw [hleases] at hf
    split_ifs at hf with hid
    · cases hf
      exact hsafe
    · exact h.poolSafe hf
  · rw [hleases] at hf
    split_ifs at hf with hid
    · cases hf
      exact Or.inl rfl
    · exact h.state hf
  · -- the session's key was free, so the new entry replaces none
    have hold : r.stickySessions.find? key = some id' ↔ ∃ lease', r.leases.find? id' = some lease' ∧
        StickyUnder key lease' := h.sticky
    rw [hleases]
    simp only [bindLeaseLocked, boundLease_sessionId]
    by_cases hs : request.sessionId = ""
    · rw [if_pos hs, hold]
      constructor
      · rintro ⟨lease', hf, hsticky⟩
        exact ⟨lease', hleases id' ▸ hkept hf, hsticky⟩
      · rintro ⟨lease', hf, hsticky⟩
        split_ifs at hf with hid
        · cases hf
          exact absurd hs (boundLease_sessionId clock poolId instanceId request scaleOut r ▸
            hsticky.2.1)
        · exact ⟨lease', hf, hsticky⟩
    · rw [if_neg hs, OrdMap.find?_insert]
      by_cases hkey : stickyKey poolId request.sessionId = key
      · rw [if_pos hkey]
        constructor
        · intro hid
          refine ⟨_, if_pos (Option.some.inj hid), rfl, ?_, ?_⟩
          · rwa [boundLease_sessionId]
          · rw [boundLease_sessionId, ← hkey]
            rfl
        · rintro ⟨lease', hf, hsticky⟩
          split_ifs at hf with hid
          · rw [← hid]
            rfl
          · have hused := hold.mpr ⟨lease', hf, hsticky⟩
            rw [← hkey, hfree] at hused
            cases hused
      · rw [if_neg hkey, hold]
        constructor
        · rintro ⟨lease', hf, hsticky⟩
          exact ⟨lease', hleases id' ▸ hkept hf, hsticky⟩
        · rintro ⟨lease', hf, hsticky⟩
          split_ifs at hf with hid
          · cases hf
            have hkey' := hsticky.2.2
            rw [boundLease_sessionId] at hkey'
            exact absurd hkey'.symm hkey
          · exact ⟨lease', hf, hsticky⟩
  · rw [hleases]
    simp only [bindLeaseLocked, OrdMap.find?_insert]
    by_cases hid : leaseIdOf r.nextLeaseSerial = id'
    · rw [if_pos hid, if_pos (show (boundLease clock poolId instanceId request scaleOut r).leaseId
        = id' from hid)]
      exact ⟨fun _ => ⟨_, rfl⟩, fun _ => ⟨_, rfl⟩⟩
    · rw [if_neg hid, if_neg (show ¬ (boundLease clock poolId instanceId request scaleOut r).leaseId
        = id' from hid)]
      exact h.activity

/-- **Every move keeps the bookkeeping.** -/
theorem Bookkeeping.move (h : Bookkeeping r) (hm : RouterMove clock r r') : Bookkeeping r' := by
  cases hm with
  | touch hfind _ => exact h.touch hfind
  | release message hfind hactive => exact h.release hfind hactive message
  | collect hfind hactive => exact h.collect hfind hactive
  | bind instanceId scaleOut hsafe hfree => exact h.bind hsafe hfree

/-! ## Records only evolve -/

/-- A lease record later on: it keeps its pool, instance and session, and may have gone
from Active to Released. -/
def LaterRecord (lease lease' : EndpointLease) : Prop :=
  lease'.poolId = lease.poolId ∧ lease'.instanceId = lease.instanceId ∧
    lease'.sessionId = lease.sessionId ∧
    (lease'.state = lease.state ∨ (lease.state = .active ∧ lease'.state = .released))

theorem laterRecord_refl (lease : EndpointLease) : LaterRecord lease lease :=
  ⟨rfl, rfl, rfl, Or.inl rfl⟩

theorem LaterRecord.trans {a b c : EndpointLease} (hab : LaterRecord a b)
    (hbc : LaterRecord b c) : LaterRecord a c := by
  obtain ⟨hp, hi, hs, hstate⟩ := hab
  obtain ⟨hp', hi', hs', hstate'⟩ := hbc
  refine ⟨hp'.trans hp, hi'.trans hi, hs'.trans hs, ?_⟩
  rcases hstate with heq | ⟨ha, hb⟩
  · rwa [← heq]
  · right
    rcases hstate' with heq' | ⟨hb', -⟩
    · exact ⟨ha, heq'.trans hb⟩
    · rw [hb] at hb'
      cases hb'

/-- What a router becomes: each of its later leases was there before, or carries a serial
not yet given out. -/
structure Evolves (r r' : LeaseRouter) : Prop where
  serial : r.nextLeaseSerial ≤ r'.nextLeaseSerial
  kept : ∀ {id lease'}, r'.leases.find? id = some lease' →
    (∃ lease, r.leases.find? id = some lease ∧ LaterRecord lease lease') ∨
      ∃ k, r.nextLeaseSerial ≤ k ∧ id = leaseIdOf k

theorem evolves_of_eq (hl : r'.leases = r.leases) (hn : r'.nextLeaseSerial = r.nextLeaseSerial) :
    Evolves r r' where
  serial := hn.ge
  kept {_ lease'} h := Or.inl ⟨lease', hl ▸ h, laterRecord_refl _⟩

theorem Evolves.trans {a b c : LeaseRouter} (hab : Evolves a b) (hbc : Evolves b c) :
    Evolves a c where
  serial := hab.serial.trans hbc.serial
  kept {id lease''} h := by
    rcases hbc.kept h with ⟨lease', h', hlater'⟩ | ⟨k, hk, hid⟩
    · rcases hab.kept h' with ⟨lease, h'', hlater⟩ | hnew
      · exact Or.inl ⟨lease, h'', hlater.trans hlater'⟩
      · exact Or.inr hnew
    · exact Or.inr ⟨k, hab.serial.trans hk, hid⟩

theorem RouterMove.evolves (hm : RouterMove clock r r') : Evolves r r' := by
  cases hm with
  | touch _ _ => exact evolves_of_eq rfl rfl
  | @release id lease message hfind hactive =>
    refine ⟨le_rfl, fun {id' lease'} h => ?_⟩
    rw [find?_markReleased] at h
    split_ifs at h with hid
    · cases h
      exact Or.inl ⟨lease, hid ▸ hfind, rfl, rfl, rfl, Or.inr ⟨hactive, rfl⟩⟩
    · exact Or.inl ⟨lease', h, laterRecord_refl _⟩
  | collect _ _ =>
    refine ⟨le_rfl, fun {id' lease'} h => ?_⟩
    rw [collectLease, OrdMap.find?_erase] at h
    split_ifs at h
    exact Or.inl ⟨lease', h, laterRecord_refl _⟩
  | @bind poolId request instanceId scaleOut _ _ =>
    refine ⟨Nat.le_succ _, fun {id' lease'} h => ?_⟩
    rw [find?_bindLeaseLocked] at h
    split_ifs at h with hid
    · exact Or.inr ⟨r.nextLeaseSerial, le_rfl, hid.symm⟩
    · exact Or.inl ⟨lease', h, laterRecord_refl _⟩

/-- **An id that was given out and is gone never comes back.** -/
theorem Evolves.not_reused (h : Evolves r r') {k : ℕ} (hk : k < r.nextLeaseSerial)
    (hnone : r.leases.find? (leaseIdOf k) = none) : r'.leases.find? (leaseIdOf k) = none := by
  by_contra hne
  obtain ⟨lease', hlease'⟩ := Option.ne_none_iff_exists'.mp hne
  rcases h.kept hlease' with ⟨lease, hlease, -⟩ | ⟨l, hl, hid⟩
  · rw [hnone] at hlease
    cases hlease
  · have := leaseIdOf_inj hid
    omega

/-! ## The sweep, lease by lease -/

/-- What the sweep makes of a lease record. -/
def sweptLease (clock : RouterClock) (r : LeaseRouter) (id : String) : Option EndpointLease :=
  match r.leases.find? id with
  | none => none
  | some lease =>
    if idleExpired clock r id then
      if lease.state = .active then
        some (lease.release clock "Lease expired after the idle timeout with no session activity.")
      else none
    else some lease

theorem find?_pruneLease_self (clock : RouterClock) (r : LeaseRouter) (id : String) :
    (pruneLease clock r id).leases.find? id = sweptLease clock r id := by
  unfold pruneLease sweptLease
  cases hfind : r.leases.find? id with
  | none => exact hfind
  | some lease =>
    dsimp only
    split_ifs
    · exact OrdMap.find?_insert_self _ _ _
    · exact OrdMap.find?_erase_self _ _
    · exact hfind

/-- The sweep at one lease leaves the other leases alone, and their stamps. -/
theorem pruneLease_of_ne (clock : RouterClock) (r : LeaseRouter) {id id' : String} (h : id' ≠ id) :
    (pruneLease clock r id).leases.find? id' = r.leases.find? id' ∧
      (pruneLease clock r id).leaseActivity.find? id' = r.leaseActivity.find? id' ∧
      (pruneLease clock r id).leaseIdleTimeout = r.leaseIdleTimeout := by
  unfold pruneLease
  cases r.leases.find? id with
  | none => exact ⟨rfl, rfl, rfl⟩
  | some lease =>
    dsimp only
    split_ifs
    · exact ⟨OrdMap.find?_insert_of_ne _ h.symm _, OrdMap.find?_insert_of_ne _ h.symm _, rfl⟩
    · exact ⟨OrdMap.find?_erase_of_ne _ h, OrdMap.find?_erase_of_ne _ h, rfl⟩
    · exact ⟨rfl, rfl, rfl⟩

theorem find?_foldl_pruneLease (clock : RouterClock) (id : String) (ids : List String)
    (hids : ids.Nodup) (r : LeaseRouter) :
    (ids.foldl (pruneLease clock) r).leases.find? id =
      if id ∈ ids then sweptLease clock r id else r.leases.find? id := by
  induction ids generalizing r with
  | nil => rfl
  | cons id' ids ih =>
    obtain ⟨hnot, hids⟩ := List.nodup_cons.mp hids
    rw [List.foldl_cons, ih hids]
    by_cases heq : id = id'
    · subst heq
      rw [if_neg hnot, if_pos List.mem_cons_self, find?_pruneLease_self]
    · obtain ⟨hlease, hactivity, htimeout⟩ := pruneLease_of_ne clock r heq
      have hidle : idleExpired clock (pruneLease clock r id') id = idleExpired clock r id := by
        rw [idleExpired, idleExpired, hactivity, htimeout]
      have hswept : sweptLease clock (pruneLease clock r id') id = sweptLease clock r id := by
        rw [sweptLease, sweptLease, hlease, hidle]
      rw [hswept, hlease]
      simp [heq]

/-- **What a lease is after the sweep.** -/
theorem find?_pruneExpiredLeasesLocked (clock : RouterClock) (r : LeaseRouter) (id : String) :
    (pruneExpiredLeasesLocked clock r).leases.find? id = sweptLease clock r id := by
  rw [pruneExpiredLeasesLocked, find?_foldl_pruneLease clock id _ (OrdMap.nodup_keys _)]
  by_cases hmem : id ∈ r.leases.keys
  · rw [if_pos hmem]
  · have hnone : r.leases.find? id = none := by
      by_contra hne
      exact hmem (OrdMap.mem_keys_iff.mpr (Option.ne_none_iff_exists'.mp hne))
    rw [if_neg hmem, sweptLease, hnone]

theorem sweptLease_of_fresh (hfind : r.leases.find? id = some lease)
    (hfresh : idleExpired clock r id = false) : sweptLease clock r id = some lease := by
  rw [sweptLease, hfind]
  simp [hfresh]

/-- The sweep leaves a lease with recent activity alone. -/
theorem find?_pruned_of_fresh (hfind : r.leases.find? id = some lease)
    (hfresh : idleExpired clock r id = false) :
    (pruneExpiredLeasesLocked clock r).leases.find? id = some lease := by
  rw [find?_pruneExpiredLeasesLocked, sweptLease_of_fresh hfind hfresh]

/-! ## The operations as moves -/

theorem pruneLease_moves (clock : RouterClock) (r : LeaseRouter) (id : String) :
    ReflTransGen (RouterMove clock) r (pruneLease clock r id) := by
  unfold pruneLease
  cases hfind : r.leases.find? id with
  | none => exact ReflTransGen.refl
  | some lease =>
    dsimp only
    split_ifs with hidle hactive
    · exact ReflTransGen.single (RouterMove.release _ hfind hactive)
    · exact ReflTransGen.single (RouterMove.collect hfind hactive)
    · exact ReflTransGen.refl

theorem pruneExpiredLeasesLocked_moves (clock : RouterClock) (r : LeaseRouter) :
    ReflTransGen (RouterMove clock) r (pruneExpiredLeasesLocked clock r) :=
  moves_foldl (I := fun _ => True) (fun _ _ _ _ => trivial)
    (fun r id _ => pruneLease_moves clock r id) _ trivial

theorem Bookkeeping.moves (h : Bookkeeping r) (hm : ReflTransGen (RouterMove clock) r r') :
    Bookkeeping r' :=
  invariant_of_moves (I := Bookkeeping) (fun _ _ ht htu => ht.move htu) hm h

theorem Bookkeeping.pruned (h : Bookkeeping r) (clock : RouterClock) :
    Bookkeeping (pruneExpiredLeasesLocked clock r) :=
  h.moves (pruneExpiredLeasesLocked_moves clock r)

theorem evolves_of_moves (hm : ReflTransGen (RouterMove clock) r r') : Evolves r r' :=
  invariant_of_moves (I := Evolves r) (fun _ _ ht htu => ht.trans htu.evolves) hm
    (evolves_of_eq rfl rfl)

/-- The lease the sticky branch reuses is the session's Active lease, on a live instance. -/
theorem reusableLease_eq_some {pool : ManagedEndpointPool} {request : LeaseRequest} :
    reusableLease r pool request = some (id, lease) ↔
      request.sessionId ≠ "" ∧
      r.stickySessions.find? (stickyKey request.poolId request.sessionId) = some id ∧
      r.leases.find? id = some lease ∧ lease.state = .active ∧
      boundInstanceLive pool lease.instanceId = true := by
  constructor
  · intro h
    unfold reusableLease at h
    split at h
    · cases h
    · rename_i hs
      split at h
      · cases h
      · rename_i id' hkey
        split at h
        · cases h
        · rename_i lease' hfind
          split_ifs at h with hlive
          obtain ⟨rfl, rfl⟩ := Prod.mk.inj (Option.some.inj h)
          simp only [Bool.and_eq_true, decide_eq_true_eq] at hlive
          exact ⟨hs, hkey, hfind, hlive⟩
  · rintro ⟨hs, hkey, hfind, hactive, hlive⟩
    rw [reusableLease, if_neg hs, hkey]
    simp [hfind, hactive, hlive]

/-- **What the sticky branch clears away**: nothing when the session has no Active lease,
else that lease.  Either way the session's key is free afterwards. -/
theorem Bookkeeping.dropStaleSticky_cases (h : Bookkeeping r) (clock : RouterClock)
    {request : LeaseRequest} (hsafe : isSafeUrlSegmentId request.poolId = true) :
    (dropStaleSticky clock request r).stickySessions.find?
        (stickyKey request.poolId request.sessionId) = none ∧
    (dropStaleSticky clock request r = r ∨
      ∃ id lease, r.leases.find? id = some lease ∧
        StickyUnder (stickyKey request.poolId request.sessionId) lease ∧
        dropStaleSticky clock request r = markReleased clock id lease
          "Sticky lease released: bound instance is no longer live; session rebinds." r) := by
  unfold dropStaleSticky
  by_cases hs : request.sessionId = ""
  · rw [if_pos hs]
    refine ⟨?_, Or.inl rfl⟩
    by_contra hne
    obtain ⟨id, hid⟩ := Option.ne_none_iff_exists'.mp hne
    obtain ⟨lease, hfind, -, hsession, hkey⟩ := h.sticky.mp hid
    exact hsession ((stickyKey_inj hsafe (h.poolSafe hfind) hkey).2 ▸ hs)
  · rw [if_neg hs]
    cases hkey : r.stickySessions.find? (stickyKey request.poolId request.sessionId) with
    | none => exact ⟨hkey, Or.inl rfl⟩
    | some id =>
      obtain ⟨lease, hfind, hsticky⟩ := h.sticky.mp hkey
      simp only [hfind, if_pos hsticky.1]
      refine ⟨OrdMap.find?_erase_self _ _, Or.inr ⟨id, lease, hfind, hsticky, ?_⟩⟩
      rw [markReleased, if_neg hsticky.2.1, ← hsticky.2.2]

theorem Bookkeeping.dropStaleSticky_moves (h : Bookkeeping r) {request : LeaseRequest}
    (hsafe : isSafeUrlSegmentId request.poolId = true) :
    ReflTransGen (RouterMove clock) r (dropStaleSticky clock request r) := by
  rcases (h.dropStaleSticky_cases clock hsafe).2 with heq | ⟨id, lease, hfind, hsticky, heq⟩
  · rw [heq]
  · rw [heq]
    exact ReflTransGen.single (RouterMove.release _ hfind hsticky.1)

theorem Bookkeeping.acquireFromPool_moves (h : Bookkeeping r) (supervisor : IWorkerSupervisor σ)
    {request : LeaseRequest} {pool : ManagedEndpointPool} (hpool : pool.poolId = request.poolId)
    (hsafe : isSafeUrlSegmentId request.poolId = true) (s : σ) :
    ReflTransGen (RouterMove clock) r (acquireFromPool supervisor clock request pool r s).2.1 := by
  have hfree := (h.dropStaleSticky_cases clock hsafe).1
  have hdrop : ReflTransGen (RouterMove clock) r (dropStaleSticky clock request r) :=
    h.dropStaleSticky_moves hsafe
  rw [← hpool] at hsafe hfree
  rcases acquireFromPool_cases supervisor clock request pool r s with
    ⟨id, lease, hreuse, heq⟩ | ⟨instanceId, -, -, heq⟩ | ⟨-, -, heq⟩ | ⟨-, -, heq⟩
  · rw [heq]
    obtain ⟨-, -, hfind, hactive, -⟩ := reusableLease_eq_some.mp hreuse
    exact ReflTransGen.single (RouterMove.touch hfind hactive)
  · rw [heq]
    exact hdrop.tail (RouterMove.bind instanceId false hsafe hfree)
  · rw [heq]
    exact hdrop.tail (RouterMove.bind _ true hsafe hfree)
  · rw [heq]
    exact hdrop

/-- The supervisor answers a query with the pool asked for, whose id is safe. -/
def Truthful (supervisor : IWorkerSupervisor σ) (s : σ) : Prop :=
  ∀ p pool, (supervisor.findPool p s).1 = some pool →
    pool.poolId = p ∧ isSafeUrlSegmentId p = true

/-- **An acquire is a sequence of moves.** -/
theorem Bookkeeping.acquireLease_moves (h : Bookkeeping r) {supervisor : IWorkerSupervisor σ}
    {s : σ} (htruth : Truthful supervisor s) (request : LeaseRequest) :
    ReflTransGen (RouterMove clock) r (acquireLease supervisor clock request r s).2.1 := by
  have hprune := pruneExpiredLeasesLocked_moves clock r
  unfold acquireLease
  by_cases hid : request.poolId = ""
  · rw [if_pos hid]
  · rw [if_neg hid]
    dsimp only
    cases hfound : (supervisor.findPool request.poolId s).1 with
    | none => exact hprune
    | some pool =>
      obtain ⟨hpool, hsafe⟩ := htruth request.poolId pool hfound
      exact hprune.trans ((h.pruned clock).acquireFromPool_moves supervisor hpool hsafe _)

theorem releaseLease_moves (clock : RouterClock) (leaseId reason : String) (r : LeaseRouter) :
    ReflTransGen (RouterMove clock) r (releaseLease clock leaseId reason r).2 := by
  unfold releaseLease
  cases hfind : r.leases.find? leaseId with
  | none => exact ReflTransGen.refl
  | some lease =>
    dsimp only
    by_cases hstate : lease.state = .active
    · rw [if_neg (not_not.mpr hstate)]
      exact ReflTransGen.single (RouterMove.release _ hfind hstate)
    · rw [if_pos hstate]

theorem saturationFor_router (supervisor : IWorkerSupervisor σ) (clock : RouterClock)
    (poolId : String) (r : LeaseRouter) (s : σ) :
    (saturationFor supervisor clock poolId r s).2.1 = pruneExpiredLeasesLocked clock r := by
  unfold saturationFor
  dsimp only
  split <;> rfl

/-! ## Runs of the router -/

/-- What may be asked of the router. -/
inductive RouterCall where
  | acquireLease (request : LeaseRequest)
  | releaseLease (leaseId reason : String)
  | activeLeases (poolId : String)
  | saturationFor (poolId : String)
  deriving DecidableEq

/-- One call, with the clock it reads and the supervisor that answers it; what the
supervisor answers is arbitrary and may differ from call to call. -/
structure RouterStep where
  clock : RouterClock
  supervisor : IWorkerSupervisor Unit
  call : RouterCall

def performRouter (r : LeaseRouter) (step : RouterStep) : LeaseRouter :=
  match step.call with
  | .acquireLease request => (acquireLease step.supervisor step.clock request r ()).2.1
  | .releaseLease leaseId reason => (releaseLease step.clock leaseId reason r).2
  | .activeLeases poolId => (activeLeases step.clock poolId r).2
  | .saturationFor poolId => (saturationFor step.supervisor step.clock poolId r ()).2.1

/-- The router, from its construction on. -/
def routerSystem (idleTimeoutSeconds : Int) : TransitionSystem LeaseRouter RouterStep where
  init := LeaseRouter.create idleTimeoutSeconds
  step := performRouter

/-- The supervisor of a step is truthful. -/
def TruthfulStep (_ : LeaseRouter) (step : RouterStep) : Prop := Truthful step.supervisor ()

theorem Bookkeeping.performRouter_moves (h : Bookkeeping r) {step : RouterStep}
    (htruth : TruthfulStep r step) :
    ReflTransGen (RouterMove step.clock) r (performRouter r step) := by
  obtain ⟨clock, supervisor, call⟩ := step
  cases call with
  | acquireLease request => exact h.acquireLease_moves htruth request
  | releaseLease leaseId reason => exact releaseLease_moves clock leaseId reason r
  | activeLeases poolId => exact pruneExpiredLeasesLocked_moves clock r
  | saturationFor poolId =>
    show ReflTransGen _ r (saturationFor supervisor clock poolId r ()).2.1
    rw [saturationFor_router]
    exact pruneExpiredLeasesLocked_moves clock r

theorem reachable_bookkeeping {idleTimeoutSeconds : Int}
    (h : (routerSystem idleTimeoutSeconds).ReachableBy TruthfulStep r) : Bookkeeping r :=
  h.invariant (bookkeeping_create _) fun _ _ hs htruth => hs.moves (hs.performRouter_moves htruth)

/-- Along a list of calls the records only evolve. -/
theorem Bookkeeping.evolves_run {idleTimeoutSeconds : Int} (h : Bookkeeping r)
    (steps : List RouterStep)
    (hsteps : (routerSystem idleTimeoutSeconds).Allowed TruthfulStep r steps) :
    Evolves r ((routerSystem idleTimeoutSeconds).run r steps) := by
  induction steps generalizing r with
  | nil => exact evolves_of_eq rfl rfl
  | cons step steps ih =>
    have hmoves := h.performRouter_moves hsteps.1
    exact (evolves_of_moves hmoves).trans (ih (h.moves hmoves) hsteps.2)

/-- What a caller may rely on between two operations. -/
structure SessionsConsistent (r : LeaseRouter) : Prop where
  /-- A pool and a session have at most one Active lease. -/
  one_active : ∀ {id₁ id₂ : String} {lease₁ lease₂ : EndpointLease},
    r.leases.find? id₁ = some lease₁ → r.leases.find? id₂ = some lease₂ →
    lease₁.state = .active → lease₂.state = .active → lease₁.sessionId ≠ "" →
    lease₁.poolId = lease₂.poolId → lease₁.sessionId = lease₂.sessionId → id₁ = id₂
  /-- The sticky map leads from a pool and a session to their Active lease. -/
  sticky_iff : ∀ {poolId sessionId id : String}, isSafeUrlSegmentId poolId = true →
    sessionId ≠ "" →
    (r.stickySessions.find? (stickyKey poolId sessionId) = some id ↔
      ∃ lease, r.leases.find? id = some lease ∧ lease.state = .active ∧
        lease.poolId = poolId ∧ lease.sessionId = sessionId)
  /-- The sticky map has no other entries. -/
  sticky_only : ∀ {key id : String}, r.stickySessions.find? key = some id →
    ∃ poolId sessionId, isSafeUrlSegmentId poolId = true ∧ sessionId ≠ "" ∧
      key = stickyKey poolId sessionId
  /-- Exactly the recorded leases have an activity stamp. -/
  activity_iff : ∀ {id : String}, (∃ t, r.leaseActivity.find? id = some t) ↔
    ∃ lease, r.leases.find? id = some lease
  /-- A recorded lease carries a serial already given out. -/
  issued : ∀ {id : String} {lease : EndpointLease}, r.leases.find? id = some lease →
    lease.leaseId = id ∧ ∃ k, k < r.nextLeaseSerial ∧ id = leaseIdOf k

theorem Bookkeeping.sessionsConsistent (h : Bookkeeping r) : SessionsConsistent r where
  one_active := h.active_unique
  sticky_iff {poolId sessionId id} hsafe hs := by
    rw [h.sticky]
    constructor
    · rintro ⟨lease, hfind, hactive, -, hkey⟩
      obtain ⟨hpool, hsession⟩ := stickyKey_inj hsafe (h.poolSafe hfind) hkey
      exact ⟨lease, hfind, hactive, hpool.symm, hsession.symm⟩
    · rintro ⟨lease, hfind, hactive, rfl, rfl⟩
      exact ⟨lease, hfind, hactive, hs, rfl⟩
  sticky_only {key id} hkey := by
    obtain ⟨lease, hfind, -, hs, rfl⟩ := h.sticky.mp hkey
    exact ⟨lease.poolId, lease.sessionId, h.poolSafe hfind, hs, rfl⟩
  activity_iff := h.activity
  issued := h.issued

/-- **The router's bookkeeping.**  In every state of every run with a truthful supervisor
the three maps agree, and from there on every lease record only evolves and no lease id
comes back. -/
theorem router_bookkeeping {idleTimeoutSeconds : Int}
    (h : (routerSystem idleTimeoutSeconds).ReachableBy TruthfulStep r) :
    SessionsConsistent r ∧
      ∀ steps, (routerSystem idleTimeoutSeconds).Allowed TruthfulStep r steps →
        Evolves r ((routerSystem idleTimeoutSeconds).run r steps) ∧
        ∀ k, k < r.nextLeaseSerial → r.leases.find? (leaseIdOf k) = none →
          ((routerSystem idleTimeoutSeconds).run r steps).leases.find? (leaseIdOf k) = none := by
  have hbook := reachable_bookkeeping h
  refine ⟨hbook.sessionsConsistent, fun steps hsteps => ?_⟩
  have hevolves := hbook.evolves_run steps hsteps
  exact ⟨hevolves, fun k hk hnone => hevolves.not_reused hk hnone⟩

/-! ### A session, and two sessions whose keys collide -/

/-- A pool with one Ready instance. -/
def readyPool (poolId : String) : ManagedEndpointPool :=
  { poolId := poolId, scalePolicy := { maxActiveLeasesPerInstance := 4 },
    instances := [{ instanceId := poolId ++ "#1", poolId := poolId, state := .ready }] }

/-- A supervisor that knows the pool `p`. -/
def onePoolSupervisor : IWorkerSupervisor Unit where
  findPool p s := (if p = "p" then some (readyPool p) else none, s)
  scaleUpOnce _ s := ("", s)

/-- A supervisor that knows every pool it is asked for, whatever its id. -/
def anyPoolSupervisor : IWorkerSupervisor Unit where
  findPool p s := (some (readyPool p), s)
  scaleUpOnce _ s := ("", s)

/-- Some time of day. -/
def someClock : RouterClock := ⟨0, "2026-01-01T00:00:00Z"⟩

/-- One session of the pool `p`. -/
def sessionRouter : LeaseRouter :=
  (routerSystem 900).run (LeaseRouter.create 900)
    [⟨someClock, onePoolSupervisor, .acquireLease { poolId := "p", sessionId := "s" }⟩]

theorem truthful_onePoolSupervisor : Truthful onePoolSupervisor () := by
  intro p pool h
  dsimp only [onePoolSupervisor] at h
  split_ifs at h with hp
  cases h
  exact ⟨rfl, hp ▸ by decide⟩

theorem bookkeeping_sessionRouter :
    SessionsConsistent sessionRouter ∧
      Evolves sessionRouter ((routerSystem 900).run sessionRouter
        [⟨someClock, onePoolSupervisor, .releaseLease "lease-1" ""⟩]) := by
  have hreach : (routerSystem 900).ReachableBy TruthfulStep sessionRouter :=
    TransitionSystem.ReachableBy.init.run _ ⟨truthful_onePoolSupervisor, trivial⟩
  have hbook := router_bookkeeping hreach
  have hsteps : (routerSystem 900).Allowed TruthfulStep sessionRouter
      [⟨someClock, onePoolSupervisor, .releaseLease "lease-1" ""⟩] :=
    ⟨truthful_onePoolSupervisor, trivial⟩
  exact ⟨hbook.1, (hbook.2 _ hsteps).1⟩

/-- The session `b::c` of the pool `a`, then the session `c` of the pool `a::b`. -/
def collidedRouter : LeaseRouter :=
  (routerSystem 900).run (LeaseRouter.create 900)
    [⟨someClock, anyPoolSupervisor, .acquireLease { poolId := "a", sessionId := "b::c" }⟩,
     ⟨someClock, anyPoolSupervisor, .acquireLease { poolId := "a::b", sessionId := "c" }⟩]

theorem sticky_key_collides :
    ¬ ∀ r, (routerSystem 900).Reachable r → ∀ poolId sessionId id : String, sessionId ≠ "" →
      (r.stickySessions.find? (stickyKey poolId sessionId) = some id ↔
        ∃ lease, r.leases.find? id = some lease ∧ lease.state = .active ∧
          lease.poolId = poolId ∧ lease.sessionId = sessionId) := by
  intro h
  have hreach : (routerSystem 900).Reachable collidedRouter :=
    TransitionSystem.Reachable.run TransitionSystem.ReachableBy.init _
  have hkey : collidedRouter.stickySessions.find? (stickyKey "a" "b::c") = some "lease-2" := by
    decide
  obtain ⟨lease, hfind, -, hpool, -⟩ :=
    (h collidedRouter hreach "a" "b::c" "lease-2" (by decide)).mp hkey
  have hother : (collidedRouter.leases.find? "lease-2").map EndpointLease.poolId =
      some "a::b" := by decide
  rw [hfind, Option.map_some, hpool] at hother
  exact absurd hother (by decide)

end Leasing
end MasterControl
