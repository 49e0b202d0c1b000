import MasterControl.Configuration.Inventory
import MasterControl.Foundation.Processes

/-!
# When the inventory misses nothing

Three short cuts can cost the inventory a mutation: a request that joins a refresh whose snapshot
is older, a freshness test that compares eight fields, and refreshes that publish in another order
than they took their snapshots.  In a run without these cases, nothing is missed
(`nothingMissed_of_reachable`).

The invariant (`InventoryLaw`) counts mutations.  What is published agrees with the configuration
as soon as a refresh has ended that saw every mutation (`settled`), and a mutation whose request
has returned is seen by a refresh that has ended or by one under way.
-/

namespace MasterControl
namespace Configuration

open Foundation Supervisor

variable {o : RuntimeInventory} {i : ℕ} {now : TimePoint} {answers : ProbeAnswers}
  {refresh : Refresh} {phase : RefreshPhase} {snapshot : Snapshot}

/-! ## Where a refresh stands -/

namespace RefreshPhase

/-- The snapshot it has taken. -/
def snapshot? : RefreshPhase → Option Snapshot
  | .started => none
  | .snapshotTaken s | .probing s | .probed s _ | .ended s | .cleared s => some s

/-- The snapshot that it is going to publish. -/
def toPublish : RefreshPhase → Option Snapshot
  | .probing s | .probed s _ => some s
  | .started | .snapshotTaken _ | .ended _ | .cleared _ => none

/-- The snapshot with which it has ended. -/
def finished : RefreshPhase → Option Snapshot
  | .ended s | .cleared s => some s
  | .started | .snapshotTaken _ | .probing _ | .probed _ _ => none

/-- Whether `refresh` is running, and sees as many mutations as that. -/
def carries (version : ℕ) : RefreshPhase → Bool
  | .started => true
  | .snapshotTaken s | .probing s | .probed s _ => s.version = version
  | .ended _ | .cleared _ => false

/-- Whether the refresh sees or saw as many mutations as that. -/
def covers (version : ℕ) : RefreshPhase → Bool
  | .started => true
  | .snapshotTaken s | .probing s | .probed s _ | .ended s | .cleared s => s.version = version

end RefreshPhase

/-- No refresh is running. -/
def NoRefreshRunning (o : RuntimeInventory) : Prop :=
  ∀ r ∈ o.refreshes, r.phase.finished.isSome = true

instance (o : RuntimeInventory) : Decidable (NoRefreshRunning o) :=
  inferInstanceAs (Decidable (∀ r ∈ o.refreshes, r.phase.finished.isSome = true))

/-- The snapshot of which a refresh is about to test whether the list is fresh. -/
def RuntimeInventory.tests (o : RuntimeInventory) (i : ℕ) : Option Snapshot :=
  match o.refreshes[i]? with
  | some ⟨_, .snapshotTaken s⟩ => some s
  | _ => none

/-- The snapshot that a refresh is about to publish. -/
def RuntimeInventory.publishes (o : RuntimeInventory) (i : ℕ) : Option Snapshot :=
  match o.refreshes[i]? with
  | some ⟨_, .probed s _⟩ => some s
  | _ => none

/-! ## Runs without the three cases -/

/-- The request of the last mutation joins a refresh in flight only if some refresh has yet to
take its snapshot, or has taken it after the mutation. -/
def JoinsInTime (o : RuntimeInventory) : InventoryStep → Prop
  | .refreshAsync (some mutation) => mutation = o.version → o.refreshPending = true →
    ∃ r ∈ o.refreshes, r.phase.covers o.version = true
  | _ => True

/-- What an up-to-date refresh finds fresh agrees with its snapshot in every field. -/
def FreshAgrees (o : RuntimeInventory) : InventoryStep → Prop
  | .proceed i now _ => ∀ s ∈ o.tests i,
    isFresh o now s.endpoints = true → s.version = o.version → Agrees o.endpoints s.endpoints
  | _ => True

/-- A refresh ends only if none with an older snapshot is going to publish, and sets out to
publish only if none with a newer snapshot has ended.  Where the refresh publishes nothing, the
snapshots count by the mutations they have seen. -/
def EndsInOrder (o : RuntimeInventory) : InventoryStep → Prop
  | .proceed i now _ =>
    (∀ s ∈ o.tests i, if isFresh o now s.endpoints then
        ∀ r ∈ o.refreshes, ∀ s' ∈ r.phase.toPublish, s.version ≤ s'.version
      else o.settled ≤ s.version ∧ ∀ p ∈ o.publications, p ≤ s.stamp) ∧
    ∀ s ∈ o.publishes i, ∀ r ∈ o.refreshes, ∀ s' ∈ r.phase.toPublish, s.stamp ≤ s'.stamp
  | _ => True

structure Orderly (o : RuntimeInventory) (a : InventoryStep) : Prop where
  joins : JoinsInTime o a
  fresh : FreshAgrees o a
  order : EndsInOrder o a

instance (o : RuntimeInventory) (a : InventoryStep) : Decidable (Orderly o a) :=
  have : Decidable (JoinsInTime o a) :=
    match a with
    | .refreshAsync (some mutation) =>
      inferInstanceAs (Decidable (mutation = o.version → o.refreshPending = true →
        ∃ r ∈ o.refreshes, r.phase.covers o.version = true))
    | .refreshAsync none | .mutate _ | .refresh | .proceed .. => isTrue trivial
  have : Decidable (FreshAgrees o a) :=
    match a with
    | .proceed i now _ =>
      inferInstanceAs (Decidable (∀ s ∈ o.tests i, isFresh o now s.endpoints = true →
        s.version = o.version → Agrees o.endpoints s.endpoints))
    | .refreshAsync _ | .mutate _ | .refresh => isTrue trivial
  have : Decidable (EndsInOrder o a) :=
    match a with
    | .proceed i now _ =>
      inferInstanceAs (Decidable ((∀ s ∈ o.tests i, if isFresh o now s.endpoints then
          ∀ r ∈ o.refreshes, ∀ s' ∈ r.phase.toPublish, s.version ≤ s'.version
        else o.settled ≤ s.version ∧ ∀ p ∈ o.publications, p ≤ s.stamp) ∧
        ∀ s ∈ o.publishes i, ∀ r ∈ o.refreshes, ∀ s' ∈ r.phase.toPublish, s.stamp ≤ s'.stamp))
    | .refreshAsync _ | .mutate _ | .refresh => isTrue trivial
  decidable_of_iff (JoinsInTime o a ∧ FreshAgrees o a ∧ EndsInOrder o a)
    ⟨fun h => ⟨h.1, h.2.1, h.2.2⟩, fun h => ⟨h.joins, h.fresh, h.order⟩⟩

/-- Nothing is missed: when no refresh is running and the request of the last mutation has
returned, the list agrees with the configuration; and no list is overwritten by an older one. -/
structure NothingMissed (o : RuntimeInventory) : Prop where
  upToDate : NoRefreshRunning o → o.version ∉ o.outstanding → Agrees o.endpoints o.configured
  inOrder : o.publications.Pairwise (· ≤ ·)

/-! ## The invariant -/

/-- What holds of every refresh. -/
structure RefreshLaw (o : RuntimeInventory) (phase : RefreshPhase) : Prop where
  snapshot : ∀ s ∈ phase.snapshot?, s.stamp < o.taken ∧ s.version ≤ o.version ∧
    (s.version = o.version → s.endpoints = o.configured)
  probed : ∀ s endpoints, phase = .probed s endpoints → Agrees endpoints s.endpoints
  toPublish : ∀ s ∈ phase.toPublish, o.settled ≤ s.version ∧ ∀ p ∈ o.publications, p ≤ s.stamp
  finished : ∀ s ∈ phase.finished, s.version ≤ o.settled

/-- The invariant of the inventory. -/
structure InventoryLaw (o : RuntimeInventory) : Prop where
  refreshes : ∀ r ∈ o.refreshes, RefreshLaw o r.phase
  ordered : ∀ r ∈ o.refreshes, ∀ r' ∈ o.refreshes, ∀ s ∈ r.phase.snapshot?,
    ∀ s' ∈ r'.phase.snapshot?, s.stamp ≤ s'.stamp → s.version ≤ s'.version
  settled_le : o.settled ≤ o.version
  fresh : o.settled = o.version → Agrees o.endpoints o.configured
  owed : o.version ∉ o.outstanding →
    o.settled = o.version ∨ ∃ r ∈ o.refreshes, r.phase.carries o.version = true
  published : o.publications.Pairwise (· ≤ ·)

theorem InventoryLaw.nothingMissed (h : InventoryLaw o) : NothingMissed o where
  upToDate hquiet howed := by
    rcases h.owed howed with hsettled | ⟨r, hr, hcarries⟩
    · exact h.fresh hsettled
    · have hover := hquiet r hr
      cases hphase : r.phase with
      | ended s => rw [hphase] at hcarries; cases hcarries
      | cleared s => rw [hphase] at hcarries; cases hcarries
      | _ => rw [hphase] at hover; cases hover
  inOrder := h.published

theorem inventoryLaw_init (configured : List RuntimeEndpoint) (now : TimePoint)
    (answers : ProbeAnswers) : InventoryLaw (inventory configured now answers).init where
  refreshes r hr := by cases hr
  ordered r hr := by cases hr
  settled_le := le_rfl
  fresh _ := agrees_probeAll answers configured
  owed _ := Or.inl rfl
  published := List.pairwise_singleton _ _

/-! ## A refresh goes on -/

theorem RefreshPhase.snapshot?_of_toPublish (h : snapshot ∈ phase.toPublish) :
    snapshot ∈ phase.snapshot? := by
  cases phase with
  | probing s => exact h
  | probed s endpoints => exact h
  | _ => cases h

/-- A phase with the same snapshot as a listed one, or that one of the old list. -/
theorem mem_setPhase {r : Refresh} (hr : r ∈ (o.setPhase i refresh phase).refreshes) :
    r ∈ o.refreshes ∨ r.phase = phase := by
  rcases List.mem_or_eq_of_mem_set hr with hold | rfl
  · exact Or.inl hold
  · exact Or.inr rfl

/-- Some refresh of the old list has the snapshot of one in the new list. -/
theorem exists_of_mem_setPhase (hi : o.refreshes[i]? = some refresh)
    (hsame : phase.snapshot? = refresh.phase.snapshot?) {r : Refresh}
    (hr : r ∈ (o.setPhase i refresh phase).refreshes) :
    ∃ r' ∈ o.refreshes, r.phase.snapshot? = r'.phase.snapshot? := by
  rcases mem_setPhase hr with hold | hnew
  · exact ⟨r, hold, rfl⟩
  · exact ⟨refresh, List.mem_of_getElem? hi, by rw [hnew, hsame]⟩

/-- Whoever carries a version still does, or it is the one that goes on. -/
theorem carries_setPhase (hi : o.refreshes[i]? = some refresh) {version : ℕ}
    (h : ∃ r ∈ o.refreshes, r.phase.carries version = true) :
    (∃ r ∈ (o.setPhase i refresh phase).refreshes, r.phase.carries version = true) ∨
      refresh.phase.carries version = true := by
  obtain ⟨r, hr, hcarries⟩ := h
  rcases mem_set_or_eq (b := { refresh with phase }) hi hr with hstill | rfl
  · exact Or.inl ⟨r, hstill, hcarries⟩
  · exact Or.inr hcarries

namespace InventoryLaw

/-- A refresh goes over to another phase with the snapshot it has, and nothing else changes. -/
theorem setPhase (h : InventoryLaw o) (hi : o.refreshes[i]? = some refresh)
    (hsame : phase.snapshot? = refresh.phase.snapshot?) (hlaw : RefreshLaw o phase)
    (hcarries : refresh.phase.carries o.version = true → phase.carries o.version = true) :
    InventoryLaw (o.setPhase i refresh phase) where
  refreshes r hr := by
    rcases mem_setPhase hr with hold | hnew
    · have hold := h.refreshes r hold
      exact ⟨hold.snapshot, hold.probed, hold.toPublish, hold.finished⟩
    · rw [hnew]
      exact ⟨hlaw.snapshot, hlaw.probed, hlaw.toPublish, hlaw.finished⟩
  ordered r hr r' hr' s hs s' hs' := by
    obtain ⟨q, hq, hqs⟩ := exists_of_mem_setPhase hi hsame hr
    obtain ⟨q', hq', hqs'⟩ := exists_of_mem_setPhase hi hsame hr'
    exact h.ordered q hq q' hq' s (hqs ▸ hs) s' (hqs' ▸ hs')
  settled_le := h.settled_le
  fresh := h.fresh
  owed howed := by
    refine (h.owed howed).imp_right fun hex => ?_
    rcases carries_setPhase hi hex with hstill | hself
    · exact hstill
    · have hlt : i < o.refreshes.length := (List.getElem?_eq_some_iff.mp hi).1
      exact ⟨_, List.mem_set hlt _, hcarries hself⟩
  published := h.published

/-- **A refresh ends**, and may publish a list. -/
theorem endRefresh (h : InventoryLaw o) (hi : o.refreshes[i]? = some refresh)
    (hs : refresh.phase.snapshot? = some snapshot) {endpoints : List RuntimeEndpoint}
    {lastRefreshAt : TimePoint} {publications : List ℕ}
    (hahead : ∀ r ∈ o.refreshes, ∀ s ∈ r.phase.toPublish, snapshot.version ≤ s.version)
    (hpublications : ∀ r ∈ o.refreshes, ∀ s ∈ r.phase.toPublish, ∀ p ∈ publications, p ≤ s.stamp)
    (hfresh : max o.settled snapshot.version = o.version → Agrees endpoints o.configured)
    (hsorted : publications.Pairwise (· ≤ ·)) :
    InventoryLaw { o.endRefresh i refresh snapshot with endpoints, lastRefreshAt, publications } :=
    by
  have hself := h.refreshes refresh (List.mem_of_getElem? hi)
  have hsnapshot := hself.snapshot snapshot hs
  have hsame : (RefreshPhase.ended snapshot).snapshot? = refresh.phase.snapshot? := hs.symm
  refine ⟨fun r hr => ?_, fun r hr r' hr' s hs s' hs' => ?_, max_le h.settled_le hsnapshot.2.1,
    hfresh, fun howed => ?_, hsorted⟩
  · rcases mem_setPhase hr with hold | hnew
    · have hlaw := h.refreshes r hold
      refine ⟨hlaw.snapshot, hlaw.probed, fun s hs => ⟨?_, hpublications r hold s hs⟩,
        fun s hs => (hlaw.finished s hs).trans (le_max_left _ _)⟩
      exact max_le (hlaw.toPublish s hs).1 (hahead r hold s hs)
    · rw [hnew]
      refine ⟨fun s hs => ?_, nofun, nofun, fun s hs => ?_⟩
      · cases hs
        exact hsnapshot
      · cases hs
        exact le_max_right _ _
  · obtain ⟨q, hq, hqs⟩ := exists_of_mem_setPhase hi hsame hr
    obtain ⟨q', hq', hqs'⟩ := exists_of_mem_setPhase hi hsame hr'
    exact h.ordered q hq q' hq' s (hqs ▸ hs) s' (hqs' ▸ hs')
  · have hle := max_le h.settled_le hsnapshot.2.1
    rcases h.owed howed with hsettled | hex
    · exact Or.inl (le_antisymm hle (hsettled ▸ le_max_left _ _))
    · have hnew : (∃ r ∈ (o.setPhase i refresh (.ended snapshot)).refreshes,
          r.phase.carries o.version = true) ∨ refresh.phase.carries o.version = true :=
        carries_setPhase hi hex
      rcases hnew with hstill | hcarried
      · exact Or.inr hstill
      · -- the refresh that ends has seen every mutation
        have hversion : snapshot.version = o.version := by
          cases hphase : refresh.phase with
          | started => rw [hphase] at hs; cases hs
          | ended s => rw [hphase] at hcarried; cases hcarried
          | cleared s => rw [hphase] at hcarried; cases hcarried
          | _ =>
            rw [hphase] at hs hcarried
            cases hs
            exact of_decide_eq_true hcarried
        exact Or.inl (le_antisymm hle (hversion ▸ le_max_right _ _))

/-- **A refresh takes its snapshot**, the newest of all. -/
theorem takeSnapshot (h : InventoryLaw o) (hi : o.refreshes[i]? = some refresh) :
    InventoryLaw
      { o.setPhase i refresh (.snapshotTaken ⟨o.taken, o.version, o.configured⟩) with
        taken := o.taken + 1 } := by
  have hnewest : ∀ r ∈ o.refreshes, ∀ s ∈ r.phase.snapshot?,
      s.stamp < o.taken ∧ s.version ≤ o.version :=
    fun r hr s hs => ⟨((h.refreshes r hr).snapshot s hs).1, ((h.refreshes r hr).snapshot s hs).2.1⟩
  refine ⟨fun r hr => ?_, fun r hr r' hr' s hs s' hs' hle => ?_, h.settled_le, h.fresh,
    fun howed => ?_, h.published⟩
  · rcases mem_setPhase hr with hold | hnew
    · have hlaw := h.refreshes r hold
      refine ⟨fun s hs => ?_, hlaw.probed, hlaw.toPublish, hlaw.finished⟩
      obtain ⟨hstamp, hrest⟩ := hlaw.snapshot s hs
      exact ⟨hstamp.trans (Nat.lt_succ_self _), hrest⟩
    · rw [hnew]
      refine ⟨fun s hs => ?_, nofun, nofun, nofun⟩
      cases hs
      exact ⟨Nat.lt_succ_self _, le_rfl, fun _ => rfl⟩
  · rcases mem_setPhase hr with hold | hnew
    · rcases mem_setPhase hr' with hold' | hnew'
      · exact h.ordered r hold r' hold' s hs s' hs' hle
      · rw [hnew'] at hs'
        cases hs'
        exact (hnewest r hold s hs).2
    · rcases mem_setPhase hr' with hold' | hnew'
      · rw [hnew] at hs
        cases hs
        exact absurd (hnewest r' hold' s' hs').1 (not_lt.mpr hle)
      · rw [hnew] at hs
        rw [hnew'] at hs'
        cases hs
        cases hs'
        exact le_rfl
  · refine (h.owed howed).imp_right fun hex => ?_
    rcases carries_setPhase hi hex with hstill | -
    · exact hstill
    · have hlt : i < o.refreshes.length := (List.getElem?_eq_some_iff.mp hi).1
      exact ⟨_, List.mem_set hlt _, decide_eq_true rfl⟩

/-- **The next part of a refresh** keeps the law in an orderly run. -/
theorem proceed (h : InventoryLaw o) (hi : o.refreshes[i]? = some refresh)
    (horderly : Orderly o (.proceed i now answers)) :
    InventoryLaw (o.proceed i now answers refresh) := by
  have hself := h.refreshes refresh (List.mem_of_getElem? hi)
  unfold RuntimeInventory.proceed
  cases hcase : refresh.phase with
  | started => exact h.takeSnapshot hi
  | snapshotTaken s =>
    rw [hcase] at hself
    dsimp only
    have hs : refresh.phase.snapshot? = some s := by rw [hcase]; rfl
    have hsnapshot := hself.snapshot s rfl
    have htests : s ∈ o.tests i := by
      obtain ⟨asynchronous, phase⟩ := refresh
      cases hcase
      rw [RuntimeInventory.tests, hi]
      rfl
    have hfresh := horderly.fresh s htests
    have horder := horderly.order.1 s htests
    cases htest : isFresh o now s.endpoints with
    | true =>
      rw [htest, if_pos rfl] at horder
      rw [if_pos rfl]
      refine h.endRefresh hi hs horder (fun r hr s hs => ((h.refreshes r hr).toPublish s hs).2)
        (fun hmax => ?_) h.published
      rcases max_choice o.settled s.version with heq | heq
      · exact h.fresh (heq.symm.trans hmax)
      · have hversion := heq.symm.trans hmax
        rw [← hsnapshot.2.2 hversion]
        exact hfresh htest hversion
    | false =>
      rw [htest, if_neg Bool.false_ne_true] at horder
      rw [if_neg Bool.false_ne_true]
      refine h.setPhase hi hs.symm ⟨fun s' hs' => ?_, nofun, fun s' hs' => ?_, nofun⟩ fun hc => ?_
      · cases hs'
        exact hsnapshot
      · cases hs'
        exact horder
      · rwa [hcase] at hc
  | probing s =>
    rw [hcase] at hself
    dsimp only
    refine h.setPhase hi (by rw [hcase]; rfl) ⟨fun s' hs' => ?_, fun s' list heq => ?_,
      fun s' hs' => ?_, nofun⟩ fun hc => ?_
    · cases hs'
      exact hself.snapshot s rfl
    · cases heq
      exact agrees_probeAll answers s.endpoints
    · cases hs'
      exact hself.toPublish s rfl
    · rwa [hcase] at hc
  | probed s endpoints =>
    rw [hcase] at hself
    dsimp only
    have hs : refresh.phase.snapshot? = some s := by rw [hcase]; rfl
    have hsnapshot := hself.snapshot s rfl
    have hpublishes : s ∈ o.publishes i := by
      obtain ⟨asynchronous, phase⟩ := refresh
      cases hcase
      rw [RuntimeInventory.publishes, hi]
      rfl
    have horder := horderly.order.2 s hpublishes
    obtain ⟨hsettled, hstamps⟩ := hself.toPublish s rfl
    have hahead : ∀ r ∈ o.refreshes, ∀ s' ∈ r.phase.toPublish, s.version ≤ s'.version :=
      fun r hr s' hs' => h.ordered refresh (List.mem_of_getElem? hi) r hr s hs s'
        (RefreshPhase.snapshot?_of_toPublish hs') (horder r hr s' hs')
    refine h.endRefresh hi hs hahead (fun r hr s' hs' p hp => ?_) (fun hmax => ?_) ?_
    · rcases List.mem_append.mp hp with hold | hnew
      · exact ((h.refreshes r hr).toPublish s' hs').2 p hold
      · rw [List.mem_singleton.mp hnew]
        exact horder r hr s' hs'
    · rw [max_eq_right hsettled] at hmax
      rw [← hsnapshot.2.2 hmax]
      exact hself.probed s endpoints rfl
    · refine List.pairwise_append.mpr ⟨h.published, List.pairwise_singleton _ _, ?_⟩
      intro p hp q hq
      rw [List.mem_singleton.mp hq]
      exact hstamps p hp
  | ended s =>
    rw [hcase] at hself
    have hlaw : InventoryLaw (o.setPhase i refresh (.cleared s)) :=
      h.setPhase hi (by rw [hcase]; rfl) ⟨hself.snapshot, nofun, nofun, hself.finished⟩
        fun hc => by rw [hcase] at hc; cases hc
    exact ⟨fun r hr => ⟨(hlaw.refreshes r hr).snapshot, (hlaw.refreshes r hr).probed,
      (hlaw.refreshes r hr).toPublish, (hlaw.refreshes r hr).finished⟩, hlaw.ordered,
      hlaw.settled_le, hlaw.fresh, hlaw.owed, hlaw.published⟩
  | cleared s =>
    exact h

end InventoryLaw

/-! ## Mutations and requests -/

namespace InventoryLaw

/-- A mutation: nothing that is there has seen it. -/
theorem mutate (h : InventoryLaw o) (configured : List RuntimeEndpoint) :
    InventoryLaw (inventoryStep o (.mutate configured)) where
  refreshes r hr := by
    have hlaw := h.refreshes r hr
    refine ⟨fun s hs => ?_, hlaw.probed, hlaw.toPublish, hlaw.finished⟩
    obtain ⟨hstamp, hversion, -⟩ := hlaw.snapshot s hs
    refine ⟨hstamp, hversion.trans (Nat.le_succ _), fun heq => ?_⟩
    exact absurd heq (Nat.ne_of_lt (Nat.lt_succ_of_le hversion))
  ordered := h.ordered
  settled_le := h.settled_le.trans (Nat.le_succ _)
  fresh heq := absurd heq (Nat.ne_of_lt (Nat.lt_succ_of_le h.settled_le))
  owed howed := by
    refine absurd ?_ howed
    exact List.mem_append_right _ (List.mem_singleton_self _)
  published := h.published

/-- One more refresh starts. -/
theorem start (h : InventoryLaw o) (asynchronous pending : Bool) (outstanding : List ℕ) :
    InventoryLaw { o with
      refreshPending := pending
      outstanding
      refreshes := o.refreshes ++ [⟨asynchronous, .started⟩] } := by
  refine ⟨fun r hr => ?_, fun r hr r' hr' s hs s' hs' hle => ?_, h.settled_le, h.fresh,
    fun _ => ?_, h.published⟩
  · rcases List.mem_append.mp hr with hold | hnew
    · have hlaw := h.refreshes r hold
      exact ⟨hlaw.snapshot, hlaw.probed, hlaw.toPublish, hlaw.finished⟩
    · rw [List.mem_singleton.mp hnew]
      exact ⟨nofun, nofun, nofun, nofun⟩
  · rcases List.mem_append.mp hr with hold | hnew
    · rcases List.mem_append.mp hr' with hold' | hnew'
      · exact h.ordered r hold r' hold' s hs s' hs' hle
      · rw [List.mem_singleton.mp hnew'] at hs'
        cases hs'
    · rw [List.mem_singleton.mp hnew] at hs
      cases hs
  · exact Or.inr ⟨_, List.mem_append_right _ (List.mem_singleton_self _), rfl⟩

/-- What covers every mutation is under way, or has ended and settled them. -/
theorem settled_or_carries (h : InventoryLaw o)
    (hcovers : ∃ r ∈ o.refreshes, r.phase.covers o.version = true) :
    o.settled = o.version ∨ ∃ r ∈ o.refreshes, r.phase.carries o.version = true := by
  obtain ⟨r, hr, hcovers⟩ := hcovers
  have hlaw := h.refreshes r hr
  cases hphase : r.phase with
  | ended s =>
    rw [hphase] at hcovers hlaw
    have hversion : s.version = o.version := of_decide_eq_true hcovers
    exact Or.inl (le_antisymm h.settled_le (hversion ▸ hlaw.finished s rfl))
  | cleared s =>
    rw [hphase] at hcovers hlaw
    have hversion : s.version = o.version := of_decide_eq_true hcovers
    exact Or.inl (le_antisymm h.settled_le (hversion ▸ hlaw.finished s rfl))
  | _ =>
    refine Or.inr ⟨r, hr, ?_⟩
    rw [hphase] at hcovers ⊢
    exact hcovers

/-- A request for an asynchronous refresh. -/
theorem refreshAsync (h : InventoryLaw o) {mutation : Option ℕ}
    (horderly : Orderly o (.refreshAsync mutation)) :
    InventoryLaw (inventoryStep o (.refreshAsync mutation)) := by
  unfold inventoryStep
  dsimp only
  split
  · next hpending =>
    refine ⟨fun r hr => ?_, h.ordered, h.settled_le, h.fresh, fun howed => ?_, h.published⟩
    · have hlaw := h.refreshes r hr
      exact ⟨hlaw.snapshot, hlaw.probed, hlaw.toPublish, hlaw.finished⟩
    · have hcase : o.version ∉ o.outstanding ∨ mutation = some o.version := by
        by_contra hnot
        rw [not_or, not_not] at hnot
        exact howed (List.mem_filter.mpr ⟨hnot.1, decide_eq_true hnot.2⟩)
      rcases hcase with hreturned | rfl
      · exact h.owed hreturned
      · exact h.settled_or_carries (horderly.joins rfl hpending)
  · exact h.start true true _

/-- **Every orderly step keeps the law.** -/
theorem step (h : InventoryLaw o) {a : InventoryStep} (ha : Orderly o a) :
    InventoryLaw (inventoryStep o a) := by
  cases a with
  | mutate configured => exact h.mutate configured
  | refreshAsync mutation => exact h.refreshAsync ha
  | refresh => exact h.start false o.refreshPending o.outstanding
  | proceed i now answers =>
    cases hi : o.refreshes[i]? with
    | none =>
      rw [inventoryStep, hi]
      exact h
    | some refresh =>
      rw [inventoryStep, hi]
      exact h.proceed hi ha

end InventoryLaw

/-- **No mutation is missed** in a run in which no request of the last mutation joins a refresh
with an older snapshot, what an up-to-date refresh finds fresh agrees with its snapshot in every
field, and refreshes end in the order of their snapshots. -/
theorem nothingMissed_of_reachable {configured : List RuntimeEndpoint}
    (h : (inventory configured now answers).ReachableBy Orderly o) : NothingMissed o := by
  refine InventoryLaw.nothingMissed ?_
  exact h.invariant (inventoryLaw_init configured now answers) fun _ _ ho ha => ho.step ha

/-! ### A renamed server, and an old list over a new one -/

/-- Every server is online. -/
def allOnline : ProbeAnswers where
  timestampNowUtc _ := "2026-01-01T00:00:00Z"
  probeEndpoint _ := .online

def docsServer : RuntimeEndpoint :=
  { id := "docs", displayName := "Docs", host := "127.0.0.1", port := 9001, userDefined := true }

/-- A second server is added, and its request refreshes the list. -/
def serverAdded : List InventoryStep :=
  [.mutate [docsServer, { docsServer with id := "wiki", displayName := "Wiki" }],
   .refreshAsync (some 1), .proceed 0 (seconds 2) allOnline, .proceed 0 (seconds 2) allOnline,
   .proceed 0 (seconds 2) allOnline, .proceed 0 (seconds 3) allOnline,
   .proceed 0 (seconds 3) allOnline]

def twoServers : RuntimeInventory :=
  (inventory [docsServer] (seconds 1) allOnline).run
    (inventory [docsServer] (seconds 1) allOnline).init serverAdded

theorem nothingMissed_twoServers :
    NothingMissed twoServers ∧
      twoServers.endpoints.map (·.displayName) = ["Docs", "Wiki"] := by
  have hreach : (inventory [docsServer] (seconds 1) allOnline).ReachableBy Orderly twoServers :=
    TransitionSystem.ReachableBy.init.run _ (by decide +kernel)
  exact ⟨nothingMissed_of_reachable hreach, by decide +kernel⟩

/-- A server is renamed within 15 seconds of the last refresh. -/
def serverRenamed : RuntimeInventory :=
  (inventory [docsServer] (seconds 1) allOnline).run
    (inventory [docsServer] (seconds 1) allOnline).init
    [.mutate [{ docsServer with displayName := "Manual" }], .refreshAsync (some 1),
     .proceed 0 (seconds 2) allOnline, .proceed 0 (seconds 2) allOnline,
     .proceed 0 (seconds 2) allOnline]

/-- Two callers refresh at once, and the one that took its snapshot first publishes last. -/
def olderPublishedLast : RuntimeInventory :=
  (inventory [docsServer] (seconds 1) allOnline).run
    (inventory [docsServer] (seconds 1) allOnline).init
    [.refresh, .refresh, .proceed 0 (seconds 20) allOnline, .proceed 1 (seconds 20) allOnline,
     .proceed 0 (seconds 20) allOnline, .proceed 1 (seconds 20) allOnline,
     .proceed 0 (seconds 20) allOnline, .proceed 1 (seconds 20) allOnline,
     .proceed 1 (seconds 21) allOnline, .proceed 0 (seconds 22) allOnline]

theorem inventory_misses_and_overwrites :
    (¬ ∀ o, (inventory [docsServer] (seconds 1) allOnline).Reachable o →
      NoRefreshRunning o → o.version ∉ o.outstanding → Agrees o.endpoints o.configured) ∧
    (¬ ∀ o, (inventory [docsServer] (seconds 1) allOnline).Reachable o →
      o.publications.Pairwise (· ≤ ·)) := by
  constructor
  · intro h
    have hagrees := h serverRenamed (TransitionSystem.Reachable.run .init _) (by decide +kernel)
      (by decide +kernel)
    exact absurd hagrees (by decide +kernel)
  · intro h
    have hsorted := h olderPublishedLast (TransitionSystem.Reachable.run .init _)
    exact absurd hsorted (by decide +kernel)

end Configuration
end MasterControl
