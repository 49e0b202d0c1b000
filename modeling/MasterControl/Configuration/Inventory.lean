import MasterControl.Configuration.Services
import MasterControl.Foundation.Runs

/-!
# The runtime inventory

`RuntimeInventoryService` keeps a list of the configured endpoints with what probing has found out
about them.  A refresh takes a snapshot of the configured list, leaves it at that if the list it
has published looks fresh, probes every endpoint of the snapshot, and publishes the result.  The
catalogs ask for an asynchronous refresh after each of their mutations, which joins the one in
flight if there is one; others refresh on their own thread.

`inventory` is any interleaving of mutations, refreshes, and the four parts of every refresh.
Snapshots are numbered, and carry how many mutations came before them.
-/

namespace MasterControl
namespace Configuration

open Foundation Supervisor

/-! ## Endpoints as they are configured -/

/-- An endpoint without what a refresh finds out. -/
def RuntimeEndpoint.configured (endpoint : RuntimeEndpoint) : RuntimeEndpoint :=
  { endpoint with status := .unknown, lastCheckedUtc := "" }

/-- The same endpoints in every field except `status` and `lastCheckedUtc`. -/
def Agrees (left right : List RuntimeEndpoint) : Prop :=
  left.map RuntimeEndpoint.configured = right.map RuntimeEndpoint.configured

instance (left right : List RuntimeEndpoint) : Decidable (Agrees left right) :=
  inferInstanceAs (Decidable (left.map RuntimeEndpoint.configured =
    right.map RuntimeEndpoint.configured))

/-- The comparison of two endpoints in `sameEndpointConfiguration`. -/
def sameEndpoint (left right : RuntimeEndpoint) : Bool :=
  left.id = right.id && left.host = right.host && left.port = right.port &&
    left.protocol = right.protocol && left.routePath = right.routePath &&
    left.kind = right.kind && left.userDefined = right.userDefined &&
    left.specialization = right.specialization

def sameEndpointConfiguration (left right : List RuntimeEndpoint) : Bool :=
  left.length = right.length && (left.zip right).all fun pair => sameEndpoint pair.1 pair.2

/-! ## A refresh -/

/-- What probing the endpoint at each place of a list finds, and when. -/
structure ProbeAnswers where
  timestampNowUtc : ℕ → String
  probeEndpoint : ℕ → EndpointStatus

/-- One turn of the probing loop. -/
def probed (answers : ProbeAnswers) (k : ℕ) (endpoint : RuntimeEndpoint) : RuntimeEndpoint :=
  { endpoint with
    lastCheckedUtc := answers.timestampNowUtc k
    status :=
      if endpoint.port = 0 ∨ endpoint.host = "" ∨ endpoint.protocol = "virtual" then .unknown
      else answers.probeEndpoint k }

/-- The probing loop. -/
def probeAll (answers : ProbeAnswers) (endpoints : List RuntimeEndpoint) : List RuntimeEndpoint :=
  endpoints.mapIdx (probed answers)

theorem agrees_probeAll (answers : ProbeAnswers) (endpoints : List RuntimeEndpoint) :
    Agrees (probeAll answers endpoints) endpoints := by
  unfold Agrees probeAll
  refine List.ext_getElem? fun k => ?_
  rw [List.getElem?_map, List.getElem?_mapIdx, List.getElem?_map, Option.map_map]
  rfl

/-- A copy of the configured list: its number among all snapshots, and the number of mutations
before it. -/
structure Snapshot where
  stamp : ℕ
  version : ℕ
  endpoints : List RuntimeEndpoint
  deriving DecidableEq

/-- How far a refresh has come. -/
inductive RefreshPhase where
  | started
  | snapshotTaken (snapshot : Snapshot)
  /-- The freshness test did not stop it. -/
  | probing (snapshot : Snapshot)
  | probed (snapshot : Snapshot) (endpoints : List RuntimeEndpoint)
  /-- `refresh` has returned; an asynchronous one has still to clear the flag. -/
  | ended (snapshot : Snapshot)
  | cleared (snapshot : Snapshot)
  deriving DecidableEq

structure Refresh where
  asynchronous : Bool
  phase : RefreshPhase
  deriving DecidableEq

/-! ## The service -/

/-- The service with the configured list, and the refreshes since its construction. -/
structure RuntimeInventory where
  /-- `seededEndpoints`. -/
  configured : List RuntimeEndpoint
  /-- What `listEndpoints` returns. -/
  endpoints : List RuntimeEndpoint
  lastRefreshAt : TimePoint
  refreshPending : Bool := false
  refreshes : List Refresh := []
  /-- The number of mutations. -/
  version : ℕ := 0
  /-- The mutations whose `refreshAsync` has not returned. -/
  outstanding : List ℕ := []
  /-- The number of snapshots. -/
  taken : ℕ := 1
  /-- The snapshots that were published, in that order. -/
  publications : List ℕ := [0]
  /-- The most mutations that a refresh which has ended had before its snapshot. -/
  settled : ℕ := 0

/-- `refreshInterval_`. -/
def refreshInterval : TimePoint := seconds 15

/-- The freshness test. -/
def isFresh (o : RuntimeInventory) (now : TimePoint) (endpoints : List RuntimeEndpoint) : Bool :=
  !o.endpoints.isEmpty && o.lastRefreshAt ≠ 0 && now - o.lastRefreshAt < refreshInterval &&
    sameEndpointConfiguration o.endpoints endpoints

inductive InventoryStep where
  /-- A catalog mutation leaves this list. -/
  | mutate (configured : List RuntimeEndpoint)
  /-- The `refreshAsync` of a mutation, or of nobody. -/
  | refreshAsync (mutation : Option ℕ)
  /-- `refresh` is called. -/
  | refresh
  /-- A refresh goes on. -/
  | proceed (i : ℕ) (now : TimePoint) (answers : ProbeAnswers)

namespace RuntimeInventory

def setPhase (o : RuntimeInventory) (i : ℕ) (refresh : Refresh) (phase : RefreshPhase) :
    RuntimeInventory :=
  { o with refreshes := o.refreshes.set i { refresh with phase } }

/-- A refresh ends with this snapshot. -/
def endRefresh (o : RuntimeInventory) (i : ℕ) (refresh : Refresh) (snapshot : Snapshot) :
    RuntimeInventory :=
  { o.setPhase i refresh (.ended snapshot) with settled := max o.settled snapshot.version }

/-- The next part of a refresh. -/
def proceed (o : RuntimeInventory) (i : ℕ) (now : TimePoint) (answers : ProbeAnswers)
    (refresh : Refresh) : RuntimeInventory :=
  match refresh.phase with
  | .started =>
    { o.setPhase i refresh (.snapshotTaken ⟨o.taken, o.version, o.configured⟩) with
      taken := o.taken + 1 }
  | .snapshotTaken snapshot =>
    if isFresh o now snapshot.endpoints then o.endRefresh i refresh snapshot
    else o.setPhase i refresh (.probing snapshot)
  | .probing snapshot =>
    o.setPhase i refresh (.probed snapshot (probeAll answers snapshot.endpoints))
  | .probed snapshot endpoints =>
    { o.endRefresh i refresh snapshot with
      endpoints, lastRefreshAt := now, publications := o.publications ++ [snapshot.stamp] }
  | .ended snapshot =>
    { o.setPhase i refresh (.cleared snapshot) with
      refreshPending := if refresh.asynchronous then false else o.refreshPending }
  | .cleared _ => o

end RuntimeInventory

def inventoryStep (o : RuntimeInventory) : InventoryStep → RuntimeInventory
  | .mutate configured =>
    { o with configured, version := o.version + 1,
             outstanding := o.outstanding ++ [o.version + 1] }
  | .refreshAsync mutation =>
    let o := { o with outstanding := o.outstanding.filter fun m => mutation ≠ some m }
    if o.refreshPending then o
    else { o with refreshPending := true, refreshes := o.refreshes ++ [⟨true, .started⟩] }
  | .refresh => { o with refreshes := o.refreshes ++ [⟨false, .started⟩] }
  | .proceed i now answers =>
    match o.refreshes[i]? with
    | none => o
    | some refresh => o.proceed i now answers refresh

/-- The service after its constructor has refreshed it at a given time. -/
def inventory (configured : List RuntimeEndpoint) (now : TimePoint) (answers : ProbeAnswers) :
    TransitionSystem RuntimeInventory InventoryStep where
  init :=
    { configured, endpoints := probeAll answers configured, lastRefreshAt := now }
  step := inventoryStep

end Configuration
end MasterControl
