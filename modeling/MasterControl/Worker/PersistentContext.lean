import MasterControl.Foundation.Files
import MasterControl.Foundation.OrdMap
import MasterControl.Foundation.Runs
import MasterControl.Foundation.SequentialObjects
import Mathlib.Data.String.Basic

/-!
# Persistent context

The context of the tools workers is one JSON object in a file.  A call reads the whole file,
changes the object, truncates the file and writes the object back; whatever cannot be opened or
parsed is taken for the empty object, and a file that cannot be opened for writing is left alone.
The mutex around this is the process's own, the file is everybody's.

`contextSystem` is any number of processes over one file.  One step opens and reads the file,
opens it with truncation, writes some more bytes, or closes it; the label says whether an open
works and how many bytes go out.
-/

namespace MasterControl
namespace Worker

open Foundation

/-! ## The store -/

/-- A `std::map` of members: what the context is in memory. -/
abbrev ContextStore := OrdMap String Json

/-- The members of an object; of two with one key the library keeps the last. -/
def storeOf (members : List (String × Json)) : ContextStore :=
  members.foldl (fun store member => store.insert member.1 member.2) OrdMap.empty

/-- `loadPersistentContext`, of what the file holds if it could be opened. -/
def loadPersistentContext (format : DocumentFormat) (content : Option Bytes) : ContextStore :=
  match content.bind format.read with
  | some (.object members) => storeOf members
  | _ => OrdMap.empty

/-- What `savePersistentContext` writes. -/
def savedText (format : DocumentFormat) (store : ContextStore) : Bytes :=
  format.dump (.object store.entries)

/-- The library reads back what it has written. -/
def ReadsBack (format : DocumentFormat) (store : ContextStore) : Prop :=
  loadPersistentContext format (some (savedText format store)) = store

/-! ## The tools -/

/-- The calls that use the context. -/
inductive ContextCall where
  | set (key : String) (value : Json)
  | get (key : String)
  | list
  | delete (key : String)
  /-- `db.set_connection_string`. -/
  | setConnectionString (connectionString : String)
  /-- The database tools look their file up. -/
  | databasePath

def connectionStringKey : String := "local-database.connection-string"

/-- `store[key]`, or null. -/
def valueOrNull (store : ContextStore) (key : String) : Json := (store.find? key).getD .null

def persistentCtxSet (key : String) (value : Json) (store : ContextStore) :
    Json × Option ContextStore :=
  (.object [("key", .string key), ("previousValue", valueOrNull store key)],
    some (store.insert key value))

def persistentCtxGet (key : String) (store : ContextStore) : Json :=
  .object [("key", .string key), ("value", valueOrNull store key),
    ("exists", .boolean (store.find? key).isSome)]

def persistentCtxList (store : ContextStore) : Json :=
  .object [("keys", .array (store.keys.map .string)), ("count", .integer store.keys.length)]

def persistentCtxDelete (key : String) (store : ContextStore) : Json × Option ContextStore :=
  let deleted := (store.find? key).isSome
  (.object [("key", .string key), ("deleted", .boolean deleted),
      ("previousValue", valueOrNull store key)],
    if deleted then some (store.erase key) else none)

/-- The path of the database file, or null. -/
def currentDatabasePath (store : ContextStore) : Json :=
  match store.find? connectionStringKey with
  | some (.string value) => if value = "" then .null else .string value
  | _ => .null

/-- What a call answers, and what it wants to save. -/
def ContextCall.perform : ContextCall → ContextStore → Json × Option ContextStore
  | .set key value, store => persistentCtxSet key value store
  | .get key, store => (persistentCtxGet key store, none)
  | .list, store => (persistentCtxList store, none)
  | .delete key, store => persistentCtxDelete key store
  | .setConnectionString connectionString, store =>
    persistentCtxSet connectionStringKey (.string connectionString) store
  | .databasePath, store => (currentDatabasePath store, none)

/-! ## Processes over one file -/

/-- How far a process has come with its call. -/
inductive ContextPhase where
  | idle
  /-- It has read this content, and wants to save this store. -/
  | loaded (call : ContextCall) (content : Option Bytes) (answer : Json) (store : ContextStore)
  /-- It has truncated the file and written up to an offset; the rest is still to come. -/
  | saving (call : ContextCall) (answer : Json) (offset : ℕ) (rest : Bytes)

structure ContextWorkers where
  file : Option Bytes
  processes : List ContextPhase
  /-- The calls answered so far, with their answers. -/
  history : List (ContextCall × Json) := []
  /-- Every store that was written to the file. -/
  written : List ContextStore := []

/-- One file step of a process. -/
inductive ContextStep where
  /-- Take up a call: open the file and read it. -/
  | load (i : ℕ) (call : ContextCall) (opens : Bool)
  /-- Open the file with truncation. -/
  | truncate (i : ℕ) (opens : Bool)
  /-- Some more bytes go out. -/
  | write (i : ℕ) (count : ℕ)
  | close (i : ℕ)

namespace ContextWorkers

/-- A process goes over to another phase. -/
def goTo (o : ContextWorkers) (i : ℕ) (phase : ContextPhase) : ContextWorkers :=
  { o with processes := o.processes.set i phase }

/-- A process answers its call. -/
def answer (o : ContextWorkers) (i : ℕ) (call : ContextCall) (result : Json) : ContextWorkers :=
  { o.goTo i .idle with history := o.history ++ [(call, result)] }

/-- Open and read the file, and work the call out. -/
def load (format : DocumentFormat) (o : ContextWorkers) (i : ℕ) (call : ContextCall)
    (opens : Bool) : ContextWorkers :=
  let content := if opens then o.file else none
  match call.perform (loadPersistentContext format content) with
  | (result, none) => o.answer i call result
  | (result, some store) => o.goTo i (.loaded call content result store)

end ContextWorkers

/-- One step; a step that does not fit the phase of its process does nothing. -/
def contextStep (format : DocumentFormat) (o : ContextWorkers) : ContextStep → ContextWorkers
  | .load i call opens =>
    match o.processes[i]? with
    | some .idle => o.load format i call opens
    | _ => o
  | .truncate i opens =>
    match o.processes[i]? with
    | some (.loaded call _ result store) =>
      if opens then
        { o.goTo i (.saving call result 0 (savedText format store)) with
          file := some [], written := o.written ++ [store] }
      else o.answer i call result
    | _ => o
  | .write i count =>
    match o.processes[i]? with
    | some (.saving call result offset rest) =>
      let bytes := rest.take count
      { o.goTo i (.saving call result (offset + bytes.length) (rest.drop count)) with
        file := some (writeAt (o.file.getD []) offset bytes) }
    | _ => o
  | .close i =>
    match o.processes[i]? with
    | some (.saving call result _ []) => o.answer i call result
    | _ => o

/-- A number of processes, all idle, over a file. -/
def contextSystem (format : DocumentFormat) (file : Option Bytes) (processes : ℕ) :
    TransitionSystem ContextWorkers ContextStep where
  init := { file := file, processes := List.replicate processes .idle }
  step := contextStep format

/-! ## The map that everybody shares -/

/-- The store after a call. -/
def ContextCall.leaves (call : ContextCall) (store : ContextStore) : ContextStore :=
  (call.perform store).2.getD store

/-- The map as its callers are told it is: every call answers and takes effect at once. -/
def sharedMap : SequentialObject ContextStore ContextCall Json where
  perform call store := ((call.perform store).1, call.leaves store)

/-- Whether a call may change what stands under a key. -/
def ContextCall.writes (key : String) : ContextCall → Bool
  | .set key' _ | .delete key' => key' = key
  | .setConnectionString _ => connectionStringKey = key
  | .get _ | .list | .databasePath => false

/-- **A call on one key leaves every other key alone.** -/
theorem ContextCall.find?_leaves {call : ContextCall} {key : String} (h : call.writes key = false)
    (store : ContextStore) : (call.leaves store).find? key = store.find? key := by
  cases call with
  | set key' value => exact OrdMap.find?_insert_of_ne _ (of_decide_eq_false h) _
  | get key' => rfl
  | list => rfl
  | delete key' =>
    have hne : key ≠ key' := Ne.symm (of_decide_eq_false h)
    unfold ContextCall.leaves ContextCall.perform persistentCtxDelete
    dsimp only
    split
    · exact OrdMap.find?_erase_of_ne _ hne
    · rfl
  | setConnectionString connectionString =>
    exact OrdMap.find?_insert_of_ne _ (of_decide_eq_false h) _
  | databasePath => rfl

/-- The key and the value that a call sets. -/
def ContextCall.sets : ContextCall → Option (String × Json)
  | .set key value => some (key, value)
  | .setConnectionString connectionString =>
    some (connectionStringKey, .string connectionString)
  | _ => none

theorem ContextCall.find?_leaves_of_sets {call : ContextCall} {key : String} {value : Json}
    (h : call.sets = some (key, value)) (store : ContextStore) :
    (call.leaves store).find? key = some value := by
  cases call with
  | set key' value' =>
    cases h
    exact OrdMap.find?_insert_self _ _ _
  | setConnectionString connectionString =>
    cases h
    exact OrdMap.find?_insert_self _ _ _
  | _ => cases h

/-- What `ctx.get` answers of a key with this value. -/
def getAnswer (key : String) (value : Json) : Json :=
  .object [("key", .string key), ("value", value), ("exists", .boolean true)]

/-- **A set value stays** until the next call that writes its key. -/
theorem get_after_set {store : ContextStore} {before between rest : List (ContextCall × Json)}
    {call : ContextCall} {key : String} {value result shown : Json}
    (h : sharedMap.Legal store
      (before ++ (call, result) :: (between ++ (.get key, shown) :: rest)))
    (hsets : call.sets = some (key, value))
    (hbetween : ∀ e ∈ between, e.1.writes key = false) : shown = getAnswer key value := by
  have hsplit : before ++ (call, result) :: (between ++ (.get key, shown) :: rest) =
      (before ++ (call, result) :: between) ++ (.get key, shown) :: rest := by simp
  rw [hsplit] at h
  have hanswer : shown = persistentCtxGet key
      (sharedMap.after store (before ++ (call, result) :: between)) := h.answer
  have hfind : (sharedMap.after store (before ++ (call, result) :: between)).find? key =
      some value := by
    rw [SequentialObject.after_append]
    refine (SequentialObject.view_after (O := sharedMap) (fun store => store.find? key)
      (fun call => call.writes key = false) (fun call store h => call.find?_leaves h store)
      _ hbetween).trans ?_
    exact ContextCall.find?_leaves_of_sets hsets _
  rw [hanswer, persistentCtxGet, valueOrNull, hfind]
  rfl

end Worker
end MasterControl
