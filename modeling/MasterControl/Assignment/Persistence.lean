import MasterControl.Assignment.Service
import MasterControl.Foundation.Runs
import Mathlib.Data.List.Sort

/-!
# The assignment survives a restart

`toJson` writes the eighteen fields of the record and `loadFromDisk` reads them, each with
its own table of names.  On the way in two migrations apply: a leftover error message of an
assignment that has ended is dropped, and a token that was derived from the configuration id
is replaced.  What the service itself writes needs neither (`Settled`), so a restart finds
the assignment as it was (`persistence_round_trip`).
-/

namespace MasterControl
namespace Assignment

open Foundation

/-! ## Reading the record -/

/-- `body.value(key, fallback)` for a text; a member of another type throws. -/
def stringValue (key fallback : String) (members : List (String × Json)) : Option String :=
  match Json.lookup key members with
  | none => some fallback
  | some (.string value) => some value
  | some _ => none

def booleanValue (key : String) (fallback : Bool) (members : List (String × Json)) :
    Option Bool :=
  match Json.lookup key members with
  | none => some fallback
  | some (.boolean value) => some value
  | some _ => none

/-- The texts of an array member; anything else in it is skipped. -/
def stringElements (key : String) (members : List (String × Json)) : List String :=
  match Json.lookup key members with
  | some (.array elements) =>
    elements.filterMap fun
      | .string value => some value
      | _ => none
  | _ => []

/-- The record a document holds, or `none` where reading it throws. -/
def readAssignment : Json → Option SupervisorAssignment
  | .object members => do
    let assignmentId ← stringValue "assignmentId" "" members
    let providerId ← stringValue "providerId" "" members
    let clientId ← stringValue "clientId" "" members
    let mode ← stringValue "mode" "autonomous_supervisor" members
    let exclusive ← booleanValue "exclusive" true members
    let state ← stringValue "state" "off" members
    let configId ← stringValue "configId" "" members
    let issuedAtUtc ← stringValue "issuedAtUtc" "" members
    let expiresAtUtc ← stringValue "expiresAtUtc" "" members
    let connectedAtUtc ← stringValue "connectedAtUtc" "" members
    let lastHeartbeatUtc ← stringValue "lastHeartbeatUtc" "" members
    let revokedAtUtc ← stringValue "revokedAtUtc" "" members
    let revocationReason ← stringValue "revocationReason" "" members
    let tokenRef ← stringValue "tokenRef" "" members
    let serverFingerprint ← stringValue "serverFingerprint" "" members
    let auditCorrelationId ← stringValue "auditCorrelationId" "" members
    let lastErrorMessage ← stringValue "lastErrorMessage" "" members
    pure {
      assignmentId, clientId, exclusive, configId, issuedAtUtc, expiresAtUtc, connectedAtUtc
      lastHeartbeatUtc, revokedAtUtc, revocationReason, tokenRef, serverFingerprint
      auditCorrelationId, lastErrorMessage
      provider := providerFromString providerId
      mode := supervisorModeFromString mode
      state := supervisorStateFromString state
      allowedCapabilities := stringElements "allowedCapabilities" members }
  | _ => none

/-! ## Migrations -/

def isLegacyDerivedTokenRef (a : SupervisorAssignment) : Bool :=
  a.configId ≠ "" && a.tokenRef = tokenRefPrefix ++ a.configId

/-- An assignment that has ended keeps no error message. -/
def dropLeftoverMessage (a : SupervisorAssignment) : SupervisorAssignment :=
  if a.ended && a.lastErrorMessage ≠ "" then { a with lastErrorMessage := "" } else a

/-- A derived token is replaced, and the configuration has to be confirmed again. -/
def rotateLegacyToken (token : Bytes) (a : SupervisorAssignment) : SupervisorAssignment :=
  if !a.ended && isLegacyDerivedTokenRef a then
    { a with
      tokenRef := supervisorTokenRef token
      state := .configGenerated
      clientId := ""
      connectedAtUtc := ""
      lastHeartbeatUtc := ""
      lastErrorMessage := "Supervisor assignment token was rotated; regenerate config." }
  else a

/-- Both migrations. -/
def migrate (token : Bytes) (a : SupervisorAssignment) : SupervisorAssignment :=
  rotateLegacyToken token (dropLeftoverMessage a)

/-- Whether a loaded record has to be written back. -/
def needsMigrationPersist (a : SupervisorAssignment) : Bool :=
  (a.ended && a.lastErrorMessage ≠ "") || (!a.ended && isLegacyDerivedTokenRef a)

/-- The record in a file, where there is a readable one. -/
def storedRecord (json : JsonLibrary) (file : Option Bytes) : Option SupervisorAssignment :=
  match file with
  | none => none
  | some raw =>
    if raw = [] then none
    else
      match json.parse raw with
      | .error _ => none
      | .ok body => readAssignment body

/-- Constructing the service on a file. -/
def loadFromDisk (json : JsonLibrary) (context : ServiceContext) (env : Environment)
    (file : Option Bytes) : Service :=
  match storedRecord json file with
  | none => { file }
  | some loaded =>
    let s : Service := { assignment := migrate env.random.token loaded, file }
    if needsMigrationPersist loaded then persistLocked context env s else s

/-! ## Names and fields are read back -/

theorem providerFromString_providerIdString (p : SupervisorProvider) :
    providerFromString (providerIdString p) = p := by
  cases p <;> decide

theorem supervisorModeFromString_supervisorModeString (m : SupervisorMode) :
    supervisorModeFromString (supervisorModeString m) = m := by
  cases m <;> decide

theorem supervisorStateFromString_supervisorStateString (s : SupervisorState) :
    supervisorStateFromString (supervisorStateString s) = s := by
  cases s <;> decide

theorem stringElements_map (key : String) (members : List (String × Json)) (texts : List String)
    (h : Json.lookup key members = some (.array (texts.map Json.string))) :
    stringElements key members = texts := by
  simp only [stringElements, h]
  rw [List.filterMap_map]
  exact List.filterMap_some

/-- The library reads a record back that it wrote: the text is not empty, and every member is
found in what is parsed, in whatever order. -/
structure ReadsBack (json : JsonLibrary) (context : ServiceContext) (a : SupervisorAssignment) :
    Prop where
  nonempty : context.dump (.object (toJson a)) ≠ []
  parse : ∃ members, json.parse (context.dump (.object (toJson a))) = .ok (.object members) ∧
    ∀ key, Json.lookup key members = Json.lookup key (toJson a)

section RoundTrip

variable {json : JsonLibrary} {context : ServiceContext} {env : Environment}
  {a : SupervisorAssignment} {s : Service} {token : Bytes}

/-- Every field is read as it was written. -/
theorem readAssignment_of_lookup {members : List (String × Json)}
    (h : ∀ key, Json.lookup key members = Json.lookup key (toJson a)) :
    readAssignment (.object members) = some a := by
  have hstring : ∀ key fallback value, Json.lookup key (toJson a) = some (.string value) →
      stringValue key fallback members = some value := by
    intro key fallback value hvalue
    rw [stringValue, h, hvalue]
  have hexclusive : booleanValue "exclusive" true members = some a.exclusive := by
    rw [booleanValue, h]
    rfl
  have hcapabilities : stringElements "allowedCapabilities" members = a.allowedCapabilities :=
    stringElements_map _ _ _ (h _)
  rw [readAssignment, hstring "assignmentId" _ _ rfl, hstring "providerId" _ _ rfl,
    hstring "clientId" _ _ rfl, hstring "mode" _ _ rfl, hexclusive, hstring "state" _ _ rfl,
    hstring "configId" _ _ rfl, hstring "issuedAtUtc" _ _ rfl, hstring "expiresAtUtc" _ _ rfl,
    hstring "connectedAtUtc" _ _ rfl, hstring "lastHeartbeatUtc" _ _ rfl,
    hstring "revokedAtUtc" _ _ rfl, hstring "revocationReason" _ _ rfl,
    hstring "tokenRef" _ _ rfl, hstring "serverFingerprint" _ _ rfl,
    hstring "auditCorrelationId" _ _ rfl, hstring "lastErrorMessage" _ _ rfl, hcapabilities]
  simp only [Option.bind_eq_bind, Option.bind_some, providerFromString_providerIdString,
    supervisorModeFromString_supervisorModeString,
    supervisorStateFromString_supervisorStateString]
  rfl

/-! ## Settled records -/

/-- A record that no migration applies to. -/
def Settled (a : SupervisorAssignment) : Prop := needsMigrationPersist a = false

theorem migrate_of_settled (h : Settled a) : migrate token a = a := by
  rw [Settled, needsMigrationPersist, Bool.or_eq_false_iff] at h
  rw [migrate, dropLeftoverMessage, h.1, if_neg Bool.false_ne_true, rotateLegacyToken, h.2,
    if_neg Bool.false_ne_true]

/-- A message in an assignment that has not ended is no reason to migrate. -/
theorem settled_of_active (hactive : a.ended = false)
    (hlegacy : isLegacyDerivedTokenRef a = false) : Settled a := by
  rw [Settled, needsMigrationPersist, hactive, hlegacy]
  rfl

theorem settled_of_ended (hended : a.ended = true) (hmessage : a.lastErrorMessage = "") :
    Settled a := by
  rw [Settled, needsMigrationPersist, hended, hmessage]
  rfl

theorem not_legacy_of_settled (h : Settled a) (hactive : a.ended = false) :
    isLegacyDerivedTokenRef a = false := by
  rw [Settled, needsMigrationPersist, hactive] at h
  exact h

/-- A migrated record is settled, when the new token differs from the old one. -/
theorem settled_migrate (h : supervisorTokenRef token ≠ a.tokenRef) :
    Settled (migrate token a) := by
  cases hended : a.ended with
  | true =>
    have hdrop : (dropLeftoverMessage a).lastErrorMessage = "" ∧
        (dropLeftoverMessage a).ended = true := by
      rw [dropLeftoverMessage, hended, Bool.true_and]
      split_ifs with hmessage
      · exact ⟨rfl, hended⟩
      · rw [decide_eq_true_iff, not_not] at hmessage
        exact ⟨hmessage, hended⟩
    have hmigrate : migrate token a = dropLeftoverMessage a := by
      rw [migrate, rotateLegacyToken, hdrop.2]
      rfl
    rw [hmigrate]
    exact settled_of_ended hdrop.2 hdrop.1
  | false =>
    have hdrop : dropLeftoverMessage a = a := by
      rw [dropLeftoverMessage, hended]
      rfl
    rw [migrate, hdrop, rotateLegacyToken, hended, Bool.not_false, Bool.true_and]
    split_ifs with hlegacy
    · refine settled_of_active rfl ?_
      rw [isLegacyDerivedTokenRef, Bool.and_eq_true] at hlegacy
      rw [isLegacyDerivedTokenRef, Bool.and_eq_false_iff]
      exact Or.inr (decide_eq_false fun heq => h (heq.trans (of_decide_eq_true hlegacy.2).symm))
    · exact settled_of_active hended (Bool.eq_false_iff.mpr hlegacy)

/-! ## What the service writes is settled -/

theorem not_mem_hexDigits (w n : Nat) : 'C' ∉ hexDigits w n := by
  induction w generalizing n with
  | zero => exact List.not_mem_nil
  | succ w ih =>
    have hall : ∀ d < 16, 'C' ≠ Nat.digitChar d := by decide
    rw [hexDigits, List.mem_append, List.mem_singleton]
    exact not_or.mpr ⟨ih _, hall _ (Nat.mod_lt _ (by decide))⟩

/-- A random token is never the one derived from a configuration id, which begins with a
letter that is no hexadecimal digit. -/
theorem supervisorTokenRef_ne (token : Bytes) (env : Environment) :
    supervisorTokenRef token ≠ tokenRefPrefix ++ freshConfigId env := by
  intro h
  have htexts := congrArg String.toList h
  rw [supervisorTokenRef, String.toList_append, String.toList_append,
    List.append_cancel_left_eq, hexBytes, String.toList_ofList] at htexts
  have hmem : 'C' ∈ token.flatMap fun byte => hexDigits 2 byte.toNat := by
    rw [htexts, freshConfigId]
    simp only [String.toList_append, List.mem_append]
    exact Or.inl (Or.inl (Or.inl (by decide)))
  obtain ⟨byte, -, hbyte⟩ := List.mem_flatMap.mp hmem
  exact not_mem_hexDigits _ _ hbyte

/-- A newly issued configuration has no derived token. -/
theorem not_legacy_issued {configId : String} (hid : a.configId = configId)
    (htoken : a.tokenRef = supervisorTokenRef token)
    (hne : supervisorTokenRef token ≠ tokenRefPrefix ++ configId) :
    isLegacyDerivedTokenRef a = false := by
  rw [isLegacyDerivedTokenRef, Bool.and_eq_false_iff, hid, htoken]
  exact Or.inr (decide_eq_false hne)

/-- **One call** changes nothing, or puts a settled record in place and writes it. -/
theorem perform_settled (context : ServiceContext) (env : Environment) (hs : Settled s.assignment)
    (call : Call) :
    call.perform context env s = s ∨
      ∃ a, call.perform context env s = s.put context env a ∧ Settled a := by
  have hkeep : ∀ {b : SupervisorAssignment}, s.assignment.ended = false → b.ended = false →
      b.configId = s.assignment.configId → b.tokenRef = s.assignment.tokenRef → Settled b := by
    intro b hactive hb hid htoken
    refine settled_of_active hb ?_
    have hlegacy := not_legacy_of_settled hs hactive
    rwa [isLegacyDerivedTokenRef, ← hid, ← htoken] at hlegacy
  cases call with
  | selectAndIssue request =>
    simp only [Call.perform, selectAndIssue]
    by_cases hprovider : request.provider = .unknown
    · rw [if_pos hprovider]
      exact Or.inl rfl
    · rw [if_neg hprovider]
      exact Or.inr ⟨_, rfl, settled_of_active rfl
        (not_legacy_issued rfl rfl (supervisorTokenRef_ne _ env))⟩
  | regenerateConfig =>
    simp only [Call.perform, regenerateConfig]
    split_ifs with hended
    · exact Or.inl rfl
    · exact Or.inr ⟨_, rfl, settled_of_active rfl
        (not_legacy_issued rfl rfl (supervisorTokenRef_ne _ env))⟩
  | revoke reason =>
    simp only [Call.perform, revoke]
    by_cases hended : s.assignment.ended = true
    · rw [if_pos hended]
      exact Or.inl rfl
    · rw [if_neg hended]
      exact Or.inr ⟨_, rfl, settled_of_ended rfl rfl⟩
  | confirmConnection claim =>
    simp only [Call.perform, confirmConnection]
    by_cases hended : s.assignment.ended = true
    · rw [if_pos hended]
      exact Or.inl rfl
    · rw [if_neg hended]
      rw [Bool.not_eq_true] at hended
      have hreject : ∀ message, ∃ a,
          (rejectClaim context env message s).2 = s.put context env a ∧ Settled a :=
        fun message => ⟨_, rfl, hkeep hended hended rfl rfl⟩
      right
      split_ifs
      · exact hreject _
      · exact hreject _
      · exact hreject _
      · exact hreject _
      · exact ⟨_, rfl, hkeep hended rfl rfl rfl⟩
      · split
        · exact hreject _
        · exact ⟨_, rfl, hkeep hended rfl rfl rfl⟩
  | recordHeartbeat clientId =>
    simp only [Call.perform, recordHeartbeat]
    split_ifs with hstate hclient
    · exact Or.inl rfl
    · exact Or.inl rfl
    · have hactive : s.assignment.ended = false := by
        rw [SupervisorAssignment.ended, not_not.mp hstate]
        rfl
      exact Or.inr ⟨_, rfl, hkeep hactive hactive rfl rfl⟩
  | expireConnectionIfStale threshold =>
    simp only [Call.perform, expireConnectionIfStale]
    split_ifs with hstate hheartbeat
    · exact Or.inl rfl
    · exact Or.inl rfl
    · split
      · exact Or.inl rfl
      · split_ifs
        · exact Or.inl rfl
        · have hactive : s.assignment.ended = false := by
            rw [SupervisorAssignment.ended, not_not.mp hstate]
            rfl
          exact Or.inr ⟨_, rfl, hkeep hactive rfl rfl rfl⟩

/-! ## Restarts -/

/-- The file as a successful write of a record leaves it. -/
def document (context : ServiceContext) (a : SupervisorAssignment) : Option Bytes :=
  some (context.dump (.object (toJson a)))

/-- An environment whose writes reach the disk. -/
def Written (env : Environment) : Prop := ∀ body, env.writeFileAtomic body = some body

/-- A file that was left by no migration, or that holds the settled record in memory. -/
def InStep (json : JsonLibrary) (context : ServiceContext) (s : Service) : Prop :=
  s.file = document context s.assignment ∨
    ∀ env, loadFromDisk json context env s.file = s

theorem storedRecord_document (h : ReadsBack json context a) :
    storedRecord json (document context a) = some a := by
  obtain ⟨members, hparse, hlookup⟩ := h.parse
  simp only [document, storedRecord, if_neg h.nonempty, hparse]
  exact readAssignment_of_lookup hlookup

/-- A settled record is loaded as it was written. -/
theorem loadFromDisk_document (h : ReadsBack json context a) (hsettled : Settled a)
    (env : Environment) :
    loadFromDisk json context env (document context a) =
      { assignment := a, file := document context a } := by
  simp only [loadFromDisk, storedRecord_document h, migrate_of_settled hsettled]
  rw [if_neg (Bool.eq_false_iff.mp hsettled)]

/-- Any record is loaded up to the migrations. -/
theorem assignment_loadFromDisk_document (h : ReadsBack json context a) (env : Environment) :
    (loadFromDisk json context env (document context a)).assignment =
      migrate env.random.token a := by
  rw [loadFromDisk, storedRecord_document h]
  simp only
  split_ifs <;> rfl

section Load

variable {file : Option Bytes}

theorem settled_loadFromDisk (hfresh : ∀ a, storedRecord json file = some a →
    supervisorTokenRef env.random.token ≠ a.tokenRef) :
    Settled (loadFromDisk json context env file).assignment := by
  cases hstored : storedRecord json file with
  | none =>
    rw [loadFromDisk, hstored]
    exact settled_of_ended rfl rfl
  | some loaded =>
    have hassignment : (loadFromDisk json context env file).assignment =
        migrate env.random.token loaded := by
      rw [loadFromDisk, hstored]
      simp only
      split_ifs <;> rfl
    rw [hassignment]
    exact settled_migrate (hfresh loaded hstored)

/-- A newly constructed service is in step with its file. -/
theorem inStep_loadFromDisk (hwritten : Written env) :
    InStep json context (loadFromDisk json context env file) := by
  cases hstored : storedRecord json file with
  | none =>
    have hload : ∀ env', loadFromDisk json context env' file = { file } := by
      intro env'
      rw [loadFromDisk, hstored]
    rw [hload]
    exact Or.inr hload
  | some loaded =>
    cases hneeds : needsMigrationPersist loaded with
    | true =>
      have hload : loadFromDisk json context env file =
          persistLocked context env ⟨migrate env.random.token loaded, file⟩ := by
        simp only [loadFromDisk, hstored, hneeds, if_true]
      rw [hload]
      exact Or.inl (hwritten _)
    | false =>
      have hload : ∀ env', loadFromDisk json context env' file = ⟨loaded, file⟩ := by
        intro env'
        simp only [loadFromDisk, hstored, hneeds, Bool.false_eq_true, if_false,
          migrate_of_settled hneeds]
      rw [hload]
      exact Or.inr hload

end Load

theorem loadFromDisk_of_inStep (h : InStep json context s) (hsettled : Settled s.assignment)
    (hjson : ReadsBack json context s.assignment) (env : Environment) :
    loadFromDisk json context env s.file = s := by
  rcases h with hfile | hload
  · rw [hfile, loadFromDisk_document hjson hsettled, ← hfile]
  · exact hload env

/-- After one load a second one changes nothing. -/
theorem loadFromDisk_again (ha : ReadsBack json context a)
    (hmigrated : ReadsBack json context (migrate env.random.token a)) (hwritten : Written env)
    (hne : supervisorTokenRef env.random.token ≠ a.tokenRef) (env' : Environment) :
    loadFromDisk json context env' (loadFromDisk json context env (document context a)).file =
      loadFromDisk json context env (document context a) := by
  have hassignment := assignment_loadFromDisk_document ha env
  refine loadFromDisk_of_inStep (inStep_loadFromDisk hwritten) ?_ ?_ env'
  · rw [hassignment]
    exact settled_migrate hne
  · rwa [hassignment]

/-- The answer to a claim depends on the record alone. -/
theorem answer_confirmConnection_congr {s t : Service} {claim : SupervisorConnectionClaim}
    (h : s.assignment = t.assignment) :
    (confirmConnection context env claim s).1 = (confirmConnection context env claim t).1 := by
  unfold confirmConnection rejectClaim
  rw [h]
  split_ifs <;> rfl

end RoundTrip

/-- A service constructed on a file, and its calls. -/
def sessions (json : JsonLibrary) (context : ServiceContext) (env : Environment)
    (file : Option Bytes) : TransitionSystem Service (Call × Environment) where
  init := loadFromDisk json context env file
  step s step := step.1.perform context step.2 s

section Sessions

variable {json : JsonLibrary} {context : ServiceContext} {env₀ : Environment}
  {file₀ : Option Bytes} {s : Service}

/-- Every record in memory is settled, whatever became of the writes. -/
theorem settled_of_reachable
    (hfresh : ∀ a, storedRecord json file₀ = some a →
      supervisorTokenRef env₀.random.token ≠ a.tokenRef)
    (h : (sessions json context env₀ file₀).Reachable s) : Settled s.assignment := by
  refine TransitionSystem.ReachableBy.invariant (I := fun s => Settled s.assignment)
    (settled_loadFromDisk hfresh) ?_ h
  rintro s ⟨call, env⟩ hs -
  rcases perform_settled context env hs call with heq | ⟨a, heq, ha⟩
  · rwa [show (sessions json context env₀ file₀).step s (call, env) = s from heq]
  · rwa [show (sessions json context env₀ file₀).step s (call, env) = s.put context env a from heq]

/-- While the writes reach the disk, the file stays in step with the record. -/
theorem inStep_of_reachable (hwritten : Written env₀)
    (hfresh : ∀ a, storedRecord json file₀ = some a →
      supervisorTokenRef env₀.random.token ≠ a.tokenRef)
    (h : (sessions json context env₀ file₀).ReachableBy (fun _ step => Written step.2) s) :
    Settled s.assignment ∧ InStep json context s := by
  refine h.invariant (I := fun s => Settled s.assignment ∧ InStep json context s)
    ⟨settled_loadFromDisk hfresh, inStep_loadFromDisk hwritten⟩ ?_
  rintro s ⟨call, env⟩ ⟨hs, hfile⟩ hwrites
  rcases perform_settled context env hs call with heq | ⟨a, heq, ha⟩
  · rw [show (sessions json context env₀ file₀).step s (call, env) = s from heq]
    exact ⟨hs, hfile⟩
  · rw [show (sessions json context env₀ file₀).step s (call, env) = s.put context env a from heq]
    exact ⟨ha, Or.inl (hwrites _)⟩

/-- **The persistence round trip.**  From a service constructed on any file, let its calls
reach a state.  The file that a successful write of its record leaves is loaded as this
record, in every field, and is left alone; so the new service answers every connection claim
alike.  When all writes reached the disk, the file of the state is such a file, and loading
it gives the state.  A record of any other origin is found again up to the two migrations,
and constructing once more changes nothing. -/
theorem persistence_round_trip
    (hfresh : ∀ a, storedRecord json file₀ = some a →
      supervisorTokenRef env₀.random.token ≠ a.tokenRef)
    (h : (sessions json context env₀ file₀).Reachable s)
    (hjson : ReadsBack json context s.assignment) :
    (∀ env, loadFromDisk json context env (document context s.assignment) =
      { assignment := s.assignment, file := document context s.assignment }) ∧
    (∀ env env' claim,
      (confirmConnection context env' claim
        (loadFromDisk json context env (document context s.assignment))).1 =
          (confirmConnection context env' claim s).1) ∧
    (Written env₀ →
      (sessions json context env₀ file₀).ReachableBy (fun _ step => Written step.2) s →
      ∀ env, loadFromDisk json context env s.file = s) ∧
    (∀ a env, ReadsBack json context a →
      (loadFromDisk json context env (document context a)).assignment =
        migrate env.random.token a) ∧
    (∀ a env, ReadsBack json context a → ReadsBack json context (migrate env.random.token a) →
      Written env → supervisorTokenRef env.random.token ≠ a.tokenRef →
      ∀ env', loadFromDisk json context env'
          (loadFromDisk json context env (document context a)).file =
        loadFromDisk json context env (document context a)) := by
  have hload := loadFromDisk_document hjson (settled_of_reachable hfresh h)
  refine ⟨hload, fun env env' claim => ?_, fun hwritten hrun => ?_,
    fun a env ha => assignment_loadFromDisk_document ha env,
    fun a env ha hmigrated hwrite hne => loadFromDisk_again ha hmigrated hwrite hne⟩
  · rw [hload]
    exact answer_confirmConnection_congr rfl
  · obtain ⟨hsettled, hinStep⟩ := inStep_of_reachable hwritten hfresh hrun
    exact loadFromDisk_of_inStep hinStep hsettled hjson

end Sessions

/-! ## A written record -/

/-- How `dump(2)` writes a member of a flat object. -/
def indentedMember (member : String × Json) : String :=
  "  \"" ++ member.1 ++ "\": " ++
    match member.2 with
    | .array [] => "[]"
    | .array elements =>
      "[\n" ++ ",\n".intercalate (elements.map fun element => "    " ++ element.dumpScalar) ++
        "\n  ]"
    | value => value.dumpScalar

/-- `dump(2)` of an object with at least one member and texts that need no escape. -/
def indentedObject : Json → Bytes
  | .object members =>
    123 :: asciiBytes ("\n" ++ ",\n".intercalate
      ((members.insertionSort fun m n => m.1 ≤ n.1).map indentedMember) ++ "\n\x7d")
  | value => asciiBytes value.dumpScalar

/-- A parser that knows the document of one record. -/
def parserOf (a : SupervisorAssignment) : JsonLibrary where
  parse raw :=
    if raw = indentedObject (.object (toJson a)) then .ok (.object (toJson a))
    else .error "parse error"
  dump := Json.dumpScalar
  stringExpected _ := "type must be string"

theorem readsBack_parserOf (a : SupervisorAssignment) :
    ReadsBack (parserOf a) { dump := indentedObject } a where
  nonempty := by
    simp only [indentedObject]
    exact List.cons_ne_nil _ _
  parse := by
    refine ⟨toJson a, ?_, fun _ => rfl⟩
    simp only [parserOf, if_true]

/-- The first second of 1970, with one random byte for each id and a two-byte token. -/
def epoch : Environment where
  now := .epoch
  random := { assignmentSuffix := [1], configSuffix := [2], token := [0xab, 0x05], auditSuffix := [3] }
  fingerprintSeed := "host"
  writeFileAtomic body := some body

/-- Issue a configuration, and revoke it. -/
def issueAndRevoke : List (Call × Environment) :=
  [(.selectAndIssue { provider := .grok }, epoch), (.revoke "done", epoch)]

/-- What they leave of a service on no file. -/
def revokedService : Service :=
  issueAndRevoke.foldl (fun s step => step.1.perform { dump := indentedObject } step.2 s) {}

theorem loadFromDisk_revokedService :
    revokedService.assignment.revocationReason = "done" ∧
      ∀ env, loadFromDisk (parserOf revokedService.assignment) { dump := indentedObject } env
        revokedService.file = revokedService := by
  have hreach : (sessions (parserOf revokedService.assignment) { dump := indentedObject } epoch
      none).ReachableBy (fun _ step => Written step.2) revokedService :=
    TransitionSystem.ReachableBy.init.run issueAndRevoke
      ⟨fun body => rfl, fun body => rfl, trivial⟩
  exact ⟨rfl, (persistence_round_trip (fun a ha => by cases ha) (hreach.mono fun _ _ _ => trivial)
    (readsBack_parserOf _)).2.2.1 (fun body => rfl) hreach⟩

end Assignment
end MasterControl
