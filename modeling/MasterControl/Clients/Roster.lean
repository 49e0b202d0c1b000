import MasterControl.Clients.Capabilities
import MasterControl.Configuration.Services
import Mathlib.Algebra.Order.Group.Multiset

/-!
# The roster of LAN clients

`LanClientAccessService` keeps the registered clients as a list in the configuration.  An id is
lower-cased before it is looked up, and the first record with it is the one that counts; nothing
keeps a configuration from listing an id twice.

Each operation but `touchClient` has the shape of an edit of the configuration: checks, a change
in memory, and a write of the whole document that decides on the answer only (`RosterEdit`).

`under f id roster` is what the records under an id say; an operation is described by what it
does there.
-/

namespace MasterControl
namespace Clients

open Foundation Supervisor MasterControl.Configuration

/-! ## Operations -/

def normalizeId (clientId : String) : String := String.ofList (clientId.toList.map Char.toLower)

/-- Whether a record is the one that an id asks for. -/
def LanClient.isNamed (id : String) (client : LanClient) : Bool := client.clientId = id

def getClient (clientId : String) (roster : List LanClient) : Option LanClient :=
  if clientId = "" then none else roster.find? (LanClient.isNamed (normalizeId clientId))

structure RosterEdit where
  refusal : List LanClient → Option OperationResult
  apply : List LanClient → List LanClient
  notWritten : String
  done : List LanClient → String

def RosterEdit.perform (edit : RosterEdit) (persisted : Bool) (roster : List LanClient) :
    OperationResult × List LanClient :=
  match edit.refusal roster with
  | some result => (result, roster)
  | none =>
    ({ succeeded := persisted, requiresConfirmation := false,
       message := if persisted then edit.done roster else edit.notWritten },
      edit.apply roster)

/-- The constructor drops the ids that could not stand in a path. -/
def scrub (roster : List LanClient) : List LanClient :=
  roster.filter fun client => isSafeUrlSegmentId (trimCopy client.clientId)

/-- Clients are listed by display name, then by id. -/
def LanClient.listedBefore (left right : LanClient) : Prop :=
  left.displayName < right.displayName ∨
    (left.displayName = right.displayName ∧ left.clientId ≤ right.clientId)

instance : DecidableRel LanClient.listedBefore := fun left right =>
  inferInstanceAs (Decidable (left.displayName < right.displayName ∨
    (left.displayName = right.displayName ∧ left.clientId ≤ right.clientId)))

def normalizedClient (input : LanClient) : LanClient :=
  { input with
    clientId := normalizeId input.clientId
    displayName := trimCopy input.displayName
    clientType := trimCopy input.clientType
    hostName := trimCopy input.hostName
    networkAddress := trimCopy input.networkAddress }

/-- A client that is not listed yet. -/
def registeredClient (now : String) (normalized : LanClient) : LanClient :=
  { normalized with
    createdAtUtc := if normalized.createdAtUtc = "" then now else normalized.createdAtUtc
    lastSeenUtc := if normalized.lastSeenUtc = "" then now else normalized.lastSeenUtc }

/-- A record that takes the place of an old one. -/
def updatedClient (now : String) (normalized old : LanClient) : LanClient :=
  { normalized with
    createdAtUtc := if old.createdAtUtc = "" then now else old.createdAtUtc
    lastSeenUtc := if normalized.lastSeenUtc = "" then old.lastSeenUtc else normalized.lastSeenUtc
    disabledAtUtc :=
      if !normalized.enabled && old.enabled then now
      else if normalized.enabled then "" else normalized.disabledAtUtc }

/-- What is wrong with a record.  The id is trimmed for the check only. -/
def clientProblem (input : LanClient) : Option OperationResult :=
  if input.clientId = "" || isBlank input.clientId then refuse "LAN client id is required."
  else if !isSafeUrlSegmentId (trimCopy input.clientId) then
    refuse ("LAN client id is invalid. " ++ kSafeIdRejectionMessage)
  else if input.displayName = "" || isBlank input.displayName then
    refuse "LAN client display name is required."
  else none

def upsertClient (now : String) (input : LanClient) : RosterEdit where
  refusal _ := clientProblem input
  apply roster :=
    let normalized := normalizedClient input
    (match roster.find? (LanClient.isNamed normalized.clientId) with
      | none => roster ++ [registeredClient now normalized]
      | some _ =>
        updateFirst (LanClient.isNamed normalized.clientId) (updatedClient now normalized)
          roster).insertionSort LanClient.listedBefore
  notWritten := "LAN client could not be written to disk."
  done roster :=
    match roster.find? (LanClient.isNamed (normalizedClient input).clientId) with
    | none => "LAN client registered."
    | some _ => "LAN client updated."

/-- The checks of an operation on one client. -/
def requireClient (clientId : String) (check : LanClient → Option OperationResult)
    (roster : List LanClient) : Option OperationResult :=
  if clientId = "" || isBlank clientId then refuse "LAN client id is required."
  else
    match roster.find? (LanClient.isNamed (normalizeId clientId)) with
    | none => refuse "LAN client not found."
    | some client => check client

/-- Rewrite the record of one client. -/
def rewriteClient (clientId : String) (f : LanClient → LanClient) (roster : List LanClient) :
    List LanClient :=
  updateFirst (LanClient.isNamed (normalizeId clientId)) f roster

/-- The answer of an operation that finds nothing to do. -/
def already (message : String) : Option OperationResult :=
  some { succeeded := true, requiresConfirmation := false, message }

def setEnabled (now clientId : String) (enabled : Bool) : RosterEdit where
  refusal := requireClient clientId fun client =>
    if client.enabled = enabled then
      already (if enabled then "LAN client was already enabled."
        else "LAN client was already disabled.")
    else none
  apply := rewriteClient clientId fun client =>
    { client with enabled, disabledAtUtc := if enabled then "" else now }
  notWritten := "LAN client state could not be written to disk."
  done _ := if enabled then "LAN client enabled." else "LAN client disabled."

def disableClient (now clientId : String) : RosterEdit := setEnabled now clientId false

def enableClient (now clientId : String) : RosterEdit := setEnabled now clientId true

def removeClient (clientId : String) : RosterEdit where
  refusal roster :=
    if clientId = "" || isBlank clientId then refuse "LAN client id is required."
    else if (roster.filter fun candidate => !candidate.isNamed (normalizeId clientId)).length =
        roster.length then
      refuse "LAN client not found."
    else none
  apply roster := roster.filter fun candidate => !candidate.isNamed (normalizeId clientId)
  notWritten := "LAN client removal could not be written to disk."
  done _ := "LAN client removed."

def setPrivileges (clientId : String) (privileges : LanClientPrivileges) : RosterEdit where
  refusal := requireClient clientId fun _ => none
  apply := rewriteClient clientId fun client => { client with privileges }
  notWritten := "LAN client privileges could not be written to disk."
  done _ := "LAN client privileges updated."

def setAutonomousMode (clientId : String) (enabled : Bool) : RosterEdit where
  refusal := requireClient clientId fun client =>
    if client.autonomousMode = enabled then
      already (if enabled then "Autonomous mode was already enabled."
        else "Autonomous mode was already disabled.")
    else none
  apply := rewriteClient clientId fun client => { client with autonomousMode := enabled }
  notWritten := "Autonomous mode change could not be written to disk."
  done _ := if enabled then "Autonomous mode enabled." else "Autonomous mode disabled."

/-- What an authenticated request leaves behind; nothing is written. -/
def seen (now observedAddress : String) (client : LanClient) : LanClient :=
  { client with
    lastSeenUtc := now
    networkAddress := if observedAddress = "" then client.networkAddress else observedAddress }

def touchClient (now clientId observedAddress : String) (roster : List LanClient) :
    List LanClient :=
  if clientId = "" then roster else rewriteClient clientId (seen now observedAddress) roster

/-! ## The records under an id -/

section Under

variable {β γ : Type} {f : LanClient → β} {g : LanClient → LanClient} {id k : String}
  {roster : List LanClient} {client : LanClient}

/-- What the records under an id say. -/
def under (f : LanClient → β) (id : String) (roster : List LanClient) : List β :=
  (roster.filter (LanClient.isNamed id)).map f

/-- The same is said under an id, in whatever order. -/
def SameUnder (f : LanClient → β) (id : String) (before after : List LanClient) : Prop :=
  (under f id before).Perm (under f id after)

/-- Some record has the id. -/
def Registered (id : String) (roster : List LanClient) : Prop :=
  ∃ client ∈ roster, client.clientId = id

@[simp] theorem isNamed_iff : client.isNamed id = true ↔ client.clientId = id := by
  rw [LanClient.isNamed, decide_eq_true_iff]

@[simp] theorem under_nil : under f id [] = [] := rfl

theorem under_cons_of_named (h : client.clientId = id) :
    under f id (client :: roster) = f client :: under f id roster := by
  unfold under
  rw [List.filter_cons_of_pos (isNamed_iff.mpr h), List.map_cons]

theorem under_cons_of_not_named (h : client.clientId ≠ id) :
    under f id (client :: roster) = under f id roster := by
  unfold under
  rw [List.filter_cons_of_neg (mt isNamed_iff.mp h)]

theorem under_append (l l' : List LanClient) :
    under f id (l ++ l') = under f id l ++ under f id l' := by
  unfold under
  rw [List.filter_append, List.map_append]

theorem under_comp (h : β → γ) : under (h ∘ f) id roster = (under f id roster).map h := by
  unfold under
  rw [List.map_map]

theorem registered_iff : Registered id roster ↔ under f id roster ≠ [] := by
  unfold under Registered
  rw [Ne, List.map_eq_nil_iff, List.filter_eq_nil_iff]
  push Not
  exact exists_congr fun client =>
    and_congr_right fun _ => isNamed_iff.symm

theorem find?_isNamed_eq_none_iff :
    roster.find? (LanClient.isNamed id) = none ↔ ¬ Registered id roster := by
  rw [List.find?_eq_none]
  constructor
  · rintro h ⟨client, hmem, hid⟩
    exact h client hmem (isNamed_iff.mpr hid)
  · intro h client hmem hid
    exact h ⟨client, hmem, isNamed_iff.mp hid⟩

theorem SameUnder.refl (f : LanClient → β) (id : String) (roster : List LanClient) :
    SameUnder f id roster roster := List.Perm.refl _

theorem sameUnder_of_perm {l l' : List LanClient} (h : l.Perm l') : SameUnder f id l l' :=
  (h.filter _).map f

theorem SameUnder.comp {l l' : List LanClient} (h : SameUnder f id l l') (g : β → γ) :
    SameUnder (g ∘ f) id l l' := by
  unfold SameUnder
  rw [under_comp, under_comp]
  exact h.map g

theorem SameUnder.registered_iff {l l' : List LanClient} (h : SameUnder f id l l') :
    Registered id l ↔ Registered id l' := by
  rw [Clients.registered_iff (f := f), Clients.registered_iff (f := f), Ne, Ne,
    ← List.length_eq_zero_iff, ← List.length_eq_zero_iff, h.length_eq]

/-! ## What a rewriting does to them -/

/-- A rewriting of the records with one id is not seen under another. -/
theorem under_updateFirst_of_ne (hne : id ≠ k) (hid : ∀ c, c.clientId = k → (g c).clientId = k) :
    under f id (updateFirst (LanClient.isNamed k) g roster) = under f id roster := by
  induction roster with
  | nil => rfl
  | cons c roster ih =>
    unfold updateFirst
    split_ifs with hc
    · have hck := isNamed_iff.mp hc
      rw [under_cons_of_not_named fun h => hne (h.symm.trans (hid c hck)),
        under_cons_of_not_named fun h => hne (h.symm.trans hck)]
    · by_cases hcid : c.clientId = id
      · rw [under_cons_of_named hcid, under_cons_of_named hcid, ih]
      · rw [under_cons_of_not_named hcid, under_cons_of_not_named hcid, ih]

/-- Under its own id it is seen at the first record only. -/
theorem under_updateFirst_self (hfind : roster.find? (LanClient.isNamed k) = some client)
    (hid : ∀ c, c.clientId = k → (g c).clientId = k) :
    ∃ rest, under f k roster = f client :: rest ∧
      under f k (updateFirst (LanClient.isNamed k) g roster) = f (g client) :: rest := by
  induction roster with
  | nil => cases hfind
  | cons c roster ih =>
    by_cases hc : c.isNamed k = true
    · rw [List.find?_cons_of_pos hc, Option.some_inj] at hfind
      subst hfind
      have hck := isNamed_iff.mp hc
      refine ⟨under f k roster, under_cons_of_named hck, ?_⟩
      rw [updateFirst, if_pos hc, under_cons_of_named (hid c hck)]
    · rw [List.find?_cons_of_neg hc] at hfind
      obtain ⟨rest, hbefore, hafter⟩ := ih hfind
      have hck := mt isNamed_iff.mpr hc
      refine ⟨rest, ?_, ?_⟩
      · rw [under_cons_of_not_named hck, hbefore]
      · rw [updateFirst, if_neg hc, under_cons_of_not_named hck, hafter]

/-- What a rewriting leaves alone is the same under every id. -/
theorem under_updateFirst (hid : ∀ c, (g c).clientId = c.clientId) (hf : ∀ c, f (g c) = f c)
    (id : String) :
    under f id (updateFirst (LanClient.isNamed k) g roster) = under f id roster := by
  by_cases hne : id = k
  · subst hne
    cases hfind : roster.find? (LanClient.isNamed id) with
    | none => rw [updateFirst_of_find?_none hfind]
    | some client =>
      obtain ⟨rest, hbefore, hafter⟩ := under_updateFirst_self (f := f) hfind
        fun c hc => (hid c).trans hc
      rw [hbefore, hafter, hf]
  · exact under_updateFirst_of_ne hne fun c hc => (hid c).trans hc

theorem clientId_seen (now observedAddress : String) (c : LanClient) :
    (seen now observedAddress c).clientId = c.clientId := rfl

/-- A touch is seen by what looks at the liveness fields only. -/
theorem under_touchClient {now clientId observedAddress : String}
    (hf : ∀ c, f (seen now observedAddress c) = f c) (id : String) :
    under f id (touchClient now clientId observedAddress roster) = under f id roster := by
  unfold touchClient
  split
  · rfl
  · exact under_updateFirst (clientId_seen now observedAddress) hf id

/-- Two lists that differ in one place. -/
theorem perm_cons_iff_eq {a b : β} {l : List β} : (a :: l).Perm (b :: l) ↔ a = b := by
  rw [← Multiset.coe_eq_coe, ← Multiset.cons_coe, ← Multiset.cons_coe, Multiset.cons_inj_left]

/-- A removal leaves nothing under its id, and all the rest. -/
theorem under_filter_of_ne (hne : id ≠ k) :
    under f id (roster.filter fun c => !c.isNamed k) = under f id roster := by
  induction roster with
  | nil => rfl
  | cons c roster ih =>
    by_cases hc : c.isNamed k = true
    · rw [List.filter_cons_of_neg (by rw [hc]; exact Bool.false_ne_true), ih,
        under_cons_of_not_named fun h => hne (h.symm.trans (isNamed_iff.mp hc))]
    · rw [List.filter_cons_of_pos (by rw [Bool.eq_false_iff.mpr hc]; rfl)]
      by_cases hcid : c.clientId = id
      · rw [under_cons_of_named hcid, under_cons_of_named hcid, ih]
      · rw [under_cons_of_not_named hcid, under_cons_of_not_named hcid, ih]

/-! ## Upserts -/

variable {now : String} {input : LanClient}

/-- An upsert is not seen under another id. -/
theorem sameUnder_upsertClient_of_ne (hne : id ≠ normalizeId input.clientId) :
    SameUnder f id roster ((upsertClient now input).apply roster) := by
  refine List.Perm.trans ?_ (sameUnder_of_perm (List.perm_insertionSort _ _).symm)
  cases hfind : roster.find? (LanClient.isNamed (normalizedClient input).clientId) with
  | none =>
    dsimp only
    rw [under_append, under_cons_of_not_named fun h => hne h.symm, under_nil, List.append_nil]
  | some old =>
    have hsame : under f id (updateFirst (LanClient.isNamed (normalizedClient input).clientId)
        (updatedClient now (normalizedClient input)) roster) = under f id roster :=
      under_updateFirst_of_ne hne fun _ _ => rfl
    dsimp only
    rw [hsame]

/-- A new client is all that is found under its id. -/
theorem under_upsertClient_of_none
    (hfind : roster.find? (LanClient.isNamed (normalizeId input.clientId)) = none) :
    (under f (normalizeId input.clientId) ((upsertClient now input).apply roster)).Perm
      [f (registeredClient now (normalizedClient input))] := by
  have hnone : under f (normalizeId input.clientId) roster = [] := by
    by_contra hne
    exact find?_isNamed_eq_none_iff.mp hfind (registered_iff.mpr hne)
  refine List.Perm.trans (sameUnder_of_perm (List.perm_insertionSort _ _)) ?_
  have hcase : roster.find? (LanClient.isNamed (normalizedClient input).clientId) = none := hfind
  have hid : (registeredClient now (normalizedClient input)).clientId =
      normalizeId input.clientId := rfl
  rw [hcase]
  dsimp only
  rw [under_append, hnone, List.nil_append, under_cons_of_named hid, under_nil]

/-- A known client's first record is replaced. -/
theorem under_upsertClient_of_some {old : LanClient}
    (hfind : roster.find? (LanClient.isNamed (normalizeId input.clientId)) = some old) :
    ∃ rest, under f (normalizeId input.clientId) roster = f old :: rest ∧
      (under f (normalizeId input.clientId) ((upsertClient now input).apply roster)).Perm
        (f (updatedClient now (normalizedClient input) old) :: rest) := by
  obtain ⟨rest, hbefore, hafter⟩ := under_updateFirst_self (f := f)
    (g := updatedClient now (normalizedClient input)) hfind fun _ _ => rfl
  refine ⟨rest, hbefore, List.Perm.trans (sameUnder_of_perm (List.perm_insertionSort _ _)) ?_⟩
  have hcase : roster.find? (LanClient.isNamed (normalizedClient input).clientId) = some old :=
    hfind
  rw [hcase]
  dsimp only
  rw [← hafter]
  rfl

end Under

/-! ## Authority -/

/-- What a client may do. -/
structure Authority where
  privileges : LanClientPrivileges
  capabilities : List String
  autonomousMode : Bool
  enabled : Bool
  deriving DecidableEq

def LanClient.authority (client : LanClient) : Authority where
  privileges := client.privileges
  capabilities := client.capabilities
  autonomousMode := client.autonomousMode
  enabled := client.enabled

/-- How many records under an id have a flag set. -/
def countOn (flag : LanClient → Bool) (id : String) (roster : List LanClient) : Nat :=
  (under flag id roster).count true

/-- The authority of the record that counts. -/
def authorityOf (id : String) (roster : List LanClient) : Option Authority :=
  (roster.find? (LanClient.isNamed id)).map LanClient.authority

theorem authorityOf_eq_head? (id : String) (roster : List LanClient) :
    authorityOf id roster = (under LanClient.authority id roster).head? := by
  unfold authorityOf under
  rw [List.head?_map, List.head?_filter]

end Clients
end MasterControl
