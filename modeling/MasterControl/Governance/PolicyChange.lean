import MasterControl.Foundation.OrdMap
import MasterControl.Foundation.Utf8
import MasterControl.Governance.ApprovalQueue

/-!
# Applying a policy change

An approved policy change is written into the governance profile, one JSON object in a file.  The
staged doctrine is cut to 2000 bytes; the profile is read, and taken for the empty object if it
cannot be; then the file is truncated, and only then the new object is written as a text.

A text that is cut inside a character is no UTF-8, and the library throws instead of writing it,
when the file is already empty.  `apply_allOrNothing_iff` says when a change is applied as a whole
or not at all.
-/

namespace MasterControl
namespace Governance

open Foundation Supervisor

/-! ## The profile and its file -/

/-- The members of the profile. -/
abbrev Profile := OrdMap String Json

/-- The file of the profile, and whether it can be opened for reading and for writing. -/
structure ProfileDisk where
  content : Option Bytes
  readable : Bool
  opens : Bool

section Model

variable (format : JsonText)

/-- The object that a text holds. -/
def objectOf (text : Bytes) : Option Profile :=
  match format.parse text with
  | some (.object members) => some (OrdMap.ofList members)
  | _ => none

/-- `loadProfile`, and the empty object for what is no object. -/
def loadProfile (disk : ProfileDisk) : Profile :=
  if disk.readable then (disk.content.bind (objectOf format)).getD OrdMap.empty
  else OrdMap.empty

/-- `dump(2)` of the profile with a member that is any bytes; `none` where it throws. -/
def dumpProfile (profile : String → Profile) (doctrine : Bytes) : Option Bytes :=
  (fromUtf8? doctrine).map fun doctrine => format.dump (.object (profile doctrine).entries)

/-- `writeProfile`, with what is in the file behind it. -/
def writeProfile (disk : ProfileDisk) (profile : String → Profile) (doctrine : Bytes) :
    Bool × Option Bytes :=
  if disk.opens then
    -- opening has emptied the file
    match dumpProfile format profile doctrine with
    | none => (false, some [])
    | some text => (true, some text)
  else (false, disk.content)

/-! ## The change -/

def kMaxDoctrineChars : ℕ := 2000

/-- The string `doctrine` of a payload. -/
def stagedDoctrine (payload : String) : Option String := do
  let value ← format.parse (utf8Bytes payload.toList)
  match value with
  | .object members =>
    match (OrdMap.ofList members).find? "doctrine" with
    | some (.string doctrine) => some doctrine
    | _ => none
  | _ => none

/-- `doctrine.resize(kMaxDoctrineChars)`, if it is longer. -/
def cutDoctrine (doctrine : String) : Bytes := (utf8Bytes doctrine.toList).take kMaxDoctrineChars

/-- `lastPolicyChange`, in the order of the keys. -/
def lastPolicyChange (action : GovernanceDeferredAction) (now : String) : Json :=
  .object [("actor", .string action.actor), ("appliedAtUtc", .string now),
    ("deferredActionId", .string action.id)]

def changedProfile (profile : Profile) (action : GovernanceDeferredAction) (now doctrine : String) :
    Profile :=
  (profile.insert "doctrine" (.string doctrine)).insert "lastPolicyChange"
    (lastPolicyChange action now)

def failed (message : String) : OperationResult := ⟨false, false, message⟩

def applyPolicyChange (disk : ProfileDisk) (action : GovernanceDeferredAction) (now : String) :
    OperationResult × Option Bytes :=
  match format.parse (utf8Bytes action.payload.toList) with
  | some (.object _) =>
    match stagedDoctrine format action.payload with
    | none =>
      (failed "Governance policy change requires a string 'doctrine' field.", disk.content)
    | some doctrine =>
      let profile := changedProfile (loadProfile format disk) action now
      match writeProfile format disk profile (cutDoctrine doctrine) with
      | (false, content) =>
        (failed "Failed to write the CLU governance profile file.", content)
      | (true, content) =>
        (⟨true, false, "Applied operator-approved governance doctrine."⟩, content)
  | _ => (failed "Governance policy change payload is not a JSON object.", disk.content)

/-- `RuntimeGovernanceActionExecutor::execute`, with what is in the file behind it. -/
def execute (disk : ProfileDisk) (action : GovernanceDeferredAction) (now : String) :
    OperationResult × Option Bytes :=
  match action.action with
  | .governancePolicyChange => applyPolicyChange format disk action now
  | kind =>
    (failed ("No executor is registered for governance action '" ++ kind.toString ++ "'."),
      disk.content)

/-! ## All or nothing -/

/-- What the file held: the object in it, where there is nothing to keep the empty one. -/
def previousProfile (disk : ProfileDisk) : Profile :=
  (disk.content.bind (objectOf format)).getD OrdMap.empty

/-- The members that a change leaves alone. -/
def Untouched (key : String) : Prop := key ≠ "doctrine" ∧ key ≠ "lastPolicyChange"

/-- Either the change is made and nothing else, or the file is what it was. -/
def AllOrNothing (disk : ProfileDisk) (doctrine : String)
    (after : OperationResult × Option Bytes) : Prop :=
  (after.1.succeeded = true ∧ ∃ profile kept, after.2.bind (objectOf format) = some profile ∧
    (∀ key, Untouched key → profile.find? key = (previousProfile format disk).find? key) ∧
    profile.find? "doctrine" = some (.string kept) ∧ kept.toList <+: doctrine.toList) ∨
  (after.1.succeeded = false ∧ after.2 = disk.content)

/-- Whether the cut leaves whole characters. -/
def CutsWhole (doctrine : String) : Prop :=
  (utf8Bytes doctrine.toList).length ≤ kMaxDoctrineChars ∨
    AtCharacterEnd doctrine.toList kMaxDoctrineChars

/-- When a change is applied as it should be. -/
def AppliesWhole (disk : ProfileDisk) (doctrine : String) : Prop :=
  disk.opens = false ∨
  (CutsWhole doctrine ∧ (disk.readable = true ∨
    ∀ key, Untouched key → (previousProfile format disk).find? key = none)) ∨
  (¬ CutsWhole doctrine ∧ disk.content = some [])

/-- The library reads back the profile that is written. -/
def ReadsBack (disk : ProfileDisk) (action : GovernanceDeferredAction) (now doctrine : String) :
    Prop :=
  ∀ kept, fromUtf8? (cutDoctrine doctrine) = some kept →
    let profile := changedProfile (loadProfile format disk) action now kept
    objectOf format (format.dump (.object profile.entries)) = some profile

end Model

section Law

variable {format : JsonText} {disk : ProfileDisk} {action : GovernanceDeferredAction}
  {now doctrine kept : String} {profile : Profile}

theorem isSome_fromUtf8?_cutDoctrine_iff :
    (fromUtf8? (cutDoctrine doctrine)).isSome = true ↔ CutsWhole doctrine :=
  isSome_fromUtf8?_take_iff

theorem find?_changedProfile_doctrine :
    (changedProfile profile action now kept).find? "doctrine" = some (.string kept) := by
  rw [changedProfile, OrdMap.find?_insert_of_ne _ (by decide), OrdMap.find?_insert_self]

theorem find?_changedProfile_untouched {key : String} (h : Untouched key) :
    (changedProfile profile action now kept).find? key = profile.find? key := by
  rw [changedProfile, OrdMap.find?_insert_of_ne _ h.2.symm, OrdMap.find?_insert_of_ne _ h.1.symm]

theorem parse_of_staged (hstaged : stagedDoctrine format action.payload = some doctrine) :
    ∃ members, format.parse (utf8Bytes action.payload.toList) = some (.object members) := by
  obtain ⟨value, hparse, hvalue⟩ := Option.bind_eq_some_iff.mp hstaged
  cases value with
  | object members => exact ⟨members, hparse⟩
  | _ => cases hvalue

/-- An accepted payload: what is left is to write the file. -/
theorem execute_of_staged (haction : action.action = .governancePolicyChange)
    (hstaged : stagedDoctrine format action.payload = some doctrine) :
    ((execute format disk action now).1.succeeded, (execute format disk action now).2) =
      writeProfile format disk (changedProfile (loadProfile format disk) action now)
        (cutDoctrine doctrine) := by
  obtain ⟨members, hparse⟩ := parse_of_staged hstaged
  simp only [execute, haction, applyPolicyChange, hparse, hstaged]
  split
  · rename_i content hwrite
    rw [hwrite]
    rfl
  · rename_i content hwrite
    rw [hwrite]

/-- The property, in terms of what the write answers. -/
theorem allOrNothing_iff (haction : action.action = .governancePolicyChange)
    (hstaged : stagedDoctrine format action.payload = some doctrine) {written : Bool}
    {content : Option Bytes}
    (hwrite : writeProfile format disk (changedProfile (loadProfile format disk) action now)
      (cutDoctrine doctrine) = (written, content)) :
    AllOrNothing format disk doctrine (execute format disk action now) ↔
      (written = true ∧ ∃ profile kept, content.bind (objectOf format) = some profile ∧
        (∀ key, Untouched key → profile.find? key = (previousProfile format disk).find? key) ∧
        profile.find? "doctrine" = some (.string kept) ∧ kept.toList <+: doctrine.toList) ∨
      (written = false ∧ content = disk.content) := by
  have hexecute := (execute_of_staged haction hstaged).trans hwrite
  obtain ⟨hsucceeded, hafter⟩ := Prod.mk.inj hexecute
  rw [AllOrNothing, hsucceeded, hafter]

/-- Only the members of an object that cannot be read are lost. -/
theorem loadProfile_kept_iff :
    (∀ key, Untouched key →
      (loadProfile format disk).find? key = (previousProfile format disk).find? key) ↔
    disk.readable = true ∨
      ∀ key, Untouched key → (previousProfile format disk).find? key = none := by
  cases hreadable : disk.readable with
  | true => simp [loadProfile, previousProfile, hreadable]
  | false => simp [loadProfile, hreadable, eq_comm]

/-- **When a change is applied as a whole or not at all.** -/
theorem apply_allOrNothing_iff (haction : action.action = .governancePolicyChange)
    (hstaged : stagedDoctrine format action.payload = some doctrine)
    (hreads : ReadsBack format disk action now doctrine) :
    AllOrNothing format disk doctrine (execute format disk action now) ↔
      AppliesWhole format disk doctrine := by
  cases hopens : disk.opens with
  | false =>
    have hwrite : writeProfile format disk (changedProfile (loadProfile format disk) action now)
        (cutDoctrine doctrine) = (false, disk.content) := by
      rw [writeProfile, hopens]
      rfl
    exact iff_of_true ((allOrNothing_iff haction hstaged hwrite).mpr (.inr ⟨rfl, rfl⟩))
      (.inl hopens)
  | true =>
    have hwhole : (fromUtf8? (cutDoctrine doctrine)).isSome = true ↔ CutsWhole doctrine :=
      isSome_fromUtf8?_cutDoctrine_iff
    cases hcut : fromUtf8? (cutDoctrine doctrine) with
    | none =>
      have hwrite : writeProfile format disk (changedProfile (loadProfile format disk) action now)
          (cutDoctrine doctrine) = (false, some []) := by
        simp [writeProfile, hopens, dumpProfile, hcut]
      have hnot : ¬ CutsWhole doctrine := by
        rw [← hwhole, hcut]
        exact Bool.false_ne_true
      rw [allOrNothing_iff haction hstaged hwrite, AppliesWhole, eq_comm (a := disk.content)]
      simp [hopens, hnot]
    | some kept =>
      let profile := changedProfile (loadProfile format disk) action now kept
      have hwrite : writeProfile format disk (changedProfile (loadProfile format disk) action now)
          (cutDoctrine doctrine) = (true, some (format.dump (.object profile.entries))) := by
        simp [writeProfile, hopens, dumpProfile, hcut, profile]
      have hcuts : CutsWhole doctrine := by
        rw [← hwhole, hcut]
        rfl
      have hread : objectOf format (format.dump (.object profile.entries)) = some profile :=
        hreads kept hcut
      have hprefix : kept.toList <+: doctrine.toList := prefix_of_fromUtf8?_take hcut
      have hkept : (∃ profile' kept', some profile = some profile' ∧
          (∀ key, Untouched key →
            profile'.find? key = (previousProfile format disk).find? key) ∧
          profile'.find? "doctrine" = some (.string kept') ∧ kept'.toList <+: doctrine.toList) ↔
          ∀ key, Untouched key →
            (loadProfile format disk).find? key = (previousProfile format disk).find? key := by
        constructor
        · rintro ⟨profile', kept', hprofile, hmembers, -⟩ key hkey
          rw [← hmembers key hkey, ← Option.some.inj hprofile]
          exact (find?_changedProfile_untouched hkey).symm
        · intro hmembers
          exact ⟨profile, kept, rfl, fun key hkey =>
            (find?_changedProfile_untouched hkey).trans (hmembers key hkey),
            find?_changedProfile_doctrine, hprefix⟩
      rw [allOrNothing_iff haction hstaged hwrite, AppliesWhole, Option.bind_some, hread, hkept,
        loadProfile_kept_iff]
      simp [hopens, hcuts]

end Law

/-! ### A change that is applied, and one that is not -/

def shortPayload : String := "\x7b\"doctrine\": \"d\"\x7d"

def shortAction : GovernanceDeferredAction where
  id := "deferred-1"
  action := .governancePolicyChange
  actor := "ops"
  payload := shortPayload

/-- The profile that the short change writes. -/
def shortProfile : Bytes := asciiBytes "\x7b
  \"doctrine\": \"d\",
  \"lastPolicyChange\": \x7b
    \"actor\": \"ops\",
    \"appliedAtUtc\": \"now\",
    \"deferredActionId\": \"deferred-1\"
  \x7d
\x7d"

/-- A library that knows the short payload and what is written for it. -/
def shortFormat : JsonText where
  parse text :=
    if text = utf8Bytes shortPayload.toList then some (.object [("doctrine", .string "d")])
    else if text = shortProfile then some (.object [("doctrine", .string "d"),
      ("lastPolicyChange", lastPolicyChange shortAction "now")])
    else none
  dump _ := shortProfile

set_option maxRecDepth 4096 in
theorem readsBack_short : ReadsBack shortFormat ⟨none, true, true⟩ shortAction "now" "d" := by
  intro kept hkept
  have hcut : fromUtf8? (cutDoctrine "d") = some (String.ofList ['d']) :=
    fromUtf8?_utf8Bytes ['d']
  obtain rfl : String.ofList ['d'] = kept := Option.some.inj (hcut.symm.trans hkept)
  have hne : shortProfile ≠ utf8Bytes shortPayload.toList := fun h =>
    absurd (congrArg (fun text : Bytes => text[1]?) h) (by decide)
  show objectOf shortFormat shortProfile = _
  simp only [objectOf, shortFormat, if_neg hne, if_true]
  rfl

theorem short_allOrNothing :
    AllOrNothing shortFormat ⟨none, true, true⟩ "d"
        (execute shortFormat ⟨none, true, true⟩ shortAction "now") ↔
      AppliesWhole shortFormat ⟨none, true, true⟩ "d" :=
  apply_allOrNothing_iff rfl rfl readsBack_short

def payloadWith (doctrine : String) : String := "\x7b\"doctrine\": \"" ++ doctrine ++ "\"\x7d"

def actionWith (doctrine : String) : GovernanceDeferredAction where
  id := "deferred-1"
  action := .governancePolicyChange
  actor := "ops"
  payload := payloadWith doctrine

/-- A library that knows one payload and the empty object. -/
def formatWith (doctrine : String) : JsonText where
  parse text :=
    if text = utf8Bytes (payloadWith doctrine).toList then
      some (.object [("doctrine", .string doctrine)])
    else if text = asciiBytes "\x7b\x7d" then some (.object [])
    else none
  dump _ := asciiBytes "\x7b\x7d"

theorem stagedDoctrine_formatWith (doctrine : String) :
    stagedDoctrine (formatWith doctrine) (actionWith doctrine).payload = some doctrine := by
  have hparse : (formatWith doctrine).parse (utf8Bytes (payloadWith doctrine).toList) =
      some (.object [("doctrine", .string doctrine)]) := if_pos rfl
  show stagedDoctrine (formatWith doctrine) (payloadWith doctrine) = some doctrine
  rw [stagedDoctrine, hparse]
  rfl

theorem length_utf8Bytes_replicate (n : ℕ) : (utf8Bytes (List.replicate n 'a')).length = n := by
  induction n with
  | zero => rfl
  | succ n ih =>
    rw [List.replicate_succ, utf8Bytes_cons, List.length_append, ih, Nat.add_comm]
    rfl

/-- A character of two bytes behind `n` of one byte. -/
theorem length_utf8Bytes_split (n : ℕ) :
    (utf8Bytes (List.replicate n 'a' ++ ['é'])).length = n + 2 := by
  rw [utf8Bytes_append, List.length_append, length_utf8Bytes_replicate]
  rfl

theorem not_atCharacterEnd_split (n : ℕ) :
    ¬ AtCharacterEnd (List.replicate n 'a' ++ ['é']) (n + 1) := by
  rintro ⟨front, hfront, hbytes⟩
  rcases List.prefix_concat_iff.mp hfront with rfl | ⟨rest, hrest⟩
  · rw [length_utf8Bytes_split] at hbytes
    omega
  · have hall := length_utf8Bytes_replicate n
    rw [← hrest, utf8Bytes_append, List.length_append, hbytes] at hall
    omega

def splitDoctrine : String := String.ofList (List.replicate 1999 'a' ++ ['é'])

theorem not_cutsWhole_splitDoctrine : ¬ CutsWhole splitDoctrine := by
  show ¬ CutsWhole (String.ofList (List.replicate 1999 'a' ++ ['é']))
  rw [CutsWhole, String.toList_ofList, length_utf8Bytes_split]
  exact not_or.mpr ⟨Nat.not_succ_le_self 2000, not_atCharacterEnd_split 1999⟩

/-- A change whose doctrine is cut inside a character empties the profile. -/
theorem profile_emptied {doctrine : String} (hsplit : ¬ CutsWhole doctrine) :
    ReadsBack (formatWith doctrine) ⟨some (asciiBytes "\x7b\x7d"), true, true⟩
        (actionWith doctrine) "now" doctrine ∧
      ¬ AllOrNothing (formatWith doctrine) ⟨some (asciiBytes "\x7b\x7d"), true, true⟩ doctrine
        (execute (formatWith doctrine) ⟨some (asciiBytes "\x7b\x7d"), true, true⟩
          (actionWith doctrine) "now") := by
  have hcut : fromUtf8? (cutDoctrine doctrine) = none := by
    rwa [← Option.not_isSome_iff_eq_none, isSome_fromUtf8?_cutDoctrine_iff]
  refine ⟨fun kept hkept => ?_, ?_⟩
  · rw [hcut] at hkept
    cases hkept
  · have hwrite (profile : String → Profile) :
        writeProfile (formatWith doctrine) ⟨some (asciiBytes "\x7b\x7d"), true, true⟩ profile
          (cutDoctrine doctrine) = (false, some []) := by
      simp [writeProfile, dumpProfile, hcut]
    rw [allOrNothing_iff rfl (stagedDoctrine_formatWith doctrine) (hwrite _)]
    rintro (⟨htrue, -⟩ | ⟨-, hcontent⟩)
    · cases htrue
    · exact absurd hcontent (by decide)

/-- The change fails, and the profile that held an object is empty. -/
theorem split_change_empties_profile :
    (actionWith splitDoctrine).action = .governancePolicyChange ∧
      stagedDoctrine (formatWith splitDoctrine) (actionWith splitDoctrine).payload =
        some splitDoctrine ∧
      ReadsBack (formatWith splitDoctrine) ⟨some (asciiBytes "\x7b\x7d"), true, true⟩
        (actionWith splitDoctrine) "now" splitDoctrine ∧
      ¬ AllOrNothing (formatWith splitDoctrine) ⟨some (asciiBytes "\x7b\x7d"), true, true⟩
        splitDoctrine (execute (formatWith splitDoctrine)
          ⟨some (asciiBytes "\x7b\x7d"), true, true⟩ (actionWith splitDoctrine) "now") :=
  ⟨rfl, stagedDoctrine_formatWith splitDoctrine, profile_emptied not_cutsWhole_splitDoctrine⟩

end Governance
end MasterControl
