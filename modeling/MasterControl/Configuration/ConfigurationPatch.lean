import MasterControl.Configuration.Codecs
import MasterControl.Foundation.MergePatch

/-!
# Patching the configuration

`PATCH /api/config` writes the configuration as JSON, merges the body into it, reads the result and
hands it to the configuration service.  The service refuses to disable the security protocols
without a confirmation; otherwise it takes the configuration, and writes the file.

The records that a patch can reach member by member are the configuration itself, its security, its
resource allocation, its active profile and its gateway; below them everything is a leaf
(`patchLaw_appConfiguration`).
-/

namespace MasterControl
namespace Configuration
namespace Records

open Foundation Json Supervisor

/-- `json::parse`, which keeps one member for each key of an object. -/
structure BodyParser where
  parse : Bytes → Option Json
  unique : ∀ text value, parse text = some value → UniqueKeys value

/-- `mergeConfigurationPatch`: the merged document, or why there is none. -/
def mergeConfigurationPatch (current : Json) : Json → Except String Json
  | .object patch => .ok (deepMergeObject current (.object patch))
  | _ => .error "Configuration patch body must be a JSON object of fields to merge."

/-- `update` of the configuration service, and the configuration afterwards. -/
def updateTo (configuration updated : AppConfiguration) (confirmUnsafeChanges persisted : Bool) :
    OperationResult × AppConfiguration :=
  if !updated.security.securityProtocolsEnabled && !confirmUnsafeChanges then
    ({ succeeded := false, requiresConfirmation := true,
       message := "Disabling security protocols requires explicit confirmation." }, configuration)
  else
    ({ succeeded := persisted, requiresConfirmation := false,
       message :=
        if persisted then "Configuration updated."
        else "Configuration could not be written to disk." }, updated)

section Patch

variable (parser : BodyParser) (conversions : NumberConversions)

/-- `applyConfigurationPatchJson`; no result is an exception. -/
def applyConfigurationPatchJson (configuration : AppConfiguration) (requestBody : Bytes)
    (confirmUnsafeChanges persisted : Bool) : Option OperationResult × AppConfiguration :=
  match parser.parse requestBody with
  | none => (none, configuration)
  | some patch =>
    match mergeConfigurationPatch ((appConfiguration conversions).encode configuration) patch with
    | .error message =>
      (some { succeeded := false, requiresConfirmation := false, message }, configuration)
    | .ok merged =>
      match (appConfiguration conversions).decode merged with
      | none => (none, configuration)
      | some updated =>
        let (result, configuration) :=
          updateTo configuration updated confirmUnsafeChanges persisted
        (some result, configuration)

/-- The body is an object that decodes once it is merged, and it leaves the security protocols
enabled or is confirmed. -/
def Accepts (configuration : AppConfiguration) (requestBody : Bytes)
    (confirmUnsafeChanges : Bool) : Prop :=
  ∃ patch updated, parser.parse requestBody = some (.object patch) ∧
    Patched (appConfiguration conversions) configuration (.object patch) updated ∧
    (updated.security.securityProtocolsEnabled = true ∨ confirmUnsafeChanges = true)

end Patch

/-! ## The records on the way -/

section Laws

variable (conversions : NumberConversions)

@[simp] theorem patchLaw_gatewayType : PatchLaw gatewayType :=
  IsLeaf.patchLaw ⟨fun _ _ h => (by cases h), fun _ => rfl⟩

@[simp] theorem patchLaw_securitySettings : PatchLaw securitySettings :=
  patchLaw_record (by simp)

@[simp] theorem patchLaw_resourceAllocationProfile :
    PatchLaw (resourceAllocationProfile conversions) :=
  patchLaw_record (by simp)

@[simp] theorem patchLaw_managedNodeProfile : PatchLaw (managedNodeProfile conversions) :=
  patchLaw_record (by simp)

@[simp] theorem patchLaw_mcpGatewayConfiguration : PatchLaw (mcpGatewayConfiguration conversions) :=
  patchLaw_record (by simp)

/-- **The configuration is patched by its document.** -/
theorem patchLaw_appConfiguration : PatchLaw (appConfiguration conversions) :=
  patchLaw_record (by simp)

end Laws

/-! ## A patch -/

section Merge

variable {parser : BodyParser} {conversions : NumberConversions}
  {configuration updated : AppConfiguration} {requestBody : Bytes} {patch : List (String × Json)}
  {confirmUnsafeChanges persisted : Bool}

theorem updateTo_refused (hdisabled : updated.security.securityProtocolsEnabled = false) :
    (updateTo configuration updated false persisted).2 = configuration := by
  rw [updateTo, hdisabled]
  rfl

theorem updateTo_taken
    (h : updated.security.securityProtocolsEnabled = true ∨ confirmUnsafeChanges = true) :
    (updateTo configuration updated confirmUnsafeChanges persisted).2 = updated := by
  rw [updateTo, if_neg]
  rcases h with h | h <;> simp [h]

/-- A body that is an object is merged, read and handed on. -/
theorem apply_of_object (hparse : parser.parse requestBody = some (.object patch)) :
    (applyConfigurationPatchJson parser conversions configuration requestBody
        confirmUnsafeChanges persisted).2 =
      match (appConfiguration conversions).decode
        (deepMergeObject ((appConfiguration conversions).encode configuration) (.object patch)) with
      | none => configuration
      | some updated => (updateTo configuration updated confirmUnsafeChanges persisted).2 := by
  rw [applyConfigurationPatchJson, hparse]
  dsimp only [mergeConfigurationPatch]
  split <;> rfl

/-- What is accepted is in force afterwards. -/
theorem apply_of_patched (hparse : parser.parse requestBody = some (.object patch))
    (hpatched : Patched (appConfiguration conversions) configuration (.object patch) updated)
    (h : updated.security.securityProtocolsEnabled = true ∨ confirmUnsafeChanges = true) :
    (applyConfigurationPatchJson parser conversions configuration requestBody
      confirmUnsafeChanges persisted).2 = updated := by
  rw [Patched] at hpatched
  rw [apply_of_object hparse, hpatched]
  exact updateTo_taken h

/-- What is not accepted changes nothing. -/
theorem apply_of_not_accepts
    (h : ¬ Accepts parser conversions configuration requestBody confirmUnsafeChanges) :
    (applyConfigurationPatchJson parser conversions configuration requestBody
      confirmUnsafeChanges persisted).2 = configuration := by
  cases hparse : parser.parse requestBody with
  | none => rw [applyConfigurationPatchJson, hparse]
  | some body =>
    cases body with
    | object patch =>
      rw [apply_of_object hparse]
      cases hdecode : (appConfiguration conversions).decode
          (deepMergeObject ((appConfiguration conversions).encode configuration)
            (.object patch)) with
      | none => rfl
      | some updated =>
        have hrefused : ¬ (updated.security.securityProtocolsEnabled = true ∨
            confirmUnsafeChanges = true) :=
          fun hsecure => h ⟨patch, updated, hparse, hdecode, hsecure⟩
        rw [not_or, Bool.not_eq_true, Bool.not_eq_true] at hrefused
        obtain ⟨hdisabled, rfl⟩ := hrefused
        exact updateTo_refused hdisabled
    | _ =>
      rw [applyConfigurationPatchJson, hparse]
      rfl

/-- The same patch again leaves what it has left. -/
theorem apply_again (hparse : parser.parse requestBody = some (.object patch))
    (hpatched : Patched (appConfiguration conversions) configuration (.object patch) updated) :
    (applyConfigurationPatchJson parser conversions updated requestBody
      confirmUnsafeChanges persisted).2 = updated := by
  have hagain := (patchLaw_appConfiguration conversions).again (parser.unique _ _ hparse) hpatched
  rw [Patched] at hagain
  rw [apply_of_object hparse, hagain]
  dsimp only
  rw [updateTo]
  split_ifs <;> rfl

/-- A member that the patch does not touch. -/
theorem eq_of_untouched {α : Type} (codec : Codec α) {before after : α}
    (h : (some (codec.encode after)).bind (valueAt []) =
      (some (codec.encode before)).bind (valueAt [])) : after = before :=
  codec.encode_injective (Option.some.inj h)

end Merge

/-- **A patch changes what it names, and nothing else.** -/
theorem configuration_patch_merges (parser : BodyParser) (conversions : NumberConversions)
    (configuration : AppConfiguration) (requestBody : Bytes)
    (confirmUnsafeChanges persisted : Bool) :
    let codec := appConfiguration conversions
    let after := (applyConfigurationPatchJson parser conversions configuration requestBody
      confirmUnsafeChanges persisted).2
    (¬ Accepts parser conversions configuration requestBody confirmUnsafeChanges →
      after = configuration) ∧
    (Accepts parser conversions configuration requestBody confirmUnsafeChanges →
      ∀ patch, parser.parse requestBody = some patch →
        (∀ path value, Names patch path value →
          valueAt path (codec.encode after) = decodedAt codec path value) ∧
        (∀ path, ¬ Touches patch path →
          valueAt path (codec.encode after) = valueAt path (codec.encode configuration)) ∧
        (¬ Touches patch ["lanClients"] → after.lanClients = configuration.lanClients) ∧
        (¬ Touches patch ["pools"] → after.pools = configuration.pools) ∧
        (¬ Touches patch ["workflows"] → after.workflows = configuration.workflows) ∧
        (¬ Touches patch ["appleRemoteHosts"] →
          after.appleRemoteHosts = configuration.appleRemoteHosts) ∧
        ∀ confirmAgain persistedAgain, (applyConfigurationPatchJson parser conversions after
          requestBody confirmAgain persistedAgain).2 = after) ∧
    (parser.parse requestBody = some (.object []) → after = configuration) ∧
    codec.decode (codec.encode configuration) = some configuration := by
  intro codec after
  have hlaw := patchLaw_appConfiguration conversions
  refine ⟨apply_of_not_accepts, ?_, ?_, codec.decode_encode configuration⟩
  · rintro ⟨patch, updated, hparse, hpatched, hsecure⟩ document hdocument
    obtain rfl := Option.some.inj (hparse.symm.trans hdocument)
    have hafter : after = updated := apply_of_patched hparse hpatched hsecure
    have hunique := parser.unique _ _ hparse
    rw [hafter]
    have hframe : ∀ path, ¬ Touches (.object patch) path →
        valueAt path (codec.encode updated) = valueAt path (codec.encode configuration) :=
      fun path huntouched => hlaw.frame hunique hpatched huntouched
    refine ⟨fun path value hnames => hlaw.named hunique hpatched hnames, hframe,
      fun h => ?_, fun h => ?_, fun h => ?_, fun h => ?_, fun _ _ => apply_again hparse hpatched⟩
    · exact eq_of_untouched (Codec.arrayOf lanClient) (hframe _ h)
    · exact eq_of_untouched (Codec.arrayOf (managedEndpointPool conversions)) (hframe _ h)
    · exact eq_of_untouched (Codec.arrayOf workflowDefinition) (hframe _ h)
    · exact eq_of_untouched (Codec.arrayOf (appleRemoteHost conversions)) (hframe _ h)
  · intro hparse
    by_cases haccepts : Accepts parser conversions configuration requestBody confirmUnsafeChanges
    · obtain ⟨patch, updated, hparse', hpatched, hsecure⟩ := haccepts
      obtain rfl : [] = patch := Json.object.inj (Option.some.inj (hparse.symm.trans hparse'))
      have hafter : after = updated := apply_of_patched hparse hpatched hsecure
      rw [hafter]
      refine hlaw.idle (parser.unique _ _ hparse) hpatched fun path value hnames => ?_
      cases hnames with
      | value hne => exact hne [] rfl
      | member hlookup _ => cases hlookup
    · exact apply_of_not_accepts haccepts

/-- A body that enables TLS, and asks for a port that wraps. -/
def tlsPatch : Json :=
  .object [("security", .object [("enableTls", .boolean true)]), ("browserPort", .integer 65616)]

theorem uniqueKeys_tlsPatch : UniqueKeys tlsPatch := by
  refine .object (by decide) fun member hmember => ?_
  rcases List.mem_pair.mp hmember with rfl | rfl
  · refine .object (by decide) fun inner hinner => ?_
    rw [List.mem_singleton.mp hinner]
    exact .other (by simp)
  · exact .other (by simp)

def tlsParser : BodyParser where
  parse _ := some tlsPatch
  unique _ _ h := by
    rw [← Option.some.inj h]
    exact uniqueKeys_tlsPatch

example :
    let after := (applyConfigurationPatchJson tlsParser ⟨fun _ => "0.0", fun _ => 0⟩
      { instanceName := "lab" } [] false true).2
    after.security.enableTls = true ∧ after.security.enableAuthentication = true ∧
      after.browserPort = 80 ∧ after.instanceName = "lab" := by
  decide

end Records
end Configuration
end MasterControl
