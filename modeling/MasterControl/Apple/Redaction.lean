import MasterControl.Apple.ToolRequests
import Mathlib.Data.List.Forall2

/-!
# Credentials stay out of the history

Two requests that differ in credentials only (`SameButSecrets`) look up the same value under every
name that is no credential, and a credential under none of them is blank in one and not in the
other.  What is kept of the options, and every summary, is made of the former; the command depends
on the credentials, but whether there is one, and what is said if there is none, does not
(`command_cases`).  So with equal results of the remote commands everything that is kept and
returned is the same.
-/

namespace MasterControl
namespace Apple
namespace Redaction

open Foundation

/-! ## Two requests -/

/-- The options are the same, except for the values of credentials, which are not blank. -/
def SameOption (option option' : String × Bytes) : Prop :=
  option.1 = option'.1 ∧
    if option.1 ∈ secretKeys then trimCopy option.2 ≠ [] ∧ trimCopy option'.2 ≠ []
    else option.2 = option'.2

structure SameButSecrets (request request' : GovernanceToolRequest) : Prop where
  platform : request.platform = request'.platform
  toolId : request.toolId = request'.toolId
  targetPath : request.targetPath = request'.targetPath
  options : List.Forall₂ SameOption request.options request'.options

/-- The remote commands of the two requests give the same. -/
def EqualResults (request request' : GovernanceToolRequest) (s s' : Surroundings) : Prop :=
  ∀ descriptor host command command',
    buildAppleOperationalCommand descriptor request.platform host (choices request host) =
      .ok command →
    buildAppleOperationalCommand descriptor request'.platform host (choices request' host) =
      .ok command' →
    s.remote host.hostId command = s'.remote host.hostId command'

/-- Two runs find the same around them, and their remote commands give the same. -/
structure SameSurroundings (request request' : GovernanceToolRequest) (s s' : Surroundings) :
    Prop where
  same : s' = { s with remote := s'.remote }
  results : EqualResults request request' s s'

inductive SameFate (request request' : GovernanceToolRequest) : Fate → Fate → Prop
  | worked {s s' : Surroundings} (h : SameSurroundings request request' s s') :
      SameFate request request' (.worked s) (.worked s')
  | canceled (nowUtc : Bytes) : SameFate request request' (.canceled nowUtc) (.canceled nowUtc)
  | interrupted (interruptedAtUtc : Bytes) :
      SameFate request request' (.interrupted interruptedAtUtc) (.interrupted interruptedAtUtc)

variable {request request' : GovernanceToolRequest} {s s' : Surroundings}

/-! ## Lookups -/

/-- An option under a name: in neither, or in both, and the same if it is no credential. -/
theorem lookup_cases {options options' : List (String × Bytes)}
    (h : List.Forall₂ SameOption options options') (key : String) :
    (options.lookup key = none ∧ options'.lookup key = none) ∨
      ∃ value value', options.lookup key = some value ∧ options'.lookup key = some value' ∧
        if key ∈ secretKeys then trimCopy value ≠ [] ∧ trimCopy value' ≠ []
        else value = value' := by
  induction h with
  | nil => exact Or.inl ⟨rfl, rfl⟩
  | @cons option option' options options' hsame _ ih =>
    obtain ⟨name, value⟩ := option
    obtain ⟨name', value'⟩ := option'
    obtain ⟨hname, hvalue⟩ := hsame
    dsimp only at hname hvalue
    subst hname
    rw [List.lookup_cons, List.lookup_cons]
    by_cases hkey : key = name
    · subst hkey
      rw [beq_self_eq_true]
      exact Or.inr ⟨value, value', rfl, rfl, hvalue⟩
    · rw [beq_false_of_ne hkey]
      exact ih

/-- A name that is no credential gives the same in both. -/
theorem lookup_eq (h : SameButSecrets request request') {key : String} (hkey : key ∉ secretKeys) :
    request.options.lookup key = request'.options.lookup key := by
  obtain ⟨hnone, hnone'⟩ | ⟨value, value', hsome, hsome', hvalue⟩ := lookup_cases h.options key
  · rw [hnone, hnone']
  · rw [if_neg hkey] at hvalue
    rw [hsome, hsome', hvalue]

theorem optionValue_eq (h : SameButSecrets request request') {keys : List String}
    (hkeys : ∀ key ∈ keys, key ∉ secretKeys) :
    optionValue request keys = optionValue request' keys := by
  induction keys with
  | nil => rfl
  | cons key keys ih =>
    have hrest := ih fun other hother => hkeys other (List.mem_cons_of_mem key hother)
    rw [optionValue, optionValue, List.findSome?_cons, List.findSome?_cons,
      lookup_eq h (hkeys key List.mem_cons_self)]
    cases ((request'.options.lookup key).map trimCopy).filter (· ≠ []) with
    | none => exact hrest
    | some value => rfl

/-- Whether an option is there, and not blank, is the same in both. -/
theorem supplied_isSome_eq (h : SameButSecrets request request') (key : String) :
    (((request.options.lookup key).map trimCopy).filter (· ≠ [])).isSome =
      (((request'.options.lookup key).map trimCopy).filter (· ≠ [])).isSome := by
  obtain ⟨hnone, hnone'⟩ | ⟨value, value', hsome, hsome', hvalue⟩ := lookup_cases h.options key
  · rw [hnone, hnone']
  · rw [hsome, hsome']
    by_cases hsecret : key ∈ secretKeys
    · rw [if_pos hsecret] at hvalue
      rw [Option.map_some, Option.map_some, Option.filter_some, Option.filter_some,
        if_pos (decide_eq_true hvalue.1), if_pos (decide_eq_true hvalue.2)]
      rfl
    · rw [if_neg hsecret] at hvalue
      rw [hvalue]

/-- What is found is not empty. -/
theorem optionValue_eq_nil_iff_forall (request : GovernanceToolRequest) (keys : List String) :
    optionValue request keys = [] ↔
      ∀ key ∈ keys,
        (((request.options.lookup key).map trimCopy).filter (· ≠ [])).isSome = false := by
  induction keys with
  | nil => exact iff_of_true rfl (List.forall_mem_nil _)
  | cons key keys ih =>
    rw [optionValue, List.findSome?_cons, List.forall_mem_cons]
    cases hfound : ((request.options.lookup key).map trimCopy).filter (· ≠ []) with
    | none =>
      rw [Option.isSome_none, and_iff_right rfl]
      exact ih
    | some value =>
      have hne : value ≠ [] := of_decide_eq_true (Option.filter_eq_some_iff.mp hfound).2
      exact iff_of_false hne fun hall => Bool.noConfusion hall.1

/-- Whether there is a credential under one of the names is the same in both. -/
theorem optionValue_eq_nil_iff (h : SameButSecrets request request') (keys : List String) :
    optionValue request keys = [] ↔ optionValue request' keys = [] := by
  rw [optionValue_eq_nil_iff_forall, optionValue_eq_nil_iff_forall]
  exact forall_congr' fun key => by rw [supplied_isSome_eq h key]

/-! ## What is kept of the options -/

theorem artifactKeys_public (toolId : String) : ∀ key ∈ artifactKeys toolId, key ∉ secretKeys := by
  have hall : ∀ keys ∈ [["exportPath", "outputPath", "outputDirectory", "artifactPath",
      "archivePath"], ["appPath", "applicationPath", "bundlePath", "artifactPath"],
      ["bundlePath", "appPath", "targetBundlePath", "artifactPath"],
      ["artifactPath", "bundlePath", "staplePath", "targetPath"], ["archivePath", "artifactPath"],
      ["artifactPath", "bundlePath", "appPath", "archivePath", "exportPath", "outputPath",
        "outputDirectory"]], ∀ key ∈ keys, key ∉ secretKeys := by
    decide
  refine hall _ ?_
  rw [artifactKeys]
  split_ifs <;> simp only [List.mem_cons, true_or, or_true]

theorem findAppleArtifactPath_eq (h : SameButSecrets request request')
    (descriptor : GovernanceToolDescriptor) :
    findAppleArtifactPath descriptor request = findAppleArtifactPath descriptor request' :=
  optionValue_eq h (artifactKeys_public descriptor.toolId)

theorem resolveAppleWorkingDirectory_eq (h : SameButSecrets request request') :
    resolveAppleWorkingDirectory request = resolveAppleWorkingDirectory request' := by
  have hdirectory : optionValue request ["remoteWorkingDirectory", "workingDirectory"] =
      optionValue request' ["remoteWorkingDirectory", "workingDirectory"] :=
    optionValue_eq h (by decide)
  have hroot : optionValue request ["targetRoot"] = optionValue request' ["targetRoot"] :=
    optionValue_eq h (by decide)
  rw [resolveAppleWorkingDirectory, resolveAppleWorkingDirectory, h.targetPath, hdirectory, hroot]

theorem resolveTargetRoot_eq (h : SameButSecrets request request') :
    resolveTargetRoot request = resolveTargetRoot request' := by
  have hroot : request.options.lookup "targetRoot" = request'.options.lookup "targetRoot" :=
    lookup_eq h (by decide)
  rw [resolveTargetRoot, resolveTargetRoot, h.targetPath, hroot]

/-- What is made of each pair in the same way is the same. -/
theorem filterMap_eq_of_forall₂ {α β γ : Type} {R : α → β → Prop} {f : α → Option γ}
    {g : β → Option γ} {l : List α} {l' : List β} (h : List.Forall₂ R l l')
    (hfg : ∀ a b, R a b → f a = g b) : l.filterMap f = l'.filterMap g := by
  induction h with
  | nil => rfl
  | cons hab _ ih => rw [List.filterMap_cons, List.filterMap_cons, hfg _ _ hab, ih]

theorem SameOption.blank_eq {option option' : String × Bytes} (h : SameOption option option') :
    decide (trimCopy option.2 ≠ []) = decide (trimCopy option'.2 ≠ []) := by
  have hvalue := h.2
  split_ifs at hvalue
  · rw [decide_eq_true hvalue.1, decide_eq_true hvalue.2]
  · rw [hvalue]

/-- Only the names of credentials are kept. -/
theorem sanitizeAppleRequestOptions_eq (h : SameButSecrets request request') :
    sanitizeAppleRequestOptions request = sanitizeAppleRequestOptions request' := by
  have hpersisted : ∀ option option', SameOption option option' →
      (if trimCopy option.2 ≠ [] then
        if secretKeys.contains option.1 || !allowedKeys.contains option.1 then none
        else some (option.1, trimCopy option.2)
      else none) =
      (if trimCopy option'.2 ≠ [] then
        if secretKeys.contains option'.1 || !allowedKeys.contains option'.1 then none
        else some (option'.1, trimCopy option'.2)
      else none) := by
    intro option option' hsame
    obtain ⟨hname, hvalue⟩ := hsame
    rw [← hname]
    by_cases hsecret : option.1 ∈ secretKeys
    · rw [List.contains_iff_mem.mpr hsecret, Bool.true_or, if_pos rfl, if_pos rfl, ite_self,
        ite_self]
    · rw [if_neg hsecret] at hvalue
      rw [hvalue]
  have hnames : ∀ option option', SameOption option option' →
      (if trimCopy option.2 ≠ [] then
        if secretKeys.contains option.1 then some option.1 else none
      else none) =
      (if trimCopy option'.2 ≠ [] then
        if secretKeys.contains option'.1 then some option'.1 else none
      else none) := by
    intro option option' hsame
    have hblank := decide_eq_decide.mp hsame.blank_eq
    rw [← hsame.1]
    exact if_congr hblank rfl rfl
  have hkeys : (request.options.filter fun option => trimCopy option.2 ≠ []).filterMap
        (fun option => if secretKeys.contains option.1 then some option.1 else none) =
      (request'.options.filter fun option => trimCopy option.2 ≠ []).filterMap
        (fun option => if secretKeys.contains option.1 then some option.1 else none) := by
    rw [List.filterMap_filter, List.filterMap_filter]
    refine filterMap_eq_of_forall₂ h.options fun option option' hsame => ?_
    simpa only [decide_eq_true_eq] using hnames option option' hsame
  have hkept : (request.options.filter fun option => trimCopy option.2 ≠ []).filterMap
        (fun option => if secretKeys.contains option.1 || !allowedKeys.contains option.1 then none
          else some (option.1, trimCopy option.2)) =
      (request'.options.filter fun option => trimCopy option.2 ≠ []).filterMap
        (fun option => if secretKeys.contains option.1 || !allowedKeys.contains option.1 then none
          else some (option.1, trimCopy option.2)) := by
    rw [List.filterMap_filter, List.filterMap_filter]
    refine filterMap_eq_of_forall₂ h.options fun option option' hsame => ?_
    simpa only [decide_eq_true_eq] using hpersisted option option' hsame
  have hmap : ∀ options : List (String × Bytes),
      (options.filter fun option => secretKeys.contains option.1).map Prod.fst =
        options.filterMap fun option =>
          if secretKeys.contains option.1 then some option.1 else none := by
    intro options
    rw [← List.filterMap_eq_map, List.filterMap_filter]
    rfl
  rw [sanitizeAppleRequestOptions, sanitizeAppleRequestOptions]
  simp only [hmap, hkept, hkeys]

/-! ## The summaries and the command -/

theorem credentialParts_eq (h : SameButSecrets request request')
    (descriptor : GovernanceToolDescriptor) (host : AppleRemoteHost) (redactedKeys : List String) :
    credentialParts descriptor request host redactedKeys =
      credentialParts descriptor request' host redactedKeys := by
  have hidentity : optionValue request ["signingIdentity", "identity"] =
      optionValue request' ["signingIdentity", "identity"] := optionValue_eq h (by decide)
  have hprofile : optionValue request ["keychainProfile", "notaryKeychainProfile"] =
      optionValue request' ["keychainProfile", "notaryKeychainProfile"] :=
    optionValue_eq h (by decide)
  have hteam : optionValue request ["teamId", "notaryTeamId"] =
      optionValue request' ["teamId", "notaryTeamId"] := optionValue_eq h (by decide)
  rw [credentialParts, credentialParts, hidentity, hprofile, hteam]

/-- The credentials of a request. -/
def Choices.withCredentials (c : Choices) (appleId appleIdPassword : Bytes) : Choices :=
  { c with appleId, appleIdPassword }

theorem choices_eq (h : SameButSecrets request request') (host : AppleRemoteHost) :
    choices request host =
      (choices request' host).withCredentials (choices request host).appleId
        (choices request host).appleIdPassword := by
  have heq : ∀ keys : List String, keys.all (fun key => !secretKeys.contains key) = true →
      optionValue request keys = optionValue request' keys := by
    intro keys hkeys
    refine optionValue_eq h fun key hkey hsecret => ?_
    have hpublic := List.all_eq_true.mp hkeys key hkey
    rw [List.contains_iff_mem.mpr hsecret] at hpublic
    exact Bool.noConfusion hpublic
  have hidentity : optionValue request ["signingIdentity", "identity"] =
      optionValue request' ["signingIdentity", "identity"] := heq _ (by decide)
  have hprofile : optionValue request ["keychainProfile", "notaryKeychainProfile"] =
      optionValue request' ["keychainProfile", "notaryKeychainProfile"] := heq _ (by decide)
  have hteam : optionValue request ["teamId", "notaryTeamId"] =
      optionValue request' ["teamId", "notaryTeamId"] := heq _ (by decide)
  simp only [Choices.withCredentials, choices, hidentity, hprofile, hteam, Choices.mk.injEq,
    true_and]
  repeat' apply And.intro
  all_goals
    first
      | exact resolveAppleWorkingDirectory_eq h
      | exact heq _ (by decide)

/-- The only command that is made of credentials is that of notarization, and whether it is made
is seen from what is there. -/
theorem command_cases (descriptor : GovernanceToolDescriptor) (platform : PlatformTarget)
    (host : AppleRemoteHost) (c : Choices) {appleId appleIdPassword : Bytes}
    (hid : c.appleId = [] ↔ appleId = [])
    (hpassword : c.appleIdPassword = [] ↔ appleIdPassword = []) :
    (∃ refusal, buildAppleOperationalCommand descriptor platform host c = .error refusal ∧
      buildAppleOperationalCommand descriptor platform host
        (c.withCredentials appleId appleIdPassword) = .error refusal) ∨
      ∃ command command', buildAppleOperationalCommand descriptor platform host c = .ok command ∧
        buildAppleOperationalCommand descriptor platform host
          (c.withCredentials appleId appleIdPassword) = .ok command' := by
  have hsame : ∀ outcome : Except Refusal TimedCommand,
      (∃ refusal, outcome = .error refusal ∧ outcome = .error refusal) ∨
        ∃ command command', outcome = .ok command ∧ outcome = .ok command' := by
    intro outcome
    cases outcome with
    | error refusal => exact Or.inl ⟨refusal, rfl, rfl⟩
    | ok command => exact Or.inr ⟨command, command, rfl, rfl⟩
  by_cases hnotarize : descriptor.toolId = "forsetti.macos.notarize"
  · have hcommand : ∀ c : Choices,
        buildAppleOperationalCommand descriptor platform host c = notarizeCommand c := by
      intro c
      rw [buildAppleOperationalCommand, hnotarize]
      rfl
    let c' := c.withCredentials appleId appleIdPassword
    have hmissing : (c.appleId = [] || c.appleIdPassword = [] || c.teamId = []) =
        (c'.appleId = [] || c'.appleIdPassword = [] || c'.teamId = []) := by
      rw [decide_eq_decide.mpr hid, decide_eq_decide.mpr hpassword]
      rfl
    change (∃ refusal, _ = _ ∧ buildAppleOperationalCommand descriptor platform host c' = _) ∨
      ∃ command command', _ = _ ∧ buildAppleOperationalCommand descriptor platform host c' = _
    rw [hcommand, hcommand, notarizeCommand, notarizeCommand]
    by_cases hartifact : c.notarizationArtifactPath = []
    · have hartifact' : c'.notarizationArtifactPath = [] := hartifact
      rw [if_pos hartifact, if_pos hartifact']
      exact hsame _
    · have hartifact' : ¬c'.notarizationArtifactPath = [] := hartifact
      rw [if_neg hartifact, if_neg hartifact']
      by_cases hprofile : c.keychainProfile = []
      · have hprofile' : c'.keychainProfile = [] := hprofile
        rw [if_neg (not_not.mpr hprofile), if_neg (not_not.mpr hprofile'), hmissing]
        split_ifs
        · exact hsame _
        · exact Or.inr ⟨_, _, rfl, rfl⟩
      · have hprofile' : ¬c'.keychainProfile = [] := hprofile
        rw [if_pos hprofile, if_pos hprofile']
        exact Or.inr ⟨_, _, rfl, rfl⟩
  · have hcommand : buildAppleOperationalCommand descriptor platform host
        (c.withCredentials appleId appleIdPassword) =
          buildAppleOperationalCommand descriptor platform host c := by
      rw [buildAppleOperationalCommand, buildAppleOperationalCommand, if_neg hnotarize,
        if_neg hnotarize]
      rfl
    rw [hcommand]
    exact hsame _

/-! ## What is kept -/

theorem runCommand_eq (h : SameButSecrets request request')
    (hs : SameSurroundings request request' s s') (descriptor : GovernanceToolDescriptor)
    (host : AppleRemoteHost) (p : Progress) :
    runCommand s descriptor request host p = runCommand s' descriptor request' host p := by
  have hplatform := h.platform
  have hid : (choices request' host).appleId = [] ↔ (choices request host).appleId = [] :=
    (optionValue_eq_nil_iff h _).symm
  have hpassword : (choices request' host).appleIdPassword = [] ↔
      (choices request host).appleIdPassword = [] := (optionValue_eq_nil_iff h _).symm
  have hcases := command_cases descriptor request'.platform host (choices request' host) hid
    hpassword
  rw [← choices_eq h host, ← hplatform] at hcases
  obtain ⟨refusal, hrefused', hrefused⟩ | ⟨command', command, hcommand', hcommand⟩ := hcases
  · rw [runCommand, runCommand, ← hplatform, hrefused, hrefused']
  · have hremote : s.remote host.hostId command = s'.remote host.hostId command' := by
      refine hs.results descriptor host command command' hcommand ?_
      rw [← hplatform, hcommand']
    rw [runCommand, runCommand, ← hplatform, hcommand, hcommand']
    dsimp only
    rw [hremote]

theorem runOnHost_eq (h : SameButSecrets request request')
    (hs : SameSurroundings request request' s s') (descriptor : GovernanceToolDescriptor)
    (preferredHostId : Bytes) (host : AppleRemoteHost) (p : Progress) :
    runOnHost s descriptor request preferredHostId host p =
      runOnHost s' descriptor request' preferredHostId host p := by
  have hrouted : p.routed s descriptor request preferredHostId host =
      p.routed s' descriptor request' preferredHostId host := by
    have hreason : buildAppleRouteReason request host preferredHostId =
        buildAppleRouteReason request' host preferredHostId := by
      rw [buildAppleRouteReason, buildAppleRouteReason, h.platform]
    have hcredentials : buildAppleOperationCredentialProfileSummary descriptor request host
          p.record.redactedRequestOptionKeys =
        buildAppleOperationCredentialProfileSummary descriptor request' host
          p.record.redactedRequestOptionKeys := by
      rw [buildAppleOperationCredentialProfileSummary,
        buildAppleOperationCredentialProfileSummary, credentialParts_eq h]
    have hclock : s'.runningAtUtc = s.runningAtUtc := by rw [hs.same]
    rw [Progress.routed, Progress.routed, hreason, hcredentials, h.platform, hclock]
  have hdump : s'.dumpHost = s.dumpHost := by rw [hs.same]
  rw [runOnHost, runOnHost, hrouted, hdump, h.platform]
  simp only [runCommand_eq h hs]

theorem executeAppleRemoteTool_eq (h : SameButSecrets request request')
    (hs : SameSurroundings request request' s s') (descriptor : GovernanceToolDescriptor)
    (p : Progress) :
    executeAppleRemoteTool s descriptor request p =
      executeAppleRemoteTool s' descriptor request' p := by
  have hpreferred : optionValue request ["hostId", "preferredHostId"] =
      optionValue request' ["hostId", "preferredHostId"] := optionValue_eq h (by decide)
  have hservice : s'.serviceAvailable = s.serviceAvailable := by rw [hs.same]
  have hinspect : s'.inspectHost = s.inspectHost := by rw [hs.same]
  have hselect : s'.selectHostForPlatform = s.selectHostForPlatform := by rw [hs.same]
  rw [executeAppleRemoteTool, executeAppleRemoteTool, hpreferred, hservice, hinspect, hselect,
    h.platform]
  simp only [runOnHost_eq h hs]

theorem workOff_eq (h : SameButSecrets request request')
    (hs : SameSurroundings request request' s s') (descriptor : GovernanceToolDescriptor)
    (record : AppleOperationRecord) (result : GovernanceToolResult) :
    workOff s descriptor request record result = workOff s' descriptor request' record result := by
  have hclock : s'.completedAtUtc = s.completedAtUtc := by rw [hs.same]
  rw [workOff, workOff, executeAppleRemoteTool_eq h hs, hclock]

theorem queueAppleOperation_eq (h : SameButSecrets request request')
    (hs : SameSurroundings request request' s s') (descriptor : GovernanceToolDescriptor) :
    queueAppleOperation s descriptor request = queueAppleOperation s' descriptor request' := by
  have hid : s'.operationId = s.operationId := by rw [hs.same]
  have hclock : s'.queuedAtUtc = s.queuedAtUtc := by rw [hs.same]
  rw [queueAppleOperation, queueAppleOperation, sanitizeAppleRequestOptions_eq h,
    resolveAppleWorkingDirectory_eq h, findAppleArtifactPath_eq h, h.platform, h.toolId,
    h.targetPath, hid, hclock]

theorem keeps_eq (h : SameButSecrets request request') {fate fate' : Fate}
    (hfate : SameFate request request' fate fate') (descriptor : GovernanceToolDescriptor)
    (record : AppleOperationRecord) :
    fate.keeps descriptor request record = fate'.keeps descriptor request' record := by
  cases hfate with
  | @worked s s' hs =>
    have hclock : s'.startedAtUtc = s.startedAtUtc := by rw [hs.same]
    rw [Fate.keeps, Fate.keeps, h.platform, h.toolId, hclock, workOff_eq h hs]
  | canceled nowUtc => rfl
  | interrupted interruptedAtUtc => rfl

/-- Nothing that is kept or returned depends on the value of a credential. -/
theorem execute_secret_free (notice : QueueNotice) {fate fate' : Fate}
    (h : SameButSecrets request request') (hs : SameSurroundings request request' s s')
    (hfate : SameFate request request' fate fate') :
    execute notice s fate request = execute notice s' fate' request' := by
  have htools : s'.tools = s.tools := by rw [hs.same]
  have haccepting : s'.accepting = s.accepting := by rw [hs.same]
  have hstarted : s'.startedAtUtc = s.startedAtUtc := by rw [hs.same]
  have hcompleted : s'.completedAtUtc = s.completedAtUtc := by rw [hs.same]
  have hwindows : s'.windowsTool = s.windowsTool := by rw [hs.same]
  rw [execute, execute]
  simp only [htools, haccepting, hstarted, hcompleted, hwindows, h.platform, h.toolId,
    resolveTargetRoot_eq h, queueAppleOperation_eq h hs, keeps_eq h hfate, workOff_eq h hs]

/-- A notarization with an Apple ID. -/
def notarization (password : Bytes) : GovernanceToolRequest where
  platform := .macOS
  toolId := "forsetti.macos.notarize"
  targetPath := []
  options :=
    [("appSpecificPassword", password), ("appleId", asciiBytes "builder@example.org"),
      ("artifactPath", asciiBytes "Build/App.zip"), ("teamId", asciiBytes "TEAM")]

/-- One host that accepts what is submitted. -/
def submissionSurroundings : Surroundings where
  tools := [⟨.macOS, "forsetti.macos.notarize", asciiBytes "Notarize", true⟩]
  operationId := ⟨0, 0⟩
  startedAtUtc := asciiBytes "2024-05-01T10:00:00Z"
  queuedAtUtc := asciiBytes "2024-05-01T10:00:00Z"
  runningAtUtc := asciiBytes "2024-05-01T10:00:01Z"
  completedAtUtc := asciiBytes "2024-05-01T10:05:00Z"
  accepting := true
  serviceAvailable := true
  inspectHost := fun _ => none
  selectHostForPlatform := fun _ =>
    some { hostId := asciiBytes "mac", platforms := [.macOS], transport := .ssh }
  dumpHost := fun host => .ok host.hostId
  windowsTool := fun _ _ result => (result, none)
  remote := fun hostId _ =>
    .ok { hostId, transport := .ssh, launched := true, succeeded := true, exitCode := 0,
          stdoutText := asciiBytes "status: Accepted" }

theorem sameButSecrets_notarization {password password' : Bytes} (h : trimCopy password ≠ [])
    (h' : trimCopy password' ≠ []) :
    SameButSecrets (notarization password) (notarization password') where
  platform := rfl
  toolId := rfl
  targetPath := rfl
  options := by
    have hpublic : ∀ option : String × Bytes, option.1 ∉ secretKeys → SameOption option option :=
      fun option hoption => ⟨rfl, by rw [if_neg hoption]⟩
    refine .cons ⟨rfl, ?_⟩ (.cons ⟨rfl, ?_⟩ (.cons (hpublic _ ?_) (.cons (hpublic _ ?_) .nil)))
    · have hsecret : "appSpecificPassword" ∈ secretKeys := by decide
      rw [if_pos hsecret]
      exact ⟨h, h'⟩
    · have hsecret : "appleId" ∈ secretKeys := by decide
      rw [if_pos hsecret]
      exact ⟨by decide +kernel, by decide +kernel⟩
    · decide
    · decide

theorem execute_secret_free_notarization :
    execute (fun _ _ _ => []) submissionSurroundings (.worked submissionSurroundings)
        (notarization (asciiBytes "abcd-efgh")) =
      execute (fun _ _ _ => []) submissionSurroundings (.worked submissionSurroundings)
        (notarization (asciiBytes "ijkl-mnop")) := by
  have hrequests : SameButSecrets (notarization (asciiBytes "abcd-efgh"))
      (notarization (asciiBytes "ijkl-mnop")) :=
    sameButSecrets_notarization (by decide +kernel) (by decide +kernel)
  have hsame : SameSurroundings (notarization (asciiBytes "abcd-efgh"))
      (notarization (asciiBytes "ijkl-mnop")) submissionSurroundings submissionSurroundings :=
    ⟨rfl, fun _ _ _ _ _ _ => rfl⟩
  exact execute_secret_free (fun _ _ _ => []) hrequests hsame (.worked hsame)

end Redaction
end Apple
end MasterControl
