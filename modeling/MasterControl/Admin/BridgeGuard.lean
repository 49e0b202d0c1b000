import MasterControl.Admin.ControlBridge
import Mathlib.Data.List.Infix

/-!
# The confirmation guard of the bridge

Behind the start of a tool only the blocks of its family can admit a path (`Facts`), so that the
text behind the start says alone what is done (`dispatchPath_start`).  For an identifier without
`?` and `#` this text ends as the tool has it; else it is what remains of the identifier
(`landing`).
-/

namespace MasterControl
namespace Admin
namespace ControlBridge

open Foundation

variable {method : Verb} {start text identifier ending : Bytes}

/-! ## The blocks below a start -/

/-- Whether the block can admit a path with this start. -/
def mayAdmit (method : Verb) (start : Bytes) (block : RouteBlock) : Bool :=
  (block.method = none || block.method = some method) && block.condition.mayHold start

theorem mayAdmit_of_admits {block : RouteBlock} (h : block.admits method (start ++ text)) :
    mayAdmit method start block := by
  rw [RouteBlock.admits, Bool.and_eq_true] at h
  rw [mayAdmit, Bool.and_eq_true]
  exact ⟨h.1, RouteCondition.mayHold_of_holds h.2⟩

theorem route_append (method : Verb) (start text : Bytes) :
    route method (start ++ text) =
      (routeBlocks.filter (mayAdmit method start)).find?
        (RouteBlock.admits method (start ++ text)) := by
  rw [route, List.find?_filter]
  congr 1
  funext block
  by_cases hadmits : block.admits method (start ++ text) = true
  · rw [hadmits, mayAdmit_of_admits hadmits]
    rfl
  · rw [Bool.not_eq_true] at hadmits
    rw [hadmits]
    simp only [Bool.false_eq_true, and_false, decide_false]

def closingBlock (method : Verb) (start : Bytes) (entry : Bytes × Action) : RouteBlock :=
  ⟨some method, .closing start entry.1, true⟩

def plainTools : List PlainTool :=
  [.health, .dashboard, .gatewayStatus, .gatewayHealth, .gatewayTools, .poolsList,
   .telemetryEvents, .telemetryClients, .telemetryGateway, .discovery, .governanceApprovals,
   .clientsList, .configGet, .activity, .forsettiModules, .diagnosticsSummary, .diagnosticsEvents,
   .diagnosticsSelfTest, .diagnosticsExportMarkdown, .diagnosticsExportJson, .diagnosticsClear,
   .configUpdate, .telemetryHeartbeat, .poolUpsert, .gatewayStart, .gatewayStop, .clientRegister,
   .forsettiModuleEnable, .forsettiModuleDisable, .serviceStatus, .logsTail, .firewallCheck,
   .dnsSdCheck]

def namedTools : List NamedTool :=
  [.poolGet, .poolLeases, .poolSaturation, .onboarding, .governanceBundle, .poolScale, .poolDrain,
   .poolRemove, .leaseAcquire, .leaseRelease, .governanceApprove, .governanceReject,
   .clientPrivileges, .clientEnable, .clientDisable]

theorem mem_plainTools (tool : PlainTool) : tool ∈ plainTools := by
  cases tool <;> decide

theorem mem_namedTools (tool : NamedTool) : tool ∈ namedTools := by
  cases tool <;> decide

/-- Neither `?` nor `#`, and nothing that `urllib` refuses. -/
def plainText (text : Bytes) : Bool :=
  text.all fun b => sendableByte b && b ≠ questionMark && b ≠ hash

/-- What is evaluated of the blocks and the tools. -/
structure Facts : Type where
  pool_reads : routeBlocks.filter (mayAdmit .get poolsStart) =
    [⟨some .get, .under poolsStart, false⟩]
  pool_actions : routeBlocks.filter (mayAdmit .post poolsStart) =
    [⟨some .post, .under poolsStart, false⟩]
  leases : routeBlocks.filter (mayAdmit .post leasesStart) =
    [⟨some .post, .under leasesStart, false⟩]
  profiles : routeBlocks.filter (mayAdmit .get onboardingStart) =
    [⟨some .get, .under onboardingStart, false⟩]
  bundles : routeBlocks.filter (mayAdmit .get bundlesStart) =
    [⟨some .get, .under bundlesStart, false⟩]
  clients : routeBlocks.filter (mayAdmit .post lanClientsStart) =
    clientEndings.map (closingBlock .post lanClientsStart)
  approvals : routeBlocks.filter (mayAdmit .post approvalsStart) =
    approvalEndings.map (closingBlock .post approvalsStart) ++
      [⟨some .post, .under approvalsStart, false⟩]
  handler_poolRead : handlerOf ⟨some .get, .under poolsStart, false⟩ = .poolRead
  handler_poolAction : handlerOf ⟨some .post, .under poolsStart, false⟩ = .poolAction
  handler_lease : handlerOf ⟨some .post, .under leasesStart, false⟩ = .lease
  handler_profile : handlerOf ⟨some .get, .under onboardingStart, false⟩ = .tail .profile
  handler_bundle : handlerOf ⟨some .get, .under bundlesStart, false⟩ = .tail .bundle
  handler_client : ∀ entry ∈ clientEndings,
    handlerOf (closingBlock .post lanClientsStart entry) = .between entry.2
  handler_approval : ∀ entry ∈ approvalEndings,
    handlerOf (closingBlock .post approvalsStart entry) = .between entry.2
  handler_otherApproval : handlerOf ⟨some .post, .under approvalsStart, false⟩ = .turnsAway
  named_plain : ∀ tool ∈ namedTools,
    plainText tool.template.start && plainText tool.template.ending
  spared : ∀ tool ∈ plainTools, ∀ template ∈ tool.template,
    plainText template.path ∧ (template.guarded = false →
      destroys template.moduleAction (dispatchPath template.method template.path) = false)
  index_spared : plainText (literal "/api/onboarding") ∧
    destroys none (dispatchPath .get (literal "/api/onboarding")) = false
  destroyed_guarded : ∀ tool ∈ namedTools, tool.template.guarded = false →
    destroys none (.acts tool.template.action []) = false

def facts : Facts where
  pool_reads := by decide +kernel
  pool_actions := by decide +kernel
  leases := by decide +kernel
  profiles := by decide +kernel
  bundles := by decide +kernel
  clients := by decide +kernel
  approvals := by decide +kernel
  handler_poolRead := by decide +kernel
  handler_poolAction := by decide +kernel
  handler_lease := by decide +kernel
  handler_profile := by decide +kernel
  handler_bundle := by decide +kernel
  handler_client := by decide +kernel
  handler_approval := by decide +kernel
  handler_otherApproval := by decide +kernel
  named_plain := by decide +kernel
  spared := by decide +kernel
  index_spared := by decide +kernel
  destroyed_guarded := by decide +kernel

/-! ## The text behind the start -/

theorem dispatchPath_under {block : RouteBlock}
    (hblocks : routeBlocks.filter (mayAdmit method start) = [block])
    (hblock : block = ⟨some method, .under start, false⟩) (text : Bytes) :
    dispatchPath method (start ++ text) = handle (start ++ text) block := by
  have hadmits : block.admits method (start ++ text) = true := by
    rw [hblock, RouteBlock.admits, Bool.and_eq_true]
    exact ⟨by simp only [decide_true, Bool.or_true],
      List.isPrefixOf_iff_prefix.mpr (List.prefix_append start text)⟩
  rw [dispatchPath, route_append, hblocks, List.find?_cons_of_pos hadmits]

/-- What the server does behind a start below which the ending says the action. -/
def handleBetween (start : Bytes) (endings : List (Bytes × Action)) (text : Bytes) : Handling :=
  match endings.find? fun entry => entry.1.isSuffixOf (start ++ text) with
  | some entry => .acts entry.2 (textBetween (start ++ text) start entry.1)
  | none => .refused

theorem admits_closingBlock (method : Verb) (start text : Bytes) (entry : Bytes × Action) :
    (closingBlock method start entry).admits method (start ++ text) =
      entry.1.isSuffixOf (start ++ text) := by
  have hprefix : start.isPrefixOf (start ++ text) = true :=
    List.isPrefixOf_iff_prefix.mpr (List.prefix_append start text)
  simp only [RouteBlock.admits, closingBlock, RouteCondition.holds, hprefix, decide_true,
    Bool.or_true, Bool.true_and]

theorem dispatchPath_closings {endings : List (Bytes × Action)} {last : List RouteBlock}
    (hblocks : routeBlocks.filter (mayAdmit method start) =
      endings.map (closingBlock method start) ++ last)
    (hhandlers : ∀ entry ∈ endings, handlerOf (closingBlock method start entry) = .between entry.2)
    (hlast : ∀ block ∈ last, handlerOf block = .turnsAway) (text : Bytes) :
    dispatchPath method (start ++ text) = handleBetween start endings text := by
  have hadmits : (RouteBlock.admits method (start ++ text)) ∘ closingBlock method start =
      fun entry => entry.1.isSuffixOf (start ++ text) :=
    funext (admits_closingBlock method start text)
  rw [dispatchPath, route_append, hblocks, List.find?_append, List.find?_map, hadmits,
    handleBetween]
  cases hfound : endings.find? fun entry => entry.1.isSuffixOf (start ++ text) with
  | some entry =>
    rw [Option.map_some, Option.some_or]
    simp only [handle, hhandlers entry (List.mem_of_find?_eq_some hfound)]
    rfl
  | none =>
    rw [Option.map_none, Option.none_or]
    cases hother : last.find? (RouteBlock.admits method (start ++ text)) with
    | some block => simp only [handle, hlast block (List.mem_of_find?_eq_some hother)]
    | none => rfl

/-- What the server does with the text behind the start of a tool. -/
def NamedTool.behind (tool : NamedTool) (text : Bytes) : Handling :=
  match tool with
  | .poolGet | .poolLeases | .poolSaturation => handlePoolRead text
  | .onboarding => .acts .profile text
  | .governanceBundle => .acts .bundle text
  | .poolScale | .poolDrain | .poolRemove | .leaseAcquire => handlePoolAction text
  | .leaseRelease => handleLease text
  | .governanceApprove | .governanceReject => handleBetween approvalsStart approvalEndings text
  | .clientPrivileges | .clientEnable | .clientDisable =>
    handleBetween lanClientsStart clientEndings text

theorem dispatchPath_start (tool : NamedTool) (text : Bytes) :
    dispatchPath tool.template.method (tool.template.start ++ text) = tool.behind text := by
  have hreads : dispatchPath .get (poolsStart ++ text) = handlePoolRead text := by
    rw [dispatchPath_under facts.pool_reads rfl, handle]
    simp only [facts.handler_poolRead, RouteBlock.around, List.drop_left]
  have hactions : dispatchPath .post (poolsStart ++ text) = handlePoolAction text := by
    rw [dispatchPath_under facts.pool_actions rfl, handle]
    simp only [facts.handler_poolAction, RouteBlock.around, List.drop_left]
  have hleases : dispatchPath .post (leasesStart ++ text) = handleLease text := by
    rw [dispatchPath_under facts.leases rfl, handle]
    simp only [facts.handler_lease, RouteBlock.around, List.drop_left]
  have hprofiles : dispatchPath .get (onboardingStart ++ text) = .acts .profile text := by
    rw [dispatchPath_under facts.profiles rfl, handle]
    simp only [facts.handler_profile, RouteBlock.around, List.drop_left]
  have hbundles : dispatchPath .get (bundlesStart ++ text) = .acts .bundle text := by
    rw [dispatchPath_under facts.bundles rfl, handle]
    simp only [facts.handler_bundle, RouteBlock.around, List.drop_left]
  have hclients : dispatchPath .post (lanClientsStart ++ text) =
      handleBetween lanClientsStart clientEndings text :=
    dispatchPath_closings (facts.clients.trans (List.append_nil _).symm) facts.handler_client
      (List.forall_mem_nil _) text
  have happrovals : dispatchPath .post (approvalsStart ++ text) =
      handleBetween approvalsStart approvalEndings text :=
    dispatchPath_closings facts.approvals facts.handler_approval
      (List.forall_mem_singleton.mpr facts.handler_otherApproval) text
  cases tool
  case poolGet | poolLeases | poolSaturation => exact hreads
  case poolScale | poolDrain | poolRemove | leaseAcquire => exact hactions
  case leaseRelease => exact hleases
  case onboarding => exact hprofiles
  case governanceBundle => exact hbundles
  case clientPrivileges | clientEnable | clientDisable => exact hclients
  case governanceApprove | governanceReject => exact happrovals

/-! ## The first slash -/

theorem beforeSlash_append_slash (h : slash ∉ text) (name : Bytes) :
    beforeSlash (text ++ slash :: name) = text := by
  rw [beforeSlash, List.takeWhile_append_of_pos]
  · rw [List.takeWhile_cons_of_neg (by simp), List.append_nil]
  · intro b hb
    exact decide_eq_true (fun heq => h (heq ▸ hb))

theorem afterSlash_append_slash (h : slash ∉ text) (name : Bytes) :
    afterSlash (text ++ slash :: name) = some name := by
  have hcontains : (text ++ slash :: name).contains slash = true :=
    List.contains_iff_mem.mpr (List.mem_append_right _ List.mem_cons_self)
  rw [afterSlash, if_pos hcontains, List.dropWhile_append_of_pos]
  · rw [List.dropWhile_cons_of_neg (by simp), List.tail_cons]
  · intro b hb
    exact decide_eq_true (fun heq => h (heq ▸ hb))

theorem afterSlash_of_notMem (h : slash ∉ text) : afterSlash text = none := by
  rw [afterSlash, if_neg]
  rwa [List.contains_iff_mem]

/-- The text behind the first slash goes on to the end. -/
theorem exists_afterSlash_append (h : slash ∈ text) :
    ∃ rest, ∀ other, afterSlash (text ++ other) = some (rest ++ other) := by
  obtain ⟨before, rest, rfl, hbefore⟩ := List.eq_append_cons_of_mem h
  refine ⟨rest, fun other => ?_⟩
  rw [List.append_assoc, List.cons_append]
  exact afterSlash_append_slash hbefore _

/-- Behind a slash in the identifier, no name without a slash is left. -/
theorem afterSlash_append_ne {name other : Bytes} (h : slash ∈ text) (hother : slash ∉ other) :
    afterSlash (text ++ slash :: name) ≠ some other := by
  obtain ⟨rest, hrest⟩ := exists_afterSlash_append h
  rw [hrest]
  intro heq
  refine hother ?_
  rw [← Option.some.inj heq]
  exact List.mem_append_right _ List.mem_cons_self

/-! ## What the handlers refuse -/

theorem acts_ne_refused (action : Action) (identifier : Bytes) :
    Handling.acts action identifier ≠ .refused :=
  fun h => Handling.noConfusion h

theorem handlePoolRead_eq_refused_iff :
    handlePoolRead text = .refused ↔ namesPoolRead text = false := by
  rw [handlePoolRead, namesPoolRead]
  generalize (afterSlash text).getD [] = sub
  rw [← Bool.not_eq_true, List.contains_iff_mem, List.mem_cons, List.mem_pair, not_or, not_or]
  by_cases hleases : sub = literal "leases"
  · rw [if_pos hleases]
    exact iff_of_false (acts_ne_refused _ _) fun h => h.2.1 hleases
  · rw [if_neg hleases]
    by_cases hsaturation : sub = literal "saturation"
    · rw [if_pos hsaturation]
      exact iff_of_false (acts_ne_refused _ _) fun h => h.2.2 hsaturation
    · rw [if_neg hsaturation]
      by_cases hempty : sub = []
      · rw [if_neg (not_not.mpr hempty)]
        exact iff_of_false (acts_ne_refused _ _) fun h => h.1 hempty
      · rw [if_pos hempty]
        exact iff_of_true rfl ⟨hempty, hleases, hsaturation⟩

theorem handlePoolAction_eq_refused_iff :
    handlePoolAction text = .refused ↔
      (poolActions.any fun entry => afterSlash text = some entry.1) = false := by
  rw [handlePoolAction, List.any_eq_false]
  cases hfound : poolActions.find? fun entry => some entry.1 = afterSlash text with
  | some entry =>
    have hmatches := List.find?_some hfound
    rw [decide_eq_true_eq] at hmatches
    refine iff_of_false (acts_ne_refused _ _) fun hnone =>
      hnone entry (List.mem_of_find?_eq_some hfound) ?_
    exact decide_eq_true hmatches.symm
  | none =>
    refine iff_of_true rfl fun entry hentry heq => ?_
    rw [decide_eq_true_eq] at heq
    exact List.find?_eq_none.mp hfound entry hentry (decide_eq_true heq.symm)

theorem handleBetween_eq_refused_iff {endings : List (Bytes × Action)} :
    handleBetween start endings text = .refused ↔
      (endings.any fun entry => entry.1.isSuffixOf (start ++ text)) = false := by
  rw [handleBetween, List.any_eq_false]
  cases hfound : endings.find? fun entry => entry.1.isSuffixOf (start ++ text) with
  | some entry =>
    have hmatches := List.find?_some hfound
    exact iff_of_false (acts_ne_refused _ _) fun hnone =>
      hnone entry (List.mem_of_find?_eq_some hfound) hmatches
  | none => exact iff_of_true rfl (List.find?_eq_none.mp hfound)

theorem NamedTool.behind_eq_refused_iff (tool : NamedTool) (text : Bytes) :
    tool.behind text = .refused ↔ tool.namesAction text = false := by
  cases tool
  case poolGet | poolLeases | poolSaturation => exact handlePoolRead_eq_refused_iff
  case onboarding | governanceBundle => exact iff_of_false (acts_ne_refused _ _) Bool.noConfusion
  case poolScale | poolDrain | poolRemove | leaseAcquire =>
    exact handlePoolAction_eq_refused_iff
  case leaseRelease =>
    simp only [NamedTool.behind, NamedTool.namesAction, handleLease, decide_eq_false_iff_not]
    by_cases hrelease : afterSlash text = some (literal "release")
    · rw [if_pos hrelease]
      exact iff_of_false (acts_ne_refused _ _) fun h => h hrelease
    · rw [if_neg hrelease]
      exact iff_of_true rfl hrelease
  case governanceApprove | governanceReject | clientPrivileges | clientEnable | clientDisable =>
    exact handleBetween_eq_refused_iff

/-! ## What the handlers act on -/

theorem length_textBetween_le (start text ending : Bytes) :
    (textBetween (start ++ text) start ending).length ≤ text.length := by
  rw [textBetween, List.drop_left]
  split
  · rw [List.length_take]
    exact min_le_right _ _
  · exact le_rfl

theorem length_beforeSlash_le (text : Bytes) : (beforeSlash text).length ≤ text.length :=
  (List.takeWhile_prefix _).length_le

/-- No handler acts on more than it is given. -/
theorem NamedTool.length_le_of_behind {tool : NamedTool} {action : Action}
    (h : tool.behind text = .acts action identifier) : identifier.length ≤ text.length := by
  have hread : handlePoolRead text = .acts action identifier → identifier = beforeSlash text := by
    intro hread
    rw [handlePoolRead] at hread
    split_ifs at hread <;> exact (Handling.acts.inj hread).2.symm
  have haction : handlePoolAction text = .acts action identifier →
      identifier = beforeSlash text := by
    intro haction
    rw [handlePoolAction] at haction
    split at haction
    · exact (Handling.acts.inj haction).2.symm
    · exact absurd haction.symm (acts_ne_refused _ _)
  have hbetween : ∀ start endings, handleBetween start endings text = .acts action identifier →
      identifier.length ≤ text.length := by
    intro start endings hbetween
    rw [handleBetween] at hbetween
    split at hbetween
    · rw [← (Handling.acts.inj hbetween).2]
      exact length_textBetween_le _ _ _
    · exact absurd hbetween.symm (acts_ne_refused _ _)
  cases tool
  case poolGet | poolLeases | poolSaturation =>
    rw [hread h]
    exact length_beforeSlash_le text
  case poolScale | poolDrain | poolRemove | leaseAcquire =>
    rw [haction h]
    exact length_beforeSlash_le text
  case onboarding | governanceBundle => exact (Handling.acts.inj h).2 ▸ le_rfl
  case leaseRelease =>
    simp only [NamedTool.behind, handleLease] at h
    split_ifs at h
    rw [← (Handling.acts.inj h).2]
    exact length_beforeSlash_le text
  case governanceApprove | governanceReject | clientPrivileges | clientEnable | clientDisable =>
    exact hbetween _ _ h

/-! ## Identifiers whose ending arrives -/

/-- The names of the pool actions and reads hold no slash, and no ending is part of another. -/
structure NameFacts : Type where
  poolActions_noSlash : ∀ entry ∈ poolActions, entry.1.contains slash = false
  poolActions_inj : ∀ entry ∈ poolActions, ∀ other ∈ poolActions, other.1 = entry.1 →
    other = entry
  poolReads_noSlash : ∀ name ∈ [[], literal "leases", literal "saturation"],
    name.contains slash = false
  release_noSlash : (literal "release").contains slash = false
  clientEndings_apart : ∀ entry ∈ clientEndings, ∀ other ∈ clientEndings,
    other.1.isSuffixOf entry.1 || entry.1.isSuffixOf other.1 → other = entry
  approvalEndings_apart : ∀ entry ∈ approvalEndings, ∀ other ∈ approvalEndings,
    other.1.isSuffixOf entry.1 || entry.1.isSuffixOf other.1 → other = entry
  ending_pool : ∀ entry ∈ [(NamedTool.poolScale, literal "scale"), (.poolDrain, literal "drain"),
      (.poolRemove, literal "remove"), (.leaseAcquire, literal "leases")],
    entry.1.template.ending = slash :: entry.2 ∧
      (entry.2, entry.1.template.action) ∈ poolActions
  ending_client : ∀ tool ∈ [NamedTool.clientDisable, .clientEnable, .clientPrivileges],
    (tool.template.ending, tool.template.action) ∈ clientEndings
  ending_approval : ∀ tool ∈ [NamedTool.governanceApprove, .governanceReject],
    (tool.template.ending, tool.template.action) ∈ approvalEndings
  ending_leases : literal "/leases" = slash :: literal "leases"
  ending_saturation : literal "/saturation" = slash :: literal "saturation"
  ending_release : literal "/release" = slash :: literal "release"
  saturation_ne : literal "saturation" ≠ literal "leases"
  leases_ne_nil : [] ≠ literal "leases"
  saturation_ne_nil : [] ≠ literal "saturation"

def nameFacts : NameFacts where
  poolActions_noSlash := by decide +kernel
  poolActions_inj := by decide +kernel
  poolReads_noSlash := by decide +kernel
  release_noSlash := by decide +kernel
  clientEndings_apart := by decide +kernel
  approvalEndings_apart := by decide +kernel
  ending_pool := by decide +kernel
  ending_client := by decide +kernel
  ending_approval := by decide +kernel
  ending_leases := by decide +kernel
  ending_saturation := by decide +kernel
  ending_release := by decide +kernel
  saturation_ne := by decide +kernel
  leases_ne_nil := by decide +kernel
  saturation_ne_nil := by decide +kernel

theorem notMem_of_contains {name : Bytes} (h : name.contains slash = false) : slash ∉ name := by
  rwa [← Bool.not_eq_true, List.contains_iff_mem] at h

theorem handlePoolRead_of_slash (h : slash ∈ text) (name : Bytes) :
    handlePoolRead (text ++ slash :: name) = .refused := by
  obtain ⟨rest, hrest⟩ := exists_afterSlash_append h
  rw [handlePoolRead_eq_refused_iff, namesPoolRead, hrest, Option.getD_some, ← Bool.not_eq_true,
    List.contains_iff_mem]
  intro hmem
  exact notMem_of_contains (nameFacts.poolReads_noSlash _ hmem)
    (List.mem_append_right _ List.mem_cons_self)

theorem handlePoolAction_of_slash (h : slash ∈ text) (name : Bytes) :
    handlePoolAction (text ++ slash :: name) = .refused := by
  rw [handlePoolAction_eq_refused_iff, List.any_eq_false]
  intro entry hentry
  rw [decide_eq_true_eq]
  exact afterSlash_append_ne h (notMem_of_contains (nameFacts.poolActions_noSlash entry hentry))

theorem handlePoolAction_append {entry : Bytes × Action} (hentry : entry ∈ poolActions)
    (h : slash ∉ text) :
    handlePoolAction (text ++ slash :: entry.1) = .acts entry.2 text := by
  rw [handlePoolAction, afterSlash_append_slash h, beforeSlash_append_slash h]
  cases hfound : poolActions.find? fun other => some other.1 = some entry.1 with
  | none => exact absurd (decide_eq_true rfl) (List.find?_eq_none.mp hfound entry hentry)
  | some other =>
    have hname := List.find?_some hfound
    rw [decide_eq_true_eq, Option.some.injEq] at hname
    rw [nameFacts.poolActions_inj entry hentry other (List.mem_of_find?_eq_some hfound) hname]

/-- A path that ends as its tool has it is read as the tool means it. -/
theorem handleBetween_append {endings : List (Bytes × Action)}
    (hapart : ∀ entry ∈ endings, ∀ other ∈ endings,
      other.1.isSuffixOf entry.1 || entry.1.isSuffixOf other.1 → other = entry)
    {entry : Bytes × Action} (hentry : entry ∈ endings) (start identifier : Bytes) :
    handleBetween start endings (identifier ++ entry.1) = .acts entry.2 identifier := by
  have hends : entry.1 <:+ start ++ (identifier ++ entry.1) :=
    ⟨start ++ identifier, List.append_assoc _ _ _⟩
  rw [handleBetween]
  cases hfound : endings.find? fun other =>
      other.1.isSuffixOf (start ++ (identifier ++ entry.1)) with
  | none =>
    exact absurd (List.isSuffixOf_iff_suffix.mpr hends) (List.find?_eq_none.mp hfound entry hentry)
  | some other =>
    have hother := List.find?_some hfound
    rw [List.isSuffixOf_iff_suffix] at hother
    have hcomparable : other.1.isSuffixOf entry.1 || entry.1.isSuffixOf other.1 := by
      rw [Bool.or_eq_true, List.isSuffixOf_iff_suffix, List.isSuffixOf_iff_suffix]
      exact List.suffix_or_suffix_of_suffix hother hends
    rw [hapart entry hentry other (List.mem_of_find?_eq_some hfound) hcomparable]
    have hlength : start.length + entry.1.length ≤
        (start ++ (identifier ++ entry.1)).length := by
      simp only [List.length_append]
      omega
    have hcount : (start ++ (identifier ++ entry.1)).length - start.length - entry.1.length =
        identifier.length := by
      simp only [List.length_append]
      omega
    simp only [textBetween]
    rw [if_pos hlength, hcount, List.drop_left, List.take_left]

theorem handlePoolAction_ending (entry : NamedTool × Bytes)
    (hentry : entry ∈ [(NamedTool.poolScale, literal "scale"), (.poolDrain, literal "drain"),
      (.poolRemove, literal "remove"), (.leaseAcquire, literal "leases")])
    (identifier : Bytes) :
    handlePoolAction (identifier ++ entry.1.template.ending) = .refused ∨
      handlePoolAction (identifier ++ entry.1.template.ending) =
        .acts entry.1.template.action identifier := by
  obtain ⟨hending, hmem⟩ := nameFacts.ending_pool entry hentry
  rw [hending]
  by_cases hslash : slash ∈ identifier
  · exact Or.inl (handlePoolAction_of_slash hslash _)
  · exact Or.inr (handlePoolAction_append hmem hslash)

theorem handleBetween_client (tool : NamedTool)
    (htool : tool ∈ [NamedTool.clientDisable, .clientEnable, .clientPrivileges])
    (identifier : Bytes) :
    handleBetween lanClientsStart clientEndings (identifier ++ tool.template.ending) =
      .acts tool.template.action identifier := by
  have hentry := nameFacts.ending_client tool htool
  exact handleBetween_append nameFacts.clientEndings_apart hentry lanClientsStart identifier

theorem handleBetween_approval (tool : NamedTool)
    (htool : tool ∈ [NamedTool.governanceApprove, .governanceReject]) (identifier : Bytes) :
    handleBetween approvalsStart approvalEndings (identifier ++ tool.template.ending) =
      .acts tool.template.action identifier := by
  have hentry := nameFacts.ending_approval tool htool
  exact handleBetween_append nameFacts.approvalEndings_apart hentry approvalsStart identifier

/-- An identifier whose ending arrives is refused or acted on as the tool says. -/
theorem NamedTool.behind_append_ending {tool : NamedTool} (htool : tool ≠ .poolGet)
    (identifier : Bytes) :
    tool.behind (identifier ++ tool.template.ending) = .refused ∨
      tool.behind (identifier ++ tool.template.ending) =
        .acts tool.template.action identifier := by
  cases tool
  case poolGet => exact absurd rfl htool
  case poolLeases =>
    simp only [NamedTool.behind, NamedTool.template, nameFacts.ending_leases]
    by_cases hslash : slash ∈ identifier
    · exact Or.inl (handlePoolRead_of_slash hslash _)
    · right
      rw [handlePoolRead, afterSlash_append_slash hslash, beforeSlash_append_slash hslash,
        Option.getD_some, if_pos rfl]
  case poolSaturation =>
    simp only [NamedTool.behind, NamedTool.template, nameFacts.ending_saturation]
    by_cases hslash : slash ∈ identifier
    · exact Or.inl (handlePoolRead_of_slash hslash _)
    · right
      rw [handlePoolRead, afterSlash_append_slash hslash, beforeSlash_append_slash hslash,
        Option.getD_some, if_neg nameFacts.saturation_ne, if_pos rfl]
  case onboarding | governanceBundle =>
    right
    simp only [NamedTool.behind, NamedTool.template, List.append_nil]
  case poolScale =>
    exact handlePoolAction_ending (.poolScale, literal "scale") (by decide +kernel) identifier
  case poolDrain =>
    exact handlePoolAction_ending (.poolDrain, literal "drain") (by decide +kernel) identifier
  case poolRemove =>
    exact handlePoolAction_ending (.poolRemove, literal "remove") (by decide +kernel) identifier
  case leaseAcquire =>
    exact handlePoolAction_ending (.leaseAcquire, literal "leases") (by decide +kernel) identifier
  case leaseRelease =>
    simp only [NamedTool.behind, NamedTool.template, nameFacts.ending_release]
    by_cases hslash : slash ∈ identifier
    · left
      rw [handleLease, if_neg]
      exact afterSlash_append_ne hslash (notMem_of_contains nameFacts.release_noSlash)
    · right
      rw [handleLease, if_pos (afterSlash_append_slash hslash _), beforeSlash_append_slash hslash]
  case governanceApprove =>
    exact Or.inr (handleBetween_approval .governanceApprove (by decide) identifier)
  case governanceReject =>
    exact Or.inr (handleBetween_approval .governanceReject (by decide) identifier)
  case clientPrivileges =>
    exact Or.inr (handleBetween_client .clientPrivileges (by decide) identifier)
  case clientEnable => exact Or.inr (handleBetween_client .clientEnable (by decide) identifier)
  case clientDisable => exact Or.inr (handleBetween_client .clientDisable (by decide) identifier)

/-! ## What arrives -/

theorem dropFragment_of_notMem (h : hash ∉ text) : dropFragment text = text := by
  induction text with
  | nil => rfl
  | cons b rest ih =>
    rw [List.mem_cons, not_or] at h
    have hb : (b = hash && !rest.contains hash) = false := by
      rw [decide_eq_false (fun heq => h.1 heq.symm), Bool.false_and]
    rw [dropFragment, hb, if_neg Bool.false_ne_true, ih h.2]

theorem dropFragment_append_of_mem (start : Bytes) (h : hash ∈ text) :
    dropFragment (start ++ text) = start ++ dropFragment text := by
  induction start with
  | nil => rfl
  | cons b start ih =>
    have hlater : (start ++ text).contains hash = true :=
      List.contains_iff_mem.mpr (List.mem_append_right _ h)
    rw [List.cons_append, dropFragment, hlater, Bool.not_true, Bool.and_false,
      if_neg Bool.false_ne_true, ih, List.cons_append]

theorem dropFragment_append_of_notMem (h : hash ∈ text) (hending : hash ∉ ending) :
    dropFragment (text ++ ending) = dropFragment text := by
  induction text with
  | nil => exact absurd h List.not_mem_nil
  | cons b rest ih =>
    have hcontains : (rest ++ ending).contains hash = rest.contains hash := by
      rw [Bool.eq_iff_iff, List.contains_iff_mem, List.contains_iff_mem, List.mem_append]
      exact or_iff_left hending
    rw [List.cons_append, dropFragment, dropFragment, hcontains]
    by_cases hrest : hash ∈ rest
    · rw [ih hrest]
    · have hb : b = hash := ((List.mem_cons.mp h).resolve_right hrest).symm
      have hlast : (b = hash && !rest.contains hash) = true := by
        rw [decide_eq_true hb, Bool.true_and, Bool.not_eq_true', ← Bool.not_eq_true,
          List.contains_iff_mem]
        exact hrest
      rw [if_pos hlast, if_pos hlast]

theorem length_dropFragment_lt (h : hash ∈ text) : (dropFragment text).length < text.length := by
  induction text with
  | nil => exact absurd h List.not_mem_nil
  | cons b rest ih =>
    rw [dropFragment]
    split_ifs with hlast
    · exact Nat.succ_pos _
    · have hrest : hash ∈ rest := by
        by_contra hrest
        refine hlast ?_
        rw [decide_eq_true ((List.mem_cons.mp h).resolve_right hrest).symm, Bool.true_and,
          Bool.not_eq_true', ← Bool.not_eq_true, List.contains_iff_mem]
        exact hrest
      exact Nat.succ_lt_succ (ih hrest)

theorem length_remains_lt (h : questionMark ∈ identifier ∨ hash ∈ identifier) :
    (remains identifier).length < identifier.length := by
  by_cases hhash : hash ∈ identifier
  · calc (remains identifier).length
        ≤ (dropFragment identifier).length := (List.takeWhile_prefix _).length_le
      _ < identifier.length := length_dropFragment_lt hhash
  · rw [remains, dropFragment_of_notMem hhash]
    exact length_takeWhile_ne_lt (h.resolve_right hhash)

theorem plainText_notMem (h : plainText text) : questionMark ∉ text ∧ hash ∉ text := by
  rw [plainText, List.all_eq_true] at h
  constructor
  · intro hmem
    exact absurd (h _ hmem) (by decide)
  · intro hmem
    exact absurd (h _ hmem) (by decide)

theorem plainText_sendable (h : plainText text) : text.all sendableByte := by
  rw [plainText, List.all_eq_true] at h
  rw [List.all_eq_true]
  intro b hb
  exact (Bool.and_eq_true _ _ ▸ (Bool.and_eq_true _ _ ▸ h b hb).1).1

/-- The identifier says itself where the path ends. -/
def cutsPath (identifier : Bytes) : Bool :=
  identifier.contains questionMark || identifier.contains hash

theorem cutsPath_iff : cutsPath identifier ↔ questionMark ∈ identifier ∨ hash ∈ identifier := by
  rw [cutsPath, Bool.or_eq_true, List.contains_iff_mem, List.contains_iff_mem]

/-- What the server sees behind the start. -/
def NamedTool.landing (tool : NamedTool) (identifier : Bytes) : Bytes :=
  if cutsPath identifier then remains identifier else identifier ++ tool.template.ending

theorem NamedTool.plain_template (tool : NamedTool) :
    plainText tool.template.start ∧ plainText tool.template.ending :=
  (Bool.and_eq_true _ _).mp (facts.named_plain tool (mem_namedTools tool))

theorem NamedTool.dropFragment_target (tool : NamedTool) (identifier : Bytes) :
    dropFragment (tool.requestFor identifier).target =
      if hash ∈ identifier then tool.template.start ++ dropFragment identifier
      else tool.template.start ++ (identifier ++ tool.template.ending) := by
  have hstart := (plainText_notMem tool.plain_template.1).2
  have hending := (plainText_notMem tool.plain_template.2).2
  rw [NamedTool.requestFor]
  by_cases hhash : hash ∈ identifier
  · rw [if_pos hhash, dropFragment_append_of_mem _ (List.mem_append_left _ hhash),
      dropFragment_append_of_notMem hhash hending]
  · rw [if_neg hhash, dropFragment_of_notMem]
    rw [List.mem_append, List.mem_append, not_or, not_or]
    exact ⟨hstart, hhash, hending⟩

theorem NamedTool.sendable_target (tool : NamedTool) (identifier : Bytes) :
    (dropFragment (tool.requestFor identifier).target).all sendableByte =
      (dropFragment identifier).all sendableByte := by
  have hstart := plainText_sendable tool.plain_template.1
  have hending := plainText_sendable tool.plain_template.2
  rw [tool.dropFragment_target]
  by_cases hhash : hash ∈ identifier
  · rw [if_pos hhash, List.all_append, hstart, Bool.true_and]
  · rw [if_neg hhash, List.all_append, List.all_append, hstart, hending, Bool.true_and,
      Bool.and_true, dropFragment_of_notMem hhash]

theorem NamedTool.path_target (tool : NamedTool) (identifier : Bytes) :
    (dropFragment (tool.requestFor identifier).target).takeWhile (· ≠ questionMark) =
      tool.template.start ++ tool.landing identifier := by
  have hstart := (plainText_notMem tool.plain_template.1).1
  have hending := (plainText_notMem tool.plain_template.2).1
  rw [tool.dropFragment_target, NamedTool.landing]
  by_cases hhash : hash ∈ identifier
  · rw [if_pos hhash, if_pos (cutsPath_iff.mpr (Or.inr hhash)), takeWhile_ne_append hstart,
      remains]
  · rw [if_neg hhash, takeWhile_ne_append hstart]
    by_cases hquery : questionMark ∈ identifier
    · rw [if_pos (cutsPath_iff.mpr (Or.inl hquery)), takeWhile_ne_append_of_mem hquery, remains,
        dropFragment_of_notMem hhash]
    · have hcuts : ¬ cutsPath identifier = true := by
        rw [cutsPath_iff, not_or]
        exact ⟨hquery, hhash⟩
      have hmark : questionMark ∉ identifier ++ tool.template.ending := by
        rw [List.mem_append, not_or]
        exact ⟨hquery, hending⟩
      rw [if_neg hcuts, takeWhile_ne_eq_self_iff.mpr hmark]

/-- What is sent for an identifier, and what is done with it. -/
theorem NamedTool.urlopen_requestFor (tool : NamedTool) (identifier : Bytes) :
    ((dropFragment identifier).all sendableByte = false ∧
      urlopen (tool.requestFor identifier) = none) ∨
    ((dropFragment identifier).all sendableByte = true ∧
      ∃ request, urlopen (tool.requestFor identifier) = some request ∧
        request.moduleAction = none ∧ dispatch request = tool.behind (tool.landing identifier)) := by
  rw [urlopen, tool.sendable_target]
  cases hsendable : (dropFragment identifier).all sendableByte with
  | false => exact Or.inl ⟨rfl, if_neg Bool.false_ne_true⟩
  | true =>
    refine Or.inr ⟨rfl, _, if_pos rfl, rfl, ?_⟩
    rw [dispatch, tool.path_target]
    exact dispatchPath_start tool (tool.landing identifier)

/-! ## Which identifiers are harmless -/

theorem handlePoolRead_reaches_iff (identifier : Bytes) :
    (handlePoolRead identifier = .refused ∨
      handlePoolRead identifier = .acts .poolDetail identifier) ↔
      identifier.contains slash = false ∨ namesPoolRead identifier = false := by
  rw [handlePoolRead_eq_refused_iff]
  by_cases hslash : slash ∈ identifier
  · rw [List.contains_iff_mem.mpr hslash, or_iff_left, or_iff_right Bool.true_eq_false.mp]
    intro hacts
    -- What stands before the slash is shorter than the identifier.
    have hshorter : (beforeSlash identifier).length < identifier.length :=
      length_takeWhile_ne_lt hslash
    have hsame : identifier = beforeSlash identifier := by
      rw [handlePoolRead] at hacts
      split_ifs at hacts <;> exact (Handling.acts.inj hacts).2.symm
    rw [← hsame] at hshorter
    exact lt_irrefl _ hshorter
  · have hcontains : identifier.contains slash = false := by
      rwa [← Bool.not_eq_true, List.contains_iff_mem]
    refine iff_of_true (Or.inr ?_) (Or.inl hcontains)
    rw [handlePoolRead, afterSlash_of_notMem hslash, Option.getD_none, beforeSlash,
      takeWhile_ne_eq_self_iff.mpr hslash, if_neg nameFacts.leases_ne_nil,
      if_neg nameFacts.saturation_ne_nil, if_neg (not_not.mpr rfl)]

theorem NamedTool.reaches_iff (tool : NamedTool) (identifier : Bytes) :
    (tool.behind (tool.landing identifier) = .refused ∨
      tool.behind (tool.landing identifier) = .acts tool.template.action identifier) ↔
      tool.harmless identifier := by
  rw [NamedTool.landing, NamedTool.harmless, ← cutsPath]
  cases hcuts : cutsPath identifier with
  | true =>
    rw [if_pos rfl, if_pos rfl, tool.behind_eq_refused_iff, Bool.not_eq_true', or_iff_left]
    -- What remains is shorter than the identifier.
    intro hacts
    have hshorter := length_remains_lt (cutsPath_iff.mp hcuts)
    exact absurd (NamedTool.length_le_of_behind hacts) (not_le.mpr hshorter)
  | false =>
    rw [if_neg Bool.false_ne_true, if_neg Bool.false_ne_true]
    by_cases htool : tool = .poolGet
    · subst htool
      have hiff := handlePoolRead_reaches_iff identifier
      simpa [NamedTool.behind, NamedTool.template] using hiff
    · refine iff_of_true (NamedTool.behind_append_ending htool identifier) ?_
      rw [decide_eq_true htool, Bool.true_or, Bool.true_or]

/-! ## The guard -/

variable {args : Arguments}

/-- With a query behind it, the path is the same. -/
theorem path_append_query {path query : Bytes} (hpath : plainText path)
    (hquery : query = [] ∨ ∃ rest, query = questionMark :: rest) :
    (dropFragment (path ++ query)).takeWhile (· ≠ questionMark) = path := by
  obtain ⟨hmark, hhash⟩ := plainText_notMem hpath
  obtain rfl | ⟨rest, rfl⟩ := hquery
  · rw [List.append_nil, dropFragment_of_notMem hhash, takeWhile_ne_eq_self_iff.mpr hmark]
  · have hkept : ∃ kept, dropFragment (path ++ questionMark :: rest) =
        path ++ questionMark :: kept := by
      by_cases hrest : hash ∈ questionMark :: rest
      · refine ⟨dropFragment rest, ?_⟩
        rw [dropFragment_append_of_mem path hrest, dropFragment]
        rfl
      · refine ⟨rest, dropFragment_of_notMem ?_⟩
        rw [List.mem_append, not_or]
        exact ⟨hhash, hrest⟩
    obtain ⟨kept, hkept⟩ := hkept
    rw [hkept, takeWhile_ne_append_cons hmark]

theorem PlainTool.query_cases {tool : PlainTool} {query : Bytes}
    (h : tool.query? args = some query) : query = [] ∨ ∃ rest, query = questionMark :: rest := by
  have hmark : ∀ rest, literal "?" ++ rest = questionMark :: rest := fun rest => by
    rw [show literal "?" = [questionMark] from by decide +kernel, List.singleton_append]
  have hfilters : ∀ params, filterQuery params = [] ∨
      ∃ rest, filterQuery params = questionMark :: rest := by
    intro params
    rw [filterQuery]
    split_ifs
    · exact Or.inl rfl
    · exact Or.inr ⟨_, hmark _⟩
  cases tool
  case telemetryEvents =>
    obtain ⟨n, -, rfl⟩ := Option.map_eq_some_iff.mp h
    rw [show literal "?max=" = literal "?" ++ literal "max=" from by decide +kernel,
      List.append_assoc]
    exact Or.inr ⟨_, hmark _⟩
  case diagnosticsEvents =>
    simp only [PlainTool.query?] at h
    split_ifs at h
    · obtain ⟨n, -, rfl⟩ := Option.map_eq_some_iff.mp h
      exact hfilters _
    · exact Option.some.inj h ▸ hfilters _
  case diagnosticsExportMarkdown =>
    exact Or.inr ⟨literal "format=markdown", (Option.some.inj h).symm.trans (by decide +kernel)⟩
  case diagnosticsExportJson =>
    exact Or.inr ⟨literal "format=json", (Option.some.inj h).symm.trans (by decide +kernel)⟩
  case configUpdate | poolUpsert =>
    simp only [PlainTool.query?] at h
    split_ifs at h
    exact Or.inl (Option.some.inj h).symm
  case forsettiModuleEnable | forsettiModuleDisable =>
    obtain ⟨moduleId, -, rfl⟩ := Option.map_eq_some_iff.mp h
    exact Or.inl rfl
  all_goals exact Or.inl (Option.some.inj h).symm

/-- A tool without an identifier destroys nothing unless it is guarded. -/
theorem PlainTool.guardHolds (tool : PlainTool) : GuardHolds args (.plain tool) := by
  intro hconfirm request harrives
  obtain ⟨sent, hsent, hopened⟩ := Option.bind_eq_some_iff.mp harrives
  rw [Tool.request?, PlainTool.request?] at hsent
  cases htemplate : tool.template with
  | none =>
    rw [htemplate] at hsent
    exact absurd hsent (Option.some_ne_none _).symm
  | some template =>
    rw [htemplate] at hsent
    simp only [hconfirm, Bool.not_false, Bool.and_true] at hsent
    split_ifs at hsent with hguarded
    obtain ⟨query, hquery, rfl⟩ := Option.map_eq_some_iff.mp hsent
    rw [Bool.not_eq_true] at hguarded
    obtain ⟨hpath, hspared⟩ := facts.spared tool (mem_plainTools tool) template htemplate
    rw [urlopen] at hopened
    split_ifs at hopened
    rw [← Option.some.inj hopened, dispatch]
    rw [path_append_query hpath (PlainTool.query_cases hquery)]
    exact hspared hguarded

theorem NamedTool.destroys_action (tool : NamedTool) (hguarded : tool.template.guarded = false)
    (identifier : Bytes) : destroys none (.acts tool.template.action identifier) = false :=
  facts.destroyed_guarded tool (mem_namedTools tool) hguarded

theorem NamedTool.guardHolds {tool : NamedTool} (h : ReachesItsRoute args tool) :
    GuardHolds args (.named tool) := by
  intro hconfirm request harrives
  obtain ⟨sent, hsent, hopened⟩ := Option.bind_eq_some_iff.mp harrives
  rw [Tool.request?, NamedTool.request?, hconfirm, Bool.not_false, Bool.and_true] at hsent
  have hguarded : tool.template.guarded = false := by
    cases hguarded : tool.template.guarded with
    | false => rfl
    | true =>
      rw [hguarded, if_pos rfl] at hsent
      exact absurd hsent (Option.some_ne_none _).symm
  rw [hguarded, if_neg Bool.false_ne_true] at hsent
  cases hidentifier : tool.identifier args with
  | some identifier =>
    rw [hidentifier] at hsent
    have haction : request.moduleAction = none := by
      rw [urlopen] at hopened
      split_ifs at hopened
      rw [← Option.some.inj hopened, ← Option.some.inj hsent]
      rfl
    rw [haction]
    obtain hrefused | hacts := h identifier hidentifier request harrives
    · rw [hrefused]
      rfl
    · rw [hacts]
      exact tool.destroys_action hguarded identifier
  | none =>
    rw [hidentifier] at hsent
    simp only at hsent
    split_ifs at hsent
    rw [urlopen, ← Option.some.inj hsent] at hopened
    split_ifs at hopened
    rw [← Option.some.inj hopened, dispatch]
    have hpath := path_append_query facts.index_spared.1 (Or.inl rfl)
    rw [List.append_nil] at hpath
    rw [hpath]
    exact facts.index_spared.2

theorem NamedTool.reachesItsRoute_iff (tool : NamedTool) :
    ReachesItsRoute args tool ↔ (Tool.named tool).safelyCalled args := by
  have hsent : ∀ identifier, tool.identifier args = some identifier →
      arrives args (.named tool) =
        if tool.template.guarded && !args.confirm then none
        else urlopen (tool.requestFor identifier) := by
    intro identifier hidentifier
    rw [arrives, Tool.request?, NamedTool.request?, hidentifier]
    split_ifs <;> rfl
  have hguard : (tool.template.guarded && !args.confirm) = false ↔
      (tool.template.guarded = true → args.confirm = true) := by
    cases tool.template.guarded <;> cases args.confirm <;> simp
  refine forall_congr' fun identifier => forall_congr' fun hidentifier => ?_
  rw [hsent identifier hidentifier]
  cases hrefuses : tool.template.guarded && !args.confirm with
  | true =>
    refine iff_of_true (fun request hnone => ?_) fun hpasses => ?_
    · rw [if_pos rfl] at hnone
      exact absurd hnone (Option.some_ne_none _).symm
    · exact absurd (hguard.mpr hpasses) (by rw [hrefuses]; exact Bool.true_eq_false.mp)
  | false =>
    rw [if_neg Bool.false_ne_true, forall_prop_of_true (hguard.mp hrefuses)]
    obtain ⟨hunsendable, hnone⟩ | ⟨hsendable, request, hopened, -, hdispatch⟩ :=
      tool.urlopen_requestFor identifier
    · rw [hnone, hunsendable]
      exact iff_of_true (fun request h => absurd h (Option.some_ne_none _).symm)
        fun h => absurd h Bool.false_ne_true
    · rw [hopened, hsendable, forall_prop_of_true rfl, ← tool.reaches_iff, ← hdispatch]
      constructor
      · exact fun h => h request rfl
      · intro h other hother
        rwa [← Option.some.inj hother]

end ControlBridge
end Admin
end MasterControl
