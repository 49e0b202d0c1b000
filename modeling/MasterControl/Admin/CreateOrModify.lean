import MasterControl.Admin.CatalogRoutes
import MasterControl.Supervisor.Runs

/-!
# Create or modify

An upsert that replaces an entry of the catalog should have been decided on as a modification of
that entry (`GovernedUpsert`).  The route decides on the id of the body as it came, among the
endpoints of its kind that the inventory lists; the catalog trims the id and looks it up among
all endpoints.  The two disagree on an id with blanks around it, on an entry of another kind, and
on an inventory that is behind: `Overreaches`.  Everything else is governed (`governedUpsert_iff`).

A removal has one target throughout.
-/

namespace MasterControl
namespace Admin

open Foundation Supervisor Clients Governance MasterControl.Configuration

/-! ## The law -/

/-- The catalog accepts the upsert, and has an entry under its id. -/
def Replaces (kind : CatalogKind) (env : CatalogEnvironment) (endpoint : RuntimeEndpoint)
    (s : CatalogRuntime) : Prop :=
  ((kind.upsertCall endpoint).edit env.service.timestampNowUtc).refusal
      s.shared.configuration = none ∧
    ∃ old ∈ s.shared.configuration.endpoints, old.id = trimCopy endpoint.id

/-- The questions about an action on a target. -/
def Concerns (action : GovernanceActionKind) (targetId : String)
    (request : GovernanceEnforcementRequest) : Prop :=
  request.action = action ∧ request.targetId = targetId

structure GovernedUpsert (kind : CatalogKind) (clu : CommandLogicUnit)
    (context : AuthenticatedRequestContext) (env : CatalogEnvironment) (s : CatalogRuntime)
    (reply : Reply CatalogRuntime) : Prop where
  /-- What replaces an entry was decided on as its modification. -/
  modify : ∀ endpoint, reply.state.calls = s.calls ++ [kind.upsertCall endpoint] →
    Replaces kind env endpoint s →
      kind.canModify context.privileges = true ∧
        Asked clu (Concerns kind.modifyAction (trimCopy endpoint.id)) reply
  /-- A creation replaces nothing. -/
  create : ∀ endpoint, reply.state.calls = s.calls ++ [kind.upsertCall endpoint] →
    s.knows kind endpoint.id = false → ¬ Replaces kind env endpoint s

/-- One id is submitted everywhere. -/
structure OneTarget (kind : CatalogKind) (s : CatalogRuntime) (targetId : String)
    (reply : Reply CatalogRuntime) : Prop where
  asked : ∀ q ∈ reply.asked, q.request.action = kind.removeAction ∧ q.request.targetId = targetId
  calls : reply.state.calls = s.calls ∨ reply.state.calls = s.calls ++ [kind.removeCall targetId]
  poolCalls : reply.state.poolCalls = s.poolCalls ∨
    reply.state.poolCalls = s.poolCalls ++ [.removePool targetId]

/-- The request passes and replaces an entry, and the inventory does not list an endpoint of the
kind under its id, or the id has blanks around it. -/
def Overreaches (kind : CatalogKind) (clu : CommandLogicUnit)
    (context : AuthenticatedRequestContext) (env : CatalogEnvironment)
    (body : Body RuntimeEndpoint) (s : CatalogRuntime) : Prop :=
  ∃ endpoint, body = .value endpoint ∧ MayPass kind clu context endpoint.id s ∧
    Replaces kind env endpoint s ∧
      ¬ (s.knows kind endpoint.id = true ∧ endpoint.id = trimCopy endpoint.id)

/-! ## What an upsert does to the catalog -/

section Upserts

variable {kind : CatalogKind} {env : CatalogEnvironment} {endpoint : RuntimeEndpoint}
  {s : CatalogRuntime}

/-- The entry that an upsert writes. -/
def CatalogKind.normalized (timestampNowUtc : String) (endpoint : RuntimeEndpoint)
    (configuration : AppConfiguration) : CatalogKind → RuntimeEndpoint
  | mcpServer => normalizedMcpServer timestampNowUtc endpoint configuration
  | subAgent => normalizedSubAgent timestampNowUtc endpoint configuration

@[simp] theorem calls_upsertEndpoint :
    (upsertEndpoint kind env endpoint s).state.calls = s.calls ++ [kind.upsertCall endpoint] := by
  unfold upsertEndpoint CatalogRuntime.perform CatalogRuntime.promote
  cases kind with
  | mcpServer => rfl
  | subAgent =>
    dsimp only
    split
    · split <;> rfl
    · rfl

@[simp] theorem asked_upsertEndpoint : (upsertEndpoint kind env endpoint s).asked = [] := rfl

/-- The catalog behind an upsert is the catalog's own. -/
theorem shared_upsertEndpoint : (upsertEndpoint kind env endpoint s).state.shared =
    (((kind.upsertCall endpoint).edit env.service.timestampNowUtc).perform env.service.write
      s.shared).2 := by
  unfold upsertEndpoint CatalogRuntime.perform CatalogRuntime.promote
  cases kind with
  | mcpServer => rfl
  | subAgent =>
    dsimp only
    split
    · split <;> rfl
    · rfl

/-- An accepted upsert puts its entry. -/
theorem endpoints_upsertEndpoint (h : ((kind.upsertCall endpoint).edit
      env.service.timestampNowUtc).refusal s.shared.configuration = none) :
    (upsertEndpoint kind env endpoint s).state.shared.configuration.endpoints =
      upsertFirst (fun e => e.id = trimCopy endpoint.id)
        (kind.normalized env.service.timestampNowUtc endpoint s.shared.configuration)
        s.shared.configuration.endpoints := by
  rw [shared_upsertEndpoint]
  unfold Edit.perform
  rw [h]
  cases kind with
  | mcpServer | subAgent => rfl

/-- What replaces nothing leaves every entry in the catalog. -/
theorem mem_endpoints_of_not_replaces (h : ¬ Replaces kind env endpoint s)
    {old : RuntimeEndpoint} (hold : old ∈ s.shared.configuration.endpoints) :
    old ∈ (upsertEndpoint kind env endpoint s).state.shared.configuration.endpoints := by
  cases hr : ((kind.upsertCall endpoint).edit env.service.timestampNowUtc).refusal
      s.shared.configuration with
  | some result =>
    rw [shared_upsertEndpoint]
    unfold Edit.perform
    rw [hr]
    exact hold
  | none =>
    have hfree : ∀ e ∈ s.shared.configuration.endpoints, e.id ≠ trimCopy endpoint.id :=
      fun e he hid => h ⟨hr, e, he, hid⟩
    have hnone : s.shared.configuration.endpoints.find?
        (fun e => e.id = trimCopy endpoint.id) = none :=
      List.find?_eq_none.mpr fun e he hid => hfree e he (of_decide_eq_true hid)
    rw [endpoints_upsertEndpoint hr, upsertFirst, hnone]
    exact List.mem_append_left _ hold

end Upserts

/-! ## Upserts -/

section Law

variable {kind : CatalogKind} {clu : CommandLogicUnit} {context : AuthenticatedRequestContext}
  {env : CatalogEnvironment} {s : CatalogRuntime} {reply : Reply CatalogRuntime}

/-- Where the catalog is not called, the law holds. -/
theorem governedUpsert_of_calls_eq (h : reply.state.calls = s.calls) :
    GovernedUpsert kind clu context env s reply where
  modify endpoint hcalls := by
    rw [h, List.self_eq_append_right] at hcalls
    cases hcalls
  create endpoint hcalls := by
    rw [h, List.self_eq_append_right] at hcalls
    cases hcalls

theorem upsertCall_inj {e e' : RuntimeEndpoint} (h : kind.upsertCall e = kind.upsertCall e') :
    e = e' := by
  cases kind with
  | mcpServer | subAgent =>
    cases h
    rfl

/-- Of a body that is not a record nothing comes. -/
theorem state_createOrModify_badRequest (id message : String) :
    (createOrModify kind clu context id s (badRequest s message)).state = s := by
  rcases createOrModify_cases kind clu context id s (badRequest s message) with
    ⟨hstate, -⟩ | ⟨asked, -, he⟩
  · exact hstate
  · rw [he]
    rfl

/-- An upsert that passes calls the catalog once. -/
theorem governedUpsert_of_called_iff (endpoint : RuntimeEndpoint)
    (hcalls : reply.state.calls = s.calls ++ [kind.upsertCall endpoint]) :
    GovernedUpsert kind clu context env s reply ↔
      (Replaces kind env endpoint s →
        s.knows kind endpoint.id = true ∧ kind.canModify context.privileges = true ∧
          Asked clu (Concerns kind.modifyAction (trimCopy endpoint.id)) reply) := by
  constructor
  · intro h hreplaces
    have hknown : s.knows kind endpoint.id = true := by
      by_contra hn
      exact h.create endpoint hcalls (Bool.eq_false_iff.mpr hn) hreplaces
    exact ⟨hknown, h.modify endpoint hcalls hreplaces⟩
  · intro h
    have hsame : ∀ e, reply.state.calls = s.calls ++ [kind.upsertCall e] → e = endpoint :=
      fun e he => by
        rw [hcalls, List.append_cancel_left_eq, List.singleton_inj] at he
        exact (upsertCall_inj he).symm
    refine ⟨fun e he hreplaces => ?_, fun e he hunknown hreplaces => ?_⟩
    · cases hsame e he
      exact (h hreplaces).2
    · cases hsame e he
      rw [(h hreplaces).1] at hunknown
      cases hunknown

/-- The question on the way is about the id as it came. -/
theorem asked_modify_iff {asked : List Question} {id targetId : String}
    (hpassed : Passed kind clu context id s asked) (hasked : reply.asked = asked)
    (hknown : s.knows kind id = true) :
    kind.canModify context.privileges = true ∧
        Asked clu (Concerns kind.modifyAction targetId) reply ↔ id = targetId := by
  unfold Asked
  rw [hasked]
  cases hpassed with
  | modify _ hcan hallows =>
    constructor
    · rintro ⟨-, q, hq, ⟨-, htarget⟩, -⟩
      rw [List.mem_singleton.mp hq] at htarget
      exact htarget
    · rintro rfl
      exact ⟨hcan, _, List.mem_singleton_self _, ⟨rfl, rfl⟩, rfl, hallows⟩
  | autonomous h =>
    rw [hknown] at h
    cases h
  | create h =>
    rw [hknown] at h
    cases h

/-- An upsert is governed unless it overreaches. -/
theorem governedUpsert_iff (body : Body RuntimeEndpoint) :
    GovernedUpsert kind clu context env s (postEndpoint kind clu context env body s) ↔
      ¬ Overreaches kind clu context env body s := by
  cases body with
  | malformed exception =>
    refine iff_of_true (governedUpsert_of_calls_eq rfl) ?_
    rintro ⟨endpoint, he, -⟩
    cases he
  | unreadable id exception =>
    refine iff_of_true (governedUpsert_of_calls_eq ?_) ?_
    · exact congrArg CatalogRuntime.calls (state_createOrModify_badRequest id _)
    · rintro ⟨endpoint, he, -⟩
      cases he
  | value endpoint =>
    have hover : Overreaches kind clu context env (.value endpoint) s ↔
        MayPass kind clu context endpoint.id s ∧ Replaces kind env endpoint s ∧
          ¬ (s.knows kind endpoint.id = true ∧ endpoint.id = trimCopy endpoint.id) := by
      constructor
      · rintro ⟨e, he, h⟩
        cases he
        exact h
      · exact fun h => ⟨endpoint, rfl, h⟩
    rw [hover, mayPass_iff]
    change GovernedUpsert kind clu context env s
      (createOrModify kind clu context endpoint.id s (upsertEndpoint kind env endpoint s)) ↔ _
    rcases createOrModify_cases kind clu context endpoint.id s
      (upsertEndpoint kind env endpoint s) with ⟨hstate, hstopped⟩ | ⟨asked, hpassed, he⟩
    · refine iff_of_true (governedUpsert_of_calls_eq (congrArg CatalogRuntime.calls hstate)) ?_
      rintro ⟨⟨asked, hpassed⟩, -⟩
      exact hstopped asked hpassed
    · have hcalls : (createOrModify kind clu context endpoint.id s
          (upsertEndpoint kind env endpoint s)).state.calls =
            s.calls ++ [kind.upsertCall endpoint] := by
        rw [he]
        exact calls_upsertEndpoint
      have hasked : (createOrModify kind clu context endpoint.id s
          (upsertEndpoint kind env endpoint s)).asked = asked := by
        rw [he]
        exact List.append_nil asked
      refine (governedUpsert_of_called_iff endpoint hcalls).trans ?_
      constructor
      · rintro h ⟨-, hreplaces, hdiffer⟩
        obtain ⟨hknown, hgoverned⟩ := h hreplaces
        exact hdiffer ⟨hknown, (asked_modify_iff hpassed hasked hknown).mp hgoverned⟩
      · intro h hreplaces
        have hsame : s.knows kind endpoint.id = true ∧ endpoint.id = trimCopy endpoint.id := by
          by_contra hdiffer
          exact h ⟨⟨asked, hpassed⟩, hreplaces, hdiffer⟩
        exact ⟨hsame.1, (asked_modify_iff hpassed hasked hsame.1).mpr hsame.2⟩

/-- Only a replacement takes an entry out of the catalog. -/
theorem replaces_of_leaves (body : Body RuntimeEndpoint) {old : RuntimeEndpoint}
    (hold : old ∈ s.shared.configuration.endpoints)
    (hleft : old ∉
      (postEndpoint kind clu context env body s).state.shared.configuration.endpoints) :
    ∃ endpoint, (postEndpoint kind clu context env body s).state.calls =
      s.calls ++ [kind.upsertCall endpoint] ∧ Replaces kind env endpoint s := by
  cases body with
  | malformed exception => exact absurd hold hleft
  | unreadable id exception =>
    have hstate : (postEndpoint kind clu context env (.unreadable id exception) s).state = s :=
      state_createOrModify_badRequest id _
    rw [hstate] at hleft
    exact absurd hold hleft
  | value endpoint =>
    change old ∉ (createOrModify kind clu context endpoint.id s
      (upsertEndpoint kind env endpoint s)).state.shared.configuration.endpoints at hleft
    refine ⟨endpoint, ?_⟩
    change (createOrModify kind clu context endpoint.id s
      (upsertEndpoint kind env endpoint s)).state.calls = _ ∧ _
    rcases createOrModify_cases kind clu context endpoint.id s
      (upsertEndpoint kind env endpoint s) with ⟨hstate, -⟩ | ⟨asked, -, he⟩
    · rw [hstate] at hleft
      exact absurd hold hleft
    · rw [he] at hleft ⊢
      refine ⟨calls_upsertEndpoint, ?_⟩
      by_contra hkept
      exact hleft (mem_endpoints_of_not_replaces hkept hold)

/-! ## Removals -/

/-- What a removal reads as its target. -/
def removalTarget (body : Except String String) : String :=
  match body with
  | .error _ => ""
  | .ok id => id

theorem oneTarget_of_unchanged {targetId : String} (hstate : reply.state = s)
    (hasked : ∀ q ∈ reply.asked,
      q.request.action = kind.removeAction ∧ q.request.targetId = targetId) :
    OneTarget kind s targetId reply :=
  ⟨hasked, Or.inl (congrArg _ hstate), Or.inl (congrArg _ hstate)⟩

theorem oneTarget_enforceGovernance {targetId : String} {next : Reply CatalogRuntime}
    (hnext : OneTarget kind s targetId next) :
    OneTarget kind s targetId
      (enforceGovernance context clu kind.removeAction targetId "" s next) := by
  by_cases hallows : Allows clu (context.question kind.removeAction targetId "")
  · rw [enforceGovernance_of_allows hallows]
    refine ⟨fun q hq => ?_, hnext.calls, hnext.poolCalls⟩
    rcases List.mem_cons.mp hq with rfl | hq
    · exact ⟨rfl, rfl⟩
    · exact hnext.asked q hq
  · refine oneTarget_of_unchanged (enforceGovernance_of_not_allows hallows).1 fun q hq => ?_
    rw [(enforceGovernance_of_not_allows hallows).2] at hq
    rw [List.mem_singleton.mp hq]
    exact ⟨rfl, rfl⟩

theorem oneTarget_removeEndpoint (id : String) :
    OneTarget kind s id (removeEndpoint kind env id s) where
  asked _ hq := absurd hq List.not_mem_nil
  calls := by
    unfold removeEndpoint CatalogRuntime.perform
    cases kind with
    | mcpServer => exact Or.inr rfl
    | subAgent =>
      dsimp only
      split <;> exact Or.inr rfl
  poolCalls := by
    unfold removeEndpoint CatalogRuntime.perform
    cases kind with
    | mcpServer => exact Or.inl rfl
    | subAgent =>
      dsimp only
      split
      · exact Or.inr rfl
      · exact Or.inl rfl

theorem oneTarget_postRemoval (body : Except String String) :
    OneTarget kind s (removalTarget body) (postRemoval kind clu context env body s) := by
  unfold postRemoval
  by_cases hcan : kind.canRemove context.privileges = true
  · rw [requirePrivilege_of_granted hcan]
    cases body with
    | error exception =>
      refine oneTarget_enforceGovernance (oneTarget_of_unchanged rfl fun q hq => ?_)
      exact absurd hq List.not_mem_nil
    | ok id => exact oneTarget_enforceGovernance (oneTarget_removeEndpoint id)
  · rw [requirePrivilege_of_not_granted hcan]
    exact oneTarget_of_unchanged rfl fun q hq => absurd hq List.not_mem_nil

/-- **Create or modify is decided on the entry that is written**, exactly when the request does
not overreach; only a replacement takes an entry out of the catalog; and a removal has one
target. -/
theorem create_or_modify_iff (kind : CatalogKind) (clu : CommandLogicUnit)
    (context : AuthenticatedRequestContext) (env : CatalogEnvironment) (s : CatalogRuntime) :
    (∀ body, GovernedUpsert kind clu context env s (postEndpoint kind clu context env body s) ↔
      ¬ Overreaches kind clu context env body s) ∧
    (∀ body, ∀ old ∈ s.shared.configuration.endpoints,
      old ∉ (postEndpoint kind clu context env body s).state.shared.configuration.endpoints →
      ∃ endpoint, (postEndpoint kind clu context env body s).state.calls =
        s.calls ++ [kind.upsertCall endpoint] ∧ Replaces kind env endpoint s) ∧
    ∀ body, OneTarget kind s (removalTarget body) (postRemoval kind clu context env body s) :=
  ⟨governedUpsert_iff, fun body _ => replaces_of_leaves body, oneTarget_postRemoval⟩

end Law

/-- A clock, a disk that can be written, and a host where everything works. -/
def workingEnvironment : CatalogEnvironment where
  service := { timestampNowUtc := "2026-01-01T00:00:00Z", write := .written }
  host := workingHost

/-- An autonomous client. -/
def bot : LanClient := { clientId := "bot", displayName := "Bot", autonomousMode := true }

/-- One custom MCP server, which the inventory lists. -/
def oneServer : CatalogRuntime :=
  let server : RuntimeEndpoint :=
    { id := "srv", displayName := "Server", port := 80, userDefined := true }
  { shared := { configuration := { activeProfile := { seededEndpoints := [server] } } }
    inventory := [server] }

/-- **A blank before the id is enough**: an autonomous client overwrites a server, and no question
is asked. -/
theorem blank_overwrites_server :
    let endpoint : RuntimeEndpoint := { id := " srv", displayName := "Mine", port := 81 }
    let reply := postEndpoint .mcpServer (enforceAction {} {}) (clientContext bot)
      workingEnvironment (.value endpoint) oneServer
    ¬ GovernedUpsert .mcpServer (enforceAction {} {}) (clientContext bot) workingEnvironment
        oneServer reply ∧
      reply.state.shared.configuration.endpoints.map RuntimeEndpoint.displayName = ["Mine"] ∧
      reply.asked.length = 0 := by
  refine ⟨fun h => ?_, by decide +kernel, by decide +kernel⟩
  refine h.create { id := " srv", displayName := "Mine", port := 81 } (by rfl) (by decide +kernel)
    ⟨by decide +kernel, _, List.mem_singleton_self _, by decide +kernel⟩

end Admin
end MasterControl
