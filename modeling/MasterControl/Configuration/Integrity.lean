import MasterControl.Configuration.FailedWrites

/-!
# Referential integrity of the catalogs

The endpoint list and the list of sub-agent groups refer to each other: a group lists ids of
sub-agents, and the two kinds of id share one space of targets.  Three services edit the two
lists, each checking its part.  The catalogs stay intact (`CatalogIntact`) under every call
but two, which `Harmless` leaves out: a sub-agent whose id becomes a reserved one when it is
trimmed, and an MCP server that replaces a sub-agent some group has as a member.
-/

namespace MasterControl
namespace Configuration

open Foundation Supervisor

/-- The two lists are well formed and refer to each other properly. -/
structure CatalogIntact (c : AppConfiguration) : Prop where
  endpointIds : (c.endpoints.map RuntimeEndpoint.id).Nodup
  groupIds : (c.subAgentGroups.map SubAgentGroupDefinition.groupId).Nodup
  nonempty : ∀ g ∈ c.subAgentGroups, g.memberTargetIds ≠ []
  members : ∀ g ∈ c.subAgentGroups, g.memberTargetIds.Nodup
  known : ∀ g ∈ c.subAgentGroups, ∀ m ∈ g.memberTargetIds,
    ∃ e ∈ c.endpoints, e.id = m ∧ e.kind = .subAgent
  disjoint : ∀ g ∈ c.subAgentGroups, ∀ e ∈ c.endpoints, e.kind = .subAgent → e.id ≠ g.groupId
  groupUnreserved : ∀ g ∈ c.subAgentGroups, g.groupId ∉ reservedTargetIds
  subAgentUnreserved : ∀ e ∈ c.endpoints, e.kind = .subAgent → e.userDefined = true →
    e.id ∉ reservedTargetIds

/-- The calls that keep the catalogs intact.  A sub-agent must not come with a reserved id in
blanks, and an MCP server not with the id of a group member, unless the call is refused for
another reason. -/
def Harmless (c : AppConfiguration) : CatalogCall → Prop
  | .upsertSubAgent subAgent =>
    trimCopy subAgent.id ∈ reservedTargetIds →
      subAgent.id ∈ reservedTargetIds ∨ isBlank subAgent.displayName = true ∨
        c.seededOwner (trimCopy subAgent.id) = true
  | .upsertMcpServer mcpServer =>
    (∃ g ∈ c.subAgentGroups, trimCopy mcpServer.id ∈ g.memberTargetIds) →
      isSafeUrlSegmentId (trimCopy mcpServer.id) = false ∨
        isBlank mcpServer.displayName = true ∨ mcpServer.port = 0 ∨
        c.seededOwner (trimCopy mcpServer.id) = true
  | _ => True

/-! ## The two lists -/

section Lists

variable {c : AppConfiguration} {e : RuntimeEndpoint} {id : String}

theorem mem_putEndpoint (h : CatalogIntact c) (normalized : RuntimeEndpoint) :
    e ∈ (c.putEndpoint normalized).endpoints ↔
      e = normalized ∨ (e ∈ c.endpoints ∧ e.id ≠ normalized.id) :=
  mem_upsertFirst h.endpointIds rfl

/-- No seeded endpoint owns an id exactly when every endpoint with it is user-defined. -/
theorem seededOwner_eq_true_iff (h : (c.endpoints.map RuntimeEndpoint.id).Nodup) :
    c.seededOwner id = true ↔ ∃ e ∈ c.endpoints, e.id = id ∧ e.userDefined = false := by
  unfold AppConfiguration.seededOwner
  constructor
  · intro howner
    split at howner
    · rename_i e he
      obtain ⟨hmem, hid⟩ := (find?_key_eq_some_iff h).mp he
      exact ⟨e, hmem, hid, by rwa [Bool.not_eq_true'] at howner⟩
    · cases howner
  · rintro ⟨e, hmem, hid, huser⟩
    rw [(find?_key_eq_some_iff h).mpr ⟨hmem, hid⟩]
    simp only [huser, Bool.not_false]

theorem mem_subAgentIds :
    id ∈ c.subAgentIds ↔ id ≠ "" ∧ ∃ e ∈ c.endpoints, e.id = id ∧ e.kind = .subAgent := by
  rw [AppConfiguration.subAgentIds, List.mem_map]
  constructor
  · rintro ⟨e, he, rfl⟩
    obtain ⟨hmem, hkind⟩ := List.mem_filter.mp he
    rw [Bool.and_eq_true, decide_eq_true_iff, decide_eq_true_iff] at hkind
    exact ⟨hkind.2, e, hmem, rfl, hkind.1⟩
  · rintro ⟨hne, e, hmem, rfl, hkind⟩
    refine ⟨e, List.mem_filter.mpr ⟨hmem, ?_⟩, rfl⟩
    rw [Bool.and_eq_true, decide_eq_true_iff, decide_eq_true_iff]
    exact ⟨hkind, hne⟩

/-- The members of a group are sub-agents, each listed once. -/
theorem validMembers_spec (subAgentIds memberTargetIds : List String) :
    (validMembers subAgentIds memberTargetIds).Nodup ∧
      ∀ m ∈ validMembers subAgentIds memberTargetIds, m ∈ subAgentIds := by
  refine invariant_foldl (I := fun seen : List String => seen.Nodup ∧ ∀ m ∈ seen, m ∈ subAgentIds)
    ?_ memberTargetIds ⟨List.nodup_nil, fun m hm => by cases hm⟩
  rintro seen m ⟨hnodup, hmem⟩
  split_ifs with hm
  · exact ⟨hnodup, hmem⟩
  · simp only [Bool.or_eq_true, decide_eq_true_eq, not_or, not_not] at hm
    obtain ⟨hknown, hnew⟩ := hm
    constructor
    · rw [List.nodup_append]
      refine ⟨hnodup, List.nodup_singleton m, fun a ha b hb => ?_⟩
      rw [List.mem_singleton.mp hb]
      rintro rfl
      exact hnew ha
    · intro a ha
      rcases List.mem_append.mp ha with ha | ha
      · exact hmem a ha
      · rw [List.mem_singleton.mp ha]
        exact hknown

/-- Under distinct ids, erasing an endpoint by name leaves no endpoint with its id. -/
theorem mem_eraseP_isNamed {kind : EndpointKind} {found : RuntimeEndpoint}
    (h : (c.endpoints.map RuntimeEndpoint.id).Nodup)
    (hfound : c.endpoints.find? (RuntimeEndpoint.isNamed id kind) = some found) :
    e ∈ c.endpoints.eraseP (RuntimeEndpoint.isNamed id kind) ↔ e ∈ c.endpoints ∧ e.id ≠ id := by
  have hnamed := List.find?_some hfound
  rw [RuntimeEndpoint.isNamed, Bool.and_eq_true, decide_eq_true_iff, decide_eq_true_iff] at hnamed
  obtain ⟨hid, hkind⟩ := hnamed
  obtain ⟨a, l₁, l₂, hl₁, ha, heq, herase⟩ := List.exists_of_eraseP (List.mem_of_find?_eq_some hfound)
    (List.find?_some hfound)
  rw [RuntimeEndpoint.isNamed, Bool.and_eq_true, decide_eq_true_iff, decide_eq_true_iff] at ha
  rw [heq, List.map_append, List.map_cons, List.nodup_append, List.nodup_cons] at h
  obtain ⟨-, ⟨hl₂, -⟩, hdisj⟩ := h
  rw [herase, heq, List.mem_append, List.mem_append, List.mem_cons]
  constructor
  · rintro (hmem | hmem)
    · refine ⟨Or.inl hmem, fun he => ?_⟩
      exact hdisj e.id (List.mem_map_of_mem hmem) a.id List.mem_cons_self (he.trans ha.1.symm)
    · refine ⟨Or.inr (Or.inr hmem), fun he => hl₂ ?_⟩
      exact List.mem_map.mpr ⟨e, hmem, he.trans ha.1.symm⟩
  · rintro ⟨hmem | rfl | hmem, hne⟩
    · exact Or.inl hmem
    · exact absurd ha.1 hne
    · exact Or.inr hmem

end Lists

/-! ## One edit -/

section Edits

variable {c : AppConfiguration}

/-- Putting an endpoint keeps the catalogs intact when it respects the groups and the
reserved ids. -/
theorem CatalogIntact.putEndpoint (h : CatalogIntact c) {normalized : RuntimeEndpoint}
    (hmember : normalized.kind = .subAgent ∨
      ∀ g ∈ c.subAgentGroups, normalized.id ∉ g.memberTargetIds)
    (hgroup : normalized.kind = .subAgent → ∀ g ∈ c.subAgentGroups, g.groupId ≠ normalized.id)
    (hreserved : normalized.kind = .subAgent → normalized.id ∉ reservedTargetIds) :
    CatalogIntact (c.putEndpoint normalized) where
  endpointIds := nodup_map_upsertFirst h.endpointIds rfl
  groupIds := h.groupIds
  nonempty := h.nonempty
  members := h.members
  known := by
    intro g hg m hm
    obtain ⟨e, he, hid, hkind⟩ := h.known g hg m hm
    by_cases heq : e.id = normalized.id
    · rcases hmember with hsub | hmember
      · exact ⟨normalized, (mem_putEndpoint h normalized).mpr (Or.inl rfl), heq ▸ hid, hsub⟩
      · exact absurd (hid ▸ hm) (heq ▸ hmember g hg)
    · exact ⟨e, (mem_putEndpoint h normalized).mpr (Or.inr ⟨he, heq⟩), hid, hkind⟩
  disjoint := by
    intro g hg e he hkind
    rcases (mem_putEndpoint h normalized).mp he with rfl | ⟨he, -⟩
    · exact (hgroup hkind g hg).symm
    · exact h.disjoint g hg e he hkind
  groupUnreserved := h.groupUnreserved
  subAgentUnreserved := by
    intro e he hkind huser
    rcases (mem_putEndpoint h normalized).mp he with rfl | ⟨he, -⟩
    · exact hreserved hkind
    · exact h.subAgentUnreserved e he hkind huser

/-- Fewer endpoints keep the catalogs intact as long as the members stay. -/
theorem CatalogIntact.withEndpoints (h : CatalogIntact c) {endpoints : List RuntimeEndpoint}
    (hsub : endpoints.Sublist c.endpoints)
    (hknown : ∀ g ∈ c.subAgentGroups, ∀ m ∈ g.memberTargetIds,
      ∃ e ∈ endpoints, e.id = m ∧ e.kind = .subAgent) :
    CatalogIntact (c.withEndpoints endpoints) where
  endpointIds := (hsub.map RuntimeEndpoint.id).nodup h.endpointIds
  groupIds := h.groupIds
  nonempty := h.nonempty
  members := h.members
  known := hknown
  disjoint := fun g hg e he => h.disjoint g hg e (hsub.mem he)
  groupUnreserved := h.groupUnreserved
  subAgentUnreserved := fun e he => h.subAgentUnreserved e (hsub.mem he)

theorem CatalogIntact.removeMcpServer (h : CatalogIntact c) (mcpServerId : String) :
    CatalogIntact ((removeMcpServer mcpServerId).apply c) := by
  refine h.withEndpoints List.eraseP_sublist fun g hg m hm => ?_
  obtain ⟨e, he, hid, hkind⟩ := h.known g hg m hm
  have hother : ¬RuntimeEndpoint.isNamed mcpServerId .mcpServer e = true := by
    rw [RuntimeEndpoint.isNamed, hkind, Bool.and_eq_true, not_and]
    exact fun _ => by decide
  exact ⟨e, (List.mem_eraseP_of_neg hother).mpr he, hid, hkind⟩

/-- A removed sub-agent is in no group afterwards, and the groups it leaves empty go too. -/
theorem CatalogIntact.removeSubAgent (h : CatalogIntact c) {subAgentId : String}
    (hrefusal : (removeSubAgent subAgentId).refusal c = none) :
    CatalogIntact ((removeSubAgent subAgentId).apply c) := by
  obtain ⟨found, hfound⟩ : ∃ found,
      c.endpoints.find? (RuntimeEndpoint.isNamed subAgentId .subAgent) = some found := by
    simp only [Configuration.removeSubAgent, refuse] at hrefusal
    split_ifs at hrefusal
    split at hrefusal
    · cases hrefusal
    · exact ⟨_, ‹_›⟩
  have hgroups : ∀ g ∈ ((Configuration.removeSubAgent subAgentId).apply c).subAgentGroups,
      ∃ g₀ ∈ c.subAgentGroups, g = g₀.withoutMember subAgentId ∧ g.memberTargetIds ≠ [] := by
    intro g hg
    obtain ⟨hmap, hne⟩ := List.mem_filter.mp hg
    obtain ⟨g₀, hg₀, rfl⟩ := List.mem_map.mp hmap
    refine ⟨g₀, hg₀, rfl, fun hnil => ?_⟩
    rw [hnil] at hne
    cases hne
  have hendpoints : ∀ e, e ∈ ((Configuration.removeSubAgent subAgentId).apply c).endpoints ↔
      e ∈ c.endpoints ∧ e.id ≠ subAgentId :=
    fun e => mem_eraseP_isNamed h.endpointIds hfound
  refine ⟨?_, ?_, ?_, ?_, ?_, ?_, ?_, ?_⟩
  · exact (List.eraseP_sublist.map RuntimeEndpoint.id).nodup h.endpointIds
  · refine ((List.filter_sublist).map SubAgentGroupDefinition.groupId).nodup ?_
    rw [List.map_map]
    exact h.groupIds
  · intro g hg
    obtain ⟨g₀, hg₀, -, hne⟩ := hgroups g hg
    exact hne
  · intro g hg
    obtain ⟨g₀, hg₀, rfl, -⟩ := hgroups g hg
    exact (h.members g₀ hg₀).filter _
  · intro g hg m hm
    obtain ⟨g₀, hg₀, rfl, -⟩ := hgroups g hg
    obtain ⟨hm, hne⟩ := List.mem_filter.mp hm
    obtain ⟨e, he, hid, hkind⟩ := h.known g₀ hg₀ m hm
    exact ⟨e, (hendpoints e).mpr ⟨he, hid ▸ of_decide_eq_true hne⟩, hid, hkind⟩
  · intro g hg e he
    obtain ⟨g₀, hg₀, rfl, -⟩ := hgroups g hg
    exact h.disjoint g₀ hg₀ e ((hendpoints e).mp he).1
  · intro g hg
    obtain ⟨g₀, hg₀, rfl, -⟩ := hgroups g hg
    exact h.groupUnreserved g₀ hg₀
  · intro e he
    exact h.subAgentUnreserved e ((hendpoints e).mp he).1

theorem CatalogIntact.removeGroup (h : CatalogIntact c) (groupId : String) :
    CatalogIntact ((removeGroup groupId).apply c) where
  endpointIds := h.endpointIds
  groupIds := ((List.filter_sublist).map SubAgentGroupDefinition.groupId).nodup h.groupIds
  nonempty := fun g hg => h.nonempty g (List.mem_of_mem_filter hg)
  members := fun g hg => h.members g (List.mem_of_mem_filter hg)
  known := fun g hg => h.known g (List.mem_of_mem_filter hg)
  disjoint := fun g hg => h.disjoint g (List.mem_of_mem_filter hg)
  groupUnreserved := fun g hg => h.groupUnreserved g (List.mem_of_mem_filter hg)
  subAgentUnreserved := h.subAgentUnreserved

/-- A stored group has valid members and an id that no other target has. -/
theorem CatalogIntact.upsertGroup (h : CatalogIntact c) {now : String}
    {group : SubAgentGroupDefinition} (hrefusal : (upsertGroup now group).refusal c = none) :
    CatalogIntact ((upsertGroup now group).apply c) := by
  obtain ⟨hid, hreserved, hunknown, hmembers⟩ : group.groupId ≠ "" ∧
      group.groupId ∉ reservedTargetIds ∧ group.groupId ∉ c.subAgentIds ∧
      validMembers c.subAgentIds group.memberTargetIds ≠ [] := by
    simp only [Configuration.upsertGroup, refuse] at hrefusal
    split_ifs at hrefusal with h₁ h₂ h₃ h₄ h₅ h₆
    simp only [Bool.or_eq_true, decide_eq_true_eq, not_or] at h₁ h₅
    exact ⟨h₁.1, h₅.1, h₅.2, fun hnil => h₆ (by rw [hnil]; rfl)⟩
  have hperm := List.perm_insertionSort SubAgentGroupDefinition.listedBefore
    (upsertFirst (fun candidate => candidate.groupId = group.groupId)
      (normalizedGroup now group c) c.subAgentGroups)
  have hgroups : ∀ g ∈ ((Configuration.upsertGroup now group).apply c).subAgentGroups,
      g = normalizedGroup now group c ∨ g ∈ c.subAgentGroups := by
    intro g hg
    rcases (mem_upsertFirst (a := normalizedGroup now group c) (k := group.groupId)
      h.groupIds rfl).mp (hperm.mem_iff.mp hg) with heq | ⟨hmem, -⟩
    · exact Or.inl heq
    · exact Or.inr hmem
  obtain ⟨hnodup, hvalid⟩ := validMembers_spec c.subAgentIds group.memberTargetIds
  refine ⟨h.endpointIds, ?_, ?_, ?_, ?_, ?_, ?_, h.subAgentUnreserved⟩
  · exact (hperm.map SubAgentGroupDefinition.groupId).nodup_iff.mpr
      (nodup_map_upsertFirst h.groupIds rfl)
  · intro g hg
    rcases hgroups g hg with rfl | hg
    · exact hmembers
    · exact h.nonempty g hg
  · intro g hg
    rcases hgroups g hg with rfl | hg
    · exact hnodup
    · exact h.members g hg
  · intro g hg m hm
    rcases hgroups g hg with rfl | hg
    · exact (mem_subAgentIds.mp (hvalid m hm)).2
    · exact h.known g hg m hm
  · intro g hg e he hkind
    rcases hgroups g hg with rfl | hg
    · exact fun heq => hunknown (mem_subAgentIds.mpr ⟨hid, e, he, heq, hkind⟩)
    · exact h.disjoint g hg e he hkind
  · intro g hg
    rcases hgroups g hg with rfl | hg
    · exact hreserved
    · exact h.groupUnreserved g hg

end Edits

/-! ## One call -/

section Calls

variable {c : AppConfiguration} {now : String}

theorem isBlank_eq_true_iff {value : String} : isBlank value = true ↔ trimCopy value = "" := by
  rw [isBlank, List.all_eq_true, trimCopy, ← trim_eq_nil_iff]
  constructor
  · intro h
    rw [h]
  · intro h
    exact String.ofList_injective h

/-- The empty text is blank already. -/
theorem empty_or_isBlank (value : String) :
    (decide (value = "") || isBlank value) = isBlank value := by
  by_cases h : value = ""
  · rw [h]
    rfl
  · rw [decide_eq_false h, Bool.false_or]

/-- What the checks of a sub-agent let through. -/
theorem upsertSubAgent_refusal_eq_none_iff {subAgent : RuntimeEndpoint} :
    (upsertSubAgent now subAgent).refusal c = none ↔
      isBlank subAgent.id = false ∧ isSafeUrlSegmentId (trimCopy subAgent.id) = true ∧
        isBlank subAgent.displayName = false ∧ subAgent.id ∉ reservedTargetIds ∧
        (∀ g ∈ c.subAgentGroups, g.groupId ≠ trimCopy subAgent.id) ∧
        c.seededOwner (trimCopy subAgent.id) = false := by
  simp only [upsertSubAgent, refuse, empty_or_isBlank]
  split_ifs <;> simp_all

theorem upsertMcpServer_refusal_eq_none_iff {mcpServer : RuntimeEndpoint} :
    (upsertMcpServer now mcpServer).refusal c = none ↔
      isBlank mcpServer.id = false ∧ isSafeUrlSegmentId (trimCopy mcpServer.id) = true ∧
        isBlank mcpServer.displayName = false ∧ mcpServer.port ≠ 0 ∧
        c.seededOwner (trimCopy mcpServer.id) = false := by
  simp only [upsertMcpServer, refuse, empty_or_isBlank]
  split_ifs <;> simp_all

/-- A reserved id is a safe one. -/
theorem safe_of_reserved {id : String} (h : id ∈ reservedTargetIds) :
    isSafeUrlSegmentId id = true := by
  have hall : ∀ id ∈ reservedTargetIds, isSafeUrlSegmentId id = true := by decide
  exact hall id h

/-- An accepted sub-agent keeps the catalogs intact exactly when its trimmed id is not a
reserved one. -/
theorem CatalogIntact.upsertSubAgent_iff (h : CatalogIntact c) {subAgent : RuntimeEndpoint}
    (hrefusal : (upsertSubAgent now subAgent).refusal c = none) :
    CatalogIntact ((upsertSubAgent now subAgent).apply c) ↔
      Harmless c (.upsertSubAgent subAgent) := by
  obtain ⟨-, -, hname, hraw, hgroup, howner⟩ := upsertSubAgent_refusal_eq_none_iff.mp hrefusal
  have hharmless : Harmless c (.upsertSubAgent subAgent) ↔
      trimCopy subAgent.id ∉ reservedTargetIds := by
    simp only [Harmless, hname, howner, hraw, Bool.false_eq_true, or_self, imp_false]
  rw [hharmless]
  constructor
  · intro hintact
    exact hintact.subAgentUnreserved (normalizedSubAgent now subAgent c)
      ((mem_putEndpoint h _).mpr (Or.inl rfl)) rfl rfl
  · intro hreserved
    exact h.putEndpoint (Or.inl rfl) (fun _ => hgroup) fun _ => hreserved

/-- An accepted MCP server keeps the catalogs intact exactly when no group has its id as a
member. -/
theorem CatalogIntact.upsertMcpServer_iff (h : CatalogIntact c) {mcpServer : RuntimeEndpoint}
    (hrefusal : (upsertMcpServer now mcpServer).refusal c = none) :
    CatalogIntact ((upsertMcpServer now mcpServer).apply c) ↔
      Harmless c (.upsertMcpServer mcpServer) := by
  obtain ⟨-, hsafe, hname, hport, howner⟩ := upsertMcpServer_refusal_eq_none_iff.mp hrefusal
  have hharmless : Harmless c (.upsertMcpServer mcpServer) ↔
      ∀ g ∈ c.subAgentGroups, trimCopy mcpServer.id ∉ g.memberTargetIds := by
    simp only [Harmless, hname, howner, hsafe, hport, Bool.false_eq_true, Bool.true_eq_false,
      or_self, imp_false, not_exists, not_and]
  rw [hharmless]
  constructor
  · intro hintact g hg hmember
    obtain ⟨e, he, hid, hkind⟩ := hintact.known g hg _ hmember
    rcases (mem_putEndpoint h _).mp he with rfl | ⟨-, hne⟩
    · cases hkind
    · exact hne hid
  · intro hmember
    exact h.putEndpoint (Or.inr hmember) (fun hkind => by cases hkind) fun hkind => by cases hkind

/-- A refused call is harmless. -/
theorem harmless_of_refusal {call : CatalogCall} {result : OperationResult} (h : CatalogIntact c)
    (hrefusal : (call.edit now).refusal c = some result) : Harmless c call := by
  by_contra hharm
  have hnone : (call.edit now).refusal c = none := by
    cases call with
    | upsertSubAgent subAgent =>
      simp only [Harmless, Classical.not_imp, not_or, Bool.not_eq_true] at hharm
      obtain ⟨hreserved, hraw, hname, howner⟩ := hharm
      refine upsertSubAgent_refusal_eq_none_iff.mpr
        ⟨?_, safe_of_reserved hreserved, hname, hraw, fun g hg heq => ?_, howner⟩
      · rw [Bool.eq_false_iff, Ne, isBlank_eq_true_iff]
        intro hempty
        rw [hempty] at hreserved
        exact absurd hreserved (by decide)
      · exact h.groupUnreserved g hg (heq ▸ hreserved)
    | upsertMcpServer mcpServer =>
      simp only [Harmless, Classical.not_imp, not_or, Bool.not_eq_true, Bool.not_eq_false]
        at hharm
      obtain ⟨-, hsafe, hname, hport, howner⟩ := hharm
      refine upsertMcpServer_refusal_eq_none_iff.mpr ⟨?_, hsafe, hname, hport, howner⟩
      rw [Bool.eq_false_iff, Ne, isBlank_eq_true_iff]
      intro hempty
      rw [hempty] at hsafe
      exact absurd hsafe (by decide)
    | removeSubAgent subAgentId => exact absurd trivial hharm
    | removeMcpServer mcpServerId => exact absurd trivial hharm
    | upsertGroup group => exact absurd trivial hharm
    | removeGroup groupId => exact absurd trivial hharm
  rw [hnone] at hrefusal
  cases hrefusal

/-- An accepted call keeps the catalogs intact exactly when it is harmless. -/
theorem CatalogIntact.apply_iff (h : CatalogIntact c) {call : CatalogCall}
    (hrefusal : (call.edit now).refusal c = none) :
    CatalogIntact ((call.edit now).apply c) ↔ Harmless c call := by
  cases call with
  | upsertSubAgent subAgent => exact h.upsertSubAgent_iff hrefusal
  | removeSubAgent subAgentId => exact iff_of_true (h.removeSubAgent hrefusal) trivial
  | upsertMcpServer mcpServer => exact h.upsertMcpServer_iff hrefusal
  | removeMcpServer mcpServerId => exact iff_of_true (h.removeMcpServer mcpServerId) trivial
  | upsertGroup group => exact iff_of_true (h.upsertGroup hrefusal) trivial
  | removeGroup groupId => exact iff_of_true (h.removeGroup groupId) trivial

/-- From intact catalogs a call, whether or not its write succeeds, leads to intact catalogs
exactly when it is harmless. -/
theorem CatalogIntact.perform_iff {s : SharedState} (h : CatalogIntact s.configuration)
    (call : CatalogCall) (env : Environment) :
    CatalogIntact ((Call.catalog call).perform env s).2.configuration ↔
      Harmless s.configuration call := by
  cases hrefusal : (call.edit env.timestampNowUtc).refusal s.configuration with
  | some result =>
    rw [Call.perform, Call.edit, Edit.perform_of_some hrefusal]
    exact iff_of_true h (harmless_of_refusal h hrefusal)
  | none =>
    rw [Call.perform, Call.edit, Edit.configuration_of_none hrefusal]
    exact h.apply_iff hrefusal

end Calls

/-! ## Runs -/

/-- The three catalogs on one shared state. -/
def catalogs (s : SharedState) : TransitionSystem SharedState (CatalogCall × Environment) where
  init := s
  step s step := ((Call.catalog step.1).perform step.2 s).2

/-- **Referential integrity of the catalogs.**  From intact catalogs, every run of harmless
calls keeps them intact, however its writes end; and in every state it reaches, a call that
is not harmless breaks them. -/
theorem catalogIntact_of_reachable {s₀ s : SharedState} (h₀ : CatalogIntact s₀.configuration)
    (h : (catalogs s₀).ReachableBy (fun s step => Harmless s.configuration step.1) s) :
    CatalogIntact s.configuration ∧
      ∀ (call : CatalogCall) (env : Environment), ¬Harmless s.configuration call →
        ¬CatalogIntact ((Call.catalog call).perform env s).2.configuration := by
  have hintact : CatalogIntact s.configuration :=
    h.invariant (I := fun s => CatalogIntact s.configuration) h₀
      fun s step hs hstep => (hs.perform_iff step.1 step.2).mpr hstep
  exact ⟨hintact, fun call env hharm => mt (hintact.perform_iff call env).mp hharm⟩

/-- One user-defined sub-agent, in one group. -/
def oneGroup : SharedState :=
  { configuration :=
      { subAgentGroups := [{ groupId := "team", displayName := "Team", memberTargetIds := ["scout"] }]
        activeProfile :=
          { seededEndpoints :=
              [{ id := "scout", displayName := "Scout", kind := .subAgent, userDefined := true }] } } }

theorem catalogIntact_oneGroup : CatalogIntact oneGroup.configuration :=
  ⟨by decide, by decide, by decide, by decide, by decide, by decide, by decide, by decide⟩

/-- A sub-agent with blanks around its id is added, then the first one is removed together
with its group; neither write succeeds. -/
theorem catalogIntact_twoCalls :
    CatalogIntact ((catalogs oneGroup).run oneGroup
      [(.upsertSubAgent { id := " medic ", displayName := "Medic" },
          ⟨"2026-01-01T00:00:00Z", .failed none⟩),
        (.removeSubAgent "scout", ⟨"2026-01-01T00:00:01Z", .failed none⟩)]).configuration := by
  refine (catalogIntact_of_reachable catalogIntact_oneGroup
    (TransitionSystem.ReachableBy.init.run _ ?_)).1
  exact ⟨fun h => absurd h (by decide), trivial, trivial⟩

/-- Two calls that break intact catalogs: a sub-agent `planner` with a blank before its id,
and an MCP server with the id of a group member. -/
theorem catalogs_broken :
    CatalogIntact oneGroup.configuration ∧
      ¬CatalogIntact ((catalogs oneGroup).run oneGroup
        [(.upsertSubAgent { id := " planner", displayName := "Planner" },
          ⟨"2026-01-01T00:00:00Z", .written⟩)]).configuration ∧
      ¬CatalogIntact ((catalogs oneGroup).run oneGroup
        [(.upsertMcpServer { id := "scout", displayName := "Scout", port := 80 },
          ⟨"2026-01-01T00:00:00Z", .written⟩)]).configuration := by
  refine ⟨catalogIntact_oneGroup, fun h => ?_, fun h => ?_⟩
  · exact absurd h.subAgentUnreserved (by decide)
  · exact absurd h.known (by decide)

end Configuration
end MasterControl
