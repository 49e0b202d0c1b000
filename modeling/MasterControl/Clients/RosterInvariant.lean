import MasterControl.Clients.Roster
import MasterControl.Configuration.Integrity

/-!
# What the roster keeps

A roster that is in order (`InOrder`) lists lower-case ids that can stand in a path, each once, by
display name and id, and every client has the time of its registration.  All operations keep that
but one: a new client is checked under its trimmed id, and stored and looked up under the id as it
came.  So an id with blanks around it breaks the roster (`blanks_hide_client`), and where none is
registered the roster stays in order, and whoever is registered is found (`roster_in_order`).
-/

namespace MasterControl
namespace Clients

open Foundation Supervisor MasterControl.Configuration

/-! ## Runs -/

/-- What the service is called for. -/
inductive RosterCall where
  /-- The service is constructed. -/
  | scrub
  | upsertClient (input : LanClient)
  | removeClient (clientId : String)
  | setPrivileges (clientId : String) (privileges : LanClientPrivileges)
  | setAutonomousMode (clientId : String) (enabled : Bool)
  | enableClient (clientId : String)
  | disableClient (clientId : String)
  | touchClient (clientId observedAddress : String)

/-- A call, with the clock and the outcome of the write. -/
structure RosterStep where
  call : RosterCall
  now : String
  clock : now ≠ ""
  persisted : Bool

/-- The edit behind a call; a scrub and a touch give no answer. -/
def RosterCall.edit (now : String) : RosterCall → Option RosterEdit
  | scrub | touchClient _ _ => none
  | upsertClient input => some (Clients.upsertClient now input)
  | removeClient clientId => some (Clients.removeClient clientId)
  | setPrivileges clientId privileges => some (Clients.setPrivileges clientId privileges)
  | setAutonomousMode clientId enabled => some (Clients.setAutonomousMode clientId enabled)
  | enableClient clientId => some (Clients.enableClient now clientId)
  | disableClient clientId => some (Clients.disableClient now clientId)

def rosterStep (roster : List LanClient) (label : RosterStep) : List LanClient :=
  match label.call with
  | .scrub => scrub roster
  | .touchClient clientId observedAddress => touchClient label.now clientId observedAddress roster
  | call =>
    match call.edit label.now with
    | some edit => (edit.perform label.persisted roster).2
    | none => roster

def rosterSystem (start : List LanClient) : TransitionSystem (List LanClient) RosterStep where
  init := start
  step := rosterStep

/-! ## The invariant -/

structure InOrder (roster : List LanClient) : Prop where
  lowerCase : ∀ c ∈ roster, normalizeId c.clientId = c.clientId
  safe : ∀ c ∈ roster, isSafeUrlSegmentId c.clientId = true
  unique : (roster.map LanClient.clientId).Nodup
  ordered : roster.Pairwise LanClient.listedBefore
  created : ∀ c ∈ roster, c.createdAtUtc ≠ ""

theorem InOrder.nonempty {roster : List LanClient} (h : InOrder roster) {c : LanClient}
    (hc : c ∈ roster) : c.clientId ≠ "" := by
  intro hempty
  have hsafe := h.safe c hc
  rw [hempty] at hsafe
  cases hsafe

theorem inOrder_nil : InOrder [] where
  lowerCase _ h := absurd h List.not_mem_nil
  safe _ h := absurd h List.not_mem_nil
  unique := List.nodup_nil
  ordered := List.Pairwise.nil
  created _ h := absurd h List.not_mem_nil

/-- No client is registered under an id with blanks around it. -/
def Tidy (_ : List LanClient) (label : RosterStep) : Prop :=
  ∀ input, label.call = .upsertClient input → clientProblem input = none →
    trimCopy input.clientId = input.clientId

/-! ## Ids -/

@[simp] theorem normalizeId_normalizeId (id : String) :
    normalizeId (normalizeId id) = normalizeId id := by
  unfold normalizeId
  rw [String.toList_ofList, List.map_map]
  refine congrArg String.ofList (List.map_congr_left fun c _ => ?_)
  exact Char.toLower_toLower_eq_toLower c

/-- Lower case keeps an id safe. -/
theorem isSafeUrlSegmentId_normalizeId {id : String} (h : isSafeUrlSegmentId id = true) :
    isSafeUrlSegmentId (normalizeId id) = true := by
  unfold isSafeUrlSegmentId at h ⊢
  rw [Bool.and_eq_true, decide_eq_true_iff, List.all_eq_true] at h
  obtain ⟨hne, hall⟩ := h
  rw [Bool.and_eq_true, decide_eq_true_iff, List.all_eq_true]
  unfold normalizeId
  constructor
  · intro hempty
    refine hne (String.toList_inj.mp ?_)
    have hnil := congrArg String.toList hempty
    rw [String.toList_ofList] at hnil
    exact List.map_eq_nil_iff.mp hnil
  · intro c hc
    rw [String.toList_ofList] at hc
    obtain ⟨c, hmem, rfl⟩ := List.mem_map.mp hc
    by_cases hupper : c.isUpper = true
    · have halpha : c.toLower.isLower = true := by
        rw [Char.isLower_toLower_eq_isAlpha, Char.isAlpha, hupper, Bool.true_or]
      have hletter : (('a' ≤ c.toLower && c.toLower ≤ 'z') : Bool) = true := halpha
      rw [hletter]
      rfl
    · rw [Char.toLower_eq_of_not_isUpper hupper]
      exact hall c hmem

/-- An accepted id without blanks is safe. -/
theorem safe_of_accepted {input : LanClient} (h : clientProblem input = none)
    (htidy : trimCopy input.clientId = input.clientId) :
    isSafeUrlSegmentId input.clientId = true := by
  unfold clientProblem refuse at h
  split_ifs at h with h₁ h₂ h₃
  rw [htidy, Bool.not_eq_true', Bool.not_eq_false] at h₂
  exact h₂

theorem not_blank_of_accepted {input : LanClient} (h : clientProblem input = none) :
    ¬ ((input.clientId = "" || isBlank input.clientId) = true) := by
  unfold clientProblem refuse at h
  split_ifs at h with h₁
  exact h₁

/-! ## Order -/

theorem listedBefore_total (a b : LanClient) : a.listedBefore b ∨ b.listedBefore a := by
  unfold LanClient.listedBefore
  rcases lt_trichotomy a.displayName b.displayName with hlt | heq | hgt
  · exact Or.inl (Or.inl hlt)
  · rcases le_total a.clientId b.clientId with hle | hle
    · exact Or.inl (Or.inr ⟨heq, hle⟩)
    · exact Or.inr (Or.inr ⟨heq.symm, hle⟩)
  · exact Or.inr (Or.inl hgt)

theorem LanClient.listedBefore.trans {a b c : LanClient} (hab : a.listedBefore b)
    (hbc : b.listedBefore c) : a.listedBefore c := by
  rcases hab with hab | ⟨hab, hid⟩ <;> rcases hbc with hbc | ⟨hbc, hid'⟩
  · exact Or.inl (hab.trans hbc)
  · exact Or.inl (hab.trans_eq hbc)
  · exact Or.inl (hab.trans_lt hbc)
  · exact Or.inr ⟨hab.trans hbc, hid.trans hid'⟩

theorem ordered_insertionSort (roster : List LanClient) :
    (roster.insertionSort LanClient.listedBefore).Pairwise LanClient.listedBefore :=
  haveI : Std.Total LanClient.listedBefore := ⟨listedBefore_total⟩
  haveI : IsTrans LanClient LanClient.listedBefore := ⟨fun _ _ _ => LanClient.listedBefore.trans⟩
  List.pairwise_insertionSort LanClient.listedBefore roster

/-! ## What an operation keeps -/

section Steps

variable {roster after : List LanClient} {g : LanClient → LanClient}

/-- What the order of the roster depends on. -/
def LanClient.entry (client : LanClient) : String × String × String :=
  (client.clientId, client.displayName, client.createdAtUtc)

/-- Rosters with the same entries are in order together. -/
theorem InOrder.of_entries (h : InOrder roster)
    (hentries : after.map LanClient.entry = roster.map LanClient.entry) : InOrder after := by
  have hmem : ∀ c ∈ after, ∃ c' ∈ roster, c'.entry = c.entry := fun c hc => by
    have hc' := List.mem_map_of_mem (f := LanClient.entry) hc
    rw [hentries] at hc'
    exact List.mem_map.mp hc'
  refine ⟨fun c hc => ?_, fun c hc => ?_, ?_, ?_, fun c hc => ?_⟩
  · obtain ⟨c', hc', hentry⟩ := hmem c hc
    rw [← (Prod.mk.inj hentry).1]
    exact h.lowerCase c' hc'
  · obtain ⟨c', hc', hentry⟩ := hmem c hc
    rw [← (Prod.mk.inj hentry).1]
    exact h.safe c' hc'
  · have hids := congrArg (List.map Prod.fst) hentries
    rw [List.map_map, List.map_map] at hids
    change after.map LanClient.clientId = roster.map LanClient.clientId at hids
    rw [hids]
    exact h.unique
  · let before : String × String × String → String × String × String → Prop :=
      fun a b => a.2.1 < b.2.1 ∨ (a.2.1 = b.2.1 ∧ a.1 ≤ b.1)
    have hroster : (roster.map LanClient.entry).Pairwise before :=
      List.pairwise_map.mpr h.ordered
    rw [← hentries] at hroster
    have hafter : after.Pairwise fun a b => before a.entry b.entry := List.pairwise_map.mp hroster
    exact hafter
  · obtain ⟨c', hc', hentry⟩ := hmem c hc
    rw [← (Prod.mk.inj (Prod.mk.inj hentry).2).2]
    exact h.created c' hc'

theorem InOrder.rewriteClient (h : InOrder roster) (clientId : String)
    (hg : ∀ c, (g c).entry = c.entry) : InOrder (rewriteClient clientId g roster) :=
  h.of_entries (map_updateFirst_of_find? fun c _ => hg c)

theorem InOrder.filter (h : InOrder roster) (p : LanClient → Bool) : InOrder (roster.filter p) where
  lowerCase c hc := h.lowerCase c (List.mem_of_mem_filter hc)
  safe c hc := h.safe c (List.mem_of_mem_filter hc)
  unique := h.unique.sublist (List.filter_sublist.map _)
  ordered := h.ordered.filter p
  created c hc := h.created c (List.mem_of_mem_filter hc)

/-- What an upsert lists. -/
theorem mem_upsertClient (hunique : (roster.map LanClient.clientId).Nodup) {now : String}
    {input c : LanClient} (hc : c ∈ (upsertClient now input).apply roster) :
    c ∈ roster ∨
      (roster.find? (LanClient.isNamed (normalizeId input.clientId)) = none ∧
        c = registeredClient now (normalizedClient input)) ∨
      ∃ old, roster.find? (LanClient.isNamed (normalizeId input.clientId)) = some old ∧
        c = updatedClient now (normalizedClient input) old := by
  have hperm := (List.perm_insertionSort LanClient.listedBefore _).mem_iff.mp hc
  cases hfind : roster.find? (LanClient.isNamed (normalizeId input.clientId)) with
  | none =>
    have hcase : roster.find? (LanClient.isNamed (normalizedClient input).clientId) = none := hfind
    rw [hcase] at hperm
    rcases List.mem_append.mp hperm with hmem | hmem
    · exact Or.inl hmem
    · exact Or.inr (Or.inl ⟨rfl, List.mem_singleton.mp hmem⟩)
  | some old =>
    have hcase : roster.find? (LanClient.isNamed (normalizedClient input).clientId) = some old :=
      hfind
    rw [hcase] at hperm
    have hold := List.mem_of_find?_eq_some hfind
    have hid := isNamed_iff.mp (List.find?_some hfind)
    rcases (mem_updateFirst hunique hold hid).mp hperm with heq | ⟨hmem, -⟩
    · exact Or.inr (Or.inr ⟨old, rfl, heq⟩)
    · exact Or.inl hmem

/-- An upsert keeps the ids, or adds its own. -/
theorem ids_upsertClient (now : String) (input : LanClient) (roster : List LanClient) :
    (((upsertClient now input).apply roster).map LanClient.clientId).Perm
      (if (roster.find? (LanClient.isNamed (normalizeId input.clientId))).isSome then
        roster.map LanClient.clientId
      else roster.map LanClient.clientId ++ [normalizeId input.clientId]) := by
  refine ((List.perm_insertionSort LanClient.listedBefore _).map _).trans (List.Perm.of_eq ?_)
  cases hfind : roster.find? (LanClient.isNamed (normalizeId input.clientId)) with
  | none =>
    have hcase : roster.find? (LanClient.isNamed (normalizedClient input).clientId) = none := hfind
    rw [hcase]
    exact List.map_append
  | some old =>
    have hcase : roster.find? (LanClient.isNamed (normalizedClient input).clientId) = some old :=
      hfind
    rw [hcase, Option.isSome_some, if_pos rfl]
    refine map_updateFirst (fun c hc => ?_) roster
    exact (isNamed_iff.mp hc).symm

/-- An upsert under an id without blanks keeps the order. -/
theorem InOrder.upsertClient (h : InOrder roster) {now : String} (hclock : now ≠ "")
    {input : LanClient} (haccepted : clientProblem input = none)
    (htidy : trimCopy input.clientId = input.clientId) :
    InOrder ((upsertClient now input).apply roster) := by
  have hsafe := isSafeUrlSegmentId_normalizeId (safe_of_accepted haccepted htidy)
  refine ⟨fun c hc => ?_, fun c hc => ?_, ?_, ordered_insertionSort _, fun c hc => ?_⟩
  · rcases mem_upsertClient h.unique hc with hmem | ⟨-, rfl⟩ | ⟨old, -, rfl⟩
    · exact h.lowerCase c hmem
    · exact normalizeId_normalizeId input.clientId
    · exact normalizeId_normalizeId input.clientId
  · rcases mem_upsertClient h.unique hc with hmem | ⟨-, rfl⟩ | ⟨old, -, rfl⟩
    · exact h.safe c hmem
    · exact hsafe
    · exact hsafe
  · refine (ids_upsertClient now input roster).nodup_iff.mpr ?_
    cases hfind : roster.find? (LanClient.isNamed (normalizeId input.clientId)) with
    | none =>
      rw [Option.isSome_none, if_neg Bool.false_ne_true]
      refine List.nodup_append.mpr ⟨h.unique, List.nodup_singleton _, ?_⟩
      intro id hid id' hid' heq
      obtain ⟨c, hc, rfl⟩ := List.mem_map.mp hid
      rw [List.mem_singleton.mp hid'] at heq
      exact find?_isNamed_eq_none_iff.mp hfind ⟨c, hc, heq⟩
    | some old =>
      rw [Option.isSome_some, if_pos rfl]
      exact h.unique
  · rcases mem_upsertClient h.unique hc with hmem | ⟨-, rfl⟩ | ⟨old, -, rfl⟩
    · exact h.created c hmem
    · unfold registeredClient
      dsimp only
      split_ifs with hcreated
      · exact hclock
      · exact hcreated
    · unfold updatedClient
      dsimp only
      split_ifs with hcreated
      · exact hclock
      · exact hcreated

/-! ## One step -/

theorem rosterStep_of_edit {label : RosterStep} {edit : RosterEdit}
    (hedit : label.call.edit label.now = some edit) :
    rosterStep roster label = (edit.perform label.persisted roster).2 := by
  unfold rosterStep
  cases hcall : label.call with
  | scrub => rw [hcall] at hedit; cases hedit
  | touchClient clientId observedAddress => rw [hcall] at hedit; cases hedit
  | _ =>
    rw [hcall] at hedit
    dsimp only
    rw [hedit]

theorem InOrder.perform (h : InOrder roster) {edit : RosterEdit} {persisted : Bool}
    (happly : edit.refusal roster = none → InOrder (edit.apply roster)) :
    InOrder (edit.perform persisted roster).2 := by
  unfold RosterEdit.perform
  cases hrefusal : edit.refusal roster with
  | some result => exact h
  | none => exact happly hrefusal

theorem InOrder.step (h : InOrder roster) {label : RosterStep} (htidy : Tidy roster label) :
    InOrder (rosterStep roster label) := by
  cases hcall : label.call with
  | scrub =>
    unfold rosterStep
    rw [hcall]
    exact h.filter _
  | touchClient clientId observedAddress =>
    unfold rosterStep
    rw [hcall]
    change InOrder (touchClient label.now clientId observedAddress roster)
    unfold touchClient
    split
    · exact h
    · exact h.rewriteClient clientId fun _ => rfl
  | upsertClient input =>
    rw [rosterStep_of_edit (congrArg _ hcall)]
    exact h.perform fun hrefusal => h.upsertClient label.clock hrefusal
      (htidy input hcall hrefusal)
  | removeClient clientId =>
    rw [rosterStep_of_edit (congrArg _ hcall)]
    exact h.perform fun _ => h.filter _
  | setPrivileges clientId privileges =>
    rw [rosterStep_of_edit (congrArg _ hcall)]
    exact h.perform fun _ => h.rewriteClient clientId fun _ => rfl
  | setAutonomousMode clientId enabled =>
    rw [rosterStep_of_edit (congrArg _ hcall)]
    exact h.perform fun _ => h.rewriteClient clientId fun _ => rfl
  | enableClient clientId =>
    rw [rosterStep_of_edit (congrArg _ hcall)]
    exact h.perform fun _ => h.rewriteClient clientId fun _ => rfl
  | disableClient clientId =>
    rw [rosterStep_of_edit (congrArg _ hcall)]
    exact h.perform fun _ => h.rewriteClient clientId fun _ => rfl

/-- The time of the first registration stays with a client. -/
def KeepsRegistration (before after : List LanClient) : Prop :=
  ∀ c ∈ before, ∀ c' ∈ after, c'.clientId = c.clientId → c'.createdAtUtc = c.createdAtUtc

/-- A client is found under its id, and can be removed. -/
def WithinReach (id : String) (roster : List LanClient) : Prop :=
  (getClient id roster).isSome = true ∧
    ∀ persisted, ((removeClient id).perform persisted roster).1.succeeded = persisted

theorem InOrder.keepsRegistration_of_entries (h : InOrder roster)
    (hentries : ∀ c ∈ after, c.entry ∈ roster.map LanClient.entry) :
    KeepsRegistration roster after := by
  intro c hc c' hc' hid
  obtain ⟨c₀, hc₀, hentry⟩ := List.mem_map.mp (hentries c' hc')
  have hsame : c₀ = c :=
    eq_of_key_eq h.unique hc₀ hc ((Prod.mk.inj hentry).1.trans hid)
  rw [← (Prod.mk.inj (Prod.mk.inj hentry).2).2, hsame]

theorem InOrder.keepsRegistration_rewriteClient (h : InOrder roster) (clientId : String)
    (hg : ∀ c, (g c).entry = c.entry) :
    KeepsRegistration roster (Clients.rewriteClient clientId g roster) := by
  refine h.keepsRegistration_of_entries fun c hc => ?_
  have hentries : (Clients.rewriteClient clientId g roster).map LanClient.entry =
      roster.map LanClient.entry := map_updateFirst_of_find? fun c _ => hg c
  rw [← hentries]
  exact List.mem_map_of_mem hc

theorem InOrder.keepsRegistration_perform (h : InOrder roster) {edit : RosterEdit}
    {persisted : Bool} (happly : KeepsRegistration roster (edit.apply roster)) :
    KeepsRegistration roster (edit.perform persisted roster).2 := by
  unfold RosterEdit.perform
  cases hrefusal : edit.refusal roster with
  | some result => exact h.keepsRegistration_of_entries fun c hc => List.mem_map_of_mem hc
  | none => exact happly

/-- A record that takes the place of another keeps its time; a new one has no other to keep. -/
theorem InOrder.keepsRegistration_upsertClient (h : InOrder roster) (now : String)
    (input : LanClient) :
    KeepsRegistration roster ((Clients.upsertClient now input).apply roster) := by
  intro c hc c' hc' hid
  rcases mem_upsertClient h.unique hc' with hmem | ⟨hfind, rfl⟩ | ⟨old, hfind, rfl⟩
  · rw [eq_of_key_eq h.unique hmem hc hid]
  · exact absurd ⟨c, hc, hid.symm⟩ (find?_isNamed_eq_none_iff.mp hfind)
  · have hold := List.mem_of_find?_eq_some hfind
    have hsame : old = c :=
      eq_of_key_eq h.unique hold hc ((isNamed_iff.mp (List.find?_some hfind)).trans hid)
    unfold updatedClient
    rw [hsame]
    exact if_neg (h.created c hc)

theorem InOrder.keepsRegistration_step (h : InOrder roster) (label : RosterStep) :
    KeepsRegistration roster (rosterStep roster label) := by
  have hfilter : ∀ p : LanClient → Bool, KeepsRegistration roster (roster.filter p) := fun p =>
    h.keepsRegistration_of_entries fun c hc => List.mem_map_of_mem (List.mem_of_mem_filter hc)
  cases hcall : label.call with
  | scrub =>
    unfold rosterStep
    rw [hcall]
    exact hfilter _
  | touchClient clientId observedAddress =>
    unfold rosterStep
    rw [hcall]
    change KeepsRegistration roster (touchClient label.now clientId observedAddress roster)
    unfold touchClient
    split
    · exact h.keepsRegistration_of_entries fun c hc => List.mem_map_of_mem hc
    · exact h.keepsRegistration_rewriteClient clientId fun _ => rfl
  | upsertClient input =>
    rw [rosterStep_of_edit (congrArg _ hcall)]
    exact h.keepsRegistration_perform (h.keepsRegistration_upsertClient label.now input)
  | removeClient clientId =>
    rw [rosterStep_of_edit (congrArg _ hcall)]
    exact h.keepsRegistration_perform (hfilter _)
  | setPrivileges clientId privileges =>
    rw [rosterStep_of_edit (congrArg _ hcall)]
    exact h.keepsRegistration_perform (h.keepsRegistration_rewriteClient clientId fun _ => rfl)
  | setAutonomousMode clientId enabled =>
    rw [rosterStep_of_edit (congrArg _ hcall)]
    exact h.keepsRegistration_perform (h.keepsRegistration_rewriteClient clientId fun _ => rfl)
  | enableClient clientId =>
    rw [rosterStep_of_edit (congrArg _ hcall)]
    exact h.keepsRegistration_perform (h.keepsRegistration_rewriteClient clientId fun _ => rfl)
  | disableClient clientId =>
    rw [rosterStep_of_edit (congrArg _ hcall)]
    exact h.keepsRegistration_perform (h.keepsRegistration_rewriteClient clientId fun _ => rfl)

/-! ## Registered clients are found -/

/-- After an upsert its id is listed. -/
theorem registered_upsertClient (now : String) (input : LanClient) (roster : List LanClient) :
    Registered (normalizeId input.clientId) ((upsertClient now input).apply roster) := by
  have hids := ids_upsertClient now input roster
  have hmem : normalizeId input.clientId ∈
      ((upsertClient now input).apply roster).map LanClient.clientId := by
    refine hids.mem_iff.mpr ?_
    cases hfind : roster.find? (LanClient.isNamed (normalizeId input.clientId)) with
    | none =>
      rw [Option.isSome_none, if_neg Bool.false_ne_true]
      exact List.mem_append_right _ (List.mem_singleton_self _)
    | some old =>
      rw [Option.isSome_some, if_pos rfl]
      exact List.mem_map.mpr
        ⟨old, List.mem_of_find?_eq_some hfind, isNamed_iff.mp (List.find?_some hfind)⟩
  exact List.mem_map.mp hmem

theorem reachable_of_registered {id : String}
    (hid : ¬ ((id = "" || isBlank id) = true)) (h : Registered (normalizeId id) roster) :
    WithinReach id roster := by
  have hne : id ≠ "" := fun hempty => hid (by rw [hempty]; rfl)
  constructor
  · unfold getClient
    rw [if_neg hne, Option.isSome_iff_ne_none]
    exact fun hnone => find?_isNamed_eq_none_iff.mp hnone h
  · intro persisted
    obtain ⟨c, hc, hname⟩ := h
    have hfewer : (roster.filter fun candidate => !candidate.isNamed (normalizeId id)).length <
        roster.length := by
      refine List.length_filter_lt_length_iff_exists.mpr ⟨c, hc, ?_⟩
      rw [isNamed_iff.mpr hname]
      exact Bool.false_ne_true
    have haccepted : (removeClient id).refusal roster = none := by
      unfold removeClient
      dsimp only
      rw [if_neg hid, if_neg (ne_of_lt hfewer)]
    unfold RosterEdit.perform
    rw [haccepted]

end Steps

/-! ## Runs -/

/-- **The roster stays in order, and clients stay within reach**: in every run that starts from a
roster in order and registers no id with blanks around it. -/
theorem roster_in_order {start roster : List LanClient} (hstart : InOrder start)
    (h : (rosterSystem start).ReachableBy Tidy roster) :
    InOrder roster ∧ ∀ label, Tidy roster label →
      KeepsRegistration roster (rosterStep roster label) ∧
      ∀ input, label.call = .upsertClient input →
        ((upsertClient label.now input).perform label.persisted roster).1.succeeded = true →
        WithinReach (trimCopy input.clientId) (rosterStep roster label) := by
  have horder : InOrder roster :=
    h.invariant hstart fun s label hs htidy => hs.step htidy
  refine ⟨horder, fun label htidy => ⟨horder.keepsRegistration_step label, ?_⟩⟩
  intro input hcall hsucceeded
  rw [rosterStep_of_edit (congrArg _ hcall)]
  cases hproblem : clientProblem input with
  | some result =>
    have hrefused : ((upsertClient label.now input).perform label.persisted roster).1 = result := by
      unfold RosterEdit.perform
      have hrefusal : (upsertClient label.now input).refusal roster = some result := hproblem
      rw [hrefusal]
    rw [hrefused] at hsucceeded
    unfold clientProblem refuse at hproblem
    split_ifs at hproblem <;> cases hproblem <;> cases hsucceeded
  | none =>
    have haccepted : (upsertClient label.now input).refusal roster = none := hproblem
    unfold RosterEdit.perform
    rw [haccepted, htidy input hcall hproblem]
    exact reachable_of_registered (not_blank_of_accepted hproblem)
      (registered_upsertClient label.now input roster)

/-- Alice, as she is registered. -/
def enrolment (clientId : String) : RosterStep where
  call := .upsertClient { clientId, displayName := "Alice" }
  now := "2026-01-01T00:00:00Z"
  clock := by decide
  persisted := true

theorem roster_in_order_enrolled :
    InOrder ((rosterSystem []).run [] [enrolment "Alice"]) ∧
      WithinReach "Alice" (rosterStep ((rosterSystem []).run [] [enrolment "Alice"])
        (enrolment "Alice")) := by
  have htidy : ∀ roster, Tidy roster (enrolment "Alice") := by
    rintro roster input hcall -
    cases hcall
    decide +kernel
  obtain ⟨horder, hstep⟩ := roster_in_order inOrder_nil
    (TransitionSystem.ReachableBy.init.run [enrolment "Alice"] ⟨htidy _, trivial⟩)
  refine ⟨horder, ?_⟩
  have hreach := (hstep (enrolment "Alice") (htidy _)).2 _ rfl (by decide +kernel)
  have htrim : trimCopy "Alice" = "Alice" := by decide +kernel
  rwa [htrim] at hreach

/-- **A blank hides a client**: the registration succeeds, and the client is neither found nor
removed under its trimmed id, which no stored id has the shape of. -/
theorem blanks_hide_client :
    let roster := rosterStep [] (enrolment " Alice")
    ((upsertClient "2026-01-01T00:00:00Z" { clientId := " Alice", displayName := "Alice" }).perform
        true []).1.succeeded = true ∧
      ¬ InOrder roster ∧ ¬ WithinReach (trimCopy " Alice") roster := by
  refine ⟨by decide +kernel, fun h => ?_, fun h => ?_⟩
  · have hunsafe : ∃ c ∈ rosterStep [] (enrolment " Alice"),
        isSafeUrlSegmentId c.clientId = false := by decide +kernel
    obtain ⟨c, hc, hunsafe⟩ := hunsafe
    rw [h.safe c hc] at hunsafe
    cases hunsafe
  · have hhidden : (getClient (trimCopy " Alice")
        (rosterStep [] (enrolment " Alice"))).isSome = false := by decide +kernel
    have hfound := h.1
    rw [hhidden] at hfound
    cases hfound

end Clients
end MasterControl
