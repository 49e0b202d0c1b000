import MasterControl.Foundation.Separators
import MasterControl.Supervisor.Model

/-!
# Tool names

`tools/list` shows every catalog entry the client may use under the name
`serverName__toolName`; `tools/call` hands the name to `McpToolNameResolver::resolve`,
which takes the first entry whose qualified name matches and only then looks at bare tool
names.  Both parts of a qualified name may contain underscores, so two entries can have
one qualified name (`NamesCollide`), and the later of them cannot be called.  The list and
the calls agree exactly when no listed entry collides with an earlier one
(`toolsAgree_iff`).
-/

namespace MasterControl
namespace Gateway

open Foundation Supervisor

/-! ## The catalog -/

structure McpToolDescriptor where
  serverName : String
  toolName : String
  description : String := ""
  /-- The schema the child reported, serialized; empty if it reported none. -/
  inputSchemaJson : String := ""
  requiredCapabilities : List String := []
  risk : String := ""
  highRisk : Bool := false
  deriving DecidableEq

/-! ## Capabilities -/

/-- `std::isspace` in the C locale. -/
def isSpace (c : Char) : Bool := c ∈ [' ', '\t', '\n', '\x0b', '\x0c', '\r']

/-- Trimmed, and in ASCII lower case. -/
def normalizeCapability (capability : String) : String :=
  String.ofList ((((capability.toList.dropWhile isSpace).reverse.dropWhile isSpace).reverse).map
    Char.toLower)

def hasCapability (capabilities : List String) (capability : String) : Bool :=
  normalizeCapability capability ∈ capabilities

def hasAllCapabilities (granted required : List String) : Bool :=
  required.all (hasCapability granted)

/-! ## Resolution -/

inductive McpToolNameResolutionStatus where
  | found
  | notFound
  | ambiguous
  deriving DecidableEq

structure McpToolNameResolution where
  status : McpToolNameResolutionStatus := .notFound
  poolId : String := ""
  localToolName : String := ""
  requiredCapabilities : List String := []
  deriving DecidableEq

def qualifiedName (d : McpToolDescriptor) : String := d.serverName ++ "__" ++ d.toolName

def found (d : McpToolDescriptor) : McpToolNameResolution where
  status := .found
  poolId := d.serverName
  localToolName := d.toolName
  requiredCapabilities := d.requiredCapabilities

/-- The first entry with this qualified name; else the only entry with this tool name. -/
def resolve (catalog : List McpToolDescriptor) (requestedName : String) :
    McpToolNameResolution :=
  match catalog.find? fun d => qualifiedName d = requestedName with
  | some d => found d
  | none =>
    match catalog.filter fun d => d.toolName = requestedName with
    | [] => {}
    | [d] => found d
    | _ :: _ :: _ => { status := .ambiguous }

/-- The entries `tools/list` shows to a client. -/
def listedTools (catalog : List McpToolDescriptor) (granted : List String) :
    List McpToolDescriptor :=
  catalog.filter fun d => hasAllCapabilities granted d.requiredCapabilities

/-! ## Collisions -/

/-- The qualified names agree although the second server name is longer: it ends in half
a separator that the first tool name starts with, or in a whole one and more. -/
def ShiftedName (d d' : McpToolDescriptor) : Prop :=
  (d'.serverName = d.serverName ++ "_" ∧ d.toolName = "_" ++ d'.toolName) ∨
    ∃ u : String, d'.serverName = d.serverName ++ "__" ++ u ∧
      d.toolName = u ++ "__" ++ d'.toolName

/-- Two entries with different parts and one qualified name. -/
def NamesCollide (d d' : McpToolDescriptor) : Prop := ShiftedName d d' ∨ ShiftedName d' d

theorem shiftedName_iff {d d' : McpToolDescriptor} :
    ShiftedName d d' ↔ Shifted '_' d.serverName.toList d.toolName.toList
      d'.serverName.toList d'.toolName.toList := by
  unfold ShiftedName Shifted
  refine or_congr ?_ ⟨?_, ?_⟩
  · rw [← String.toList_inj, ← String.toList_inj, String.toList_append, String.toList_append]
    rfl
  · rintro ⟨u, hserver, htool⟩
    refine ⟨u.toList, ?_, ?_⟩
    · rw [hserver]
      simp [String.toList_append]
    · rw [htool]
      simp [String.toList_append]
  · rintro ⟨u, hserver, htool⟩
    refine ⟨String.ofList u, ?_, ?_⟩
    · rw [← String.toList_inj, hserver]
      simp [String.toList_append]
    · rw [← String.toList_inj, htool]
      simp [String.toList_append]

theorem toList_qualifiedName (d : McpToolDescriptor) :
    (qualifiedName d).toList = d.serverName.toList ++ '_' :: '_' :: d.toolName.toList := by
  simp [qualifiedName, String.toList_append]

/-- **Colliding entries are those with one qualified name and different parts.** -/
theorem namesCollide_iff {d d' : McpToolDescriptor} :
    NamesCollide d d' ↔ qualifiedName d = qualifiedName d' ∧
      (d.serverName, d.toolName) ≠ (d'.serverName, d'.toolName) := by
  rw [NamesCollide, shiftedName_iff, shiftedName_iff, ← String.toList_inj,
    toList_qualifiedName, toList_qualifiedName, append_pair_eq_iff]
  constructor
  · intro h
    refine ⟨Or.inr h, fun heq => ?_⟩
    have hserver : d.serverName = d'.serverName := congrArg Prod.fst heq
    rcases h with h | h
    · exact h.ne (congrArg String.toList hserver)
    · exact h.ne (congrArg String.toList hserver.symm)
  · rintro ⟨⟨hserver, htool⟩ | h, hne⟩
    · refine absurd ?_ hne
      rw [String.toList_inj.mp hserver, String.toList_inj.mp htool]
    · exact h

/-! ## The list and the calls -/

/-- What a client may expect of the names it is shown. -/
structure ToolsAgree (catalog : List McpToolDescriptor) (granted : List String) : Prop where
  resolves : ∀ d ∈ listedTools catalog granted, resolve catalog (qualifiedName d) = found d
  distinct : ∀ d ∈ listedTools catalog granted, ∀ d' ∈ listedTools catalog granted,
    d ≠ d' → qualifiedName d ≠ qualifiedName d'

/-- No entry the client is shown collides with one that stands before it. -/
def NoEarlierCollision (catalog : List McpToolDescriptor) (granted : List String) : Prop :=
  ∀ before d after, catalog = before ++ d :: after →
    hasAllCapabilities granted d.requiredCapabilities = true →
      ∀ d' ∈ before, ¬ NamesCollide d' d

/-- An entry resolves to the first entry with its qualified name. -/
theorem resolve_qualifiedName {catalog : List McpToolDescriptor} {d : McpToolDescriptor}
    (hd : d ∈ catalog) :
    ∃ e, catalog.find? (fun e => qualifiedName e = qualifiedName d) = some e ∧
      resolve catalog (qualifiedName d) = found e := by
  have hsome : (catalog.find? fun e => qualifiedName e = qualifiedName d).isSome := by
    rw [List.find?_isSome]
    exact ⟨d, hd, decide_eq_true rfl⟩
  obtain ⟨e, he⟩ := Option.isSome_iff_exists.mp hsome
  exact ⟨e, he, by rw [resolve, he]⟩

/-- **When `tools/list` and `tools/call` agree.** -/
theorem toolsAgree_iff {catalog : List McpToolDescriptor} {granted : List String}
    (hdistinct : (catalog.map fun d => (d.serverName, d.toolName)).Nodup) :
    ToolsAgree catalog granted ↔ NoEarlierCollision catalog granted := by
  have hinj : ∀ {d e : McpToolDescriptor}, d ∈ catalog → e ∈ catalog → found d = found e →
      d = e := by
    intro d e hd he heq
    refine List.inj_on_of_nodup_map hdistinct hd he (Prod.ext ?_ ?_)
    · exact congrArg McpToolNameResolution.poolId heq
    · exact congrArg McpToolNameResolution.localToolName heq
  constructor
  · -- the first entry with the name of `d` stands before `d`
    rintro ⟨hresolves, -⟩ before d after rfl hgranted d' hd' hcollide
    obtain ⟨hname, -⟩ := namesCollide_iff.mp hcollide
    have hd : d ∈ before ++ d :: after := List.mem_append_right _ List.mem_cons_self
    obtain ⟨e, he, hresolve⟩ := resolve_qualifiedName hd
    rw [hresolves d (List.mem_filter.mpr ⟨hd, hgranted⟩)] at hresolve
    have hfound : (before.find? fun e => qualifiedName e = qualifiedName d).isSome := by
      rw [List.find?_isSome]
      exact ⟨d', hd', decide_eq_true hname⟩
    obtain ⟨e', he'⟩ := Option.isSome_iff_exists.mp hfound
    rw [List.find?_append, he', Option.some_or] at he
    obtain rfl := Option.some.inj he
    have hbefore := List.mem_of_find?_eq_some he'
    obtain rfl := hinj hd (List.mem_append_left _ hbefore) hresolve
    rw [List.map_append, List.map_cons, List.nodup_append] at hdistinct
    exact hdistinct.2.2 _ (List.mem_map_of_mem hbefore) _ List.mem_cons_self rfl
  · intro hnone
    have hresolves : ∀ d ∈ listedTools catalog granted,
        resolve catalog (qualifiedName d) = found d := by
      intro d hlisted
      obtain ⟨hd, hgranted⟩ := List.mem_filter.mp hlisted
      obtain ⟨e, he, hresolve⟩ := resolve_qualifiedName hd
      obtain ⟨before, after, rfl⟩ := List.append_of_mem hd
      have hmiss : (before.find? fun e => qualifiedName e = qualifiedName d) = none := by
        refine List.find?_eq_none.mpr fun d' hd' hname => ?_
        refine hnone before d after rfl hgranted d' hd' (namesCollide_iff.mpr
          ⟨of_decide_eq_true hname, fun heq => ?_⟩)
        rw [List.map_append, List.map_cons, List.nodup_append] at hdistinct
        exact hdistinct.2.2 _ (List.mem_map_of_mem hd') _ List.mem_cons_self heq
      rw [List.find?_append, hmiss, Option.none_or, List.find?_cons, decide_eq_true rfl] at he
      rw [hresolve, Option.some.inj he]
    refine ⟨hresolves, fun d hd d' hd' hne hname => hne ?_⟩
    have hsame := hresolves d hd
    rw [hname, hresolves d' hd'] at hsame
    exact hinj (List.mem_filter.mp hd).1 (List.mem_filter.mp hd').1 hsame.symm

/-- Nothing collides where no two qualified names are the same. -/
theorem noEarlierCollision_of_nodup {catalog : List McpToolDescriptor} {granted : List String}
    (h : (catalog.map qualifiedName).Nodup) : NoEarlierCollision catalog granted := by
  rintro before d after rfl - d' hd' hcollide
  rw [List.map_append, List.map_cons, List.nodup_append] at h
  exact h.2.2 _ (List.mem_map_of_mem hd') _ List.mem_cons_self (namesCollide_iff.mp hcollide).1

/-! ### Two tools of one pool, and two tools with one name -/

theorem toolsAgree_of_two_tools :
    ToolsAgree [{ serverName := "files", toolName := "read" },
      { serverName := "files", toolName := "write" }] [] := by
  exact (toolsAgree_iff (by decide)).mpr (noEarlierCollision_of_nodup (by decide))

theorem tools_share_a_name :
    ¬ ∀ (catalog : List McpToolDescriptor) (granted : List String),
      (catalog.map fun d => (d.serverName, d.toolName)).Nodup →
      (∀ d ∈ catalog, isSafeUrlSegmentId d.serverName = true) → ToolsAgree catalog granted := by
  intro h
  have hagree := h [{ serverName := "a", toolName := "_b" },
    { serverName := "a_", toolName := "b", requiredCapabilities := ["process.exec"] }]
    ["process.exec"] (by decide) (by decide)
  exact absurd (hagree.resolves
    { serverName := "a_", toolName := "b", requiredCapabilities := ["process.exec"] }
    (by decide)) (by decide)

end Gateway
end MasterControl
