import MasterControl.Foundation.KeyedList
import MasterControl.Foundation.Runs
import MasterControl.Worker.KnowledgeGraph

/-!
# What the knowledge graph keeps

From the empty graph on, the document is always that of a typed graph, and every call does to it
what the graph's own operation does: `kgEntityUpsert_toJson` and its siblings.

Names of entities and relations are kept distinct by every call.  Observations are not: merging
drops what is there already, but a new entity keeps its list as it came.  So the graph is in order
in every run whose new entities come with distinct observations (`knowledge_graph_law`), and one
that repeats an observation keeps it (`new_entity_repeats`).
-/

namespace MasterControl
namespace Worker

open Foundation

/-! ## Graphs -/

structure Entity where
  name : String
  entityType : String
  observations : List String
  deriving DecidableEq

structure Relation where
  source : String
  target : String
  relationType : String
  deriving DecidableEq

structure Graph where
  entities : List Entity := []
  relations : List Relation := []

def Entity.toJson (e : Entity) : Json := entityJson e.name e.entityType e.observations

def Relation.toJson (r : Relation) : Json := relationJson r.source r.target r.relationType

def Graph.toJson (g : Graph) : Json :=
  .object [("entities", .array (g.entities.map Entity.toJson)),
    ("relations", .array (g.relations.map Relation.toJson))]

def Entity.isNamed (name : String) (e : Entity) : Bool := e.name = name

def Entity.merge (entityType : String) (observations : List String) (e : Entity) : Entity :=
  { e with entityType, observations := mergeObservations e.observations observations }

/-- The entity after an upsert. -/
def Graph.upserted (name entityType : String) (observations : List String) (g : Graph) : Entity :=
  match g.entities.find? (Entity.isNamed name) with
  | some e => e.merge entityType observations
  | none => { name, entityType, observations }

def Graph.upsert (name entityType : String) (observations : List String) (g : Graph) : Graph :=
  { g with
    entities := upsertFirst (Entity.isNamed name) (g.upserted name entityType observations)
      g.entities }

def Graph.relate (r : Relation) (g : Graph) : Graph :=
  if r ∈ g.relations then g else { g with relations := g.relations ++ [r] }

def Relation.mentions (name : String) (r : Relation) : Bool := r.source = name || r.target = name

def Graph.delete (name : String) (g : Graph) : Graph where
  entities := g.entities.filter fun e => !e.isNamed name
  relations := g.relations.filter fun r => !r.mentions name

/-- The query is found in the name, the type or an observation. -/
def Entity.matchesQuery (query : String) (e : Entity) : Bool :=
  containsCi query e.name || containsCi query e.entityType ||
    e.observations.any (containsCi query)

/-- The relation touches one of some entities. -/
def Relation.touchesOneOf (entities : List Entity) (r : Relation) : Bool :=
  entities.any fun e => r.mentions e.name

/-- The entities that match a query, with the relations that touch one of them. -/
def Graph.searchAnswer (query : String) (g : Graph) : Json :=
  let hits := g.entities.filter (Entity.matchesQuery query)
  .object [("query", .string query), ("entities", .array (hits.map Entity.toJson)),
    ("relations", .array ((g.relations.filter (Relation.touchesOneOf hits)).map Relation.toJson)),
    ("matchCount", .integer hits.length)]

/-! ## The document is that of a graph -/

section Documents

variable {file : Option Json} {g : Graph}

@[simp] theorem part?_entities_toJson (g : Graph) :
    part? "entities" g.toJson = .array (g.entities.map Entity.toJson) := rfl

@[simp] theorem part?_relations_toJson (g : Graph) :
    part? "relations" g.toJson = .array (g.relations.map Relation.toJson) := rfl

theorem loadKnowledgeGraph_none : loadKnowledgeGraph none = Graph.toJson {} := rfl

@[simp] theorem loadKnowledgeGraph_toJson (g : Graph) :
    loadKnowledgeGraph (some g.toJson) = g.toJson := rfl

@[simp] theorem observationsOf_toJson (e : Entity) : observationsOf e.toJson = e.observations :=
  Json.strings_map_string e.observations

@[simp] theorem valueString_name_toJson (e : Entity) :
    e.toJson.valueString "name" "" = some e.name := rfl

@[simp] theorem valueString_entityType_toJson (e : Entity) :
    e.toJson.valueString "entityType" "" = some e.entityType := rfl

@[simp] theorem mergeObservations_nil (old : List String) : mergeObservations old [] = old := rfl

theorem mergeEntity_toJson (entityType : String) (observations : List String) (e : Entity) :
    mergeEntity entityType observations e.toJson =
      some (e.merge entityType observations).toJson := by
  have htype : e.toJson.set? "entityType" (.string entityType) =
      some (entityJson e.name entityType e.observations) := rfl
  have hobservations : observationsOf (entityJson e.name entityType e.observations) =
      e.observations := Json.strings_map_string e.observations
  unfold mergeEntity
  rw [htype, Option.bind_eq_bind, Option.bind_some]
  split
  · next hnil =>
    rw [hnil]
    rfl
  · rw [hobservations]
    rfl

theorem updateNamed_map {name : String} {f : Json → Option Json} {h : Entity → Entity}
    (hf : ∀ e, f e.toJson = some (h e).toJson) (entities : List Entity) :
    updateNamed name f (entities.map Entity.toJson) =
      some ((entities.find? (Entity.isNamed name)).map fun e =>
        ((updateFirst (Entity.isNamed name) h entities).map Entity.toJson, (h e).toJson)) := by
  induction entities with
  | nil => rfl
  | cons e entities ih =>
    rw [List.map_cons, updateNamed, valueString_name_toJson, Option.bind_eq_bind,
      Option.bind_some]
    by_cases hname : e.name = name
    · have hnamed : e.isNamed name = true := decide_eq_true hname
      rw [if_pos hname, hf, List.find?_cons_of_pos hnamed, updateFirst, if_pos hnamed]
      rfl
    · have hnamed : ¬ e.isNamed name = true := fun hnamed => hname (of_decide_eq_true hnamed)
      rw [if_neg hname, ih, List.find?_cons_of_neg hnamed, updateFirst, if_neg hnamed]
      cases entities.find? (Entity.isNamed name) with
      | none => rfl
      | some found => rfl

theorem kgEntityUpsert_toJson (hfile : loadKnowledgeGraph file = g.toJson)
    (name entityType : String) (observations : List String) :
    kgEntityUpsert name entityType observations file =
      some ((g.upserted name entityType observations).toJson,
        some (g.upsert name entityType observations).toJson) := by
  unfold kgEntityUpsert Graph.upsert Graph.upserted
  dsimp only
  rw [hfile, part?_entities_toJson, Json.visited_array,
    updateNamed_map (mergeEntity_toJson entityType observations), Option.bind_eq_bind,
    Option.bind_some]
  cases hfind : g.entities.find? (Entity.isNamed name) with
  | some e =>
    dsimp only [Option.map_some]
    rw [upsertFirst_of_find?_some (f := Entity.merge entityType observations) hfind]
    rfl
  | none =>
    dsimp only [Option.map_none]
    have hpush : (Json.array (g.entities.map Entity.toJson)).push?
        (entityJson name entityType observations) =
          some (.array ((g.entities ++ [{ name, entityType, observations : Entity }]).map
            Entity.toJson)) := by
      rw [List.map_append]
      rfl
    unfold upsertFirst
    rw [hpush, hfind, Option.isSome_none, if_neg Bool.false_ne_true]
    rfl

theorem isRelation_toJson (r r' : Relation) :
    isRelation r.source r.target r.relationType r'.toJson = some (decide (r' = r)) := by
  have hfrom : r'.toJson.valueString "from" "" = some r'.source := rfl
  have hto : r'.toJson.valueString "to" "" = some r'.target := rfl
  have htype : r'.toJson.valueString "relationType" "" = some r'.relationType := rfl
  unfold isRelation
  rw [hfrom, hto, htype]
  simp only [Option.bind_eq_bind, Option.bind_some]
  have heq : r' = r ↔ r'.source = r.source ∧ r'.target = r.target ∧
      r'.relationType = r.relationType := by
    cases r
    cases r'
    simp
  rw [decide_eq_decide.mpr heq]
  split
  · next hsource => rw [decide_eq_false fun h => hsource h.1]
  · next hsource =>
    split
    · next htarget => rw [decide_eq_false fun h => htarget h.2.1]
    · next htarget =>
      rw [not_not] at hsource htarget
      have hrest : r'.relationType = r.relationType ↔ r'.source = r.source ∧
          r'.target = r.target ∧ r'.relationType = r.relationType :=
        ⟨fun h => ⟨hsource, htarget, h⟩, fun h => h.2.2⟩
      rw [decide_eq_decide.mpr hrest]

theorem any?_map {α : Type} {f : α → Json} {test : Json → Option Bool} {p : α → Bool}
    (h : ∀ a, test (f a) = some (p a)) (l : List α) : any? test (l.map f) = some (l.any p) := by
  induction l with
  | nil => rfl
  | cons a l ih =>
    rw [List.map_cons, any?, h, ih, List.any_cons]
    cases p a with
    | true => rfl
    | false => rfl

theorem kgRelationCreate_toJson (hfile : loadKnowledgeGraph file = g.toJson) (r : Relation) :
    ∃ answer, kgRelationCreate r.source r.target r.relationType file =
      some (answer, if r ∈ g.relations then file else some (g.relate r).toJson) := by
  unfold kgRelationCreate Graph.relate
  dsimp only
  rw [hfile, part?_relations_toJson, Json.visited_array, any?_map (isRelation_toJson r),
    Option.bind_eq_bind, Option.bind_some]
  have hany : (g.relations.any fun r' => decide (r' = r)) = decide (r ∈ g.relations) := by
    rw [Bool.eq_iff_iff, List.any_eq_true, decide_eq_true_iff]
    simp
  rw [hany]
  by_cases hmem : r ∈ g.relations
  · rw [if_pos hmem, decide_eq_true hmem]
    exact ⟨_, rfl⟩
  · have hpush : (Json.array (g.relations.map Relation.toJson)).push?
        (relationJson r.source r.target r.relationType) =
          some (.array ((g.relations ++ [r]).map Relation.toJson)) := by
      rw [List.map_append]
      rfl
    rw [if_neg hmem, if_neg hmem, decide_eq_false hmem, if_neg Bool.false_ne_true, hpush]
    exact ⟨_, rfl⟩

/-! ## Search and removal -/

theorem entityMatches_toJson (query : String) (e : Entity) :
    entityMatches query e.toJson = some (e.matchesQuery query) := by
  unfold entityMatches Entity.matchesQuery
  rw [valueString_name_toJson, valueString_entityType_toJson, observationsOf_toJson]
  simp only [Option.bind_eq_bind, Option.bind_some]
  cases containsCi query e.name with
  | true => rfl
  | false =>
    cases containsCi query e.entityType with
    | true => rfl
    | false => rfl

theorem touches_toJson (names : List String) (r : Relation) :
    touches names r.toJson = some (names.contains r.source || names.contains r.target) := by
  have hfrom : r.toJson.valueString "from" "" = some r.source := rfl
  have hto : r.toJson.valueString "to" "" = some r.target := rfl
  unfold touches
  rw [hfrom, hto]
  simp only [Option.bind_eq_bind, Option.bind_some]
  cases names.contains r.source with
  | true => rfl
  | false => rfl

theorem mapM_name_toJson (entities : List Entity) :
    (entities.map Entity.toJson).mapM (Json.valueString "name" "") =
      some (entities.map Entity.name) := by
  induction entities with
  | nil => rfl
  | cons e entities ih =>
    rw [List.map_cons, List.mapM_cons, ih, valueString_name_toJson]
    rfl

/-- A search answers the entities that match, and the relations that touch one of them. -/
theorem kgSearch_toJson (hfile : loadKnowledgeGraph file = g.toJson) (query : String) :
    kgSearch query file =
      some (g.searchAnswer query, file) := by
  have htouches : ∀ r : Relation,
      touches ((g.entities.filter (Entity.matchesQuery query)).map Entity.name) r.toJson =
        some (r.touchesOneOf (g.entities.filter (Entity.matchesQuery query))) := by
    intro r
    rw [touches_toJson, Relation.touchesOneOf, Option.some_inj, Bool.eq_iff_iff, Bool.or_eq_true,
      List.contains_iff_mem, List.contains_iff_mem, List.mem_map, List.mem_map, List.any_eq_true]
    constructor
    · rintro (⟨e, he, hname⟩ | ⟨e, he, hname⟩)
      · exact ⟨e, he, by rw [Relation.mentions, hname]; simp⟩
      · exact ⟨e, he, by rw [Relation.mentions, hname]; simp⟩
    · rintro ⟨e, he, hmentions⟩
      rw [Relation.mentions, Bool.or_eq_true, decide_eq_true_iff, decide_eq_true_iff] at hmentions
      exact hmentions.imp (fun h => ⟨e, he, h.symm⟩) fun h => ⟨e, he, h.symm⟩
  unfold kgSearch Graph.searchAnswer
  dsimp only
  rw [hfile, part?_entities_toJson, part?_relations_toJson, Json.visited_array,
    Json.visited_array, Json.filter?_map (entityMatches_toJson query), Option.bind_eq_bind,
    Option.bind_some, mapM_name_toJson, Option.bind_eq_bind, Option.bind_some,
    Json.filter?_map htouches, Option.bind_some, List.length_map]

theorem kgDeleteEntity_toJson (hfile : loadKnowledgeGraph file = g.toJson) (name : String) :
    ∃ answer, kgDeleteEntity name file = some (answer, some (g.delete name).toJson) := by
  have hnamed : ∀ e : Entity, isNotNamed name e.toJson = some (!e.isNamed name) := fun e => by
    unfold isNotNamed
    rw [valueString_name_toJson]
    simp [Entity.isNamed]
  have hmentions : ∀ r : Relation, doesNotMention name r.toJson = some (!r.mentions name) :=
    fun r => by
      unfold doesNotMention
      rw [touches_toJson]
      simp [Relation.mentions]
  unfold kgDeleteEntity Graph.delete
  dsimp only
  rw [hfile, part?_entities_toJson, part?_relations_toJson, Json.visited_array,
    Json.visited_array, Json.filter?_map hnamed, Option.bind_eq_bind, Option.bind_some,
    Json.filter?_map hmentions]
  exact ⟨_, rfl⟩

end Documents

/-! ## What the operations keep -/

structure Graph.InOrder (g : Graph) : Prop where
  names : (g.entities.map Entity.name).Nodup
  observations : ∀ e ∈ g.entities, e.observations.Nodup
  relations : g.relations.Nodup

/-- What an upsert leaves as it was. -/
structure Upserted (name : String) (before after : Graph) : Prop where
  relations : after.relations = before.relations
  others : after.entities.filter (fun e => !e.isNamed name) =
    before.entities.filter fun e => !e.isNamed name
  kept : ∀ e ∈ before.entities, e.name = name →
    ∃ e' ∈ after.entities, e'.name = name ∧ e.observations <+: e'.observations

/-- What a removal leaves. -/
structure Deleted (name : String) (before after : Graph) : Prop where
  noEntity : ∀ e ∈ after.entities, e.name ≠ name
  noRelation : ∀ r ∈ after.relations, r.source ≠ name ∧ r.target ≠ name
  entities : after.entities = before.entities.filter fun e => e.name ≠ name
  relations : after.relations = before.relations.filter fun r => !r.mentions name

section Operations

variable {g : Graph} {name entityType : String} {observations old : List String}

theorem isNamed_eq_true_iff {e : Entity} : e.isNamed name = true ↔ e.name = name :=
  decide_eq_true_iff

/-- The old observations come first. -/
theorem prefix_mergeObservations (old observations : List String) :
    old <+: mergeObservations old observations := by
  unfold mergeObservations
  induction observations generalizing old with
  | nil => exact List.prefix_rfl
  | cons o observations ih =>
    rw [List.foldl_cons]
    split
    · exact ih old
    · exact (List.prefix_append old [o]).trans (ih (old ++ [o]))

theorem nodup_mergeObservations (h : old.Nodup) (observations : List String) :
    (mergeObservations old observations).Nodup := by
  unfold mergeObservations
  induction observations generalizing old with
  | nil => exact h
  | cons o observations ih =>
    rw [List.foldl_cons]
    split
    · exact ih h
    · next hnew =>
      refine ih (List.nodup_append.mpr ⟨h, List.nodup_singleton o, ?_⟩)
      intro a ha b hb heq
      rw [List.mem_singleton.mp hb] at heq
      exact hnew (heq ▸ ha)

theorem name_upserted : (g.upserted name entityType observations).name = name := by
  unfold Graph.upserted
  cases hfind : g.entities.find? (Entity.isNamed name) with
  | none => rfl
  | some e =>
    have hname : e.name = name := isNamed_eq_true_iff.mp (List.find?_some hfind)
    exact hname

/-- A new entity keeps its observations as they come, and an old one merges them. -/
theorem Graph.InOrder.nodup_upserted (h : g.InOrder)
    (hnew : g.entities.find? (Entity.isNamed name) = none → observations.Nodup) :
    (g.upserted name entityType observations).observations.Nodup := by
  unfold Graph.upserted
  cases hfind : g.entities.find? (Entity.isNamed name) with
  | none => exact hnew hfind
  | some e =>
    exact nodup_mergeObservations (h.observations e (List.mem_of_find?_eq_some hfind)) observations

theorem Graph.InOrder.upsert (h : g.InOrder)
    (hnew : g.entities.find? (Entity.isNamed name) = none → observations.Nodup) :
    (g.upsert name entityType observations).InOrder where
  names := nodup_map_upsertFirst h.names name_upserted
  observations e he := by
    rcases (mem_upsertFirst h.names name_upserted).mp he with rfl | ⟨hmem, -⟩
    · exact h.nodup_upserted hnew
    · exact h.observations e hmem
  relations := h.relations

theorem Graph.InOrder.relate (h : g.InOrder) (r : Relation) : (g.relate r).InOrder := by
  unfold Graph.relate
  split
  · exact h
  · next hnew =>
    refine ⟨h.names, h.observations,
      List.nodup_append.mpr ⟨h.relations, List.nodup_singleton r, ?_⟩⟩
    intro a ha b hb heq
    rw [List.mem_singleton.mp hb] at heq
    exact hnew (heq ▸ ha)

theorem Graph.InOrder.delete (h : g.InOrder) (name : String) : (g.delete name).InOrder where
  names := h.names.sublist (List.filter_sublist.map _)
  observations e he := h.observations e (List.mem_of_mem_filter he)
  relations := h.relations.filter _

theorem Graph.InOrder.upserted (h : g.InOrder) (name entityType : String)
    (observations : List String) : Upserted name g (g.upsert name entityType observations) where
  relations := rfl
  others := filter_upsertFirst_of_not (isNamed_eq_true_iff.mpr name_upserted) g.entities
  kept e he hname := by
    refine ⟨g.upserted name entityType observations,
      (mem_upsertFirst h.names name_upserted).mpr (Or.inl rfl), name_upserted, ?_⟩
    have hfind : g.entities.find? (Entity.isNamed name) = some e :=
      (find?_key_eq_some_iff h.names).mpr ⟨he, hname⟩
    unfold Graph.upserted
    rw [hfind]
    exact prefix_mergeObservations e.observations observations

theorem deleted_delete (g : Graph) (name : String) : Deleted name g (g.delete name) where
  noEntity e he hname := by
    have hkept := List.of_mem_filter he
    rw [isNamed_eq_true_iff.mpr hname] at hkept
    cases hkept
  noRelation r hr := by
    have hkept := List.of_mem_filter hr
    rw [Bool.not_eq_true', Relation.mentions, Bool.or_eq_false_iff, decide_eq_false_iff_not,
      decide_eq_false_iff_not] at hkept
    exact hkept
  entities := List.filter_congr fun e _ => by rw [Entity.isNamed, decide_not]
  relations := rfl

end Operations

/-! ## Runs -/

/-- The file, after one call after another; a call that throws leaves it as it is. -/
def knowledgeGraph : TransitionSystem (Option Json) KgCall where
  init := none
  step file call :=
    match call.perform file with
    | some (_, file) => file
    | none => file

/-- An entity that is new comes with distinct observations. -/
def NewIsDistinct (file : Option Json) (call : KgCall) : Prop :=
  ∀ name entityType observations, call = .entityUpsert name entityType observations →
    (∀ e ∈ (part? "entities" (loadKnowledgeGraph file)).visited,
      e.valueString "name" "" ≠ some name) → observations.Nodup

/-- What the calls do to a graph in order. -/
structure GraphLaw (file : Option Json) (g : Graph) : Prop where
  document : loadKnowledgeGraph file = g.toJson
  inOrder : g.InOrder
  upsert : ∀ name entityType observations, ∃ answer g',
    kgEntityUpsert name entityType observations file = some (answer, some (Graph.toJson g')) ∧
      Upserted name g g'
  delete : ∀ name, ∃ answer g',
    kgDeleteEntity name file = some (answer, some (Graph.toJson g')) ∧ Deleted name g g'
  search : ∀ query, kgSearch query file = some (g.searchAnswer query, file)

theorem Graph.InOrder.step {file : Option Json} {g : Graph} (h : g.InOrder)
    (hfile : loadKnowledgeGraph file = g.toJson) {call : KgCall}
    (hnew : NewIsDistinct file call) :
    ∃ g' : Graph, loadKnowledgeGraph (knowledgeGraph.step file call) = g'.toJson ∧ g'.InOrder := by
  cases call with
  | entityUpsert name entityType observations =>
    refine ⟨g.upsert name entityType observations, ?_, h.upsert fun hfind => ?_⟩
    · change loadKnowledgeGraph (match kgEntityUpsert name entityType observations file with
        | some (_, file) => file
        | none => file) = _
      rw [kgEntityUpsert_toJson hfile]
      exact loadKnowledgeGraph_toJson _
    · refine hnew name entityType observations rfl fun e he => ?_
      rw [hfile, part?_entities_toJson, Json.visited_array] at he
      obtain ⟨entity, hmem, rfl⟩ := List.mem_map.mp he
      rw [valueString_name_toJson]
      intro hname
      exact List.find?_eq_none.mp hfind entity hmem
        (isNamed_eq_true_iff.mpr (Option.some_inj.mp hname))
  | relationCreate source target relationType =>
    obtain ⟨answer, hcall⟩ := kgRelationCreate_toJson hfile ⟨source, target, relationType⟩
    refine ⟨g.relate ⟨source, target, relationType⟩, ?_, h.relate _⟩
    change loadKnowledgeGraph (match kgRelationCreate source target relationType file with
      | some (_, file) => file
      | none => file) = _
    rw [hcall]
    dsimp only
    split
    · next hmem =>
      rw [hfile, Graph.relate, if_pos hmem]
    · exact loadKnowledgeGraph_toJson _
  | search query =>
    refine ⟨g, ?_, h⟩
    change loadKnowledgeGraph (match kgSearch query file with
      | some (_, file) => file
      | none => file) = _
    rw [kgSearch_toJson hfile]
    exact hfile
  | deleteEntity name =>
    obtain ⟨answer, hcall⟩ := kgDeleteEntity_toJson hfile name
    refine ⟨g.delete name, ?_, h.delete name⟩
    change loadKnowledgeGraph (match kgDeleteEntity name file with
      | some (_, file) => file
      | none => file) = _
    rw [hcall]
    exact loadKnowledgeGraph_toJson _

/-- **The knowledge graph**: in every run from the empty graph whose new entities come with
distinct observations, the document is that of a graph in order, and the calls keep to it. -/
theorem knowledge_graph_law {file : Option Json}
    (h : knowledgeGraph.ReachableBy NewIsDistinct file) : ∃ g, GraphLaw file g := by
  obtain ⟨g, hfile, horder⟩ : ∃ g : Graph, loadKnowledgeGraph file = g.toJson ∧ g.InOrder := by
    refine h.invariant (I := fun file =>
      ∃ g : Graph, loadKnowledgeGraph file = g.toJson ∧ g.InOrder) ?_ ?_
    · exact ⟨{}, loadKnowledgeGraph_none, List.nodup_nil, fun _ he => absurd he List.not_mem_nil,
        List.nodup_nil⟩
    · rintro file call ⟨g, hfile, horder⟩ hnew
      exact horder.step hfile hnew
  refine ⟨g, hfile, horder, fun name entityType observations => ?_, fun name => ?_,
    kgSearch_toJson hfile⟩
  · exact ⟨_, _, kgEntityUpsert_toJson hfile name entityType observations,
      horder.upserted name entityType observations⟩
  · obtain ⟨answer, hcall⟩ := kgDeleteEntity_toJson hfile name
    exact ⟨answer, _, hcall, deleted_delete g name⟩

/-- A run with two entities, one of them merged. -/
theorem knowledge_graph_law_merged :
    ∃ g, GraphLaw (knowledgeGraph.run none [.entityUpsert "a" "t" ["x", "y"],
      .entityUpsert "a" "t" ["y", "y", "z"], .relationCreate "a" "b" "knows"]) g := by
  refine knowledge_graph_law (TransitionSystem.ReachableBy.init.run _ ⟨?_, ?_, ?_, trivial⟩)
  · intro name entityType observations hcall _
    cases hcall
    decide
  · intro name entityType observations hcall hnew
    cases hcall
    exact absurd rfl (hnew _ List.mem_cons_self)
  · intro name entityType observations hcall
    cases hcall

/-- **A new entity repeats an observation**, and every later merge carries the repetition on. -/
theorem new_entity_repeats :
    knowledgeGraph.run none [.entityUpsert "a" "t" ["x", "x"], .entityUpsert "a" "t" ["y"]] =
        some (Graph.toJson { entities := [⟨"a", "t", ["x", "x", "y"]⟩] }) ∧
      ¬ Graph.InOrder { entities := [⟨"a", "t", ["x", "x", "y"]⟩] } := by
  refine ⟨by rfl, fun h => ?_⟩
  exact absurd (h.observations _ (List.mem_singleton_self _)) (by decide)

end Worker
end MasterControl
