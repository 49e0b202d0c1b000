import MasterControl.Foundation.JsonAccess
import Mathlib.Data.List.Infix

/-!
# The knowledge graph of the tools worker

The graph is one JSON document in a file, an object with two arrays.  Every call reads the whole
document, changes it, and writes it back; a document that cannot be read, or lacks one of the
arrays, is taken for the empty graph.

A call returns its result and what the file holds then, or `none` where an accessor throws.
-/

namespace MasterControl
namespace Worker

open Foundation

/-! ## The file -/

def emptyGraph : Json := .object [("entities", .array []), ("relations", .array [])]

/-- The document of the file, where it can be opened and parsed. -/
def loadKnowledgeGraph (file : Option Json) : Json :=
  match file with
  | none => emptyGraph
  | some document =>
    if (document.member? "entities").isSome && (document.member? "relations").isSome then document
    else emptyGraph

/-- `g[key]`. -/
def part? (key : String) (document : Json) : Json := (document.member? key).getD .null

/-! ## Entities -/

def entityJson (name entityType : String) (observations : List String) : Json :=
  .object [("name", .string name), ("entityType", .string entityType),
    ("observations", .array (observations.map .string))]

/-- The texts among the observations of an entity. -/
def observationsOf (entity : Json) : List String :=
  match entity.arrayAt "observations" with
  | some elements => Json.strings elements
  | none => []

/-- The old observations, and the new ones that are not among them, each once. -/
def mergeObservations (old observations : List String) : List String :=
  observations.foldl (fun seen o => if o ∈ seen then seen else seen ++ [o]) old

/-- What an upsert makes of the entity that it finds. -/
def mergeEntity (entityType : String) (observations : List String) (entity : Json) :
    Option Json := do
  let entity ← entity.set? "entityType" (.string entityType)
  if observations = [] then some entity
  else
    entity.set? "observations"
      (.array ((mergeObservations (observationsOf entity) observations).map .string))

/-- Rewrite the first entity with a name, if there is one. -/
def updateNamed (name : String) (f : Json → Option Json) :
    List Json → Option (Option (List Json × Json))
  | [] => some none
  | entity :: entities => do
    if (← entity.valueString "name" "") = name then
      let updated ← f entity
      some (some (updated :: entities, updated))
    else
      match ← updateNamed name f entities with
      | none => some none
      | some (rest, updated) => some (some (entity :: rest, updated))

def kgEntityUpsert (name entityType : String) (observations : List String)
    (file : Option Json) : Option (Json × Option Json) := do
  let g := loadKnowledgeGraph file
  match ← updateNamed name (mergeEntity entityType observations)
      (part? "entities" g).visited with
  | some (entities, existing) =>
    let g ← g.set? "entities" (.array entities)
    some (existing, some g)
  | none =>
    let entity := entityJson name entityType observations
    let entities ← (part? "entities" g).push? entity
    let g ← g.set? "entities" entities
    some (entity, some g)

/-! ## Relations -/

def relationJson (source target relationType : String) : Json :=
  .object [("from", .string source), ("to", .string target), ("relationType", .string relationType)]

/-- Whether a relation is one of three texts.  The comparison stops at the first difference. -/
def isRelation (source target relationType : String) (relation : Json) : Option Bool := do
  if (← relation.valueString "from" "") ≠ source then some false
  else if (← relation.valueString "to" "") ≠ target then some false
  else some ((← relation.valueString "relationType" "") = relationType)

/-- Whether some element passes a test; the loop ends there. -/
def any? (test : Json → Option Bool) : List Json → Option Bool
  | [] => some false
  | element :: elements => do if ← test element then some true else any? test elements

def kgRelationCreate (source target relationType : String) (file : Option Json) :
    Option (Json × Option Json) := do
  let g := loadKnowledgeGraph file
  let relation := relationJson source target relationType
  if ← any? (isRelation source target relationType) (part? "relations" g).visited then
    let answer ← relation.set? "created" (.boolean false)
    some (answer, file)
  else
    let relations ← (part? "relations" g).push? relation
    let g ← g.set? "relations" relations
    let answer ← relation.set? "created" (.boolean true)
    some (answer, some g)

/-! ## Search and removal -/

def lowerText (text : String) : List Char := text.toList.map Char.toLower

/-- `containsCi`. -/
def containsCi (query text : String) : Bool := lowerText query <:+: lowerText text

/-- The type is read only where the name does not match. -/
def entityMatches (query : String) (entity : Json) : Option Bool := do
  if containsCi query (← entity.valueString "name" "") then some true
  else if containsCi query (← entity.valueString "entityType" "") then some true
  else some ((observationsOf entity).any (containsCi query))

/-- Whether a relation touches one of some names. -/
def touches (names : List String) (relation : Json) : Option Bool := do
  if names.contains (← relation.valueString "from" "") then some true
  else some (names.contains (← relation.valueString "to" ""))

def kgSearch (query : String) (file : Option Json) : Option (Json × Option Json) := do
  let g := loadKnowledgeGraph file
  let hits ← Json.filter? (entityMatches query) (part? "entities" g).visited
  let hitNames ← hits.mapM (Json.valueString "name" "")
  let relatedRelations ← Json.filter? (touches hitNames) (part? "relations" g).visited
  some (.object [("query", .string query), ("entities", .array hits),
    ("relations", .array relatedRelations), ("matchCount", .integer hits.length)], file)

def isNotNamed (name : String) (entity : Json) : Option Bool := do
  some ((← entity.valueString "name" "") ≠ name)

/-- A relation is kept where it does not mention a name. -/
def doesNotMention (name : String) (relation : Json) : Option Bool := do
  some (!(← touches [name] relation))

def kgDeleteEntity (name : String) (file : Option Json) : Option (Json × Option Json) := do
  let g := loadKnowledgeGraph file
  let entities := (part? "entities" g).visited
  let relations := (part? "relations" g).visited
  let keptEntities ← Json.filter? (isNotNamed name) entities
  let keptRelations ← Json.filter? (doesNotMention name) relations
  let g ← g.set? "entities" (.array keptEntities)
  let g ← g.set? "relations" (.array keptRelations)
  some (.object [("name", .string name),
    ("removedEntities", .integer (entities.length - keptEntities.length)),
    ("removedRelations", .integer (relations.length - keptRelations.length))], some g)

/-! ## Calls -/

inductive KgCall where
  | entityUpsert (name entityType : String) (observations : List String)
  | relationCreate (source target relationType : String)
  | search (query : String)
  | deleteEntity (name : String)

def KgCall.perform (file : Option Json) : KgCall → Option (Json × Option Json)
  | entityUpsert name entityType observations => kgEntityUpsert name entityType observations file
  | relationCreate source target relationType => kgRelationCreate source target relationType file
  | search query => kgSearch query file
  | deleteEntity name => kgDeleteEntity name file

end Worker
end MasterControl
