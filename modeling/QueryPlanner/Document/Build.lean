import QueryPlanner.Document.Basic
import QueryPlanner.Plan.Basic
import QueryPlanner.Schema.Catalog

/-!
From query documents to query plans.
-/

namespace QueryPlanner.Document

open QueryPlanner.Json QueryPlanner.Plan QueryPlanner.Schema

/-- The text of the condition that a scalar value stands for, if there is any. -/
def conditionText? : Value → Option String
  | .string text => some text
  | .number n => some (String.ofList n.write)
  | .bool b => some (String.ofList (boolText b))
  | _ => none

def condition? (name : String) (value : Value) : Except Failure (Option Predicate) :=
  match conditionText? value with
  | none => .ok none
  | some text => (Condition.compileCondition (.ofName name) text).mapError .ofCondition

/-- Adds the members of an object under a node whose rows have a given shape. -/
def addMembers (schema : Provider) (parent : NodeId) (shape : String) :
    List (String × Value) → Tree → Except Failure Tree
  | [], tree => .ok tree
  | (name, value) :: rest, tree =>
      match schema.property? shape name with
      | none => .error (.unknownField shape name)
      | some property => do
          let tree ←
            match value with
            | .object members =>
                if property.isNavigable then
                  addMembers schema tree.size property.valueShape members
                    (tree.addRelation parent name property.valueShape property.isCollection)
                else .ok tree
            | .array _ => .error (.malformedDocument (.arrayValue shape name))
            | value => do
                let predicate ← condition? name value
                pure (tree.addLeaf parent name property.valueShape property.isCollection predicate)
          addMembers schema parent shape rest tree

/-- The plan of a document whose outermost rows have a given shape. -/
def build (document : Document) (shape : String) (schema : Provider) : Except Failure QueryPlan := do
  if document.pageSize ≠ 0 ∧ Nat.pow 2 64 ≤ document.page.toNat * document.pageSize.toNat then
    .error (.malformedDocument (.pageOutOfRange document.page document.pageSize))
  else
    let tree ← addMembers schema Tree.root shape document.query (.ofRoot shape)
    return ⟨tree.computePredicates, document.page, document.pageSize⟩

/-- The plan of a document that is a JSON value already.  The type that it names is not looked
at. -/
def planValue (value : Value) (shape : String) (schema : Provider) : Except Failure QueryPlan := do
  let document ← (ofValue value).mapError .malformedDocument
  document.build shape schema

/-- The plan of a document whose outermost rows have a given shape.  The type that it names is not
looked at. -/
def planAs (text shape : String) (schema : Provider) : Except Failure QueryPlan := do
  planValue (← parseJson text) shape schema

/-- The plan of a document that names the type of its outermost rows. -/
def plan (text : String) (schema : Provider) : Except Failure QueryPlan := do
  let document ← (ofValue (← parseJson text)).mapError .malformedDocument
  match document.typeName with
  | none => .error (.malformedDocument .missingType)
  | some typeName =>
      match schema.shape? typeName with
      | none => .error (.unresolvedType typeName)
      | some shape => document.build shape schema

end QueryPlanner.Document
