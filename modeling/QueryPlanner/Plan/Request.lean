import QueryPlanner.Plan.Tree
import QueryPlanner.Predicate.Json

/-!
The requests to load related rows that a tree of relations comes to.
-/

namespace QueryPlanner.Plan

open QueryPlanner.Json QueryPlanner.Number

inductive RequestKind where
  /-- At the root. -/
  | fresh
  /-- At rows that an earlier request loads. -/
  | chained
  deriving DecidableEq

structure Request where
  kind : RequestKind
  parentShape : String
  relation : String
  shape : String
  path : List String
  isCollection : Bool
  filter : Option Predicate
  deriving DecidableEq

namespace Request

def isChained (request : Request) : Bool :=
  request.kind = .chained

def isFiltered (request : Request) : Bool :=
  request.filter.isSome

def depth (request : Request) : Nat :=
  request.path.length

def display (request : Request) : String :=
  let verb := match request.kind with
    | .fresh => "include"
    | .chained => "then include"
  let many := if request.isCollection then "[]" else ""
  let filter := match request.filter with
    | some predicate => " where " ++ predicate.display
    | none => ""
  verb ++ " " ++ request.parentShape ++ "." ++ request.relation ++ many ++ filter

def toJson (encodeFloat : Binary64 → Value) (request : Request) : Value :=
  .object [
    ("kind", .string (match request.kind with | .fresh => "fresh" | .chained => "chained")),
    ("parent_shape", .string request.parentShape),
    ("relation", .string request.relation),
    ("shape", .string request.shape),
    ("path", .ofStrings request.path),
    ("is_collection", .bool request.isCollection),
    ("filter", .ofOption (Predicate.toJson encodeFloat) request.filter)]

end Request

namespace Tree

def request? (tree : Tree) (id : NodeId) : Option Request := do
  let node ← tree.get? id
  let parent ← tree.get? (← node.parent)
  return {
    kind := if node.depth = 1 then .fresh else .chained
    parentShape := parent.shape
    relation := node.field
    shape := node.shape
    path := tree.path id
    isCollection := node.isCollection
    filter := node.includeFilter }

/-- The requests for all relations, each after the one whose rows it begins at. -/
def requests (tree : Tree) : List Request :=
  tree.relations.filterMap tree.request?

/-- The chains of requests that go on from a chain at a place: one for each relation below it
that has no relations below itself.  The bound on the steps down is never met. -/
def chainsBelow (tree : Tree) : (steps : Nat) → List Request → NodeId → List (List Request)
  | 0, _, _ => []
  | steps + 1, chain, id =>
      ((tree.children id).filter fun entry => entry.2.isRelation).flatMap fun (child, _) =>
        match tree.request? child with
        | none => []
        | some request =>
            let longer := chain ++ [request]
            if (tree.children child).any fun entry => entry.2.isRelation then
              tree.chainsBelow steps longer child
            else [longer]

/-- The chains of requests from the root down to each relation that has no relations below it. -/
def chains (tree : Tree) : List (List Request) :=
  tree.chainsBelow tree.size [] root

end Tree

end QueryPlanner.Plan
