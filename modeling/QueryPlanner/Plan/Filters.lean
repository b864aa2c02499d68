import QueryPlanner.Plan.Tree

/-!
What every node of a tree asks of its row, and how the rows of a relation are restricted when they
are loaded.
-/

namespace QueryPlanner.Plan

/-- What a node adds to the condition on its parent's row: a scalar its own condition, a relation
to one row the condition on that row, and a relation to many rows that one of them meets it. -/
def Node.contribution (node : Node) : Option Predicate :=
  if node.isLeaf then node.leafPredicate
  else if node.isCollection then
    node.wherePredicate.map (.any (.ofName node.field))
  else node.wherePredicate.map (Predicate.through node.field)

namespace Tree

/-- A node with its condition and its filter, which follow from the nodes right below it. -/
def withFilters (tree : Tree) (id : NodeId) (node : Node) : Node :=
  if node.isLeaf then { node with wherePredicate := node.leafPredicate }
  else
    let below := (tree.children id).map Prod.snd
    { node with
      wherePredicate := Predicate.conjunction (below.filterMap Node.contribution)
      includeFilter := Predicate.conjunction ((below.filter Node.isLeaf).filterMap Node.leafPredicate) }

def computeAt (id : NodeId) (tree : Tree) : Tree :=
  ⟨tree.nodes.modify id (tree.withFilters id)⟩

/-- Works out the conditions and the filters of all nodes, from the last one to the first, so that
a node comes after those below it. -/
def computePredicates (tree : Tree) : Tree :=
  (List.range tree.size).foldr computeAt tree

end Tree

end QueryPlanner.Plan
