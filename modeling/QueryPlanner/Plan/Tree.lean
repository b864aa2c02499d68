import QueryPlanner.Predicate.Basic

/-!
The properties that a query mentions, as a tree.

The nodes stand in a list in the order in which they were added, and are known by their place in
it.  A node is added under one that is there already, so a parent comes before its children.
-/

namespace QueryPlanner.Plan

abbrev NodeId := Nat

/-- A property of a query: the root, a relation that is loaded, or a condition on a scalar. -/
structure Node where
  parent : Option NodeId
  root : NodeId
  depth : Nat
  shape : String
  /-- The name of the property in the parent's shape, which the root has not. -/
  fieldName : Option String
  isCollection : Bool
  /-- Whether the node is the root or a relation. -/
  shouldInclude : Bool
  /-- The nodes below this one in the order of the query. -/
  children : List NodeId := []
  leafPredicate : Option Predicate := none
  /-- What this node and those below it ask of the node's row. -/
  wherePredicate : Option Predicate := none
  /-- What the scalars right below this node ask of the node's row. -/
  includeFilter : Option Predicate := none
  deriving DecidableEq

namespace Node

def isRelation (node : Node) : Bool :=
  node.shouldInclude && node.parent.isSome

def isLeaf (node : Node) : Bool :=
  !node.shouldInclude

/-- The name of the property, empty at the root. -/
def field (node : Node) : String :=
  node.fieldName.getD ""

end Node

/-- The nodes of a query in the order in which they were added. -/
structure Tree where
  nodes : List Node
  deriving DecidableEq

namespace Tree

def root : NodeId := 0

def ofRoot (shape : String) : Tree :=
  ⟨[{ parent := none, root := root, depth := 0, shape, fieldName := none, isCollection := false,
      shouldInclude := true }]⟩

def size (tree : Tree) : Nat :=
  tree.nodes.length

def get? (tree : Tree) (id : NodeId) : Option Node :=
  tree.nodes[id]?

def children (tree : Tree) (id : NodeId) : List (NodeId × Node) :=
  ((tree.get? id).map Node.children).getD [] |>.filterMap fun child =>
    (tree.get? child).map (child, ·)

def depthAt (tree : Tree) (id : NodeId) : Nat :=
  ((tree.get? id).map Node.depth).getD 0

structure NewNode where
  field : String
  shape : String
  isCollection : Bool
  shouldInclude : Bool
  leafPredicate : Option Predicate

/-- Adds a node under one of the tree.  Its place is the number of nodes before it. -/
def add (tree : Tree) (parent : NodeId) (new : NewNode) : Tree :=
  let node : Node := {
    parent := some parent
    root := root
    depth := tree.depthAt parent + 1
    shape := new.shape
    fieldName := some new.field
    isCollection := new.isCollection
    shouldInclude := new.shouldInclude
    leafPredicate := new.leafPredicate }
  let adopt (node : Node) : Node := { node with children := node.children ++ [tree.size] }
  ⟨tree.nodes.modify parent adopt ++ [node]⟩

def addRelation (tree : Tree) (parent : NodeId) (field shape : String) (isCollection : Bool) :
    Tree :=
  tree.add parent ⟨field, shape, isCollection, true, none⟩

/-- Adds a scalar, with its condition if it has one, under a node. -/
def addLeaf (tree : Tree) (parent : NodeId) (field shape : String) (isCollection : Bool)
    (predicate : Option Predicate) : Tree :=
  tree.add parent ⟨field, shape, isCollection, false, predicate⟩

/-- The places of the relations below a place, each before those below it.  No way down a tree is
longer than the tree has nodes, so the bound on the steps is never met. -/
def relationsBelow (tree : Tree) : (steps : Nat) → NodeId → List NodeId
  | 0, _ => []
  | steps + 1, id =>
      (tree.children id).flatMap fun (child, node) =>
        if node.isRelation then child :: tree.relationsBelow steps child else []

/-- The places of all relations, each before those below it. -/
def relations (tree : Tree) : List NodeId :=
  tree.relationsBelow tree.size root

/-- The names of the properties from the root down to a place.  The bound on the steps up to the
root is never met. -/
def pathWithin (tree : Tree) : (steps : Nat) → NodeId → List String
  | 0, _ => []
  | steps + 1, id =>
      match tree.get? id with
      | none => []
      | some node =>
          let above := (node.parent.map (tree.pathWithin steps)).getD []
          above ++ node.fieldName.toList

def path (tree : Tree) (id : NodeId) : List String :=
  tree.pathWithin tree.size id

end Tree

end QueryPlanner.Plan
