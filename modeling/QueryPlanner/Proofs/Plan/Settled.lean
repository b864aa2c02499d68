import Mathlib.Data.List.Basic
import QueryPlanner.Plan.Filters
import QueryPlanner.Proofs.Plan.Arena

/-!
# Settled nodes

Conditions and filters are worked out from the last node to the first.  A child stands after its
parent, so the nodes below a node are settled when it is its turn, and do not change any more.
-/

namespace QueryPlanner.Plan

/-- A predicate on the rows of a relation as a predicate on the row that has the relation. -/
def acrossRelation (name : String) (isCollection : Bool) (predicate : Predicate) : Predicate :=
  if isCollection then .any (.ofName name) predicate else predicate.through name

theorem Node.contribution_of_isLeaf {node : Node} (isLeaf : node.isLeaf = true) :
    node.contribution = node.leafPredicate := by
  rw [contribution, if_pos isLeaf]

theorem Node.contribution_of_not_isLeaf {node : Node} (notLeaf : node.isLeaf = false) :
    node.contribution =
      node.wherePredicate.map (acrossRelation node.field node.isCollection) := by
  rw [contribution, if_neg (Bool.eq_false_iff.mp notLeaf)]
  cases node.isCollection with
  | true => rfl
  | false => rfl

namespace Tree

variable {tree other : Tree} {id place : NodeId} {node : Node}

def nodesAt (tree : Tree) (ids : List NodeId) : List Node :=
  ids.filterMap tree.get?

/-- A node has the condition and the filter that follow from the nodes below it. -/
def IsSettled (tree : Tree) (id : NodeId) : Prop :=
  ∀ node, tree.get? id = some node → tree.withFilters id node = node

theorem filterMap_nodesAt_cons {α : Type} (found : tree.get? id = some node) (ids : List NodeId)
    (f : Node → Option α) :
    (tree.nodesAt (id :: ids)).filterMap f = (f node).toList ++ (tree.nodesAt ids).filterMap f := by
  rw [nodesAt, List.filterMap_cons_some found, List.filterMap_cons, ← nodesAt]
  cases f node with
  | none => rfl
  | some a => rfl

theorem map_snd_children (found : tree.get? id = some node) :
    (tree.children id).map Prod.snd = tree.nodesAt node.children := by
  rw [children, found, Option.map_some, Option.getD_some, List.map_filterMap]
  apply List.filterMap_congr
  intro child isChild
  rw [Option.map_map]
  exact Option.map_id'

theorem withFilters_of_isLeaf (isLeaf : node.isLeaf = true) :
    tree.withFilters id node = { node with wherePredicate := node.leafPredicate } := by
  rw [withFilters, if_pos isLeaf]

theorem withFilters_of_not_isLeaf (notLeaf : node.isLeaf = false) :
    tree.withFilters id node =
      let below := (tree.children id).map Prod.snd
      { node with
        wherePredicate := Predicate.conjunction (below.filterMap Node.contribution)
        includeFilter :=
          Predicate.conjunction ((below.filter Node.isLeaf).filterMap Node.leafPredicate) } := by
  rw [withFilters, if_neg (Bool.eq_false_iff.mp notLeaf)]

theorem IsSettled.wherePredicate_eq (settled : tree.IsSettled id)
    (found : tree.get? id = some node) (notLeaf : node.isLeaf = false) :
    node.wherePredicate =
      Predicate.conjunction ((tree.nodesAt node.children).filterMap Node.contribution) := by
  have same := congrArg Node.wherePredicate (settled node found)
  rw [withFilters_of_not_isLeaf notLeaf, map_snd_children found] at same
  exact same.symm

theorem IsSettled.includeFilter_eq (settled : tree.IsSettled id)
    (found : tree.get? id = some node) (notLeaf : node.isLeaf = false) :
    node.includeFilter = Predicate.conjunction
      (((tree.nodesAt node.children).filter Node.isLeaf).filterMap Node.leafPredicate) := by
  have same := congrArg Node.includeFilter (settled node found)
  rw [withFilters_of_not_isLeaf notLeaf, map_snd_children found] at same
  exact same.symm

theorem bare_withFilters : (tree.withFilters id node).bare = node.bare := by
  unfold withFilters
  split
  next => rfl
  next => rfl

theorem get?_computeAt : (computeAt place tree).get? id =
    (tree.get? id).map fun node => if place = id then tree.withFilters place node else node := by
  rw [get?, computeAt, List.getElem?_modify]
  by_cases isPlace : place = id
  · simp [isPlace, get?]
  · simp [isPlace, get?]

theorem get?_computeAt_of_ne (other : place ≠ id) :
    (computeAt place tree).get? id = tree.get? id := by
  rw [get?_computeAt]
  simp [other]

theorem bare_computeAt : (computeAt place tree).bare = tree.bare := by
  unfold bare
  congr 1
  apply List.ext_getElem?
  intro id
  have computed := @get?_computeAt tree id place
  unfold get? at computed
  rw [List.getElem?_map, List.getElem?_map, computed, Option.map_map]
  congr 1
  funext node
  by_cases isPlace : place = id
  · simpa [isPlace] using bare_withFilters
  · simp [isPlace]

theorem bare_computePredicates : tree.computePredicates.bare = tree.bare := by
  unfold computePredicates
  induction List.range tree.size with
  | nil => rfl
  | cons place places inductionHypothesis =>
      exact bare_computeAt.trans inductionHypothesis

theorem map_bare_get?_computePredicates (id : NodeId) :
    (tree.computePredicates.get? id).map Node.bare = (tree.get? id).map Node.bare := by
  rw [← get?_bare, ← get?_bare, bare_computePredicates]

theorem isArena_computePredicates (isArena : tree.IsArena) : tree.computePredicates.IsArena := by
  apply isArena_bare.mp
  rw [bare_computePredicates]
  exact isArena_bare.mpr isArena

theorem children_computeAt (isArena : tree.IsArena) (notBefore : place ≤ id) :
    (computeAt place tree).children id = tree.children id := by
  cases found : tree.get? id with
  | none => simp [children, get?_computeAt, found]
  | some node =>
      have sameBare : ((computeAt place tree).get? id).map Node.bare = some node.bare := by
        rw [← get?_bare, bare_computeAt, get?_bare, found]
        rfl
      obtain ⟨after, foundAfter, bareEq⟩ := Option.map_eq_some_iff.mp sameBare
      have sameChildren := congrArg Node.children bareEq
      change after.children = node.children at sameChildren
      rw [children, children, found, foundAfter, Option.map_some, Option.map_some,
        Option.getD_some, Option.getD_some, sameChildren]
      apply List.filterMap_congr
      intro child isChild
      have later := Nat.lt_of_le_of_lt notBefore (isArena.lt_of_child found isChild)
      rw [get?_computeAt_of_ne (Nat.ne_of_lt later)]

theorem withFilters_congr (sameChildren : other.children id = tree.children id) :
    other.withFilters id node = tree.withFilters id node := by
  rw [withFilters, withFilters, sameChildren]

theorem withFilters_withFilters :
    tree.withFilters id (tree.withFilters id node) = tree.withFilters id node := by
  cases isLeaf : node.isLeaf with
  | true =>
      rw [withFilters_of_isLeaf isLeaf]
      exact withFilters_of_isLeaf isLeaf
  | false =>
      rw [withFilters_of_not_isLeaf isLeaf]
      exact withFilters_of_not_isLeaf isLeaf

/-- A node that is worked out is settled, and so stay the nodes after it. -/
theorem isSettled_computeAt (isArena : tree.IsArena)
    (settled : ∀ id, place < id → tree.IsSettled id) (notBefore : place ≤ id) :
    (computeAt place tree).IsSettled id := by
  intro node found
  rw [withFilters_congr (children_computeAt isArena notBefore)]
  rcases Nat.eq_or_lt_of_le notBefore with rfl | later
  · rw [get?_computeAt] at found
    obtain ⟨before, _, computed⟩ := Option.map_eq_some_iff.mp found
    rw [if_pos rfl] at computed
    rw [← computed]
    exact withFilters_withFilters
  · rw [get?_computeAt_of_ne (Nat.ne_of_lt later)] at found
    exact settled id later node found

theorem isSettled_foldr_computeAt (isArena : tree.IsArena) (bound : Nat)
    (settled : ∀ id, bound ≤ id → tree.IsSettled id) (id : NodeId) :
    ((List.range bound).foldr computeAt tree).IsSettled id := by
  induction bound generalizing tree with
  | zero => exact settled id (Nat.zero_le id)
  | succ bound inductionHypothesis =>
      -- The last place of the range is worked out first, so all after it are settled by then.
      rw [List.range_succ, List.foldr_append]
      apply inductionHypothesis
      · apply isArena_bare.mp
        rw [List.foldr_cons, List.foldr_nil, bare_computeAt]
        exact isArena_bare.mpr isArena
      · intro id notBefore
        exact isSettled_computeAt isArena settled notBefore

/-- All nodes are settled once the conditions and filters have been worked out. -/
theorem isSettled_computePredicates (isArena : tree.IsArena) (id : NodeId) :
    tree.computePredicates.IsSettled id := by
  apply isSettled_foldr_computeAt isArena
  intro id outside node found
  rw [get?_eq_none_of_size_le outside] at found
  cases found

end Tree

end QueryPlanner.Plan
