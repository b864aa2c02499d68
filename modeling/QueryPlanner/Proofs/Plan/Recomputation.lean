import QueryPlanner.Proofs.Plan.Settled

/-!
# Trees under edits

Nodes may be added in any order under the nodes that are there, and the conditions and filters may
be worked out at any time in between.  When they are worked out last, they are what the tree as it
then stands asks for, and nothing is left of what was worked out before.
-/

namespace QueryPlanner.Plan

inductive Edit where
  | addRelation (parent : NodeId) (field shape : String) (isCollection : Bool)
  | addLeaf (parent : NodeId) (field shape : String) (isCollection : Bool)
      (predicate : Option Predicate)
  | computePredicates

namespace Edit

def apply (tree : Tree) : Edit → Tree
  | addRelation parent field shape isCollection => tree.addRelation parent field shape isCollection
  | addLeaf parent field shape isCollection predicate =>
      tree.addLeaf parent field shape isCollection predicate
  | computePredicates => tree.computePredicates

def isAddition : Edit → Bool
  | addRelation .. | addLeaf .. => true
  | computePredicates => false

/-- Nodes are added under nodes of the tree. -/
def Fits (tree : Tree) : Edit → Prop
  | addRelation parent .. | addLeaf parent .. => parent < tree.size
  | computePredicates => True

instance (tree : Tree) : (edit : Edit) → Decidable (edit.Fits tree)
  | addRelation parent .. => inferInstanceAs (Decidable (parent < tree.size))
  | addLeaf parent .. => inferInstanceAs (Decidable (parent < tree.size))
  | computePredicates => inferInstanceAs (Decidable True)

end Edit

namespace Node

variable {node other : Node}

theorem isLeaf_congr (same : node.bare = other.bare) : node.isLeaf = other.isLeaf := by
  have sameLeaf := congrArg isLeaf same
  exact sameLeaf

theorem children_congr (same : node.bare = other.bare) : node.children = other.children := by
  have sameChildren := congrArg children same
  exact sameChildren

theorem eq_of_bare_eq (same : node.bare = other.bare)
    (sameCondition : node.wherePredicate = other.wherePredicate)
    (sameFilter : node.includeFilter = other.includeFilter) : node = other :=
  calc
    node = { node.bare with
        wherePredicate := node.wherePredicate, includeFilter := node.includeFilter } := rfl
    _ = { other.bare with
        wherePredicate := other.wherePredicate, includeFilter := other.includeFilter } := by
      rw [same, sameCondition, sameFilter]
    _ = other := rfl

end Node

namespace Tree

def run (tree : Tree) (edits : List Edit) : Tree :=
  edits.foldl Edit.apply tree

/-- Each of some edits fits the tree that it is made to. -/
def Allows (tree : Tree) : List Edit → Prop
  | [] => True
  | edit :: edits => edit.Fits tree ∧ (edit.apply tree).Allows edits

instance decidableAllows (tree : Tree) : (edits : List Edit) → Decidable (tree.Allows edits)
  | [] => isTrue trivial
  | edit :: edits =>
      have := decidableAllows (edit.apply tree) edits
      inferInstanceAs (Decidable (edit.Fits tree ∧ (edit.apply tree).Allows edits))

/-- What a node asks of its row: a scalar its own condition, and any other node what the nodes below
it ask for in their order, seen from this one.  Children stand after their parent. -/
def demand (tree : Tree) (id : NodeId) : Option Predicate :=
  match _ : tree.get? id with
  | none => none
  | some node =>
      if node.isLeaf then node.leafPredicate
      else
        Predicate.conjunction (node.children.filterMap fun child =>
          if _ : id < child then
            (tree.get? child).bind fun below =>
              if below.isLeaf then below.leafPredicate
              else (tree.demand child).map (acrossRelation below.field below.isCollection)
          else none)
termination_by tree.size - id
decreasing_by exact Nat.sub_lt_sub_left (lt_size_of_get? ‹_›) ‹_›

/-- Which rows of a node are loaded: those that meet the conditions of the scalars right below it. -/
def restriction (tree : Tree) (id : NodeId) : Option Predicate :=
  (tree.get? id).bind fun node =>
    if node.isLeaf then none
    else
      Predicate.conjunction
        (((tree.nodesAt node.children).filter Node.isLeaf).filterMap Node.leafPredicate)

/-- Parents and children agree, and no scalar has a filter. -/
structure IsGrown (tree : Tree) : Prop where
  isArena : tree.IsArena
  unfiltered : ∀ {id : NodeId} {node : Node}, tree.get? id = some node → node.isLeaf = true →
    node.includeFilter = none

variable {tree other : Tree} {id parent : NodeId} {node : Node} {new : NewNode}

theorem isGrown_ofRoot (shape : String) : (Tree.ofRoot shape).IsGrown := by
  constructor
  · exact isArena_ofRoot shape
  · intro id node found isLeaf
    cases id with
    | zero =>
        cases found
        rfl
    | succ id => cases found

theorem IsGrown.add (isGrown : tree.IsGrown) (within : parent < tree.size) :
    (tree.add parent new).IsGrown := by
  constructor
  · exact isGrown.isArena.add within
  · intro id node found isLeaf
    rcases get?_add_cases found with ⟨rfl, rfl⟩ | ⟨before, foundBefore, rfl⟩
    · rfl
    · exact @isGrown.unfiltered id before foundBefore isLeaf

theorem IsGrown.computeAt (isGrown : tree.IsGrown) (place : NodeId) :
    (computeAt place tree).IsGrown := by
  constructor
  · apply isArena_bare.mp
    rw [bare_computeAt]
    exact isArena_bare.mpr isGrown.isArena
  · intro id node found isLeaf
    rw [get?_computeAt] at found
    obtain ⟨before, foundBefore, rfl⟩ := Option.map_eq_some_iff.mp found
    split
    next isPlace =>
      rw [if_pos isPlace] at isLeaf
      have wasLeaf : before.isLeaf = true :=
        (Node.isLeaf_congr (@bare_withFilters tree place before)).symm.trans isLeaf
      have unfiltered := isGrown.unfiltered foundBefore wasLeaf
      rwa [withFilters_of_isLeaf wasLeaf]
    next other =>
      rw [if_neg other] at isLeaf
      exact isGrown.unfiltered foundBefore isLeaf

theorem IsGrown.computePredicates (isGrown : tree.IsGrown) : tree.computePredicates.IsGrown := by
  unfold Tree.computePredicates
  induction List.range tree.size with
  | nil => exact isGrown
  | cons place places inductionHypothesis => exact inductionHypothesis.computeAt place

theorem IsGrown.run {edits : List Edit} (isGrown : tree.IsGrown) (allowed : tree.Allows edits) :
    (tree.run edits).IsGrown := by
  induction edits generalizing tree with
  | nil => exact isGrown
  | cons edit edits inductionHypothesis =>
      apply inductionHypothesis _ allowed.2
      cases edit with
      | addRelation => exact isGrown.add allowed.1
      | addLeaf => exact isGrown.add allowed.1
      | computePredicates => exact isGrown.computePredicates

theorem IsSettled.wherePredicate_of_isLeaf (settled : tree.IsSettled id)
    (found : tree.get? id = some node) (isLeaf : node.isLeaf = true) :
    node.wherePredicate = node.leafPredicate := by
  have same := congrArg Node.wherePredicate (settled node found)
  rw [withFilters_of_isLeaf isLeaf] at same
  exact same.symm

theorem size_bare : tree.bare.size = tree.size :=
  List.length_map ..

theorem depthAt_bare : tree.bare.depthAt id = tree.depthAt id := by
  rw [depthAt, depthAt, get?_bare, Option.map_map]
  rfl

theorem bare_add : (tree.add parent new).bare = tree.bare.add parent new := by
  have modified (ids : List NodeId) :
      (tree.nodes.modify parent fun node => node.adopt ids).map Node.bare =
        tree.bare.nodes.modify parent fun node => node.adopt ids := by
    apply List.ext_getElem?
    intro id
    rw [bare, List.getElem?_map, List.getElem?_modify, List.getElem?_modify, List.getElem?_map,
      Option.map_eq_map, Option.map_map, Option.map_map]
    congr 1
    funext node
    by_cases isParent : parent = id
    · simp only [Function.comp, if_pos isParent]
      rfl
    · simp only [Function.comp, if_neg isParent]
  have sameNew : (tree.newNode parent new).bare = tree.bare.newNode parent new := by
    rw [newNode, newNode, depthAt_bare]
    rfl
  rw [bare, nodes_add, List.map_append, modified, List.map_singleton, sameNew, ← size_bare]
  rfl

theorem get?_congr_of_settled (isGrown : tree.IsGrown) (otherGrown : other.IsGrown)
    (settled : ∀ id, tree.IsSettled id) (otherSettled : ∀ id, other.IsSettled id)
    (same : tree.bare = other.bare) (id : NodeId) : tree.get? id = other.get? id := by
  induction gap : tree.size - id using Nat.strongRecOn generalizing id with
  | ind gap inductionHypothesis =>
      subst gap
      have sameBare : (tree.get? id).map Node.bare = (other.get? id).map Node.bare := by
        rw [← get?_bare, same, get?_bare]
      cases found : tree.get? id with
      | none =>
          rw [found] at sameBare
          exact (Option.map_eq_none_iff.mp sameBare.symm).symm
      | some node =>
          rw [found] at sameBare
          obtain ⟨otherNode, otherFound, bareEq⟩ := Option.map_eq_some_iff.mp sameBare.symm
          have sameLeaf := Node.isLeaf_congr bareEq
          -- All nodes below stand after this one, so they are the same already.
          have sameBelow : other.nodesAt otherNode.children = tree.nodesAt node.children := by
            rw [Node.children_congr bareEq]
            apply List.filterMap_congr
            intro child isChild
            have later := isGrown.isArena.lt_of_child found isChild
            exact (inductionHypothesis _ (Nat.sub_lt_sub_left (lt_size_of_get? found) later) child
              rfl).symm
          rw [otherFound]
          congr 1
          apply Node.eq_of_bare_eq bareEq.symm
          · cases isLeaf : node.isLeaf with
            | true =>
                have sameLeafPredicate := congrArg Node.leafPredicate bareEq
                rw [(settled id).wherePredicate_of_isLeaf found isLeaf,
                  (otherSettled id).wherePredicate_of_isLeaf otherFound (sameLeaf.trans isLeaf)]
                exact sameLeafPredicate.symm
            | false =>
                rw [(settled id).wherePredicate_eq found isLeaf,
                  (otherSettled id).wherePredicate_eq otherFound (sameLeaf.trans isLeaf), sameBelow]
          · cases isLeaf : node.isLeaf with
            | true =>
                rw [isGrown.unfiltered found isLeaf,
                  otherGrown.unfiltered otherFound (sameLeaf.trans isLeaf)]
            | false =>
                rw [(settled id).includeFilter_eq found isLeaf,
                  (otherSettled id).includeFilter_eq otherFound (sameLeaf.trans isLeaf), sameBelow]

/-- Trees whose nodes are settled are the same if they differ in conditions and filters only. -/
theorem eq_of_settled (isGrown : tree.IsGrown) (otherGrown : other.IsGrown)
    (settled : ∀ id, tree.IsSettled id) (otherSettled : ∀ id, other.IsSettled id)
    (same : tree.bare = other.bare) : tree = other := by
  have sameNodes : tree.nodes = other.nodes :=
    List.ext_getElem? (get?_congr_of_settled isGrown otherGrown settled otherSettled same)
  cases tree
  cases other
  cases sameNodes
  rfl

theorem computePredicates_congr (isGrown : tree.IsGrown) (otherGrown : other.IsGrown)
    (same : tree.bare = other.bare) : tree.computePredicates = other.computePredicates := by
  apply eq_of_settled isGrown.computePredicates otherGrown.computePredicates
  · exact isSettled_computePredicates isGrown.isArena
  · exact isSettled_computePredicates otherGrown.isArena
  · rw [bare_computePredicates, bare_computePredicates, same]

theorem run_concat_computePredicates (tree : Tree) (edits : List Edit) :
    tree.run (edits ++ [.computePredicates]) = (tree.run edits).computePredicates :=
  List.foldl_concat ..

theorem size_congr (same : tree.bare = other.bare) : tree.size = other.size := by
  rw [← size_bare, same, size_bare]

theorem bare_apply_congr (same : tree.bare = other.bare) (edit : Edit) :
    (edit.apply tree).bare = (edit.apply other).bare := by
  cases edit with
  | addRelation => exact bare_add.trans ((congrArg (Tree.add · _ _) same).trans bare_add.symm)
  | addLeaf => exact bare_add.trans ((congrArg (Tree.add · _ _) same).trans bare_add.symm)
  | computePredicates =>
      exact bare_computePredicates.trans (same.trans bare_computePredicates.symm)

theorem bare_run {edits : List Edit} (same : tree.bare = other.bare) :
    (tree.run edits).bare = (other.run (edits.filter Edit.isAddition)).bare := by
  induction edits generalizing tree other with
  | nil => exact same
  | cons edit edits inductionHypothesis =>
      cases edit with
      | addRelation => exact inductionHypothesis (bare_apply_congr same _)
      | addLeaf => exact inductionHypothesis (bare_apply_congr same _)
      | computePredicates => exact inductionHypothesis (bare_computePredicates.trans same)

theorem Allows.filter {edits : List Edit} (allowed : tree.Allows edits)
    (same : tree.bare = other.bare) : other.Allows (edits.filter Edit.isAddition) := by
  induction edits generalizing tree other with
  | nil => trivial
  | cons edit edits inductionHypothesis =>
      obtain ⟨fits, later⟩ := allowed
      cases edit with
      | addRelation =>
          exact ⟨Nat.lt_of_lt_of_eq fits (size_congr same),
            inductionHypothesis later (bare_apply_congr same _)⟩
      | addLeaf =>
          exact ⟨Nat.lt_of_lt_of_eq fits (size_congr same),
            inductionHypothesis later (bare_apply_congr same _)⟩
      | computePredicates =>
          exact inductionHypothesis later (bare_computePredicates.trans same)

/-- The conditions of settled nodes are what is asked for from the top down. -/
theorem wherePredicate_eq_demand (isArena : tree.IsArena) (settled : ∀ id, tree.IsSettled id)
    (found : tree.get? id = some node) : node.wherePredicate = tree.demand id := by
  induction gap : tree.size - id using Nat.strongRecOn generalizing id node with
  | ind gap inductionHypothesis =>
      subst gap
      have within := lt_size_of_get? found
      rw [demand]
      split
      next missing => cases missing.symm.trans found
      next _ same =>
        cases found.symm.trans same
        split
        next isLeaf => exact (settled id).wherePredicate_of_isLeaf found isLeaf
        next notLeaf =>
          rw [(settled id).wherePredicate_eq found (Bool.eq_false_iff.mpr notLeaf), nodesAt,
            List.filterMap_filterMap]
          congr 1
          apply List.filterMap_congr
          intro child isChild
          have later := isArena.lt_of_child found isChild
          rw [dif_pos later]
          cases foundBelow : tree.get? child with
          | none => rfl
          | some below =>
              rw [Option.bind_some, Option.bind_some]
              cases isLeaf : below.isLeaf with
              | true => rw [Node.contribution_of_isLeaf isLeaf, if_pos rfl]
              | false =>
                  rw [Node.contribution_of_not_isLeaf isLeaf, if_neg Bool.false_ne_true,
                    inductionHypothesis _ (Nat.sub_lt_sub_left within later) foundBelow rfl]

theorem includeFilter_eq_restriction (isGrown : tree.IsGrown) (settled : ∀ id, tree.IsSettled id)
    (found : tree.get? id = some node) : node.includeFilter = tree.restriction id := by
  rw [restriction, found, Option.bind_some]
  split
  next isLeaf => exact isGrown.unfiltered found isLeaf
  next notLeaf => exact (settled id).includeFilter_eq found (Bool.eq_false_iff.mpr notLeaf)

/-- However a tree was built, when the conditions and filters are worked out last, they are what
the tree asks for.  They are the same if they were not worked out before, stay the same if they are
worked out once more, and nothing else in the tree changes. -/
theorem computePredicates_ignores_history (shape : String) (edits : List Edit)
    (allowed : (Tree.ofRoot shape).Allows edits) :
    let tree := (Tree.ofRoot shape).run edits
    let final := (Tree.ofRoot shape).run (edits ++ [.computePredicates])
    (∀ id node, final.get? id = some node →
      node.wherePredicate = final.demand id ∧ node.includeFilter = final.restriction id) ∧
    final = (Tree.ofRoot shape).run (edits.filter Edit.isAddition ++ [.computePredicates]) ∧
    final.computePredicates = final ∧
    final.bare = tree.bare := by
  intro tree final
  have isGrown : tree.IsGrown := (isGrown_ofRoot shape).run allowed
  have finalEq : final = tree.computePredicates := run_concat_computePredicates _ _
  have settled (id : NodeId) : final.IsSettled id :=
    finalEq ▸ isSettled_computePredicates isGrown.isArena id
  have finalGrown : final.IsGrown := finalEq ▸ isGrown.computePredicates
  have finalBare : final.bare = tree.bare := finalEq ▸ bare_computePredicates
  refine ⟨fun id node found => ⟨?_, ?_⟩, ?_, ?_, finalBare⟩
  · exact wherePredicate_eq_demand finalGrown.isArena settled found
  · exact includeFilter_eq_restriction finalGrown settled found
  · have unmixed := (isGrown_ofRoot shape).run (allowed.filter rfl)
    rw [finalEq, computePredicates_congr isGrown unmixed (bare_run rfl),
      run_concat_computePredicates]
  · rw [computePredicates_congr finalGrown isGrown finalBare, ← finalEq]

/-- Orders with lines and a customer, added across each other and worked out in between. -/
def ordersEdits : List Edit :=
  let above (name : String) (n : Int64) : Predicate := .compare (.ofName name) .greaterThan (.int n)
  [.addRelation 0 "lines" "line" true, .addLeaf 1 "quantity" "int" false (some (above "quantity" 0)),
    .computePredicates, .addRelation 0 "customer" "person" false,
    .addLeaf 0 "total" "int" false (some (above "total" 10)), .computePredicates,
    .addLeaf 3 "age" "int" false (some (above "age" 30)),
    .addLeaf 1 "price" "int" false (some (above "price" 5))]

theorem computePredicates_ignores_history_orders :
    (Tree.ofRoot "order").Allows ordersEdits ∧
      ((Tree.ofRoot "order").run (ordersEdits ++ [.computePredicates])).computePredicates =
        (Tree.ofRoot "order").run (ordersEdits ++ [.computePredicates]) := by
  have allowed : (Tree.ofRoot "order").Allows ordersEdits := by decide +kernel
  exact ⟨allowed, (computePredicates_ignores_history "order" ordersEdits allowed).2.2.1⟩

example : (((Tree.ofRoot "order").run (ordersEdits ++ [.computePredicates])).get? root).bind
    Node.wherePredicate = some (.and (.and (.any ⟨[], "lines"⟩ (.and
      (.compare ⟨[], "quantity"⟩ .greaterThan (.int 0)) (.compare ⟨[], "price"⟩ .greaterThan (.int 5))))
      (.compare ⟨["customer"], "age"⟩ .greaterThan (.int 30)))
      (.compare ⟨[], "total"⟩ .greaterThan (.int 10))) := by decide +kernel

end Tree

end QueryPlanner.Plan
