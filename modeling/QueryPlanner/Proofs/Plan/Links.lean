import QueryPlanner.Proofs.Plan.Loading
import QueryPlanner.Proofs.Plan.Recomputation

/-!
# Links between nodes

In a tree that grows by edits the links up and down agree: every node but the root has a parent
before it, and the children of a node are all those that name it as their parent, in order.  So the
way up from any place ends at the root.  A node that has been added keeps its place and everything
that it was added with.
-/

namespace QueryPlanner.Plan

namespace Edit

/-- What an edit adds to a tree, and under which node. -/
def addition? : Edit → Option (NodeId × Tree.NewNode)
  | addRelation parent field shape isCollection =>
      some (parent, ⟨field, shape, isCollection, true, none⟩)
  | addLeaf parent field shape isCollection predicate =>
      some (parent, ⟨field, shape, isCollection, false, predicate⟩)
  | computePredicates => none

end Edit

namespace Node

/-- The node stands for the same property at the same place as before, and no child is lost. -/
structure Keeps (before after : Node) : Prop where
  parent : after.parent = before.parent
  root : after.root = before.root
  depth : after.depth = before.depth
  shape : after.shape = before.shape
  fieldName : after.fieldName = before.fieldName
  isCollection : after.isCollection = before.isCollection
  shouldInclude : after.shouldInclude = before.shouldInclude
  leafPredicate : after.leafPredicate = before.leafPredicate
  children : before.children <+: after.children

/-- The node stands for a property that was added under a parent. -/
structure StandsFor (parent : NodeId) (new : Tree.NewNode) (node : Node) : Prop where
  parent : node.parent = some parent
  fieldName : node.fieldName = some new.field
  shape : node.shape = new.shape
  isCollection : node.isCollection = new.isCollection
  shouldInclude : node.shouldInclude = new.shouldInclude
  leafPredicate : node.leafPredicate = new.leafPredicate

variable {before middle after : Node}

theorem Keeps.adopt (node : Node) (ids : List NodeId) : node.Keeps (node.adopt ids) :=
  ⟨rfl, rfl, rfl, rfl, rfl, rfl, rfl, rfl, List.prefix_append ..⟩

theorem Keeps.of_bare (same : before.bare = after.bare) : before.Keeps after := by
  have kept {α : Type} (part : Node → α) : part after.bare = part before.bare :=
    congrArg part same.symm
  exact ⟨kept Node.parent, kept Node.root, kept Node.depth, kept Node.shape, kept Node.fieldName,
    kept Node.isCollection, kept Node.shouldInclude, kept Node.leafPredicate,
    (kept Node.children) ▸ List.prefix_rfl⟩

theorem Keeps.trans (first : before.Keeps middle) (second : middle.Keeps after) :
    before.Keeps after where
  parent := second.parent.trans first.parent
  root := second.root.trans first.root
  depth := second.depth.trans first.depth
  shape := second.shape.trans first.shape
  fieldName := second.fieldName.trans first.fieldName
  isCollection := second.isCollection.trans first.isCollection
  shouldInclude := second.shouldInclude.trans first.shouldInclude
  leafPredicate := second.leafPredicate.trans first.leafPredicate
  children := first.children.trans second.children

theorem StandsFor.keeps {parent : NodeId} {new : Tree.NewNode}
    (stands : before.StandsFor parent new) (kept : before.Keeps after) :
    after.StandsFor parent new where
  parent := kept.parent.trans stands.parent
  fieldName := kept.fieldName.trans stands.fieldName
  shape := kept.shape.trans stands.shape
  isCollection := kept.isCollection.trans stands.isCollection
  shouldInclude := kept.shouldInclude.trans stands.shouldInclude
  leafPredicate := kept.leafPredicate.trans stands.leafPredicate

end Node

namespace Tree

/-- The way from a place up to a node without a parent, and the names along it from the top. -/
inductive Ascends (tree : Tree) : NodeId → List String → Prop where
  | top {id : NodeId} {node : Node} (found : tree.get? id = some node)
      (isTop : node.parent = none) : Ascends tree id node.fieldName.toList
  | up {id parent : NodeId} {node : Node} {above : List String}
      (found : tree.get? id = some node) (parentEq : node.parent = some parent)
      (further : Ascends tree parent above) : Ascends tree id (above ++ node.fieldName.toList)

/-- The links between the nodes of a tree agree, up and down. -/
structure IsLinked (tree : Tree) : Prop extends tree.IsArena where
  top : ∃ node, tree.get? root = some node ∧ node.parent = none ∧ node.fieldName = none ∧
    node.depth = 0
  below_top : ∀ {id : NodeId} {node : Node}, tree.get? id = some node → id ≠ root →
    ∃ parent above field, node.parent = some parent ∧ tree.get? parent = some above ∧
      node.depth = above.depth + 1 ∧ node.fieldName = some field
  root_eq : ∀ {id : NodeId} {node : Node}, tree.get? id = some node → node.root = root
  child_of_parent : ∀ {id child : NodeId} {node below : Node}, tree.get? id = some node →
    tree.get? child = some below → below.parent = some id → child ∈ node.children
  increasing : ∀ {id : NodeId} {node : Node}, tree.get? id = some node →
    node.children.Pairwise (· < ·)

variable {tree other : Tree} {id parent child : NodeId} {node below : Node} {new : NewNode}
  {edits : List Edit}

section Steps

theorem isLinked_ofRoot (shape : String) : (Tree.ofRoot shape).IsLinked := by
  have onlyRoot {id : NodeId} {node : Node} (found : (Tree.ofRoot shape).get? id = some node) :
      id = root ∧ node.root = root ∧ node.children = [] ∧ node.parent = none := by
    cases id with
    | zero =>
        cases found
        exact ⟨rfl, rfl, rfl, rfl⟩
    | succ id => cases found
  refine ⟨isArena_ofRoot shape, ⟨_, rfl, rfl, rfl, rfl⟩, ?_, ?_, ?_, ?_⟩
  · intro id node found notRoot
    exact absurd (onlyRoot found).1 notRoot
  · intro id node found
    exact (onlyRoot found).2.1
  · intro id child node below found foundBelow parentEq
    rw [(onlyRoot foundBelow).2.2.2] at parentEq
    cases parentEq
  · intro id node found
    rw [(onlyRoot found).2.2.1]
    exact .nil

theorem exists_get?_of_lt (within : id < tree.size) : ∃ node, tree.get? id = some node :=
  ⟨_, List.getElem?_eq_getElem within⟩

theorem exists_above_newNode (within : parent < tree.size) (new : NewNode) :
    ∃ above, (tree.add parent new).get? parent = some above ∧
      (tree.newNode parent new).depth = above.depth + 1 := by
  obtain ⟨above, found⟩ := exists_get?_of_lt within
  obtain ⟨ids, foundAfter⟩ := exists_get?_add found parent new
  refine ⟨_, foundAfter, ?_⟩
  rw [newNode, depthAt, found]
  rfl

theorem IsLinked.add (linked : tree.IsLinked) (within : parent < tree.size) :
    (tree.add parent new).IsLinked := by
  have arena : (tree.add parent new).IsArena := linked.toIsArena.add within
  refine ⟨arena, ?_, ?_, ?_, ?_, ?_⟩
  · obtain ⟨node, found, isTop, noName, depthEq⟩ := linked.top
    obtain ⟨ids, foundAfter⟩ := exists_get?_add found parent new
    exact ⟨_, foundAfter, isTop, noName, depthEq⟩
  · intro id node found notRoot
    rcases get?_add_cases found with ⟨rfl, rfl⟩ | ⟨before, foundBefore, rfl⟩
    · obtain ⟨above, foundAbove, depthEq⟩ := exists_above_newNode within new
      exact ⟨parent, above, new.field, rfl, foundAbove, depthEq, rfl⟩
    · obtain ⟨up, above, field, parentEq, foundAbove, depthEq, nameEq⟩ :=
        linked.below_top foundBefore notRoot
      obtain ⟨ids, foundAfter⟩ := exists_get?_add foundAbove parent new
      exact ⟨up, _, field, parentEq, foundAfter, depthEq, nameEq⟩
  · intro id node found
    rcases get?_add_cases found with ⟨rfl, rfl⟩ | ⟨before, foundBefore, rfl⟩
    · rfl
    · exact @IsLinked.root_eq tree linked id before foundBefore
  · intro id child node below found foundBelow parentEq
    rcases get?_add_cases found with ⟨rfl, rfl⟩ | ⟨before, foundBefore, rfl⟩
    · -- No node is below the new one: its parent would stand behind it.
      have beforeChild := arena.parent_lt foundBelow parentEq
      have childWithin := lt_size_of_get? foundBelow
      rw [size_add] at childWithin
      exact absurd (Nat.le_of_lt_succ childWithin) (Nat.not_le_of_lt beforeChild)
    · rcases get?_add_cases foundBelow with ⟨rfl, rfl⟩ | ⟨belowBefore, foundBelowBefore, rfl⟩
      · cases parentEq
        simp [Node.adopt]
      · exact List.mem_append_left _
          (linked.child_of_parent foundBefore foundBelowBefore parentEq)
  · intro id node found
    rcases get?_add_cases found with ⟨rfl, rfl⟩ | ⟨before, foundBefore, rfl⟩
    · exact .nil
    · have increasing := linked.increasing foundBefore
      split
      next =>
        refine List.pairwise_append.mpr ⟨increasing, List.pairwise_singleton _ _, ?_⟩
        intro earlier isChild later isNew
        cases List.mem_singleton.mp isNew
        obtain ⟨below, foundBelow, _⟩ := linked.parent_of_child foundBefore isChild
        exact lt_size_of_get? foundBelow
      next =>
        rw [Node.adopt_nil]
        exact increasing

theorem exists_keeps_of_bare (same : tree.bare = other.bare) (found : tree.get? id = some node) :
    ∃ twin, other.get? id = some twin ∧ node.Keeps twin ∧ twin.children = node.children := by
  have foundBare := get?_bare_eq_some.mpr ⟨node, found, rfl⟩
  rw [same] at foundBare
  obtain ⟨twin, foundTwin, bareEq⟩ := get?_bare_eq_some.mp foundBare
  exact ⟨twin, foundTwin, .of_bare bareEq.symm, Node.children_congr bareEq⟩

theorem IsLinked.congr (linked : tree.IsLinked) (same : tree.bare = other.bare) :
    other.IsLinked := by
  refine ⟨isArena_bare.mp (same ▸ isArena_bare.mpr linked.toIsArena), ?_, ?_, ?_, ?_, ?_⟩
  · obtain ⟨node, found, isTop, noName, depthEq⟩ := linked.top
    obtain ⟨twin, foundTwin, kept, _⟩ := exists_keeps_of_bare same found
    exact ⟨twin, foundTwin, kept.parent.trans isTop, kept.fieldName.trans noName,
      kept.depth.trans depthEq⟩
  · intro id twin foundTwin notRoot
    obtain ⟨node, found, kept, _⟩ := exists_keeps_of_bare same.symm foundTwin
    obtain ⟨parent, above, field, parentEq, foundAbove, depthEq, nameEq⟩ :=
      linked.below_top found notRoot
    obtain ⟨aboveTwin, foundAboveTwin, aboveKept, _⟩ := exists_keeps_of_bare same foundAbove
    refine ⟨parent, aboveTwin, field, kept.parent.symm.trans parentEq, foundAboveTwin, ?_,
      kept.fieldName.symm.trans nameEq⟩
    rw [← kept.depth, depthEq, aboveKept.depth]
  · intro id twin foundTwin
    obtain ⟨node, found, kept, _⟩ := exists_keeps_of_bare same.symm foundTwin
    exact kept.root.symm.trans (linked.root_eq found)
  · intro id child twin belowTwin foundTwin foundBelowTwin parentEq
    obtain ⟨node, found, _, childrenEq⟩ := exists_keeps_of_bare same.symm foundTwin
    obtain ⟨below, foundBelow, kept, _⟩ := exists_keeps_of_bare same.symm foundBelowTwin
    rw [← childrenEq]
    exact linked.child_of_parent found foundBelow (kept.parent.trans parentEq)
  · intro id twin foundTwin
    obtain ⟨node, found, _, childrenEq⟩ := exists_keeps_of_bare same.symm foundTwin
    rw [← childrenEq]
    exact linked.increasing found

theorem IsLinked.apply {edit : Edit} (linked : tree.IsLinked) (fits : edit.Fits tree) :
    (edit.apply tree).IsLinked := by
  cases edit with
  | addRelation => exact linked.add fits
  | addLeaf => exact linked.add fits
  | computePredicates => exact linked.congr bare_computePredicates.symm

theorem IsLinked.run (linked : tree.IsLinked) (allowed : tree.Allows edits) :
    (tree.run edits).IsLinked := by
  induction edits generalizing tree with
  | nil => exact linked
  | cons edit edits inductionHypothesis =>
      exact inductionHypothesis (linked.apply allowed.1) allowed.2

end Steps

section Shape

variable (linked : tree.IsLinked)
include linked

theorem IsLinked.parent_eq_none_iff (found : tree.get? id = some node) :
    node.parent = none ↔ id = root := by
  constructor
  · intro isTop
    by_contra notRoot
    obtain ⟨parent, _, _, parentEq, _⟩ := linked.below_top found notRoot
    cases isTop.symm.trans parentEq
  · rintro rfl
    obtain ⟨top, foundTop, isTop, _⟩ := linked.top
    cases found.symm.trans foundTop
    exact isTop

theorem IsLinked.fieldName_eq_none_iff (found : tree.get? id = some node) :
    node.fieldName = none ↔ id = root := by
  constructor
  · intro noName
    by_contra notRoot
    obtain ⟨_, _, field, _, _, _, nameEq⟩ := linked.below_top found notRoot
    cases noName.symm.trans nameEq
  · rintro rfl
    obtain ⟨top, foundTop, _, noName, _⟩ := linked.top
    cases found.symm.trans foundTop
    exact noName

theorem IsLinked.mem_children_iff (found : tree.get? id = some node) :
    child ∈ node.children ↔ ∃ below, tree.get? child = some below ∧ below.parent = some id := by
  constructor
  · exact linked.parent_of_child found
  · rintro ⟨below, foundBelow, parentEq⟩
    exact linked.child_of_parent found foundBelow parentEq

theorem IsLinked.exists_only_parent (within : id < tree.size) (notRoot : id ≠ root) :
    ∃ parent above, tree.get? parent = some above ∧ above.children.count id = 1 ∧
      ∀ place node, tree.get? place = some node → id ∈ node.children → place = parent := by
  obtain ⟨node, found⟩ := exists_get?_of_lt within
  obtain ⟨parent, above, _, parentEq, foundAbove, _⟩ := linked.below_top found notRoot
  refine ⟨parent, above, foundAbove, ?_, ?_⟩
  · have isChild := linked.child_of_parent foundAbove found parentEq
    have distinct : above.children.Nodup :=
      (linked.increasing foundAbove).imp fun less => Nat.ne_of_lt less
    exact distinct.count.trans (if_pos isChild)
  · intro place node foundPlace isChild
    obtain ⟨twin, foundTwin, twinParent⟩ := linked.parent_of_child foundPlace isChild
    cases found.symm.trans foundTwin
    exact Option.some.inj (twinParent.symm.trans parentEq)

/-- Every step up leads to an earlier place, so the way up ends, and it is as long as the place is
deep. -/
theorem IsLinked.ascends (found : tree.get? id = some node) :
    tree.Ascends id (tree.path id) ∧ (tree.path id).length = node.depth := by
  induction id using Nat.strongRecOn generalizing node with
  | ind id inductionHypothesis =>
      by_cases isRoot : id = root
      · subst isRoot
        obtain ⟨top, foundTop, isTop, noName, depthEq⟩ := linked.top
        cases found.symm.trans foundTop
        rw [path_of_orphan found isTop]
        refine ⟨.top found isTop, ?_⟩
        rw [noName, depthEq]
        rfl
      · obtain ⟨parent, above, field, parentEq, foundAbove, depthEq, nameEq⟩ :=
          linked.below_top found isRoot
        have earlier := linked.parent_lt found parentEq
        obtain ⟨further, lengthEq⟩ := inductionHypothesis parent earlier foundAbove
        rw [path_of_parent linked.toIsArena found parentEq]
        refine ⟨.up found parentEq further, ?_⟩
        rw [List.length_append, lengthEq, depthEq, nameEq]
        rfl

end Shape

section History

theorem exists_keeps_apply (found : tree.get? id = some node) (edit : Edit) :
    ∃ after, (edit.apply tree).get? id = some after ∧ node.Keeps after := by
  cases edit with
  | addRelation parent =>
      obtain ⟨ids, foundAfter⟩ := exists_get?_add found parent _
      exact ⟨_, foundAfter, .adopt node ids⟩
  | addLeaf parent =>
      obtain ⟨ids, foundAfter⟩ := exists_get?_add found parent _
      exact ⟨_, foundAfter, .adopt node ids⟩
  | computePredicates =>
      obtain ⟨after, foundAfter, kept, _⟩ := exists_keeps_of_bare bare_computePredicates.symm found
      exact ⟨after, foundAfter, kept⟩

theorem exists_keeps_run (found : tree.get? id = some node) (edits : List Edit) :
    ∃ after, (tree.run edits).get? id = some after ∧ node.Keeps after := by
  induction edits generalizing tree node with
  | nil => exact ⟨node, found, .of_bare rfl⟩
  | cons edit edits inductionHypothesis =>
      obtain ⟨middle, foundMiddle, first⟩ := exists_keeps_apply found edit
      obtain ⟨after, foundAfter, further⟩ := inductionHypothesis foundMiddle
      exact ⟨after, foundAfter, first.trans further⟩

theorem exists_standsFor_apply (tree : Tree) {edit : Edit}
    (adds : edit.addition? = some (parent, new)) :
    ∃ node, (edit.apply tree).get? tree.size = some node ∧ node.StandsFor parent new := by
  cases edit with
  | addRelation =>
      cases adds
      exact ⟨_, get?_add_size, ⟨rfl, rfl, rfl, rfl, rfl, rfl⟩⟩
  | addLeaf =>
      cases adds
      exact ⟨_, get?_add_size, ⟨rfl, rfl, rfl, rfl, rfl, rfl⟩⟩
  | computePredicates => cases adds

end History

/-- In a tree that is built from its root by edits, the root is the only node without a parent and
without a name.  Every other node has a parent before it and is one step deeper, and its root is the
root.  The children of a node are the nodes that name it as their parent, in increasing order, so
each node but the root is a child once, of one node.  The way up from a node ends, and its path has
as many names as the node is deep: those of its parent's path, and its own.  All nodes that were
there at some time are still there, and where a node was added behind all others, there is now the
property that it was added for. -/
theorem run_isLinked (shape : String) (edits : List Edit)
    (allowed : (Tree.ofRoot shape).Allows edits) :
    let tree := (Tree.ofRoot shape).run edits
    (tree.get? root).isSome = true ∧
    (∀ id node, tree.get? id = some node →
      (node.parent = none ↔ id = root) ∧ (node.fieldName = none ↔ id = root) ∧
      node.root = root ∧
      (∀ parent, node.parent = some parent → parent < id ∧
        ∃ above, tree.get? parent = some above ∧ node.depth = above.depth + 1 ∧
          tree.path id = tree.path parent ++ node.fieldName.toList) ∧
      (∀ child, child ∈ node.children ↔
        ∃ below, tree.get? child = some below ∧ below.parent = some id) ∧
      node.children.Pairwise (· < ·) ∧
      tree.Ascends id (tree.path id) ∧ (tree.path id).length = node.depth) ∧
    (∀ id, id < tree.size → id ≠ root →
      ∃ parent above, tree.get? parent = some above ∧ above.children.count id = 1 ∧
        ∀ place node, tree.get? place = some node → id ∈ node.children → place = parent) ∧
    (∀ earlier later, edits = earlier ++ later → ∀ id node,
      ((Tree.ofRoot shape).run earlier).get? id = some node →
        ∃ after, tree.get? id = some after ∧ node.Keeps after) ∧
    ∀ earlier edit later parent new, edits = earlier ++ edit :: later →
      edit.addition? = some (parent, new) →
        ∃ node, tree.get? ((Tree.ofRoot shape).run earlier).size = some node ∧
          node.StandsFor parent new := by
  intro tree
  have linked : tree.IsLinked := (isLinked_ofRoot shape).run allowed
  have run_append (earlier later : List Edit) : (Tree.ofRoot shape).run (earlier ++ later) =
      ((Tree.ofRoot shape).run earlier).run later := List.foldl_append
  refine ⟨?_, ?_, fun id => linked.exists_only_parent, ?_, ?_⟩
  · obtain ⟨top, foundTop, _⟩ := linked.top
    exact Option.isSome_of_eq_some foundTop
  · intro id node found
    obtain ⟨ascends, lengthEq⟩ := linked.ascends found
    refine ⟨linked.parent_eq_none_iff found, linked.fieldName_eq_none_iff found,
      linked.root_eq found, ?_, fun child => linked.mem_children_iff found,
      linked.increasing found, ascends, lengthEq⟩
    intro parent parentEq
    have notRoot : id ≠ root := by
      intro isRoot
      cases parentEq.symm.trans ((linked.parent_eq_none_iff found).mpr isRoot)
    obtain ⟨same, above, _, sameEq, foundAbove, depthEq, _⟩ := linked.below_top found notRoot
    cases parentEq.symm.trans sameEq
    exact ⟨linked.parent_lt found parentEq, above, foundAbove, depthEq,
      path_of_parent linked.toIsArena found parentEq⟩
  · rintro earlier later rfl id node found
    have kept := exists_keeps_run found later
    rwa [← run_append] at kept
  · rintro earlier edit later parent new rfl adds
    obtain ⟨added, foundAdded, stands⟩ :=
      exists_standsFor_apply ((Tree.ofRoot shape).run earlier) adds
    obtain ⟨node, found, kept⟩ := exists_keeps_run foundAdded later
    refine ⟨node, ?_, stands.keeps kept⟩
    exact (congrArg (Tree.get? · _) (run_append earlier (edit :: later))).trans found

/-- The line's price is added last, long after the line, and is two steps deep. -/
theorem run_isLinked_orders :
    (Tree.ofRoot "order").Allows ordersEdits ∧
      (((Tree.ofRoot "order").run ordersEdits).path 6).length = 2 := by
  have allowed : (Tree.ofRoot "order").Allows ordersEdits := by decide +kernel
  have depthEq : (((Tree.ofRoot "order").run ordersEdits).get? 6).map Node.depth = some 2 := by
    decide +kernel
  obtain ⟨node, found, isTwo⟩ := Option.map_eq_some_iff.mp depthEq
  have parts := (run_isLinked "order" ordersEdits allowed).2.1 6 node found
  exact ⟨allowed, parts.2.2.2.2.2.2.2.trans isTwo⟩

end Tree

end QueryPlanner.Plan
