import QueryPlanner.Proofs.Plan.Scope

/-!
# Requests and shapes

Every node of a tree fits the shape of its parent: its property is declared there, and only
relations have nodes below them.  So a request asks for a relation that there is, at the end of
relations that there are, and restricts the related rows by their own fields.
-/

namespace QueryPlanner.Plan

open QueryPlanner.Condition QueryPlanner.Json QueryPlanner.Schema

/-- A request fits the shapes, if it begins at rows of a shape. -/
structure Request.IsScoped (schema : Provider) (shape : String) (request : Request) : Prop where
  resolves : schema.property? request.parentShape request.relation =
    some ⟨request.shape, request.isCollection, true⟩
  path_leads : schema.reach? Property.isNavigable shape request.path = some request.shape
  filter_isOwn : ∀ predicate ∈ request.filter, predicate.IsOwn schema request.shape

/-- A node stands for a property of a shape. -/
structure Node.Fits (schema : Provider) (shape : String) (node : Node) : Prop where
  name_eq : node.fieldName = some node.field
  declared : ∃ isNavigable,
    schema.property? shape node.field = some ⟨node.shape, node.isCollection, isNavigable⟩ ∧
      (node.shouldInclude = true → isNavigable = true)
  condition : ∀ predicate ∈ node.leafPredicate, IsFold (.ofName node.field) predicate

/-- Nodes without a parent have the shape of the outermost rows and no name, and all others fit
the shape of their parent, which is no scalar. -/
structure Tree.IsScoped (schema : Provider) (shape : String) (tree : Tree) : Prop where
  of_orphan : ∀ {id : NodeId} {node : Node}, tree.get? id = some node → node.parent = none →
    node.fieldName = none ∧ node.shape = shape
  of_child : ∀ {id parent : NodeId} {node : Node}, tree.get? id = some node →
    node.parent = some parent →
      ∃ above, tree.get? parent = some above ∧ above.shouldInclude = true ∧
        node.Fits schema above.shape

variable {schema : Provider} {shape : String} {tree : Tree} {parent id : NodeId}
  {node above : Node}

namespace Tree

theorem isScoped_ofRoot : (Tree.ofRoot shape).IsScoped schema shape := by
  constructor
  · intro id node found isOrphan
    cases id with
    | zero =>
        cases found
        exact ⟨rfl, rfl⟩
    | succ id => cases found
  · intro id parent node found parentEq
    cases id with
    | zero =>
        cases found
        cases parentEq
    | succ id => cases found

theorem IsScoped.add (isScoped : tree.IsScoped schema shape) {new : NewNode}
    (found : tree.get? parent = some above) (included : above.shouldInclude = true)
    (fits : (tree.newNode parent new).Fits schema above.shape) :
    (tree.add parent new).IsScoped schema shape := by
  constructor
  · intro id node foundNode isOrphan
    rcases get?_add_cases foundNode with ⟨rfl, rfl⟩ | ⟨before, foundBefore, rfl⟩
    · cases isOrphan
    · have orphan := isScoped.of_orphan foundBefore isOrphan
      exact orphan
  · intro id place node foundNode parentEq
    rcases get?_add_cases foundNode with ⟨rfl, rfl⟩ | ⟨before, foundBefore, rfl⟩
    · cases parentEq
      obtain ⟨ids, foundAbove⟩ := exists_get?_add found parent new
      exact ⟨_, foundAbove, included, fits⟩
    · obtain ⟨higher, foundHigher, higherIncluded, beforeFits⟩ :=
        isScoped.of_child foundBefore parentEq
      obtain ⟨ids, foundAbove⟩ := exists_get?_add foundHigher parent new
      exact ⟨_, foundAbove, higherIncluded, ⟨beforeFits.name_eq, beforeFits.declared,
        beforeFits.condition⟩⟩

theorem isScoped_bare : tree.bare.IsScoped schema shape ↔ tree.IsScoped schema shape := by
  constructor
  · intro isScoped
    constructor
    · intro id node found isOrphan
      have foundBare : tree.bare.get? id = some node.bare :=
        get?_bare_eq_some.mpr ⟨node, found, rfl⟩
      have orphan := isScoped.of_orphan foundBare isOrphan
      exact orphan
    · intro id parent node found parentEq
      obtain ⟨above, foundAbove, included, fits⟩ :=
        isScoped.of_child (get?_bare_eq_some.mpr ⟨node, found, rfl⟩) parentEq
      obtain ⟨full, foundFull, rfl⟩ := get?_bare_eq_some.mp foundAbove
      exact ⟨full, foundFull, included, ⟨fits.name_eq, fits.declared, fits.condition⟩⟩
  · intro isScoped
    constructor
    · intro id node found isOrphan
      obtain ⟨full, foundFull, rfl⟩ := get?_bare_eq_some.mp found
      have orphan := isScoped.of_orphan foundFull isOrphan
      exact orphan
    · intro id parent node found parentEq
      obtain ⟨full, foundFull, rfl⟩ := get?_bare_eq_some.mp found
      obtain ⟨above, foundAbove, included, fits⟩ := isScoped.of_child foundFull parentEq
      exact ⟨above.bare, get?_bare_eq_some.mpr ⟨above, foundAbove, rfl⟩, included,
        ⟨fits.name_eq, fits.declared, fits.condition⟩⟩

theorem isScoped_computePredicates (isScoped : tree.IsScoped schema shape) :
    tree.computePredicates.IsScoped schema shape := by
  apply isScoped_bare.mp
  rw [bare_computePredicates]
  exact isScoped_bare.mpr isScoped

theorem reach?_pathWithin (isArena : tree.IsArena) (isScoped : tree.IsScoped schema shape)
    {steps : Nat} (enough : id < steps) (found : tree.get? id = some node)
    (included : node.shouldInclude = true) :
    schema.reach? Property.isNavigable shape (tree.pathWithin steps id) = some node.shape := by
  induction steps generalizing id node with
  | zero => cases enough
  | succ steps inductionHypothesis =>
      rw [pathWithin, found]
      cases parentEq : node.parent with
      | none =>
          obtain ⟨noName, shapeEq⟩ := isScoped.of_orphan found parentEq
          simp only [noName, parentEq, shapeEq, Option.map_none, Option.getD_none,
            Option.toList_none, List.append_nil]
          rfl
      | some parent =>
          obtain ⟨above, foundAbove, aboveIncluded, fits⟩ := isScoped.of_child found parentEq
          obtain ⟨isNavigable, declared, navigable⟩ := fits.declared
          -- A parent comes before its child, so the steps that are left are enough for it.
          have parentWithin : parent < steps :=
            Nat.lt_of_lt_of_le (isArena.parent_lt found parentEq) (Nat.le_of_lt_succ enough)
          have reached := inductionHypothesis parentWithin foundAbove aboveIncluded
          simp only [parentEq, Option.map_some, Option.getD_some]
          rw [reach?_append reached, fits.name_eq, Option.toList_some,
            reach?_cons [] declared (navigable included)]
          rfl

theorem exists_of_mem_children {entry : NodeId × Node} (isChild : entry ∈ tree.children id) :
    tree.get? entry.1 = some entry.2 := by
  obtain ⟨child, _, foundChild⟩ := List.mem_filterMap.mp isChild
  obtain ⟨below, found, rfl⟩ := Option.map_eq_some_iff.mp foundChild
  exact found

theorem isRelation_of_mem_relationsBelow {steps : Nat} {place : NodeId}
    (isBelow : id ∈ tree.relationsBelow steps place) :
    ∃ node, tree.get? id = some node ∧ node.isRelation = true := by
  induction steps generalizing place with
  | zero => cases isBelow
  | succ steps inductionHypothesis =>
      rw [relationsBelow] at isBelow
      obtain ⟨⟨child, below⟩, isChild, isBelowChild⟩ := List.mem_flatMap.mp isBelow
      change id ∈ if below.isRelation = true then child :: tree.relationsBelow steps child else []
        at isBelowChild
      split at isBelowChild
      next isRelation =>
        rcases List.mem_cons.mp isBelowChild with rfl | further
        · exact ⟨below, exists_of_mem_children isChild, isRelation⟩
        · exact inductionHypothesis further
      next => cases isBelowChild

/-- The filter of a node that is no scalar compares fields of the node's own shape. -/
theorem includeFilter_isOwn (isArena : tree.IsArena) (isScoped : tree.IsScoped schema shape)
    (settled : tree.IsSettled id) (found : tree.get? id = some node)
    (included : node.shouldInclude = true) :
    ∀ predicate ∈ node.includeFilter, predicate.IsOwn schema node.shape := by
  have notLeaf : node.isLeaf = false := by rw [Node.isLeaf, included, Bool.not_true]
  rw [settled.includeFilter_eq found notLeaf]
  apply Predicate.forall_mem_conjunction (motive := fun single => single.IsOwn schema node.shape)
    fun _ _ => And.intro
  intro predicate isSingle
  obtain ⟨below, isLeafBelow, leafPredicateEq⟩ := List.mem_filterMap.mp isSingle
  obtain ⟨child, isChild, foundBelow⟩ := List.mem_filterMap.mp (List.mem_filter.mp isLeafBelow).1
  obtain ⟨same, foundSame, parentEq⟩ := isArena.parent_of_child found isChild
  cases foundSame.symm.trans foundBelow
  obtain ⟨above, foundAbove, _, fits⟩ := isScoped.of_child foundBelow parentEq
  cases foundAbove.symm.trans found
  obtain ⟨isNavigable, declared, _⟩ := fits.declared
  exact (fits.condition predicate leafPredicateEq).isOwn declared

theorem isScoped_of_mem_requests (isArena : tree.IsArena)
    (isScoped : tree.IsScoped schema shape) (settled : ∀ id, tree.IsSettled id)
    {request : Request} (isRequest : request ∈ tree.requests) :
    request.IsScoped schema shape := by
  obtain ⟨id, isBelow, requested⟩ := List.mem_filterMap.mp isRequest
  obtain ⟨node, found, isRelation⟩ := isRelation_of_mem_relationsBelow isBelow
  have included : node.shouldInclude = true := (Bool.and_eq_true_iff.mp isRelation).1
  rw [request?, found, Option.bind_eq_bind, Option.bind_some] at requested
  obtain ⟨parent, parentEq, requestedThere⟩ := Option.bind_eq_some_iff.mp requested
  obtain ⟨above, foundAbove, returned⟩ := Option.bind_eq_some_iff.mp requestedThere
  obtain ⟨same, foundSame, _, fits⟩ := isScoped.of_child found parentEq
  cases foundSame.symm.trans foundAbove
  obtain ⟨isNavigable, declared, navigable⟩ := fits.declared
  cases returned
  constructor
  · rw [navigable included] at declared
    exact declared
  · exact reach?_pathWithin isArena isScoped (lt_size_of_get? found) found included
  · exact includeFilter_isOwn isArena isScoped (settled id) found included

end Tree

end QueryPlanner.Plan

namespace QueryPlanner.Document

open QueryPlanner.Json QueryPlanner.Plan QueryPlanner.Schema

variable {schema : Provider} {shape root : String} {tree after : Tree} {parent : NodeId}
  {members : List (String × Value)} {ids : List NodeId} {above : Node}

theorem Adds.isScoped (adds : Adds schema parent shape members tree ids after)
    (isScoped : tree.IsScoped schema root) (found : tree.get? parent = some above)
    (included : above.shouldInclude = true) (shapeEq : above.shape = shape) :
    after.IsScoped schema root := by
  induction adds generalizing above with
  | nothing => exact isScoped
  | @relation parent shape name members rest property tree middle after below ids declared
      isNavigable inside others insideIH othersIH =>
      have within := Tree.lt_size_of_get? found
      obtain ⟨adopted, foundLonger⟩ := Tree.exists_get?_add found parent
        ⟨name, property.valueShape, property.isCollection, true, none⟩
      have foundMiddle : middle.get? parent = some (above.adopt adopted) :=
        (inside.get?_of_ne (Tree.lt_size_add_of_lt within) (Nat.ne_of_lt within)).trans foundLonger
      -- The members inside go under the new node, the others under the same parent as before.
      apply othersIH _ foundMiddle included shapeEq
      apply insideIH _ Tree.get?_add_size rfl rfl
      apply isScoped.add found included
      refine ⟨rfl, ⟨property.isNavigable, ?_, fun _ => isNavigable⟩, ?_⟩
      · rw [shapeEq]
        exact declared
      · intro predicate noCondition
        cases noCondition
  | skipped declared notNavigable others othersIH =>
      exact othersIH isScoped found included shapeEq
  | @scalar parent shape name value rest property condition tree after ids declared scalar
      compiled others othersIH =>
      obtain ⟨adopted, foundLonger⟩ := Tree.exists_get?_add found parent
        ⟨name, property.valueShape, property.isCollection, false, condition⟩
      apply othersIH _ foundLonger included shapeEq
      apply isScoped.add found included
      refine ⟨rfl, ⟨property.isNavigable, ?_, fun isIncluded => nomatch isIncluded⟩, ?_⟩
      · rw [shapeEq]
        exact declared
      · intro predicate isCondition
        have conditionEq : condition = some predicate := isCondition
        rw [conditionEq] at compiled
        exact isFold_of_condition? compiled

/-- A plan fits the shapes: its predicate can be evaluated on the outermost rows, and each of its
requests asks for a relation at the end of relations, restricted by fields of the related rows. -/
theorem wellScoped_of_build {document : Document} {plan : QueryPlan}
    (built : document.build shape schema = .ok plan) :
    (∀ predicate ∈ plan.wherePredicate, predicate.WellScoped schema shape) ∧
      ∀ request ∈ plan.requests, request.IsScoped schema shape := by
  constructor
  · rw [wherePredicate_of_build built]
    obtain ⟨ids, tree, adds, _⟩ := exists_adds_of_build built
    exact Predicate.forall_mem_conjunction (fun _ _ => And.intro) adds.wellScoped_demands
  · obtain ⟨ids, tree, adds, rfl⟩ := exists_adds_of_build built
    have isArena := adds.isArena (Tree.isArena_ofRoot shape) Nat.one_pos
    have isScoped : tree.IsScoped schema shape :=
      adds.isScoped Tree.isScoped_ofRoot rfl rfl rfl
    intro request isRequest
    exact Tree.isScoped_of_mem_requests (Tree.isArena_computePredicates isArena)
      (Tree.isScoped_computePredicates isScoped) (Tree.isSettled_computePredicates isArena)
      isRequest

theorem wellScoped_of_build_orders :
    (⟨none, ordersQuery, 0, 0⟩ : Document).build "order" orders = .ok ordersPlan ∧
      (∀ predicate ∈ ordersPlan.wherePredicate, predicate.WellScoped orders "order") ∧
        ∀ request ∈ ordersPlan.requests, request.IsScoped orders "order" :=
  ⟨build_orders, wellScoped_of_build build_orders⟩

end QueryPlanner.Document
