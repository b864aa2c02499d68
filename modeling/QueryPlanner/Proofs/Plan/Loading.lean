import QueryPlanner.Proofs.Plan.Translation

/-!
# What a query loads

The requests of a plan can be read off the members of the query directly: there is one for each
object on a relation, right before those for the relations inside it, and it is restricted by the
conditions of the scalars inside it.
-/

namespace QueryPlanner

open QueryPlanner.Json QueryPlanner.Plan QueryPlanner.Schema

namespace Document

def ownConditions (members : List (String × Value)) : List Predicate :=
  members.filterMap fun member => ownCondition member.1 member.2

/-- The request for the rows of a relation at the end of a path, if the query has members for
them. -/
def relationRequest (path : List String) (shape name : String) (property : Property)
    (members : List (String × Value)) : Request where
  kind := if path = [] then .fresh else .chained
  parentShape := shape
  relation := name
  shape := property.valueShape
  path := path ++ [name]
  isCollection := property.isCollection
  filter := Predicate.conjunction (ownConditions members)

/-- What the members of an object load at rows of a shape, which are those at the end of a path. -/
def loads (schema : Provider) (path : List String) (shape : String) :
    List (String × Value) → List Request
  | [] => []
  | (name, .object members) :: rest =>
      (match schema.property? shape name with
      | some ⟨valueShape, isCollection, true⟩ =>
          relationRequest path shape name ⟨valueShape, isCollection, true⟩ members ::
            loads schema (path ++ [name]) valueShape members
      | _ => []) ++ loads schema path shape rest
  | (_, _) :: rest => loads schema path shape rest

variable {schema : Provider} {path : List String} {shape name : String} {value : Value}
  {members rest : List (String × Value)} {property : Property}

theorem loads_relation (declared : schema.property? shape name = some property)
    (isNavigable : property.isNavigable = true) :
    loads schema path shape ((name, .object members) :: rest) =
      relationRequest path shape name property members ::
        (loads schema (path ++ [name]) property.valueShape members ++
          loads schema path shape rest) := by
  obtain ⟨valueShape, isCollection, navigable⟩ := property
  cases isNavigable
  rw [loads, declared]
  rfl

theorem loads_skipped (declared : schema.property? shape name = some property)
    (notNavigable : property.isNavigable = false) :
    loads schema path shape ((name, .object members) :: rest) = loads schema path shape rest := by
  obtain ⟨valueShape, isCollection, navigable⟩ := property
  cases notNavigable
  rw [loads, declared]
  rfl

theorem loads_scalar (scalar : isScalar value = true) :
    loads schema path shape ((name, value) :: rest) = loads schema path shape rest := by
  rw [loads]
  rintro members rfl
  cases scalar

end Document

namespace Plan.Tree

variable {tree : Tree} {id parent : NodeId} {node : Node}

theorem pathWithin_congr (isArena : tree.IsArena) {steps others : Nat} (enough : id < steps)
    (othersEnough : id < others) : tree.pathWithin steps id = tree.pathWithin others id := by
  induction steps generalizing id others with
  | zero => cases enough
  | succ steps inductionHypothesis =>
      cases others with
      | zero => cases othersEnough
      | succ others =>
          rw [pathWithin, pathWithin]
          cases found : tree.get? id with
          | none => rfl
          | some node =>
              cases parentEq : node.parent with
              | none => simp only [parentEq, Option.map_none]
              | some parent =>
                  have parentLt := isArena.parent_lt found parentEq
                  have same := inductionHypothesis
                    (Nat.lt_of_lt_of_le parentLt (Nat.le_of_lt_succ enough))
                    (Nat.lt_of_lt_of_le parentLt (Nat.le_of_lt_succ othersEnough))
                  simp only [parentEq, Option.map_some, same]

theorem path_of_parent (isArena : tree.IsArena) (found : tree.get? id = some node)
    (parentEq : node.parent = some parent) :
    tree.path id = tree.path parent ++ node.fieldName.toList := by
  have within := lt_size_of_get? found
  have parentWithin := Nat.lt_trans (isArena.parent_lt found parentEq) within
  rw [path, pathWithin_congr isArena within (Nat.lt_succ_of_lt within), pathWithin, found]
  simp only [parentEq, Option.map_some, Option.getD_some, path]

theorem path_of_orphan (found : tree.get? id = some node) (isOrphan : node.parent = none) :
    tree.path id = node.fieldName.toList := by
  obtain ⟨steps, sizeEq⟩ := Nat.exists_eq_add_one.mpr (Nat.zero_lt_of_lt (lt_size_of_get? found))
  rw [path, sizeEq, pathWithin, found]
  simp only [isOrphan, Option.map_none, Option.getD_none, List.nil_append]

/-- The places of the relations among some places, each before those below it. -/
def relationsAmong (tree : Tree) (steps : Nat) (ids : List NodeId) : List NodeId :=
  (ids.filterMap fun id => (tree.get? id).map (id, ·)).flatMap fun (id, node) =>
    if node.isRelation then id :: tree.relationsBelow steps id else []

theorem relationsBelow_succ (found : tree.get? id = some node) (steps : Nat) :
    tree.relationsBelow (steps + 1) id = tree.relationsAmong steps node.children := by
  rw [relationsBelow, children, found]
  rfl

theorem relationsAmong_cons (found : tree.get? id = some node) (steps : Nat) (ids : List NodeId) :
    tree.relationsAmong steps (id :: ids) =
      (if node.isRelation then id :: tree.relationsBelow steps id else []) ++
        tree.relationsAmong steps ids := by
  rw [relationsAmong, List.filterMap_cons, found, Option.map_some, List.flatMap_cons]
  rfl

end Plan.Tree

namespace Document

variable {schema : Provider} {tree : Tree} {parent start stop : NodeId} {depth : Nat}
  {shape name : String} {members : List (String × Value)} {property : Property}
  {ids : List NodeId} {node above : Node}

theorem Depicts.start_le_stop
    (depicts : Depicts schema tree parent depth shape members start stop ids) : start ≤ stop := by
  induction depicts with
  | nothing => exact Nat.le_refl _
  | relation declared isNavigable found stands inside others insideIH othersIH =>
      exact Nat.le_trans (Nat.le_of_succ_le insideIH) othersIH
  | skipped declared notNavigable others othersIH => exact othersIH
  | scalar declared scalar asks found stands childless others othersIH =>
      exact Nat.le_of_succ_le othersIH

theorem Depicts.leafPredicates_eq
    (depicts : Depicts schema tree parent depth shape members start stop ids) :
    ((tree.nodesAt ids).filter Node.isLeaf).filterMap Node.leafPredicate =
      ownConditions members := by
  induction depicts with
  | nothing => rfl
  | relation declared isNavigable found stands inside others insideIH othersIH =>
      rw [Tree.nodesAt, List.filterMap_cons_some found, ← Tree.nodesAt,
        List.filter_cons_of_neg (Bool.eq_false_iff.mp stands.isLeaf_eq), othersIH]
      rfl
  | skipped declared notNavigable others othersIH => exact othersIH
  | scalar declared scalar asks found stands childless others othersIH =>
      rw [Tree.nodesAt, List.filterMap_cons_some found, ← Tree.nodesAt,
        List.filter_cons_of_pos stands.isLeaf_eq, List.filterMap_cons, othersIH,
        stands.leafPredicate_eq, ← ownCondition_eq ((asks_iff scalar).mp asks)]
      rfl

theorem request?_of_stands (isArena : tree.IsArena) (settled : ∀ id, tree.IsSettled id)
    {place : NodeId} (foundAbove : tree.get? parent = some above)
    (found : tree.get? place = some node)
    (stands : StandsFor node parent ((tree.path parent).length + 1) name property true none)
    (inside : Depicts schema tree place depth property.valueShape members start stop
      node.children) :
    tree.request? place =
      some (relationRequest (tree.path parent) above.shape name property members) := by
  have filterEq : node.includeFilter = Predicate.conjunction (ownConditions members) := by
    rw [(settled place).includeFilter_eq found stands.isLeaf_eq, inside.leafPredicates_eq]
  have pathEq : tree.path place = tree.path parent ++ [name] := by
    rw [Tree.path_of_parent isArena found stands.parent_eq, stands.fieldName_eq]
    rfl
  have kindEq : (if node.depth = 1 then RequestKind.fresh else .chained) =
      if tree.path parent = [] then .fresh else .chained := by
    simp only [stands.depth_eq, Nat.add_eq_right, List.length_eq_zero_iff]
  rw [Tree.request?, found, Option.bind_eq_bind, Option.bind_some, stands.parent_eq,
    Option.bind_eq_bind, Option.bind_some, foundAbove, Option.bind_some, kindEq, stands.field_eq,
    stands.shape_eq, stands.isCollection_eq, pathEq, filterEq]
  rfl

/-- The relations among the nodes of members request what the members load. -/
theorem Depicts.requests_eq
    (depicts : Depicts schema tree parent depth shape members start stop ids)
    (isArena : tree.IsArena) (settled : ∀ id, tree.IsSettled id)
    (foundAbove : tree.get? parent = some above) (shapeEq : above.shape = shape)
    (depthEq : (tree.path parent).length = depth) {steps : Nat} (enough : stop ≤ start + steps) :
    (tree.relationsAmong steps ids).filterMap tree.request? =
      loads schema (tree.path parent) shape members := by
  induction depicts generalizing above steps with
  | nothing =>
      rw [loads]
      rfl
  | @relation parent place middle stop depth shape name members rest property node ids declared
      isNavigable found stands inside others insideIH othersIH =>
      subst shapeEq depthEq
      have pathEq : tree.path place = tree.path parent ++ [name] := by
        rw [Tree.path_of_parent isArena found stands.parent_eq, stands.fieldName_eq]
        rfl
      have placeLt : place < middle := inside.start_le_stop
      have middleLe : middle ≤ stop := others.start_le_stop
      -- There is a node at the place, so there is a step left to go below it.
      cases steps with
      | zero => exact absurd (Nat.lt_of_lt_of_le placeLt middleLe) (Nat.not_lt_of_le enough)
      | succ steps =>
          have insideEnough : middle ≤ place + 1 + steps := by
            rw [Nat.add_assoc, Nat.add_comm 1]
            exact Nat.le_trans middleLe enough
          have othersEnough : stop ≤ middle + (steps + 1) :=
            Nat.le_trans enough (Nat.add_le_add_right (Nat.le_of_lt placeLt) _)
          have depthEq : (tree.path place).length = (tree.path parent).length + 1 := by
            rw [pathEq, List.length_append, List.length_singleton]
          have insideEq := insideIH found stands.shape_eq depthEq insideEnough
          have othersEq := othersIH foundAbove rfl rfl othersEnough
          rw [Tree.relationsAmong_cons found, if_pos stands.isRelation_eq,
            Tree.relationsBelow_succ found, List.filterMap_append, othersEq,
            List.filterMap_cons_some
              (request?_of_stands isArena settled foundAbove found stands inside),
            insideEq, pathEq, loads_relation declared isNavigable, List.cons_append]
  | skipped declared notNavigable others othersIH =>
      rw [loads_skipped declared notNavigable]
      exact othersIH foundAbove shapeEq depthEq enough
  | scalar declared scalar asks found stands childless others othersIH =>
      rw [loads_scalar scalar, Tree.relationsAmong_cons found,
        if_neg (Bool.eq_false_iff.mp stands.isRelation_eq), List.nil_append]
      exact othersIH foundAbove shapeEq depthEq
        (Nat.le_trans enough (Nat.add_le_add_right (Nat.le_succ _) _))

/-- A plan requests exactly what the members of the query load. -/
theorem requests_of_build {document : Document} {plan : QueryPlan}
    (built : document.build shape schema = .ok plan) :
    plan.requests = loads schema [] shape document.query := by
  obtain ⟨top, isTreeOf⟩ := exists_isTreeOf_of_build built
  have pathEq : plan.tree.path Tree.root = [] := by
    rw [Tree.path_of_orphan isTreeOf.found isTreeOf.parent_eq, isTreeOf.fieldName_eq]
    rfl
  obtain ⟨steps, sizeEq⟩ :=
    Nat.exists_eq_add_one.mpr (Nat.zero_lt_of_lt (Tree.lt_size_of_get? isTreeOf.found))
  have requestsEq := isTreeOf.depicts.requests_eq (isArena_of_build built)
    (isSettled_of_build built) isTreeOf.found isTreeOf.shape_eq (by rw [pathEq]; rfl)
    (Nat.le_of_eq (sizeEq.trans (Nat.add_comm steps 1)))
  rw [QueryPlan.requests, Tree.requests, Tree.relations, sizeEq,
    Tree.relationsBelow_succ isTreeOf.found, requestsEq, pathEq]

end Document

end QueryPlanner
