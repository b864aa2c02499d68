import QueryPlanner.Proofs.Plan.Growth
import QueryPlanner.Proofs.Plan.Settled

/-!
# Trees and the queries they stand for

The nodes of the tree that is built for a query are numbered in the order in which the members
are come to, depth first.  Each stands for one member, and the children of a node are the nodes of
the members inside it, in their order.
-/

namespace QueryPlanner.Document

open QueryPlanner.Json QueryPlanner.Number QueryPlanner.Plan QueryPlanner.Schema

/-- The text of the condition that a value stands for: a string as it is, a number or a boolean as
JSON writes it. -/
inductive HasText : Value → String → Prop where
  | string {text : String} : HasText (.string text) text
  | unsigned {n : UInt64} : HasText (.number (.unsigned n)) (toString n.toNat)
  | negative {n : Int64} : HasText (.number (.negative n)) (toString n.toInt)
  | float {x : Binary64} : HasText (.number (.float x)) (String.ofList (floatStyle.write x))
  | yes : HasText (.bool true) "true"
  | no : HasText (.bool false) "false"

/-- What a scalar asks of the property with its name: the condition of its text, or nothing. -/
inductive Asks (name : String) : Value → Option Predicate → Prop where
  | nothing : Asks name .null none
  | condition {value : Value} {text : String} {condition : Option Predicate}
      (hasText : HasText value text)
      (compiles : Condition.compileCondition (.ofName name) text = .ok condition) :
      Asks name value condition

/-- A node stands for a member under a parent: a relation, or a scalar with its condition. -/
structure StandsFor (node : Node) (parent : NodeId) (depth : Nat) (name : String)
    (property : Property) (isRelation : Bool) (condition : Option Predicate) : Prop where
  parent_eq : node.parent = some parent
  depth_eq : node.depth = depth
  fieldName_eq : node.fieldName = some name
  shape_eq : node.shape = property.valueShape
  isCollection_eq : node.isCollection = property.isCollection
  isRelation_eq : node.isRelation = isRelation
  isLeaf_eq : node.isLeaf = !isRelation
  leafPredicate_eq : node.leafPredicate = condition

/-- The nodes of a tree from a place up to another stand for the members of an object under a
parent at a depth, in the order of the members with those inside a relation right behind it.  The
list has the places of the nodes right under the parent.  An object on a property that is no
relation has no node. -/
inductive Depicts (schema : Provider) (tree : Tree) :
    NodeId → Nat → String → List (String × Value) → NodeId → NodeId → List NodeId → Prop where
  | nothing {parent place : NodeId} {depth : Nat} {shape : String} :
      Depicts schema tree parent depth shape [] place place []
  | relation {parent place middle stop : NodeId} {depth : Nat} {shape name : String}
      {members rest : List (String × Value)} {property : Property} {node : Node}
      {ids : List NodeId}
      (declared : schema.property? shape name = some property)
      (isNavigable : property.isNavigable = true)
      (found : tree.get? place = some node)
      (stands : StandsFor node parent (depth + 1) name property true none)
      (inside : Depicts schema tree place (depth + 1) property.valueShape members (place + 1) middle
        node.children)
      (others : Depicts schema tree parent depth shape rest middle stop ids) :
      Depicts schema tree parent depth shape ((name, .object members) :: rest) place stop
        (place :: ids)
  | skipped {parent place stop : NodeId} {depth : Nat} {shape name : String}
      {members rest : List (String × Value)} {property : Property} {ids : List NodeId}
      (declared : schema.property? shape name = some property)
      (notNavigable : property.isNavigable = false)
      (others : Depicts schema tree parent depth shape rest place stop ids) :
      Depicts schema tree parent depth shape ((name, .object members) :: rest) place stop ids
  | scalar {parent place stop : NodeId} {depth : Nat} {shape name : String} {value : Value}
      {rest : List (String × Value)} {property : Property} {condition : Option Predicate}
      {node : Node} {ids : List NodeId}
      (declared : schema.property? shape name = some property)
      (scalar : isScalar value = true)
      (asks : Asks name value condition)
      (found : tree.get? place = some node)
      (stands : StandsFor node parent (depth + 1) name property false condition)
      (childless : node.children = [])
      (others : Depicts schema tree parent depth shape rest (place + 1) stop ids) :
      Depicts schema tree parent depth shape ((name, value) :: rest) place stop (place :: ids)

/-- A tree stands for a query: its first node for the outermost rows, all others for the members
of the query. -/
structure IsTreeOf (schema : Provider) (shape : String) (query : List (String × Value))
    (tree : Tree) (top : Node) : Prop where
  found : tree.get? Tree.root = some top
  parent_eq : top.parent = none
  depth_eq : top.depth = 0
  fieldName_eq : top.fieldName = none
  shape_eq : top.shape = shape
  isCollection_eq : top.isCollection = false
  isLeaf_eq : top.isLeaf = false
  depicts : Depicts schema tree Tree.root 0 shape query 1 tree.size top.children

variable {schema : Provider} {parent : NodeId} {depth : Nat} {shape : String}
  {members : List (String × Value)} {tree after : Tree} {ids : List NodeId}

section Texts

variable {name text : String} {value : Value} {condition : Option Predicate}

theorem ofList_writeInt (n : Int) : String.ofList (writeInt n) = toString n := by
  cases n with
  | ofNat m => rfl
  | negSucc m =>
      rw [writeInt, if_pos (Int.negSucc_lt_zero m), String.ofList_append]
      rfl

theorem hasText_iff : HasText value text ↔ conditionText? value = some text := by
  constructor
  · intro hasText
    cases hasText with
    | @negative n => exact congrArg some (ofList_writeInt n.toInt)
    | _ => rfl
  · intro textEq
    match value with
    | .string _ =>
        cases textEq
        exact .string
    | .number (.unsigned _) =>
        cases textEq
        exact .unsigned
    | .number (.negative n) =>
        cases textEq
        exact ofList_writeInt n.toInt ▸ .negative
    | .number (.float _) =>
        cases textEq
        exact .float
    | .bool true =>
        cases textEq
        exact .yes
    | .bool false =>
        cases textEq
        exact .no

theorem asks_iff (scalar : isScalar value = true) :
    Asks name value condition ↔ condition? name value = .ok condition := by
  constructor
  · intro asks
    cases asks with
    | nothing => rfl
    | condition hasText compiles =>
        rw [condition?, hasText_iff.mp hasText]
        dsimp only
        rw [compiles]
        rfl
  · intro compiled
    unfold condition? at compiled
    split at compiled
    next noText =>
      cases compiled
      cases value with
      | null => exact .nothing
      | array items => cases scalar
      | object members => cases scalar
      | _ => cases noText
    next text hasText =>
      exact .condition (hasText_iff.mpr hasText) (exists_of_mapError_ok compiled)

end Texts

theorem StandsFor.field_eq {node : Node} {name : String} {property : Property} {isRelation : Bool}
    {condition : Option Predicate}
    (stands : StandsFor node parent depth name property isRelation condition) :
    node.field = name := by
  rw [Node.field, stands.fieldName_eq]
  rfl

theorem depthAt_of_get? {id : NodeId} {node : Node} (found : tree.get? id = some node) :
    tree.depthAt id = node.depth := by
  rw [Tree.depthAt, found]
  rfl

theorem depthAt_add_size {new : Tree.NewNode} :
    (tree.add parent new).depthAt tree.size = tree.depthAt parent + 1 :=
  depthAt_of_get? Tree.get?_add_size

theorem depthAt_add_of_lt {new : Tree.NewNode} {id : NodeId} (within : id < tree.size) :
    (tree.add parent new).depthAt id = tree.depthAt id := by
  rw [Tree.depthAt, Tree.get?_add_of_lt within, Option.map_map]
  rfl

theorem Adds.depthAt_of_ne (adds : Adds schema parent shape members tree ids after) {id : NodeId}
    (within : id < tree.size) (other : id ≠ parent) : after.depthAt id = tree.depthAt id := by
  rw [Tree.depthAt, adds.get?_of_ne within other]
  rfl

theorem standsFor_of_bare {new : Tree.NewNode} {property : Property} {node : Node}
    (bareEq : node.bare = ((tree.newNode parent new).adopt ids).bare)
    (depthEq : tree.depthAt parent = depth) (shapeEq : new.shape = property.valueShape)
    (isCollectionEq : new.isCollection = property.isCollection) :
    StandsFor node parent (depth + 1) new.field property new.shouldInclude new.leafPredicate where
  parent_eq := congrArg Node.parent bareEq
  depth_eq := (congrArg Node.depth bareEq).trans (congrArg (· + 1) depthEq)
  fieldName_eq := congrArg Node.fieldName bareEq
  shape_eq := (congrArg Node.shape bareEq).trans shapeEq
  isCollection_eq := (congrArg Node.isCollection bareEq).trans isCollectionEq
  isRelation_eq := (congrArg Node.isRelation bareEq).trans (Bool.and_true _)
  isLeaf_eq := congrArg Node.isLeaf bareEq
  leafPredicate_eq := congrArg Node.leafPredicate bareEq

/-- A tree that agrees with the tree that members were added to on the added nodes, conditions and
filters aside, has one node for each of the members. -/
theorem Adds.depicts (adds : Adds schema parent shape members tree ids after)
    (within : parent < tree.size) (depthEq : tree.depthAt parent = depth) {final : Tree}
    (same : ∀ id, tree.size ≤ id → id < after.size →
      (final.get? id).map Node.bare = (after.get? id).map Node.bare) :
    Depicts schema final parent depth shape members tree.size after.size ids := by
  induction adds generalizing depth with
  | nothing => exact .nothing
  | @relation parent shape name members rest property tree middle after below ids declared
      isNavigable inside others insideIH othersIH =>
      have sizeLt : tree.size < (tree.addRelation parent name property.valueShape
        property.isCollection).size := Tree.size_lt_size_add
      have grown : tree.size < middle.size := inside.lt_size_of_lt sizeLt
      -- The node of the relation has the nodes inside it as children and does not change later.
      have foundAfter : after.get? tree.size = some ((tree.newNode parent
          ⟨name, property.valueShape, property.isCollection, true, none⟩).adopt below) := by
        rw [others.get?_of_ne grown (Nat.ne_of_gt within), inside.get?_parent sizeLt]
        exact congrArg (Option.map fun node => node.adopt below) Tree.get?_add_size
      have sameNode := same tree.size (Nat.le_refl _) (others.lt_size_of_lt grown)
      rw [foundAfter] at sameNode
      obtain ⟨node, found, bareEq⟩ := Option.map_eq_some_iff.mp sameNode
      have childrenEq : node.children = below := congrArg Node.children bareEq
      have insideDepicts := insideIH sizeLt (depthAt_add_size.trans (congrArg (· + 1) depthEq))
        fun id notBefore isInside => by
          rw [same id (Nat.le_trans (Nat.le_of_lt sizeLt) notBefore)
            (Nat.lt_of_lt_of_le isInside others.size_le), others.get?_of_ne isInside]
          exact Nat.ne_of_gt (Nat.lt_of_lt_of_le (Nat.lt_trans within sizeLt) notBefore)
      have othersDepict := othersIH (inside.lt_size_of_lt (Nat.lt_trans within sizeLt))
        ((inside.depthAt_of_ne (Nat.lt_trans within sizeLt) (Nat.ne_of_lt within)).trans
          ((depthAt_add_of_lt within).trans depthEq))
        fun id notBefore isOther => same id (Nat.le_trans (Nat.le_of_lt grown) notBefore) isOther
      rw [← childrenEq, Tree.addRelation, Tree.size_add] at insideDepicts
      exact .relation declared isNavigable found (standsFor_of_bare bareEq depthEq rfl rfl)
        insideDepicts othersDepict
  | skipped declared notNavigable others othersIH =>
      exact .skipped declared notNavigable (othersIH within depthEq same)
  | @scalar parent shape name value rest property predicate tree after ids declared scalar
      compiled others othersIH =>
      have sizeLt : tree.size < (tree.addLeaf parent name property.valueShape
        property.isCollection predicate).size := Tree.size_lt_size_add
      have foundAfter : after.get? tree.size = some (tree.newNode parent
          ⟨name, property.valueShape, property.isCollection, false, predicate⟩) := by
        rw [others.get?_of_ne sizeLt (Nat.ne_of_gt within)]
        exact Tree.get?_add_size
      have sameNode := same tree.size (Nat.le_refl _) (others.lt_size_of_lt sizeLt)
      rw [foundAfter, ← (tree.newNode parent _).adopt_nil] at sameNode
      obtain ⟨node, found, bareEq⟩ := Option.map_eq_some_iff.mp sameNode
      have othersDepict := othersIH (Nat.lt_trans within sizeLt)
        ((depthAt_add_of_lt within).trans depthEq)
        fun id notBefore isOther => same id (Nat.le_trans (Nat.le_of_lt sizeLt) notBefore) isOther
      rw [Tree.addLeaf, Tree.size_add] at othersDepict
      exact .scalar declared scalar ((asks_iff scalar).mpr compiled) found
        (standsFor_of_bare bareEq depthEq rfl rfl) (congrArg Node.children bareEq) othersDepict

section Build

variable {document : Document} {plan : QueryPlan}

theorem exists_adds_of_build (built : document.build shape schema = .ok plan) :
    ∃ ids tree, Adds schema Tree.root shape document.query (.ofRoot shape) ids tree ∧
      plan = ⟨tree.computePredicates, document.page, document.pageSize⟩ := by
  unfold build at built
  split at built
  next => cases built
  next =>
    obtain ⟨tree, added, returned⟩ := exists_of_bind_ok built
    obtain ⟨ids, adds⟩ := exists_adds_of_addMembers added
    cases returned
    exact ⟨ids, tree, adds, rfl⟩

/-- The tree of a plan stands for the query that the plan was built for. -/
theorem exists_isTreeOf_of_build (built : document.build shape schema = .ok plan) :
    ∃ top, IsTreeOf schema shape document.query plan.tree top := by
  obtain ⟨ids, tree, adds, rfl⟩ := exists_adds_of_build built
  have sameRoot := tree.map_bare_get?_computePredicates Tree.root
  rw [adds.get?_parent Nat.one_pos] at sameRoot
  obtain ⟨top, found, bareEq⟩ := Option.map_eq_some_iff.mp sameRoot
  have childrenEq : top.children = ids := congrArg Node.children bareEq
  have depicts := adds.depicts Nat.one_pos rfl fun id _ _ => tree.map_bare_get?_computePredicates id
  have sizeEq : tree.computePredicates.size = tree.size := by
    have lengths := congrArg Tree.size tree.bare_computePredicates
    simpa only [Tree.bare, Tree.size, List.length_map] using lengths
  rw [← childrenEq, ← sizeEq] at depicts
  exact ⟨top, {
    found
    parent_eq := congrArg Node.parent bareEq
    depth_eq := congrArg Node.depth bareEq
    fieldName_eq := congrArg Node.fieldName bareEq
    shape_eq := congrArg Node.shape bareEq
    isCollection_eq := congrArg Node.isCollection bareEq
    isLeaf_eq := congrArg Node.isLeaf bareEq
    depicts }⟩

theorem isArena_of_build (built : document.build shape schema = .ok plan) : plan.tree.IsArena := by
  obtain ⟨ids, tree, adds, rfl⟩ := exists_adds_of_build built
  exact Tree.isArena_computePredicates (adds.isArena (Tree.isArena_ofRoot shape) Nat.one_pos)

theorem isSettled_of_build (built : document.build shape schema = .ok plan) (id : NodeId) :
    plan.tree.IsSettled id := by
  obtain ⟨ids, tree, adds, rfl⟩ := exists_adds_of_build built
  exact Tree.isSettled_computePredicates
    (adds.isArena (Tree.isArena_ofRoot shape) Nat.one_pos) id

end Build

end QueryPlanner.Document
