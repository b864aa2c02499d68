import QueryPlanner.Plan.Tree

/-!
# Trees as arenas

Every node stands after its parent, and the children of a node name it as their parent.  A node
that is added leaves all other nodes as they are, except that its parent adopts it.
-/

namespace QueryPlanner.Plan

namespace Node

def adopt (node : Node) (ids : List NodeId) : Node :=
  { node with children := node.children ++ ids }

theorem adopt_nil (node : Node) : node.adopt [] = node := by
  simp [adopt]

theorem adopt_adopt (node : Node) (ids others : List NodeId) :
    (node.adopt ids).adopt others = node.adopt (ids ++ others) := by
  simp [adopt]

/-- A node without the condition and the filter that follow from the nodes below it. -/
def bare (node : Node) : Node :=
  { node with wherePredicate := none, includeFilter := none }

end Node

namespace Tree

def newNode (tree : Tree) (parent : NodeId) (new : NewNode) : Node where
  parent := some parent
  root := root
  depth := tree.depthAt parent + 1
  shape := new.shape
  fieldName := some new.field
  isCollection := new.isCollection
  shouldInclude := new.shouldInclude
  leafPredicate := new.leafPredicate

def bare (tree : Tree) : Tree :=
  ⟨tree.nodes.map Node.bare⟩

variable {tree : Tree} {parent id : NodeId} {new : NewNode} {node : Node}

theorem lt_size_of_get? (found : tree.get? id = some node) : id < tree.size :=
  (List.getElem?_eq_some_iff.mp found).1

theorem get?_eq_none_of_size_le (outside : tree.size ≤ id) : tree.get? id = none :=
  List.getElem?_eq_none outside

theorem nodes_add :
    (tree.add parent new).nodes =
      tree.nodes.modify parent (fun node => node.adopt [tree.size]) ++
        [tree.newNode parent new] :=
  rfl

theorem size_add : (tree.add parent new).size = tree.size + 1 := by
  simp only [size, nodes_add, List.length_append, List.length_modify, List.length_singleton]

theorem size_lt_size_add : tree.size < (tree.add parent new).size :=
  Nat.lt_of_lt_of_eq (Nat.lt_succ_self _) size_add.symm

theorem lt_size_add_of_lt (within : id < tree.size) : id < (tree.add parent new).size :=
  Nat.lt_trans within size_lt_size_add

theorem get?_add_size : (tree.add parent new).get? tree.size = some (tree.newNode parent new) := by
  rw [get?, nodes_add, List.getElem?_append_right (by simp [size])]
  simp [size]

theorem get?_add_of_lt (within : id < tree.size) :
    (tree.add parent new).get? id =
      (tree.get? id).map fun node => node.adopt (if parent = id then [tree.size] else []) := by
  rw [get?, nodes_add, List.getElem?_append_left (by rwa [List.length_modify]),
    List.getElem?_modify]
  by_cases isParent : parent = id
  · simp [isParent, get?]
  · simp [isParent, get?, Node.adopt_nil]

theorem get?_add_of_ne (within : id < tree.size) (other : id ≠ parent) :
    (tree.add parent new).get? id = tree.get? id := by
  rw [get?_add_of_lt within, if_neg other.symm, funext Node.adopt_nil]
  exact Option.map_id'

theorem get?_add_parent (within : parent < tree.size) :
    (tree.add parent new).get? parent =
      (tree.get? parent).map fun node => node.adopt [tree.size] := by
  rw [get?_add_of_lt within, if_pos rfl]

theorem map_adopt_get?_add (within : parent < tree.size) (ids : List NodeId) :
    ((tree.add parent new).get? parent).map (fun node => node.adopt ids) =
      (tree.get? parent).map fun node => node.adopt (tree.size :: ids) := by
  rw [get?_add_parent within, Option.map_map]
  congr 1
  funext node
  exact node.adopt_adopt [tree.size] ids

theorem exists_get?_add (found : tree.get? id = some node) (parent : NodeId) (new : NewNode) :
    ∃ ids, (tree.add parent new).get? id = some (node.adopt ids) := by
  rw [get?_add_of_lt (lt_size_of_get? found), found]
  exact ⟨_, rfl⟩

theorem get?_add_cases (found : (tree.add parent new).get? id = some node) :
    (id = tree.size ∧ node = tree.newNode parent new) ∨
      ∃ before, tree.get? id = some before ∧
        node = before.adopt (if parent = id then [tree.size] else []) := by
  have within := lt_size_of_get? found
  rw [size_add] at within
  rcases Nat.lt_succ_iff_lt_or_eq.mp within with old | rfl
  · right
    rw [get?_add_of_lt old] at found
    obtain ⟨before, foundBefore, rfl⟩ := Option.map_eq_some_iff.mp found
    exact ⟨before, foundBefore, rfl⟩
  · left
    rw [get?_add_size] at found
    exact ⟨rfl, (Option.some.inj found).symm⟩

theorem get?_bare : tree.bare.get? id = (tree.get? id).map Node.bare :=
  List.getElem?_map

theorem get?_bare_eq_some : tree.bare.get? id = some node ↔
    ∃ full, tree.get? id = some full ∧ full.bare = node := by
  rw [get?_bare, Option.map_eq_some_iff]

/-- Parents and children agree, and parents come first. -/
structure IsArena (tree : Tree) : Prop where
  parent_lt : ∀ {id parent : NodeId} {node : Node}, tree.get? id = some node →
    node.parent = some parent → parent < id
  parent_of_child : ∀ {id child : NodeId} {node : Node}, tree.get? id = some node →
    child ∈ node.children → ∃ below, tree.get? child = some below ∧ below.parent = some id

theorem IsArena.lt_of_child (isArena : tree.IsArena) (found : tree.get? id = some node)
    {child : NodeId} (isChild : child ∈ node.children) : id < child := by
  obtain ⟨below, foundBelow, parentEq⟩ := isArena.parent_of_child found isChild
  exact isArena.parent_lt foundBelow parentEq

theorem isArena_ofRoot (shape : String) : (Tree.ofRoot shape).IsArena := by
  constructor
  · intro id parent node found parentEq
    cases id with
    | zero =>
        cases found
        cases parentEq
    | succ id => cases found
  · intro id child node found isChild
    cases id with
    | zero =>
        cases found
        cases isChild
    | succ id => cases found

theorem IsArena.add (isArena : tree.IsArena) (within : parent < tree.size) :
    (tree.add parent new).IsArena := by
  constructor
  · intro id above node found parentEq
    rcases get?_add_cases found with ⟨rfl, rfl⟩ | ⟨before, foundBefore, rfl⟩
    · cases parentEq
      exact within
    · exact isArena.parent_lt foundBefore parentEq
  · intro id child node found isChild
    rcases get?_add_cases found with ⟨rfl, rfl⟩ | ⟨before, foundBefore, rfl⟩
    · cases isChild
    · rcases List.mem_append.mp isChild with wasChild | isNew
      · obtain ⟨below, foundBelow, parentEq⟩ := isArena.parent_of_child foundBefore wasChild
        obtain ⟨ids, foundAfter⟩ := exists_get?_add foundBelow parent new
        exact ⟨_, foundAfter, parentEq⟩
      · split at isNew
        next isParent =>
          cases List.mem_singleton.mp isNew
          subst isParent
          exact ⟨_, get?_add_size, rfl⟩
        next => cases isNew

theorem isArena_bare : tree.bare.IsArena ↔ tree.IsArena := by
  constructor
  · intro isArena
    constructor
    · intro id parent node found parentEq
      exact isArena.parent_lt (get?_bare_eq_some.mpr ⟨node, found, rfl⟩) parentEq
    · intro id child node found isChild
      obtain ⟨below, foundBelow, parentEq⟩ :=
        isArena.parent_of_child (get?_bare_eq_some.mpr ⟨node, found, rfl⟩) isChild
      obtain ⟨full, foundFull, rfl⟩ := get?_bare_eq_some.mp foundBelow
      exact ⟨full, foundFull, parentEq⟩
  · intro isArena
    constructor
    · intro id parent node found parentEq
      obtain ⟨full, foundFull, rfl⟩ := get?_bare_eq_some.mp found
      exact isArena.parent_lt foundFull parentEq
    · intro id child node found isChild
      obtain ⟨full, foundFull, rfl⟩ := get?_bare_eq_some.mp found
      obtain ⟨below, foundBelow, parentEq⟩ := isArena.parent_of_child foundFull isChild
      exact ⟨below.bare, get?_bare_eq_some.mpr ⟨below, foundBelow, rfl⟩, parentEq⟩

end Tree

end QueryPlanner.Plan
