import QueryPlanner.Document.Build
import QueryPlanner.Proofs.Outcomes
import QueryPlanner.Proofs.Plan.Arena

/-!
# How a query grows its tree

The members of an object are added under a node one after another.  All nodes that are added come
after those that are there, and of these only the node itself changes, by adopting one node for
each member that has one.
-/

namespace QueryPlanner.Document

open QueryPlanner.Json QueryPlanner.Plan QueryPlanner.Schema

def isScalar : Value → Bool
  | .object _ | .array _ => false
  | _ => true

/-- What adding members under a node of a shape does to a tree, and the nodes that it adds right
under the node. -/
inductive Adds (schema : Provider) :
    NodeId → String → List (String × Value) → Tree → List NodeId → Tree → Prop where
  | nothing {parent : NodeId} {shape : String} {tree : Tree} :
      Adds schema parent shape [] tree [] tree
  | relation {parent : NodeId} {shape name : String} {members rest : List (String × Value)}
      {property : Property} {tree middle after : Tree} {below ids : List NodeId}
      (declared : schema.property? shape name = some property)
      (isNavigable : property.isNavigable = true)
      (inside : Adds schema tree.size property.valueShape members
        (tree.addRelation parent name property.valueShape property.isCollection) below middle)
      (others : Adds schema parent shape rest middle ids after) :
      Adds schema parent shape ((name, .object members) :: rest) tree (tree.size :: ids) after
  | skipped {parent : NodeId} {shape name : String} {members rest : List (String × Value)}
      {property : Property} {tree after : Tree} {ids : List NodeId}
      (declared : schema.property? shape name = some property)
      (notNavigable : property.isNavigable = false)
      (others : Adds schema parent shape rest tree ids after) :
      Adds schema parent shape ((name, .object members) :: rest) tree ids after
  | scalar {parent : NodeId} {shape name : String} {value : Value}
      {rest : List (String × Value)} {property : Property} {predicate : Option Predicate}
      {tree after : Tree} {ids : List NodeId}
      (declared : schema.property? shape name = some property)
      (scalar : isScalar value = true)
      (compiled : condition? name value = .ok predicate)
      (others : Adds schema parent shape rest
        (tree.addLeaf parent name property.valueShape property.isCollection predicate) ids after) :
      Adds schema parent shape ((name, value) :: rest) tree (tree.size :: ids) after

variable {schema : Provider} {parent id : NodeId} {shape : String}
  {members : List (String × Value)} {tree after : Tree} {ids : List NodeId}

theorem isScalar_of_ne {value : Value} (notObject : ∀ members, value ≠ .object members)
    (notArray : ∀ items, value ≠ .array items) : isScalar value = true := by
  cases value with
  | object members => exact absurd rfl (notObject members)
  | array items => exact absurd rfl (notArray items)
  | _ => rfl

theorem exists_adds_of_addMembers (added : addMembers schema parent shape members tree = .ok after) :
    ∃ ids, Adds schema parent shape members tree ids after := by
  induction parent, shape, members, tree using addMembers.induct schema generalizing after with
  | case1 parent shape tree =>
      rw [addMembers] at added
      cases added
      exact ⟨[], .nothing⟩
  | case2 parent shape name value rest tree undeclared =>
      rw [addMembers, undeclared] at added
      cases added
  | case3 parent shape name rest tree property declared members isNavigable restIH insideIH =>
      rw [addMembers, declared] at added
      simp only [isNavigable, if_true] at added
      obtain ⟨middle, addedInside, addedRest⟩ := exists_of_bind_ok added
      obtain ⟨below, inside⟩ := insideIH addedInside
      obtain ⟨ids, others⟩ := restIH middle addedRest
      exact ⟨tree.size :: ids, .relation declared isNavigable inside others⟩
  | case4 parent shape name rest tree property declared members notNavigable restIH =>
      rw [addMembers, declared] at added
      simp only [notNavigable] at added
      obtain ⟨ids, others⟩ := restIH tree added
      exact ⟨ids, .skipped declared (Bool.eq_false_iff.mpr notNavigable) others⟩
  | case5 parent shape name rest tree property declared items restIH =>
      rw [addMembers, declared] at added
      cases added
  | case6 parent shape name rest tree property declared value notObject notArray restIH =>
      rw [addMembers, declared] at added
      simp only at added
      obtain ⟨predicate, compiled, addedRest⟩ := exists_of_bind_ok added
      obtain ⟨ids, others⟩ := restIH _ addedRest
      exact ⟨tree.size :: ids, .scalar declared (isScalar_of_ne notObject notArray) compiled others⟩

theorem Adds.addMembers_eq (adds : Adds schema parent shape members tree ids after) :
    addMembers schema parent shape members tree = .ok after := by
  induction adds with
  | nothing => rw [addMembers]
  | relation declared isNavigable inside others insideIH othersIH =>
      rw [addMembers, declared]
      simp only [isNavigable, if_true]
      rw [insideIH]
      exact othersIH
  | skipped declared notNavigable others othersIH =>
      rw [addMembers, declared]
      simp only [notNavigable]
      exact othersIH
  | @scalar parent shape name value rest property predicate tree after ids declared scalar
      compiled others othersIH =>
      rw [addMembers, declared]
      cases value with
      | object members => cases scalar
      | array items => cases scalar
      | _ =>
          simp only
          rw [compiled]
          exact othersIH

theorem Adds.size_le (adds : Adds schema parent shape members tree ids after) :
    tree.size ≤ after.size := by
  induction adds with
  | nothing => exact Nat.le_refl _
  | relation declared isNavigable inside others insideIH othersIH =>
      apply Nat.le_trans _ othersIH
      apply Nat.le_trans _ insideIH
      exact Nat.le_of_lt Tree.size_lt_size_add
  | skipped declared notNavigable others othersIH => exact othersIH
  | scalar declared scalar compiled others othersIH =>
      apply Nat.le_trans _ othersIH
      exact Nat.le_of_lt Tree.size_lt_size_add

theorem Adds.lt_size_of_lt (adds : Adds schema parent shape members tree ids after)
    (within : id < tree.size) : id < after.size :=
  Nat.lt_of_lt_of_le within adds.size_le

/-- Only the node under which the members are added changes. -/
theorem Adds.get?_of_ne (adds : Adds schema parent shape members tree ids after)
    (within : id < tree.size) (other : id ≠ parent) : after.get? id = tree.get? id := by
  induction adds with
  | nothing => rfl
  | relation declared isNavigable inside others insideIH othersIH =>
      -- What goes inside a relation changes only its new node, which comes after all of these.
      rw [othersIH (inside.lt_size_of_lt (Tree.lt_size_add_of_lt within)) other,
        insideIH (Tree.lt_size_add_of_lt within) (Nat.ne_of_lt within)]
      exact Tree.get?_add_of_ne within other
  | skipped declared notNavigable others othersIH => exact othersIH within other
  | scalar declared scalar compiled others othersIH =>
      rw [othersIH (Tree.lt_size_add_of_lt within) other]
      exact Tree.get?_add_of_ne within other

/-- The node under which the members are added adopts what is added right under it. -/
theorem Adds.get?_parent (adds : Adds schema parent shape members tree ids after)
    (within : parent < tree.size) :
    after.get? parent = (tree.get? parent).map fun node => node.adopt ids := by
  induction adds with
  | nothing =>
      rw [funext Node.adopt_nil]
      exact Option.map_id'.symm
  | relation declared isNavigable inside others insideIH othersIH =>
      rw [othersIH (inside.lt_size_of_lt (Tree.lt_size_add_of_lt within)),
        inside.get?_of_ne (Tree.lt_size_add_of_lt within) (Nat.ne_of_lt within)]
      exact Tree.map_adopt_get?_add within _
  | skipped declared notNavigable others othersIH => exact othersIH within
  | scalar declared scalar compiled others othersIH =>
      rw [othersIH (Tree.lt_size_add_of_lt within)]
      exact Tree.map_adopt_get?_add within _

theorem Adds.isArena (adds : Adds schema parent shape members tree ids after)
    (isArena : tree.IsArena) (within : parent < tree.size) : after.IsArena := by
  induction adds with
  | nothing => exact isArena
  | relation declared isNavigable inside others insideIH othersIH =>
      apply othersIH
      · exact insideIH (isArena.add within) Tree.size_lt_size_add
      · exact inside.lt_size_of_lt (Tree.lt_size_add_of_lt within)
  | skipped declared notNavigable others othersIH => exact othersIH isArena within
  | scalar declared scalar compiled others othersIH =>
      exact othersIH (isArena.add within) (Tree.lt_size_add_of_lt within)

end QueryPlanner.Document
