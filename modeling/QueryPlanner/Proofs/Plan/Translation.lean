import QueryPlanner.Proofs.Plan.Outline

/-!
# From members to predicates

What a query asks of its outermost rows can be read off its members directly: every member asks
for at most one predicate, and the rows have to meet all of them.  The tree that is built for a
query comes to the same.
-/

namespace QueryPlanner.Document

open QueryPlanner.Json QueryPlanner.Plan QueryPlanner.Schema

/-- The condition that a scalar stands for, if there is one and it can be read. -/
def ownCondition (name : String) (value : Value) : Option Predicate :=
  (condition? name value).toOption.join

/-- What the members of an object ask of a row of a shape, in the order of the members. -/
def demands (schema : Provider) (shape : String) : List (String × Value) → List Predicate
  | [] => []
  | (name, .object members) :: rest =>
      (match schema.property? shape name with
      | some ⟨valueShape, isCollection, true⟩ =>
          ((Predicate.conjunction (demands schema valueShape members)).map
            (acrossRelation name isCollection)).toList
      | _ => []) ++ demands schema shape rest
  | (name, value) :: rest => (ownCondition name value).toList ++ demands schema shape rest

variable {schema : Provider} {parent start stop : NodeId} {depth : Nat} {shape name : String}
  {value : Value} {members rest : List (String × Value)} {property : Property} {tree : Tree}
  {ids : List NodeId}

theorem demands_relation (declared : schema.property? shape name = some property)
    (isNavigable : property.isNavigable = true) :
    demands schema shape ((name, .object members) :: rest) =
      ((Predicate.conjunction (demands schema property.valueShape members)).map
        (acrossRelation name property.isCollection)).toList ++ demands schema shape rest := by
  obtain ⟨valueShape, isCollection, navigable⟩ := property
  cases isNavigable
  rw [demands, declared]

theorem demands_skipped (declared : schema.property? shape name = some property)
    (notNavigable : property.isNavigable = false) :
    demands schema shape ((name, .object members) :: rest) = demands schema shape rest := by
  obtain ⟨valueShape, isCollection, navigable⟩ := property
  cases notNavigable
  rw [demands, declared]
  rfl

theorem demands_scalar (scalar : isScalar value = true) :
    demands schema shape ((name, value) :: rest) =
      (ownCondition name value).toList ++ demands schema shape rest := by
  rw [demands]
  rintro members rfl
  cases scalar

theorem ownCondition_eq {predicate : Option Predicate}
    (compiled : condition? name value = .ok predicate) : ownCondition name value = predicate := by
  rw [ownCondition, compiled]
  rfl

/-- In a tree whose nodes are settled, the nodes of members have what these ask for. -/
theorem Depicts.contributions_eq
    (depicts : Depicts schema tree parent depth shape members start stop ids)
    (settled : ∀ id, tree.IsSettled id) :
    (tree.nodesAt ids).filterMap Node.contribution = demands schema shape members := by
  induction depicts with
  | nothing =>
      rw [demands]
      rfl
  | relation declared isNavigable found stands inside others insideIH othersIH =>
      rw [Tree.filterMap_nodesAt_cons found, othersIH, demands_relation declared isNavigable,
        Node.contribution_of_not_isLeaf stands.isLeaf_eq,
        (settled _).wherePredicate_eq found stands.isLeaf_eq, insideIH, stands.field_eq,
        stands.isCollection_eq]
  | skipped declared notNavigable others othersIH =>
      rw [demands_skipped declared notNavigable]
      exact othersIH
  | scalar declared scalar asks found stands childless others othersIH =>
      rw [Tree.filterMap_nodesAt_cons found, othersIH, demands_scalar scalar,
        Node.contribution_of_isLeaf stands.isLeaf_eq, stands.leafPredicate_eq,
        ownCondition_eq ((asks_iff scalar).mp asks)]

section Build

variable {document : Document} {plan : QueryPlan}

/-- A plan asks of its outermost rows exactly what the members of the query ask for. -/
theorem wherePredicate_of_build (built : document.build shape schema = .ok plan) :
    plan.wherePredicate = Predicate.conjunction (demands schema shape document.query) := by
  obtain ⟨top, isTreeOf⟩ := exists_isTreeOf_of_build built
  have settled := isSettled_of_build built
  rw [QueryPlan.wherePredicate, isTreeOf.found, Option.bind_some,
    (settled Tree.root).wherePredicate_eq isTreeOf.found isTreeOf.isLeaf_eq,
    isTreeOf.depicts.contributions_eq settled]

end Build

/-- Orders with a total, the customer who made them and their lines. -/
def orders : Provider where
  property?
    | "order", "total" => some (.scalar "int")
    | "order", "customer" => some (.relation "person" false)
    | "order", "lines" => some (.relation "line" true)
    | "person", "age" => some (.scalar "int")
    | "line", "quantity" => some (.scalar "int")
    | _, _ => none
  shape? _ := none

/-- The orders of a total with a customer of an age and a line of a quantity. -/
def ordersQuery : List (String × Value) :=
  [("total", .number (.unsigned 5)),
    ("customer", .object [("age", .number (.unsigned 30))]),
    ("lines", .object [("quantity", .number (.unsigned 2))])]

def ordersPlan : QueryPlan :=
  let equals (name : String) (n : Int64) : Predicate := .compare (.ofName name) .equal (.int n)
  ⟨(((((Tree.ofRoot "order").addLeaf 0 "total" "int" false (equals "total" 5)).addRelation
    0 "customer" "person" false).addLeaf 2 "age" "int" false (equals "age" 30)).addRelation
    0 "lines" "line" true).addLeaf 4 "quantity" "int" false (equals "quantity" 2)
    |>.computePredicates, 0, 0⟩

theorem build_orders :
    (⟨none, ordersQuery, 0, 0⟩ : Document).build "order" orders = .ok ordersPlan := by
  have adds : Adds orders Tree.root "order" ordersQuery (.ofRoot "order") [1, 2, 4] _ :=
    .scalar rfl rfl rfl
      (.relation rfl rfl (.scalar rfl rfl rfl .nothing)
        (.relation rfl rfl (.scalar rfl rfl rfl .nothing) .nothing))
  rw [build, if_neg (by decide), adds.addMembers_eq]
  rfl

theorem planValue_orders :
    planValue (.object [("query", .object ordersQuery)]) "order" orders = .ok ordersPlan :=
  build_orders

example : ordersPlan.wherePredicate.map Predicate.display =
    some "total == 5 AND customer.age == 30 AND EXISTS(lines: quantity == 2)" := by decide +kernel

end QueryPlanner.Document
