import QueryPlanner.Proofs.Plan.Meaning
import QueryPlanner.Proofs.Plan.Requests

/-!
# Filters and the rows that conditions need

The condition on a row of a relation asks for all that the filter of the relation asks for, so a
row that meets the one passes the other.  If a row is kept because a collection has a row of some
kind, such a row is among those that are loaded for the collection.
-/

namespace QueryPlanner

open QueryPlanner.Json QueryPlanner.Plan QueryPlanner.Schema

universe u v

namespace Plan

variable {Row : Type u} {Content : Type v} {data : Interpretation Row Content} {row : Row}
  {tree : Tree} {id child start last : NodeId} {node above : Node} {names : List String}

theorem Node.isLeaf_of_isRelation (isRelation : node.isRelation = true) : node.isLeaf = false := by
  have included : node.shouldInclude = true := (Bool.and_eq_true_iff.mp isRelation).1
  simp [isLeaf, included]

namespace Tree

/-- A way down a tree along relations to one row each, with the names of these. -/
inductive LeadsToOne (tree : Tree) : NodeId → List String → NodeId → Prop where
  | here {id : NodeId} : LeadsToOne tree id [] id
  | further {start child last : NodeId} {node : Node} {names : List String}
      (isChild : (child, node) ∈ tree.children start)
      (isRelation : node.isRelation = true)
      (isSingle : node.isCollection = false)
      (onward : LeadsToOne tree child names last) :
      LeadsToOne tree start (node.field :: names) last

theorem mem_nodesAt_of_mem_children (found : tree.get? id = some above)
    (isChild : (child, node) ∈ tree.children id) : node ∈ tree.nodesAt above.children := by
  rw [← map_snd_children found]
  exact List.mem_map_of_mem isChild

theorem IsSettled.accepts_iff_contributions (settled : tree.IsSettled id)
    (found : tree.get? id = some node) (notLeaf : node.isLeaf = false) :
    data.Accepts row node.wherePredicate ↔
      ∀ below ∈ tree.nodesAt node.children, data.Accepts row below.contribution := by
  rw [settled.wherePredicate_eq found notLeaf, Interpretation.accepts_conjunction,
    List.forall_mem_filterMap]
  simp only [Interpretation.accepts_iff_forall_mem, Option.mem_toList]

/-- A row passes the filter of a node exactly if it meets the conditions of the scalars right
below. -/
theorem IsSettled.accepts_includeFilter_iff (settled : tree.IsSettled id)
    (found : tree.get? id = some node) (notLeaf : node.isLeaf = false) :
    data.Accepts row node.includeFilter ↔
      ∀ below ∈ tree.nodesAt node.children, below.isLeaf = true →
        data.Accepts row below.leafPredicate := by
  rw [settled.includeFilter_eq found notLeaf, Interpretation.accepts_conjunction,
    List.forall_mem_filterMap, List.forall_mem_filter]
  simp only [Interpretation.accepts_iff_forall_mem, Option.mem_toList]

theorem IsSettled.accepts_includeFilter (settled : tree.IsSettled id)
    (found : tree.get? id = some node) (notLeaf : node.isLeaf = false)
    (accepts : data.Accepts row node.wherePredicate) : data.Accepts row node.includeFilter := by
  apply (settled.accepts_includeFilter_iff found notLeaf).mpr
  intro below isBelow isLeaf
  have contributed := (settled.accepts_iff_contributions found notLeaf).mp accepts below isBelow
  rwa [Node.contribution_of_isLeaf isLeaf] at contributed

theorem IsSettled.includeFilter_eq_wherePredicate (settled : tree.IsSettled id)
    (found : tree.get? id = some node) (notLeaf : node.isLeaf = false)
    (allLeaves : ∀ below ∈ tree.nodesAt node.children, below.isLeaf = true) :
    node.includeFilter = node.wherePredicate := by
  rw [settled.includeFilter_eq found notLeaf, settled.wherePredicate_eq found notLeaf,
    List.filter_eq_self.mpr allLeaves]
  congr 1
  apply List.filterMap_congr
  intro below isBelow
  exact (Node.contribution_of_isLeaf (allLeaves below isBelow)).symm

/-- The condition on a row goes on to the row at the end of a way along relations to one row. -/
theorem LeadsToOne.accepts (way : tree.LeadsToOne start names last)
    (settled : ∀ id, tree.IsSettled id) (found : tree.get? start = some above)
    (notLeaf : above.isLeaf = false) (accepts : data.Accepts row above.wherePredicate) :
    ∃ reached, tree.get? last = some reached ∧ reached.isLeaf = false ∧
      data.Accepts (data.follow row names) reached.wherePredicate := by
  induction way generalizing row above with
  | here => exact ⟨above, found, notLeaf, accepts⟩
  | @further start child last node names isChild isRelation isSingle onward inductionHypothesis =>
      have nodeNotLeaf := Node.isLeaf_of_isRelation isRelation
      have contributed := ((settled start).accepts_iff_contributions found notLeaf).mp accepts
        node (mem_nodesAt_of_mem_children found isChild)
      rw [Node.contribution_of_not_isLeaf nodeNotLeaf, isSingle,
        Interpretation.accepts_across_toOne] at contributed
      exact inductionHypothesis (exists_of_mem_children isChild) nodeNotLeaf contributed

/-- If a row meets a condition, a collection of it that has a condition has a row that meets this
one, and the filter lets it through. -/
theorem exists_loaded (settled : ∀ id, tree.IsSettled id) (found : tree.get? id = some above)
    (notLeaf : above.isLeaf = false) (accepts : data.Accepts row above.wherePredicate)
    (isChild : (child, node) ∈ tree.children id) (isRelation : node.isRelation = true)
    (isMany : node.isCollection = true) (hasCondition : node.wherePredicate.isSome = true) :
    ∃ element ∈ data.toMany row node.field,
      data.Accepts element node.wherePredicate ∧ data.Accepts element node.includeFilter := by
  have nodeNotLeaf := Node.isLeaf_of_isRelation isRelation
  have contributed := ((settled id).accepts_iff_contributions found notLeaf).mp accepts
    node (mem_nodesAt_of_mem_children found isChild)
  rw [Node.contribution_of_not_isLeaf nodeNotLeaf, isMany,
    Interpretation.accepts_across_toMany] at contributed
  obtain ⟨element, isElement, elementAccepted⟩ := contributed hasCondition
  have foundChild : tree.get? child = some node := exists_of_mem_children isChild
  exact ⟨element, isElement, elementAccepted,
    (settled child).accepts_includeFilter foundChild nodeNotLeaf elementAccepted⟩

end Tree

end Plan

namespace Document

variable {schema : Provider} {shape : String} {document : Document} {plan : QueryPlan}

/-- A row of a relation that meets its condition passes its filter, and the two are the same if
there are only scalars below the relation.  So if a row meets the condition of a node, each
collection with a condition that relations to one row lead to from there has a row that meets this
condition and is loaded. -/
theorem filters_pass_required_rows (built : document.build shape schema = .ok plan) :
    (∀ id node, plan.tree.get? id = some node → node.isRelation = true →
      ∀ {Row : Type u} {Content : Type v} (data : Interpretation Row Content) (row : Row),
        data.Accepts row node.wherePredicate → data.Accepts row node.includeFilter) ∧
    (∀ start above names last child node, plan.tree.get? start = some above →
      above.shouldInclude = true → plan.tree.LeadsToOne start names last →
      (child, node) ∈ plan.tree.children last → node.isRelation = true →
      node.isCollection = true → node.wherePredicate ≠ none →
      ∀ {Row : Type u} {Content : Type v} (data : Interpretation Row Content) (row : Row),
        data.Accepts row above.wherePredicate →
          ∃ element ∈ data.toMany (data.follow row names) node.field,
            data.Accepts element node.wherePredicate ∧ data.Accepts element node.includeFilter) ∧
    ∀ id node, plan.tree.get? id = some node → node.isRelation = true →
      (∀ child below, (child, below) ∈ plan.tree.children id → below.isLeaf = true) →
        node.includeFilter = node.wherePredicate := by
  have settled := isSettled_of_build built
  refine ⟨?_, ?_, ?_⟩
  · intro id node found isRelation Row Content data row accepts
    exact (settled id).accepts_includeFilter found (Node.isLeaf_of_isRelation isRelation) accepts
  · intro start above names last child node found included way isChild isRelation isMany
      hasCondition Row Content data row accepts
    have notLeaf : above.isLeaf = false := by simp [Node.isLeaf, included]
    obtain ⟨reached, foundReached, reachedNotLeaf, reachedAccepted⟩ :=
      way.accepts settled found notLeaf accepts
    exact Tree.exists_loaded settled foundReached reachedNotLeaf reachedAccepted isChild isRelation
      isMany (Option.isSome_iff_ne_none.mpr hasCondition)
  · intro id node found isRelation allLeaves
    apply (settled id).includeFilter_eq_wherePredicate found (Node.isLeaf_of_isRelation isRelation)
    intro below isBelow
    rw [← Tree.map_snd_children found] at isBelow
    obtain ⟨entry, isEntry, rfl⟩ := List.mem_map.mp isBelow
    exact allLeaves entry.1 entry.2 isEntry

def deliveries : Provider where
  property?
    | "delivery", "order" => some (.relation "order" false)
    | "order", "lines" => some (.relation "line" true)
    | "line", "quantity" => some (.scalar "int")
    | "line", "product" => some (.relation "product" false)
    | "product", "price" => some (.scalar "int")
    | _, _ => none
  shape? _ := none

/-- The deliveries of an order with a line of a quantity and of a product of a price. -/
def deliveryQuery : List (String × Value) :=
  [("order", .object [("lines", .object [("quantity", .number (.unsigned 2)),
    ("product", .object [("price", .number (.unsigned 3))])])])]

def deliveryPlan : QueryPlan :=
  let equals (name : String) (n : Int64) : Predicate := .compare (.ofName name) .equal (.int n)
  ⟨(((((Tree.ofRoot "delivery").addRelation 0 "order" "order" false).addRelation
    1 "lines" "line" true).addLeaf 2 "quantity" "int" false (equals "quantity" 2)).addRelation
    2 "product" "product" false).addLeaf 4 "price" "int" false (equals "price" 3)
    |>.computePredicates, 0, 0⟩

theorem build_deliveries :
    (⟨none, deliveryQuery, 0, 0⟩ : Document).build "delivery" deliveries = .ok deliveryPlan := by
  have adds : Adds deliveries Tree.root "delivery" deliveryQuery (.ofRoot "delivery") [1] _ :=
    .relation rfl rfl (.relation rfl rfl (.scalar rfl rfl rfl
      (.relation rfl rfl (.scalar rfl rfl rfl .nothing) .nothing)) .nothing) .nothing
  rw [build, if_neg (by decide), adds.addMembers_eq]
  rfl

theorem filters_pass_required_rows_deliveries :
    (⟨none, deliveryQuery, 0, 0⟩ : Document).build "delivery" deliveries = .ok deliveryPlan ∧
      ∃ lines, deliveryPlan.tree.get? 2 = some lines ∧
        lines.includeFilter = some (.compare (.ofName "quantity") .equal (.int 2)) ∧
        ∀ {Row Content : Type} (data : Interpretation Row Content) (row : Row),
          data.Accepts row deliveryPlan.wherePredicate →
            ∃ element ∈ data.toMany (data.toOne row "order") "lines",
              data.Accepts element lines.wherePredicate ∧
                data.Accepts element lines.includeFilter := by
  obtain ⟨_, loaded, _⟩ := filters_pass_required_rows.{0, 0} build_deliveries
  have way : deliveryPlan.tree.LeadsToOne 0 ["order"] 1 :=
    @Tree.LeadsToOne.further _ 0 1 1 ((deliveryPlan.tree.get? 1).get rfl) []
      (List.mem_singleton.mpr rfl) rfl rfl .here
  refine ⟨build_deliveries, _, rfl, rfl, fun data row accepts => ?_⟩
  exact loaded 0 _ ["order"] 1 2 _ rfl rfl way (List.mem_singleton.mpr rfl) rfl rfl nofun data row
    accepts

end Document

end QueryPlanner
