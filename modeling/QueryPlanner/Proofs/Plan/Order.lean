import Mathlib.Data.Multiset.MapFold
import QueryPlanner.Proofs.Plan.Acceptance
import QueryPlanner.Proofs.Plan.Alike
import QueryPlanner.Proofs.Plan.Loading
import QueryPlanner.Proofs.Plan.Members

/-!
# The order of members

Members of objects may stand in any order.  What is come to, asked for and loaded is collected from
them one by one, so a document that is rearranged is planned as well, and the plan asks for the
same.
-/

namespace QueryPlanner.Document

open QueryPlanner.Json QueryPlanner.Plan QueryPlanner.Schema

universe u v

/-- Members that are come to under the same shape and name, and whose values are of one kind. -/
structure Visit.Alike (visit other : Visit) : Prop where
  shape_eq : visit.shape = other.shape
  name_eq : visit.name = other.name
  value_alike : visit.value.Corresponds (fun _ _ => True) other.value

instance : Std.Refl Visit.Alike where
  refl visit := ⟨rfl, rfl, .refl (fun _ => trivial) visit.value⟩

instance : IsTrans Visit Visit.Alike where
  trans _ _ _ start further :=
    ⟨start.shape_eq.trans further.shape_eq, start.name_eq.trans further.name_eq,
      start.value_alike.trans (fun _ _ _ _ _ => trivial) further.value_alike⟩

variable {schema : Provider} {path : List String} {shape name : String}
  {front back members others : List (String × Value)}

theorem visits_append :
    visits schema shape (front ++ back) =
      visits schema shape front ++ visits schema shape back := by
  induction shape, front using visits.induct with
  | case1 shape =>
      rw [visits]
      rfl
  | case2 shape name members rest membersIH restIH =>
      rw [List.cons_append, visits, visits, restIH, List.cons_append, List.append_assoc]
  | case3 shape name value rest notObject restIH =>
      rw [List.cons_append, visits, visits, restIH]
      · rfl
      · exact notObject
      · exact notObject

theorem demands_append :
    demands schema shape (front ++ back) =
      demands schema shape front ++ demands schema shape back := by
  induction shape, front using demands.induct with
  | case1 shape =>
      rw [demands]
      rfl
  | case2 shape name members rest membersIH restIH =>
      rw [List.cons_append, demands, demands, restIH, List.append_assoc]
  | case3 shape name value rest notObject restIH =>
      rw [List.cons_append, demands, demands, restIH, List.append_assoc]
      · exact notObject
      · exact notObject

theorem loads_append :
    loads schema path shape (front ++ back) =
      loads schema path shape front ++ loads schema path shape back := by
  induction path, shape, front using loads.induct with
  | case1 path shape =>
      rw [loads]
      rfl
  | case2 path shape name members rest membersIH restIH =>
      rw [List.cons_append, loads, loads, restIH, List.append_assoc]
  | case3 path shape name value rest notObject restIH =>
      rw [List.cons_append, loads, loads, restIH]
      · exact notObject
      · exact notObject

section Collected

variable (rearranged : (Value.object members).Rearranged (.object others))

include rearranged

theorem visits_alike (shape : String) : Multiset.Rel Visit.Alike
    (visits schema shape members : Multiset Visit) (visits schema shape others) := by
  apply rearranged.collect_alike
  · intro shape front back
    exact visits_append
  · intro shape name items others
    rw [visits, visits, visits, visits, ← Multiset.cons_coe, ← Multiset.cons_coe]
    · exact .cons ⟨rfl, rfl, .array⟩ .zero
    · rintro members ⟨⟩
    · rintro members ⟨⟩
  · intro name members others _ inside shape
    rw [visits, visits, visits, visits, List.append_nil, List.append_nil, ← Multiset.cons_coe,
      ← Multiset.cons_coe]
    refine .cons ⟨rfl, rfl, .object trivial⟩ ?_
    cases schema.property? shape name with
    | none => exact .zero
    | some property =>
        obtain ⟨valueShape, isCollection, isNavigable⟩ := property
        cases isNavigable with
        | false => exact .zero
        | true => exact inside valueShape

theorem ownConditions_perm : (ownConditions members).Perm (ownConditions others) := by
  rw [← Multiset.coe_eq_coe, ← Multiset.rel_eq]
  refine @Value.Rearranged.collect_alike members others Unit Predicate (fun _ => ownConditions) Eq
    _ _ ?_ ?_ ?_ rearranged ()
  · intro _ front back
    exact List.filterMap_append
  · intro _ name items others
    exact .zero
  · intro name members others _ _ _
    exact .zero

theorem demands_equivalent (shape : String) : Multiset.Rel Predicate.Equivalent.{u, v}
    (demands schema shape members : Multiset Predicate) (demands schema shape others) := by
  apply rearranged.collect_alike
  · intro shape front back
    exact demands_append
  · intro shape name items others
    rw [demands, demands, demands, demands]
    · exact .zero
    · rintro members ⟨⟩
    · rintro members ⟨⟩
  · intro name members others _ inside shape
    rw [demands, demands, demands, demands, List.append_nil, List.append_nil]
    cases schema.property? shape name with
    | none => exact .zero
    | some property =>
        obtain ⟨valueShape, isCollection, isNavigable⟩ := property
        cases isNavigable with
        | false => exact .zero
        | true =>
            exact Predicate.map_acrossRelation_equivalent
              (Predicate.conjunction_equivalent (inside valueShape)) name isCollection

theorem loads_alike (path : List String) (shape : String) : Multiset.Rel Request.Alike
    (loads schema path shape members : Multiset Request) (loads schema path shape others) := by
  refine @Value.Rearranged.collect_alike members others (List String × String) Request
    (fun context => loads schema context.1 context.2) Request.Alike _ _ ?_ ?_ ?_ rearranged
    (path, shape)
  · intro context front back
    exact loads_append
  · intro context name items others
    rw [loads, loads, loads, loads]
    · exact .zero
    · rintro members ⟨⟩
    · rintro members ⟨⟩
  · rintro name members others further inside ⟨path, shape⟩
    rw [loads, loads, loads, loads, List.append_nil, List.append_nil]
    simp only
    cases schema.property? shape name with
    | none => exact .zero
    | some property =>
        obtain ⟨valueShape, isCollection, isNavigable⟩ := property
        cases isNavigable with
        | false => exact .zero
        | true =>
            simp only
            rw [← Multiset.cons_coe, ← Multiset.cons_coe]
            refine .cons ⟨rfl, ?_⟩ (inside (path ++ [name], valueShape))
            exact Predicate.conjunction_equallyTrue (ownConditions_perm further)

end Collected

section Visits

variable {visit other : Visit}

theorem Visit.Alike.fault?_eq_and_hasNode_eq (alike : visit.Alike other) :
    visit.fault? schema = other.fault? schema ∧ visit.hasNode schema = other.hasNode schema := by
  obtain ⟨shape, name, value⟩ := visit
  obtain ⟨otherShape, otherName, otherValue⟩ := other
  obtain ⟨rfl, rfl, valueAlike⟩ := alike
  cases valueAlike with
  | scalar isScalar => exact ⟨rfl, rfl⟩
  | array => exact ⟨rfl, rfl⟩
  | object _ => exact ⟨rfl, rfl⟩

theorem firstFault?_eq_none_of_rearranged
    (rearranged : (Value.object members).Rearranged (.object others))
    (noFault : firstFault? schema shape members = none) :
    firstFault? schema shape others = none := by
  rw [firstFault?, List.findSome?_eq_none_iff] at noFault ⊢
  intro other isOther
  obtain ⟨visit, isVisit, alike⟩ := Multiset.exists_mem_of_rel_of_mem
    (visits_alike rearranged.symm shape) isOther
  rw [alike.fault?_eq_and_hasNode_eq.1]
  exact noFault visit isVisit

theorem countP_hasNode_eq (rearranged : (Value.object members).Rearranged (.object others)) :
    (visits schema shape members).countP (Visit.hasNode schema) =
      (visits schema shape others).countP (Visit.hasNode schema) := by
  have perm : ((visits schema shape members).map (Visit.hasNode schema)).Perm
      ((visits schema shape others).map (Visit.hasNode schema)) := by
    rw [← Multiset.coe_eq_coe, ← Multiset.map_coe, ← Multiset.map_coe, ← Multiset.rel_eq,
      Multiset.rel_map]
    exact (visits_alike rearranged shape).mono fun _ _ _ _ alike =>
      alike.fault?_eq_and_hasNode_eq.2
  have counted := perm.countP_eq id
  rwa [List.countP_map, List.countP_map] at counted

end Visits

section Build

variable {document other : Document} {plan otherPlan : QueryPlan}

theorem shape_of_build (built : document.build shape schema = .ok plan) : plan.shape = shape := by
  obtain ⟨top, isTreeOf⟩ := exists_isTreeOf_of_build built
  rw [QueryPlan.shape, isTreeOf.found]
  exact isTreeOf.shape_eq

theorem page_of_build (built : document.build shape schema = .ok plan) :
    plan.page = document.page ∧ plan.pageSize = document.pageSize := by
  obtain ⟨ids, tree, adds, rfl⟩ := exists_adds_of_build built
  exact ⟨rfl, rfl⟩

theorem asksAlike_of_build (alike : document.Alike other)
    (built : document.build shape schema = .ok plan)
    (otherBuilt : other.build shape schema = .ok otherPlan) :
    plan.AsksAlike.{u, v} otherPlan := by
  obtain ⟨page, pageSize⟩ := page_of_build built
  obtain ⟨otherPage, otherPageSize⟩ := page_of_build otherBuilt
  have pageEq := page.trans (alike.page_eq.trans otherPage.symm)
  have pageSizeEq := pageSize.trans (alike.pageSize_eq.trans otherPageSize.symm)
  refine ⟨?_, pageEq, pageSizeEq, ?_, ?_, ?_, ?_⟩
  · rw [shape_of_build built, shape_of_build otherBuilt]
  · rw [QueryPlan.paging, QueryPlan.paging, pageEq, pageSizeEq]
  · obtain ⟨top, isTreeOf⟩ := exists_isTreeOf_of_build built
    obtain ⟨otherTop, isOtherTreeOf⟩ := exists_isTreeOf_of_build otherBuilt
    rw [isTreeOf.size_eq, isOtherTreeOf.size_eq, countP_hasNode_eq alike.query_alike]
  · rw [requests_of_build built, requests_of_build otherBuilt]
    exact loads_alike alike.query_alike [] shape
  · rw [wherePredicate_of_build built, wherePredicate_of_build otherBuilt]
    exact Predicate.conjunction_equivalent (demands_equivalent alike.query_alike shape)

end Build

section PlanValue

variable {value other : Value}

theorem planValue_ok_iff {plan : QueryPlan} : planValue value shape schema = .ok plan ↔
    ∃ document, ofValue value = .ok document ∧ document.build shape schema = .ok plan := by
  constructor
  · intro planned
    obtain ⟨document, read, built⟩ := exists_of_bind_ok planned
    exact ⟨document, exists_of_mapError_ok read, built⟩
  · rintro ⟨document, read, built⟩
    rw [planValue_of_read read]
    exact built

theorem exists_planValue_of_rearranged (rearranged : value.Rearranged other) {plan : QueryPlan}
    (planned : planValue value shape schema = .ok plan) :
    ∃ otherPlan, planValue other shape schema = .ok otherPlan := by
  obtain ⟨document, read, built⟩ := planValue_ok_iff.mp planned
  obtain ⟨otherDocument, otherRead, alike⟩ := exists_ofValue_alike rearranged read
  obtain ⟨inRange, noFault⟩ := exists_build_iff.mp ⟨plan, built⟩
  have otherInRange : otherDocument.IsInRange := by
    rw [IsInRange, ← alike.page_eq, ← alike.pageSize_eq]
    exact inRange
  rw [planValue_of_read otherRead]
  exact exists_build_iff.mpr
    ⟨otherInRange, firstFault?_eq_none_of_rearranged alike.query_alike noFault⟩

/-- Rearranged documents are both planned or both not, and their plans ask for the same.  If it is
only the outermost members that have changed places, the plans are equal. -/
theorem planValue_rearranged (rearranged : value.Rearranged other) :
    ((∃ plan, planValue value shape schema = .ok plan) ↔
      ∃ plan, planValue other shape schema = .ok plan) ∧
    (∀ plan otherPlan, planValue value shape schema = .ok plan →
      planValue other shape schema = .ok otherPlan → plan.AsksAlike.{u, v} otherPlan) ∧
    ∀ members others, value = .object members → other = .object others → members.Perm others →
      ∀ plan, planValue value shape schema = .ok plan →
        planValue other shape schema = .ok plan := by
  refine ⟨⟨?_, ?_⟩, ?_, ?_⟩
  · rintro ⟨plan, planned⟩
    exact exists_planValue_of_rearranged rearranged planned
  · rintro ⟨plan, planned⟩
    exact exists_planValue_of_rearranged rearranged.symm planned
  · intro plan otherPlan planned otherPlanned
    obtain ⟨document, read, built⟩ := planValue_ok_iff.mp planned
    obtain ⟨otherDocument, otherRead, alike⟩ := exists_ofValue_alike rearranged read
    rw [planValue_of_read otherRead] at otherPlanned
    exact asksAlike_of_build alike built otherPlanned
  · rintro members others rfl rfl perm plan planned
    obtain ⟨document, read, built⟩ := planValue_ok_iff.mp planned
    exact planValue_ok_iff.mpr ⟨document, ofValue_perm perm read, built⟩

theorem planValue_rearranged_orders :
    (Value.object [("query", .object ordersQuery)]).Rearranged
        (.object [("query", .object ordersQuery.reverse)]) ∧
      ∃ plan, planValue (.object [("query", .object ordersQuery.reverse)]) "order" orders =
        .ok plan ∧ ordersPlan.AsksAlike.{0, 0} plan := by
  have rearranged : (Value.object [("query", .object ordersQuery)]).Rearranged
      (.object [("query", .object ordersQuery.reverse)]) :=
    @Value.Rearranged.member [] [] "query" _ _ (.order (List.reverse_perm ordersQuery).symm)
  obtain ⟨bothPlanned, alike, _⟩ := @planValue_rearranged orders "order" _ _ rearranged
  obtain ⟨plan, planned⟩ := bothPlanned.mp ⟨ordersPlan, planValue_orders⟩
  exact ⟨rearranged, plan, planned, alike ordersPlan plan planValue_orders planned⟩

end PlanValue

end QueryPlanner.Document
