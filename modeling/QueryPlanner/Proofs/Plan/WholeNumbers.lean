import QueryPlanner.Proofs.Condition.WholeNumbers
import QueryPlanner.Proofs.Plan.Acceptance

/-!
# Whole numbers in queries

A whole number among the members of a query asks that a property equals what the number stands
for in conditions.
-/

namespace QueryPlanner

open QueryPlanner.Condition QueryPlanner.Json QueryPlanner.Number QueryPlanner.Plan
  QueryPlanner.Schema

/-- The whole number that a JSON number is, if it is kept as one. -/
def Json.Number.whole? : Json.Number → Option ℤ
  | unsigned n => some n.toNat
  | negative n => some n.toInt
  | float _ => none

theorem Json.Number.write_of_whole? {number : Json.Number} {n : ℤ}
    (whole : number.whole? = some n) : number.write = writeInt n := by
  cases number with
  | unsigned m =>
      cases whole
      rw [write, writeInt, if_neg (Int.not_lt.mpr (Int.natCast_nonneg _)), List.nil_append]
      rfl
  | negative m =>
      cases whole
      rfl
  | float x => cases whole

namespace Document

variable {schema : Provider} {parent start stop : NodeId} {depth : Nat} {shape name : String}
  {members : List (String × Value)} {tree : Tree} {ids : List NodeId}

theorem condition?_of_whole? {number : Json.Number} {n : ℤ} (whole : number.whole? = some n)
    (name : String) : ∃ literal, condition? name (.number number) =
      .ok (some (.compare (.ofName name) .equal literal)) ∧ StandsForInt literal n := by
  obtain ⟨literal, compiled, stands⟩ := compileCondition_writeInt (.ofName name) n
  refine ⟨literal, ?_, stands⟩
  rw [condition?, conditionText?, Json.Number.write_of_whole? whole]
  dsimp only
  rw [compiled]
  rfl

/-- Every whole number that a condition compares stands for itself if it fits 64 bits and for zero
otherwise, and so does every whole number among the members of a query: the node of the member asks
that the property equals what the number stands for. -/
theorem wholeNumbers_stand_for_ints (schema : Provider) (shape : String) (field : FieldPath) :
    (∀ text predicate, compileCondition field text = .ok (some predicate) →
      ∃ sentence terminator rest,
        BeginsWith (Source.ofString text).scan.1 sentence terminator rest ∧
          predicate.comparisons = sentence.parts.map (Term.comparison · field) ∧
          ∀ term ∈ sentence.parts, term.op ≠ .contains → ∀ token ∈ term.tokens,
            token.kind = .int →
              ∃ n, IsWholeNumeral token.text.toList n ∧ StandsForInt term.literal n) ∧
    ∀ value document plan, ofValue value = .ok document → planValue value shape schema = .ok plan →
      ∀ (index : Nat) visit number n,
        ((visits schema shape document.query).filter (Visit.hasNode schema))[index]? = some visit →
          visit.value = .number number → number.whole? = some n →
            ∃ node literal, plan.tree.get? (1 + index) = some node ∧
              node.fieldName = some visit.name ∧
              node.leafPredicate = some (.compare (.ofName visit.name) .equal literal) ∧
              StandsForInt literal n := by
  constructor
  · intro text predicate compiled
    exact exists_wholeNumbers_of_compileCondition compiled
  · intro value document plan read planned index visit number n isVisit isNumber whole
    rw [planValue_of_read read] at planned
    obtain ⟨top, isTreeOf⟩ := exists_isTreeOf_of_build planned
    obtain ⟨node, found, fieldNameEq, ofScalar⟩ := isTreeOf.depicts.get?_visit isVisit
    obtain ⟨literal, compiled, stands⟩ := condition?_of_whole? whole visit.name
    have leafEq := ofScalar (by rw [isNumber]; rfl)
    rw [isNumber, compiled] at leafEq
    exact ⟨node, literal, found, fieldNameEq, (Except.ok.inj leafEq).symm, stands⟩

theorem wholeNumbers_stand_for_ints_orders :
    planValue (.object [("query", .object ordersQuery)]) "order" orders = .ok ordersPlan ∧
      ∃ node literal, ordersPlan.tree.get? 3 = some node ∧ node.fieldName = some "age" ∧
        node.leafPredicate = some (.compare (.ofName "age") .equal literal) ∧
        StandsForInt literal 30 := by
  have isVisit : ((visits orders "order" ordersQuery).filter (Visit.hasNode orders))[2]? =
      some ⟨"person", "age", .number (.unsigned 30)⟩ := by
    simp only [visits, ordersQuery]
    rfl
  refine ⟨planValue_orders, ?_⟩
  exact (wholeNumbers_stand_for_ints orders "order" (.ofName "total")).2 _
    ⟨none, ordersQuery, 0, 0⟩ _ rfl planValue_orders 2 _ _ _ isVisit rfl rfl

/-- The least number that does not fit 64 bits with a sign and the greatest one that fits them
without a sign are both compared as zero. -/
theorem beyond_int64_is_zero :
    IsWholeNumeral "9223372036854775808".toList (2 ^ 63) ∧
      compileCondition (.ofName "total") "9223372036854775808" =
        .ok (some (.compare (.ofName "total") .equal (.int 0))) ∧
      (Json.Number.unsigned 18446744073709551615).whole? = some (2 ^ 64 - 1) ∧
      ownCondition "total" (.number (.unsigned 18446744073709551615)) =
        some (.compare (.ofName "total") .equal (.int 0)) := by
  have isDigits : IsDigits "9223372036854775808".toList :=
    ⟨by decide, List.all_eq_true.mp (by decide)⟩
  refine ⟨.unsigned isDigits, ?_, rfl, ?_⟩
  · decide +kernel
  · decide +kernel

end Document

end QueryPlanner
