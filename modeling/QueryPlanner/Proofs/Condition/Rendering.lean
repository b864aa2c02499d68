import QueryPlanner.Proofs.Condition.RoundTrip

/-!
# Which predicates are written as conditions

The predicates that have a condition are the left folds of comparisons of one field.  Their
conditions stand for their normal forms, which are the conditions' own predicates.
-/

namespace QueryPlanner.Condition

variable {field other : FieldPath} {predicate left right : Predicate} {op : CompareOp}
  {literal : Literal}

section Written

theorem isSome_conditionOn?_compare :
    ((Predicate.compare other op literal).conditionOn? field).isSome = true ↔ other = field := by
  rw [Predicate.conditionOn?]
  by_cases same : other = field <;> simp [same]

theorem isSome_conditionOn?_and :
    ((Predicate.and left (.compare other op literal)).conditionOn? field).isSome = true ↔
      (left.conditionOn? field).isSome = true ∧ other = field := by
  rw [Predicate.conditionOn?]
  by_cases same : other = field <;> cases left.conditionOn? field <;> simp [same]

theorem isSome_conditionOn?_or :
    ((Predicate.or left (.compare other op literal)).conditionOn? field).isSome = true ↔
      (left.conditionOn? field).isSome = true ∧ other = field := by
  rw [Predicate.conditionOn?]
  by_cases same : other = field <;> cases left.conditionOn? field <;> simp [same]

theorem isSome_conditionOn?_iff :
    (predicate.conditionOn? field).isSome = true ↔ IsLeftFold field predicate := by
  constructor
  · intro written
    fun_induction Predicate.conditionOn? field predicate with
    | case1 op literal => exact .compare op literal
    | case2 => cases written
    | case3 left other op literal inductionHypothesis =>
        rw [← Predicate.conditionOn?, isSome_conditionOn?_and] at written
        obtain ⟨leftWritten, rfl⟩ := written
        exact .and (inductionHypothesis leftWritten) op literal
    | case4 left other op literal inductionHypothesis =>
        rw [← Predicate.conditionOn?, isSome_conditionOn?_or] at written
        obtain ⟨leftWritten, rfl⟩ := written
        exact .or (inductionHypothesis leftWritten) op literal
    | case5 => cases written
  · intro fold
    induction fold with
    | compare op literal => exact isSome_conditionOn?_compare.mpr rfl
    | and _ op literal inductionHypothesis =>
        exact isSome_conditionOn?_and.mpr ⟨inductionHypothesis, rfl⟩
    | or _ op literal inductionHypothesis =>
        exact isSome_conditionOn?_or.mpr ⟨inductionHypothesis, rfl⟩

/-- A predicate has a condition exactly if it is a left fold of comparisons of one field. -/
theorem isSome_toCondition?_iff :
    predicate.toCondition?.isSome = true ↔ ∃ field, IsLeftFold field predicate := by
  constructor
  · intro written
    rw [Predicate.toCondition?, Option.isSome_map, Predicate.toConditionChars?] at written
    cases head : predicate.comparisons.head? with
    | none =>
        rw [head] at written
        cases written
    | some first =>
        rw [head, Option.bind_some] at written
        exact ⟨first.field, isSome_conditionOn?_iff.mp written⟩
  · rintro ⟨field, fold⟩
    rw [fold.toCondition?_eq, Option.isSome_map]
    exact isSome_conditionOn?_iff.mpr fold

end Written

section Normalized

theorem IsLeftFold.normalized (fold : IsLeftFold field predicate) :
    IsLeftFold field predicate.normalized := by
  induction fold with
  | compare op literal => exact .compare op _
  | and _ op literal inductionHypothesis => exact .and inductionHypothesis op _
  | or _ op literal inductionHypothesis => exact .or inductionHypothesis op _

theorem isWritable_dateLiteral? (text : String) (writable : IsWritable literal) :
    IsWritable ((dateLiteral? text).getD literal) := by
  rcases Literal.dateLiteral?_cases text with none | ⟨moment, found⟩
  · rw [none]
    exact writable
  · rw [found]
    trivial

theorem IsWritable.asOrdered (writable : IsWritable literal) : IsWritable literal.asOrdered := by
  cases literal with
  | string text =>
      have isInt : IsWritable (coerceInt text) := trivial
      exact isWritable_dateLiteral? text isInt
  | bool b => trivial
  | _ => exact writable

theorem IsWritable.asDate (writable : IsWritable literal) : IsWritable literal.asDate := by
  cases literal with
  | string text => exact isWritable_dateLiteral? text writable
  | _ => exact writable

theorem IsWritable.normalized (writable : IsWritable literal) (op : CompareOp) :
    IsWritable (literal.normalized op) := by
  cases op with
  | equal => exact writable
  | notEqual => exact writable.asDate
  | contains => exact .asText literal
  | _ => exact writable.asOrdered

theorem AreWritable.normalized (writable : AreWritable predicate) :
    AreWritable predicate.normalized := by
  induction predicate with
  | compare field op literal =>
      exact areWritable_compare.mpr ((areWritable_compare.mp writable).normalized op)
  | and left right leftIH rightIH =>
      obtain ⟨leftWritable, rightWritable⟩ := areWritable_and.mp writable
      exact areWritable_and.mpr ⟨leftIH leftWritable, rightIH rightWritable⟩
  | or left right leftIH rightIH =>
      obtain ⟨leftWritable, rightWritable⟩ := areWritable_or.mp writable
      exact areWritable_or.mpr ⟨leftIH leftWritable, rightIH rightWritable⟩
  | any relation inner => exact List.forall_mem_nil _

end Normalized

/-- The predicates that have a condition are the left folds of comparisons of one field.  If all
numbers are finite, the condition of such a fold stands for its normal form, which has the same
comparisons in the same places and every literal as it is read behind its operator.  A normal form
is its own, so it is what its condition stands for in turn. -/
theorem conditions_hold_normal_forms (predicate : Predicate) :
    (predicate.toCondition?.isSome = true ↔ ∃ field, IsLeftFold field predicate) ∧
    (∀ field, IsLeftFold field predicate → AreWritable predicate →
      ∃ text, predicate.toCondition? = some text ∧
        compileCondition field text = .ok (some predicate.normalized) ∧
        ∃ again, predicate.normalized.toCondition? = some again ∧
          compileCondition field again = .ok (some predicate.normalized)) ∧
    predicate.normalized.normalized = predicate.normalized := by
  refine ⟨isSome_toCondition?_iff, ?_, predicate.normalized_normalized⟩
  intro field fold writable
  obtain ⟨text, written, compiled⟩ := fold.compileCondition_toCondition? writable
  have again := fold.normalized.compileCondition_toCondition? writable.normalized
  rw [predicate.normalized_normalized] at again
  exact ⟨text, written, compiled, again⟩

/-- A fold in which every literal but the first is read back as another one. -/
theorem conditions_hold_normal_forms_mixed :
    let field : FieldPath := ⟨["customer"], "name"⟩
    let predicate : Predicate := .or (.and (.and (.compare field .equal (.string "2024-03-01"))
      (.compare field .lessThan (.string "x"))) (.compare field .greaterThan (.bool true)))
      (.compare field .contains (.int 5))
    IsLeftFold field predicate ∧ AreWritable predicate ∧
      ∃ text, predicate.toCondition? = some text ∧
        compileCondition field text = .ok (some (
          .or (.and (.and (.compare field .equal (.string "2024-03-01"))
            (.compare field .lessThan (.int 0))) (.compare field .greaterThan (.int 0)))
            (.compare field .contains (.string "5")))) := by
  intro field predicate
  have fold : IsLeftFold field predicate := .or (.and (.and (.compare _ _) _ _) _ _) _ _
  have writable : AreWritable predicate := by
    simp [AreWritable, predicate, Predicate.comparisons, IsWritable]
  obtain ⟨text, written, compiled, _⟩ :=
    (conditions_hold_normal_forms predicate).2.1 field fold writable
  have normalForm : predicate.normalized = .or (.and (.and
      (.compare field .equal (.string "2024-03-01")) (.compare field .lessThan (.int 0)))
      (.compare field .greaterThan (.int 0))) (.compare field .contains (.string "5")) := by
    decide +kernel
  exact ⟨fold, writable, text, written, normalForm ▸ compiled⟩

end QueryPlanner.Condition
