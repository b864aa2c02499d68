import QueryPlanner.Condition.Operand
import QueryPlanner.Condition.Render

/-!
# Normal literals

A condition does not hold every literal behind every operator.  The normal form of a literal is
what is read back behind its operator.
-/

namespace QueryPlanner

open QueryPlanner.Condition QueryPlanner.Number

namespace Literal

/-- A literal as a text: a string is its own, and any other literal is shown. -/
def asText : Literal → Literal
  | string text => string text
  | literal => string (String.ofList literal.display)

/-- A literal as one that has an order: a string gives a date or else a number. -/
def asOrdered : Literal → Literal
  | string text => (dateLiteral? text).getD (coerceInt text)
  | bool _ => int 0
  | literal => literal

/-- A literal as a date, if it is a string that gives one. -/
def asDate : Literal → Literal
  | string text => (dateLiteral? text).getD (string text)
  | literal => literal

/-- What a literal is read back as behind an operator. -/
def normalized (op : CompareOp) (literal : Literal) : Literal :=
  match op with
  | .lessThan | .lessThanOrEqual | .greaterThan | .greaterThanOrEqual => literal.asOrdered
  | .equal => literal
  | .notEqual => literal.asDate
  | .contains => literal.asText

theorem dateLiteral?_cases (text : String) :
    dateLiteral? text = none ∨ ∃ moment, dateLiteral? text = some (.dateTime moment) := by
  unfold dateLiteral?
  cases Date.readDateTime? text.toList with
  | none => exact .inl rfl
  | some moment => exact .inr ⟨moment, rfl⟩

theorem asText_asText (literal : Literal) : literal.asText.asText = literal.asText := by
  cases literal <;> rfl

theorem asOrdered_asOrdered (literal : Literal) :
    literal.asOrdered.asOrdered = literal.asOrdered := by
  cases literal with
  | string text =>
      rcases dateLiteral?_cases text with none | ⟨moment, found⟩
      · simp [asOrdered, none, coerceInt]
      · simp [asOrdered, found]
  | _ => rfl

theorem asDate_asDate (literal : Literal) : literal.asDate.asDate = literal.asDate := by
  cases literal with
  | string text =>
      rcases dateLiteral?_cases text with none | ⟨moment, found⟩
      · simp [asDate, none]
      · simp [asDate, found]
  | _ => rfl

theorem normalized_normalized (op : CompareOp) (literal : Literal) :
    (literal.normalized op).normalized op = literal.normalized op := by
  cases op with
  | equal => rfl
  | notEqual => exact literal.asDate_asDate
  | contains => exact literal.asText_asText
  | _ => exact literal.asOrdered_asOrdered

end Literal

/-- The predicate with all its literals in normal form. -/
def Predicate.normalized : Predicate → Predicate
  | compare field op value => compare field op (value.normalized op)
  | and left right => and left.normalized right.normalized
  | or left right => or left.normalized right.normalized
  | any relation inner => any relation inner.normalized

theorem Predicate.normalized_normalized (predicate : Predicate) :
    predicate.normalized.normalized = predicate.normalized := by
  induction predicate with
  | compare field op value => rw [normalized, normalized, value.normalized_normalized]
  | and left right leftIH rightIH => rw [normalized, normalized, leftIH, rightIH]
  | or left right leftIH rightIH => rw [normalized, normalized, leftIH, rightIH]
  | any relation inner inductionHypothesis => rw [normalized, normalized, inductionHypothesis]

end QueryPlanner
