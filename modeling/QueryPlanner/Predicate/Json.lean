import QueryPlanner.Json.Value
import QueryPlanner.Predicate.Display

/-!
Predicates as JSON values.  How floating-point literals are encoded is left to the caller, since
JSON numbers do not hold all of them.
-/

namespace QueryPlanner

open QueryPlanner.Json QueryPlanner.Number

def CompareOp.jsonName : CompareOp → String
  | lessThan => "less_than"
  | lessThanOrEqual => "less_than_or_equal"
  | greaterThan => "greater_than"
  | greaterThanOrEqual => "greater_than_or_equal"
  | equal => "equal"
  | notEqual => "not_equal"
  | contains => "contains"

/-- A finite number as a JSON number; JSON has no other ones. -/
def floatValue (x : Binary64) : Value :=
  if x.isFinite then .number (.float x) else .null

def Literal.toJson (encodeFloat : Binary64 → Value) (literal : Literal) : Value :=
  let (type, value) : String × Value :=
    match literal with
    | string text => ("string", .string text)
    | int n => ("int", .ofInt64 n)
    | float x => ("float", encodeFloat x)
    | bool b => ("bool", .bool b)
    | dateTime moment => ("date_time", .string (String.ofList moment.write))
  .object [("type", .string type), ("value", value)]

def FieldPath.toJson (path : FieldPath) : Value :=
  .ofStrings path.segments

def Predicate.toJson (encodeFloat : Binary64 → Value) : Predicate → Value
  | compare field op value => .object [
      ("kind", .string "compare"), ("field", field.toJson), ("op", .string op.jsonName),
      ("value", value.toJson encodeFloat)]
  | and left right => .object [
      ("kind", .string "and"), ("left", left.toJson encodeFloat),
      ("right", right.toJson encodeFloat)]
  | or left right => .object [
      ("kind", .string "or"), ("left", left.toJson encodeFloat),
      ("right", right.toJson encodeFloat)]
  | any relation inner => .object [
      ("kind", .string "exists"), ("relation", relation.toJson),
      ("predicate", inner.toJson encodeFloat)]

end QueryPlanner
