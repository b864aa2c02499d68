import QueryPlanner.Date.Calendar
import QueryPlanner.Number.Binary64

/-!
Predicates over rows: comparisons of fields with literals, their conjunctions and disjunctions,
and the existence of a related row.
-/

namespace QueryPlanner

open QueryPlanner.Date QueryPlanner.Number

inductive CompareOp where
  | lessThan
  | lessThanOrEqual
  | greaterThan
  | greaterThanOrEqual
  | equal
  | notEqual
  /-- The text of the field contains the literal. -/
  | contains
  deriving DecidableEq

def CompareOp.isOrdering : CompareOp → Bool
  | lessThan | lessThanOrEqual | greaterThan | greaterThanOrEqual => true
  | equal | notEqual | contains => false

inductive Literal where
  | string (text : String)
  | int (n : Int64)
  | float (x : Binary64)
  | bool (b : Bool)
  | dateTime (moment : DateTime)
  deriving DecidableEq

/-- The way from a row to one of its fields: to-one relations in the order in which they are
followed, and the field that is reached. -/
structure FieldPath where
  relations : List String
  name : String
  deriving DecidableEq

namespace FieldPath

def ofName (name : String) : FieldPath :=
  ⟨[], name⟩

/-- The same path from a row that has to follow a relation first. -/
def through (relation : String) (path : FieldPath) : FieldPath :=
  { path with relations := relation :: path.relations }

def segments (path : FieldPath) : List String :=
  path.relations ++ [path.name]

end FieldPath

inductive Predicate where
  | compare (field : FieldPath) (op : CompareOp) (value : Literal)
  | and (left right : Predicate)
  | or (left right : Predicate)
  /-- At least one row of the related collection satisfies the inner predicate, whose paths begin
  at that row. -/
  | any (relation : FieldPath) (inner : Predicate)
  deriving DecidableEq

namespace Predicate

/-- The conjunction of predicates, nested to the left; there is none of no predicates. -/
def conjunction : List Predicate → Option Predicate
  | [] => none
  | first :: rest => some (rest.foldl .and first)

/-- The predicate seen from a row that reaches the present one by a to-one relation.  What lies
inside a collection stays as it is: only the way to the collection grows. -/
def through (relation : String) : Predicate → Predicate
  | compare field op value => compare (field.through relation) op value
  | and left right => and (left.through relation) (right.through relation)
  | or left right => or (left.through relation) (right.through relation)
  | any path inner => any (path.through relation) inner

structure Comparison where
  field : FieldPath
  op : CompareOp
  value : Literal
  deriving DecidableEq

/-- The comparisons of a row's own fields from left to right.  Those inside a collection are not
among them. -/
def comparisons : Predicate → List Comparison
  | compare field op value => [⟨field, op, value⟩]
  | and left right => left.comparisons ++ right.comparisons
  | or left right => left.comparisons ++ right.comparisons
  | any _ _ => []

end Predicate

end QueryPlanner
