import QueryPlanner.Predicate.Display

/-!
Predicates back in the language of conditions.
-/

namespace QueryPlanner

open QueryPlanner.Number QueryPlanner.Text

def conditionChar (c : Char) : List Char :=
  if c = '\'' then ['\\', '\'']
  else if c = '\\' then ['\\', '\\']
  else if c = '\n' then ['\\', 'n']
  else if c = '\r' then ['\\', 'r']
  else if c = '\x08' then ['\\', 'b']
  else if c = '\x0C' then ['\\', 'f']
  else if c.toNat < 0x20 ∧ c ≠ '\t' then '\\' :: 'u' :: upperHex c.toNat
  else [c]

def conditionString (text : List Char) : List Char :=
  '\'' :: text.flatMap conditionChar ++ ['\'']

def Literal.toConditionChars : Literal → List Char
  | string text => conditionString text.toList
  | int n => writeInt n.toInt
  | float x => literalFloatStyle.write x
  | bool b => boolText b
  | dateTime moment => conditionString moment.write

def Literal.toCondition (literal : Literal) : String :=
  String.ofList literal.toConditionChars

def CompareOp.conditionSymbol : CompareOp → List Char
  | lessThan => ['<']
  | lessThanOrEqual => ['<', '=']
  | greaterThan => ['>']
  | greaterThanOrEqual => ['>', '=']
  | equal => ['=']
  | notEqual => ['!', '=']
  | contains => ['$', 'c', 'o', 'n', 't', 'a', 'i', 'n', 's']

/-- A term of a condition.  Containment takes a string, so any other literal is shown inside
one. -/
def termChars (op : CompareOp) (value : Literal) : List Char :=
  match op, value with
  | .equal, .string text => conditionString text.toList
  | .contains, .string text => op.conditionSymbol ++ ' ' :: conditionString text.toList
  | .contains, other => op.conditionSymbol ++ ' ' :: conditionString other.display
  | _, _ => op.conditionSymbol ++ ' ' :: value.toConditionChars

namespace Predicate

/-- The condition on a field that a predicate stands for: a row of comparisons of that field,
joined from left to right. -/
def conditionOn? (field : FieldPath) : Predicate → Option (List Char)
  | compare other op value => if other = field then some (termChars op value) else none
  | and left (compare other op value) => do
      let before ← left.conditionOn? field
      let term ← if other = field then some (termChars op value) else none
      return before ++ [' ', '&', '&', ' '] ++ term
  | or left (compare other op value) => do
      let before ← left.conditionOn? field
      let term ← if other = field then some (termChars op value) else none
      return before ++ [' ', '|', '|', ' '] ++ term
  | _ => none

/-- The condition that a predicate stands for, on the field of its first comparison. -/
def toConditionChars? (predicate : Predicate) : Option (List Char) :=
  predicate.comparisons.head?.bind fun first => predicate.conditionOn? first.field

def toCondition? (predicate : Predicate) : Option String :=
  predicate.toConditionChars?.map String.ofList

end Predicate

end QueryPlanner
