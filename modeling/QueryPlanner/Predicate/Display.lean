import QueryPlanner.Date.Written
import QueryPlanner.Number.Integer
import QueryPlanner.Number.Style
import QueryPlanner.Predicate.Basic
import QueryPlanner.Text.Quoted

/-!
Predicates as they are shown to a reader.
-/

namespace QueryPlanner

open QueryPlanner.Date QueryPlanner.Number QueryPlanner.Text

/-- Floating-point literals have a point from `0.0001` up to `10 ^ 16`; elsewhere they have a
power of ten without a plus sign. -/
def literalFloatStyle : Style where
  least := -4
  limit := 16
  plusSign := false
  tie := .up

def boolText (b : Bool) : List Char :=
  if b then ['t', 'r', 'u', 'e'] else ['f', 'a', 'l', 's', 'e']

def Literal.display : Literal → List Char
  | string text => quoted text.toList
  | int n => writeInt n.toInt
  | float x => literalFloatStyle.write x
  | bool b => boolText b
  | dateTime moment => moment.write

def CompareOp.display : CompareOp → List Char
  | lessThan => ['<']
  | lessThanOrEqual => ['<', '=']
  | greaterThan => ['>']
  | greaterThanOrEqual => ['>', '=']
  | equal => ['=', '=']
  | notEqual => ['!', '=']
  | contains => ['C', 'O', 'N', 'T', 'A', 'I', 'N', 'S']

def FieldPath.display (path : FieldPath) : List Char :=
  path.relations.flatMap (fun relation => relation.toList ++ ['.']) ++ path.name.toList

def parenthesized (needed : Bool) (text : List Char) : List Char :=
  if needed then '(' :: text ++ [')'] else text

namespace Predicate

def isAnd : Predicate → Bool
  | and _ _ => true
  | _ => false

def isOr : Predicate → Bool
  | or _ _ => true
  | _ => false

/-- A predicate as it is shown.  Parentheses stand around a left operand of the other kind and
around any right operand that is not a single condition. -/
def displayChars : Predicate → List Char
  | compare field op value => field.display ++ ' ' :: op.display ++ ' ' :: value.display
  | and left right =>
      parenthesized left.isOr left.displayChars ++ [' ', 'A', 'N', 'D', ' '] ++
        parenthesized (right.isAnd || right.isOr) right.displayChars
  | or left right =>
      parenthesized left.isAnd left.displayChars ++ [' ', 'O', 'R', ' '] ++
        parenthesized (right.isAnd || right.isOr) right.displayChars
  | any relation inner =>
      ['E', 'X', 'I', 'S', 'T', 'S', '('] ++ relation.display ++ [':', ' '] ++
        inner.displayChars ++ [')']

def display (predicate : Predicate) : String :=
  String.ofList predicate.displayChars

end Predicate

end QueryPlanner
