import QueryPlanner.Condition.Token
import QueryPlanner.Condition.Lexeme
import QueryPlanner.Date.Reading
import QueryPlanner.Number.Integer
import QueryPlanner.Predicate.Basic

/-!
The literals that tokens stand for, which depend on the operator in front of them.
-/

namespace QueryPlanner.Condition

open QueryPlanner.Date QueryPlanner.Number QueryPlanner.Text

/-- The whole number that a text gives, white space around it aside.  Any other text counts as
zero. -/
def coerceInt (text : String) : Literal :=
  .int ((readInt64? (trim text.toList)).getD 0)

def dateLiteral? (text : String) : Option Literal :=
  (readDateTime? text.toList).map .dateTime

def floatLiteral? (token : Token) : Option Literal :=
  (readBinary64? token.text.toList).bind fun x => if x.isFinite then some (.float x) else none

/-- What an operand of an ordering comparison stands for: a date, a finite number or a whole
number.  There is none only for a number that is not finite. -/
def orderingLiteral? (token : Token) : Option Literal :=
  match token.kind with
  | .string => some ((dateLiteral? token.text).getD (coerceInt token.text))
  | .float => floatLiteral? token
  | _ => some (coerceInt token.text)

def bareLiteral? (token : Token) : Option Literal :=
  match token.kind with
  | .int => some (coerceInt token.text)
  | .float => floatLiteral? token
  | .boolean => some (.bool (equalsIgnoringCase token.text.toList ['t', 'r', 'u', 'e']))
  | _ => some (.string token.text)

/-- What an operand of an equality stands for.  A word is read as a string, and a string that
gives a date as that date. -/
def equalityLiteral? (token : Token) : Option Literal :=
  match token.kind with
  | .string => some ((dateLiteral? token.text).getD (.string token.text))
  | _ => bareLiteral? token

/-- What an operand of a containment stands for: its text. -/
def containmentLiteral? (token : Token) : Option Literal :=
  some (.string token.text)

end QueryPlanner.Condition
