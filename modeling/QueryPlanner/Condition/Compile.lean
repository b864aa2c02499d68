import QueryPlanner.Condition.Operand
import QueryPlanner.Condition.Session

/-!
From the text of a condition to a predicate on one field.

A condition is a row of terms joined by `&&` and `||`, taken strictly from left to right.  It ends
at the end of the text, a comma or a brace.
-/

namespace QueryPlanner.Condition

inductive Unsupported where
  | nothingOnLeft (joiner : Token)
  | nothingOnRight (joiner : Token)
  | joinerMissing (found : Token)
  | valueMissing (operator found : Token)
  | operationMissing (found : Token)
  | unknownOperation (name : String)
  | unexpected (found : Token)
  | floatOutOfRange (literal : Token)
  deriving DecidableEq

inductive Error where
  | syntaxFault (fault : SyntaxFault)
  | unsupported (cause : Unsupported)
  deriving DecidableEq

def atOffset (token : Token) : String :=
  s!" at offset {toString token.start}"

def quotedKind (token : Token) : String :=
  "'" ++ token.kind.description ++ "'" ++ atOffset token

def Unsupported.message : Unsupported → String
  | nothingOnLeft joiner => quotedKind joiner ++ " has no condition on its left"
  | nothingOnRight joiner => quotedKind joiner ++ " has no condition on its right"
  | joinerMissing found =>
      "expected '&&' or '||' before " ++ found.display ++ atOffset found
  | valueMissing operator found =>
      "expected a value after " ++ quotedKind operator ++ ", found " ++ found.display
  | operationMissing found =>
      "expected an operation name after '$', found " ++ found.display ++ atOffset found
  | unknownOperation name => "$" ++ name
  | unexpected found => "unexpected " ++ found.display ++ atOffset found
  | floatOutOfRange literal =>
      "float literal " ++ literal.text ++ atOffset literal ++ " is out of range"

/-- Steps through the tokens of a session.  A failed step keeps the session where the failure
left it. -/
abbrev Step (α : Type) := ExceptT Error (StateM Session) α

def nextToken : Step Token :=
  ExceptT.mk do
    let (result, session) := (← get).next
    set session
    return result.mapError .syntaxFault

def previousToken : Step Unit :=
  modify fun session => session.back.2

def refuse {α : Type} (cause : Unsupported) : Step α :=
  throw (.unsupported cause)

/-- Whether a token can be the value on the right of an operator. -/
def isOperand (token : Token) : Bool :=
  match token.kind with
  | .int | .float | .string | .boolean | .name => true
  | _ => false

def nextOperand (operator : Token) : Step Token := do
  let operand ← nextToken
  if isOperand operand then return operand else refuse (.valueMissing operator operand)

def nextLiteral (operator : Token) (literal? : Token → Option Literal) : Step Literal := do
  let operand ← nextOperand operator
  match literal? operand with
  | some literal => return literal
  | none => refuse (.floatOutOfRange operand)

/-- Passes over an equals sign, if it comes next, and says which of two comparisons is meant. -/
def orEqual (strict inclusive : CompareOp) : Step CompareOp := do
  if (← nextToken).kind = .equals then return inclusive
  else
    previousToken
    return strict

def readTerm (field : FieldPath) (token : Token) : Step Predicate :=
  match token.kind with
  | .lessThan => do
      let op ← orEqual .lessThan .lessThanOrEqual
      return .compare field op (← nextLiteral token orderingLiteral?)
  | .greaterThan => do
      let op ← orEqual .greaterThan .greaterThanOrEqual
      return .compare field op (← nextLiteral token orderingLiteral?)
  | .equals => return .compare field .equal (← nextLiteral token equalityLiteral?)
  | .not => return .compare field .notEqual (← nextLiteral token equalityLiteral?)
  | .int | .float | .string | .boolean =>
      match bareLiteral? token with
      | some literal => return .compare field .equal literal
      | none => refuse (.floatOutOfRange token)
  | .dollar => do
      let name ← nextToken
      match name.kind, name.value with
      | .name, some operation =>
          if equalsIgnoringCase operation.toList ['c', 'o', 'n', 't', 'a', 'i', 'n', 's'] then
            return .compare field .contains (← nextLiteral name containmentLiteral?)
          else refuse (.unknownOperation operation)
      | _, _ => refuse (.operationMissing name)
  | _ => refuse (.unexpected token)

def joiner? (token : Token) : Option (Predicate → Predicate → Predicate) :=
  match token.kind with
  | .and => some .and
  | .or => some .or
  | _ => none

/-- The next term of a condition, joined to what has been read of it; nothing at the end of the
condition. -/
def readNext (field : FieldPath) (before : Option Predicate) : Step (Option Predicate) := do
  let token ← nextToken
  if token.kind.endsCondition then return none
  else
    match before, joiner? token with
    | none, none => return some (← readTerm field token)
    | none, some _ => refuse (.nothingOnLeft token)
    | some _, none => refuse (.joinerMissing token)
    | some left, some join => do
        let first ← nextToken
        if first.kind.endsCondition then refuse (.nothingOnRight token)
        else return some (join left (← readTerm field first))

/-- The rest of a condition of which something may have been read.  Every term takes a token, so
the bound on the number of terms is never met. -/
def readRest (field : FieldPath) : (bound : Nat) → Option Predicate → Step (Option Predicate)
  | 0, before => return before
  | bound + 1, before => do
      match ← readNext field before with
      | none => return before
      | some longer => readRest field bound (some longer)

/-- The condition on a field from where the session stands.  An empty condition is no
predicate. -/
def compile (field : FieldPath) : Step (Option Predicate) := do
  let session ← get
  readRest field (session.source.body.length + 1) none

/-- Compiles a condition in a session, which is left at the end of the condition or where the
failure was. -/
def Session.compile (session : Session) (field : String) :
    Except Error (Option Predicate) × Session :=
  (Condition.compile (.ofName field)).run.run session

/-- The predicate that the text of a condition on a field stands for. -/
def compileCondition (field : FieldPath) (text : String) : Except Error (Option Predicate) :=
  ((compile field).run.run (.start (.ofString text))).1

end QueryPlanner.Condition
