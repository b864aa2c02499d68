import QueryPlanner.Condition.Operand

/-!
# The grammar of conditions

A condition is a sentence: nothing, or terms with a joiner between each two of them.  What it
stands for joins the comparisons of its terms strictly from left to right.
-/

namespace QueryPlanner.Condition

open QueryPlanner.Number QueryPlanner.Text

def TokenKind.IsLiteral (kind : TokenKind) : Prop :=
  kind = .int ∨ kind = .float ∨ kind = .string ∨ kind = .boolean

/-- The kinds of tokens that can stand on the right of an operator. -/
def TokenKind.IsOperand (kind : TokenKind) : Prop :=
  kind.IsLiteral ∨ kind = .name

/-- A token that is no floating-point literal, or one of a finite number. -/
def Token.IsFinite (token : Token) : Prop :=
  token.kind = .float → ∃ x, readBinary64? token.text.toList = some x ∧ x.isFinite = true

/-- The comparisons that an ordering sign stands for, alone and with an equals sign behind it. -/
inductive OrderSign : TokenKind → CompareOp → CompareOp → Prop where
  | less : OrderSign .lessThan .lessThan .lessThanOrEqual
  | greater : OrderSign .greaterThan .greaterThan .greaterThanOrEqual

inductive EqualitySign : TokenKind → CompareOp → Prop where
  | equal : EqualitySign .equals .equal
  | notEqual : EqualitySign .not .notEqual

/-- What a literal in range stands for by one of the readings of literals. -/
def Token.literalBy (token : Token) (literal? : Token → Option Literal) : Literal :=
  (literal? token).getD (.string token.text)

/-- The tokens of a term, the comparison that it makes and the literal on its right. -/
inductive IsTerm : List Token → CompareOp → Literal → Prop where
  | strict {sign operand : Token} {strict inclusive : CompareOp}
      (isSign : OrderSign sign.kind strict inclusive) (isOperand : operand.kind.IsOperand)
      (isFinite : operand.IsFinite) :
      IsTerm [sign, operand] strict (operand.literalBy orderingLiteral?)
  | inclusive {sign equals operand : Token} {strict inclusive : CompareOp}
      (isSign : OrderSign sign.kind strict inclusive) (isEquals : equals.kind = .equals)
      (isOperand : operand.kind.IsOperand) (isFinite : operand.IsFinite) :
      IsTerm [sign, equals, operand] inclusive (operand.literalBy orderingLiteral?)
  | equality {sign operand : Token} {op : CompareOp} (isSign : EqualitySign sign.kind op)
      (isOperand : operand.kind.IsOperand) (isFinite : operand.IsFinite) :
      IsTerm [sign, operand] op (operand.literalBy equalityLiteral?)
  | bare {literal : Token} (isLiteral : literal.kind.IsLiteral) (isFinite : literal.IsFinite) :
      IsTerm [literal] .equal (literal.literalBy bareLiteral?)
  | containment {dollar name operand : Token} {operation : String}
      (isDollar : dollar.kind = .dollar) (isName : name.kind = .name)
      (named : name.value = some operation)
      (isContains : equalsIgnoringCase operation.toList ['c', 'o', 'n', 't', 'a', 'i', 'n', 's'])
      (isOperand : operand.kind.IsOperand) :
      IsTerm [dollar, name, operand] .contains (operand.literalBy containmentLiteral?)

structure Term where
  tokens : List Token
  op : CompareOp
  literal : Literal
  isTerm : IsTerm tokens op literal

def Term.predicate (term : Term) (field : FieldPath) : Predicate :=
  .compare field term.op term.literal

structure Joiner where
  token : Token
  isJoiner : token.kind = .and ∨ token.kind = .or

/-- The predicate that a joiner makes of those on its two sides. -/
def Joiner.join (joiner : Joiner) (left right : Predicate) : Predicate :=
  if joiner.token.kind = .and then .and left right else .or left right

/-- The terms of a condition after the first one, each with the joiner in front of it. -/
abbrev Continuation := List (Joiner × Term)

def Continuation.tokens (continuation : Continuation) : List Token :=
  continuation.flatMap fun (joiner, term) => joiner.token :: term.tokens

@[simp]
theorem Continuation.tokens_nil : Continuation.tokens [] = [] := rfl

@[simp]
theorem Continuation.tokens_cons (joiner : Joiner) (term : Term) (continuation : Continuation) :
    Continuation.tokens ((joiner, term) :: continuation) =
      joiner.token :: (term.tokens ++ continuation.tokens) := rfl

/-- What stands on the left, joined to the terms that follow it from left to right. -/
def Continuation.predicate (continuation : Continuation) (field : FieldPath) (left : Predicate) :
    Predicate :=
  continuation.foldl (fun left (joiner, term) => joiner.join left (term.predicate field)) left

inductive Sentence where
  | empty
  | terms (first : Term) (continuation : Continuation)

def Sentence.tokens : Sentence → List Token
  | empty => []
  | terms first continuation => first.tokens ++ Continuation.tokens continuation

/-- The predicate on a field that a condition stands for, none for the empty condition. -/
def Sentence.predicate (field : FieldPath) : Sentence → Option Predicate
  | empty => none
  | terms first continuation =>
      some (Continuation.predicate continuation field (first.predicate field))

theorem floatLiteral?_eq_none {token : Token} (isFloat : token.kind = .float) :
    floatLiteral? token = none ↔ ¬token.IsFinite := by
  unfold floatLiteral? Token.IsFinite
  cases readBinary64? token.text.toList with
  | none => simp [isFloat]
  | some x =>
      cases x <;> simp [isFloat, Binary64.isFinite]

/-- A reading of literals that has a literal for every token in range. -/
def Covers (literal? : Token → Option Literal) (inRange : Token → Prop) : Prop :=
  ∀ token, literal? token = none ↔ ¬inRange token

theorem orderingLiteral?_covers : Covers orderingLiteral? Token.IsFinite := by
  intro token
  cases kind : token.kind <;>
    first
    | simpa only [orderingLiteral?, kind] using floatLiteral?_eq_none kind
    | simp [orderingLiteral?, kind, Token.IsFinite]

theorem bareLiteral?_covers : Covers bareLiteral? Token.IsFinite := by
  intro token
  cases kind : token.kind <;>
    first
    | simpa only [bareLiteral?, kind] using floatLiteral?_eq_none kind
    | simp [bareLiteral?, kind, Token.IsFinite]

theorem equalityLiteral?_covers : Covers equalityLiteral? Token.IsFinite := by
  intro token
  by_cases kind : token.kind = .string
  · simp [equalityLiteral?, kind, Token.IsFinite]
  · rw [← bareLiteral?_covers token]
    unfold equalityLiteral?
    split
    next isString => exact absurd isString kind
    next => rfl

theorem containmentLiteral?_covers : Covers containmentLiteral? fun _ => True := by
  intro token
  simp [containmentLiteral?]

namespace Covers

variable {literal? : Token → Option Literal} {inRange : Token → Prop} {token : Token}

theorem literal_eq (covers : Covers literal? inRange) (within : inRange token) :
    literal? token = some (token.literalBy literal?) := by
  cases found : literal? token with
  | none => exact absurd within ((covers token).mp found)
  | some literal => simp [Token.literalBy, found]

end Covers

end QueryPlanner.Condition
