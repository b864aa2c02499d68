/-!
Tokens of condition text.
-/

namespace QueryPlanner.Condition

inductive TokenKind where
  | eof
  | bang
  | dollar
  | parenL
  | parenR
  | spread
  | colon
  | equals
  | at
  | bracketL
  | bracketR
  | braceL
  | braceR
  | pipe
  | name
  | int
  | float
  | string
  | comma
  | lessThan
  | greaterThan
  | and
  | or
  | not
  | boolean
  deriving DecidableEq

namespace TokenKind

def description : TokenKind → String
  | eof => "EOF"
  | bang => "!"
  | dollar => "$"
  | parenL => "("
  | parenR => ")"
  | spread => "..."
  | colon => ":"
  | equals => "="
  | «at» => "@"
  | bracketL => "["
  | bracketR => "]"
  | braceL => "\x7b"
  | braceR => "\x7d"
  | pipe => "|"
  | name => "Name"
  | int => "Int"
  | float => "Float"
  | string => "String"
  | comma => ","
  | lessThan => "<"
  | greaterThan => ">"
  | and => "&&"
  | or => "||"
  | not => "!="
  | boolean => "Boolean"

/-- Whether a token of this kind closes a condition.  All of them but the end of the text belong
to whatever surrounds the condition. -/
def endsCondition : TokenKind → Bool
  | eof | comma | braceL | braceR => true
  | _ => false

end TokenKind

structure Token where
  kind : TokenKind
  /-- The decoded value of names, numbers, strings and booleans. -/
  value : Option String
  start : Nat
  stop : Nat
  deriving DecidableEq

namespace Token

def eof (offset : Nat) : Token :=
  ⟨.eof, none, offset, offset⟩

def punctuation (kind : TokenKind) (start length : Nat) : Token :=
  ⟨kind, none, start, start + length⟩

/-- A token in a message: its kind, and its value if it has one. -/
def display (token : Token) : String :=
  match token.value with
  | some value => token.kind.description ++ " \"" ++ value ++ "\""
  | none => token.kind.description

/-- The value of a token, empty where it has none. -/
def text (token : Token) : String :=
  token.value.getD ""

end Token

end QueryPlanner.Condition
