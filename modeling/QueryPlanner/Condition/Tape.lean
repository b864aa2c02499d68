import QueryPlanner.Condition.Token

/-!
Tokens that have been read, and a cursor among them.  The tape only grows; going back moves the
cursor alone.
-/

namespace QueryPlanner.Condition

/-- The tokens read so far and the index of the current one, of which there is none at first. -/
structure Tape where
  tokens : List Token := []
  cursor : Option Nat := none
  deriving DecidableEq

namespace Tape

def current (tape : Tape) : Option Token :=
  tape.cursor.bind fun index => tape.tokens[index]?

/-- The offset from which the next token has to be read. -/
def resumeOffset (tape : Tape) : Nat :=
  (tape.tokens.getLast?.map Token.stop).getD 0

/-- Moves to the next token of the tape, if there is one. -/
def advance (tape : Tape) : Option Token × Tape :=
  let next := (tape.cursor.map (· + 1)).getD 0
  match tape.tokens[next]? with
  | some token => (some token, { tape with cursor := some next })
  | none => (none, tape)

def push (tape : Tape) (token : Token) : Tape :=
  ⟨tape.tokens ++ [token], some tape.tokens.length⟩

def back (tape : Tape) : Option Token × Tape :=
  match tape.cursor with
  | some (index + 1) => (tape.tokens[index]?, { tape with cursor := some index })
  | _ => (none, tape)

end Tape

end QueryPlanner.Condition
