import QueryPlanner.Condition.Scan
import QueryPlanner.Condition.Tape

/-!
Walking over the tokens of one condition text, forward and backward.  Tokens are read when they
are first asked for, and never twice.
-/

namespace QueryPlanner.Condition

/-- A condition text and the tokens read from it so far. -/
structure Session where
  source : Source
  tape : Tape
  deriving DecidableEq

namespace Session

def start (source : Source) : Session :=
  ⟨source, {}⟩

def current (session : Session) : Option Token :=
  session.tape.current

def extend (session : Session) : Except SyntaxFault Token × Session :=
  match session.source.tokenAt session.tape.resumeOffset with
  | .ok token => (.ok token, { session with tape := session.tape.push token })
  | .error fault => (.error fault, session)

/-- Moves to the next token.  The end of the text is its own next token, and a fault leaves the
session where it is. -/
def next (session : Session) : Except SyntaxFault Token × Session :=
  match session.tape.advance with
  | (some token, tape) => (.ok token, { session with tape })
  | (none, _) =>
      match session.current with
      | some token => if token.kind = .eof then (.ok token, session) else session.extend
      | none => session.extend

def back (session : Session) : Option Token × Session :=
  let (token, tape) := session.tape.back
  (token, { session with tape })

end Session

end QueryPlanner.Condition
