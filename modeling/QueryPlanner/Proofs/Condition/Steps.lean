import QueryPlanner.Condition.Compile
import QueryPlanner.Proofs.Condition.Cursor
import QueryPlanner.Proofs.Condition.Grammar

/-!
# The steps of the compiler

What a step gives depends on the tokens ahead of the session.  A step gives a value, or it is
stuck at the fault of the text, or it refuses a token.
-/

namespace QueryPlanner.Condition

/-- What a step gives in a session, and the session after it. -/
def outcome {α : Type} (step : Step α) (session : Session) : Except Error α × Session :=
  step.run.run session

structure Session.Follows (session after : Session) : Prop where
  sound : after.Sound
  source : after.source = session.source

/-- The session stands at a token, with the given ones behind it. -/
structure Session.StandsAt (token : Token) (rest : List Token) (session : Session) : Prop where
  current : session.current = some token
  ahead : session.ahead = if token.kind = .eof then [token] else rest

def Session.Faces (tokens : List Token) (session : Session) : Prop :=
  session.ahead = tokens

/-- A step gives a value and leaves a session with a property. -/
def Gives {α : Type} (step : Step α) (session : Session) (value : α)
    (property : Session → Prop) : Prop :=
  ∃ after, outcome step session = (.ok value, after) ∧ session.Follows after ∧ property after

def Fails {α : Type} (step : Step α) (session : Session) (error : Error) : Prop :=
  ∃ after, outcome step session = (.error error, after) ∧ session.Follows after

/-- A step comes to the fault of the text. -/
def Stuck {α : Type} (step : Step α) (session : Session) : Prop :=
  ∃ fault, session.source.scan.2 = some fault ∧ Fails step session (.syntaxFault fault)

/-- A step comes to a token that it has no use for. -/
def Refused {α : Type} (step : Step α) (session : Session) : Prop :=
  ∃ cause, Fails step session (.unsupported cause)

theorem Session.Follows.trans {first second third : Session} (earlier : first.Follows second)
    (later : second.Follows third) : first.Follows third :=
  ⟨later.sound, later.source.trans earlier.source⟩

section Binding

variable {α β : Type} {step : Step α} {next : α → Step β} {session after : Session} {value : α}
  {result : β} {property final : Session → Prop}

theorem outcome_bind_ok (ran : outcome step session = (.ok value, after)) :
    outcome (step >>= next) session = outcome (next value) after := by
  have ranStep : step session = (.ok value, after) := ran
  simp only [outcome, ExceptT.run, StateT.run, bind, ExceptT.bind, ExceptT.mk, StateT.bind,
    ranStep, ExceptT.bindCont]

theorem outcome_bind_error {error : Error} (ran : outcome step session = (.error error, after)) :
    outcome (step >>= next) session = (.error error, after) := by
  have ranStep : step session = (.error error, after) := ran
  simp only [outcome, ExceptT.run, StateT.run, bind, ExceptT.bind, ExceptT.mk, StateT.bind,
    ranStep, ExceptT.bindCont]
  rfl

theorem Gives.pure (sound : session.Sound) (holds : property session) :
    Gives (Pure.pure value : Step α) session value property :=
  ⟨session, rfl, ⟨sound, rfl⟩, holds⟩

theorem Gives.of_outcome_eq {other : Step α} {later : Session}
    (same : outcome step session = outcome other later) (follows : session.Follows later)
    (gives : Gives other later value property) : Gives step session value property := by
  obtain ⟨after, ran, followsNext, holds⟩ := gives
  exact ⟨after, same.trans ran, follows.trans followsNext, holds⟩

theorem Stuck.of_outcome_eq {other : Step α} {later : Session}
    (same : outcome step session = outcome other later) (follows : session.Follows later)
    (stuck : Stuck other later) : Stuck step session := by
  obtain ⟨fault, scanFault, after, ran, followsNext⟩ := stuck
  exact ⟨fault, follows.source ▸ scanFault, after, same.trans ran, follows.trans followsNext⟩

theorem Refused.of_outcome_eq {other : Step α} {later : Session}
    (same : outcome step session = outcome other later) (follows : session.Follows later)
    (refused : Refused other later) : Refused step session := by
  obtain ⟨cause, after, ran, followsNext⟩ := refused
  exact ⟨cause, after, same.trans ran, follows.trans followsNext⟩

theorem Gives.bind (gives : Gives step session value property)
    (goesOn : ∀ after, session.Follows after → property after →
      Gives (next value) after result final) :
    Gives (step >>= next) session result final := by
  obtain ⟨after, ran, follows, holds⟩ := gives
  exact .of_outcome_eq (outcome_bind_ok ran) follows (goesOn after follows holds)

theorem Gives.bind_stuck (gives : Gives step session value property)
    (goesOn : ∀ after, session.Follows after → property after → Stuck (next value) after) :
    Stuck (step >>= next) session := by
  obtain ⟨after, ran, follows, holds⟩ := gives
  exact .of_outcome_eq (outcome_bind_ok ran) follows (goesOn after follows holds)

theorem Gives.bind_refused (gives : Gives step session value property)
    (goesOn : ∀ after, session.Follows after → property after → Refused (next value) after) :
    Refused (step >>= next) session := by
  obtain ⟨after, ran, follows, holds⟩ := gives
  exact .of_outcome_eq (outcome_bind_ok ran) follows (goesOn after follows holds)

theorem Stuck.bind (stuck : Stuck step session) : Stuck (step >>= next) session := by
  obtain ⟨fault, scanFault, after, ran, follows⟩ := stuck
  exact ⟨fault, scanFault, after, outcome_bind_error ran, follows⟩

theorem Refused.bind (refused : Refused step session) : Refused (step >>= next) session := by
  obtain ⟨cause, after, ran, follows⟩ := refused
  exact ⟨cause, after, outcome_bind_error ran, follows⟩

theorem Refused.refuse (sound : session.Sound) (cause : Unsupported) :
    Refused (Condition.refuse cause : Step α) session :=
  ⟨cause, session, rfl, sound, rfl⟩

end Binding

variable {session : Session} {token : Token} {rest : List Token}

theorem outcome_nextToken (session : Session) :
    outcome nextToken session = (session.next.1.mapError .syntaxFault, session.next.2) :=
  rfl

theorem nextToken_moved (sound : session.Sound) (ahead : session.ahead = token :: rest) :
    ∃ after, outcome nextToken session = (.ok token, after) ∧ session.MovedTo token rest after := by
  rcases sound.next with ⟨next, behind, after, aheadEq, ran, moved⟩ | ⟨fault, aheadEq, _⟩
  · cases ahead.symm.trans aheadEq
    refine ⟨after, ?_, moved⟩
    rw [outcome_nextToken, ran]
    rfl
  · cases ahead.symm.trans aheadEq

theorem nextToken_gives (sound : session.Sound) (ahead : session.ahead = token :: rest) :
    Gives nextToken session token (Session.StandsAt token rest) := by
  obtain ⟨after, took, moved⟩ := nextToken_moved sound ahead
  exact ⟨after, took, ⟨moved.sound, moved.source⟩, moved.current, moved.ahead⟩

theorem nextToken_stuck (sound : session.Sound) (ahead : session.ahead = []) :
    Stuck nextToken session := by
  rcases sound.next with ⟨next, behind, after, aheadEq, _⟩ | ⟨fault, aheadEq, scanFault, ran⟩
  · cases ahead.symm.trans aheadEq
  · refine ⟨fault, scanFault, session, ?_, sound, rfl⟩
    rw [outcome_nextToken, ran]
    rfl

theorem Session.StandsAt.faces (stands : session.StandsAt token rest)
    (notEnd : token.kind ≠ .eof) : session.Faces rest := by
  rw [Session.Faces, stands.ahead, if_neg notEnd]

theorem isOperand_iff : isOperand token = true ↔ token.kind.IsOperand := by
  unfold isOperand TokenKind.IsOperand TokenKind.IsLiteral
  cases token.kind <;> simp

theorem TokenKind.IsOperand.ne_eof {kind : TokenKind} (isOperand : kind.IsOperand) :
    kind ≠ .eof := by
  rintro rfl
  simp [IsOperand, IsLiteral] at isOperand

section NextLiteral

variable {operator : Token} {literal? : Token → Option Literal} {inRange : Token → Prop}

theorem nextOperand_gives (sound : session.Sound) (ahead : session.ahead = token :: rest)
    (isOperand : token.kind.IsOperand) :
    Gives (nextOperand operator) session token (Session.Faces rest) := by
  refine (nextToken_gives sound ahead).bind fun after follows stands => ?_
  rw [if_pos (isOperand_iff.mpr isOperand)]
  exact .pure follows.sound (stands.faces isOperand.ne_eof)

theorem nextLiteral_gives (sound : session.Sound) (covers : Covers literal? inRange)
    (ahead : session.ahead = token :: rest) (isOperand : token.kind.IsOperand)
    (within : inRange token) :
    Gives (nextLiteral operator literal?) session (token.literalBy literal?)
      (Session.Faces rest) := by
  refine (nextOperand_gives sound ahead isOperand).bind fun after follows faces => ?_
  rw [covers.literal_eq within]
  exact .pure follows.sound faces

theorem nextLiteral_stuck (sound : session.Sound) (ahead : session.ahead = []) :
    Stuck (nextLiteral operator literal?) session :=
  (nextToken_stuck sound ahead).bind.bind

theorem nextLiteral_refused (sound : session.Sound) (covers : Covers literal? inRange)
    (ahead : session.ahead = token :: rest)
    (unfit : ¬(token.kind.IsOperand ∧ inRange token)) :
    Refused (nextLiteral operator literal?) session := by
  by_cases isOperand : token.kind.IsOperand
  · refine (nextOperand_gives sound ahead isOperand).bind_refused fun after follows faces => ?_
    rw [(covers token).mpr fun within => unfit ⟨isOperand, within⟩]
    exact .refuse follows.sound _
  · refine Refused.bind ((nextToken_gives sound ahead).bind_refused fun after follows stands => ?_)
    rw [if_neg (mt isOperand_iff.mp isOperand)]
    exact .refuse follows.sound _

end NextLiteral

section OrEqual

variable {sign : Token} {strict inclusive : CompareOp}

theorem orEqual_inclusive (sound : session.Sound) (ahead : session.ahead = token :: rest)
    (isEquals : token.kind = .equals) :
    Gives (orEqual strict inclusive) session inclusive (Session.Faces rest) := by
  refine (nextToken_gives sound ahead).bind fun after follows stands => ?_
  rw [if_pos isEquals]
  exact .pure follows.sound (stands.faces (by simp [isEquals]))

theorem orEqual_strict (sound : session.Sound) (current : session.current = some sign)
    (notEnd : sign.kind ≠ .eof) (ahead : session.ahead = token :: rest)
    (notEquals : token.kind ≠ .equals) :
    Gives (orEqual strict inclusive) session strict (Session.Faces (token :: rest)) := by
  obtain ⟨after, took, moved⟩ := nextToken_moved sound ahead
  obtain ⟨backSound, backSource, _, backAhead⟩ := moved.back sound current notEnd
  refine ⟨after.back.2, ?_, ⟨backSound, backSource⟩, backAhead.trans ahead⟩
  rw [orEqual, outcome_bind_ok took, if_neg notEquals]
  rfl

theorem orEqual_stuck (sound : session.Sound) (ahead : session.ahead = []) :
    Stuck (orEqual strict inclusive) session :=
  (nextToken_stuck sound ahead).bind

end OrEqual

end QueryPlanner.Condition
