import QueryPlanner.Proofs.Condition.Cursor

/-!
# Walks over the tokens of a source

A session reads a token when it first comes to it.  It answers all the same as a cursor over the
complete list of tokens does, and its tape is always a front part of that list.
-/

namespace QueryPlanner.Condition

/-- What a session can be asked for. -/
inductive Move where
  | next
  | back
  | current

/-- A token, no token, or the fault in its place. -/
abbrev Answer := Except SyntaxFault (Option Token)

/-- The answers to moves that are made one after the other, and the state that they lead to. -/
def answersTo {State : Type} (step : State → Move → Answer × State) :
    State → List Move → List Answer × State
  | state, [] => ([], state)
  | state, move :: moves =>
      let (answer, middle) := step state move
      let (answers, last) := answersTo step middle moves
      (answer :: answers, last)

def Session.step (session : Session) : Move → Answer × Session
  | .next => (session.next.1.map some, session.next.2)
  | .back => (.ok session.back.1, session.back.2)
  | .current => (.ok session.current, session)

/-- The tokens of a source, the end of the text among them, or those before its first fault. -/
structure Listing where
  tokens : List Token
  fault : Option SyntaxFault

namespace Listing

def ofSource (source : Source) : Listing :=
  ⟨source.scan.1, source.scan.2⟩

/-- The token at a place, of which there is none before the first token. -/
def tokenAt (listing : Listing) (place : Option Nat) : Option Token :=
  place.bind fun index => listing.tokens[index]?

/-- The index behind a place. -/
def following (place : Option Nat) : Nat :=
  (place.map (· + 1)).getD 0

/-- One move of a cursor.  It stays where it is if it comes to a fault or stands at the last token,
which is the end of the text if there is no fault. -/
def step (listing : Listing) (place : Option Nat) : Move → Answer × Option Nat
  | .next =>
      match listing.tokens[following place]?, listing.fault with
      | some token, _ => (.ok (some token), some (following place))
      | none, some fault => (.error fault, place)
      | none, none => (.ok (listing.tokenAt place), place)
  | .back =>
      match place with
      | some (index + 1) => (.ok listing.tokens[index]?, some index)
      | _ => (.ok none, place)
  | .current => (.ok (listing.tokenAt place), place)

end Listing

namespace Session

/-- A session stands at a place of the tokens of a source. -/
structure IsAt (session : Session) (source : Source) (place : Option Nat) : Prop where
  sound : session.Sound
  source_eq : session.source = source
  cursor_eq : session.tape.cursor = place
  /-- Only a session that has read nothing stands before the first token. -/
  empty : place = none → session.tape.tokens = []

variable {session : Session} {source : Source} {place : Option Nat}

theorem isAt_start (source : Source) : (Session.start source).IsAt source none :=
  ⟨.start source, rfl, rfl, fun _ => rfl⟩

namespace IsAt

theorem current_eq (isAt : session.IsAt source place) :
    session.current = (Listing.ofSource source).tokenAt place := by
  rw [isAt.sound.current_eq, isAt.cursor_eq, isAt.source_eq]
  rfl

theorem following_eq (isAt : session.IsAt source place) :
    Listing.following place = session.tape.upcoming := by
  rw [← isAt.cursor_eq]
  rfl

theorem step_next_of_end (isAt : session.IsAt source place) {token : Token}
    (current : session.current = some token) (isEnd : token.kind = .eof) :
    (Listing.ofSource source).step place .next = (.ok (some token), place) := by
  have noMore := isAt.sound.upcoming_of_end current isEnd
  rw [isAt.source_eq, ← isAt.following_eq, List.drop_eq_nil_iff] at noMore
  have noFault : source.scan.2 = none := by
    have membership : token ∈ source.scan.1 := by
      rw [isAt.current_eq] at current
      obtain ⟨index, _, found⟩ := Option.bind_eq_some_iff.mp current
      exact List.mem_of_getElem? found
    obtain ⟨before, behind, split⟩ := List.append_of_mem membership
    have chain := source.chain_scan
    rw [split] at chain
    exact (chain.eof_last isEnd).2
  simp only [Listing.step, Listing.ofSource, List.getElem?_eq_none noMore, noFault]
  rw [← current, isAt.current_eq]
  rfl

theorem cursor_of_end {after : Session} (isAt : session.IsAt source place)
    (afterSound : after.Sound) (sourceEq : after.source = source) {token other : Token}
    (current : session.current = some token) (isEnd : token.kind = .eof)
    (afterCurrent : after.current = some other) (otherIsEnd : other.kind = .eof) :
    after.tape.cursor = place := by
  have noMore := isAt.sound.upcoming_of_end current isEnd
  have afterNoMore := afterSound.upcoming_of_end afterCurrent otherIsEnd
  rw [isAt.sound.current_eq] at current
  rw [afterSound.current_eq] at afterCurrent
  obtain ⟨index, cursor, found⟩ := Option.bind_eq_some_iff.mp current
  obtain ⟨afterIndex, afterCursor, afterFound⟩ := Option.bind_eq_some_iff.mp afterCurrent
  have within := (List.getElem?_eq_some_iff.mp found).1
  have afterWithin := (List.getElem?_eq_some_iff.mp afterFound).1
  rw [isAt.source_eq, List.drop_eq_nil_iff, Tape.upcoming, cursor] at noMore
  rw [sourceEq, List.drop_eq_nil_iff, Tape.upcoming, afterCursor] at afterNoMore
  rw [isAt.source_eq] at within
  rw [sourceEq] at afterWithin
  simp only [Option.map_some, Option.getD_some] at noMore afterNoMore
  rw [← isAt.cursor_eq, cursor, afterCursor]
  congr 1
  omega

theorem of_current {after : Session} {token : Token} (sound : after.Sound)
    (sourceEq : after.source = source) (current : after.current = some token)
    (cursor : after.tape.cursor = place) : after.IsAt source place := by
  refine ⟨sound, sourceEq, cursor, fun unset => ?_⟩
  obtain ⟨index, set, _⟩ := Option.bind_eq_some_iff.mp current
  rw [cursor, unset] at set
  cases set

theorem next (isAt : session.IsAt source place) :
    (session.step .next).1 = ((Listing.ofSource source).step place .next).1 ∧
      (session.step .next).2.IsAt source ((Listing.ofSource source).step place .next).2 := by
  by_cases atEnd : ∃ token, session.current = some token ∧ token.kind = .eof
  · obtain ⟨token, current, isEnd⟩ := atEnd
    rw [isAt.step_next_of_end current isEnd]
    rcases isAt.sound.next with ⟨other, rest, after, ahead, ran, moved⟩ | ⟨fault, ahead, _⟩
    · rw [ahead_of_end current isEnd] at ahead
      cases ahead
      have sourceEq := moved.source.trans isAt.source_eq
      simp only [step, ran]
      refine ⟨rfl, of_current moved.sound sourceEq moved.current ?_⟩
      exact isAt.cursor_of_end moved.sound sourceEq current isEnd moved.current isEnd
    · rw [ahead_of_end current isEnd] at ahead
      cases ahead
  · have notEnd : ∀ token ∈ session.current, token.kind ≠ .eof :=
      fun token current isEnd => atEnd ⟨token, current, isEnd⟩
    have aheadEq := ahead_of_not_end notEnd
    rw [isAt.source_eq, ← isAt.following_eq] at aheadEq
    rcases isAt.sound.next with ⟨token, rest, after, ahead, ran, moved⟩ | ⟨fault, ahead, failed, ran⟩
    · have found : source.scan.1[Listing.following place]? = some token := by
        rw [← List.head?_drop, ← aheadEq, ahead, List.head?_cons]
      simp only [step, ran, Listing.step, Listing.ofSource, found]
      refine ⟨rfl, of_current moved.sound (moved.source.trans isAt.source_eq) moved.current ?_⟩
      rw [moved.cursor notEnd, isAt.following_eq]
    · have notFound : source.scan.1[Listing.following place]? = none := by
        rw [← List.head?_drop, ← aheadEq, ahead, List.head?_nil]
      rw [isAt.source_eq] at failed
      simp only [step, ran, Listing.step, Listing.ofSource, notFound, failed]
      exact ⟨rfl, isAt⟩

theorem back (isAt : session.IsAt source place) :
    (session.step .back).1 = ((Listing.ofSource source).step place .back).1 ∧
      (session.step .back).2.IsAt source ((Listing.ofSource source).step place .back).2 := by
  have cursor := isAt.cursor_eq
  have soundBack := isAt.sound.back
  cases place with
  | none =>
      simp only [step, Listing.step, Session.back, Tape.back, cursor]
      exact ⟨trivial, isAt⟩
  | some index =>
      cases index with
      | zero =>
          simp only [step, Listing.step, Session.back, Tape.back, cursor]
          exact ⟨trivial, isAt⟩
      | succ index =>
          have within := isAt.sound.within
          simp only [Tape.upcoming, cursor, Option.map_some, Option.getD_some] at within
          obtain ⟨unread, tokensEq⟩ := isAt.sound.front
          rw [isAt.source_eq] at tokensEq
          have found : session.tape.tokens[index]? = source.scan.1[index]? := by
            rw [← tokensEq, List.getElem?_append_left (by omega)]
          rw [back_of_cursor cursor] at soundBack
          simp only [step, Listing.step, Listing.ofSource, back_of_cursor cursor]
          refine ⟨?_, soundBack, isAt.source_eq, rfl, ?_⟩
          · simp only [Session.back, Tape.back, cursor, found]
          · rintro ⟨⟩

/-- A move is answered alike from the same place, and leads to the same place. -/
theorem step (isAt : session.IsAt source place) (move : Move) :
    (session.step move).1 = ((Listing.ofSource source).step place move).1 ∧
      (session.step move).2.IsAt source ((Listing.ofSource source).step place move).2 := by
  cases move with
  | next => exact isAt.next
  | back => exact isAt.back
  | current => exact ⟨congrArg Except.ok isAt.current_eq, isAt⟩

theorem answersTo (isAt : session.IsAt source place) (moves : List Move) :
    (answersTo Session.step session moves).1 =
        (answersTo (Listing.ofSource source).step place moves).1 ∧
      (answersTo Session.step session moves).2.IsAt source
        (answersTo (Listing.ofSource source).step place moves).2 := by
  induction moves generalizing session place with
  | nil => exact ⟨rfl, isAt⟩
  | cons move moves inductionHypothesis =>
      obtain ⟨sameAnswer, isAtMiddle⟩ := isAt.step move
      obtain ⟨sameAnswers, isAtLast⟩ := inductionHypothesis isAtMiddle
      exact ⟨List.cons_eq_cons.mpr ⟨sameAnswer, sameAnswers⟩, isAtLast⟩

theorem cursor_within (isAt : session.IsAt source place) :
    (session.tape.cursor = none ↔ session.tape.tokens = []) ∧
      ∀ index ∈ session.tape.cursor, index < session.tape.tokens.length := by
  have within : ∀ index ∈ session.tape.cursor, index < session.tape.tokens.length := by
    intro index cursor
    have upcoming := isAt.sound.within
    rw [Tape.upcoming, Option.mem_def.mp cursor] at upcoming
    exact upcoming
  refine ⟨⟨fun unset => isAt.empty (isAt.cursor_eq.symm.trans unset), fun noTokens => ?_⟩, within⟩
  apply Option.eq_none_iff_forall_not_mem.mpr
  intro index cursor
  have impossible := within index cursor
  rw [noTokens] at impossible
  cases impossible

end IsAt

theorem tokens_prefix_extend (session : Session) :
    session.tape.tokens <+: session.extend.2.tape.tokens := by
  unfold extend
  split
  next token read => exact List.prefix_append session.tape.tokens [token]
  next fault failed => exact List.prefix_rfl

theorem tokens_prefix_step (session : Session) (move : Move) :
    session.tape.tokens <+: (session.step move).2.tape.tokens := by
  cases move with
  | next =>
      simp only [step, Session.next]
      cases advanced : session.tape.tokens[session.tape.upcoming]? with
      | some token => rw [Tape.advance_of_some advanced]
      | none =>
          rw [Tape.advance_of_none advanced]
          dsimp only
          split
          next =>
            split
            next => exact List.prefix_rfl
            next => exact session.tokens_prefix_extend
          next => exact session.tokens_prefix_extend
  | back =>
      simp only [step, Session.back, Tape.back]
      split
      next => exact List.prefix_rfl
      next => exact List.prefix_rfl
  | current => exact List.prefix_rfl

theorem tokens_prefix_answersTo (session : Session) (moves : List Move) :
    session.tape.tokens <+: (Condition.answersTo step session moves).2.tape.tokens := by
  induction moves generalizing session with
  | nil => exact List.prefix_rfl
  | cons move moves inductionHypothesis =>
      exact (session.tokens_prefix_step move).trans (inductionHypothesis _)

end Session

theorem answersTo_append {State : Type} (step : State → Move → Answer × State) (state : State)
    (moves more : List Move) :
    (answersTo step state (moves ++ more)).2 =
      (answersTo step (answersTo step state moves).2 more).2 := by
  induction moves generalizing state with
  | nil => rfl
  | cons move moves inductionHypothesis => exact inductionHypothesis _

/-- Whatever moves a new session is asked for, it answers as a cursor over the chain of all tokens
does.  Its tape is a front part of them that only grows, and its cursor is within it. -/
theorem session_walks_listing (source : Source) (moves : List Move) :
    source.Chain 0 (Listing.ofSource source).tokens (Listing.ofSource source).fault ∧
      let walked := answersTo Session.step (.start source) moves
      let expected := answersTo (Listing.ofSource source).step none moves
      walked.1 = expected.1 ∧ walked.2.tape.cursor = expected.2 ∧
        walked.2.tape.tokens <+: (Listing.ofSource source).tokens ∧
        (walked.2.tape.cursor = none ↔ walked.2.tape.tokens = []) ∧
        (∀ index ∈ walked.2.tape.cursor, index < walked.2.tape.tokens.length) ∧
        ∀ more, walked.2.tape.tokens <+:
          (answersTo Session.step (.start source) (moves ++ more)).2.tape.tokens := by
  refine ⟨source.chain_scan, ?_⟩
  obtain ⟨sameAnswers, isAt⟩ := (Session.isAt_start source).answersTo moves
  have front := isAt.sound.front
  rw [isAt.source_eq] at front
  refine ⟨sameAnswers, isAt.cursor_eq, front, isAt.cursor_within.1, isAt.cursor_within.2, ?_⟩
  intro more
  rw [answersTo_append]
  exact Session.tokens_prefix_answersTo _ more

end QueryPlanner.Condition
