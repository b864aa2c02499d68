import QueryPlanner.Condition.Session
import QueryPlanner.Proofs.Condition.Chain

/-!
# The tokens ahead of a session

The tape of a session is a front part of the tokens of its source, whatever steps were taken.  So
the tokens that a session comes to next depend on its source and its cursor alone: moving forward
takes the first of them, and moving back after that gives it back.
-/

namespace QueryPlanner.Condition

def Tape.upcoming (tape : Tape) : Nat :=
  (tape.cursor.map (· + 1)).getD 0

theorem Tape.advance_of_some {tape : Tape} {token : Token}
    (found : tape.tokens[tape.upcoming]? = some token) :
    tape.advance = (some token, { tape with cursor := some tape.upcoming }) := by
  unfold Tape.upcoming at found ⊢
  simp only [Tape.advance, found]

theorem Tape.advance_of_none {tape : Tape} (notFound : tape.tokens[tape.upcoming]? = none) :
    tape.advance = (none, tape) := by
  unfold Tape.upcoming at notFound
  simp only [Tape.advance, notFound]

namespace Session

/-- The tape is a front part of the tokens of the source, and the cursor does not point beyond
it. -/
structure Sound (session : Session) : Prop where
  front : session.tape.tokens <+: session.source.scan.1
  within : session.tape.upcoming ≤ session.tape.tokens.length

/-- The tokens that a session comes to next, in order, up to the end of the text or a fault.  The
end of the text comes again after itself. -/
def ahead (session : Session) : List Token :=
  let rest := session.source.scan.1.drop session.tape.upcoming
  match session.current with
  | some token => if token.kind = .eof then [token] else rest
  | none => rest

variable {session after : Session} {token : Token} {rest : List Token}

theorem Sound.start (source : Source) : (Session.start source).Sound :=
  ⟨List.nil_prefix, Nat.le_refl 0⟩

theorem ahead_start (source : Source) : (Session.start source).ahead = source.scan.1 := by
  simp [ahead, Session.start, current, Tape.current, Tape.upcoming]

theorem Sound.current_eq (sound : session.Sound) :
    session.current = session.tape.cursor.bind fun index => session.source.scan.1[index]? := by
  unfold current Tape.current
  cases cursorEq : session.tape.cursor with
  | none => rfl
  | some index =>
      have within := sound.within
      simp only [Tape.upcoming, cursorEq, Option.map_some, Option.getD_some] at within
      obtain ⟨unread, tokensEq⟩ := sound.front
      rw [Option.bind_some, Option.bind_some, ← tokensEq, List.getElem?_append_left (by omega)]

theorem Sound.congr (sound : session.Sound) (afterSound : after.Sound)
    (source : after.source = session.source) (cursor : after.tape.cursor = session.tape.cursor) :
    after.current = session.current ∧ after.ahead = session.ahead := by
  have currentEq : after.current = session.current := by
    rw [sound.current_eq, afterSound.current_eq, source, cursor]
  refine ⟨currentEq, ?_⟩
  rw [ahead, ahead, currentEq, source, Tape.upcoming, Tape.upcoming, cursor]

theorem ahead_of_not_end (notEnd : ∀ token ∈ session.current, token.kind ≠ .eof) :
    session.ahead = session.source.scan.1.drop session.tape.upcoming := by
  unfold ahead
  split
  next token current => rw [if_neg (notEnd token current)]
  next => rfl

theorem ahead_of_end (current : session.current = some token) (isEnd : token.kind = .eof) :
    session.ahead = [token] := by
  simp only [ahead, current, if_pos isEnd]

theorem Sound.upcoming_of_end (sound : session.Sound) (current : session.current = some token)
    (isEnd : token.kind = .eof) : session.source.scan.1.drop session.tape.upcoming = [] := by
  rw [sound.current_eq] at current
  obtain ⟨index, cursor, found⟩ := Option.bind_eq_some_iff.mp current
  obtain ⟨bound, tokenEq⟩ := List.getElem?_eq_some_iff.mp found
  have split : session.source.scan.1 = session.source.scan.1.take index ++
      token :: session.source.scan.1.drop (index + 1) := by
    rw [← tokenEq, ← List.drop_eq_getElem_cons bound, List.take_append_drop]
  have chain := session.source.chain_scan
  rw [split] at chain
  have upcoming : session.tape.upcoming = index + 1 := by
    simp [Tape.upcoming, cursor]
  rw [upcoming]
  exact (chain.eof_last isEnd).1

/-- A session after it has moved on to the first of the tokens ahead of it. -/
structure MovedTo (session : Session) (token : Token) (rest : List Token) (after : Session) :
    Prop where
  sound : after.Sound
  source : after.source = session.source
  current : after.current = some token
  ahead : after.ahead = if token.kind = .eof then [token] else rest
  cursor : (∀ before ∈ session.current, before.kind ≠ .eof) →
    after.tape.cursor = some session.tape.upcoming

theorem movedTo_of_front (tokens : List Token) (front : tokens <+: session.source.scan.1)
    (longer : session.tape.upcoming < tokens.length)
    (found : session.source.scan.1.drop session.tape.upcoming = token :: rest) :
    session.MovedTo token rest
      ⟨session.source, ⟨tokens, some session.tape.upcoming⟩⟩ := by
  have afterSound : Sound ⟨session.source, ⟨tokens, some session.tape.upcoming⟩⟩ :=
    ⟨front, longer⟩
  have current : Session.current ⟨session.source, ⟨tokens, some session.tape.upcoming⟩⟩ =
      some token := by
    rw [afterSound.current_eq, Option.bind_some, ← List.head?_drop, found, List.head?_cons]
  refine ⟨afterSound, rfl, current, ?_, fun _ => rfl⟩
  split
  next isEnd => exact ahead_of_end current isEnd
  next notEnd =>
    rw [ahead_of_not_end (by simpa [current] using notEnd)]
    have behind : session.source.scan.1.drop (session.tape.upcoming + 1) = rest := by
      rw [← List.drop_drop, found, List.drop_one, List.tail_cons]
    simpa [Tape.upcoming] using behind

theorem Sound.resume (sound : session.Sound) (notEnd : ∀ token ∈ session.current, token.kind ≠ .eof)
    (atEnd : session.tape.tokens[session.tape.upcoming]? = none) :
    session.source.Chain session.tape.resumeOffset
      (session.source.scan.1.drop session.tape.upcoming) session.source.scan.2 := by
  have within := sound.within
  have beyond := List.getElem?_eq_none_iff.mp atEnd
  obtain ⟨unread, tokensEq⟩ := sound.front
  have dropped : session.source.scan.1.drop session.tape.upcoming = unread := by
    rw [← tokensEq, List.drop_append_of_le_length within, List.drop_of_length_le beyond,
      List.nil_append]
  have lastNotEnd : ∀ token ∈ session.tape.tokens.getLast?, token.kind ≠ .eof := by
    intro token isLast
    -- Nothing comes next on the tape, so its last token is the one at the cursor.
    apply notEnd token
    cases cursorEq : session.tape.cursor with
    | none =>
        have empty : session.tape.tokens = [] :=
          List.eq_nil_of_length_eq_zero (by simpa [Tape.upcoming, cursorEq] using beyond)
        simp [empty] at isLast
    | some index =>
        have lastIndex : session.tape.tokens.length - 1 = index := by
          simp only [Tape.upcoming, cursorEq, Option.map_some, Option.getD_some] at within beyond
          omega
        rw [List.getLast?_eq_getElem?, lastIndex] at isLast
        simpa [Session.current, Tape.current, cursorEq] using isLast
  have chain := session.source.chain_scan
  rw [← tokensEq] at chain
  rw [dropped]
  exact chain.resume lastNotEnd

theorem Sound.push (sound : session.Sound)
    (atEnd : session.tape.tokens[session.tape.upcoming]? = none)
    (found : session.source.scan.1.drop session.tape.upcoming = token :: rest) :
    session.MovedTo token rest { session with tape := session.tape.push token } := by
  have upcoming : session.tape.upcoming = session.tape.tokens.length :=
    Nat.le_antisymm sound.within (List.getElem?_eq_none_iff.mp atEnd)
  obtain ⟨unread, tokensEq⟩ := sound.front
  have unreadEq : unread = token :: rest := by
    rw [← found, upcoming, ← tokensEq, List.drop_left]
  have moved := movedTo_of_front (session.tape.tokens ++ [token])
    ⟨rest, by rw [← tokensEq, unreadEq, List.append_assoc, List.singleton_append]⟩
    (by simp [upcoming]) found
  rwa [upcoming] at moved

/-- Moving on takes the first of the tokens ahead, or fails with the fault that lies there. -/
theorem Sound.next (sound : session.Sound) :
    (∃ token rest after, session.ahead = token :: rest ∧ session.next = (.ok token, after) ∧
      session.MovedTo token rest after) ∨
    (∃ fault, session.ahead = [] ∧ session.source.scan.2 = some fault ∧
      session.next = (.error fault, session)) := by
  by_cases atEnd : ∃ token, session.current = some token ∧ token.kind = .eof
  · obtain ⟨token, current, isEnd⟩ := atEnd
    have noMore : session.tape.tokens[session.tape.upcoming]? = none := by
      have dropped := List.drop_eq_nil_iff.mp (sound.upcoming_of_end current isEnd)
      exact List.getElem?_eq_none_iff.mpr (sound.front.length_le.trans dropped)
    refine .inl ⟨token, [], session, ahead_of_end current isEnd, ?_, sound, rfl, current, ?_, ?_⟩
    · simp only [Session.next, Tape.advance_of_none noMore, current, if_pos isEnd]
    · rw [if_pos isEnd, ahead_of_end current isEnd]
    · exact fun notEnd => absurd isEnd (notEnd token current)
  · have notEnd : ∀ token ∈ session.current, token.kind ≠ .eof :=
      fun token current isEnd => atEnd ⟨token, current, isEnd⟩
    rw [ahead_of_not_end notEnd]
    cases tapeEq : session.tape.tokens[session.tape.upcoming]? with
    | some token =>
        obtain ⟨bound, tokenEq⟩ := List.getElem?_eq_some_iff.mp tapeEq
        have found : session.source.scan.1.drop session.tape.upcoming =
            token :: session.source.scan.1.drop (session.tape.upcoming + 1) := by
          rw [List.drop_eq_getElem_cons (Nat.lt_of_lt_of_le bound sound.front.length_le),
            ← sound.front.getElem bound, tokenEq]
        refine .inl ⟨token, _, _, found, ?_, movedTo_of_front _ sound.front bound found⟩
        simp only [Session.next, Tape.advance_of_some tapeEq]
    | none =>
        have extended : session.next = session.extend := by
          simp only [Session.next, Tape.advance_of_none tapeEq]
          split
          next token current => rw [if_neg (notEnd token current)]
          next => rfl
        have resumed := sound.resume notEnd tapeEq
        have pushed : ∀ token rest,
            session.source.scan.1.drop session.tape.upcoming = token :: rest →
              session.MovedTo token rest { session with tape := session.tape.push token } :=
          fun token rest found => sound.push tapeEq found
        rw [extended]
        generalize session.source.scan.1.drop session.tape.upcoming = tokens at resumed pushed
        generalize session.source.scan.2 = scanFault at resumed
        cases resumed with
        | finish read _ =>
            exact .inl ⟨_, _, _, rfl, by simp only [extend, read], pushed _ _ rfl⟩
        | step read _ _ =>
            exact .inl ⟨_, _, _, rfl, by simp only [extend, read], pushed _ _ rfl⟩
        | stuck failed => exact .inr ⟨_, rfl, rfl, by simp only [extend, failed]⟩

theorem back_of_cursor {index : Nat} (cursor : session.tape.cursor = some (index + 1)) :
    session.back.2 = { session with tape := { session.tape with cursor := some index } } := by
  simp only [Session.back, Tape.back, cursor]

theorem Sound.back (sound : session.Sound) : session.back.2.Sound := by
  cases cursor : session.tape.cursor with
  | none => simpa only [Session.back, Tape.back, cursor] using sound
  | some index =>
      cases index with
      | zero => simpa only [Session.back, Tape.back, cursor] using sound
      | succ index =>
          have within := sound.within
          rw [back_of_cursor cursor]
          refine ⟨sound.front, ?_⟩
          simp only [Tape.upcoming, cursor, Option.map_some, Option.getD_some] at within ⊢
          omega

/-- Moving back after moving on returns to where the session stood, if that was at a token before
the end of the text. -/
theorem MovedTo.back (moved : session.MovedTo token rest after) (sound : session.Sound)
    {before : Token} (current : session.current = some before) (notEnd : before.kind ≠ .eof) :
    after.back.2.Sound ∧ after.back.2.source = session.source ∧
      after.back.2.current = some before ∧ after.back.2.ahead = session.ahead := by
  obtain ⟨index, cursor, _⟩ := Option.bind_eq_some_iff.mp current
  have afterCursor : after.tape.cursor = some (index + 1) := by
    rw [moved.cursor (by simpa [current] using notEnd), Tape.upcoming, cursor]
    rfl
  have sourceEq : after.back.2.source = session.source := by
    rw [back_of_cursor afterCursor, ← moved.source]
  have same := sound.congr moved.sound.back sourceEq (by rw [back_of_cursor afterCursor, cursor])
  exact ⟨moved.sound.back, sourceEq, same.1.trans current, same.2⟩

end Session

end QueryPlanner.Condition
