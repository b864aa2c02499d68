import QueryPlanner.Proofs.Condition.Term

/-!
# Recognition of conditions

In every session that can be reached, the compiler accepts the conditions of the grammar and no
others, gives the predicate that they stand for and leaves the session at the token behind them.
-/

namespace QueryPlanner.Condition

variable {session : Session} {terminator : Token} {rest : List Token} {field : FieldPath}

/-- The number of tokens ahead before the end of the text. -/
def Session.pending (session : Session) : Nat :=
  session.ahead.countP fun token => token.kind ≠ .eof

theorem Session.pending_le (session : Session) :
    session.pending ≤ session.source.body.length := by
  unfold Session.pending
  by_cases atEnd : ∃ token, session.current = some token ∧ token.kind = .eof
  · obtain ⟨token, current, isEnd⟩ := atEnd
    simp [Session.ahead_of_end current isEnd, isEnd]
  · rw [Session.ahead_of_not_end fun token current isEnd => atEnd ⟨token, current, isEnd⟩]
    calc _ ≤ session.source.scan.1.countP fun token => token.kind ≠ .eof :=
          (List.drop_sublist _ _).countP_le
      _ ≤ session.source.body.length :=
          session.source.chain_scan.count_le (by simp [Text.dropBytes])

theorem joiner?_joiner (joiner : Joiner) : joiner? joiner.token = some joiner.join := by
  have joinEq : joiner.join = if joiner.token.kind = .and then .and else .or := by
    funext left right
    unfold Joiner.join
    split <;> rfl
  rcases joiner.isJoiner with isAnd | isOr
  · simp [joiner?, joinEq, isAnd]
  · simp [joiner?, joinEq, isOr]

theorem exists_joiner {token : Token} {join : Predicate → Predicate → Predicate}
    (joins : joiner? token = some join) :
    ∃ joiner : Joiner, joiner.token = token ∧ joiner.join = join := by
  have isJoiner : token.kind = .and ∨ token.kind = .or := by
    unfold joiner? at joins
    split at joins
    next isAnd => exact .inl isAnd
    next isOr => exact .inr isOr
    next => cases joins
  refine ⟨⟨token, isJoiner⟩, rfl, ?_⟩
  exact Option.some.inj ((joiner?_joiner ⟨token, isJoiner⟩).symm.trans joins)

theorem Joiner.not_endsCondition (joiner : Joiner) :
    joiner.token.kind.endsCondition = false := by
  rcases joiner.isJoiner with isAnd | isOr
  · rw [isAnd]
    rfl
  · rw [isOr]
    rfl

theorem ne_eof_of_continues {kind : TokenKind} (continues : kind.endsCondition = false) :
    kind ≠ .eof := by
  rintro rfl
  cases continues

theorem Joiner.not_eof (joiner : Joiner) : joiner.token.kind ≠ .eof :=
  ne_eof_of_continues joiner.not_endsCondition

section ReadNext

variable {before : Option Predicate} {left : Predicate} {joiner : Joiner} {first : Token}

theorem readNext_end (sound : session.Sound) (ahead : session.ahead = terminator :: rest)
    (ends : terminator.kind.endsCondition = true) :
    Gives (readNext field before) session none (Session.StandsAt terminator rest) := by
  refine (nextToken_gives sound ahead).bind fun after follows stands => ?_
  rw [if_pos ends]
  exact .pure follows.sound stands

theorem readNext_nil (sound : session.Sound) (ahead : session.ahead = []) :
    Stuck (readNext field before) session :=
  (nextToken_stuck sound ahead).bind

theorem readNext_joiner (sound : session.Sound) (ahead : session.ahead = [joiner.token]) :
    Stuck (readNext field (some left)) session := by
  refine (nextToken_gives sound ahead).bind_stuck fun after follows stands => ?_
  rw [if_neg (by simp [joiner.not_endsCondition]), joiner?_joiner]
  exact (nextToken_stuck follows.sound (stands.faces joiner.not_eof)).bind

theorem readNext_dangling (sound : session.Sound)
    (ahead : session.ahead = joiner.token :: first :: rest)
    (ends : first.kind.endsCondition = true) :
    Refused (readNext field (some left)) session := by
  refine (nextToken_gives sound ahead).bind_refused fun after follows stands => ?_
  rw [if_neg (by simp [joiner.not_endsCondition]), joiner?_joiner]
  refine (nextToken_gives follows.sound (stands.faces joiner.not_eof)).bind_refused
    fun after follows stands => ?_
  rw [if_pos ends]
  exact .refuse follows.sound _

/-- The compiler comes to the first token of a term behind the tokens of `front`.  `wrap` joins the
term to what stands on its left. -/
structure AtTerm (field : FieldPath) (before : Option Predicate) (wrap : Predicate → Predicate)
    (front : List Token) (first : Token) (rest : List Token) (session after : Session) : Prop where
  ahead : session.ahead = front ++ first :: rest
  continues : first.kind.endsCondition = false
  follows : session.Follows after
  stands : after.StandsAt first rest
  same : outcome (readNext field before) session =
    outcome (do return some (wrap (← readTerm field first))) after

/-- At the beginning of a condition a term stands on its own. -/
theorem readNext_first (field : FieldPath) (sound : session.Sound)
    (ahead : session.ahead = first :: rest) (continues : first.kind.endsCondition = false)
    (noJoiner : joiner? first = none) :
    ∃ after, AtTerm field none id [] first rest session after := by
  obtain ⟨after, took, follows, stands⟩ := nextToken_gives sound ahead
  refine ⟨after, ahead, continues, follows, stands, ?_⟩
  rw [readNext, outcome_bind_ok took, if_neg (by simp [continues]), noJoiner]
  rfl

/-- Behind a joiner a term is joined to what stands on the left. -/
theorem readNext_joined (field : FieldPath) (left : Predicate) (sound : session.Sound)
    (ahead : session.ahead = joiner.token :: first :: rest)
    (continues : first.kind.endsCondition = false) :
    ∃ after, AtTerm field (some left) (joiner.join left) [joiner.token] first rest session
      after := by
  obtain ⟨between, tookJoiner, follows, stands⟩ := nextToken_gives sound ahead
  obtain ⟨after, tookFirst, followsNext, standsNext⟩ :=
    nextToken_gives follows.sound (stands.faces joiner.not_eof)
  refine ⟨after, ahead, continues, follows.trans followsNext, standsNext, ?_⟩
  rw [readNext, outcome_bind_ok tookJoiner, if_neg (by simp [joiner.not_endsCondition]),
    joiner?_joiner]
  rw [outcome_bind_ok tookFirst, if_neg (by simp [continues])]

end ReadNext

theorem cutOff_or_reaches {front first second : List Token} (isFront : front <+: first ++ second) :
    (∃ missing, missing ≠ [] ∧ first = front ++ missing) ∨
      ∃ reached, front = first ++ reached ∧ reached <+: second := by
  obtain ⟨missing, appended⟩ := isFront
  rcases List.append_eq_append_iff.mp appended with
    ⟨left, firstEq, _⟩ | ⟨reached, frontEq, secondEq⟩
  · cases left with
    | nil => exact .inr ⟨[], by simp [firstEq], List.nil_prefix⟩
    | cons token left => exact .inl ⟨token :: left, List.cons_ne_nil _ _, firstEq⟩
  · exact .inr ⟨reached, frontEq, missing, secondEq.symm⟩

/-- What the tokens ahead are to the phrases of a kind: a phrase with a terminator behind it, or
the beginning of a phrase up to the fault of the text, or something that is refused. -/
inductive PhraseAhead {Phrase : Type} (tokens : Phrase → List Token) (session : Session)
    (refusal : Prop) : Prop where
  | complete (phrase : Phrase) {terminator : Token} {rest : List Token}
      (ahead : session.ahead = tokens phrase ++ terminator :: rest)
      (ends : terminator.kind.endsCondition = true)
  | cutOff (phrase : Phrase) (isFront : session.ahead <+: tokens phrase)
  | refused (refused : refusal)

namespace AtTerm

variable {before : Option Predicate} {wrap : Predicate → Predicate} {front more : List Token}
  {first : Token} {after : Session} {op : CompareOp} {literal : Literal} {bound : Nat}

theorem faces (atTerm : AtTerm field before wrap front first rest session after) :
    after.ahead = rest :=
  atTerm.stands.faces (ne_eof_of_continues atTerm.continues)

theorem pending_lt {last : Session} {remaining : List Token}
    (atTerm : AtTerm field before wrap front first (more ++ remaining) session after)
    (faces : last.Faces remaining) : last.pending < session.pending := by
  have notEnd := ne_eof_of_continues atTerm.continues
  unfold Session.pending
  rw [atTerm.ahead, faces, List.countP_append, List.countP_cons_of_pos (by simpa using notEnd),
    List.countP_append]
  omega

theorem gives_next {remaining : List Token}
    (atTerm : AtTerm field before wrap front first (more ++ remaining) session after)
    (isTerm : IsTerm (first :: more) op literal) :
    Gives (readNext field before) session (some (wrap (.compare field op literal)))
      (Session.Faces remaining) := by
  have termRead :=
    readTerm_gives field atTerm.follows.sound atTerm.stands.current isTerm atTerm.faces
  exact .of_outcome_eq atTerm.same atTerm.follows
    (termRead.bind fun after follows faces => .pure follows.sound faces)

theorem stuck {missing : List Token}
    (atTerm : AtTerm field before wrap front first rest session after)
    (isTerm : IsTerm (first :: (rest ++ missing)) op literal) (nonempty : missing ≠ []) :
    Stuck (readNext field before) session := by
  have termStuck := readTerm_stuck field atTerm.follows.sound isTerm
    (congrArg (· ++ missing) atTerm.faces.symm) nonempty
  exact .of_outcome_eq atTerm.same atTerm.follows termStuck.bind

theorem cases {Phrase : Type} {tokens : Phrase → List Token}
    (extend : Term → Continuation → Phrase)
    (extended : ∀ term continuation, tokens (extend term continuation) =
      front ++ (term.tokens ++ continuation.tokens))
    (atTerm : AtTerm field before wrap front first rest session after)
    (goesOn : ∀ (last : Session) (longer : Predicate), session.Follows last →
      last.pending < session.pending →
      PhraseAhead Continuation.tokens last (Refused (readRest field bound (some longer)) last)) :
    PhraseAhead tokens session (Refused (readRest field (bound + 1) before) session) := by
  cases TermAhead.of_first field atTerm.follows.sound atTerm.stands.current with
  | cutOff missing isTerm nonempty =>
      refine .cutOff (extend ⟨_, _, _, isTerm⟩ []) ⟨missing, ?_⟩
      simp [extended, atTerm.ahead, atTerm.faces]
  | refused refused =>
      exact .refused (Refused.of_outcome_eq atTerm.same atTerm.follows refused.bind).bind
  | @complete op literal more remaining isTerm termAhead =>
      obtain rfl : rest = more ++ remaining := atTerm.faces.symm.trans termAhead
      obtain ⟨last, ran, follows, faces⟩ := atTerm.gives_next isTerm
      cases goesOn last _ follows (atTerm.pending_lt faces) with
      | @complete continuation terminator beyond ahead ends =>
          have appended : session.ahead =
              tokens (extend ⟨_, _, _, isTerm⟩ continuation) ++ terminator :: beyond := by
            rw [faces] at ahead
            simp [extended, atTerm.ahead, ahead]
          exact .complete _ appended ends
      | cutOff continuation isFront =>
          rw [faces] at isFront
          obtain ⟨missing, appended⟩ := isFront
          refine .cutOff (extend ⟨_, _, _, isTerm⟩ continuation) ⟨missing, ?_⟩
          simp [extended, atTerm.ahead, ← appended]
      | refused refused =>
          exact .refused (.of_outcome_eq (outcome_bind_ok ran) follows refused)

end AtTerm

section ReadRest

variable {bound : Nat} {left : Predicate}

theorem readRest_gives (continuation : Continuation) (sound : session.Sound)
    (ahead : session.ahead = continuation.tokens ++ terminator :: rest)
    (ends : terminator.kind.endsCondition = true) (enough : session.pending < bound) :
    Gives (readRest field bound (some left)) session
      (some (continuation.predicate field left)) (Session.StandsAt terminator rest) := by
  -- Each term takes tokens from those ahead, so the bound stays above what is pending.
  induction continuation generalizing bound left session with
  | nil =>
      obtain ⟨bound, rfl⟩ : ∃ smaller, bound = smaller + 1 := ⟨bound - 1, by omega⟩
      exact (readNext_end sound ahead ends).bind fun after follows stands =>
        .pure follows.sound stands
  | cons joined continuation inductionHypothesis =>
      obtain ⟨bound, rfl⟩ : ∃ smaller, bound = smaller + 1 := ⟨bound - 1, by omega⟩
      obtain ⟨joiner, term⟩ := joined
      obtain ⟨first, more, tokens, continues, _⟩ := term.isTerm.exists_first
      have aheadEq : session.ahead = joiner.token :: first ::
          (more ++ (Continuation.tokens continuation ++ terminator :: rest)) := by
        simp [ahead, tokens]
      obtain ⟨after, atTerm⟩ := readNext_joined field left sound aheadEq continues
      refine (atTerm.gives_next (tokens ▸ term.isTerm)).bind fun after follows faces => ?_
      have fewer := atTerm.pending_lt faces
      exact inductionHypothesis follows.sound faces (by omega)

theorem readRest_stuck (continuation : Continuation) (sound : session.Sound)
    (cutOff : session.ahead <+: continuation.tokens) (enough : session.pending < bound) :
    Stuck (readRest field bound (some left)) session := by
  induction continuation generalizing bound left session with
  | nil =>
      obtain ⟨bound, rfl⟩ : ∃ smaller, bound = smaller + 1 := ⟨bound - 1, by omega⟩
      exact (readNext_nil sound (List.prefix_nil.mp cutOff)).bind
  | cons joined continuation inductionHypothesis =>
      obtain ⟨bound, rfl⟩ : ∃ smaller, bound = smaller + 1 := ⟨bound - 1, by omega⟩
      obtain ⟨joiner, term⟩ := joined
      obtain ⟨first, more, tokens, continues, _⟩ := term.isTerm.exists_first
      rw [Continuation.tokens_cons, tokens] at cutOff
      rcases List.prefix_cons_iff.mp cutOff with ahead | ⟨behind, ahead, cutOffFirst⟩
      · exact (readNext_nil sound ahead).bind
      rcases List.prefix_cons_iff.mp cutOffFirst with rfl | ⟨behind, rfl, cutOffTerm⟩
      · exact (readNext_joiner sound ahead).bind
      obtain ⟨after, atTerm⟩ := readNext_joined field left sound ahead continues
      rcases cutOff_or_reaches cutOffTerm with
        ⟨missing, nonempty, rfl⟩ | ⟨reached, rfl, cutOffRest⟩
      · exact (atTerm.stuck (tokens ▸ term.isTerm) nonempty).bind
      · refine (atTerm.gives_next (tokens ▸ term.isTerm)).bind_stuck fun after follows faces => ?_
        have fewer := atTerm.pending_lt faces
        exact inductionHypothesis follows.sound (faces.symm ▸ cutOffRest) (by omega)

def Term.zero : Term :=
  ⟨[Token.zero], _, _, .bare (.inl rfl) Token.zero_isFinite⟩

theorem readRest_cases (field : FieldPath) (left : Predicate) (sound : session.Sound)
    (enough : session.pending < bound) :
    PhraseAhead Continuation.tokens session
      (Refused (readRest field bound (some left)) session) := by
  -- The token ahead decides: an end completes the phrase, a joiner goes on with it, and any
  -- other token is refused.
  induction bound generalizing left session with
  | zero => omega
  | succ bound inductionHypothesis =>
      cases ahead : session.ahead with
      | nil => exact .cutOff [] (by rw [ahead]; exact List.nil_prefix)
      | cons token behind =>
          cases ends : token.kind.endsCondition with
          | true => exact .complete [] ahead ends
          | false =>
              cases joins : joiner? token with
              | none =>
                  refine .refused (Refused.bind ?_)
                  refine (nextToken_gives sound ahead).bind_refused fun after follows stands => ?_
                  rw [if_neg (by simp [ends]), joins]
                  exact .refuse follows.sound _
              | some join =>
                  obtain ⟨joiner, rfl, rfl⟩ := exists_joiner joins
                  cases behind with
                  | nil => exact .cutOff [(joiner, Term.zero)] (by rw [ahead]; exact ⟨_, rfl⟩)
                  | cons first rest =>
                      cases ends : first.kind.endsCondition with
                      | true => exact .refused (readNext_dangling sound ahead ends).bind
                      | false =>
                          obtain ⟨after, atTerm⟩ := readNext_joined field left sound ahead ends
                          refine atTerm.cases (fun term rest => (joiner, term) :: rest)
                            (fun term rest => rfl) fun last longer follows fewer => ?_
                          exact inductionHypothesis longer follows.sound (by omega)

end ReadRest

theorem outcome_compile (field : FieldPath) (session : Session) :
    outcome (compile field) session =
      outcome (readRest field (session.source.body.length + 1) none) session := rfl

/-- A sentence with a terminator behind it is compiled. -/
theorem compile_gives (field : FieldPath) (sentence : Sentence) (sound : session.Sound)
    (ahead : session.ahead = sentence.tokens ++ terminator :: rest)
    (ends : terminator.kind.endsCondition = true) :
    Gives (compile field) session (sentence.predicate field)
      (Session.StandsAt terminator rest) := by
  refine .of_outcome_eq (outcome_compile field session) ⟨sound, rfl⟩ ?_
  cases sentence with
  | empty =>
      exact (readNext_end sound ahead ends).bind fun after follows stands =>
        .pure follows.sound stands
  | terms term continuation =>
      obtain ⟨first, more, tokens, continues, noJoiner⟩ := term.isTerm.exists_first
      have aheadEq : session.ahead = first ::
          (more ++ (Continuation.tokens continuation ++ terminator :: rest)) := by
        simp [ahead, Sentence.tokens, tokens]
      obtain ⟨after, atTerm⟩ := readNext_first field sound aheadEq continues noJoiner
      refine (atTerm.gives_next (tokens ▸ term.isTerm)).bind fun after follows faces => ?_
      have fewer := atTerm.pending_lt faces
      have pending := session.pending_le
      exact readRest_gives continuation follows.sound faces ends (by omega)

/-- The beginning of a sentence with a fault behind it leaves the compiler stuck. -/
theorem compile_stuck (field : FieldPath) (sentence : Sentence) (sound : session.Sound)
    (cutOff : session.ahead <+: sentence.tokens) : Stuck (compile field) session := by
  refine .of_outcome_eq (outcome_compile field session) ⟨sound, rfl⟩ ?_
  cases sentence with
  | empty => exact (readNext_nil sound (List.prefix_nil.mp cutOff)).bind
  | terms term continuation =>
      obtain ⟨first, more, tokens, continues, noJoiner⟩ := term.isTerm.exists_first
      rw [Sentence.tokens, tokens, List.cons_append] at cutOff
      rcases List.prefix_cons_iff.mp cutOff with ahead | ⟨behind, ahead, cutOffTerm⟩
      · exact (readNext_nil sound ahead).bind
      obtain ⟨after, atTerm⟩ := readNext_first field sound ahead continues noJoiner
      rcases cutOff_or_reaches cutOffTerm with
        ⟨missing, nonempty, rfl⟩ | ⟨reached, rfl, cutOffRest⟩
      · exact (atTerm.stuck (tokens ▸ term.isTerm) nonempty).bind
      · refine (atTerm.gives_next (tokens ▸ term.isTerm)).bind_stuck fun after follows faces => ?_
        have fewer := atTerm.pending_lt faces
        have pending := session.pending_le
        exact readRest_stuck continuation follows.sound (faces.symm ▸ cutOffRest) (by omega)

/-- Whatever is ahead is compiled, or leaves the compiler stuck, or is refused. -/
theorem compile_cases (field : FieldPath) (sound : session.Sound) :
    PhraseAhead Sentence.tokens session (Refused (compile field) session) := by
  have compiled (ahead : PhraseAhead Sentence.tokens session
      (Refused (readRest field (session.source.body.length + 1) none) session)) :
      PhraseAhead Sentence.tokens session (Refused (compile field) session) := ahead
  apply compiled
  cases ahead : session.ahead with
  | nil => exact .cutOff .empty (by rw [ahead]; exact List.nil_prefix)
  | cons token behind =>
      cases ends : token.kind.endsCondition with
      | true => exact .complete .empty ahead ends
      | false =>
          cases joins : joiner? token with
          | some join =>
              refine .refused (Refused.bind ?_)
              refine (nextToken_gives sound ahead).bind_refused fun after follows stands => ?_
              rw [if_neg (by simp [ends]), joins]
              exact .refuse follows.sound _
          | none =>
              obtain ⟨after, atTerm⟩ := readNext_first field sound ahead ends joins
              refine atTerm.cases Sentence.terms (fun term continuation => rfl)
                fun last longer follows fewer => ?_
              have pending := session.pending_le
              exact readRest_cases field longer follows.sound (by omega)

/-- The sessions that reading, going back and compiling lead to. -/
inductive Session.Reachable : Session → Prop where
  | start (source : Source) : Reachable (.start source)
  | next {session : Session} : Reachable session → Reachable session.next.2
  | back {session : Session} : Reachable session → Reachable session.back.2
  | compile {session : Session} (field : FieldPath) :
      Reachable session → Reachable (outcome (Condition.compile field) session).2

theorem compile_follows (field : FieldPath) (sound : session.Sound) :
    session.Follows (outcome (compile field) session).2 := by
  cases compile_cases field sound with
  | complete sentence ahead ends =>
      obtain ⟨after, ran, follows, _⟩ := compile_gives field sentence sound ahead ends
      exact ran ▸ follows
  | cutOff sentence isFront =>
      obtain ⟨fault, _, after, ran, follows⟩ := compile_stuck field sentence sound isFront
      exact ran ▸ follows
  | refused refused =>
      obtain ⟨cause, after, ran, follows⟩ := refused
      exact ran ▸ follows

theorem Session.Sound.next_sound (sound : session.Sound) : session.next.2.Sound := by
  rcases sound.next with ⟨token, behind, after, _, ran, moved⟩ | ⟨fault, _, _, ran⟩
  · exact ran ▸ moved.sound
  · exact ran ▸ sound

theorem Session.Reachable.sound (reachable : session.Reachable) : session.Sound := by
  induction reachable with
  | start source => exact .start source
  | next _ inductionHypothesis => exact inductionHypothesis.next_sound
  | back _ inductionHypothesis => exact inductionHypothesis.back
  | compile field _ inductionHypothesis => exact (compile_follows field inductionHypothesis).sound

/-- Tokens that begin with a sentence and the terminator behind it. -/
structure BeginsWith (tokens : List Token) (sentence : Sentence) (terminator : Token)
    (rest : List Token) : Prop where
  tokens : tokens = sentence.tokens ++ terminator :: rest
  ends : terminator.kind.endsCondition = true

/-- Sentences that follow each other with a terminator behind each.  Behind the end of the text
there are empty ones. -/
inductive Segments : List Token → List Sentence → Prop where
  | nil {tokens : List Token} : Segments tokens []
  | cons {tokens rest : List Token} {sentence : Sentence} {terminator : Token}
      {sentences : List Sentence} (begins : BeginsWith tokens sentence terminator rest)
      (behind : Segments (if terminator.kind = .eof then [terminator] else rest) sentences) :
      Segments tokens (sentence :: sentences)

/-- What compilers on one field after the other give in the same session. -/
def compileEach : List FieldPath → Session → List (Except Error (Option Predicate))
  | [], _ => []
  | field :: fields, session =>
      let (result, after) := outcome (compile field) session
      result :: compileEach fields after

theorem Sentence.predicate_eq_none {sentence : Sentence} :
    sentence.predicate field = none ↔ sentence = .empty := by
  cases sentence <;> simp [predicate]

theorem compile_ok_iff (field : FieldPath) (sound : session.Sound) (result : Option Predicate) :
    (outcome (compile field) session).1 = .ok result ↔
      ∃ sentence terminator rest, BeginsWith session.ahead sentence terminator rest ∧
        result = sentence.predicate field ∧ (result = none ↔ sentence = .empty) := by
  constructor
  · intro compiled
    cases compile_cases field sound with
    | @complete sentence terminator rest ahead ends =>
        obtain ⟨after, ran, _⟩ := compile_gives field sentence sound ahead ends
        rw [ran] at compiled
        cases compiled
        exact ⟨sentence, terminator, rest, ⟨ahead, ends⟩, rfl, Sentence.predicate_eq_none⟩
    | cutOff sentence isFront =>
        obtain ⟨fault, _, after, ran, _⟩ := compile_stuck field sentence sound isFront
        rw [ran] at compiled
        cases compiled
    | refused refused =>
        obtain ⟨cause, after, ran, _⟩ := refused
        rw [ran] at compiled
        cases compiled
  · rintro ⟨sentence, terminator, rest, begins, rfl, _⟩
    obtain ⟨after, ran, _⟩ := compile_gives field sentence sound begins.tokens begins.ends
    rw [ran]

theorem compile_fault_iff (field : FieldPath) (sound : session.Sound) (fault : SyntaxFault) :
    (outcome (compile field) session).1 = .error (.syntaxFault fault) ↔
      session.source.scan.2 = some fault ∧ ∃ sentence : Sentence,
        session.ahead <+: sentence.tokens := by
  constructor
  · intro failed
    cases compile_cases field sound with
    | complete sentence ahead ends =>
        obtain ⟨after, ran, _⟩ := compile_gives field sentence sound ahead ends
        rw [ran] at failed
        cases failed
    | cutOff sentence isFront =>
        obtain ⟨found, scanFault, after, ran, _⟩ := compile_stuck field sentence sound isFront
        rw [ran] at failed
        cases failed
        exact ⟨scanFault, sentence, isFront⟩
    | refused refused =>
        obtain ⟨cause, after, ran, _⟩ := refused
        rw [ran] at failed
        cases failed
  · rintro ⟨scanFault, sentence, isFront⟩
    obtain ⟨found, foundFault, after, ran, _⟩ := compile_stuck field sentence sound isFront
    rw [ran, Option.some.inj (scanFault.symm.trans foundFault)]

theorem compile_standsAt (field : FieldPath) (sound : session.Sound) {sentence : Sentence}
    (begins : BeginsWith session.ahead sentence terminator rest) :
    (outcome (compile field) session).2.StandsAt terminator rest := by
  obtain ⟨after, ran, _, stands⟩ := compile_gives field sentence sound begins.tokens begins.ends
  exact ran ▸ stands

theorem compileEach_segments {fields : List FieldPath} {sentences : List Sentence}
    (sound : session.Sound) (sameLength : fields.length = sentences.length)
    (segments : Segments session.ahead sentences) :
    compileEach fields session =
      List.zipWith (fun field sentence => .ok (Sentence.predicate field sentence)) fields
        sentences := by
  induction fields generalizing session sentences with
  | nil => rfl
  | cons field fields inductionHypothesis =>
      cases segments with
      | nil => cases sameLength
      | @cons _ rest sentence terminator sentences begins behind =>
          obtain ⟨after, ran, follows, stands⟩ :=
            compile_gives field sentence sound begins.tokens begins.ends
          rw [← stands.ahead] at behind
          simp only [compileEach, ran, List.zipWith_cons_cons,
            inductionHypothesis follows.sound (Nat.succ.inj sameLength) behind]

/-- In every session that reading, going back and compiling lead to, a compiler accepts exactly
the sentences that a terminator follows.  It gives nothing for the empty sentence and the
comparisons of its field joined from left to right for any other, and stands at the terminator
afterwards, so that compilers one after the other give the conditions between the terminators.  A
fault of the text is met where nothing but the beginning of a sentence stands before it; everything
else is unsupported. -/
theorem compile_recognizes_sentences (reachable : session.Reachable) (field : FieldPath) :
    (∀ result, (outcome (compile field) session).1 = .ok result ↔
      ∃ sentence terminator rest, BeginsWith session.ahead sentence terminator rest ∧
        result = sentence.predicate field ∧ (result = none ↔ sentence = .empty)) ∧
    (∀ sentence terminator rest, BeginsWith session.ahead sentence terminator rest →
      (outcome (compile field) session).2.StandsAt terminator rest) ∧
    (∀ fields sentences, fields.length = sentences.length → Segments session.ahead sentences →
      compileEach fields session =
        List.zipWith (fun field sentence => .ok (Sentence.predicate field sentence)) fields
          sentences) ∧
    (∀ fault, (outcome (compile field) session).1 = .error (.syntaxFault fault) ↔
      session.source.scan.2 = some fault ∧
        ∃ sentence : Sentence, session.ahead <+: sentence.tokens) :=
  ⟨compile_ok_iff field reachable.sound,
    fun _ _ _ begins => compile_standsAt field reachable.sound begins,
    fun _ _ sameLength segments => compileEach_segments reachable.sound sameLength segments,
    compile_fault_iff field reachable.sound⟩

def twoConditions : Source :=
  ⟨['>', ' ', '1', ',', ' ', '<', '=', ' ', '2', ' ', '&', '&', ' ', '3']⟩

/-- A session on two conditions that has looked at a token, gone back and compiled the first
condition. -/
def secondCondition : Session :=
  (outcome (compile (.ofName "age")) (Session.start twoConditions).next.2.back.2).2

theorem compile_recognizes_second_condition :
    secondCondition.Reachable ∧
      ∃ sentence terminator rest, BeginsWith secondCondition.ahead sentence terminator rest ∧
        sentence.predicate (.ofName "age") = some (.and
          (.compare (.ofName "age") .lessThanOrEqual (.int 2))
          (.compare (.ofName "age") .equal (.int 3))) ∧
        sentence ≠ .empty := by
  have reachable : secondCondition.Reachable := .compile _ (.back (.next (.start _)))
  have recognized := (compile_recognizes_sentences reachable (.ofName "age")).1
  obtain ⟨sentence, terminator, rest, begins, predicate, empty⟩ :=
    (recognized (some (.and (.compare (.ofName "age") .lessThanOrEqual (.int 2))
      (.compare (.ofName "age") .equal (.int 3))))).mp (by decide +kernel)
  refine ⟨reachable, sentence, terminator, rest, begins, predicate.symm, ?_⟩
  intro isEmpty
  cases empty.mpr isEmpty

end QueryPlanner.Condition
