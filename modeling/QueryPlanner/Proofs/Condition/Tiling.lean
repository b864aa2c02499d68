import QueryPlanner.Proofs.Condition.Extent

/-!
# Tokens and their source

The tokens of a source stand in it one behind the other, with nothing but space and comments
between them.  Their characters are read as the same tokens again if they are put together anew
with any space and comments in between.
-/

namespace QueryPlanner.Condition

open QueryPlanner.Text

/-- A text of space and comments.  A comment ends with its line; it goes on to the end of the text
only where the text ends. -/
inductive IsGap (atEnd : Prop) : List Char → Prop where
  | nil : IsGap atEnd []
  | blank {c : Char} {rest : List Char} (isBlank : c = ' ' ∨ c = '\t' ∨ c = '\n' ∨ c = '\uFEFF')
      (behind : IsGap atEnd rest) : IsGap atEnd (c :: rest)
  | comment {words rest : List Char} (oneLine : ∀ c ∈ words, isForbidden c = false)
      (behind : IsGap atEnd rest) : IsGap atEnd ('#' :: (words ++ '\n' :: rest))
  | openComment {words : List Char} (oneLine : ∀ c ∈ words, isForbidden c = false)
      (isEnd : atEnd) : IsGap atEnd ('#' :: words)

namespace IsGap

variable {atEnd : Prop} {c : Char} {gap words : List Char}

theorem mono {other : Prop} (isGap : IsGap atEnd gap) (implies : atEnd → other) :
    IsGap other gap := by
  induction isGap with
  | nil => exact .nil
  | blank isBlank _ inductionHypothesis => exact .blank isBlank inductionHypothesis
  | comment oneLine _ inductionHypothesis => exact .comment oneLine inductionHypothesis
  | openComment oneLine isEnd => exact .openComment oneLine (implies isEnd)

theorem cons_comment (isGap : IsGap atEnd ('#' :: words)) (allowed : isForbidden c = false) :
    IsGap atEnd ('#' :: c :: words) := by
  cases isGap with
  | blank isBlank => simp at isBlank
  | @comment words rest oneLine behind =>
      exact @comment atEnd (c :: words) rest (List.forall_mem_cons.mpr ⟨allowed, oneLine⟩) behind
  | openComment oneLine isEnd =>
      exact .openComment (List.forall_mem_cons.mpr ⟨allowed, oneLine⟩) isEnd

theorem isSpace_of_isBlank (isBlank : c = ' ' ∨ c = '\t' ∨ c = '\n' ∨ c = '\uFEFF') :
    isSpace c = true := by
  rcases isBlank with rfl | rfl | rfl | rfl <;> decide

theorem detached (isGap : IsGap atEnd gap) (nonempty : gap ≠ []) (rest : List Char) :
    Detached (gap ++ rest) := by
  cases isGap with
  | nil => exact absurd rfl nonempty
  | blank isBlank => exact .inr ⟨_, _, rfl, .inl (isSpace_of_isBlank isBlank)⟩
  | comment => exact .inr ⟨_, _, rfl, .inr rfl⟩
  | openComment => exact .inr ⟨_, _, rfl, .inr rfl⟩

theorem oneLine (isGap : IsGap atEnd gap) : '\r' ∉ gap := by
  have ofComment {words : List Char} (allowed : ∀ c ∈ words, isForbidden c = false) :
      '\r' ∉ words := by
    intro membership
    exact absurd (allowed _ membership) (by decide)
  induction isGap with
  | nil => exact List.not_mem_nil
  | @blank c rest isBlank _ inductionHypothesis =>
      have notReturn : '\r' ≠ c := by
        rintro rfl
        revert isBlank
        decide
      exact List.not_mem_cons_of_ne_of_not_mem notReturn inductionHypothesis
  | comment allowed _ inductionHypothesis => simp [ofComment allowed, inductionHypothesis]
  | openComment allowed => simp [ofComment allowed]

end IsGap

theorem spanIgnored_comment {words : List Char} (oneLine : ∀ c ∈ words, isForbidden c = false)
    (rest : List Char) :
    spanIgnored true (words ++ '\n' :: rest) =
      (words ++ '\n' :: (spanIgnored false rest).1, (spanIgnored false rest).2) := by
  induction words with
  | nil =>
      have ends : isForbidden '\n' = true := by decide
      simp [spanIgnored, ends, isSpace]
  | cons c words inductionHypothesis =>
      obtain ⟨allowed, others⟩ := List.forall_mem_cons.mp oneLine
      simp [spanIgnored, allowed, inductionHypothesis others]

theorem IsGap.spanIgnored_append {gap : List Char} (isGap : IsGap False gap) (rest : List Char) :
    spanIgnored false (gap ++ rest) =
      (gap ++ (spanIgnored false rest).1, (spanIgnored false rest).2) := by
  induction isGap with
  | nil => rfl
  | @blank c behind isBlank _ inductionHypothesis =>
      have notComment : c ≠ '#' := by
        rintro rfl
        revert isBlank
        decide
      simp [spanIgnored, isSpace_of_isBlank isBlank, notComment, inductionHypothesis]
  | @comment words behind oneLine _ inductionHypothesis =>
      rw [List.cons_append, List.append_assoc, List.cons_append, spanIgnored]
      simp [spanIgnored_comment oneLine, inductionHypothesis]
  | openComment _ isEnd => exact isEnd.elim

/-- What is passed over in front of a token, or at the end of a text, is space and comments. -/
theorem isGap_of_spanIgnored {inComment : Bool} {text ignored rest : List Char}
    (oneLine : '\r' ∉ text) (spanned : spanIgnored inComment text = (ignored, rest))
    (allowed : ∀ c ∈ rest.head?, isForbidden c = false) :
    IsGap (rest = []) (if inComment then '#' :: ignored else ignored) := by
  -- Inside a comment the number sign that it begins with is put back in front.
  induction text generalizing inComment ignored with
  | nil =>
      cases spanned
      cases inComment with
      | true => exact .openComment (List.forall_mem_nil _) rfl
      | false => exact .nil
  | cons c text inductionHypothesis =>
      obtain ⟨notReturn, textOneLine⟩ := not_or.mp (List.mem_cons.not.mp oneLine)
      unfold spanIgnored at spanned
      dsimp only at spanned
      split at spanned
      next passed =>
        obtain ⟨behind, left, behindSpanned⟩ : ∃ behind left,
            spanIgnored (inComment && !isForbidden c || c = '#') text = (behind, left) :=
          ⟨_, _, rfl⟩
        rw [behindSpanned] at spanned
        cases spanned
        have isGap := inductionHypothesis textOneLine behindSpanned
        cases goesOn : inComment && !isForbidden c with
        | true =>
            obtain ⟨inside, isAllowed⟩ := Bool.and_eq_true_iff.mp goesOn
            rw [goesOn, Bool.true_or, if_pos rfl] at isGap
            rw [if_pos inside]
            exact isGap.cons_comment (by simpa using isAllowed)
        | false =>
            rw [goesOn, Bool.false_or] at isGap passed
            rcases Bool.or_eq_true_iff.mp passed with space | number
            · have isBlank : c = ' ' ∨ c = '\t' ∨ c = '\n' ∨ c = '\uFEFF' := by
                simp only [isSpace, Bool.or_eq_true, decide_eq_true_eq, or_assoc] at space
                rcases space with blank | blank | blank | blank | blank
                · exact .inl blank
                · exact .inr (.inl blank)
                · exact .inr (.inr (.inl blank))
                · exact absurd blank.symm notReturn
                · exact .inr (.inr (.inr blank))
              have notComment : c ≠ '#' := by
                rintro rfl
                revert isBlank
                decide
              rw [if_neg (by simpa using notComment)] at isGap
              cases inComment with
              | false => exact .blank isBlank isGap
              | true =>
                  have forbidden : isForbidden c = true := by simpa using goesOn
                  have isBreak : c = '\n' := by
                    rcases isBlank with rfl | rfl | rfl | rfl
                    · cases forbidden
                    · cases forbidden
                    · rfl
                    · cases forbidden
                  rw [isBreak]
                  exact @IsGap.comment _ [] _ (List.forall_mem_nil _) isGap
            · rw [if_pos number] at isGap
              have isNumber : c = '#' := by simpa using number
              subst isNumber
              cases inComment with
              | false => exact isGap
              | true => cases goesOn
      next stopped =>
        cases spanned
        have isAllowed : isForbidden c = false := allowed c rfl
        cases inComment with
        | false => exact .nil
        | true => simp [isAllowed] at stopped

theorem not_isForbidden_of_readLexeme {c : Char} {tail : List Char} {lexeme : Lexeme}
    (read : readLexeme c tail = .ok lexeme) : isForbidden c = false := by
  unfold readLexeme at read
  dsimp only at read
  split at read
  next => cases read
  next allowed => exact Bool.eq_false_iff.mpr allowed

theorem spanIgnored_stops {inComment : Bool} {text ignored tail : List Char} {c : Char}
    (spanned : spanIgnored inComment text = (ignored, c :: tail)) :
    isSpace c = false ∧ c ≠ '#' := by
  induction text generalizing inComment ignored with
  | nil => cases spanned
  | cons first text inductionHypothesis =>
      unfold spanIgnored at spanned
      dsimp only at spanned
      split at spanned
      next =>
        exact inductionHypothesis (Prod.ext rfl (Prod.mk.inj spanned).2)
      next stopped =>
        cases spanned
        simp only [Bool.or_eq_true, not_or, decide_eq_true_eq] at stopped
        exact ⟨Bool.eq_false_iff.mpr stopped.1.2, stopped.2⟩

namespace Source

/-- A part of a source lies between two byte offsets, both of them at the border of a character. -/
def IsSlice (source : Source) (start stop : Nat) (part : List Char) : Prop :=
  ∃ before after, source.body = before ++ part ++ after ∧ start = byteLength before ∧
    stop = byteLength (before ++ part)

variable {source : Source} {start stop : Nat} {part other : List Char}

theorem IsSlice.start_le_stop (isSlice : source.IsSlice start stop part) : start ≤ stop := by
  obtain ⟨before, after, _, rfl, rfl⟩ := isSlice
  rw [byteLength_append]
  exact Nat.le_add_right _ _

theorem IsSlice.stop_le_size (isSlice : source.IsSlice start stop part) : stop ≤ source.size := by
  obtain ⟨before, after, bodyEq, _, rfl⟩ := isSlice
  rw [size, bodyEq, byteLength_append (before ++ part)]
  exact Nat.le_add_right _ _

theorem byteLength_pos {text : List Char} (nonempty : text ≠ []) : 0 < byteLength text := by
  obtain ⟨c, tail, rfl⟩ := List.exists_cons_of_ne_nil nonempty
  exact Nat.add_pos_left (Char.utf8Size_pos c) _

theorem IsSlice.start_lt_stop (isSlice : source.IsSlice start stop part) (nonempty : part ≠ []) :
    start < stop := by
  obtain ⟨before, after, _, rfl, rfl⟩ := isSlice
  rw [byteLength_append]
  exact Nat.lt_add_of_pos_right (byteLength_pos nonempty)

theorem append_inj_of_byteLength {front back otherFront otherBack : List Char}
    (same : front ++ back = otherFront ++ otherBack)
    (sameLength : byteLength front = byteLength otherFront) :
    front = otherFront ∧ back = otherBack := by
  have dropped := dropBytes_byteLength_append front back
  rw [same, sameLength, dropBytes_byteLength_append] at dropped
  cases dropped
  exact ⟨List.append_cancel_right same, rfl⟩

theorem IsSlice.unique (isSlice : source.IsSlice start stop part)
    (otherIsSlice : source.IsSlice start stop other) : part = other := by
  obtain ⟨before, after, bodyEq, startEq, stopEq⟩ := isSlice
  obtain ⟨otherBefore, otherAfter, otherBodyEq, otherStartEq, otherStopEq⟩ := otherIsSlice
  have fronts := (append_inj_of_byteLength (bodyEq.symm.trans otherBodyEq)
    (stopEq.symm.trans otherStopEq)).1
  exact (append_inj_of_byteLength fronts (startEq.symm.trans otherStartEq)).2

/-- The offsets between which there is no token: from the beginning to the first token, from each
token to the one behind it, and from the last one to the end. -/
def borders (source : Source) (start : Nat) (tokens : List Token) : List (Nat × Nat) :=
  (start :: tokens.map Token.stop).zip (tokens.map Token.start ++ [source.size])

end Source

/-- The value of a name, a truth value or a number is its text, and marks have no value. -/
def Token.IsWritten (token : Token) (part : List Char) : Prop :=
  match token.kind with
  | .name | .boolean | .int | .float => token.value = some (String.ofList part)
  | .string => token.value.isSome = true
  | _ => token.value = none

/-- Tokens stand in a source one behind the other, up to its end, and between them there are only
space and comments. -/
structure Source.Tiled (source : Source) (tokens : List Token) : Prop where
  ends : ∃ front, tokens = front ++ [.eof source.size] ∧ ∀ token ∈ front, token.kind ≠ .eof
  token_isSlice : ∀ token ∈ tokens, token.kind ≠ .eof →
    token.start < token.stop ∧ token.stop ≤ source.size ∧
      ∃ part, source.IsSlice token.start token.stop part ∧ token.IsWritten part
  apart : tokens.IsChain fun first second => first.stop ≤ second.start
  gap_isSlice : ∀ border ∈ source.borders 0 tokens,
    ∃ gap, source.IsSlice border.1 border.2 gap ∧ IsGap (border.2 = source.size) gap

/-- A lexeme that is read wherever its characters stand in front of space, a comment or the end. -/
def Lexeme.IsFree (lexeme : Lexeme) : Prop :=
  ∃ c shown, lexeme.written = c :: shown ∧ isSpace c = false ∧ c ≠ '#' ∧
    ∀ rest, Detached rest → readLexeme c (shown ++ rest) = .ok lexeme

/-- A token with the lexeme that stands in its place. -/
structure Source.Shows (source : Source) (token : Token) (lexeme : Lexeme) : Prop where
  carries : Carries token lexeme
  isFree : lexeme.IsFree
  isSlice : source.IsSlice token.start token.stop lexeme.written

theorem Lexeme.IsFree.nonempty {lexeme : Lexeme} (isFree : lexeme.IsFree) :
    lexeme.written ≠ [] := by
  obtain ⟨c, shown, written, _⟩ := isFree
  rw [written]
  exact List.cons_ne_nil c shown

theorem Lexeme.IsFree.isWritten {lexeme : Lexeme} {token : Token} (isFree : lexeme.IsFree)
    (carries : Carries token lexeme) : token.IsWritten lexeme.written := by
  obtain ⟨c, shown, _, _, _, reads⟩ := isFree
  have read := reads [] (.inl rfl)
  unfold Token.IsWritten
  rw [carries.kind, carries.value]
  rcases readLexeme_cases read with isMark | ⟨_, rfl⟩ | isNumber | ⟨isQuote, isString⟩
  · unfold punctuation? at isMark
    split at isMark <;> cases isMark <;> rfl
  · rcases readWord_kind (c :: (shown ++ [])) with kind | kind <;> rw [kind] <;> rfl
  · obtain ⟨_, _, kind, value⟩ := readNumber_ok isNumber
    rcases kind with kind | kind <;> rw [kind, value] <;> rfl
  · obtain ⟨_, _, _, _, _, rfl⟩ := (readString_ok_iff isQuote).mp isString
    rfl

namespace Source

variable {source : Source} {token : Token} {tokens : List Token} {before text : List Char}

theorem tokenAt_of_append (bodyEq : source.body = before ++ text) :
    source.tokenAt (byteLength before) = source.scanText (byteLength before) text := by
  simp only [tokenAt, bodyEq, dropBytes_byteLength_append]

/-- The token that is read behind some text is the end, or shows a lexeme; in front of it there
are only space and comments. -/
theorem tokenAt_shows (oneLine : '\r' ∉ source.body) (bodyEq : source.body = before ++ text)
    (read : source.tokenAt (byteLength before) = .ok token) :
    (∃ gap, source.IsSlice (byteLength before) token.start gap ∧
      IsGap (token.start = source.size) gap) ∧
    (token = .eof source.size ∨
      token.kind ≠ .eof ∧ ∃ lexeme front left, source.Shows token lexeme ∧
        source.body = front ++ left ∧ token.stop = byteLength front) := by
  have textOneLine : '\r' ∉ text := fun membership =>
    oneLine (bodyEq ▸ List.mem_append_right before membership)
  obtain ⟨gap, rest, spanned⟩ : ∃ gap rest, spanIgnored false text = (gap, rest) := ⟨_, _, rfl⟩
  have textEq : gap ++ rest = text := by
    have appended := spanIgnored_append false text
    rwa [spanned] at appended
  rw [tokenAt_of_append bodyEq, scanText, spanned] at read
  have gapSlice : source.IsSlice (byteLength before) (byteLength before + byteLength gap) gap :=
    ⟨before, rest, by rw [bodyEq, ← textEq, List.append_assoc], rfl,
      (byteLength_append before gap).symm⟩
  cases rest with
  | nil =>
      cases read
      have sizeEq : byteLength before + byteLength gap = source.size := by
        rw [size, bodyEq, ← textEq, List.append_nil, byteLength_append]
      have isGap := isGap_of_spanIgnored textOneLine spanned (by rintro first ⟨⟩)
      exact ⟨⟨gap, gapSlice, isGap.mono fun _ => sizeEq⟩, .inl (congrArg Token.eof sizeEq)⟩
  | cons c tail =>
      dsimp only at read
      split at read
      next lexeme lexemeRead =>
        cases read
        obtain ⟨⟨left, tailEq⟩, nonempty, notEnd⟩ := readLexeme_ok lexemeRead
        have isAllowed := not_isForbidden_of_readLexeme lexemeRead
        have isGap := isGap_of_spanIgnored textOneLine spanned (by
          intro first isHead
          cases isHead
          exact isAllowed)
        obtain ⟨shown, written, _⟩ := readLexeme_followed lexemeRead (.inl rfl)
        have bodySplit : source.body = before ++ gap ++ lexeme.written ++ left := by
          simp only [bodyEq, ← textEq, tailEq, List.append_assoc]
        have isFree : lexeme.IsFree := by
          obtain ⟨notSpace, notComment⟩ := spanIgnored_stops spanned
          refine ⟨c, shown, written, notSpace, notComment, fun rest detached => ?_⟩
          obtain ⟨again, writtenAgain, followed⟩ := readLexeme_followed lexemeRead detached
          cases written.symm.trans writtenAgain
          exact followed
        have lexemeSlice : source.IsSlice (byteLength before + byteLength gap)
            (byteLength before + byteLength gap + byteLength lexeme.written) lexeme.written :=
          ⟨before ++ gap, left, bodySplit, by rw [byteLength_append], by
            rw [byteLength_append, byteLength_append]⟩
        refine ⟨⟨gap, gapSlice, isGap.mono (by rintro ⟨⟩)⟩, .inr ⟨notEnd, lexeme,
          before ++ gap ++ lexeme.written, left, ⟨⟨rfl, rfl⟩, isFree, lexemeSlice⟩, bodySplit, ?_⟩⟩
        rw [byteLength_append, byteLength_append]
      next => cases read

/-- What a chain of tokens shows of a source from an offset on. -/
structure Laid (source : Source) (start : Nat) (tokens : List Token) : Prop where
  ends : ∃ front, tokens = front ++ [.eof source.size] ∧ ∀ token ∈ front, token.kind ≠ .eof
  shows : ∀ token ∈ tokens, token.kind ≠ .eof → ∃ lexeme, source.Shows token lexeme
  gap_isSlice : ∀ border ∈ source.borders start tokens,
    ∃ gap, source.IsSlice border.1 border.2 gap ∧ IsGap (border.2 = source.size) gap

theorem Chain.laid {start : Nat} {fault : Option SyntaxFault}
    (chain : source.Chain start tokens fault) (noFault : fault = none)
    (oneLine : '\r' ∉ source.body) (bodyEq : source.body = before ++ text)
    (startEq : start = byteLength before) : source.Laid start tokens := by
  induction chain generalizing before text with
  | @finish start token read isEnd =>
      subst startEq
      obtain ⟨gap, rfl | ⟨notEnd, _⟩⟩ := tokenAt_shows oneLine bodyEq read
      · have atEnd : source.IsSlice source.size source.size [] :=
          ⟨source.body, [], by simp, rfl, by rw [List.append_nil]; rfl⟩
        refine ⟨⟨[], rfl, List.forall_mem_nil _⟩, ?_, ?_⟩
        · intro token isToken notEnd
          cases List.mem_singleton.mp isToken
          exact absurd rfl notEnd
        · refine List.forall_mem_cons.mpr ⟨gap, List.forall_mem_cons.mpr ⟨?_, List.forall_mem_nil _⟩⟩
          exact ⟨[], atEnd, .nil⟩
      · exact absurd isEnd notEnd
  | stuck => cases noFault
  | @step start token tokens fault read notEnd rest inductionHypothesis =>
      subst startEq
      obtain ⟨gap, isEnd | ⟨_, lexeme, front, left, shows, bodySplit, stopEq⟩⟩ :=
        tokenAt_shows oneLine bodyEq read
      · exact absurd (congrArg Token.kind isEnd) notEnd
      · obtain ⟨⟨behind, tokensEq, noneEnds⟩, allShow, gaps⟩ :=
          inductionHypothesis noFault bodySplit stopEq
        refine ⟨⟨token :: behind, ?_, ?_⟩, ?_, List.forall_mem_cons.mpr ⟨gap, gaps⟩⟩
        · rw [tokensEq, List.cons_append]
        · exact List.forall_mem_cons.mpr ⟨notEnd, noneEnds⟩
        · exact List.forall_mem_cons.mpr ⟨fun _ => ⟨lexeme, shows⟩, allShow⟩

theorem isChain_of_borders {start : Nat}
    (ordered : ∀ border ∈ source.borders start tokens, border.1 ≤ border.2) :
    tokens.IsChain fun first second => first.stop ≤ second.start := by
  induction tokens generalizing start with
  | nil => exact .nil
  | cons first tokens inductionHypothesis =>
      have others : ∀ border ∈ source.borders first.stop tokens, border.1 ≤ border.2 :=
        (List.forall_mem_cons.mp ordered).2
      cases tokens with
      | nil => exact .singleton first
      | cons second tokens =>
          exact .cons_cons (List.forall_mem_cons.mp others).1 (inductionHypothesis others)

theorem Laid.tiled (laid : source.Laid 0 tokens) : source.Tiled tokens := by
  refine ⟨laid.ends, ?_, @isChain_of_borders source tokens 0 ?_, laid.gap_isSlice⟩
  · intro token isToken notEnd
    obtain ⟨lexeme, shows⟩ := laid.shows token isToken notEnd
    refine ⟨shows.isSlice.start_lt_stop shows.isFree.nonempty, shows.isSlice.stop_le_size,
      lexeme.written, shows.isSlice, shows.isFree.isWritten shows.carries⟩
  · intro border isBorder
    obtain ⟨gap, isSlice, _⟩ := laid.gap_isSlice border isBorder
    exact isSlice.start_le_stop

theorem scan_of_tokens (tokenized : source.tokens = .ok tokens) : source.scan = (tokens, none) := by
  unfold Source.tokens at tokenized
  split at tokenized
  next scanned =>
    cases tokenized
    exact scanned
  next => cases tokenized

theorem laid_of_tokens (oneLine : '\r' ∉ source.body) (tokenized : source.tokens = .ok tokens) :
    source.Laid 0 tokens := by
  have chain := source.chain_scan
  rw [scan_of_tokens tokenized] at chain
  have bodyEq : source.body = [] ++ source.body := rfl
  exact chain.laid rfl oneLine bodyEq rfl

end Source

/-- Parts in a row, with space or comments between any two of them, and perhaps also between the
last one and the end of the text. -/
inductive Joined : List (List Char) → List Char → Prop where
  | nil : Joined [] []
  | last {part : List Char} : Joined [part] part
  | cons {part separator text : List Char} {parts : List (List Char)}
      (isGap : IsGap False separator) (nonempty : separator ≠ []) (behind : Joined parts text) :
      Joined (part :: parts) (part ++ separator ++ text)

theorem Joined.oneLine {parts : List (List Char)} {text : List Char} (joined : Joined parts text)
    (partsOneLine : ∀ part ∈ parts, '\r' ∉ part) : '\r' ∉ text := by
  induction joined with
  | nil => exact List.not_mem_nil
  | last => exact partsOneLine _ List.mem_cons_self
  | cons isGap _ _ inductionHypothesis =>
      obtain ⟨partOneLine, others⟩ := List.forall_mem_cons.mp partsOneLine
      simp [partOneLine, isGap.oneLine, inductionHypothesis others]

theorem Lexes.gap_append {separator text rest : List Char} {lexemes : List Lexeme}
    (lexes : Lexes text lexemes rest) (nonempty : lexemes ≠ []) (isGap : IsGap False separator) :
    Lexes (separator ++ text) lexemes rest := by
  cases lexes with
  | nil => exact absurd rfl nonempty
  | cons spanned read front behind =>
      have spannedAll := isGap.spanIgnored_append text
      rw [spanned] at spannedAll
      exact .cons spannedAll read front behind

theorem Lexeme.IsFree.lexes {lexeme : Lexeme} {lexemes : List Lexeme} {text rest : List Char}
    (isFree : lexeme.IsFree) (detached : Detached text) (behind : Lexes text lexemes rest) :
    Lexes (lexeme.written ++ text) (lexeme :: lexemes) rest := by
  obtain ⟨c, shown, written, notSpace, notComment, reads⟩ := isFree
  have front : c :: (shown ++ text) = lexeme.written ++ text := by rw [written]; rfl
  rw [← front]
  exact .cons (spanIgnored_cons notSpace notComment _) (reads text detached) front behind

theorem Joined.lexes {lexemes : List Lexeme} {text : List Char}
    (joined : Joined (lexemes.map Lexeme.written) text)
    (areFree : ∀ lexeme ∈ lexemes, lexeme.IsFree) :
    ∃ gap, Lexes text lexemes gap ∧ IsGap False gap := by
  induction lexemes generalizing text with
  | nil =>
      cases joined
      exact ⟨[], .nil, .nil⟩
  | cons lexeme lexemes inductionHypothesis =>
      obtain ⟨isFree, others⟩ := List.forall_mem_cons.mp areFree
      rw [List.map_cons] at joined
      generalize partsEq : lexemes.map Lexeme.written = parts at joined
      cases joined with
      | last =>
          cases List.map_eq_nil_iff.mp partsEq
          have lexes := isFree.lexes (.inl rfl) .nil
          rw [List.append_nil] at lexes
          exact ⟨[], lexes, .nil⟩
      | @cons _ separator behindText _ isGap nonempty behind =>
          rw [← partsEq] at behind
          have detached := isGap.detached nonempty behindText
          obtain ⟨gap, lexes, gapIsGap⟩ := inductionHypothesis behind others
          rw [List.append_assoc]
          by_cases isLast : lexemes = []
          · subst isLast
            cases behind
            refine ⟨separator, isFree.lexes detached ?_, isGap⟩
            rw [List.append_nil]
            exact .nil
          · exact ⟨gap, isFree.lexes detached (lexes.gap_append isLast isGap), gapIsGap⟩

theorem Lexes.tokens {source : Source} {lexemes : List Lexeme} {gap : List Char}
    (lexes : Lexes source.body lexemes gap) (isGap : IsGap False gap) :
    ∃ tokens position, List.Forall₂ Carries tokens lexemes ∧
      source.tokens = .ok (tokens ++ [.eof position]) := by
  have spanned : spanIgnored false gap = (gap, []) := by
    have spannedAll := isGap.spanIgnored_append []
    rwa [List.append_nil, spanIgnored, List.append_nil] at spannedAll
  obtain ⟨tokens, position, carried, scanEq⟩ := lexes.scan spanned
  refine ⟨tokens, position, carried, ?_⟩
  rw [Source.tokens, scanEq]

/-- The kind and the value of a token, which say what it is wherever it stands. -/
def Token.content (token : Token) : TokenKind × Option String :=
  (token.kind, token.value)

theorem map_content_of_carries {tokens others : List Token} {lexemes : List Lexeme}
    (carries : List.Forall₂ Carries tokens lexemes)
    (othersCarry : List.Forall₂ Carries others lexemes) :
    tokens.map Token.content = others.map Token.content := by
  induction carries generalizing others with
  | nil =>
      cases othersCarry
      rfl
  | cons carried _ inductionHypothesis =>
      cases othersCarry with
      | cons otherCarried rest =>
          rw [List.map_cons, List.map_cons, inductionHypothesis rest, Token.content, Token.content,
            carried.kind, carried.value, otherCarried.kind, otherCarried.value]

theorem Source.exists_lexemes {source : Source} {tokens : List Token} {parts : List (List Char)}
    (slices : List.Forall₂ (fun token part => source.IsSlice token.start token.stop part) tokens
      parts)
    (allShow : ∀ token ∈ tokens, ∃ lexeme, source.Shows token lexeme) :
    ∃ lexemes, parts = lexemes.map Lexeme.written ∧ List.Forall₂ Carries tokens lexemes ∧
      ∀ lexeme ∈ lexemes, lexeme.IsFree := by
  induction slices with
  | nil => exact ⟨[], rfl, .nil, List.forall_mem_nil _⟩
  | cons isSlice _ inductionHypothesis =>
      obtain ⟨⟨lexeme, shows⟩, others⟩ := List.forall_mem_cons.mp allShow
      obtain ⟨lexemes, partsEq, carries, areFree⟩ := inductionHypothesis others
      refine ⟨lexeme :: lexemes, ?_, .cons shows.carries carries,
        List.forall_mem_cons.mpr ⟨shows.isFree, areFree⟩⟩
      rw [List.map_cons, ← partsEq, isSlice.unique shows.isSlice]

theorem Source.IsSlice.oneLine {source : Source} {start stop : Nat} {part : List Char}
    (isSlice : source.IsSlice start stop part) (oneLine : '\r' ∉ source.body) : '\r' ∉ part := by
  obtain ⟨before, after, bodyEq, _⟩ := isSlice
  intro membership
  apply oneLine
  rw [bodyEq]
  exact List.mem_append_left after (List.mem_append_right before membership)

theorem Source.oneLine_of_slices {source : Source} {tokens : List Token}
    {parts : List (List Char)} (oneLine : '\r' ∉ source.body)
    (slices : List.Forall₂ (fun token part => source.IsSlice token.start token.stop part) tokens
      parts) : ∀ part ∈ parts, '\r' ∉ part := by
  induction slices with
  | nil => exact List.forall_mem_nil _
  | cons isSlice _ inductionHypothesis =>
      exact List.forall_mem_cons.mpr ⟨isSlice.oneLine oneLine, inductionHypothesis⟩

/-- Every text is read up to its end or to a fault.  If there is no fault, its tokens tile it, and
their characters give tokens of the same kinds and values however they are joined anew. -/
theorem tokens_tile (text : String) :
    let source := Source.ofString text
    source.Chain 0 source.scan.1 source.scan.2 ∧
      ∀ tokens, source.tokens = .ok tokens →
        source.Tiled tokens ∧
          ∀ front parts joined, tokens = front ++ [.eof source.size] →
            List.Forall₂ (fun token part => source.IsSlice token.start token.stop part) front
              parts →
            Joined parts joined →
              ∃ again, (Source.ofString (String.ofList joined)).tokens = .ok again ∧
                again.map Token.content = tokens.map Token.content := by
  intro source
  have oneLine : '\r' ∉ source.body := return_not_mem_normalizeLineEnds text.toList
  refine ⟨source.chain_scan, fun tokens tokenized => ?_⟩
  have laid := Source.laid_of_tokens oneLine tokenized
  refine ⟨laid.tiled, ?_⟩
  intro front parts joined tokensEq slices isJoined
  have frontNotEnd : ∀ token ∈ front, token.kind ≠ .eof := by
    obtain ⟨other, otherEq, notEnd⟩ := laid.ends
    cases List.append_cancel_right (tokensEq.symm.trans otherEq)
    exact notEnd
  obtain ⟨lexemes, partsEq, carries, areFree⟩ := Source.exists_lexemes slices fun token isToken =>
    laid.shows token (tokensEq ▸ List.mem_append_left _ isToken) (frontNotEnd token isToken)
  have partsOneLine := Source.oneLine_of_slices oneLine slices
  have bodyEq : (Source.ofString (String.ofList joined)).body = joined := by
    rw [Source.ofString, String.toList_ofList,
      normalizeLineEnds_of_oneLine (isJoined.oneLine partsOneLine)]
  rw [partsEq] at isJoined
  obtain ⟨gap, lexes, isGap⟩ := isJoined.lexes areFree
  rw [← bodyEq] at lexes
  obtain ⟨again, position, againCarries, tokenizedAgain⟩ := lexes.tokens isGap
  refine ⟨_, tokenizedAgain, ?_⟩
  rw [tokensEq, List.map_append, List.map_append, map_content_of_carries againCarries carries]
  rfl

/-- A mark, a name of two bytes, a comment and a string. -/
def commented : String :=
  "<é #x\r\n'b'"

def commentedTokens : List Token :=
  [⟨.lessThan, none, 0, 1⟩, ⟨.name, some "é", 1, 3⟩, ⟨.string, some "b", 7, 10⟩]

theorem tokens_tile_commented :
    (Source.ofString commented).tokens = .ok (commentedTokens ++ [.eof 10]) ∧
      (Source.ofString commented).Tiled (commentedTokens ++ [.eof 10]) ∧
      Joined [['<'], ['é'], ['\'', 'b', '\'']] "<#y\té\né\t'b'".toList ∧
      ∃ again, (Source.ofString "<#y\té\né\t'b'").tokens = .ok again ∧
        again.map Token.content = (commentedTokens ++ [Token.eof 10]).map Token.content := by
  have tokenized : (Source.ofString commented).tokens = .ok (commentedTokens ++ [.eof 10]) := by
    decide +kernel
  have oneLine : ∀ c ∈ ['y', '\t', 'é'], isForbidden c = false := by
    simp only [List.forall_mem_cons]
    exact ⟨rfl, rfl, rfl, List.forall_mem_nil _⟩
  have joined : Joined [['<'], ['é'], ['\'', 'b', '\'']] "<#y\té\né\t'b'".toList :=
    @Joined.cons ['<'] ['#', 'y', '\t', 'é', '\n'] _ _
      (@IsGap.comment False ['y', '\t', 'é'] [] oneLine .nil) (by decide)
      (@Joined.cons ['é'] ['\t'] _ _ (.blank (.inr (.inl rfl)) .nil) (by decide) .last)
  obtain ⟨tiled, rejoin⟩ := (tokens_tile commented).2 _ tokenized
  have slices : List.Forall₂
      (fun token part => (Source.ofString commented).IsSlice token.start token.stop part)
      commentedTokens [['<'], ['é'], ['\'', 'b', '\'']] := by
    refine .cons ⟨[], ['é', ' ', '#', 'x', '\n', '\'', 'b', '\''], ?_⟩
      (.cons ⟨['<'], [' ', '#', 'x', '\n', '\'', 'b', '\''], ?_⟩
        (.cons ⟨['<', 'é', ' ', '#', 'x', '\n'], [], ?_⟩ .nil))
    · decide +kernel
    · decide +kernel
    · decide +kernel
  have again := rejoin _ _ _ rfl slices joined
  rw [String.ofList_toList] at again
  exact ⟨tokenized, tiled, joined, again⟩

end QueryPlanner.Condition
