import QueryPlanner.Proofs.Condition.Numerals
import QueryPlanner.Proofs.Condition.Quotation

/-!
# What a lexeme takes from its text

A lexeme stands at the front of the text that is read and has at least one character.  A name
begins with a character that may begin one.
-/

namespace QueryPlanner.Condition

open QueryPlanner.Number QueryPlanner.Text

theorem readNumber_ok {text : List Char} {lexeme : Lexeme} (read : readNumber text = .ok lexeme) :
    (∃ left, text = lexeme.written ++ left) ∧ lexeme.written ≠ [] ∧
      (lexeme.kind = .int ∨ lexeme.kind = .float) ∧ lexeme.value = some lexeme.written := by
  obtain ⟨negative, numeral, left, rfl, _, rfl⟩ := readNumber_ok_iff.mp read
  refine ⟨⟨left, rfl⟩, ?_, ?_, rfl⟩
  · simp [numberLexeme, numberText, Numeral.chars, numeral.isDigits_whole.nonempty]
  · unfold numberLexeme
    dsimp only
    split
    · exact .inl rfl
    · exact .inr rfl

theorem readNumber_int {text : List Char} {lexeme : Lexeme} (read : readNumber text = .ok lexeme)
    (isInt : lexeme.kind = .int) : ∃ n, IsWholeNumeral lexeme.written n := by
  obtain ⟨negative, numeral, left, rfl, _, rfl⟩ := readNumber_ok_iff.mp read
  obtain ⟨noFraction, noPower⟩ : numeral.fraction = none ∧ numeral.power = none := by
    by_contra notWhole
    simp [numberLexeme, notWhole] at isInt
  have charsEq : numeral.chars = numeral.whole := by
    simp [Numeral.chars, Numeral.fractionChars, Numeral.powerChars, noFraction, noPower]
  unfold numberLexeme numberText
  dsimp only
  rw [charsEq]
  cases negative with
  | true => exact ⟨_, .negative numeral.isDigits_whole⟩
  | false => exact ⟨_, .unsigned numeral.isDigits_whole⟩

theorem punctuation?_some {text : List Char} {lexeme : Lexeme}
    (found : punctuation? text = some lexeme) :
    (∃ left, text = lexeme.written ++ left) ∧ lexeme.written ≠ [] ∧
      lexeme.kind ∉ [.eof, .name, .int, .float, .string, .boolean] := by
  unfold punctuation? at found
  split at found <;> cases found <;> exact ⟨⟨_, rfl⟩, by decide, by decide⟩

theorem continuesName_of_beginsName {c : Char} (begins : beginsName c = true) :
    continuesName c = true := by
  rcases Bool.or_eq_true_iff.mp begins with underscore | alphabetic
  · simp only [continuesName, underscore, Bool.true_or]
  · simp only [continuesName, isAlphanumeric, alphabetic, Bool.true_or, Bool.or_true]

theorem readWord_written {c : Char} {rest : List Char} (begins : beginsName c = true) :
    (readWord (c :: rest)).written = c :: rest.takeWhile continuesName := by
  simp [readWord, continuesName_of_beginsName begins]

theorem readWord_kind (text : List Char) :
    (readWord text).kind = .boolean ∨ (readWord text).kind = .name := by
  unfold readWord
  dsimp only
  split
  · exact .inl rfl
  · exact .inr rfl

/-- What is read is a mark, a word, a number or a string. -/
theorem readLexeme_cases {c : Char} {rest : List Char} {lexeme : Lexeme}
    (read : readLexeme c rest = .ok lexeme) :
    punctuation? (c :: rest) = some lexeme ∨
      beginsName c = true ∧ lexeme = readWord (c :: rest) ∨
      readNumber (c :: rest) = .ok lexeme ∨ IsQuote c ∧ readString c rest = .ok lexeme := by
  unfold readLexeme at read
  dsimp only at read
  split at read
  next => cases read
  next =>
    split at read
    next mark found =>
      cases read
      exact .inl found
    next =>
      split at read
      next begins =>
        cases read
        exact .inr (.inl ⟨begins, rfl⟩)
      next =>
        split at read
        next => exact .inr (.inr (.inl read))
        next =>
          split at read
          next quotes => exact .inr (.inr (.inr ⟨isQuote_iff.mp quotes, read⟩))
          next => cases read

theorem readLexeme_ok {c : Char} {rest : List Char} {lexeme : Lexeme}
    (read : readLexeme c rest = .ok lexeme) :
    (∃ left, c :: rest = lexeme.written ++ left) ∧ lexeme.written ≠ [] ∧ lexeme.kind ≠ .eof := by
  rcases readLexeme_cases read with isMark | ⟨begins, rfl⟩ | isNumber | ⟨isQuote, isString⟩
  · obtain ⟨front, nonempty, kind⟩ := punctuation?_some isMark
    exact ⟨front, nonempty, fun isEnd => kind (by simp [isEnd])⟩
  · refine ⟨⟨(c :: rest).dropWhile continuesName, ?_⟩, ?_, ?_⟩
    · exact List.takeWhile_append_dropWhile.symm
    · simp [readWord_written begins]
    · rcases readWord_kind (c :: rest) with kind | kind <;> rw [kind] <;> decide
  · obtain ⟨front, nonempty, kind, _⟩ := readNumber_ok isNumber
    exact ⟨front, nonempty, by rcases kind with kind | kind <;> rw [kind] <;> decide⟩
  · obtain ⟨items, value, left, rfl, _, rfl⟩ := (readString_ok_iff isQuote).mp isString
    exact ⟨⟨left, by simp⟩, by simp, nofun⟩

theorem readLexeme_name {c : Char} {rest : List Char} {lexeme : Lexeme}
    (read : readLexeme c rest = .ok lexeme) (isName : lexeme.kind = .name) :
    ∃ first word, lexeme.value = some (first :: word) ∧ beginsName first = true := by
  rcases readLexeme_cases read with isMark | ⟨begins, rfl⟩ | isNumber | ⟨isQuote, isString⟩
  · exact absurd (by simp [isName]) (punctuation?_some isMark).2.2
  · exact ⟨c, rest.takeWhile continuesName, congrArg some (readWord_written begins), begins⟩
  · obtain ⟨_, _, kind, _⟩ := readNumber_ok isNumber
    rcases kind with kind | kind <;> rw [kind] at isName <;> cases isName
  · obtain ⟨_, _, _, _, _, rfl⟩ := (readString_ok_iff isQuote).mp isString
    cases isName

theorem readLexeme_int {c : Char} {rest : List Char} {lexeme : Lexeme}
    (read : readLexeme c rest = .ok lexeme) (isInt : lexeme.kind = .int) :
    ∃ numeral n, lexeme.value = some numeral ∧ IsWholeNumeral numeral n := by
  rcases readLexeme_cases read with isMark | ⟨begins, rfl⟩ | isNumber | ⟨isQuote, isString⟩
  · exact absurd (by simp [isInt]) (punctuation?_some isMark).2.2
  · rcases readWord_kind (c :: rest) with kind | kind <;> rw [kind] at isInt <;> cases isInt
  · obtain ⟨n, numeral⟩ := readNumber_int isNumber isInt
    exact ⟨lexeme.written, n, (readNumber_ok isNumber).2.2.2, numeral⟩
  · obtain ⟨_, _, _, _, _, rfl⟩ := (readString_ok_iff isQuote).mp isString
    cases isInt

section Faults

variable {c : Char} {rest : List Char} {misread : Misread}

theorem unescape_error {text : List Char} {cause : SyntaxCause}
    (failed : unescape c text = .error cause) : cause ≠ .unterminatedString := by
  rintro rfl
  unfold unescape at failed
  split at failed
  next =>
    unfold unescapeUnit at failed
    repeat' split at failed
    all_goals cases failed
  next =>
    split at failed
    next => cases failed
    next => cases failed

theorem readQuoted_error {quote : Char} {opening text : List Char}
    (failed : readQuoted quote opening text = .error misread) :
    misread = ⟨.unterminatedString, opening⟩ ∨
      misread.cause ≠ .unterminatedString ∧ ∃ front, text = front ++ misread.left := by
  fun_induction readQuoted quote opening text with
  | case1 =>
      cases failed
      exact .inl rfl
  | case2 =>
      cases failed
      exact .inl rfl
  | case3 => cases failed
  | case4 =>
      cases failed
      refine .inr ⟨?_, [], rfl⟩
      rintro ⟨⟩
  | case5 =>
      cases failed
      exact .inl rfl
  | case6 escaped tail cause found =>
      cases failed
      exact .inr ⟨unescape_error found, [], rfl⟩
  | case7 escaped tail decoded after found shorter notEnd notQuote allowed inductionHypothesis =>
      obtain ⟨written, writtenEq, _⟩ := isEscape_of_unescape found
      refine (inductionHypothesis (error_of_map_error failed)).imp_right fun further => ?_
      obtain ⟨terminated, front, rfl⟩ := further
      exact ⟨terminated, written ++ front, by rw [writtenEq, List.append_assoc]⟩
  | case8 other rest notEnd notQuote allowed plain inductionHypothesis =>
      refine (inductionHypothesis (error_of_map_error failed)).imp_right fun further => ?_
      obtain ⟨terminated, front, rfl⟩ := further
      exact ⟨terminated, other :: front, rfl⟩

theorem readLexeme_error (failed : readLexeme c rest = .error misread) :
    ∃ front, c :: rest = front ++ misread.left ∧
      (misread.cause = .unterminatedString → front = [] ∧ IsQuote c) := by
  unfold readLexeme at failed
  dsimp only at failed
  split at failed
  next =>
    cases failed
    refine ⟨[], rfl, ?_⟩
    rintro ⟨⟩
  next =>
    split at failed
    next => cases failed
    next =>
      split at failed
      next => cases failed
      next =>
        split at failed
        next =>
          obtain ⟨front, textEq, breaks⟩ := breaksNumber_of_readNumber failed
          refine ⟨front, textEq, fun unterminated => ?_⟩
          rcases breaks.causes with ⟨_, _, _, _, _, causeEq⟩ | ⟨_, _, causeEq⟩
          · cases unterminated.symm.trans causeEq
          · cases unterminated.symm.trans causeEq
        next =>
          split at failed
          next quotes =>
            have quotedFailed : readQuoted c (c :: rest) rest = .error misread := by
              cases quoted : readQuoted c (c :: rest) rest with
              | error other =>
                  rw [readString, quoted] at failed
                  cases failed
                  rfl
              | ok pair =>
                  rw [readString, quoted] at failed
                  cases failed
            rcases readQuoted_error quotedFailed with rfl | ⟨terminated, front, rfl⟩
            · exact ⟨[], rfl, fun _ => ⟨rfl, isQuote_iff.mp quotes⟩⟩
            · exact ⟨c :: front, rfl, fun unterminated => absurd unterminated terminated⟩
          next =>
            cases failed
            refine ⟨[], rfl, ?_⟩
            rintro ⟨⟩

end Faults

end QueryPlanner.Condition
