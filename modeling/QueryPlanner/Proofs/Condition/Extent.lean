import QueryPlanner.Proofs.Condition.Literals

/-!
# How far a lexeme extends

A lexeme ends where its characters say so: the same characters are read as the same lexeme in
front of any other text, provided that this is nothing or begins with space or a comment.
-/

namespace QueryPlanner.Condition

open QueryPlanner.Number QueryPlanner.Text

/-- Nothing, or a text that begins with a character between tokens. -/
def Detached (rest : List Char) : Prop :=
  rest = [] ∨ ∃ c tail, rest = c :: tail ∧ (isSpace c = true ∨ c = '#')

namespace Detached

variable {rest : List Char}

theorem head_cases (detached : Detached rest) :
    ∀ c ∈ rest.head?, c = ' ' ∨ c = '\t' ∨ c = '\n' ∨ c = '\r' ∨ c = '\uFEFF' ∨ c = '#' := by
  intro c isHead
  rcases detached with rfl | ⟨first, tail, rfl, between⟩
  · cases isHead
  · cases isHead
    simpa only [isSpace, Bool.or_eq_true, decide_eq_true_eq, or_assoc] using between

theorem takeWhile_continuesName (detached : Detached rest) :
    rest.takeWhile continuesName = [] := by
  cases rest with
  | nil => rfl
  | cons c tail =>
      have ends : continuesName c = false := by
        rcases detached.head_cases c rfl with rfl | rfl | rfl | rfl | rfl | rfl <;> decide +kernel
      rw [List.takeWhile_cons_of_neg (Bool.eq_false_iff.mp ends)]

end Detached

section Punctuation

theorem punctuation?_followed {text rest : List Char} {lexeme : Lexeme}
    (found : punctuation? text = some lexeme) (detached : Detached rest) :
    punctuation? (lexeme.written ++ rest) = some lexeme := by
  have heads := detached.head_cases
  unfold punctuation? at found
  split at found <;> cases found
  case h_15 | h_17 | h_19 | h_21 =>
    cases rest with
    | nil => rfl
    | cons c tail =>
        rcases heads c rfl with rfl | rfl | rfl | rfl | rfl | rfl <;> rfl
  all_goals rfl

theorem punctuation?_of_beginsName {c : Char} (begins : beginsName c = true) (rest : List Char) :
    punctuation? (c :: rest) = none := by
  unfold punctuation?
  split
  all_goals
    first
    | rfl
    | rename_i same
      cases same
      revert begins
      decide

end Punctuation

theorem Detached.endsNumber {rest : List Char} (detached : Detached rest) (numeral : Numeral) :
    EndsNumber numeral rest := by
  intro c isHead
  rcases detached.head_cases c isHead with rfl | rfl | rfl | rfl | rfl | rfl <;>
    exact ⟨rfl, fun _ _ => by decide, fun _ => by decide⟩

theorem readNumber_followed {text rest : List Char} {lexeme : Lexeme}
    (read : readNumber text = .ok lexeme) (detached : Detached rest) :
    readNumber (lexeme.written ++ rest) = .ok lexeme := by
  obtain ⟨negative, numeral, left, _, _, rfl⟩ := readNumber_ok_iff.mp read
  exact readNumber_append (detached.endsNumber numeral)

theorem readWord_followed {c : Char} {tail rest : List Char} (begins : beginsName c = true)
    (detached : Detached rest) :
    readWord (c :: (tail.takeWhile continuesName ++ rest)) = readWord (c :: tail) := by
  have wordEq : (c :: (tail.takeWhile continuesName ++ rest)).takeWhile continuesName =
      (c :: tail).takeWhile continuesName := by
    have continues := continuesName_of_beginsName begins
    rw [List.takeWhile_cons_of_pos continues, List.takeWhile_cons_of_pos continues,
      List.takeWhile_append_of_pos (List.all_eq_true.mp List.all_takeWhile),
      detached.takeWhile_continuesName, List.append_nil]
  unfold readWord
  rw [wordEq]

/-- The characters of a lexeme are read as the same lexeme in front of anything that stands
between tokens. -/
theorem readLexeme_followed {c : Char} {tail rest : List Char} {lexeme : Lexeme}
    (read : readLexeme c tail = .ok lexeme) (detached : Detached rest) :
    ∃ shown, lexeme.written = c :: shown ∧ readLexeme c (shown ++ rest) = .ok lexeme := by
  obtain ⟨⟨left, front⟩, nonempty, _⟩ := readLexeme_ok read
  obtain ⟨first, shown, written⟩ := List.exists_cons_of_ne_nil nonempty
  rw [written, List.cons_append, List.cons.injEq] at front
  obtain ⟨rfl, tailEq⟩ := front
  refine ⟨shown, written, ?_⟩
  unfold readLexeme at read
  dsimp only at read
  split at read
  next => cases read
  next allowed =>
    have isAllowed := Bool.eq_false_iff.mpr allowed
    split at read
    next mark found =>
      cases read
      have found := punctuation?_followed found detached
      rw [written, List.cons_append] at found
      simp only [readLexeme, isAllowed, found, Bool.false_eq_true, if_false]
    next =>
      split at read
      next begins =>
        cases read
        have shownEq : shown = tail.takeWhile continuesName :=
          (List.cons.inj (written.symm.trans (readWord_written begins))).2
        rw [readLexeme_word isAllowed (punctuation?_of_beginsName begins _) begins, shownEq]
        exact congrArg Except.ok (readWord_followed begins detached)
      next =>
        split at read
        next isNumber =>
          have begins : c.isDigit = true ∨ c = '-' := by simpa using isNumber
          have again := readNumber_followed read detached
          rw [readLexeme_number begins, ← List.cons_append, ← written]
          exact again
        next =>
          split at read
          next quotes =>
            have isQuote := isQuote_iff.mp quotes
            obtain ⟨items, value, left, _, decodes, rfl⟩ := (readString_ok_iff isQuote).mp read
            obtain rfl : items ++ [c] = shown := (List.cons.inj written).2
            rw [readLexeme_quote isQuote, readString_ok_iff isQuote]
            exact ⟨items, value, rest, by simp, decodes, rfl⟩
          next => cases read

end QueryPlanner.Condition
