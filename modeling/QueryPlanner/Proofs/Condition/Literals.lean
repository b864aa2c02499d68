import QueryPlanner.Proofs.Condition.Spelling
import QueryPlanner.Proofs.Text.Trimming

/-!
# Spellings of literals

The text of a literal in a condition spells one token, whose value is the text of the literal.
-/

namespace QueryPlanner.Condition

open QueryPlanner.Number QueryPlanner.Text

section Strings

theorem spells_string (text : List Char) :
    Spells (conditionString text) fun tokens => ∃ token, tokens = [token] ∧
      token.kind = .string ∧ token.value = some (String.ofList text) := by
  refine Spells.single .string (some text) (conditionString_oneLine text) fun rest separated => ?_
  refine ⟨'\'', text.flatMap conditionChar ++ ['\''], rfl, by decide, by decide, ?_⟩
  rw [readLexeme_quote (.inl rfl), readString_ok_iff (.inl rfl)]
  exact ⟨text.flatMap conditionChar, text, rest, by simp, decodes_conditionString text, rfl⟩

end Strings

section Words

theorem takeWhile_continuesName {word rest : List Char}
    (continues : ∀ c ∈ word, continuesName c = true) (separated : Separated rest) :
    (word ++ rest).takeWhile continuesName = word := by
  have spaceEnds : continuesName ' ' = false := by decide
  rw [List.takeWhile_append_of_pos continues]
  rcases separated with rfl | ⟨tail, rfl⟩
  · simp
  · simp [spaceEnds]

theorem readLexeme_word {c : Char} {rest : List Char} (allowed : isForbidden c = false)
    (noMark : punctuation? (c :: rest) = none) (begins : beginsName c = true) :
    readLexeme c rest = .ok (readWord (c :: rest)) := by
  simp [readLexeme, allowed, noMark, begins]

theorem spells_bool (b : Bool) :
    Spells (boolText b) fun tokens => ∃ token, tokens = [token] ∧ token.kind = .boolean ∧
      token.value = some (String.ofList (boolText b)) := by
  have continues : ∀ c ∈ boolText b, continuesName c = true := by
    apply List.all_eq_true.mp
    cases b <;> decide
  have isTruth : isTruthValue (boolText b) = true := by
    cases b <;> decide
  refine Spells.single .boolean (some (boolText b)) (by cases b <;> decide) fun rest separated => ?_
  have word : readWord (boolText b ++ rest) = ⟨.boolean, boolText b, some (boolText b)⟩ := by
    simp [readWord, takeWhile_continuesName continues separated, isTruth]
  cases b with
  | true =>
      refine ⟨'t', ['r', 'u', 'e'], rfl, by decide, by decide, ?_⟩
      exact (readLexeme_word (by decide) rfl (by decide)).trans (congrArg Except.ok word)
  | false =>
      refine ⟨'f', ['a', 'l', 's', 'e'], rfl, by decide, by decide, ?_⟩
      exact (readLexeme_word (by decide) rfl (by decide)).trans (congrArg Except.ok word)

end Words

section Numbers

theorem Separated.endsNumber {rest : List Char} (separated : Separated rest) (numeral : Numeral) :
    EndsNumber numeral rest := by
  rcases separated with rfl | ⟨tail, rfl⟩
  · exact nofun
  · rintro c ⟨⟩
    exact ⟨rfl, fun _ _ => by decide, fun _ => by decide⟩

theorem punctuation?_number {c : Char} (begins : c.isDigit = true ∨ c = '-') (rest : List Char) :
    punctuation? (c :: rest) = none := by
  unfold punctuation?
  split
  all_goals
    first
    | rfl
    | rename_i same
      cases same
      revert begins
      decide

theorem beginsName_number {c : Char} (begins : c.isDigit = true ∨ c = '-') :
    beginsName c = false := by
  rcases begins with isDigit | rfl
  · have bounds := toNat_of_isDigit isDigit
    have notUnderscore : c ≠ '_' := by
      rintro rfl
      cases isDigit
    have notAlphabetic : isAlphabetic c = false := by
      rw [isAlphabetic, alphabeticRanges, inRanges, if_pos (by omega)]
    simp [beginsName, notUnderscore, notAlphabetic]
  · decide

theorem isForbidden_number {c : Char} (begins : c.isDigit = true ∨ c = '-') :
    isForbidden c = false := by
  rcases begins with isDigit | rfl
  · have bounds := toNat_of_isDigit isDigit
    have notSmall : ¬c.toNat < 0x20 := by omega
    simp [isForbidden, notSmall]
  · decide

theorem readLexeme_number {c : Char} (begins : c.isDigit = true ∨ c = '-') (rest : List Char) :
    readLexeme c rest = readNumber (c :: rest) := by
  rw [readLexeme, isForbidden_number begins]
  simp [punctuation?_number begins, beginsName_number begins, begins]

theorem isSpace_number {c : Char} (begins : c.isDigit = true ∨ c = '-') :
    isSpace c = false ∧ c ≠ '#' := by
  constructor
  · cases space : isSpace c with
    | false => rfl
    | true =>
        simp only [isSpace, Bool.or_eq_true, decide_eq_true_eq, or_assoc] at space
        rcases space with rfl | rfl | rfl | rfl | rfl <;> revert begins <;> decide
  · rintro rfl
    revert begins
    decide

theorem spells_number (negative : Bool) (numeral : Numeral) :
    Spells (minusSign negative ++ numeral.chars) fun tokens => ∃ token, tokens = [token] ∧
      token.kind = (if numeral.fraction = none ∧ numeral.power = none then .int else .float) ∧
      token.value = some (String.ofList (minusSign negative ++ numeral.chars)) := by
  have oneLine : '\r' ∉ minusSign negative ++ numeral.chars := fun member =>
    absurd (mem_numberText member) (by decide)
  refine Spells.single _ (some (minusSign negative ++ numeral.chars)) oneLine
    fun rest separated => ?_
  obtain ⟨c, tail, textEq, begins⟩ : ∃ c tail, minusSign negative ++ numeral.chars = c :: tail ∧
      (c.isDigit = true ∨ c = '-') := by
    cases negative with
    | true => exact ⟨'-', numeral.chars, rfl, .inr rfl⟩
    | false =>
        obtain ⟨c, tail, wholeEq⟩ := List.exists_cons_of_ne_nil numeral.isDigits_whole.nonempty
        refine ⟨c, tail ++ numeral.fractionChars ++ numeral.powerChars, ?_, .inl ?_⟩
        · simp [minusSign, Numeral.chars, wholeEq]
        · exact numeral.isDigits_whole.digits c (by simp [wholeEq])
  refine ⟨c, tail, textEq, (isSpace_number begins).1, (isSpace_number begins).2, ?_⟩
  rw [readLexeme_number begins, ← List.cons_append, ← textEq]
  exact readNumber_append (separated.endsNumber numeral)

end Numbers

end QueryPlanner.Condition
