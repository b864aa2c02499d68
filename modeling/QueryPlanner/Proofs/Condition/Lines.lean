import QueryPlanner.Proofs.Condition.Literals
import QueryPlanner.Proofs.Outcomes

/-!
# Lexemes keep to their line

No lexeme goes past a line feed.  So the front of a text is read in the same way, or fails in both
cases, whether the text ends or a line feed follows it with anything behind that.
-/

namespace QueryPlanner.Condition

open QueryPlanner.Number QueryPlanner.Text

/-- What may stand behind a line: nothing, or a line feed and more. -/
def EndsLine (tail : List Char) : Prop :=
  ∀ c ∈ tail.head?, c = '\n'

namespace EndsLine

variable {tail : List Char} (ends : EndsLine tail) (text : List Char)
include ends

theorem cases : tail = [] ∨ ∃ more, tail = '\n' :: more := by
  cases tail with
  | nil => exact .inl rfl
  | cons c more =>
      obtain rfl : c = '\n' := ends c rfl
      exact .inr ⟨more, rfl⟩

theorem exists_of_append_eq {text written left : List Char}
    (same : text ++ tail = written ++ left) (oneLine : '\n' ∉ written) :
    ∃ behind, text = written ++ behind ∧ left = behind ++ tail := by
  rcases List.append_eq_append_iff.mp same with ⟨beyond, writtenEq, tailEq⟩ | ⟨behind, textEq, leftEq⟩
  · cases beyond with
    | nil => exact ⟨[], by simp [writtenEq], tailEq.symm⟩
    | cons c beyond =>
        obtain rfl : c = '\n' := ends c (by rw [tailEq]; rfl)
        exact absurd (by simp [writtenEq]) oneLine
  · exact ⟨behind, textEq, leftEq⟩

theorem takeWhile_append {p : Char → Bool} (stops : p '\n' = false) :
    (text ++ tail).takeWhile p = text.takeWhile p := by
  induction text with
  | nil =>
      rcases ends.cases with rfl | ⟨more, rfl⟩
      · rfl
      · simp [stops]
  | cons c text inductionHypothesis =>
      rw [List.cons_append]
      by_cases continues : p c = true
      · simpa [continues] using inductionHypothesis
      · simp [continues]

theorem readNumber_append :
    (readNumber (text ++ tail)).toOption = (readNumber text).toOption := by
  refine Option.ext fun lexeme => ?_
  rw [toOption_eq_some, toOption_eq_some, readNumber_ok_iff, readNumber_ok_iff]
  constructor
  · rintro ⟨negative, numeral, left, textEq, endsNumber, rfl⟩
    obtain ⟨behind, rfl, rfl⟩ := ends.exists_of_append_eq textEq fun member =>
      absurd (mem_numberText member) (by decide)
    refine ⟨negative, numeral, behind, rfl, fun c isHead => endsNumber c ?_, rfl⟩
    rw [List.head?_append, Option.mem_def.mp isHead]
    rfl
  · rintro ⟨negative, numeral, left, rfl, endsNumber, rfl⟩
    refine ⟨negative, numeral, left ++ tail, by simp, fun c isHead => ?_, rfl⟩
    cases left with
    | nil =>
        obtain rfl : c = '\n' := ends c isHead
        exact ⟨rfl, fun _ _ => by decide, fun _ => by decide⟩
    | cons first left => exact endsNumber c isHead

theorem readString_append {quote : Char} (isQuote : IsQuote quote) :
    (readString quote (text ++ tail)).toOption = (readString quote text).toOption := by
  refine Option.ext fun lexeme => ?_
  rw [toOption_eq_some, toOption_eq_some, readString_ok_iff isQuote, readString_ok_iff isQuote]
  constructor
  · rintro ⟨items, value, left, textEq, decodes, rfl⟩
    have oneLine : '\n' ∉ items ++ [quote] := by
      rw [List.mem_append, List.mem_singleton, not_or]
      constructor
      · intro membership
        exact absurd (decodes.allowed _ membership) (by decide)
      · rcases isQuote with rfl | rfl <;> decide
    rw [List.append_cons] at textEq
    obtain ⟨behind, rfl, _⟩ := ends.exists_of_append_eq textEq oneLine
    exact ⟨items, value, behind, by simp, decodes, rfl⟩
  · rintro ⟨items, value, left, rfl, decodes, rfl⟩
    exact ⟨items, value, left ++ tail, by simp, decodes, rfl⟩

theorem readWord_append : readWord (text ++ tail) = readWord text := by
  rw [readWord, readWord, ends.takeWhile_append text (by decide +kernel)]

theorem punctuation?_append (c : Char) :
    punctuation? (c :: (text ++ tail)) = punctuation? (c :: text) := by
  rcases ends.cases with rfl | ⟨more, rfl⟩
  · rw [List.append_nil]
  conv => lhs; unfold punctuation?
  split
  case h_22 =>
    unfold punctuation?
    split
    case h_22 => rfl
    -- A mark in front of the shorter text would be in front of the longer one as well.
    all_goals
      rename_i same
      cases same
      exfalso
      solve_by_elim [rfl]
  case h_15 | h_17 | h_19 | h_21 =>
    rename_i single same
    cases same
    rw [punctuation?]
    exact fun left equality => single _ (congrArg (· ++ '\n' :: more) equality)
  all_goals
    rename_i same
    rcases text with _ | ⟨first, _ | ⟨second, rest⟩⟩ <;> cases same <;> rfl

/-- What stands behind the line has no part in the token at its front. -/
theorem readLexeme_append (c : Char) :
    (readLexeme c (text ++ tail)).toOption = (readLexeme c text).toOption := by
  unfold readLexeme
  dsimp only
  rw [ends.punctuation?_append, ← List.cons_append, ends.readWord_append]
  split
  next => rfl
  next =>
    split
    next => rfl
    next =>
      split
      next => rfl
      next =>
        split
        next => exact ends.readNumber_append (c :: text)
        next =>
          split
          next quotes => exact ends.readString_append text (isQuote_iff.mp quotes)
          next => rfl

end EndsLine

end QueryPlanner.Condition
