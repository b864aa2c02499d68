import QueryPlanner.Proofs.Condition.Literals

/-!
# Numbers in a source

Where a digit or a minus sign stands in a source, there is a number token exactly if some number
stands there that ends, and the fault is at the first character that goes on with none.
-/

namespace QueryPlanner.Condition

open QueryPlanner.Number QueryPlanner.Text

section Sources

variable {source : Source} {place : Nat} {c : Char} {rest : List Char}

theorem tokenAt_number (begins : c.isDigit = true ∨ c = '-')
    (dropped : dropBytes place source.body = some (c :: rest)) :
    source.tokenAt place = match readNumber (c :: rest) with
      | .ok lexeme => .ok ⟨lexeme.kind, lexeme.value.map String.ofList, place,
          place + byteLength lexeme.written⟩
      | .error misread => .error ⟨misread.cause, source,
          place + (byteLength (c :: rest) - byteLength misread.left)⟩ := by
  obtain ⟨notSpace, notComment⟩ := isSpace_number begins
  have spanned := spanIgnored_cons notSpace notComment rest
  simp only [Source.tokenAt, dropped, Source.scanText, spanned, readLexeme_number begins]
  cases readNumber (c :: rest) with
  | ok lexeme => rfl
  | error misread => rfl

theorem tokenAt_number_ok_iff (begins : c.isDigit = true ∨ c = '-')
    (dropped : dropBytes place source.body = some (c :: rest)) {token : Token} :
    source.tokenAt place = .ok token ↔
      ∃ negative numeral left, c :: rest = numberText negative numeral ++ left ∧
        EndsNumber numeral left ∧
        token = ⟨if numeral.fraction = none ∧ numeral.power = none then .int else .float,
          some (String.ofList (numberText negative numeral)), place,
          place + byteLength (numberText negative numeral)⟩ := by
  rw [tokenAt_number begins dropped]
  constructor
  · intro read
    split at read
    next lexeme lexemeRead =>
      obtain ⟨negative, numeral, left, textEq, ends, rfl⟩ := readNumber_ok_iff.mp lexemeRead
      cases read
      exact ⟨negative, numeral, left, textEq, ends, rfl⟩
    next => cases read
  · rintro ⟨negative, numeral, left, textEq, ends, rfl⟩
    rw [textEq, readNumber_append ends]
    rfl

theorem tokenAt_number_error (begins : c.isDigit = true ∨ c = '-')
    (dropped : dropBytes place source.body = some (c :: rest)) {fault : SyntaxFault}
    (failed : source.tokenAt place = .error fault) :
    ∃ front left, c :: rest = front ++ left ∧ BreaksNumber front left.head? fault.cause ∧
      fault.source = source ∧ fault.offset = place + byteLength front := by
  rw [tokenAt_number begins dropped] at failed
  split at failed
  next => cases failed
  next misread misreadRead =>
    obtain ⟨front, textEq, breaks⟩ := breaksNumber_of_readNumber misreadRead
    cases failed
    refine ⟨front, misread.left, textEq, breaks, rfl, ?_⟩
    rw [textEq, byteLength_append, Nat.add_sub_cancel]

end Sources

/-- Where a digit or a minus sign stands in a source there is a token exactly if what follows is the
text of a number and then something that the number could not go on with.  There is one such number
at most.  Its text is the value of the token and its extent, and the token is a whole number if the
text has neither a fraction nor a power.  If there is none, the fault is behind the longest front of
a number that stands there: at a digit behind a leading zero, or where a digit is missing. -/
theorem numbers_read_exactly (source : Source) (place : Nat) (c : Char) (rest : List Char)
    (begins : c.isDigit = true ∨ c = '-')
    (dropped : dropBytes place source.body = some (c :: rest)) :
    (∀ token, source.tokenAt place = .ok token ↔
      ∃ negative numeral left, c :: rest = numberText negative numeral ++ left ∧
        EndsNumber numeral left ∧
        token = ⟨if numeral.fraction = none ∧ numeral.power = none then .int else .float,
          some (String.ofList (numberText negative numeral)), place,
          place + byteLength (numberText negative numeral)⟩) ∧
    (∀ (negative otherNegative : Bool) (numeral other : Numeral) (left otherLeft : List Char),
      c :: rest = numberText negative numeral ++ left → EndsNumber numeral left →
      c :: rest = numberText otherNegative other ++ otherLeft → EndsNumber other otherLeft →
        numberText negative numeral = numberText otherNegative other) ∧
    ∀ fault, source.tokenAt place = .error fault →
      ∃ front left, c :: rest = front ++ left ∧ fault.source = source ∧
        fault.offset = place + byteLength front ∧ IsNumberFront front ∧
        (∀ d ∈ left.head?, ¬IsNumberFront (front ++ [d])) ∧
        ((∃ negative d, front = minusSign negative ++ ['0'] ∧ left.head? = some d ∧
            d.isDigit = true ∧ fault.cause = .digitAfterZero d) ∨
          (∀ negative numeral, front ≠ numberText negative numeral) ∧
            (∀ d ∈ left.head?, d.isDigit = false) ∧ fault.cause = .missingDigit left.head?) := by
  refine ⟨fun token => tokenAt_number_ok_iff begins dropped, ?_, fun fault failed => ?_⟩
  · intro negative otherNegative numeral other left otherLeft textEq ends otherEq otherEnds
    have read : readNumber (c :: rest) = .ok (numberLexeme negative numeral) := by
      rw [textEq, readNumber_append ends]
    have otherRead : readNumber (c :: rest) = .ok (numberLexeme otherNegative other) := by
      rw [otherEq, readNumber_append otherEnds]
    exact congrArg Lexeme.written (Except.ok.inj (read.symm.trans otherRead))
  · obtain ⟨front, left, textEq, breaks, sourceEq, offsetEq⟩ :=
      tokenAt_number_error begins dropped failed
    refine ⟨front, left, textEq, sourceEq, offsetEq, breaks.isNumberFront, fun d isHead => ?_, ?_⟩
    · rw [Option.mem_def.mp isHead] at breaks
      exact breaks.not_isNumberFront
    · exact breaks.causes

/-- A number with all its parts behind a character of two bytes, and one whose power has no
digit. -/
theorem numbers_read_exactly_power :
    (('-'.isDigit = true ∨ '-' = '-') ∧
      dropBytes 2 "é-0.50E+07:".toList = some "-0.50E+07:".toList ∧
      Source.tokenAt ⟨"é-0.50E+07:".toList⟩ 2 = .ok ⟨.float, some "-0.50E+07", 2, 11⟩) ∧
    ('1'.isDigit = true ∨ '1' = '-') ∧
      dropBytes 0 "1.5e+x".toList = some "1.5e+x".toList ∧
      Source.tokenAt ⟨"1.5e+x".toList⟩ 0 =
        .error ⟨.missingDigit (some 'x'), ⟨"1.5e+x".toList⟩, 5⟩ ∧
      IsNumberFront "1.5e+".toList ∧ ¬IsNumberFront "1.5e+x".toList := by
  have negative : '-'.isDigit = true ∨ '-' = '-' := .inr rfl
  have unsigned : '1'.isDigit = true ∨ '1' = '-' := .inl rfl
  have dropped : dropBytes 2 "é-0.50E+07:".toList = some "-0.50E+07:".toList := by decide +kernel
  have droppedNone : dropBytes 0 "1.5e+x".toList = some "1.5e+x".toList := rfl
  have fraction : IsDigits ['5', '0'] := ⟨by decide, List.all_eq_true.mp rfl⟩
  let power : Power := ⟨'E', ['+'], ['0', '7'], .inr rfl, .inr (.inl rfl), by decide,
    List.all_eq_true.mp rfl⟩
  let numeral : Numeral := ⟨['0'], some ['5', '0'], some power, .inl rfl, by simpa using fraction⟩
  have ends : EndsNumber numeral [':'] := by
    rintro c ⟨⟩
    exact ⟨rfl, nofun, nofun⟩
  obtain ⟨tokens, _, _⟩ :=
    numbers_read_exactly ⟨"é-0.50E+07:".toList⟩ 2 '-' "0.50E+07:".toList negative dropped
  obtain ⟨_, _, faults⟩ :=
    numbers_read_exactly ⟨"1.5e+x".toList⟩ 0 '1' ".5e+x".toList unsigned droppedNone
  have failed : Source.tokenAt ⟨"1.5e+x".toList⟩ 0 =
      .error ⟨.missingDigit (some 'x'), ⟨"1.5e+x".toList⟩, 5⟩ := by decide +kernel
  obtain ⟨front, left, textEq, _, offsetEq, isFront, goesOn, _⟩ := faults _ failed
  obtain rfl : left = ['x'] := by
    have behind := dropBytes_byteLength_append front left
    rw [← textEq, ← Nat.zero_add (byteLength front), ← offsetEq] at behind
    exact (Option.some.inj behind).symm
  obtain rfl : front = "1.5e+".toList :=
    List.append_cancel_right (textEq.symm.trans (rfl : _ = "1.5e+".toList ++ ['x']))
  exact ⟨⟨negative, dropped, (tokens _).mpr ⟨true, numeral, [':'], rfl, ends, rfl⟩⟩,
    unsigned, droppedNone, failed, isFront, goesOn 'x' rfl⟩

end QueryPlanner.Condition
