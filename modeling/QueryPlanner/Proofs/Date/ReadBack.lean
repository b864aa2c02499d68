import QueryPlanner.Date.Reading
import QueryPlanner.Date.Written
import QueryPlanner.Proofs.Number.Written
import QueryPlanner.Proofs.Text.Trimming

/-!
# Dates read back from their text

Every date and time is read back from its written form, and only texts that a digit, a sign or
white space begins are dates.
-/

namespace QueryPlanner.Date

open QueryPlanner.Number QueryPlanner.Text

theorem zeroPadded_eq (width n : Nat) :
    zeroPadded width n =
      List.replicate (width - (Nat.toDigits 10 n).length) '0' ++ Nat.toDigits 10 n := by
  simp [zeroPadded, List.leftpad]

theorem isDigits_zeroPadded (width n : Nat) : IsDigits (zeroPadded width n) := by
  rw [zeroPadded_eq]
  refine ⟨by simp, fun c membership => ?_⟩
  rcases List.mem_append.mp membership with inZeros | inDigits
  · exact zeros_areDigits _ c inZeros
  · exact (isDigits_toDigits n).digits c inDigits

@[simp]
theorem ofDigits_zeroPadded (width n : Nat) : ofDigits (zeroPadded width n) = n := by
  rw [zeroPadded_eq, ofDigits_append]
  simp

theorem length_zeroPadded {width n : Nat} (positive : 0 < width) (fits : n < 10 ^ width) :
    (zeroPadded width n).length = width := by
  have short := (Nat.length_toDigits_le_iff (by omega) positive).mpr fits
  rw [zeroPadded_eq, List.length_append, List.length_replicate]
  omega

theorem trimStart_append {digits : List Char} (isDigits : IsDigits digits) (rest : List Char) :
    trimStart (digits ++ rest) = digits ++ rest := by
  refine trimStart_eq_self fun c found => ?_
  rw [List.head?_append_of_ne_nil _ isDigits.nonempty] at found
  exact isBlank_of_isDigit (isDigits.digits c (List.mem_of_mem_head? found))

theorem readUpTo?_append {digits rest : List Char} {width : Nat} (isDigits : IsDigits digits)
    (fits : digits.length ≤ width) (stops : BeginsWithoutDigit rest) :
    readUpTo? width (digits ++ rest) = some (ofDigits digits, rest) := by
  have spanned := congrArg Prod.fst (spanDigits_append isDigits.digits stops)
  simp only [spanDigits] at spanned
  simp [readUpTo?, spanned, List.take_of_length_le fits, isDigits.nonempty]

theorem readDigits?_append {digits rest : List Char} (isDigits : IsDigits digits)
    (stops : BeginsWithoutDigit rest) :
    readDigits? (digits ++ rest) = some (ofDigits digits, rest) := by
  simp [readDigits?, spanDigits_append isDigits.digits stops, isDigits.nonempty]

theorem readExactly?_append {digits : List Char} (isDigits : IsDigits digits)
    (rest : List Char) :
    readExactly? digits.length (digits ++ rest) = some (ofDigits digits, rest) := by
  have allDigits : digits.all Char.isDigit = true := List.all_eq_true.mpr isDigits.digits
  simp only [readExactly?, List.take_left, List.drop_left, allDigits, and_self, if_true]

theorem readYear?_append {digits rest : List Char} (isDigits : IsDigits digits)
    (fits : digits.length ≤ 4) (stops : BeginsWithoutDigit rest) :
    readYear? (digits ++ rest) = some ((ofDigits digits : Int), rest) := by
  have read := readUpTo?_append isDigits fits stops
  obtain ⟨c, tail, rfl⟩ := List.exists_cons_of_ne_nil isDigits.nonempty
  have isDigit := isDigits.digits c (by simp)
  rw [List.cons_append] at read ⊢
  unfold readYear?
  split
  next same =>
    cases same
    exact absurd isDigit (by decide)
  next same =>
    cases same
    exact absurd isDigit (by decide)
  next => rw [read, Option.map_some]

theorem readYear?_writeYear (year : Int) {rest : List Char} (stops : BeginsWithoutDigit rest) :
    readYear? (trimStart (writeYear year ++ rest)) = some (year, rest) := by
  have isDigits := isDigits_zeroPadded 4 year.natAbs
  unfold writeYear
  split
  next negative =>
    have kept : trimStart ('-' :: zeroPadded 4 year.natAbs ++ rest) =
        '-' :: (zeroPadded 4 year.natAbs ++ rest) := trimStart_eq_self (by simp; decide)
    simp only [kept, readYear?, readDigits?_append isDigits stops, Option.map_some,
      ofDigits_zeroPadded, Option.some.injEq, Prod.mk.injEq, and_true]
    omega
  next =>
    split
    next =>
      have kept : trimStart ('+' :: zeroPadded 4 year.natAbs ++ rest) =
          '+' :: (zeroPadded 4 year.natAbs ++ rest) := trimStart_eq_self (by simp; decide)
      simp only [kept, readYear?, readDigits?_append isDigits stops, Option.map_some,
        ofDigits_zeroPadded, Option.some.injEq, Prod.mk.injEq, and_true]
      omega
    next =>
      have length : (zeroPadded 4 year.natAbs).length = 4 :=
        length_zeroPadded (by omega) (by omega)
      rw [trimStart_append isDigits]
      rw [readYear?_append isDigits length.le stops, ofDigits_zeroPadded, Option.some.injEq,
        Prod.mk.injEq]
      exact ⟨by omega, rfl⟩

theorem readUpTo?_zeroPadded {n : Nat} (fits : n < 100) {rest : List Char}
    (stops : BeginsWithoutDigit rest) :
    readUpTo? 2 (trimStart (zeroPadded 2 n ++ rest)) = some (n, rest) := by
  have isDigits := isDigits_zeroPadded 2 n
  have length : (zeroPadded 2 n).length = 2 := length_zeroPadded (by omega) (by omega)
  rw [trimStart_append isDigits, readUpTo?_append isDigits length.le stops, ofDigits_zeroPadded]

theorem readNanosecond?_zeroPadded {width n : Nat} (positive : 0 < width) (atMost : width ≤ 9)
    (fits : n < 10 ^ width) :
    readNanosecond? (zeroPadded width n) = some (n * 10 ^ (9 - width), []) := by
  have isDigits := isDigits_zeroPadded width n
  have length := length_zeroPadded positive fits
  have ends : BeginsWithoutDigit [] := by
    intro c found
    cases found
  have spanned := spanDigits_append isDigits.digits ends
  rw [List.append_nil] at spanned
  have kept : (zeroPadded width n).take 9 = zeroPadded width n :=
    List.take_of_length_le (by omega)
  simp [readNanosecond?, spanned, kept, isDigits.nonempty, length]

theorem readFraction?_writeFraction {nanosecond : Nat} (fits : nanosecond < 10 ^ 9) :
    readFraction? (writeFraction nanosecond) = some (nanosecond, []) := by
  unfold writeFraction
  split
  next zero => simp [readFraction?, zero]
  next =>
    split
    next millis =>
      simp only [readFraction?]
      rw [readNanosecond?_zeroPadded (by omega) (by omega) (by omega)]
      simp only [Option.some.injEq, Prod.mk.injEq, and_true]
      omega
    next =>
      split
      next micros =>
        simp only [readFraction?]
        rw [readNanosecond?_zeroPadded (by omega) (by omega) (by omega)]
        simp only [Option.some.injEq, Prod.mk.injEq, and_true]
        omega
      next =>
        simp only [readFraction?]
        rw [readNanosecond?_zeroPadded (by omega) (by omega) (by omega)]
        simp

theorem writeFraction_beginsWithoutDigit (nanosecond : Nat) :
    BeginsWithoutDigit (writeFraction nanosecond) := by
  intro c found
  unfold writeFraction at found
  split at found
  next => cases found
  next =>
    split at found
    next =>
      cases found
      decide
    next =>
      split at found
      · cases found
        decide
      · cases found
        decide

theorem beginsWithoutDigit_cons {c : Char} (notDigit : c.isDigit = false) (rest : List Char) :
    BeginsWithoutDigit (c :: rest) := by
  intro other found
  cases found
  exact notDigit

theorem Day.day_lt (day : Day) : day.day < 100 := by
  have upper := day.day_inRange.2
  unfold daysInMonth at upper
  split at upper
  · split at upper <;> omega
  · split at upper <;> omega

theorem Day.of?_self (day : Day) : Day.of? day.year day.month day.day = some day :=
  dif_pos ⟨day.year_inRange, day.month_inRange, day.day_inRange⟩

theorem Clock.of?_self (clock : Clock) :
    Clock.of? clock.hour clock.minute clock.second clock.nanosecond = some clock :=
  dif_pos ⟨clock.hour_lt, clock.minute_lt, clock.second_le, clock.nanosecond_lt⟩

/-- The first pattern reads the written form of a date and time. -/
theorem readPattern?_write (moment : DateTime) :
    readPattern? (yearFirst '-' ++ .exactly 'T' :: toSecond ++ [.fraction]) moment.write =
      some moment := by
  obtain ⟨day, clock⟩ := moment
  have monthRange := day.month_inRange
  have hourLt := clock.hour_lt
  have minuteLt := clock.minute_lt
  have secondLe := clock.second_le
  have dash (rest : List Char) : BeginsWithoutDigit ('-' :: rest) :=
    beginsWithoutDigit_cons (by decide) rest
  have colon (rest : List Char) : BeginsWithoutDigit (':' :: rest) :=
    beginsWithoutDigit_cons (by decide) rest
  have letter (rest : List Char) : BeginsWithoutDigit ('T' :: rest) :=
    beginsWithoutDigit_cons (by decide) rest
  have valid : Fields.toDateTime? ⟨day.year, day.month, day.day, clock.hour, clock.minute,
      clock.second, clock.nanosecond⟩ = some ⟨day, clock⟩ := by
    rw [Fields.toDateTime?, day.of?_self, clock.of?_self]
    rfl
  simp only [DateTime.write, List.append_assoc, List.cons_append, readPattern?, yearFirst, toSecond,
    toMinute, List.nil_append, readPieces?, Piece.read?, readYear?_writeYear day.year (dash _),
    Option.map_some, Option.bind_eq_bind, Option.bind_some, if_true,
    readUpTo?_zeroPadded (show day.month < 100 by omega) (dash _),
    readUpTo?_zeroPadded day.day_lt (letter _),
    readUpTo?_zeroPadded (show clock.hour < 100 by omega) (colon _),
    readUpTo?_zeroPadded (show clock.minute < 100 by omega) (colon _),
    readUpTo?_zeroPadded (show clock.second < 100 by omega) (writeFraction_beginsWithoutDigit _),
    readFraction?_writeFraction clock.nanosecond_lt]
  exact valid

theorem readExactly?_zeroPadded {n : Nat} (fits : n < 100) (rest : List Char) :
    readExactly? 2 (zeroPadded 2 n ++ rest) = some (n, rest) := by
  have length : (zeroPadded 2 n).length = 2 := length_zeroPadded (by omega) (by omega)
  have read := readExactly?_append (isDigits_zeroPadded 2 n) rest
  rwa [length, ofDigits_zeroPadded] at read

theorem readExactly?_sign {sign : Char} (notDigit : sign.isDigit = false) (width : Nat)
    (rest : List Char) : readExactly? (width + 1) (sign :: rest) = none := by
  simp [readExactly?, notDigit]

theorem readExactly?_zeroPadded_year {year : Nat} (fits : year < 10000) (rest : List Char) :
    readExactly? 4 (zeroPadded 4 year ++ rest) = some (year, rest) := by
  have length : (zeroPadded 4 year).length = 4 := length_zeroPadded (by omega) (by omega)
  have read := readExactly?_append (isDigits_zeroPadded 4 year) rest
  rwa [length, ofDigits_zeroPadded] at read

theorem after?_self (c : Char) (rest : List Char) : after? c (c :: rest) = some rest :=
  if_pos rfl

theorem readTimestamp?_append {year month day hour minute second : Nat} (yearLt : year < 10000)
    (monthLt : month < 100) (dayLt : day < 100) (hourLt : hour < 100) (minuteLt : minute < 100)
    (secondLt : second < 100) (rest : List Char) :
    readTimestamp? (zeroPadded 4 year ++ '-' :: (zeroPadded 2 month ++ '-' :: (zeroPadded 2 day ++
        'T' :: (zeroPadded 2 hour ++ ':' :: (zeroPadded 2 minute ++ ':' :: (zeroPadded 2 second ++
          rest)))))) =
      (readFraction? rest).bind fun (nanosecond, rest) =>
        (readOffset? rest).bind fun offset =>
          (Fields.toDateTime? ⟨year, month, day, hour, minute, second, nanosecond⟩).bind
            fun moment => moment.earlier? offset := by
  rw [readTimestamp?, readExactly?_zeroPadded_year yearLt]
  dsimp only [Option.bind_eq_bind, Option.bind_some]
  rw [after?_self]
  dsimp only [Option.bind_some]
  rw [readExactly?_zeroPadded monthLt]
  dsimp only [Option.bind_some]
  rw [after?_self]
  dsimp only [Option.bind_some]
  rw [readExactly?_zeroPadded dayLt]
  dsimp only [Option.bind_some]
  rw [after?_self]
  dsimp only [Option.bind_some, Option.orElse_eq_orElse, Option.orElse_some]
  rw [readExactly?_zeroPadded hourLt]
  dsimp only [Option.bind_some]
  rw [after?_self]
  dsimp only [Option.bind_some]
  rw [readExactly?_zeroPadded minuteLt]
  dsimp only [Option.bind_some]
  rw [after?_self]
  dsimp only [Option.bind_some]
  rw [readExactly?_zeroPadded secondLt]
  rfl

/-- The written form has no offset, so that it is no timestamp. -/
theorem readTimestamp?_write (moment : DateTime) : readTimestamp? moment.write = none := by
  obtain ⟨day, clock⟩ := moment
  simp only [DateTime.write, List.append_assoc, List.cons_append]
  unfold writeYear
  split
  next =>
    rw [readTimestamp?, List.cons_append, readExactly?_sign (by decide) 3]
    rfl
  next =>
    split
    next =>
      rw [readTimestamp?, List.cons_append, readExactly?_sign (by decide) 3]
      rfl
    next =>
      have monthRange := day.month_inRange
      have hourLt := clock.hour_lt
      have minuteLt := clock.minute_lt
      have secondLe := clock.second_le
      rw [readTimestamp?_append (by omega) (by omega) day.day_lt (by omega) (by omega) (by omega),
        readFraction?_writeFraction clock.nanosecond_lt]
      rfl

/-- The characters that stand between the digits of a date and time. -/
def dateMarks : List Char :=
  ['-', '+', 'T', ':', '.']

theorem zeroPadded_chars (width n : Nat) :
    ∀ c ∈ zeroPadded width n, c.isDigit = true ∨ c ∈ dateMarks :=
  fun c membership => .inl ((isDigits_zeroPadded width n).digits c membership)

theorem writeYear_chars (year : Int) : ∀ c ∈ writeYear year, c.isDigit = true ∨ c ∈ dateMarks := by
  have digits := zeroPadded_chars 4 year.natAbs
  unfold writeYear
  split
  · exact List.forall_mem_cons.mpr ⟨by decide, digits⟩
  · split
    · exact List.forall_mem_cons.mpr ⟨by decide, digits⟩
    · exact digits

theorem writeFraction_chars (nanosecond : Nat) :
    ∀ c ∈ writeFraction nanosecond, c.isDigit = true ∨ c ∈ dateMarks := by
  unfold writeFraction
  split
  · simp
  · split
    · exact List.forall_mem_cons.mpr ⟨by decide, zeroPadded_chars _ _⟩
    · split
      · exact List.forall_mem_cons.mpr ⟨by decide, zeroPadded_chars _ _⟩
      · exact List.forall_mem_cons.mpr ⟨by decide, zeroPadded_chars _ _⟩

theorem DateTime.write_chars (moment : DateTime) :
    ∀ c ∈ moment.write, c.isDigit = true ∨ c ∈ dateMarks := by
  have marks : '-' ∈ dateMarks ∧ 'T' ∈ dateMarks ∧ ':' ∈ dateMarks := by decide
  simp only [DateTime.write, List.forall_mem_append, List.forall_mem_cons, marks, or_true, true_and]
  have digits := zeroPadded_chars 2
  exact ⟨⟨⟨⟨⟨⟨writeYear_chars _, digits _⟩, digits _⟩, digits _⟩, digits _⟩, digits _⟩,
    writeFraction_chars _⟩

theorem DateTime.write_not_blank (moment : DateTime) : ∀ c ∈ moment.write, isBlank c = false := by
  have marks : ∀ c ∈ dateMarks, (!isBlank c) = true := List.all_eq_true.mp rfl
  intro c membership
  rcases moment.write_chars c membership with isDigit | isMark
  · exact isBlank_of_isDigit isDigit
  · simpa using marks c isMark

/-- Every date and time is read back from its written form. -/
theorem readDateTime?_write (moment : DateTime) : readDateTime? moment.write = some moment := by
  rw [readDateTime?, trim_eq_self_of_forall moment.write_not_blank]
  simp only [readers, patterns, List.findSome?_cons, readTimestamp?_write, List.map_cons,
    readPattern?_write]

theorem readDateTime?_cons {c : Char} (notBlank : isBlank c = false) (notDigit : c.isDigit = false)
    (notSign : c ≠ '-' ∧ c ≠ '+') (rest : List Char) : readDateTime? (c :: rest) = none := by
  obtain ⟨kept, trimmed⟩ := trim_cons notBlank rest
  have untouched : trimStart (c :: kept) = c :: kept :=
    trimStart_eq_self (by simpa using notBlank)
  have noNumber (width : Nat) : readUpTo? width (c :: kept) = none := by
    simp [readUpTo?, notDigit]
  have noYear : readYear? (c :: kept) = none := by
    unfold readYear?
    split
    next same => exact absurd (List.cons.inj same).1 notSign.1
    next same => exact absurd (List.cons.inj same).1 notSign.2
    next => rw [noNumber, Option.map_none]
  have noTimestamp : readTimestamp? (c :: kept) = none := by
    rw [readTimestamp?, readExactly?_sign notDigit 3]
    rfl
  have noYearPattern (pieces : List Piece) : readPattern? (.year :: pieces) (c :: kept) = none := by
    simp [readPattern?, readPieces?, Piece.read?, untouched, noYear]
  have noMonthPattern (pieces : List Piece) :
      readPattern? (.month :: pieces) (c :: kept) = none := by
    simp [readPattern?, readPieces?, Piece.read?, untouched, noNumber]
  rw [readDateTime?, trimmed]
  simp only [readers, patterns, yearFirst, monthFirst, List.cons_append, List.map_cons,
    List.map_nil, List.findSome?_cons, List.findSome?_nil, noTimestamp, noYearPattern,
    noMonthPattern]

end QueryPlanner.Date
