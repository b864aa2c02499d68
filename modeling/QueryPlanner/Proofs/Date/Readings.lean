import QueryPlanner.Proofs.Date.Marks

/-!
# Which readers accept a date text

No two readers of date texts accept the same text, but for those of the dates with slashes.  Such a
date is read with its year first or with its month first, and the reader with the year first is
asked first.
-/

namespace QueryPlanner.Date

open QueryPlanner.Number QueryPlanner.Text

variable {c : Char} {text rest : List Char}

section Slashes

variable {fields found : Fields} {moment otherMoment : DateTime}

theorem readYear?_of_readUpTo? {n : Nat} (read : readUpTo? 2 text = some (n, rest))
    (stops : BeginsWithoutDigit rest) : readYear? text = some ((n : Int), rest) := by
  obtain ⟨digits, rfl, isDigits, fits, rfl⟩ := exists_digits_of_readUpTo? read
  exact readYear?_append isDigits (Nat.le_trans fits (by decide)) stops

theorem readPieces?_nil :
    readPieces? [] fields text = some found ↔ text = [] ∧ fields = found := by
  rw [readPieces?, Option.ite_none_right_eq_some, Option.some.injEq]

theorem readPieces?_exactly {pieces : List Piece} :
    readPieces? (.exactly c :: pieces) fields text = some found ↔
      ∃ rest, text = c :: rest ∧ readPieces? pieces fields rest = some found := by
  cases text with
  | nil => simp [readPieces?, Piece.read?]
  | cons head tail =>
      by_cases same : head = c
      · simp [readPieces?, Piece.read?, same]
      · simp [readPieces?, Piece.read?, same]

theorem readPieces?_number {α : Type} {piece : Piece} {pieces : List Piece}
    (number? : List Char → Option (α × List Char)) (keep : Fields → α → Fields)
    (isNumber : ∀ fields text, piece.read? fields text =
      (number? (trimStart text)).map fun (n, rest) => (keep fields n, rest)) :
    readPieces? (piece :: pieces) fields text = some found ↔
      ∃ n rest, number? (trimStart text) = some (n, rest) ∧
        readPieces? pieces (keep fields n) rest = some found := by
  rw [readPieces?, isNumber]
  rcases number? (trimStart text) with _ | ⟨n, rest⟩
  · simp
  · simp

theorem readPieces?_year {pieces : List Piece} :
    readPieces? (.year :: pieces) fields text = some found ↔
      ∃ year rest, readYear? (trimStart text) = some (year, rest) ∧
        readPieces? pieces { fields with year } rest = some found :=
  readPieces?_number readYear? (fun fields year => { fields with year }) fun _ _ => rfl

theorem readPieces?_month {pieces : List Piece} :
    readPieces? (.month :: pieces) fields text = some found ↔
      ∃ month rest, readUpTo? 2 (trimStart text) = some (month, rest) ∧
        readPieces? pieces { fields with month } rest = some found :=
  readPieces?_number (readUpTo? 2) (fun fields month => { fields with month }) fun _ _ => rfl

theorem readPieces?_day {pieces : List Piece} :
    readPieces? (.day :: pieces) fields text = some found ↔
      ∃ day rest, readUpTo? 2 (trimStart text) = some (day, rest) ∧
        readPieces? pieces { fields with day } rest = some found :=
  readPieces?_number (readUpTo? 2) (fun fields day => { fields with day }) fun _ _ => rfl

theorem day_of_toDateTime? (valid : fields.toDateTime? = some moment) :
    moment.day.year = fields.year ∧ moment.day.month = fields.month ∧
      moment.day.day = fields.day := by
  obtain ⟨day, dayFound, valid⟩ := Option.bind_eq_some_iff.mp valid
  obtain ⟨clock, _, valid⟩ := Option.bind_eq_some_iff.mp valid
  cases valid
  unfold Day.of? at dayFound
  split at dayFound
  next =>
    cases dayFound
    exact ⟨rfl, rfl, rfl⟩
  next => cases dayFound

/-- A text that both readers of dates with slashes accept gives them the same three numbers, which
they take for different parts of the date. -/
theorem numbers_of_both_slashed (read : readPattern? (yearFirst '/') text = some moment)
    (otherRead : readPattern? monthFirst text = some otherMoment) :
    ∃ first second third : Nat,
      Fields.toDateTime? { year := first, month := second, day := third } = some moment ∧
      Fields.toDateTime? { year := third, month := first, day := second } = some otherMoment ∧
      (moment = otherMoment ↔ first = second ∧ second = third) := by
  obtain ⟨found, piecesRead, valid⟩ := Option.bind_eq_some_iff.mp read
  obtain ⟨otherFound, otherPiecesRead, otherValid⟩ := Option.bind_eq_some_iff.mp otherRead
  simp only [yearFirst, readPieces?_year, readPieces?_exactly, readPieces?_month, readPieces?_day,
    readPieces?_nil] at piecesRead
  simp only [monthFirst, readPieces?_year, readPieces?_exactly, readPieces?_month, readPieces?_day,
    readPieces?_nil] at otherPiecesRead
  obtain ⟨first, _, firstRead, atSecond, rfl, second, _, secondRead, atThird, rfl, third, _,
    thirdRead, rfl, rfl⟩ := piecesRead
  obtain ⟨otherFirst, _, otherFirstRead, otherAtSecond, rfl, otherSecond, _, otherSecondRead,
    otherAtThird, rfl, otherThird, _, otherThirdRead, rfl, rfl⟩ := otherPiecesRead
  have slash (rest : List Char) : BeginsWithoutDigit ('/' :: rest) :=
    beginsWithoutDigit_cons (by decide) rest
  have ends : BeginsWithoutDigit [] := by
    intro c isHead
    cases isHead
  cases firstRead.symm.trans (readYear?_of_readUpTo? otherFirstRead (slash _))
  cases secondRead.symm.trans otherSecondRead
  cases otherThirdRead.symm.trans (readYear?_of_readUpTo? thirdRead ends)
  refine ⟨otherFirst, second, third, valid, otherValid, ?_⟩
  constructor
  · rintro rfl
    obtain ⟨yearEq, monthEq, dayEq⟩ := day_of_toDateTime? valid
    obtain ⟨otherYearEq, otherMonthEq, otherDayEq⟩ := day_of_toDateTime? otherValid
    exact ⟨otherMonthEq.symm.trans monthEq, otherDayEq.symm.trans dayEq⟩
  · rintro ⟨rfl, rfl⟩
    exact Option.some.inj (valid.symm.trans otherValid)

end Slashes

section Order

/-- Whatever is asked first, only the two readers of dates with slashes can both answer. -/
theorem readers_pairwise : readers.Pairwise fun reader other => Exclusive reader other ∨
    reader = readPattern? (yearFirst '/') ∧ other = readPattern? monthFirst := by
  refine List.pairwise_cons.mpr ⟨?_, List.pairwise_map.mpr (patterns_differ.imp ?_)⟩
  · intro reader isReader
    obtain ⟨pattern, isPattern, rfl⟩ := List.mem_map.mp isReader
    exact .inl (exclusive_timestamp isPattern)
  · rintro pattern other (⟨c, isMark, differ⟩ | ⟨rfl, rfl⟩)
    · exact .inl (exclusive_of_countP_ne isMark differ)
    · exact .inr ⟨rfl, rfl⟩

variable {α β : Type} {a : α} {b : β} {first second : α → Option β}

/-- Two answers to a question exclude each other, but for those of two readers that are asked in a
fixed order. -/
def Ranked (first second : α → Option β) (a : α) (reader other : α → Option β) : Prop :=
  reader a = none ∨ other a = none ∨ reader = first ∧ other = second

theorem ranked_of_noneBefore {reader other : α → Option β} {before behind : List (α → Option β)}
    (ranked : (before ++ reader :: behind).Pairwise (Ranked first second a))
    (noneBefore : ∀ asked ∈ before, asked a = none)
    (isReader : other ∈ before ++ reader :: behind) :
    other a = none ∨ other = reader ∨ Ranked first second a reader other := by
  have others := (List.pairwise_append.mp ranked).2.1
  rcases List.mem_append.mp isReader with isBefore | atOrBehind
  · exact .inl (noneBefore other isBefore)
  · rcases List.mem_cons.mp atOrBehind with same | isBehind
    · exact .inr (.inl same)
    · exact .inr (.inr ((List.pairwise_cons.mp others).1 other isBehind))

/-- The answer of ranked readers is that of any of them, of the second only if the first has
none. -/
theorem findSome?_eq_some_iff_of_ranked {readers : List (α → Option β)}
    (ranked : readers.Pairwise (Ranked first second a)) (isFirst : first ∈ readers)
    (different : first ≠ second) :
    (readers.findSome? fun reader => reader a) = some b ↔
      ∃ reader ∈ readers, reader a = some b ∧ (reader = second → first a = none) := by
  constructor
  · intro found
    obtain ⟨before, reader, behind, rfl, answer, noneBefore⟩ :=
      List.findSome?_eq_some_iff.mp found
    refine ⟨reader, by simp, answer, ?_⟩
    intro isSecond
    rcases ranked_of_noneBefore ranked noneBefore isFirst with
      silent | same | noAnswer | silent | ⟨same, _⟩
    · exact silent
    · exact absurd (same.trans isSecond) different
    · rw [answer] at noAnswer
      cases noAnswer
    · exact silent
    · exact absurd (same.symm.trans isSecond) different
  · rintro ⟨reader, isReader, answer, notHidden⟩
    obtain ⟨answered, found⟩ : ∃ answered,
        (readers.findSome? fun reader => reader a) = some answered := by
      rw [← Option.isSome_iff_exists, List.findSome?_isSome_iff]
      exact ⟨reader, isReader, by rw [answer]; rfl⟩
    obtain ⟨before, asked, behind, rfl, askedAnswer, noneBefore⟩ :=
      List.findSome?_eq_some_iff.mp found
    rcases ranked_of_noneBefore ranked noneBefore isReader with
      noAnswer | rfl | silent | noAnswer | ⟨rfl, isSecond⟩
    · rw [answer] at noAnswer
      cases noAnswer
    · rw [found, ← askedAnswer, answer]
    · rw [askedAnswer] at silent
      cases silent
    · rw [answer] at noAnswer
      cases noAnswer
    · rw [notHidden isSecond] at askedAnswer
      cases askedAnswer

/-- Ranked readers give the same answer in every order that keeps their rank. -/
theorem findSome?_eq_of_ranked {readers reordered : List (α → Option β)}
    (perm : reordered.Perm readers) (ranked : readers.Pairwise (Ranked first second a))
    (keepsRank : reordered.Pairwise fun reader other => ¬(reader = second ∧ other = first))
    (isFirst : first ∈ readers) (different : first ≠ second) :
    (reordered.findSome? fun reader => reader a) = readers.findSome? fun reader => reader a := by
  have eitherWay : reordered.Pairwise fun reader other =>
      Ranked first second a reader other ∨ Ranked first second a other reader :=
    (ranked.imp .inl).perm perm.symm Or.symm
  have stillRanked : reordered.Pairwise (Ranked first second a) := by
    refine (eitherWay.and keepsRank).imp ?_
    rintro reader other ⟨isRanked | none | none | ⟨isFirst, isSecond⟩, notSwapped⟩
    · exact isRanked
    · exact .inr (.inl none)
    · exact .inl none
    · exact absurd ⟨isSecond, isFirst⟩ notSwapped
  refine Option.ext fun b => ?_
  rw [findSome?_eq_some_iff_of_ranked stillRanked (perm.mem_iff.mpr isFirst) different,
    findSome?_eq_some_iff_of_ranked ranked isFirst different]
  simp only [perm.mem_iff]

end Order

section Slashed

theorem yearFirst_ne_monthFirst : readPattern? (yearFirst '/') ≠ readPattern? monthFirst := by
  intro same
  have differ : readPattern? (yearFirst '/') "2024/3/1".toList ≠
      readPattern? monthFirst "2024/3/1".toList := by
    decide +kernel
  exact differ (congrFun same _)

theorem not_exclusive_slashed :
    ¬Exclusive (readPattern? monthFirst) (readPattern? (yearFirst '/')) := by
  intro exclusive
  have bothRead : ¬(readPattern? monthFirst "3/1/24".toList = none ∨
      readPattern? (yearFirst '/') "3/1/24".toList = none) := by
    decide +kernel
  exact bothRead (exclusive _)

/-- The readers are asked in an order that keeps the rank of the two dates with slashes. -/
theorem readers_keep_rank : readers.Pairwise fun reader other =>
    ¬(reader = readPattern? monthFirst ∧ other = readPattern? (yearFirst '/')) := by
  refine readers_pairwise.imp ?_
  rintro reader other apart ⟨rfl, rfl⟩
  rcases apart with exclusive | ⟨same, _⟩
  · exact not_exclusive_slashed exclusive
  · exact yearFirst_ne_monthFirst same.symm

end Slashed

/-- No two readers accept the same text, but for those of the dates with slashes.  These two read
the same three numbers in a text that both accept, one as a year, a month and a day, the other as a
month, a day and a year, so that they agree only on equal numbers.  What a text is read as does not
depend on the order of the readers, as long as the year is looked for first among these two. -/
theorem readers_agree_off_slashes :
    (readers.Pairwise fun reader other => Exclusive reader other ∨
      reader = readPattern? (yearFirst '/') ∧ other = readPattern? monthFirst) ∧
    (∀ text moment other, readPattern? (yearFirst '/') text = some moment →
      readPattern? monthFirst text = some other →
        ∃ first second third : Nat,
          Fields.toDateTime? { year := first, month := second, day := third } = some moment ∧
          Fields.toDateTime? { year := third, month := first, day := second } = some other ∧
          (moment = other ↔ first = second ∧ second = third)) ∧
    ∀ reordered : List (List Char → Option DateTime), reordered.Perm readers →
      (reordered.Pairwise fun reader other =>
        ¬(reader = readPattern? monthFirst ∧ other = readPattern? (yearFirst '/'))) →
        ∀ text, (reordered.findSome? fun reader => reader (trim text)) = readDateTime? text := by
  refine ⟨readers_pairwise, fun text moment other => numbers_of_both_slashed, ?_⟩
  intro reordered perm keepsRank text
  have isReader : readPattern? (yearFirst '/') ∈ readers := by
    refine List.mem_cons_of_mem _ (List.mem_map_of_mem ?_)
    decide
  have ranked : readers.Pairwise (Ranked (readPattern? (yearFirst '/')) (readPattern? monthFirst)
      (trim text)) := by
    refine readers_pairwise.imp ?_
    rintro reader other (exclusive | slashed)
    · rcases exclusive (trim text) with none | none
      · exact .inl none
      · exact .inr (.inl none)
    · exact .inr (.inr slashed)
  exact findSome?_eq_of_ranked perm ranked keepsRank isReader yearFirst_ne_monthFirst

/-- Timestamps may as well be looked for last. -/
theorem readers_agree_off_slashes_rotated :
    let rotated := patterns.map readPattern? ++ [readTimestamp?]
    rotated.Perm readers ∧
      (rotated.Pairwise fun reader other =>
        ¬(reader = readPattern? monthFirst ∧ other = readPattern? (yearFirst '/'))) ∧
      ∀ text, (rotated.findSome? fun reader => reader (trim text)) = readDateTime? text := by
  intro rotated
  have perm : rotated.Perm readers := List.perm_append_singleton _ _
  have keepsRank : rotated.Pairwise fun reader other =>
      ¬(reader = readPattern? monthFirst ∧ other = readPattern? (yearFirst '/')) := by
    refine List.pairwise_append.mpr ⟨(List.pairwise_cons.mp readers_keep_rank).2, ?_, ?_⟩
    · exact List.pairwise_singleton _ _
    · intro reader _ other isTimestamp swapped
      rw [List.mem_singleton.mp isTimestamp] at swapped
      have differ : readTimestamp? "2024/3/1".toList ≠
          readPattern? (yearFirst '/') "2024/3/1".toList := by
        decide +kernel
      exact differ (congrFun swapped.2 _)
  exact ⟨perm, keepsRank, readers_agree_off_slashes.2.2 rotated perm keepsRank⟩

/-- A date with slashes that the two readers take for different days, and that is another day if the
readers are asked in the opposite order. -/
theorem slashed_date_read_twice :
    readPattern? (yearFirst '/') ∈ readers ∧ readPattern? monthFirst ∈ readers ∧
      ∃ moment other, readPattern? (yearFirst '/') (trim "3/1/24".toList) = some moment ∧
        readPattern? monthFirst (trim "3/1/24".toList) = some other ∧ moment ≠ other ∧
        readDateTime? "3/1/24".toList = some moment ∧
        (readers.reverse.findSome? fun reader => reader (trim "3/1/24".toList)) = some other := by
  have isReader : ∀ pattern ∈ patterns, readPattern? pattern ∈ readers := fun pattern isPattern =>
    List.mem_cons_of_mem _ (List.mem_map_of_mem isPattern)
  let midnight : Clock := ⟨0, 0, 0, 0, by decide, by decide, by decide, by decide⟩
  let moment : DateTime := ⟨⟨3, 1, 24, by decide, by decide, by decide⟩, midnight⟩
  let other : DateTime := ⟨⟨24, 3, 1, by decide, by decide, by decide⟩, midnight⟩
  refine ⟨isReader _ (by decide), isReader _ (by decide), moment, other, ?_⟩
  decide +kernel

end QueryPlanner.Date
