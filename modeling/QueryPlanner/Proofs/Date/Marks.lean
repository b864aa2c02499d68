import QueryPlanner.Proofs.Date.ReadBack

/-!
# Marks of date texts

A text that a pattern reads has the marks of the pattern and no others, and a timestamp has more of
them than any pattern.  So the marks of a text tell which readers may accept it.
-/

namespace QueryPlanner.Date

open QueryPlanner.Number QueryPlanner.Text

/-- Two readers that accept no text both. -/
def Exclusive (reader other : List Char → Option DateTime) : Prop :=
  ∀ text, reader text = none ∨ other text = none

/-- The marks by which the readers differ. -/
def marks : List Char :=
  [':', '/', 'T', 'Z', 'z']

/-- A character that numbers and white space may be written with. -/
def IsFilling (c : Char) : Prop :=
  c.isDigit = true ∨ isBlank c = true ∨ c = '+' ∨ c = '-' ∨ c = '.'

/-- What follows numbers and white space at the front of a text. -/
def Passes (text rest : List Char) : Prop :=
  ∃ used, text = used ++ rest ∧ ∀ c ∈ used, IsFilling c

def Piece.isExactly (c : Char) : Piece → Bool
  | .exactly mark => mark = c
  | _ => false

deriving instance DecidableEq for Piece

variable {c : Char} {text rest left : List Char} {pattern other : List Piece}

section Passing

theorem not_isFilling_of_mem_marks (isMark : c ∈ marks) : ¬IsFilling c := by
  rw [IsFilling]
  simp only [marks, List.mem_cons, List.not_mem_nil, or_false] at isMark
  rcases isMark with rfl | rfl | rfl | rfl | rfl <;> decide

theorem Passes.refl (text : List Char) : Passes text text :=
  ⟨[], rfl, List.forall_mem_nil _⟩

theorem Passes.trans (passes : Passes text rest) (behind : Passes rest left) :
    Passes text left := by
  obtain ⟨used, rfl, filling⟩ := passes
  obtain ⟨more, rfl, moreFilling⟩ := behind
  exact ⟨used ++ more, (List.append_assoc ..).symm, List.forall_mem_append.mpr
    ⟨filling, moreFilling⟩⟩

theorem Passes.cons (isFilling : IsFilling c) (passes : Passes text rest) :
    Passes (c :: text) rest := by
  obtain ⟨used, rfl, filling⟩ := passes
  exact ⟨c :: used, rfl, List.forall_mem_cons.mpr ⟨isFilling, filling⟩⟩

theorem Passes.digits {digits : List Char} (areDigits : ∀ c ∈ digits, c.isDigit = true)
    (rest : List Char) : Passes (digits ++ rest) rest :=
  ⟨digits, rfl, fun c membership => .inl (areDigits c membership)⟩

theorem Passes.suffix (passes : Passes text rest) : rest <:+ text := by
  obtain ⟨used, rfl, _⟩ := passes
  exact List.suffix_append used rest

/-- No mark is passed over. -/
theorem Passes.count_eq (passes : Passes text rest) (isMark : c ∈ marks) :
    text.count c = rest.count c := by
  obtain ⟨used, rfl, filling⟩ := passes
  have notUsed : c ∉ used := fun membership =>
    not_isFilling_of_mem_marks isMark (filling c membership)
  rw [List.count_append, List.count_eq_zero_of_not_mem notUsed, Nat.zero_add]

theorem passes_trimStart (text : List Char) : Passes text (trimStart text) := by
  refine ⟨text.takeWhile isBlank, List.takeWhile_append_dropWhile.symm, fun c membership => ?_⟩
  exact .inr (.inl (List.all_eq_true.mp List.all_takeWhile c membership))

theorem exists_digits_of_readUpTo? {width n : Nat} (read : readUpTo? width text = some (n, rest)) :
    ∃ digits, text = digits ++ rest ∧ IsDigits digits ∧ digits.length ≤ width ∧
      n = ofDigits digits := by
  unfold readUpTo? at read
  dsimp only at read
  split at read
  next => cases read
  next nonempty =>
    cases read
    have isPrefix : (text.takeWhile Char.isDigit).take width <+: text :=
      (List.take_prefix _ _).trans (List.takeWhile_prefix _)
    refine ⟨_, ?_, ⟨nonempty, fun c membership => ?_⟩, List.length_take_le _ _, rfl⟩
    · conv => lhs; rw [← List.prefix_iff_eq_append.mp isPrefix]
    · exact List.all_eq_true.mp List.all_takeWhile c (List.mem_of_mem_take membership)

theorem passes_readUpTo? {width n : Nat} (read : readUpTo? width text = some (n, rest)) :
    Passes text rest := by
  obtain ⟨digits, rfl, isDigits, _⟩ := exists_digits_of_readUpTo? read
  exact .digits isDigits.digits rest

theorem passes_spanDigits (text : List Char) : Passes text (spanDigits text).2 := by
  refine ⟨text.takeWhile Char.isDigit, List.takeWhile_append_dropWhile.symm, ?_⟩
  exact fun c membership => .inl (List.all_eq_true.mp List.all_takeWhile c membership)

theorem passes_readDigits? {n : Nat} (read : readDigits? text = some (n, rest)) :
    Passes text rest := by
  unfold readDigits? at read
  dsimp only at read
  split at read
  next => cases read
  next =>
    cases read
    exact passes_spanDigits text

theorem passes_readYear? {year : Int} (read : readYear? text = some (year, rest)) :
    Passes text rest := by
  unfold readYear? at read
  split at read
  next tail =>
    obtain ⟨found, digitsRead, equality⟩ := Option.map_eq_some_iff.mp read
    cases equality
    exact (passes_readDigits? digitsRead).cons (.inr (.inr (.inr (.inl rfl))))
  next tail =>
    obtain ⟨found, digitsRead, equality⟩ := Option.map_eq_some_iff.mp read
    cases equality
    exact (passes_readDigits? digitsRead).cons (.inr (.inr (.inl rfl)))
  next =>
    obtain ⟨found, digitsRead, equality⟩ := Option.map_eq_some_iff.mp read
    cases equality
    exact passes_readUpTo? digitsRead

theorem passes_readFraction? {nanosecond : Nat}
    (read : readFraction? text = some (nanosecond, rest)) : Passes text rest := by
  unfold readFraction? at read
  split at read
  next tail =>
    unfold readNanosecond? at read
    dsimp only at read
    split at read
    next => cases read
    next =>
      cases read
      exact (passes_spanDigits tail).cons (.inr (.inr (.inr (.inr rfl))))
  next =>
    cases read
    exact .refl text

end Passing

section Patterns

variable {piece : Piece} {fields found : Fields} {moment : DateTime}

theorem Piece.read?_cases (read : piece.read? fields text = some (found, rest)) :
    (∃ mark, piece = .exactly mark ∧ text = mark :: rest) ∨
      (∀ c, piece.isExactly c = false) ∧ Passes text rest := by
  have number {n : Nat} (numberRead : readUpTo? 2 (trimStart text) = some (n, rest)) :
      Passes text rest := (passes_trimStart text).trans (passes_readUpTo? numberRead)
  cases piece with
  | exactly mark =>
      simp only [Piece.read?] at read
      split at read
      next head tail =>
        split at read
        next same =>
          cases read
          exact .inl ⟨mark, rfl, by rw [same]⟩
        next => cases read
      next => cases read
  | blank =>
      cases read
      exact .inr ⟨fun _ => rfl, passes_trimStart text⟩
  | year =>
      obtain ⟨⟨n, tail⟩, yearRead, equality⟩ := Option.map_eq_some_iff.mp read
      cases equality
      exact .inr ⟨fun _ => rfl, (passes_trimStart text).trans (passes_readYear? yearRead)⟩
  | fraction =>
      obtain ⟨⟨n, tail⟩, fractionRead, equality⟩ := Option.map_eq_some_iff.mp read
      cases equality
      exact .inr ⟨fun _ => rfl, passes_readFraction? fractionRead⟩
  | month | day | hour | minute | second =>
      obtain ⟨⟨n, tail⟩, numberRead, equality⟩ := Option.map_eq_some_iff.mp read
      cases equality
      exact .inr ⟨fun _ => rfl, number numberRead⟩

/-- A text that is read by pieces has exactly their marks. -/
theorem count_eq_of_readPieces? (read : readPieces? pattern fields text = some found)
    (isMark : c ∈ marks) : text.count c = pattern.countP (Piece.isExactly c) := by
  induction pattern generalizing fields text with
  | nil =>
      rw [readPieces?] at read
      split at read
      next empty =>
        rw [empty]
        rfl
      next => cases read
  | cons piece pieces inductionHypothesis =>
      obtain ⟨⟨after, rest⟩, pieceRead, othersRead⟩ := Option.bind_eq_some_iff.mp read
      rw [List.countP_cons, ← inductionHypothesis othersRead]
      rcases Piece.read?_cases pieceRead with ⟨mark, rfl, rfl⟩ | ⟨noMark, passes⟩
      · rw [List.count_cons]
        simp [Piece.isExactly]
      · rw [passes.count_eq isMark, noMark c]
        rfl

theorem count_eq_of_readPattern? (read : readPattern? pattern text = some moment)
    (isMark : c ∈ marks) : text.count c = pattern.countP (Piece.isExactly c) := by
  obtain ⟨found, piecesRead, _⟩ := Option.bind_eq_some_iff.mp read
  exact count_eq_of_readPieces? piecesRead isMark

theorem exclusive_of_countP_ne (isMark : c ∈ marks)
    (differ : pattern.countP (Piece.isExactly c) ≠ other.countP (Piece.isExactly c)) :
    Exclusive (readPattern? pattern) (readPattern? other) := by
  intro text
  by_contra bothRead
  simp only [not_or, ← Ne.eq_def, Option.ne_none_iff_exists'] at bothRead
  obtain ⟨⟨moment, read⟩, ⟨otherMoment, otherRead⟩⟩ := bothRead
  apply differ
  rw [← count_eq_of_readPattern? read isMark, count_eq_of_readPattern? otherRead isMark]

/-- Two patterns differ in the number of some mark, but for the two dates with slashes. -/
theorem patterns_differ : patterns.Pairwise fun pattern other =>
    (∃ c ∈ marks, pattern.countP (Piece.isExactly c) ≠ other.countP (Piece.isExactly c)) ∨
      pattern = yearFirst '/' ∧ other = monthFirst := by
  have differ : patterns.Pairwise fun pattern other =>
      (marks.any fun c =>
        pattern.countP (Piece.isExactly c) != other.countP (Piece.isExactly c)) = true ∨
        pattern = yearFirst '/' ∧ other = monthFirst := by
    decide
  apply differ.imp
  intro pattern other
  apply Or.imp_left
  simp

end Patterns

section Timestamps

variable {moment : DateTime}

theorem after?_eq_some (found : after? c text = some rest) : text = c :: rest := by
  cases text with
  | nil => cases found
  | cons head tail =>
      rw [after?] at found
      split at found
      next same =>
        cases found
        rw [same]
      next => cases found

theorem suffix_of_after? (found : after? c text = some rest) : rest <:+ text := by
  rw [after?_eq_some found]
  exact List.suffix_cons c rest

theorem suffix_of_readExactly? {width n : Nat} (read : readExactly? width text = some (n, rest)) :
    rest <:+ text := by
  unfold readExactly? at read
  dsimp only at read
  split at read
  next =>
    cases read
    exact List.drop_suffix width text
  next => cases read

theorem mem_of_readOffset? {offset : Int} (read : readOffset? text = some offset) :
    ':' ∈ text ∨ 'Z' ∈ text ∨ 'z' ∈ text := by
  unfold readOffset? at read
  split at read
  next => cases read
  next sign tail =>
    split at read
    next isZero =>
      rcases isZero.1 with rfl | rfl
      · exact .inr (.inl List.mem_cons_self)
      · exact .inr (.inr List.mem_cons_self)
    next =>
      split at read
      next =>
        obtain ⟨⟨hours, rest⟩, hoursRead, read⟩ := Option.bind_eq_some_iff.mp read
        obtain ⟨rest, colon, read⟩ := Option.bind_eq_some_iff.mp read
        have isColon := after?_eq_some colon
        refine .inl (List.mem_cons_of_mem sign ((suffix_of_readExactly? hoursRead).mem ?_))
        rw [isColon]
        exact List.mem_cons_self
      next => cases read

/-- A timestamp has two colons and the mark of an offset. -/
theorem marks_of_readTimestamp? (read : readTimestamp? text = some moment) :
    3 ≤ text.count ':' ∨ 'Z' ∈ text ∨ 'z' ∈ text := by
  unfold readTimestamp? at read
  obtain ⟨⟨year, afterYear⟩, yearRead, read⟩ := Option.bind_eq_some_iff.mp read
  obtain ⟨atMonth, monthDash, read⟩ := Option.bind_eq_some_iff.mp read
  obtain ⟨⟨month, afterMonth⟩, monthRead, read⟩ := Option.bind_eq_some_iff.mp read
  obtain ⟨atDay, dayDash, read⟩ := Option.bind_eq_some_iff.mp read
  obtain ⟨⟨day, afterDay⟩, dayRead, read⟩ := Option.bind_eq_some_iff.mp read
  obtain ⟨atHour, timeMark, read⟩ := Option.bind_eq_some_iff.mp read
  obtain ⟨⟨hour, afterHour⟩, hourRead, read⟩ := Option.bind_eq_some_iff.mp read
  obtain ⟨atMinute, minuteColon, read⟩ := Option.bind_eq_some_iff.mp read
  obtain ⟨⟨minute, afterMinute⟩, minuteRead, read⟩ := Option.bind_eq_some_iff.mp read
  obtain ⟨atSecond, secondColon, read⟩ := Option.bind_eq_some_iff.mp read
  obtain ⟨⟨second, afterSecond⟩, secondRead, read⟩ := Option.bind_eq_some_iff.mp read
  obtain ⟨⟨nanosecond, atOffset⟩, fractionRead, read⟩ := Option.bind_eq_some_iff.mp read
  obtain ⟨offset, offsetRead, _⟩ := Option.bind_eq_some_iff.mp read
  have timeSuffix : atHour <:+ afterDay := by
    rw [Option.orElse_eq_some, Option.orElse_eq_some] at timeMark
    rcases timeMark with upper | ⟨_, lower | ⟨_, blank⟩⟩
    · exact suffix_of_after? upper
    · exact suffix_of_after? lower
    · exact suffix_of_after? blank
  have hourSuffix : afterHour <:+ text :=
    (suffix_of_readExactly? hourRead).trans <| timeSuffix.trans <|
      (suffix_of_readExactly? dayRead).trans <| (suffix_of_after? dayDash).trans <|
        (suffix_of_readExactly? monthRead).trans <| (suffix_of_after? monthDash).trans <|
          suffix_of_readExactly? yearRead
  have offsetSuffix : atOffset <:+ atSecond :=
    (passes_readFraction? fractionRead).suffix.trans (suffix_of_readExactly? secondRead)
  have secondSuffix : ':' :: atSecond <:+ atMinute := by
    rw [← after?_eq_some secondColon]
    exact suffix_of_readExactly? minuteRead
  rw [after?_eq_some minuteColon] at hourSuffix
  have whole : (':' :: ':' :: atOffset).Sublist text :=
    (((offsetSuffix.sublist.cons_cons ':').trans secondSuffix.sublist).cons_cons ':').trans
      hourSuffix.sublist
  rcases mem_of_readOffset? offsetRead with colon | upper | lower
  · refine .inl ?_
    have counted := whole.count_le ':'
    have positive := List.count_pos_iff.mpr colon
    simp only [List.count_cons_self] at counted
    omega
  · exact .inr (.inl (whole.subset (by simp [upper])))
  · exact .inr (.inr (whole.subset (by simp [lower])))

theorem exclusive_timestamp (isPattern : pattern ∈ patterns) :
    Exclusive readTimestamp? (readPattern? pattern) := by
  have fewMarks : ∀ pattern ∈ patterns, pattern.countP (Piece.isExactly ':') ≤ 2 ∧
      pattern.countP (Piece.isExactly 'Z') = 0 ∧ pattern.countP (Piece.isExactly 'z') = 0 := by
    decide
  obtain ⟨fewColons, noUpper, noLower⟩ := fewMarks pattern isPattern
  intro text
  by_contra bothRead
  simp only [not_or, ← Ne.eq_def, Option.ne_none_iff_exists'] at bothRead
  obtain ⟨⟨moment, read⟩, ⟨otherMoment, otherRead⟩⟩ := bothRead
  rw [← count_eq_of_readPattern? otherRead (by decide)] at fewColons noUpper noLower
  rcases marks_of_readTimestamp? read with colons | upper | lower
  · omega
  · exact List.count_eq_zero.mp noUpper upper
  · exact List.count_eq_zero.mp noLower lower

end Timestamps

end QueryPlanner.Date
