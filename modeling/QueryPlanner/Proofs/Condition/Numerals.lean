import QueryPlanner.Condition.Lexeme
import QueryPlanner.Proofs.Number.Written
import QueryPlanner.Proofs.Outcomes

/-!
# The grammar of numbers

Where a digit or a minus sign stands, the number that is read is the longest one: the text of a
numeral that nothing behind it could go on with.  If there is no such number, reading fails at the
first character that no number has in that place.
-/

namespace QueryPlanner.Condition

open QueryPlanner.Number QueryPlanner.Text

/-- The text of a number, `-?(0|[1-9][0-9]*)(\.[0-9]+)?([eE][+-]?[0-9]+)?`. -/
def numberText (negative : Bool) (numeral : Numeral) : List Char :=
  minusSign negative ++ numeral.chars

def numberLexeme (negative : Bool) (numeral : Numeral) : Lexeme where
  kind := if numeral.fraction = none ∧ numeral.power = none then .int else .float
  written := numberText negative numeral
  value := some (numberText negative numeral)

/-- What may stand behind a number: no digit, no point if the number has neither fraction nor power,
and no letter of a power if it has no power. -/
def EndsNumber (numeral : Numeral) (rest : List Char) : Prop :=
  ∀ c ∈ rest.head?, c.isDigit = false ∧
    (numeral.fraction = none → numeral.power = none → c ≠ '.') ∧
    (numeral.power = none → c ≠ 'e' ∧ c ≠ 'E')

/-- A text that some number begins with. -/
def IsNumberFront (front : List Char) : Prop :=
  ∃ negative numeral, front <+: numberText negative numeral

/-- Where a number cannot go on: its text up to there, what is found there, and the cause of the
fault. -/
inductive BreaksNumber : List Char → Option Char → SyntaxCause → Prop where
  | afterZero {negative : Bool} {digit : Char} (isDigit : digit.isDigit = true) :
      BreaksNumber (minusSign negative ++ ['0']) (some digit) (.digitAfterZero digit)
  | whole {negative : Bool} {found : Option Char} (noDigit : ∀ c ∈ found, c.isDigit = false)
      (noMinus : negative = false → ∀ c ∈ found, c ≠ '-') :
      BreaksNumber (minusSign negative) found (.missingDigit found)
  | fraction {negative : Bool} {numeral : Numeral} {found : Option Char}
      (noFraction : numeral.fraction = none) (noPower : numeral.power = none)
      (noDigit : ∀ c ∈ found, c.isDigit = false) :
      BreaksNumber (numberText negative numeral ++ ['.']) found (.missingDigit found)
  | power {negative : Bool} {numeral : Numeral} {marker : Char} {sign : List Char}
      {found : Option Char} (noPower : numeral.power = none)
      (isMarker : marker = 'e' ∨ marker = 'E') (isSign : sign = [] ∨ sign = ['+'] ∨ sign = ['-'])
      (noDigit : ∀ c ∈ found, c.isDigit = false)
      (noSign : sign = [] → ∀ c ∈ found, c ≠ '+' ∧ c ≠ '-') :
      BreaksNumber (numberText negative numeral ++ marker :: sign) found (.missingDigit found)

variable {text rest left digits whole chars sign : List Char} {misread : Misread} {lexeme : Lexeme}
  {negative : Bool} {numeral : Numeral}

section Parts

theorem readDigits_append (isDigits : IsDigits digits) (stops : BeginsWithoutDigit rest) :
    readDigits (digits ++ rest) = .ok (digits, rest) := by
  simp [readDigits, spanDigits_append isDigits.digits stops, isDigits.nonempty]

theorem readDigits_ok_iff : readDigits text = .ok (digits, rest) ↔
    text = digits ++ rest ∧ IsDigits digits ∧ BeginsWithoutDigit rest := by
  constructor
  · intro read
    unfold readDigits spanDigits at read
    dsimp only at read
    split at read
    next => cases read
    next nonempty =>
      cases read
      refine ⟨List.takeWhile_append_dropWhile.symm, ⟨nonempty, fun c membership => ?_⟩,
        fun c isHead => ?_⟩
      · exact List.all_eq_true.mp List.all_takeWhile c membership
      · have notDigit := List.head?_dropWhile_not Char.isDigit text
        rw [Option.mem_def.mp isHead] at notDigit
        simpa using notDigit
  · rintro ⟨rfl, isDigits, stops⟩
    exact readDigits_append isDigits stops

theorem readDigits_error_iff : readDigits text = .error misread ↔
    BeginsWithoutDigit text ∧ misread = ⟨.missingDigit text.head?, text⟩ := by
  have noDigits : text.takeWhile Char.isDigit = [] ↔ BeginsWithoutDigit text := by
    cases text with
    | nil => simp [BeginsWithoutDigit]
    | cons c text => cases isDigit : c.isDigit <;> simp [BeginsWithoutDigit, isDigit]
  unfold readDigits spanDigits
  dsimp only
  split
  next none => simp [noDigits.mp none, eq_comm]
  next some => simp [mt noDigits.mpr some]

/-- The whole part of a number: a zero alone, or digits that do not begin with one. -/
def IsWholePart (whole : List Char) : Prop :=
  whole = ['0'] ∨ IsDigits whole ∧ whole.head? ≠ some '0'

theorem IsWholePart.isDigits (isWhole : IsWholePart whole) : IsDigits whole := by
  rcases isWhole with rfl | ⟨isDigits, _⟩
  · exact ⟨List.cons_ne_nil _ _, List.forall_mem_singleton.mpr rfl⟩
  · exact isDigits

theorem readWhole_append (isWhole : IsWholePart whole) (stops : BeginsWithoutDigit rest) :
    readWhole (whole ++ rest) = .ok (whole, rest) := by
  have digitsRead := readDigits_append isWhole.isDigits stops
  unfold readWhole
  split
  next c tail same =>
    rcases isWhole with rfl | ⟨isDigits, leading⟩
    · cases same
      have notDigit : c.isDigit = false := stops c rfl
      rw [notDigit]
      exact digitsRead
    · obtain ⟨first, more, rfl⟩ := List.exists_cons_of_ne_nil isDigits.nonempty
      obtain ⟨rfl, _⟩ := List.cons.inj same
      exact absurd rfl leading
  next => exact digitsRead

theorem readWhole_ok_iff : readWhole text = .ok (whole, rest) ↔
    text = whole ++ rest ∧ IsWholePart whole ∧ BeginsWithoutDigit rest := by
  constructor
  · intro read
    have ofDigits (digitsRead : readDigits text = .ok (whole, rest))
        (isWhole : IsDigits whole → IsWholePart whole) :
        text = whole ++ rest ∧ IsWholePart whole ∧ BeginsWithoutDigit rest := by
      obtain ⟨textEq, isDigits, stops⟩ := readDigits_ok_iff.mp digitsRead
      exact ⟨textEq, isWhole isDigits, stops⟩
    unfold readWhole at read
    split at read
    next c tail =>
      split at read
      next => cases read
      next notDigit =>
        refine ofDigits read fun isDigits => ?_
        -- The character behind the zero is none of the digits, so the zero is alone.
        have spanned : readDigits (['0'] ++ c :: tail) = .ok (['0'], c :: tail) :=
          readDigits_append ⟨List.cons_ne_nil _ _, List.forall_mem_singleton.mpr rfl⟩
            (by rintro d ⟨⟩; exact Bool.eq_false_iff.mpr notDigit)
        cases read.symm.trans spanned
        exact .inl rfl
    next notZero =>
      refine ofDigits read fun isDigits => ?_
      obtain ⟨first, more, rfl⟩ := List.exists_cons_of_ne_nil isDigits.nonempty
      obtain ⟨rfl, _⟩ := readDigits_ok_iff.mp read
      by_cases zero : first = '0'
      · subst zero
        cases more with
        | nil => exact .inl rfl
        | cons second more => exact absurd rfl (notZero second (more ++ rest))
      · exact .inr ⟨isDigits, by simpa using zero⟩
  · rintro ⟨rfl, isWhole, stops⟩
    exact readWhole_append isWhole stops

theorem readWhole_error_iff : readWhole text = .error misread ↔
    (∃ digit tail, text = '0' :: digit :: tail ∧ digit.isDigit = true ∧
      misread = ⟨.digitAfterZero digit, digit :: tail⟩) ∨
    BeginsWithoutDigit text ∧ misread = ⟨.missingDigit text.head?, text⟩ := by
  unfold readWhole
  split
  next c tail =>
    have begins : ¬BeginsWithoutDigit ('0' :: c :: tail) := fun without =>
      absurd (without '0' rfl) (by decide)
    split
    next isDigit =>
      rw [or_iff_left fun without => begins without.1]
      constructor
      · rintro ⟨⟩
        exact ⟨c, tail, rfl, isDigit, rfl⟩
      · rintro ⟨_, _, ⟨⟩, _, rfl⟩
        rfl
    next notDigit =>
      rw [readDigits_error_iff, or_iff_right]
      rintro ⟨_, _, ⟨⟩, isDigit, _⟩
      exact notDigit isDigit
  next notZero =>
    rw [readDigits_error_iff, or_iff_right]
    rintro ⟨digit, tail, rfl, _⟩
    exact notZero digit tail rfl

def fractionText (fraction : Option (List Char)) : List Char :=
  fraction.elim [] fun digits => '.' :: digits

def powerText (power : Option Power) : List Char :=
  power.elim [] Power.chars

theorem readFraction_append {fraction : Option (List Char)}
    (areDigits : ∀ digits ∈ fraction, IsDigits digits)
    (stops : ∀ c ∈ rest.head?, c.isDigit = false ∧ (fraction = none → c ≠ '.')) :
    readFraction (fractionText fraction ++ rest) = .ok (fractionText fraction, rest) := by
  cases fraction with
  | none =>
      rw [fractionText, Option.elim_none, List.nil_append]
      unfold readFraction
      split
      next => exact absurd rfl ((stops '.' rfl).2 rfl)
      next => rfl
  | some digits =>
      have read := readDigits_append (areDigits digits rfl) fun c isHead => (stops c isHead).1
      rw [fractionText, Option.elim_some, List.cons_append, readFraction, read]
      rfl

theorem exists_of_readFraction (read : readFraction text = .ok (chars, rest)) :
    ∃ fraction : Option (List Char), (∀ digits ∈ fraction, IsDigits digits) ∧
      chars = fractionText fraction ∧ text = chars ++ rest ∧
      ∀ c ∈ rest.head?, (fraction = none → c ≠ '.') ∧ (fraction ≠ none → c.isDigit = false) := by
  unfold readFraction at read
  split at read
  next tail =>
    obtain ⟨⟨digits, behind⟩, digitsRead, returned⟩ := exists_of_bind_ok read
    cases returned
    obtain ⟨rfl, isDigits, stops⟩ := readDigits_ok_iff.mp digitsRead
    refine ⟨some digits, by simpa using isDigits, rfl, rfl, fun c isHead => ⟨nofun, fun _ => ?_⟩⟩
    exact stops c isHead
  next noPoint =>
    cases read
    refine ⟨none, nofun, rfl, rfl, fun c isHead => ⟨?_, fun isSome => absurd rfl isSome⟩⟩
    rintro - rfl
    obtain ⟨tail, rfl⟩ := List.head?_eq_some_iff.mp isHead
    exact noPoint tail rfl

theorem readFraction_error_iff : readFraction text = .error misread ↔
    ∃ tail, text = '.' :: tail ∧ BeginsWithoutDigit tail ∧
      misread = ⟨.missingDigit tail.head?, tail⟩ := by
  unfold readFraction
  split
  next tail =>
    cases digitsRead : readDigits tail with
    | ok pair =>
        refine iff_of_false nofun ?_
        rintro ⟨_, ⟨⟩, without, _⟩
        have failed := readDigits_error_iff.mpr ⟨without, rfl⟩
        rw [digitsRead] at failed
        cases failed
    | error other =>
        obtain ⟨without, rfl⟩ := readDigits_error_iff.mp digitsRead
        constructor
        · rintro ⟨⟩
          exact ⟨tail, rfl, without, rfl⟩
        · rintro ⟨_, ⟨⟩, _, rfl⟩
          rfl
  next noPoint =>
    refine iff_of_false nofun ?_
    rintro ⟨tail, rfl, _⟩
    exact noPoint tail rfl

theorem spanSign_eq_iff : spanSign text = (sign, rest) ↔
    text = sign ++ rest ∧ (sign = [] ∨ sign = ['+'] ∨ sign = ['-']) ∧
      (sign = [] → ∀ c ∈ rest.head?, c ≠ '+' ∧ c ≠ '-') := by
  constructor
  · intro spanned
    unfold spanSign at spanned
    split at spanned
    next =>
      cases spanned
      exact ⟨rfl, .inr (.inl rfl), nofun⟩
    next =>
      cases spanned
      exact ⟨rfl, .inr (.inr rfl), nofun⟩
    next noPlus noMinus =>
      cases spanned
      refine ⟨rfl, .inl rfl, fun _ c isHead => ?_⟩
      obtain ⟨tail, rfl⟩ := List.head?_eq_some_iff.mp isHead
      exact ⟨fun isPlus => noPlus tail (by rw [isPlus]), fun isMinus => noMinus tail (by rw [isMinus])⟩
  · rintro ⟨rfl, rfl | rfl | rfl, noSign⟩
    · rw [List.nil_append]
      unfold spanSign
      split
      next => exact absurd rfl (noSign rfl '+' rfl).1
      next => exact absurd rfl (noSign rfl '-' rfl).2
      next => rfl
    · rfl
    · rfl

theorem spanSign_digits {digits : List Char} (isDigits : IsDigits digits) (rest : List Char) :
    spanSign (digits ++ rest) = ([], digits ++ rest) := by
  obtain ⟨c, tail, rfl⟩ := List.exists_cons_of_ne_nil isDigits.nonempty
  have isDigit := isDigits.digits c (by simp)
  refine spanSign_eq_iff.mpr ⟨rfl, .inl rfl, fun _ d isHead => ?_⟩
  cases isHead
  constructor <;> rintro rfl <;> revert isDigit <;> decide

theorem spanSign_chars (power : Power) (rest : List Char) :
    spanSign (power.sign ++ (power.digits ++ rest)) = (power.sign, power.digits ++ rest) := by
  rcases power.isSign with none | plus | minus
  · rw [none, List.nil_append]
    exact spanSign_digits power.isDigits rest
  · rw [plus]
    rfl
  · rw [minus]
    rfl

theorem readPower_append {power : Option Power}
    (stops : ∀ c ∈ rest.head?, c.isDigit = false ∧ (power = none → c ≠ 'e' ∧ c ≠ 'E')) :
    readPower (powerText power ++ rest) = .ok (powerText power, rest) := by
  cases power with
  | none =>
      rw [powerText, Option.elim_none, List.nil_append]
      unfold readPower
      split
      next => rfl
      next marker tail =>
        have noMarker := (stops marker rfl).2 rfl
        rw [if_neg (not_or.mpr noMarker)]
  | some power =>
      have read := readDigits_append power.isDigits fun c isHead => (stops c isHead).1
      rw [powerText, Option.elim_some, Power.chars, List.cons_append, List.cons_append,
        List.append_assoc, readPower, if_pos power.isMarker]
      simp only [spanSign_chars]
      rw [read]
      rfl

theorem exists_of_readPower (read : readPower text = .ok (chars, rest)) :
    ∃ power : Option Power, chars = powerText power ∧ text = chars ++ rest ∧
      ∀ c ∈ rest.head?, (power = none → c ≠ 'e' ∧ c ≠ 'E') ∧
        (power ≠ none → c.isDigit = false) := by
  unfold readPower at read
  split at read
  next =>
    cases read
    refine ⟨none, rfl, rfl, ?_⟩
    rintro c ⟨⟩
  next marker tail =>
    split at read
    next isMarker =>
      obtain ⟨sign, unsigned, spanned⟩ : ∃ sign unsigned, spanSign tail = (sign, unsigned) :=
        ⟨_, _, rfl⟩
      simp only [spanned] at read
      obtain ⟨⟨digits, behind⟩, digitsRead, returned⟩ := exists_of_bind_ok read
      cases returned
      obtain ⟨rfl, isSign, _⟩ := spanSign_eq_iff.mp spanned
      obtain ⟨rfl, isDigits, stops⟩ := readDigits_ok_iff.mp digitsRead
      refine ⟨some ⟨marker, sign, digits, isMarker, isSign, isDigits⟩, rfl, by simp, ?_⟩
      exact fun c isHead => ⟨fun isNone => absurd isNone (Option.some_ne_none _),
        fun _ => stops c isHead⟩
    next noMarker =>
      cases read
      refine ⟨none, rfl, rfl, fun c isHead => ⟨fun _ => ?_, fun isSome => absurd rfl isSome⟩⟩
      cases isHead
      exact not_or.mp noMarker

theorem readPower_error_iff : readPower text = .error misread ↔
    ∃ marker sign tail, text = marker :: sign ++ tail ∧ (marker = 'e' ∨ marker = 'E') ∧
      (sign = [] ∨ sign = ['+'] ∨ sign = ['-']) ∧
      (sign = [] → ∀ c ∈ tail.head?, c ≠ '+' ∧ c ≠ '-') ∧ BeginsWithoutDigit tail ∧
      misread = ⟨.missingDigit tail.head?, tail⟩ := by
  unfold readPower
  split
  next =>
    constructor
    · rintro ⟨⟩
    · rintro ⟨_, _, _, ⟨⟩, _⟩
  next marker behind =>
    split
    next isMarker =>
      obtain ⟨sign, tail, spanned⟩ : ∃ sign tail, spanSign behind = (sign, tail) := ⟨_, _, rfl⟩
      obtain ⟨rfl, isSign, noSign⟩ := spanSign_eq_iff.mp spanned
      simp only [spanned]
      have sameSplit {otherMarker : Char} {otherSign otherTail : List Char}
          (same : marker :: (sign ++ tail) = otherMarker :: otherSign ++ otherTail)
          (otherIsSign : otherSign = [] ∨ otherSign = ['+'] ∨ otherSign = ['-'])
          (otherNoSign : otherSign = [] → ∀ c ∈ otherTail.head?, c ≠ '+' ∧ c ≠ '-') :
          otherTail = tail := by
        obtain ⟨_, behindEq⟩ := List.cons.inj same
        have otherSpanned := spanSign_eq_iff.mpr ⟨behindEq, otherIsSign, otherNoSign⟩
        cases spanned.symm.trans otherSpanned
        rfl
      cases digitsRead : readDigits tail with
      | ok pair =>
          constructor
          · rintro ⟨⟩
          · rintro ⟨_, otherSign, _, same, _, otherIsSign, otherNoSign, without, _⟩
            rw [sameSplit same otherIsSign otherNoSign] at without
            have failed := readDigits_error_iff.mpr ⟨without, rfl⟩
            rw [digitsRead] at failed
            cases failed
      | error other =>
          obtain ⟨without, rfl⟩ := readDigits_error_iff.mp digitsRead
          constructor
          · rintro ⟨⟩
            exact ⟨marker, sign, tail, rfl, isMarker, isSign, noSign, without, rfl⟩
          · rintro ⟨_, otherSign, _, same, _, otherIsSign, otherNoSign, _, rfl⟩
            rw [sameSplit same otherIsSign otherNoSign]
            rfl
    next noMarker =>
      constructor
      · rintro ⟨⟩
      · rintro ⟨_, _, _, same, isMarker, _⟩
        cases same
        exact absurd isMarker noMarker

theorem exists_spanMinus (text : List Char) : ∃ negative rest,
    spanMinus text = (minusSign negative, rest) ∧ text = minusSign negative ++ rest ∧
      (negative = false → ∀ c ∈ rest.head?, c ≠ '-') := by
  unfold spanMinus
  split
  next rest => exact ⟨true, rest, rfl, rfl, nofun⟩
  next noMinus =>
    refine ⟨false, text, rfl, rfl, fun _ c isHead isMinus => ?_⟩
    obtain ⟨tail, rfl⟩ := List.head?_eq_some_iff.mp isHead
    exact noMinus tail (by rw [isMinus])

theorem spanMinus_minusSign (noMinus : negative = false → ∀ c ∈ rest.head?, c ≠ '-') :
    spanMinus (minusSign negative ++ rest) = (minusSign negative, rest) := by
  cases negative with
  | true => rfl
  | false =>
      rw [minusSign, if_neg Bool.false_ne_true, List.nil_append]
      unfold spanMinus
      split
      next => exact absurd rfl (noMinus rfl '-' rfl)
      next => rfl

end Parts

section Whole

theorem head?_wholePart (isWhole : IsWholePart whole) (rest : List Char) :
    ∀ c ∈ (whole ++ rest).head?, c.isDigit = true := by
  obtain ⟨first, more, rfl⟩ := List.exists_cons_of_ne_nil isWhole.isDigits.nonempty
  intro c isHead
  cases isHead
  exact isWhole.isDigits.digits first List.mem_cons_self

theorem spanMinus_wholePart (negative : Bool) (isWhole : IsWholePart whole) (rest : List Char) :
    spanMinus (minusSign negative ++ (whole ++ rest)) = (minusSign negative, whole ++ rest) := by
  refine spanMinus_minusSign fun _ c isHead isMinus => ?_
  have isDigit := head?_wholePart isWhole rest c isHead
  rw [isMinus] at isDigit
  exact absurd isDigit (by decide)

theorem numberText_append (negative : Bool) (numeral : Numeral) (rest : List Char) :
    numberText negative numeral ++ rest = minusSign negative ++ (numeral.whole ++
      (fractionText numeral.fraction ++ (powerText numeral.power ++ rest))) := by
  simp only [numberText, Numeral.chars, List.append_assoc]
  rfl

theorem beginsWithoutDigit_parts (fraction : Option (List Char)) (power : Option Power)
    (stops : BeginsWithoutDigit rest) :
    BeginsWithoutDigit (fractionText fraction ++ (powerText power ++ rest)) := by
  intro c isHead
  cases fraction with
  | some digits =>
      cases isHead
      rfl
  | none =>
      cases power with
      | none => exact stops c isHead
      | some power =>
          cases isHead
          rcases power.isMarker with lower | upper
          · rw [lower]
            rfl
          · rw [upper]
            rfl

theorem mem_numberText {c : Char} (member : c ∈ numberText negative numeral) :
    c.isDigit = true ∨ c ∈ ['-', '+', '.', 'e', 'E'] := by
  have textEq := numberText_append negative numeral []
  rw [List.append_nil] at textEq
  simp only [textEq, List.append_nil, List.mem_append] at member
  rcases member with isSign | inWhole | inFraction | inPower
  · cases negative with
    | true => simp_all [minusSign]
    | false => cases isSign
  · exact .inl (numeral.isDigits_whole.digits c inWhole)
  · cases hasFraction : numeral.fraction with
    | none => simp [hasFraction, fractionText] at inFraction
    | some digits =>
        rw [hasFraction, fractionText, Option.elim_some, List.mem_cons] at inFraction
        rcases inFraction with rfl | inDigits
        · exact .inr (by decide)
        · exact .inl ((numeral.isFraction digits hasFraction).digits c inDigits)
  · cases hasPower : numeral.power with
    | none => simp [hasPower, powerText] at inPower
    | some power =>
        rw [hasPower, powerText, Option.elim_some, Power.chars, List.mem_append,
          List.mem_cons] at inPower
        rcases inPower with (rfl | inSign) | inDigits
        · rcases power.isMarker with lower | upper
          · rw [lower]
            exact .inr (by decide)
          · rw [upper]
            exact .inr (by decide)
        · rcases power.isSign with none | plus | minus
          · simp [none] at inSign
          · simp_all
          · simp_all
        · exact .inl (power.isDigits.digits c inDigits)

theorem fraction_stops {fraction : Option (List Char)} {power : Option Power}
    (stops : ∀ c ∈ rest.head?, c.isDigit = false ∧ (fraction = none → power = none → c ≠ '.')) :
    ∀ c ∈ (powerText power ++ rest).head?, c.isDigit = false ∧ (fraction = none → c ≠ '.') := by
  intro c isHead
  cases power with
  | none => exact ⟨(stops c isHead).1, fun isNone => (stops c isHead).2 isNone rfl⟩
  | some power =>
      cases isHead
      rcases power.isMarker with lower | upper
      · rw [lower]
        exact ⟨rfl, fun _ => by decide⟩
      · rw [upper]
        exact ⟨rfl, fun _ => by decide⟩

/-- A number is read if nothing behind it could go on with it. -/
theorem readNumber_append (ends : EndsNumber numeral rest) :
    readNumber (numberText negative numeral ++ rest) = .ok (numberLexeme negative numeral) := by
  have spanned := spanMinus_wholePart negative numeral.isWhole
    (fractionText numeral.fraction ++ (powerText numeral.power ++ rest))
  have wholeStops := beginsWithoutDigit_parts numeral.fraction numeral.power
    fun c isHead => (ends c isHead).1
  have wholeRead := readWhole_append numeral.isWhole wholeStops
  have fractionRead := readFraction_append numeral.isFraction
    (fraction_stops fun c isHead => ⟨(ends c isHead).1, (ends c isHead).2.1⟩)
  have powerRead : readPower (powerText numeral.power ++ rest) = .ok (powerText numeral.power, rest) :=
    readPower_append fun c isHead => ⟨(ends c isHead).1, (ends c isHead).2.2⟩
  have isInt : (fractionText numeral.fraction = [] ∧ powerText numeral.power = []) ↔
      (numeral.fraction = none ∧ numeral.power = none) := by
    cases numeral.fraction <;> cases numeral.power <;> simp [fractionText, powerText, Power.chars]
  have written : minusSign negative ++ numeral.whole ++ fractionText numeral.fraction ++
      powerText numeral.power = numberText negative numeral := by
    have textEq := numberText_append negative numeral []
    simp only [List.append_nil] at textEq
    simp only [textEq, List.append_assoc]
  rw [numberText_append]
  simp only [readNumber, spanned, wholeRead, fractionRead, powerRead, bind, Except.bind, isInt,
    written]
  rfl

theorem readNumber_ok_iff : readNumber text = .ok lexeme ↔
    ∃ negative numeral left, text = numberText negative numeral ++ left ∧
      EndsNumber numeral left ∧ lexeme = numberLexeme negative numeral := by
  constructor
  · intro numberRead
    obtain ⟨negative, unsigned, spanned, rfl, _⟩ := exists_spanMinus text
    have read := numberRead
    simp only [readNumber, spanned] at read
    obtain ⟨⟨whole, afterWhole⟩, wholeRead, read⟩ := exists_of_bind_ok read
    obtain ⟨⟨fractionChars, afterFraction⟩, fractionRead, read⟩ := exists_of_bind_ok read
    obtain ⟨⟨powerChars, left⟩, powerRead, _⟩ := exists_of_bind_ok read
    obtain ⟨rfl, isWhole, wholeStops⟩ := readWhole_ok_iff.mp wholeRead
    obtain ⟨fraction, isFraction, rfl, rfl, fractionStops⟩ := exists_of_readFraction fractionRead
    obtain ⟨power, rfl, rfl, powerStops⟩ := exists_of_readPower powerRead
    let numeral : Numeral := ⟨whole, fraction, power, isWhole, isFraction⟩
    have ends : EndsNumber numeral left := by
      intro c isHead
      refine ⟨?_, ?_, (powerStops c isHead).1⟩
      · by_cases noPower : power = none
        · subst noPower
          by_cases noFraction : fraction = none
          · subst noFraction
            exact wholeStops c isHead
          · exact (fractionStops c isHead).2 noFraction
        · exact (powerStops c isHead).2 noPower
      · rintro noFraction (rfl : power = none)
        exact (fractionStops c isHead).1 noFraction
    have textEq := numberText_append negative numeral left
    have again : readNumber (numberText negative numeral ++ left) = _ := readNumber_append ends
    rw [textEq] at again
    exact ⟨negative, numeral, left, textEq.symm, ends,
      Except.ok.inj (numberRead.symm.trans again)⟩
  · rintro ⟨negative, numeral, left, rfl, ends, rfl⟩
    exact readNumber_append ends

end Whole

section Faults

variable {front : List Char} {found : Option Char} {cause : SyntaxCause}

theorem breaksNumber_of_readNumber (read : readNumber text = .error misread) :
    ∃ front, text = front ++ misread.left ∧
      BreaksNumber front misread.left.head? misread.cause := by
  obtain ⟨negative, unsigned, spanned, rfl, noMinus⟩ := exists_spanMinus text
  simp only [readNumber, spanned] at read
  cases wholeRead : readWhole unsigned with
  | error other =>
      rw [wholeRead] at read
      cases read
      rcases readWhole_error_iff.mp wholeRead with
        ⟨digit, tail, rfl, isDigit, rfl⟩ | ⟨without, rfl⟩
      · exact ⟨minusSign negative ++ ['0'], by simp, .afterZero isDigit⟩
      · exact ⟨minusSign negative, rfl, .whole without noMinus⟩
  | ok wholePair =>
      obtain ⟨whole, afterWhole⟩ := wholePair
      rw [wholeRead] at read
      obtain ⟨rfl, isWhole, _⟩ := readWhole_ok_iff.mp wholeRead
      cases fractionRead : readFraction afterWhole with
      | error other =>
          simp only [bind, Except.bind, fractionRead] at read
          cases read
          obtain ⟨tail, rfl, without, rfl⟩ := readFraction_error_iff.mp fractionRead
          let numeral : Numeral := ⟨whole, none, none, isWhole, nofun⟩
          refine ⟨numberText negative numeral ++ ['.'], ?_, .fraction rfl rfl without⟩
          rw [List.append_assoc, numberText_append]
          rfl
      | ok fractionPair =>
          obtain ⟨chars, afterFraction⟩ := fractionPair
          obtain ⟨fraction, isFraction, rfl, rfl, _⟩ := exists_of_readFraction fractionRead
          cases powerRead : readPower afterFraction with
          | ok powerPair =>
              simp only [bind, Except.bind, fractionRead, powerRead] at read
              cases read
          | error other =>
              simp only [bind, Except.bind, fractionRead, powerRead] at read
              cases read
              obtain ⟨marker, sign, tail, rfl, isMarker, isSign, noSign, without, rfl⟩ :=
                readPower_error_iff.mp powerRead
              let numeral : Numeral := ⟨whole, fraction, none, isWhole, isFraction⟩
              refine ⟨numberText negative numeral ++ marker :: sign, ?_,
                .power rfl isMarker isSign without noSign⟩
              rw [List.append_assoc, numberText_append]
              rfl

/-- Where a number breaks off, it does so whatever comes behind the character that is found. -/
theorem readNumber_of_breaksNumber (breaks : BreaksNumber front found cause)
    (isHead : rest.head? = found) : readNumber (front ++ rest) = .error ⟨cause, rest⟩ := by
  cases breaks with
  | @afterZero negative digit isDigit =>
      obtain ⟨tail, rfl⟩ := List.head?_eq_some_iff.mp isHead
      have isWhole : IsWholePart ['0'] := .inl rfl
      have spanned := spanMinus_wholePart negative isWhole (digit :: tail)
      have wholeRead := readWhole_error_iff.mpr (.inl ⟨digit, tail, rfl, isDigit, rfl⟩)
      rw [List.append_assoc]
      simp only [readNumber, spanned]
      rw [List.singleton_append, wholeRead]
      rfl
  | @whole negative _ noDigit noMinus =>
      subst isHead
      have wholeRead := readWhole_error_iff.mpr (.inr ⟨noDigit, rfl⟩)
      simp only [readNumber, spanMinus_minusSign noMinus, wholeRead]
      rfl
  | @fraction negative numeral _ noFraction noPower noDigit =>
      subst isHead
      have spanned := spanMinus_wholePart negative numeral.isWhole ('.' :: rest)
      have wholeRead : readWhole (numeral.whole ++ '.' :: rest) = _ :=
        readWhole_append numeral.isWhole (by rintro c ⟨⟩; rfl)
      have fractionRead := readFraction_error_iff.mpr ⟨rest, rfl, noDigit, rfl⟩
      rw [List.append_assoc, numberText_append, noFraction, noPower]
      simp only [fractionText, powerText, Option.elim_none, List.nil_append, List.cons_append]
      simp only [readNumber, spanned, wholeRead, fractionRead, bind, Except.bind]
  | @power negative numeral marker sign _ noPower isMarker isSign noDigit noSign =>
      subst isHead
      have markerStops : ∀ c ∈ (marker :: (sign ++ rest)).head?, c.isDigit = false ∧
          (numeral.fraction = none → none = (none : Option Power) → c ≠ '.') := by
        intro c isHead
        cases isHead
        rcases isMarker with rfl | rfl
        · exact ⟨rfl, fun _ _ => by decide⟩
        · exact ⟨rfl, fun _ _ => by decide⟩
      have spanned := spanMinus_wholePart negative numeral.isWhole
        (fractionText numeral.fraction ++ (marker :: (sign ++ rest)))
      have wholeStops := beginsWithoutDigit_parts numeral.fraction none
        fun c isHead => (markerStops c isHead).1
      have wholeRead := readWhole_append numeral.isWhole wholeStops
      have fractionRead := readFraction_append numeral.isFraction (fraction_stops markerStops)
      have powerRead : readPower (marker :: (sign ++ rest)) = _ := readPower_error_iff.mpr
        ⟨marker, sign, rest, rfl, isMarker, isSign, noSign, noDigit, rfl⟩
      simp only [powerText, Option.elim_none, List.nil_append] at wholeRead fractionRead
      rw [List.append_assoc, numberText_append, noPower]
      simp only [powerText, Option.elim_none, List.nil_append, List.cons_append]
      simp only [readNumber, spanned, wholeRead, fractionRead, powerRead, bind, Except.bind]

theorem readNumber_numberText (negative : Bool) (numeral : Numeral) :
    readNumber (numberText negative numeral) = .ok (numberLexeme negative numeral) := by
  have read : readNumber (numberText negative numeral ++ []) = _ := readNumber_append nofun
  rwa [List.append_nil] at read

theorem BreaksNumber.isNumberFront (breaks : BreaksNumber front found cause) :
    IsNumberFront front := by
  have isZero : IsDigits ['0'] := ⟨List.cons_ne_nil _ _, List.forall_mem_singleton.mpr rfl⟩
  let zero : Numeral := ⟨['0'], none, none, .inl rfl, nofun⟩
  cases breaks with
  | @afterZero negative => exact ⟨negative, zero, List.prefix_rfl⟩
  | @whole negative => exact ⟨negative, zero, List.prefix_append _ _⟩
  | @fraction negative numeral _ noFraction noPower =>
      let longer : Numeral := ⟨numeral.whole, some ['0'], none, numeral.isWhole, by
        rintro digits ⟨⟩
        exact isZero⟩
      refine ⟨negative, longer, ['0'], ?_⟩
      have longerText := numberText_append negative longer []
      rw [List.append_nil] at longerText
      rw [longerText, List.append_assoc, numberText_append, noFraction, noPower]
      rfl
  | @power negative numeral marker sign _ noPower isMarker isSign =>
      let ending : Power := ⟨marker, sign, ['0'], isMarker, isSign, isZero⟩
      let longer : Numeral :=
        ⟨numeral.whole, numeral.fraction, some ending, numeral.isWhole, numeral.isFraction⟩
      refine ⟨negative, longer, ['0'], ?_⟩
      have longerText := numberText_append negative longer []
      rw [List.append_nil] at longerText
      rw [longerText, List.append_assoc, numberText_append, noPower]
      simp [powerText, longer, ending, Power.chars]

theorem BreaksNumber.not_isNumberFront {c : Char}
    (breaks : BreaksNumber front (some c) cause) : ¬IsNumberFront (front ++ [c]) := by
  rintro ⟨negative, numeral, more, textEq⟩
  have failed := readNumber_of_breaksNumber breaks (List.head?_cons : (c :: more).head? = some c)
  have read := readNumber_numberText negative numeral
  rw [← textEq, List.append_assoc, List.singleton_append, failed] at read
  cases read

theorem BreaksNumber.ne_numberText (breaks : BreaksNumber front found (.missingDigit found))
    (negative : Bool) (numeral : Numeral) : front ≠ numberText negative numeral := by
  intro isNumber
  have breaksAtEnd : BreaksNumber front none (.missingDigit none) := by
    cases breaks with
    | whole => exact .whole nofun nofun
    | fraction noFraction noPower => exact .fraction noFraction noPower nofun
    | power noPower isMarker isSign => exact .power noPower isMarker isSign nofun nofun
  have failed := readNumber_of_breaksNumber breaksAtEnd (List.head?_nil : ([] : List Char).head? = none)
  rw [List.append_nil, isNumber, readNumber_numberText] at failed
  cases failed

theorem BreaksNumber.causes (breaks : BreaksNumber front found cause) :
    (∃ negative d, front = minusSign negative ++ ['0'] ∧ found = some d ∧ d.isDigit = true ∧
      cause = .digitAfterZero d) ∨
    (∀ negative numeral, front ≠ numberText negative numeral) ∧
      (∀ d ∈ found, d.isDigit = false) ∧ cause = .missingDigit found := by
  cases breaks with
  | @afterZero negative digit isDigit => exact .inl ⟨negative, digit, rfl, rfl, isDigit, rfl⟩
  | @whole negative _ noDigit noMinus =>
      have missing : BreaksNumber (minusSign negative) found (.missingDigit found) :=
        .whole noDigit noMinus
      exact .inr ⟨missing.ne_numberText, noDigit, rfl⟩
  | @fraction negative numeral _ noFraction noPower noDigit =>
      have missing : BreaksNumber (numberText negative numeral ++ ['.']) found
          (.missingDigit found) := .fraction noFraction noPower noDigit
      exact .inr ⟨missing.ne_numberText, noDigit, rfl⟩
  | @power negative numeral marker sign _ noPower isMarker isSign noDigit noSign =>
      have missing : BreaksNumber (numberText negative numeral ++ marker :: sign) found
          (.missingDigit found) := .power noPower isMarker isSign noDigit noSign
      exact .inr ⟨missing.ne_numberText, noDigit, rfl⟩

end Faults

end QueryPlanner.Condition
