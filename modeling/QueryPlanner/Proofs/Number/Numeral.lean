import QueryPlanner.Number.Integer
import QueryPlanner.Number.Style
import QueryPlanner.Proofs.Number.ShortestReading

/-!
# Numerals

The texts of unsigned numbers, `(0|[1-9][0-9]*)(\.[0-9]+)?([eE][+-]?[0-9]+)?`, and the decimals
that they are read as.
-/

namespace QueryPlanner.Number

/-- A text of one or more decimal digits. -/
structure IsDigits (text : List Char) : Prop where
  nonempty : text ≠ []
  digits : ∀ c ∈ text, c.isDigit = true

/-- Digits, perhaps behind a minus sign, and the whole number that they denote. -/
inductive IsWholeNumeral : List Char → ℤ → Prop where
  | unsigned {digits : List Char} (isDigits : IsDigits digits) :
      IsWholeNumeral digits (ofDigits digits)
  | negative {digits : List Char} (isDigits : IsDigits digits) :
      IsWholeNumeral ('-' :: digits) (-(ofDigits digits : ℤ))

/-- A text that no digit begins. -/
def BeginsWithoutDigit (text : List Char) : Prop :=
  ∀ c ∈ text.head?, c.isDigit = false

theorem spanDigits_append {digits rest : List Char} (areDigits : ∀ c ∈ digits, c.isDigit = true)
    (stops : BeginsWithoutDigit rest) : spanDigits (digits ++ rest) = (digits, rest) := by
  have stopped : rest.takeWhile Char.isDigit = [] ∧ rest.dropWhile Char.isDigit = rest := by
    cases rest with
    | nil => exact ⟨rfl, rfl⟩
    | cons c rest =>
        have notDigit : c.isDigit = false := stops c rfl
        simp [notDigit]
  unfold spanDigits
  rw [List.takeWhile_append_of_pos areDigits, List.dropWhile_append_of_pos areDigits, stopped.1,
    stopped.2, List.append_nil]

theorem splitSign_of_isDigit {c : Char} (isDigit : c.isDigit = true) (rest : List Char) :
    splitSign (c :: rest) = (false, c :: rest) := by
  unfold splitSign
  split
  next same =>
    cases same
    exact absurd isDigit (by decide)
  next same =>
    cases same
    exact absurd isDigit (by decide)
  next => rfl

theorem IsDigits.splitSign_append {digits : List Char} (isDigits : IsDigits digits)
    (rest : List Char) : splitSign (digits ++ rest) = (false, digits ++ rest) := by
  cases digits with
  | nil => exact absurd rfl isDigits.nonempty
  | cons c tail => exact splitSign_of_isDigit (isDigits.digits c (by simp)) (tail ++ rest)

theorem IsWholeNumeral.readInt?_eq {text : List Char} {n : ℤ} (numeral : IsWholeNumeral text n) :
    readInt? text = some n := by
  have areDigits {digits : List Char} (isDigits : IsDigits digits) :
      digits ≠ [] ∧ digits.all Char.isDigit = true :=
    ⟨isDigits.nonempty, List.all_eq_true.mpr isDigits.digits⟩
  cases numeral with
  | @unsigned digits isDigits =>
      have unsigned : splitSign text = (false, text) := by
        simpa using isDigits.splitSign_append []
      rw [readInt?, unsigned]
      dsimp only
      rw [if_pos (areDigits isDigits)]
      rfl
  | negative isDigits =>
      rw [readInt?, splitSign]
      dsimp only
      rw [if_pos (areDigits isDigits)]
      rfl

theorem IsDigits.append {first second : List Char} (isFirst : IsDigits first)
    (areDigits : ∀ c ∈ second, c.isDigit = true) : IsDigits (first ++ second) := by
  refine ⟨by simp [isFirst.nonempty], fun c membership => ?_⟩
  rcases List.mem_append.mp membership with inFirst | inSecond
  · exact isFirst.digits c inFirst
  · exact areDigits c inSecond

structure Power where
  marker : Char
  sign : List Char
  digits : List Char
  isMarker : marker = 'e' ∨ marker = 'E'
  isSign : sign = [] ∨ sign = ['+'] ∨ sign = ['-']
  isDigits : IsDigits digits

namespace Power

def chars (power : Power) : List Char :=
  power.marker :: power.sign ++ power.digits

def exponent (power : Power) : ℤ :=
  if power.sign = ['-'] then -(ofDigits power.digits : ℤ) else ofDigits power.digits

theorem readPower?_chars (power : Power) : readPower? power.chars = some power.exponent := by
  have allDigits : power.digits.all Char.isDigit = true :=
    List.all_eq_true.mpr power.isDigits.digits
  rcases power with ⟨marker, sign, digits, isMarker, rfl | rfl | rfl, isDigits⟩
  · have noSign : splitSign digits = (false, digits) := by
      simpa using isDigits.splitSign_append []
    simp [readPower?, chars, exponent, isMarker, noSign, isDigits.nonempty, allDigits]
  · simp [readPower?, chars, exponent, isMarker, splitSign, isDigits.nonempty, allDigits]
  · simp [readPower?, chars, exponent, isMarker, splitSign, isDigits.nonempty, allDigits]

end Power

/-- The text of an unsigned number by its parts. -/
structure Numeral where
  whole : List Char
  fraction : Option (List Char)
  power : Option Power
  isWhole : whole = ['0'] ∨ IsDigits whole ∧ whole.head? ≠ some '0'
  isFraction : ∀ digits ∈ fraction, IsDigits digits

namespace Numeral

def fractionChars (numeral : Numeral) : List Char :=
  numeral.fraction.elim [] fun digits => '.' :: digits

def powerChars (numeral : Numeral) : List Char :=
  numeral.power.elim [] Power.chars

def chars (numeral : Numeral) : List Char :=
  numeral.whole ++ numeral.fractionChars ++ numeral.powerChars

def decimal (numeral : Numeral) : Decimal where
  digits := ofDigits (numeral.whole ++ numeral.fraction.getD [])
  exponent := (numeral.power.elim 0 Power.exponent) - (numeral.fraction.getD []).length

theorem isDigits_whole (numeral : Numeral) : IsDigits numeral.whole := by
  rcases numeral.isWhole with zero | leading
  · rw [zero]
    exact ⟨List.cons_ne_nil _ _, List.forall_mem_singleton.mpr rfl⟩
  · exact leading.1

theorem powerChars_beginsWithoutDigit (numeral : Numeral) :
    BeginsWithoutDigit numeral.powerChars := by
  intro c found
  rcases hasPower : numeral.power with _ | power
  · simp [powerChars, hasPower] at found
  · simp only [powerChars, hasPower, Option.elim_some, Power.chars, List.cons_append,
      List.head?_cons, Option.mem_def, Option.some.injEq] at found
    subst found
    rcases power.isMarker with lower | upper
    · simp [lower]
    · simp [upper]

theorem fractionChars_beginsWithoutDigit (numeral : Numeral) :
    BeginsWithoutDigit (numeral.fractionChars ++ numeral.powerChars) := by
  cases hasFraction : numeral.fraction with
  | none =>
      simpa [fractionChars, hasFraction] using numeral.powerChars_beginsWithoutDigit
  | some digits =>
      intro c found
      simp only [fractionChars, hasFraction, Option.elim_some, List.cons_append, List.head?_cons,
        Option.mem_def, Option.some.injEq] at found
      subst found
      decide

theorem readPower?_powerChars (numeral : Numeral) :
    readPower? numeral.powerChars = some (numeral.power.elim 0 Power.exponent) := by
  cases hasPower : numeral.power with
  | none => simp [powerChars, hasPower, readPower?]
  | some power => simpa [powerChars, hasPower] using power.readPower?_chars

theorem readDecimal?_chars (numeral : Numeral) :
    readDecimal? numeral.chars = some numeral.decimal := by
  have wholeRead : spanDigits numeral.chars =
      (numeral.whole, numeral.fractionChars ++ numeral.powerChars) := by
    rw [chars, List.append_assoc]
    exact spanDigits_append numeral.isDigits_whole.digits numeral.fractionChars_beginsWithoutDigit
  have wholeNonempty := numeral.isDigits_whole.nonempty
  unfold readDecimal?
  rw [wholeRead]
  cases hasFraction : numeral.fraction with
  | none =>
      have noPoint : ∀ tail, numeral.powerChars ≠ '.' :: tail := by
        intro tail same
        rcases hasPower : numeral.power with _ | power
        · simp [powerChars, hasPower] at same
        · simp only [powerChars, hasPower, Option.elim_some, Power.chars, List.cons_append,
            List.cons.injEq] at same
          rcases power.isMarker with lower | upper
          · simp [lower] at same
          · simp [upper] at same
      simp only [fractionChars, hasFraction, Option.elim_none, List.nil_append, wholeNonempty,
        false_and, if_false]
      simp [readPower?_powerChars, decimal, hasFraction]
  | some digits =>
      have isDigits := numeral.isFraction digits hasFraction
      simp only [fractionChars, hasFraction, Option.elim_some, List.cons_append,
        spanDigits_append isDigits.digits numeral.powerChars_beginsWithoutDigit]
      simp [wholeNonempty, readPower?_powerChars, decimal, hasFraction]

end Numeral

end QueryPlanner.Number
