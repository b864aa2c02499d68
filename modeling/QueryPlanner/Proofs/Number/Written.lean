import QueryPlanner.Proofs.Number.Numeral

/-!
# Numbers read back from their text

Every whole number of 64 bits and every finite floating-point number is written as a numeral,
with a minus sign where it is negative, and the text is read as the same number again.
-/

namespace QueryPlanner.Number

theorem isDigits_toDigits (n : Nat) : IsDigits (Nat.toDigits 10 n) :=
  ⟨Nat.toDigits_ne_nil, fun _ membership =>
    Nat.isDigit_of_mem_toDigits (by omega) (by omega) membership⟩

theorem head_toDigits_ne_zero {n : Nat} (nonzero : n ≠ 0) :
    (Nat.toDigits 10 n).head? ≠ some '0' := by
  induction n using Nat.strongRecOn with
  | ind n inductionHypothesis =>
      rw [Nat.toDigits_eq_if (by omega)]
      split
      next single =>
        have cases : n = 1 ∨ n = 2 ∨ n = 3 ∨ n = 4 ∨ n = 5 ∨ n = 6 ∨ n = 7 ∨ n = 8 ∨ n = 9 := by
          omega
        rcases cases with rfl | rfl | rfl | rfl | rfl | rfl | rfl | rfl | rfl <;> decide
      next more =>
        rw [List.head?_append_of_ne_nil _ Nat.toDigits_ne_nil]
        exact inductionHypothesis (n / 10) (by omega) (by omega)

theorem isWhole_toDigits (n : Nat) :
    Nat.toDigits 10 n = ['0'] ∨
      IsDigits (Nat.toDigits 10 n) ∧ (Nat.toDigits 10 n).head? ≠ some '0' := by
  by_cases zero : n = 0
  · exact .inl (by simp [zero])
  · exact .inr ⟨isDigits_toDigits n, head_toDigits_ne_zero zero⟩

@[simp]
theorem ofDigits_toDigits (n : Nat) : ofDigits (Nat.toDigits 10 n) = n :=
  Nat.ofDigitChars_ten_toDigits

theorem ofDigits_append (front back : List Char) :
    ofDigits (front ++ back) = ofDigits front * 10 ^ back.length + ofDigits back := by
  rw [ofDigits, Nat.ofDigitChars_append, Nat.ofDigitChars_eq_ofDigitChars_zero, Nat.mul_comm]
  rfl

@[simp]
theorem ofDigits_zeros (count : Nat) : ofDigits (List.replicate count '0') = 0 := by
  simp [ofDigits]

theorem zeros_areDigits (count : Nat) : ∀ c ∈ List.replicate count '0', c.isDigit = true := by
  intro c membership
  rw [List.eq_of_mem_replicate membership]
  decide

/-- A text that is a numeral with a fraction or a power of ten, of the same value as a decimal. -/
def IsFloatText (text : List Char) (decimal : Decimal) : Prop :=
  ∃ numeral : Numeral, numeral.chars = text ∧ numeral.decimal.value = decimal.value ∧
    (numeral.fraction.isSome ∨ numeral.power.isSome)

section WithPoint

variable {digits : List Char}

theorem withPoint_below (isDigits : IsDigits digits) {point : ℤ} (small : point ≤ 0) :
    IsFloatText (withPoint digits point) ⟨ofDigits digits, point - digits.length⟩ := by
  let fraction := List.replicate point.natAbs '0' ++ digits
  have isFraction : IsDigits fraction := by
    refine ⟨by simp [fraction, isDigits.nonempty], fun c membership => ?_⟩
    rcases List.mem_append.mp membership with inZeros | inDigits
    · exact zeros_areDigits _ c inZeros
    · exact isDigits.digits c inDigits
  refine ⟨⟨['0'], some fraction, none, .inl rfl, ?_⟩, ?_, ?_, .inl rfl⟩
  · intro text same
    cases same
    exact isFraction
  · simp [Numeral.chars, Numeral.fractionChars, Numeral.powerChars, withPoint, small, fraction]
  · have digitsEq : ofDigits ('0' :: fraction) = ofDigits digits := by
      have asAppend : '0' :: fraction = List.replicate (point.natAbs + 1) '0' ++ digits := by
        simp [fraction, List.replicate_succ]
      rw [asAppend, ofDigits_append]
      simp
    simp only [Numeral.decimal, Option.getD_some, List.singleton_append, digitsEq,
      Option.elim_none]
    congr 2
    simp only [fraction, List.length_append, List.length_replicate]
    omega

theorem withPoint_within (isDigits : IsDigits digits) (leading : digits.head? ≠ some '0')
    {count : Nat} (positive : 0 < count) (within : count < digits.length) :
    IsFloatText (withPoint digits count) ⟨ofDigits digits, count - digits.length⟩ := by
  have wholeLength : (digits.take count).length = count := by
    rw [List.length_take]
    omega
  have fractionLength : (digits.drop count).length = digits.length - count := List.length_drop
  have wholeNonempty : digits.take count ≠ [] :=
    List.ne_nil_of_length_pos (by omega)
  have fractionNonempty : digits.drop count ≠ [] :=
    List.ne_nil_of_length_pos (by omega)
  have isWhole : IsDigits (digits.take count) :=
    ⟨wholeNonempty, fun c membership => isDigits.digits c (List.mem_of_mem_take membership)⟩
  have wholeLeading : (digits.take count).head? ≠ some '0' := by
    rwa [List.head?_take, if_neg (by omega)]
  refine ⟨⟨digits.take count, some (digits.drop count), none, .inr ⟨isWhole, wholeLeading⟩, ?_⟩,
    ?_, ?_, .inl rfl⟩
  · intro text same
    cases same
    exact ⟨fractionNonempty, fun c membership =>
      isDigits.digits c (List.mem_of_mem_drop membership)⟩
  · have notSmall : ¬(count : ℤ) ≤ 0 := by omega
    rw [withPoint, if_neg notSmall]
    simp [Numeral.chars, Numeral.fractionChars, Numeral.powerChars, -List.length_take,
      wholeLength, fractionNonempty, -List.drop_eq_nil_iff]
  · simp only [Numeral.decimal, Option.getD_some, List.take_append_drop, Option.elim_none,
      fractionLength]
    congr 2
    omega

theorem withPoint_beyond (isDigits : IsDigits digits) {count : Nat} (beyond : digits.length ≤ count)
    (isWhole : digits = ['0'] ∧ count = 1 ∨ digits.head? ≠ some '0') :
    IsFloatText (withPoint digits count) ⟨ofDigits digits, count - digits.length⟩ := by
  have lengthPos : 0 < digits.length := List.length_pos_of_ne_nil isDigits.nonempty
  have taken : digits.take count = digits := List.take_of_length_le beyond
  have dropped : digits.drop count = [] := List.drop_of_length_le beyond
  let zeros := List.replicate (count - digits.length) '0'
  have isWholeWithZeros : digits ++ zeros = ['0'] ∨
      IsDigits (digits ++ zeros) ∧ (digits ++ zeros).head? ≠ some '0' := by
    rcases isWhole with ⟨rfl, rfl⟩ | leading
    · exact .inl rfl
    · refine .inr ⟨isDigits.append (zeros_areDigits _), ?_⟩
      rwa [List.head?_append_of_ne_nil _ isDigits.nonempty]
  refine ⟨⟨digits ++ zeros, some ['0'], none, isWholeWithZeros, ?_⟩, ?_, ?_, .inl rfl⟩
  · intro text same
    cases same
    exact ⟨List.cons_ne_nil _ _, List.forall_mem_singleton.mpr rfl⟩
  · have notSmall : ¬(count : ℤ) ≤ 0 := by omega
    rw [withPoint, if_neg notSmall]
    simp [Numeral.chars, Numeral.fractionChars, Numeral.powerChars, taken, dropped, zeros]
  · have digitsEq : ofDigits (digits ++ zeros ++ ['0']) =
        ofDigits digits * 10 ^ (zeros.length + 1) := by
      have allZeros : ofDigits (zeros ++ ['0']) = 0 := by
        rw [show zeros ++ ['0'] = List.replicate (count - digits.length + 1) '0' by
          simp [zeros, List.replicate_succ'], ofDigits_zeros]
      rw [List.append_assoc, ofDigits_append, allZeros]
      simp
    calc Decimal.value ⟨ofDigits (digits ++ zeros ++ ['0']), -1⟩
        = Decimal.value ⟨ofDigits digits, -1 + (zeros.length + 1 : Nat)⟩ := by
          rw [digitsEq, Decimal.value_shift]
      _ = Decimal.value ⟨ofDigits digits, count - digits.length⟩ := by
          congr 2
          simp only [zeros, List.length_replicate]
          omega

end WithPoint

def powerSign (style : Style) (power : ℤ) : List Char :=
  if power < 0 then ['-'] else if style.plusSign then ['+'] else []

def powerEnding (style : Style) (power : ℤ) : Power where
  marker := 'e'
  sign := powerSign style power
  digits := Nat.toDigits 10 power.natAbs
  isMarker := .inl rfl
  isSign := by
    unfold powerSign
    split
    · exact .inr (.inr rfl)
    · split
      · exact .inr (.inl rfl)
      · exact .inl rfl
  isDigits := isDigits_toDigits _

theorem powerEnding_exponent (style : Style) (power : ℤ) :
    (powerEnding style power).exponent = power := by
  by_cases negative : power < 0
  · have signEq : powerSign style power = ['-'] := if_pos negative
    simp only [Power.exponent, powerEnding, signEq, ofDigits_toDigits, if_true]
    omega
  · have signNe : powerSign style power ≠ ['-'] := by
      rw [powerSign, if_neg negative]
      split <;> simp
    simp only [Power.exponent, powerEnding, signNe, ofDigits_toDigits, if_false]
    omega

theorem withPower_text (style : Style) {digits : List Char} (isDigits : IsDigits digits)
    (leading : digits.head? ≠ some '0') (power : ℤ) :
    IsFloatText (withPower style digits power) ⟨ofDigits digits, power + 1 - digits.length⟩ := by
  obtain ⟨first, rest, rfl⟩ := List.exists_cons_of_ne_nil isDigits.nonempty
  have isFirst : IsDigits [first] ∧ [first].head? ≠ some '0' :=
    ⟨⟨by simp, fun c membership => isDigits.digits c (by simp_all)⟩, by simpa using leading⟩
  cases rest with
  | nil =>
      refine ⟨⟨[first], none, some (powerEnding style power), .inr isFirst, by simp⟩, ?_, ?_,
        .inr rfl⟩
      · simp [Numeral.chars, Numeral.fractionChars, Numeral.powerChars, withPower, Power.chars,
          powerEnding, powerSign]
      · simp [Numeral.decimal, powerEnding_exponent]
  | cons second rest =>
      refine ⟨⟨[first], some (second :: rest), some (powerEnding style power), .inr isFirst, ?_⟩,
        ?_, ?_, .inr rfl⟩
      · intro text same
        cases same
        exact ⟨by simp, fun c membership => isDigits.digits c (List.mem_cons_of_mem _ membership)⟩
      · simp [Numeral.chars, Numeral.fractionChars, Numeral.powerChars, withPower, Power.chars,
          powerEnding, powerSign]
      · simp only [Numeral.decimal, Option.getD_some, Option.elim_some, powerEnding_exponent,
          List.singleton_append]
        congr 2
        simp only [List.length_cons]
        omega

theorem Style.writeDecimal_text (style : Style) (decimal : Decimal)
    (normal : decimal.digits = 0 → decimal.exponent = 0) :
    IsFloatText (style.writeDecimal decimal) decimal := by
  have isDigits := isDigits_toDigits decimal.digits
  have valueEq (shifted : ℤ) (place : shifted = decimal.exponent) :
      Decimal.value ⟨ofDigits (Nat.toDigits 10 decimal.digits), shifted⟩ = decimal.value := by
    rw [place, ofDigits_toDigits]
  unfold Style.writeDecimal
  dsimp only
  split
  next moderate =>
    obtain ⟨numeral, charsEq, numeralValue, isFloat⟩ :
        IsFloatText (withPoint (Nat.toDigits 10 decimal.digits)
            (decimal.exponent + (Nat.toDigits 10 decimal.digits).length))
          ⟨ofDigits (Nat.toDigits 10 decimal.digits),
            decimal.exponent + (Nat.toDigits 10 decimal.digits).length -
              (Nat.toDigits 10 decimal.digits).length⟩ := by
      generalize pointEq : decimal.exponent + (Nat.toDigits 10 decimal.digits).length = point
      by_cases small : point ≤ 0
      · exact withPoint_below isDigits small
      · obtain ⟨count, rfl⟩ : ∃ count : Nat, point = count := ⟨point.natAbs, by omega⟩
        by_cases zero : decimal.digits = 0
        · have single : count = 1 := by
            have exponentZero := normal zero
            simp only [zero, Nat.toDigits_zero, List.length_singleton] at pointEq
            omega
          refine withPoint_beyond isDigits ?_ (.inl ⟨by simp [zero], single⟩)
          simp [zero, single]
        · have leading := head_toDigits_ne_zero zero
          by_cases within : count < (Nat.toDigits 10 decimal.digits).length
          · exact withPoint_within isDigits leading (by omega) within
          · exact withPoint_beyond isDigits (by omega) (.inr leading)
    exact ⟨numeral, charsEq, numeralValue.trans (valueEq _ (by omega)), isFloat⟩
  next extreme =>
    have nonzero : decimal.digits ≠ 0 := fun zero => extreme (.inl zero)
    obtain ⟨numeral, charsEq, numeralValue, isFloat⟩ :=
      withPower_text style isDigits (head_toDigits_ne_zero nonzero)
        (decimal.exponent + (Nat.toDigits 10 decimal.digits).length - 1)
    exact ⟨numeral, charsEq, numeralValue.trans (valueEq _ (by omega)), isFloat⟩

theorem shortest_normal (tie : Tie) (magnitude : Fin finiteCount)
    (zero : (shortest tie magnitude).digits = 0) : (shortest tie magnitude).exponent = 0 := by
  have readsBack := shortest_toBinary tie magnitude false
  have magnitudeZero : magnitude.val = 0 := by
    rw [Decimal.toBinary, if_pos (.inl zero)] at readsBack
    have readsZero : Binary64.ofRatio false 0 1 = .finite false ⟨0, by decide⟩ :=
      Binary64.ofRatio_of_value Nat.one_pos false _ (by simp [Binary64.value, Binary64.significand])
    rw [readsZero] at readsBack
    cases readsBack
    rfl
  simp [shortest, magnitudeZero]

def minusSign (negative : Bool) : List Char :=
  if negative then ['-'] else []

theorem Numeral.splitSign_chars (numeral : Numeral) (negative : Bool) :
    splitSign (minusSign negative ++ numeral.chars) = (negative, numeral.chars) := by
  cases negative with
  | true => rfl
  | false =>
      rw [minusSign, chars, List.append_assoc]
      exact numeral.isDigits_whole.splitSign_append _

/-- A finite number is written as a numeral that is read as that number. -/
theorem Style.write_finite (style : Style) (negative : Bool) (magnitude : Fin finiteCount) :
    ∃ numeral : Numeral, style.write (.finite negative magnitude) =
        minusSign negative ++ numeral.chars ∧
      (numeral.fraction.isSome ∨ numeral.power.isSome) ∧
      numeral.decimal.toBinary negative = .finite negative magnitude := by
  obtain ⟨numeral, charsEq, valueEq, isFloat⟩ :=
    style.writeDecimal_text (shortest style.tie magnitude) (shortest_normal style.tie magnitude)
  refine ⟨numeral, by rw [charsEq]; rfl, isFloat, ?_⟩
  rw [Decimal.toBinary_congr valueEq]
  exact shortest_toBinary style.tie magnitude negative

theorem readBinary64?_write (style : Style) {x : Binary64} (finite : x.isFinite = true) :
    readBinary64? (style.write x) = some x := by
  cases x with
  | nan => cases finite
  | infinite negative => cases finite
  | finite negative magnitude =>
      obtain ⟨numeral, written, _, readsBack⟩ := style.write_finite negative magnitude
      simp only [written, readBinary64?, numeral.splitSign_chars, numeral.readDecimal?_chars,
        readsBack]

def Numeral.ofNat (n : Nat) : Numeral :=
  ⟨Nat.toDigits 10 n, none, none, isWhole_toDigits n, by simp⟩

theorem Numeral.ofNat_chars (n : Nat) : (Numeral.ofNat n).chars = Nat.toDigits 10 n := by
  simp [chars, fractionChars, powerChars, ofNat]

theorem writeInt_eq (n : ℤ) :
    writeInt n = minusSign (n < 0) ++ (Numeral.ofNat n.natAbs).chars := by
  simp [writeInt, minusSign, Numeral.ofNat_chars]

theorem isWholeNumeral_writeInt (n : ℤ) : IsWholeNumeral (writeInt n) n := by
  have isDigits := isDigits_toDigits n.natAbs
  by_cases below : n < 0
  · have numeral := IsWholeNumeral.negative isDigits
    rw [ofDigits_toDigits, Int.ofNat_natAbs_of_nonpos (Int.le_of_lt below), Int.neg_neg] at numeral
    rw [writeInt, if_pos below]
    exact numeral
  · have numeral := IsWholeNumeral.unsigned isDigits
    rw [ofDigits_toDigits, Int.natAbs_of_nonneg (Int.not_lt.mp below)] at numeral
    rw [writeInt, if_neg below]
    exact numeral

theorem readInt?_writeInt (n : ℤ) : readInt? (writeInt n) = some n :=
  (isWholeNumeral_writeInt n).readInt?_eq

theorem readInt64?_writeInt (n : Int64) : readInt64? (writeInt n.toInt) = some n := by
  have lower := n.le_toInt
  have upper := n.toInt_lt
  rw [readInt64?, readInt?_writeInt, Option.bind_some, toInt64?,
    if_pos ⟨by simpa using lower, by simpa using upper⟩, Int64.ofInt_toInt]

end QueryPlanner.Number
