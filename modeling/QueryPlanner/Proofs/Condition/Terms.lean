import QueryPlanner.Proofs.Condition.Grammar
import QueryPlanner.Proofs.Condition.Literals
import QueryPlanner.Proofs.Condition.Normal
import QueryPlanner.Proofs.Date.ReadBack

/-!
# Spellings of terms

Which literals can stand in which comparisons, and the terms that their texts spell.
-/

namespace QueryPlanner.Condition

open QueryPlanner.Date QueryPlanner.Number QueryPlanner.Text

/-- A literal that comparisons of order can have. -/
def IsOrdered : Literal → Prop
  | .int _ | .dateTime _ => True
  | .float x => x.isFinite = true
  | .string _ | .bool _ => False

/-- A literal that a comparison can have in a condition.  A string that gives a date is never the
right-hand side of an inequality: it would be read as the date. -/
def Admissible : CompareOp → Literal → Prop
  | .contains, .string _ => True
  | .contains, _ => False
  | .equal, .string _ | .equal, .bool _ | .notEqual, .bool _ => True
  | .notEqual, .string text => readDateTime? text.toList = none
  | _, literal => IsOrdered literal

/-- A token whose value is the text of a literal. -/
def Denotes (token : Token) : Literal → Prop
  | .string text => token.kind = .string ∧ token.text = text
  | .int n => token.kind = .int ∧ token.text = String.ofList (writeInt n.toInt)
  | .float x => token.kind = .float ∧ token.text = String.ofList (literalFloatStyle.write x) ∧
      x.isFinite = true
  | .bool b => token.kind = .boolean ∧ token.text = String.ofList (boolText b)
  | .dateTime moment => token.kind = .string ∧ token.text = String.ofList moment.write

/-- A literal that has a text in conditions. -/
def IsWritable : Literal → Prop
  | .float x => x.isFinite = true
  | _ => True

theorem spells_literal {literal : Literal} (writable : IsWritable literal) :
    Spells literal.toConditionChars fun tokens =>
      ∃ token, tokens = [token] ∧ Denotes token literal := by
  cases literal with
  | string text =>
      refine (spells_string text.toList).mono ?_
      rintro tokens ⟨token, rfl, kind, value⟩
      exact ⟨token, rfl, kind, by simp [Token.text, value]⟩
  | int n =>
      have spells := spells_number (n.toInt < 0) (Numeral.ofNat n.toInt.natAbs)
      rw [← writeInt_eq] at spells
      refine spells.mono ?_
      rintro tokens ⟨token, rfl, kind, value⟩
      exact ⟨token, rfl, by simpa [Numeral.ofNat] using kind, by simp [Token.text, value]⟩
  | float x =>
      cases x with
      | nan => cases writable
      | infinite negative => cases writable
      | finite negative magnitude =>
          obtain ⟨numeral, written, isFloat, _⟩ :=
            literalFloatStyle.write_finite negative magnitude
          have notInt : ¬(numeral.fraction = none ∧ numeral.power = none) := by
            rintro ⟨noFraction, noPower⟩
            simp [noFraction, noPower] at isFloat
          have spells := spells_number negative numeral
          rw [← written, if_neg notInt] at spells
          refine spells.mono ?_
          rintro tokens ⟨token, rfl, kind, value⟩
          exact ⟨token, rfl, kind, by simp [Token.text, value], writable⟩
  | bool b =>
      refine (spells_bool b).mono ?_
      rintro tokens ⟨token, rfl, kind, value⟩
      exact ⟨token, rfl, kind, by simp [Token.text, value]⟩
  | dateTime moment =>
      refine (spells_string moment.write).mono ?_
      rintro tokens ⟨token, rfl, kind, value⟩
      exact ⟨token, rfl, kind, by simp [Token.text, value]⟩

section Readings

variable {token : Token} {literal : Literal}

theorem trim_wholeNumeral {text : List Char} {n : ℤ} (numeral : IsWholeNumeral text n) :
    trim text = text := by
  apply trim_eq_self_of_forall
  cases numeral with
  | unsigned isDigits =>
      intro c membership
      exact isBlank_of_isDigit (isDigits.digits c membership)
  | negative isDigits =>
      refine List.forall_mem_cons.mpr ⟨by decide, fun c membership => ?_⟩
      exact isBlank_of_isDigit (isDigits.digits c membership)

theorem coerceInt_writeInt (n : Int64) :
    coerceInt (String.ofList (writeInt n.toInt)) = .int n := by
  rw [coerceInt, String.toList_ofList, trim_wholeNumeral (isWholeNumeral_writeInt _),
    readInt64?_writeInt]
  rfl

theorem Denotes.isOperand (denotes : Denotes token literal) : token.kind.IsOperand := by
  left
  cases literal with
  | string => exact .inr (.inr (.inl denotes.1))
  | int => exact .inl denotes.1
  | float => exact .inr (.inl denotes.1)
  | bool => exact .inr (.inr (.inr denotes.1))
  | dateTime => exact .inr (.inr (.inl denotes.1))

theorem Denotes.isFinite (denotes : Denotes token literal) : token.IsFinite := by
  intro isFloat
  cases literal with
  | float x =>
      obtain ⟨_, text, finite⟩ := denotes
      refine ⟨x, ?_, finite⟩
      rw [text, String.toList_ofList, readBinary64?_write _ finite]
  | string => cases isFloat.symm.trans denotes.1
  | int => cases isFloat.symm.trans denotes.1
  | bool => cases isFloat.symm.trans denotes.1
  | dateTime => cases isFloat.symm.trans denotes.1

theorem Denotes.floatLiteral? {x : Binary64} (denotes : Denotes token (.float x)) :
    floatLiteral? token = some (.float x) := by
  obtain ⟨_, text, finite⟩ := denotes
  simp [Condition.floatLiteral?, text, readBinary64?_write _ finite, finite]

theorem Denotes.dateLiteral? {moment : DateTime} (denotes : Denotes token (.dateTime moment)) :
    dateLiteral? token.text = some (.dateTime moment) := by
  simp [Condition.dateLiteral?, denotes.2, readDateTime?_write]

/-- How the operand of a comparison is read. -/
def operandReading : CompareOp → Token → Option Literal
  | .lessThan | .lessThanOrEqual | .greaterThan | .greaterThanOrEqual => orderingLiteral?
  | .equal | .notEqual => equalityLiteral?
  | .contains => containmentLiteral?

theorem Denotes.ordering (denotes : Denotes token literal) :
    orderingLiteral? token = some literal.asOrdered := by
  cases literal with
  | string text => simp [orderingLiteral?, Literal.asOrdered, denotes.1, denotes.2]
  | int n =>
      simp [orderingLiteral?, Literal.asOrdered, denotes.1, denotes.2, coerceInt_writeInt]
  | float x => simp [orderingLiteral?, Literal.asOrdered, denotes.1, denotes.floatLiteral?]
  | bool b =>
      have noNumber : coerceInt (String.ofList (boolText b)) = .int 0 := by
        cases b <;> decide
      simp [orderingLiteral?, Literal.asOrdered, denotes.1, denotes.2, noNumber]
  | dateTime moment =>
      simp [orderingLiteral?, Literal.asOrdered, denotes.1, denotes.dateLiteral?]

theorem Denotes.equality (denotes : Denotes token literal) :
    equalityLiteral? token = some literal.asDate := by
  cases literal with
  | string text => simp [equalityLiteral?, Literal.asDate, denotes.1, denotes.2]
  | int n =>
      simp [equalityLiteral?, bareLiteral?, Literal.asDate, denotes.1, denotes.2,
        coerceInt_writeInt]
  | float x =>
      simp [equalityLiteral?, bareLiteral?, Literal.asDate, denotes.1, denotes.floatLiteral?]
  | bool b =>
      have same : equalsIgnoringCase (boolText b) ['t', 'r', 'u', 'e'] = b := by
        cases b <;> decide
      simp [equalityLiteral?, bareLiteral?, Literal.asDate, denotes.1, denotes.2, same]
  | dateTime moment => simp [equalityLiteral?, Literal.asDate, denotes.1, denotes.dateLiteral?]

theorem Denotes.containment (denotes : Denotes token literal.asText) :
    containmentLiteral? token = some literal.asText := by
  cases literal <;> exact congrArg (fun text => some (Literal.string text)) denotes.2

/-- The literal that is written behind an operator: containment takes a text. -/
def operandOf (op : CompareOp) (literal : Literal) : Literal :=
  if op = .contains then literal.asText else literal

theorem Denotes.operand {op : CompareOp} (denotes : Denotes token (operandOf op literal))
    (notBare : ∀ text, op = .equal → literal ≠ .string text) :
    operandReading op token = some (literal.normalized op) := by
  cases op with
  | equal =>
      have unchanged : literal.asDate = literal := by
        cases literal with
        | string text => exact absurd rfl (notBare text rfl)
        | _ => rfl
      exact denotes.equality.trans (congrArg some unchanged)
  | notEqual => exact denotes.equality
  | contains => exact denotes.containment
  | _ => exact denotes.ordering

end Readings

section Signs

theorem spells_mark (kind : TokenKind) {c : Char} (other : c ≠ '\r') (notSpace : isSpace c = false)
    (notComment : c ≠ '#')
    (reads : ∀ rest, Separated rest → readLexeme c rest = .ok ⟨kind, [c], none⟩) :
    Spells [c] fun tokens => ∃ token, tokens = [token] ∧ token.kind = kind := by
  refine (Spells.single kind none (by simpa using Ne.symm other) fun rest separated => ?_).mono ?_
  · exact ⟨c, [], rfl, notSpace, notComment, reads rest separated⟩
  · rintro tokens ⟨token, tokensEq, kindEq, _⟩
    exact ⟨token, tokensEq, kindEq⟩

theorem readLexeme_equals {rest : List Char} (separated : Separated rest) :
    readLexeme '=' rest = .ok ⟨.equals, ['='], none⟩ := by
  rcases separated with rfl | ⟨tail, rfl⟩ <;> rfl

theorem spells_equals :
    Spells ['='] fun tokens => ∃ token, tokens = [token] ∧ token.kind = .equals :=
  spells_mark .equals (by decide) (by decide) (by decide) fun _ => readLexeme_equals

inductive IsOperator : List Token → CompareOp → Prop where
  | strict {sign : Token} {strict inclusive : CompareOp}
      (isSign : OrderSign sign.kind strict inclusive) : IsOperator [sign] strict
  | inclusive {sign equals : Token} {strict inclusive : CompareOp}
      (isSign : OrderSign sign.kind strict inclusive) (isEquals : equals.kind = .equals) :
      IsOperator [sign, equals] inclusive
  | equality {sign : Token} {op : CompareOp} (isSign : EqualitySign sign.kind op) :
      IsOperator [sign] op
  | containment {dollar name : Token} (isDollar : dollar.kind = .dollar)
      (isName : name.kind = .name) (named : name.value = some "contains") :
      IsOperator [dollar, name] .contains

theorem OrderSign.reading {kind : TokenKind} {strict inclusive : CompareOp}
    (isSign : OrderSign kind strict inclusive) :
    operandReading strict = orderingLiteral? ∧ operandReading inclusive = orderingLiteral? := by
  cases isSign <;> exact ⟨rfl, rfl⟩

theorem EqualitySign.reading {kind : TokenKind} {op : CompareOp} (isSign : EqualitySign kind op) :
    operandReading op = equalityLiteral? := by
  cases isSign <;> rfl

theorem IsOperator.isTerm {front : List Token} {op : CompareOp} {operand : Token}
    {literal : Literal} (isOperator : IsOperator front op) (isOperand : operand.kind.IsOperand)
    (isFinite : operand.IsFinite) (read : operandReading op operand = some literal) :
    IsTerm (front ++ [operand]) op literal := by
  have literalEq : literal = operand.literalBy (operandReading op) := by
    simp [Token.literalBy, read]
  rw [literalEq]
  cases isOperator with
  | strict isSign =>
      rw [isSign.reading.1]
      exact .strict isSign isOperand isFinite
  | inclusive isSign isEquals =>
      rw [isSign.reading.2]
      exact .inclusive isSign isEquals isOperand isFinite
  | equality isSign =>
      rw [isSign.reading]
      exact .equality isSign isOperand isFinite
  | containment isDollar isName named =>
      exact .containment isDollar isName named (by decide) isOperand

theorem spells_contains :
    Spells ['c', 'o', 'n', 't', 'a', 'i', 'n', 's'] fun tokens => ∃ token, tokens = [token] ∧
      token.kind = .name ∧ token.value = some "contains" := by
  let word := ['c', 'o', 'n', 't', 'a', 'i', 'n', 's']
  refine Spells.single .name (some word) (by decide) fun rest separated => ?_
  refine ⟨'c', ['o', 'n', 't', 'a', 'i', 'n', 's'], rfl, by decide, by decide, ?_⟩
  have isName : isTruthValue word = false := by decide
  have read : readWord (word ++ rest) = ⟨.name, word, some word⟩ := by
    have continues : ∀ c ∈ word, continuesName c = true := List.all_eq_true.mp (by decide)
    simp [readWord, takeWhile_continuesName continues separated, isName]
  exact (readLexeme_word (by decide) rfl (by decide)).trans (congrArg Except.ok read)

theorem spells_operator (op : CompareOp) :
    Spells op.conditionSymbol fun tokens => IsOperator tokens op := by
  cases op with
  | lessThan =>
      refine (spells_mark .lessThan (by decide) (by decide) (by decide) fun _ _ => rfl).mono ?_
      rintro tokens ⟨sign, rfl, kind⟩
      have isSign : OrderSign sign.kind .lessThan .lessThanOrEqual := kind ▸ .less
      exact .strict isSign
  | lessThanOrEqual =>
      refine (spells_equals.cons .lessThan (by decide) (by decide) (by decide) fun _ => rfl).mono ?_
      rintro tokens ⟨sign, behind, rfl, kind, equals, rfl, isEquals⟩
      have isSign : OrderSign sign.kind .lessThan .lessThanOrEqual := kind ▸ .less
      exact .inclusive isSign isEquals
  | greaterThan =>
      refine (spells_mark .greaterThan (by decide) (by decide) (by decide) fun _ _ => rfl).mono ?_
      rintro tokens ⟨sign, rfl, kind⟩
      have isSign : OrderSign sign.kind .greaterThan .greaterThanOrEqual := kind ▸ .greater
      exact .strict isSign
  | greaterThanOrEqual =>
      refine (spells_equals.cons .greaterThan (by decide) (by decide) (by decide)
        fun _ => rfl).mono ?_
      rintro tokens ⟨sign, behind, rfl, kind, equals, rfl, isEquals⟩
      have isSign : OrderSign sign.kind .greaterThan .greaterThanOrEqual := kind ▸ .greater
      exact .inclusive isSign isEquals
  | equal =>
      refine spells_equals.mono ?_
      rintro tokens ⟨sign, rfl, kind⟩
      exact .equality (kind ▸ .equal)
  | notEqual =>
      refine (Spells.single .not none (by decide) fun rest separated => ?_).mono ?_
      · exact ⟨'!', ['='], rfl, by decide, by decide, rfl⟩
      · rintro tokens ⟨sign, rfl, kind, _⟩
        exact .equality (kind ▸ .notEqual)
  | contains =>
      refine (spells_contains.cons .dollar (by decide) (by decide) (by decide) fun _ => rfl).mono ?_
      rintro tokens ⟨dollar, behind, rfl, isDollar, name, rfl, isName, named⟩
      exact .containment isDollar isName named

end Signs

theorem IsWritable.asText (literal : Literal) : IsWritable literal.asText := by
  cases literal <;> trivial

theorem IsWritable.operandOf {literal : Literal} (writable : IsWritable literal)
    (op : CompareOp) : IsWritable (operandOf op literal) := by
  unfold Condition.operandOf
  split
  · exact .asText literal
  · exact writable

theorem termChars_eq {op : CompareOp} {literal : Literal}
    (notBare : ¬∃ text, op = .equal ∧ literal = .string text) :
    termChars op literal =
      op.conditionSymbol ++ ' ' :: (operandOf op literal).toConditionChars := by
  by_cases isContains : op = .contains
  · subst isContains
    rw [operandOf, if_pos rfl]
    cases literal <;>
      simp only [termChars, Literal.asText, Literal.toConditionChars, String.toList_ofList]
  · rw [operandOf, if_neg isContains]
    unfold termChars
    split
    next text => exact absurd ⟨text, rfl, rfl⟩ notBare
    next => exact absurd rfl isContains
    next => exact absurd rfl isContains
    next => rfl

/-- The text of a comparison spells a term with the normal form of its literal. -/
theorem spells_term {literal : Literal} (writable : IsWritable literal) (op : CompareOp) :
    Spells (termChars op literal) fun tokens => IsTerm tokens op (literal.normalized op) := by
  have spellsOperand := spells_literal (writable.operandOf op)
  by_cases bare : ∃ text, op = .equal ∧ literal = .string text
  · obtain ⟨text, rfl, rfl⟩ := bare
    refine spellsOperand.mono ?_
    rintro tokens ⟨token, rfl, denotes⟩
    have literalEq : .string text = token.literalBy bareLiteral? := by
      simp [Token.literalBy, bareLiteral?, denotes.1, denotes.2]
    rw [Literal.normalized, literalEq]
    exact .bare (.inr (.inr (.inl denotes.1))) denotes.isFinite
  · rw [termChars_eq bare]
    refine ((spells_operator op).append spellsOperand).mono ?_
    rintro tokens ⟨front, back, rfl, isOperator, operand, rfl, denotes⟩
    refine isOperator.isTerm denotes.isOperand denotes.isFinite (denotes.operand ?_)
    exact fun text isEqual isString => bare ⟨text, isEqual, isString⟩

section Admissible

variable {op : CompareOp} {literal : Literal}

theorem Admissible.isWritable (admissible : Admissible op literal) : IsWritable literal := by
  cases literal with
  | float x =>
      cases op with
      | contains => cases admissible
      | _ => exact admissible
  | _ => trivial

theorem IsOrdered.asOrdered_eq (isOrdered : IsOrdered literal) : literal.asOrdered = literal := by
  cases literal with
  | string => cases isOrdered
  | bool => cases isOrdered
  | _ => rfl

theorem Admissible.normalized_eq (admissible : Admissible op literal) :
    literal.normalized op = literal := by
  cases op with
  | equal => rfl
  | notEqual =>
      cases literal with
      | string text =>
          have noDate : readDateTime? text.toList = none := admissible
          simp [Literal.normalized, Literal.asDate, dateLiteral?, noDate]
      | _ => rfl
  | contains =>
      cases literal with
      | string text => rfl
      | _ => cases admissible
  | _ => exact IsOrdered.asOrdered_eq admissible

end Admissible

end QueryPlanner.Condition
