import QueryPlanner.Proofs.Condition.RoundTrip

/-!
# Whole numbers in conditions

A whole number in a condition stands for itself if it fits 64 bits.  All others stand for zero.
-/

namespace QueryPlanner.Condition

open QueryPlanner.Number QueryPlanner.Text

/-- What whole numbers stand for: themselves from `-2 ^ 63` up to `2 ^ 63`, and zero elsewhere. -/
def StandsForInt (literal : Literal) (n : ℤ) : Prop :=
  ∃ m : Int64, literal = .int m ∧ m.toInt = if -2 ^ 63 ≤ n ∧ n < 2 ^ 63 then n else 0

/-- The terms of a condition in their order. -/
def Sentence.parts : Sentence → List Term
  | empty => []
  | terms first continuation => first :: continuation.map Prod.snd

def Term.comparison (term : Term) (field : FieldPath) : Predicate.Comparison :=
  ⟨field, term.op, term.literal⟩

variable {field : FieldPath} {predicate left : Predicate} {token : Token} {tokens : List Token}
  {op : CompareOp} {literal : Literal} {text : String} {n : ℤ}

section Literals

theorem toInt_toInt64? (n : ℤ) :
    ((toInt64? n).getD 0).toInt = if -2 ^ 63 ≤ n ∧ n < 2 ^ 63 then n else 0 := by
  unfold toInt64?
  by_cases fits : -2 ^ 63 ≤ n ∧ n < 2 ^ 63
  · have exact : -(Nat.pow 2 63 : ℤ) ≤ n ∧ n < (Nat.pow 2 63 : ℤ) := by simpa using fits
    rw [if_pos exact, if_pos fits, Option.getD_some]
    exact Int64.toInt_ofInt_of_le fits.1 fits.2
  · have exact : ¬(-(Nat.pow 2 63 : ℤ) ≤ n ∧ n < (Nat.pow 2 63 : ℤ)) := by simpa using fits
    rw [if_neg exact, if_neg fits]
    rfl

theorem standsForInt_coerceInt (numeral : IsWholeNumeral text.toList n) :
    StandsForInt (coerceInt text) n := by
  refine ⟨_, rfl, ?_⟩
  rw [trim_wholeNumeral numeral, readInt64?, numeral.readInt?_eq]
  exact toInt_toInt64? n

/-- However a whole number is compared, it is read in one way, unless its text is asked for. -/
theorem IsTerm.literal_of_int (isTerm : IsTerm tokens op literal) (membership : token ∈ tokens)
    (isInt : token.kind = .int) (notContains : op ≠ .contains) :
    literal = coerceInt token.text := by
  -- No sign is a whole number, so the token is the operand of the term.
  have notOrder {sign : Token} {strict inclusive : CompareOp}
      (isSign : OrderSign sign.kind strict inclusive) : token ≠ sign := by
    rintro rfl
    rw [isInt] at isSign
    cases isSign
  cases isTerm with
  | strict isSign isOperand isFinite =>
      obtain rfl : token = _ := by simpa [notOrder isSign] using membership
      simp [Token.literalBy, orderingLiteral?, isInt]
  | @inclusive sign equals operand _ _ isSign isEquals isOperand isFinite =>
      have notEquals : token ≠ equals := by
        rintro rfl
        cases isInt.symm.trans isEquals
      obtain rfl : token = operand := by simpa [notOrder isSign, notEquals] using membership
      simp [Token.literalBy, orderingLiteral?, isInt]
  | @equality sign operand _ isSign isOperand isFinite =>
      have notSign : token ≠ sign := by
        rintro rfl
        rw [isInt] at isSign
        cases isSign
      obtain rfl : token = operand := by simpa [notSign] using membership
      simp [Token.literalBy, equalityLiteral?, bareLiteral?, isInt]
  | bare isLiteral isFinite =>
      obtain rfl := List.mem_singleton.mp membership
      simp [Token.literalBy, bareLiteral?, isInt]
  | containment => exact absurd rfl notContains

end Literals

section Conditions

theorem Continuation.comparisons_predicate (continuation : Continuation) (left : Predicate) :
    (continuation.predicate field left).comparisons =
      left.comparisons ++ continuation.map fun entry => entry.2.comparison field := by
  induction continuation generalizing left with
  | nil => simp [Continuation.predicate]
  | cons entry continuation inductionHypothesis =>
      obtain ⟨joiner, term⟩ := entry
      have joined : (joiner.join left (term.predicate field)).comparisons =
          left.comparisons ++ [term.comparison field] := by
        unfold Joiner.join
        split <;> rfl
      rw [List.map_cons, List.append_cons, ← joined]
      exact inductionHypothesis _

theorem Sentence.comparisons_eq {sentence : Sentence}
    (predicateEq : sentence.predicate field = some predicate) :
    predicate.comparisons = sentence.parts.map (Term.comparison · field) := by
  cases sentence with
  | empty => cases predicateEq
  | terms first continuation =>
      cases predicateEq
      rw [continuation.comparisons_predicate, parts, List.map_cons, List.map_map]
      rfl

theorem Sentence.tokens_subset {sentence : Sentence} {term : Term}
    (isPart : term ∈ sentence.parts) : term.tokens ⊆ sentence.tokens := by
  cases sentence with
  | empty => cases isPart
  | terms first continuation =>
      intro token membership
      rcases List.mem_cons.mp isPart with rfl | further
      · exact List.mem_append_left _ membership
      · obtain ⟨⟨joiner, term⟩, isEntry, rfl⟩ := List.mem_map.mp further
        refine List.mem_append_right _ (List.mem_flatMap.mpr ⟨_, isEntry, ?_⟩)
        exact List.mem_cons_of_mem _ membership

/-- In a condition that compiles, every whole number that is compared is a numeral of some number,
and what it is compared as stands for this number. -/
theorem exists_wholeNumbers_of_compileCondition
    (compiled : compileCondition field text = .ok (some predicate)) :
    ∃ sentence terminator rest,
      BeginsWith (Source.ofString text).scan.1 sentence terminator rest ∧
        predicate.comparisons = sentence.parts.map (Term.comparison · field) ∧
        ∀ term ∈ sentence.parts, term.op ≠ .contains → ∀ token ∈ term.tokens,
          token.kind = .int →
            ∃ n, IsWholeNumeral token.text.toList n ∧ StandsForInt term.literal n := by
  obtain ⟨sentence, terminator, rest, begins, predicateEq⟩ :=
    exists_sentence_of_compileCondition compiled
  refine ⟨sentence, terminator, rest, begins, Sentence.comparisons_eq predicateEq, ?_⟩
  intro term isPart notContains token membership isInt
  obtain ⟨place, read⟩ :=
    begins.exists_tokenAt token (Sentence.tokens_subset isPart membership)
  obtain ⟨n, numeral⟩ := Source.tokenAt_int read isInt
  refine ⟨n, numeral, ?_⟩
  rw [term.isTerm.literal_of_int membership isInt notContains]
  exact standsForInt_coerceInt numeral

/-- The numeral of a whole number is a condition of its own. -/
theorem compileCondition_writeInt (field : FieldPath) (n : ℤ) :
    ∃ literal, compileCondition field (String.ofList (writeInt n)) =
      .ok (some (.compare field .equal literal)) ∧ StandsForInt literal n := by
  have numeral : IsWholeNumeral (String.ofList (writeInt n)).toList n := by
    rw [String.toList_ofList]
    exact isWholeNumeral_writeInt n
  refine ⟨_, compileCondition_of_spells ?_, standsForInt_coerceInt numeral⟩
  have spells := spells_number (n < 0) (Numeral.ofNat n.natAbs)
  rw [← writeInt_eq] at spells
  refine spells.mono ?_
  rintro tokens ⟨token, rfl, kind, value⟩
  have isInt : token.kind = .int := by simpa [Numeral.ofNat] using kind
  have textEq : token.text = String.ofList (writeInt n) := by simp [Token.text, value]
  have isTerm := IsTerm.bare (.inl isInt) (fun isFloat => by cases isInt.symm.trans isFloat)
  refine ⟨⟨[token], .equal, _, isTerm⟩, [], rfl, ?_⟩
  rw [← textEq]
  simp [Sentence.predicate, Continuation.predicate, Term.predicate, Token.literalBy, bareLiteral?,
    isInt]

end Conditions

end QueryPlanner.Condition
