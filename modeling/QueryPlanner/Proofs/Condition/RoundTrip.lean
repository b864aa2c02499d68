import Mathlib.Tactic.TFAE
import QueryPlanner.Proofs.Condition.Recognition
import QueryPlanner.Proofs.Condition.Terms

/-!
# Conditions and predicates

The predicates that conditions on a field stand for are the admissible comparisons of that field,
joined from left to right.  Each of them is written as a condition that stands for it again.
-/

namespace QueryPlanner.Condition

open QueryPlanner.Date QueryPlanner.Number QueryPlanner.Text

/-- Admissible comparisons of a field, joined by conjunctions and disjunctions from left to
right. -/
inductive IsFold (field : FieldPath) : Predicate → Prop where
  | compare {op : CompareOp} {literal : Literal} (admissible : Admissible op literal) :
      IsFold field (.compare field op literal)
  | and {left : Predicate} {op : CompareOp} {literal : Literal} (fold : IsFold field left)
      (admissible : Admissible op literal) : IsFold field (.and left (.compare field op literal))
  | or {left : Predicate} {op : CompareOp} {literal : Literal} (fold : IsFold field left)
      (admissible : Admissible op literal) : IsFold field (.or left (.compare field op literal))

/-- Comparisons of a field, joined by conjunctions and disjunctions from left to right. -/
inductive IsLeftFold (field : FieldPath) : Predicate → Prop where
  | compare (op : CompareOp) (literal : Literal) : IsLeftFold field (.compare field op literal)
  | and {left : Predicate} (fold : IsLeftFold field left) (op : CompareOp) (literal : Literal) :
      IsLeftFold field (.and left (.compare field op literal))
  | or {left : Predicate} (fold : IsLeftFold field left) (op : CompareOp) (literal : Literal) :
      IsLeftFold field (.or left (.compare field op literal))

/-- A predicate whose comparisons have a text in conditions. -/
def AreWritable (predicate : Predicate) : Prop :=
  ∀ comparison ∈ predicate.comparisons, IsWritable comparison.value

variable {field : FieldPath} {predicate left : Predicate}

section Folds

variable {right : Predicate}

theorem areWritable_compare {op : CompareOp} {literal : Literal} :
    AreWritable (.compare field op literal) ↔ IsWritable literal := by
  simp [AreWritable, Predicate.comparisons]

theorem areWritable_and : AreWritable (.and left right) ↔ AreWritable left ∧ AreWritable right :=
  List.forall_mem_append

theorem areWritable_or : AreWritable (.or left right) ↔ AreWritable left ∧ AreWritable right :=
  List.forall_mem_append

theorem IsFold.isLeftFold (fold : IsFold field predicate) : IsLeftFold field predicate := by
  induction fold with
  | compare admissible => exact .compare _ _
  | and _ admissible inductionHypothesis => exact .and inductionHypothesis _ _
  | or _ admissible inductionHypothesis => exact .or inductionHypothesis _ _

theorem IsFold.areWritable (fold : IsFold field predicate) : AreWritable predicate := by
  induction fold with
  | compare admissible => exact areWritable_compare.mpr admissible.isWritable
  | and _ admissible inductionHypothesis =>
      exact areWritable_and.mpr ⟨inductionHypothesis, areWritable_compare.mpr admissible.isWritable⟩
  | or _ admissible inductionHypothesis =>
      exact areWritable_or.mpr ⟨inductionHypothesis, areWritable_compare.mpr admissible.isWritable⟩

theorem IsFold.normalized_eq (fold : IsFold field predicate) :
    predicate.normalized = predicate := by
  induction fold with
  | compare admissible => rw [Predicate.normalized, admissible.normalized_eq]
  | and _ admissible inductionHypothesis | or _ admissible inductionHypothesis =>
      rw [Predicate.normalized, Predicate.normalized, inductionHypothesis,
        admissible.normalized_eq]

end Folds

section Compiled

variable {source : Source} {token : Token} {tokens : List Token} {op : CompareOp}
  {literal : Literal}

theorem readDateTime?_name (isName : token.kind = .name) {place : Nat}
    (read : source.tokenAt place = .ok token) : readDateTime? token.text.toList = none := by
  obtain ⟨first, word, textEq, begins⟩ := Source.tokenAt_name read isName
  rw [textEq]
  have notSign : first ≠ '-' ∧ first ≠ '+' := by
    constructor <;> rintro rfl <;> revert begins <;> decide
  have notDigit : first.isDigit = false := by
    cases isDigit : first.isDigit with
    | false => rfl
    | true =>
        rw [beginsName_number (.inl isDigit)] at begins
        cases begins
  have notBlank : isBlank first = false := by
    rcases Bool.or_eq_true_iff.mp begins with underscore | alphabetic
    · rw [of_decide_eq_true underscore]
      decide
    · exact isBlank_of_isAlphabetic alphabetic
  exact readDateTime?_cons notBlank notDigit notSign word

theorem IsOrdered.admissible (isOrdered : IsOrdered literal) (notContains : op ≠ .contains) :
    Admissible op literal := by
  cases literal with
  | string => cases isOrdered
  | bool => cases isOrdered
  | _ =>
      cases op with
      | contains => exact absurd rfl notContains
      | _ => exact isOrdered

theorem floatLiteral?_isOrdered (found : floatLiteral? token = some literal) :
    IsOrdered literal := by
  obtain ⟨x, _, finite⟩ := Option.bind_eq_some_iff.mp found
  split at finite
  next isFinite =>
    cases finite
    exact isFinite
  next => cases finite

theorem orderingLiteral?_isOrdered (found : orderingLiteral? token = some literal) :
    IsOrdered literal := by
  unfold orderingLiteral? at found
  split at found
  next =>
    cases found
    cases date : readDateTime? token.text.toList with
    | none => simp [dateLiteral?, date, coerceInt, IsOrdered]
    | some moment => simp [dateLiteral?, date, IsOrdered]
  next => exact floatLiteral?_isOrdered found
  next =>
    cases found
    trivial

theorem equalityLiteral?_admissible (found : equalityLiteral? token = some literal)
    (noDate : token.kind = .name → readDateTime? token.text.toList = none)
    (isOperand : token.kind.IsOperand) :
    Admissible .equal literal ∧ Admissible .notEqual literal := by
  unfold equalityLiteral? at found
  split at found
  next =>
    cases found
    cases date : readDateTime? token.text.toList with
    | none => simp [dateLiteral?, date, Admissible]
    | some moment => simp [dateLiteral?, date, Admissible, IsOrdered]
  next notString =>
    unfold bareLiteral? at found
    split at found
    next =>
      cases found
      exact ⟨trivial, trivial⟩
    next =>
      have isOrdered := floatLiteral?_isOrdered found
      exact ⟨isOrdered.admissible (by decide), isOrdered.admissible (by decide)⟩
    next =>
      cases found
      exact ⟨trivial, trivial⟩
    next notInt notFloat notBool =>
      cases found
      have isName : token.kind = .name := by
        rcases isOperand with (int | float | string | bool) | name
        · exact absurd int notInt
        · exact absurd float notFloat
        · exact absurd string notString
        · exact absurd bool notBool
        · exact name
      exact ⟨trivial, noDate isName⟩

theorem bareLiteral?_admissible (found : bareLiteral? token = some literal) :
    Admissible .equal literal := by
  unfold bareLiteral? at found
  split at found
  next =>
    cases found
    trivial
  next =>
    exact (floatLiteral?_isOrdered found).admissible (by decide)
  next =>
    cases found
    trivial
  next =>
    cases found
    trivial

theorem OrderSign.ne_contains {kind : TokenKind} {strict inclusive : CompareOp}
    (isSign : OrderSign kind strict inclusive) : strict ≠ .contains ∧ inclusive ≠ .contains := by
  cases isSign <;> decide

theorem EqualitySign.isEquality {kind : TokenKind} (isSign : EqualitySign kind op) :
    op = .equal ∨ op = .notEqual := by
  cases isSign
  · exact .inl rfl
  · exact .inr rfl

theorem IsTerm.admissible (isTerm : IsTerm tokens op literal)
    (read : ∀ token ∈ tokens, ∃ place, source.tokenAt place = .ok token) :
    Admissible op literal := by
  cases isTerm with
  | strict isSign isOperand isFinite =>
      have isOrdered := orderingLiteral?_isOrdered (orderingLiteral?_covers.literal_eq isFinite)
      exact isOrdered.admissible isSign.ne_contains.1
  | inclusive isSign isEquals isOperand isFinite =>
      have isOrdered := orderingLiteral?_isOrdered (orderingLiteral?_covers.literal_eq isFinite)
      exact isOrdered.admissible isSign.ne_contains.2
  | @equality sign operand op isSign isOperand isFinite =>
      obtain ⟨place, operandRead⟩ := read operand (by simp)
      have admissible := equalityLiteral?_admissible
        (equalityLiteral?_covers.literal_eq isFinite)
        (fun isName => readDateTime?_name isName operandRead) isOperand
      rcases isSign.isEquality with isEqual | isNotEqual
      · exact isEqual ▸ admissible.1
      · exact isNotEqual ▸ admissible.2
  | bare isLiteral isFinite =>
      exact bareLiteral?_admissible (bareLiteral?_covers.literal_eq isFinite)
  | containment => trivial

theorem IsFold.join (fold : IsFold field left) (joiner : Joiner)
    (admissible : Admissible op literal) :
    IsFold field (joiner.join left (.compare field op literal)) := by
  unfold Joiner.join
  split
  next => exact .and fold admissible
  next => exact .or fold admissible

theorem Continuation.isFold (continuation : Continuation) (fold : IsFold field left)
    (read : ∀ token ∈ continuation.tokens, ∃ place, source.tokenAt place = .ok token) :
    IsFold field (continuation.predicate field left) := by
  induction continuation generalizing left with
  | nil => exact fold
  | cons joined continuation inductionHypothesis =>
      obtain ⟨joiner, term⟩ := joined
      have admissible : Admissible term.op term.literal :=
        term.isTerm.admissible fun token membership => read token (by simp [membership])
      exact inductionHypothesis (fold.join joiner admissible) fun token membership =>
        read token (by simp [membership])

/-- A text that compiles begins with the sentence that it stands for. -/
theorem exists_sentence_of_compileCondition {text : String} {result : Option Predicate}
    (compiled : compileCondition field text = .ok result) :
    ∃ sentence terminator rest,
      BeginsWith (Source.ofString text).scan.1 sentence terminator rest ∧
        sentence.predicate field = result := by
  obtain ⟨sentence, terminator, rest, begins, resultEq, _⟩ :=
    (compile_ok_iff field (.start (.ofString text)) result).mp compiled
  rw [Session.ahead_start] at begins
  exact ⟨sentence, terminator, rest, begins, resultEq.symm⟩

theorem BeginsWith.exists_tokenAt {sentence : Sentence} {terminator : Token} {rest : List Token}
    (begins : BeginsWith source.scan.1 sentence terminator rest) :
    ∀ token ∈ sentence.tokens, ∃ place, source.tokenAt place = .ok token := by
  intro token membership
  refine source.chain_scan.exists_tokenAt token ?_
  rw [begins.tokens]
  exact List.mem_append_left _ membership

/-- What a condition stands for is a fold. -/
theorem isFold_of_compileCondition {text : String}
    (compiled : compileCondition field text = .ok (some predicate)) : IsFold field predicate := by
  obtain ⟨sentence, terminator, rest, begins, predicateEq⟩ :=
    exists_sentence_of_compileCondition compiled
  have read := begins.exists_tokenAt
  cases sentence with
  | empty => cases predicateEq
  | terms first continuation =>
      cases predicateEq
      have admissible : Admissible first.op first.literal :=
        first.isTerm.admissible fun token membership =>
          read token (List.mem_append_left _ membership)
      exact continuation.isFold (.compare admissible) fun token membership =>
        read token (List.mem_append_right _ membership)

end Compiled

section Rendered

/-- The tokens of a condition that is not empty, and what it stands for. -/
def IsSentenceOf (field : FieldPath) (predicate : Predicate) (tokens : List Token) : Prop :=
  ∃ first continuation, tokens = Sentence.tokens (.terms first continuation) ∧
    Sentence.predicate field (.terms first continuation) = some predicate

theorem spells_joiner (text : List Char) (kind : TokenKind)
    (isJoiner : text = ['&', '&'] ∧ kind = .and ∨ text = ['|', '|'] ∧ kind = .or) :
    Spells text fun tokens => ∃ token, tokens = [token] ∧ token.kind = kind := by
  have spells : Spells text fun tokens => ∃ token, tokens = [token] ∧ token.kind = kind ∧
      token.value = none := by
    rcases isJoiner with ⟨rfl, rfl⟩ | ⟨rfl, rfl⟩
    · exact Spells.single .and none (by decide) fun rest separated =>
        ⟨'&', ['&'], rfl, by decide, by decide, rfl⟩
    · exact Spells.single .or none (by decide) fun rest separated =>
        ⟨'|', ['|'], rfl, by decide, by decide, rfl⟩
  refine spells.mono ?_
  rintro tokens ⟨token, tokensEq, kindEq, _⟩
  exact ⟨token, tokensEq, kindEq⟩

theorem IsSentenceOf.snoc {front : List Token} (sentence : IsSentenceOf field left front)
    (joiner : Joiner) (term : Term) :
    IsSentenceOf field (joiner.join left (term.predicate field))
      (front ++ joiner.token :: term.tokens) := by
  obtain ⟨first, continuation, rfl, predicateEq⟩ := sentence
  cases predicateEq
  refine ⟨first, continuation ++ [(joiner, term)], ?_, ?_⟩
  · simp [Sentence.tokens, Continuation.tokens]
  · simp [Sentence.predicate, Continuation.predicate]

theorem spells_joined {before joining : List Char} {kind : TokenKind} {literal : Literal}
    (spells : Spells before (IsSentenceOf field left))
    (isJoiner : joining = ['&', '&'] ∧ kind = .and ∨ joining = ['|', '|'] ∧ kind = .or)
    (writable : IsWritable literal) (op : CompareOp) :
    Spells ((before ++ ' ' :: joining) ++ ' ' :: termChars op literal) fun tokens =>
      ∃ joiner : Joiner, joiner.token.kind = kind ∧
        IsSentenceOf field (joiner.join left (.compare field op (literal.normalized op)))
          tokens := by
  refine ((spells.append (spells_joiner joining kind isJoiner)).append
    (spells_term writable op)).mono ?_
  rintro tokens ⟨front, back, rfl, ⟨sentence, joinerTokens, rfl, isSentence, token, rfl, kindEq⟩,
    isTerm⟩
  have joins : token.kind = .and ∨ token.kind = .or := by
    rw [kindEq]
    rcases isJoiner with ⟨_, rfl⟩ | ⟨_, rfl⟩
    · exact .inl rfl
    · exact .inr rfl
  have longer := isSentence.snoc ⟨token, joins⟩ ⟨back, op, _, isTerm⟩
  refine ⟨⟨token, joins⟩, kindEq, ?_⟩
  rw [List.append_assoc]
  exact longer

theorem IsLeftFold.spells (fold : IsLeftFold field predicate) (writable : AreWritable predicate) :
    ∃ text, predicate.conditionOn? field = some text ∧
      Spells text (IsSentenceOf field predicate.normalized) := by
  -- The last term of the sentence is outermost.
  induction fold with
  | compare op literal =>
      refine ⟨termChars op literal, by simp [Predicate.conditionOn?], ?_⟩
      refine (spells_term (areWritable_compare.mp writable) op).mono fun tokens isTerm => ?_
      exact ⟨⟨tokens, op, _, isTerm⟩, [], by simp [Sentence.tokens], rfl⟩
  | and _ op literal inductionHypothesis =>
      obtain ⟨leftWritable, rightWritable⟩ := areWritable_and.mp writable
      obtain ⟨before, written, spells⟩ := inductionHypothesis leftWritable
      refine ⟨(before ++ ' ' :: ['&', '&']) ++ ' ' :: termChars op literal, ?_, ?_⟩
      · simp [Predicate.conditionOn?, written]
      · have rightWritable := areWritable_compare.mp rightWritable
        refine (spells_joined spells (.inl ⟨rfl, rfl⟩) rightWritable op).mono ?_
        rintro tokens ⟨joiner, isAnd, isSentence⟩
        rwa [Joiner.join, if_pos isAnd] at isSentence
  | or _ op literal inductionHypothesis =>
      obtain ⟨leftWritable, rightWritable⟩ := areWritable_or.mp writable
      obtain ⟨before, written, spells⟩ := inductionHypothesis leftWritable
      refine ⟨(before ++ ' ' :: ['|', '|']) ++ ' ' :: termChars op literal, ?_, ?_⟩
      · simp [Predicate.conditionOn?, written]
      · have rightWritable := areWritable_compare.mp rightWritable
        refine (spells_joined spells (.inr ⟨rfl, rfl⟩) rightWritable op).mono ?_
        rintro tokens ⟨joiner, isOr, isSentence⟩
        rwa [Joiner.join, if_neg (by simp [isOr])] at isSentence

theorem IsLeftFold.head_comparisons (fold : IsLeftFold field predicate) :
    ∃ op literal, predicate.comparisons.head? = some ⟨field, op, literal⟩ := by
  induction fold with
  | compare => exact ⟨_, _, rfl⟩
  | and _ _ _ inductionHypothesis | or _ _ _ inductionHypothesis =>
      obtain ⟨op, literal, head⟩ := inductionHypothesis
      exact ⟨op, literal, by simp [Predicate.comparisons, head]⟩

theorem IsLeftFold.toCondition?_eq (fold : IsLeftFold field predicate) :
    predicate.toCondition? = (predicate.conditionOn? field).map String.ofList := by
  obtain ⟨op, literal, head⟩ := fold.head_comparisons
  simp [Predicate.toCondition?, Predicate.toConditionChars?, head]

theorem compileCondition_of_spells {text : List Char}
    (spells : Spells text (IsSentenceOf field predicate)) :
    compileCondition field (String.ofList text) = .ok (some predicate) := by
  have bodyEq : (Source.ofString (String.ofList text)).body = text := by
    rw [Source.ofString, String.toList_ofList, normalizeLineEnds_of_oneLine spells.oneLine]
  obtain ⟨lexemes, _, lexes, carried⟩ := spells.lexes [] (.inl rfl)
  rw [List.append_nil, ← bodyEq] at lexes
  obtain ⟨tokens, position, carries, scanEq⟩ := lexes.scan rfl
  obtain ⟨first, continuation, rfl, predicateEq⟩ := carried tokens carries
  have begins : BeginsWith (Session.start (.ofString (String.ofList text))).ahead
      (.terms first continuation) (.eof position) [] :=
    ⟨by rw [Session.ahead_start, scanEq], rfl⟩
  refine (compile_ok_iff field (.start _) (some predicate)).mpr
    ⟨_, _, _, begins, predicateEq.symm, ?_⟩
  simp

/-- The normal form of a left fold is read from the condition that the fold is written as. -/
theorem IsLeftFold.compileCondition_toCondition? (fold : IsLeftFold field predicate)
    (writable : AreWritable predicate) :
    ∃ text, predicate.toCondition? = some text ∧
      compileCondition field text = .ok (some predicate.normalized) := by
  obtain ⟨text, written, spells⟩ := fold.spells writable
  refine ⟨String.ofList text, ?_, compileCondition_of_spells spells⟩
  rw [fold.toCondition?_eq, written, Option.map_some]

/-- A fold is read back from the condition that it is written as. -/
theorem IsFold.roundTrip (fold : IsFold field predicate) :
    ∃ text, predicate.toCondition? = some text ∧
      compileCondition field text = .ok (some predicate) := by
  have compiled := fold.isLeftFold.compileCondition_toCondition? fold.areWritable
  rwa [fold.normalized_eq] at compiled

end Rendered

/-- The predicates that conditions on a field stand for are the folds of admissible comparisons of
that field, and these are the predicates that are read back from the conditions that they are
written as. -/
theorem compileCondition_image (name : String) (predicate : Predicate) :
    List.TFAE [
      ∃ text, compileCondition (.ofName name) text = .ok (some predicate),
      IsFold (.ofName name) predicate,
      ∃ text, predicate.toCondition? = some text ∧
        compileCondition (.ofName name) text = .ok (some predicate)] := by
  tfae_have 1 → 2 := fun ⟨_, compiled⟩ => isFold_of_compileCondition compiled
  tfae_have 2 → 3 := IsFold.roundTrip
  tfae_have 3 → 1 := fun ⟨text, _, compiled⟩ => ⟨text, compiled⟩
  tfae_finish

end QueryPlanner.Condition
