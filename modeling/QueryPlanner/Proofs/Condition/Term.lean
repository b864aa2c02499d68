import QueryPlanner.Proofs.Condition.Steps

/-!
# Recognition of terms

From its first token on, a term is read as the comparison that it makes.  Tokens that are the
beginning of a term leave the reader stuck at the fault behind them, and all others are refused.
-/

namespace QueryPlanner.Condition

variable {session : Session} {first : Token} {more rest : List Token} {op : CompareOp}
  {literal : Literal} {field : FieldPath}

section Kinds

variable {strict inclusive : CompareOp}

theorem readTerm_order (isSign : OrderSign first.kind strict inclusive) :
    readTerm field first = (do
      let op ← orEqual strict inclusive
      return .compare field op (← nextLiteral first orderingLiteral?)) := by
  unfold readTerm
  generalize first.kind = kind at isSign
  cases isSign <;> rfl

theorem readTerm_equality (isSign : EqualitySign first.kind op) :
    readTerm field first = (do
      return .compare field op (← nextLiteral first equalityLiteral?)) := by
  unfold readTerm
  generalize first.kind = kind at isSign
  cases isSign <;> rfl

theorem readTerm_bare (isLiteral : first.kind.IsLiteral) :
    readTerm field first =
      match bareLiteral? first with
      | some literal => return .compare field .equal literal
      | none => refuse (.floatOutOfRange first) := by
  cases first
  rcases isLiteral with kind | kind | kind | kind
  all_goals
    cases kind
    rfl

theorem readTerm_containment (isDollar : first.kind = .dollar) :
    readTerm field first = (do
      let name ← nextToken
      match name.kind, name.value with
      | .name, some operation =>
          if equalsIgnoringCase operation.toList ['c', 'o', 'n', 't', 'a', 'i', 'n', 's'] then
            return .compare field .contains (← nextLiteral name containmentLiteral?)
          else refuse (.unknownOperation operation)
      | _, _ => refuse (.operationMissing name)) := by
  cases first
  cases isDollar
  rfl

/-- What a token may begin. -/
theorem termStart_cases (field : FieldPath) (first : Token) :
    (∃ strict inclusive, OrderSign first.kind strict inclusive) ∨
      (∃ op, EqualitySign first.kind op) ∨ first.kind.IsLiteral ∨ first.kind = .dollar ∨
      readTerm field first = refuse (.unexpected first) := by
  unfold readTerm TokenKind.IsLiteral
  cases first.kind
  case lessThan => exact .inl ⟨_, _, .less⟩
  case greaterThan => exact .inl ⟨_, _, .greater⟩
  case equals => exact .inr (.inl ⟨_, .equal⟩)
  case not => exact .inr (.inl ⟨_, .notEqual⟩)
  all_goals simp

theorem OrderSign.ne_eof {kind : TokenKind} (isSign : OrderSign kind strict inclusive) :
    kind ≠ .eof := by
  cases isSign <;> simp

theorem TokenKind.IsOperand.ne_equals {kind : TokenKind} (isOperand : kind.IsOperand) :
    kind ≠ .equals := by
  rintro rfl
  simp [IsOperand, IsLiteral] at isOperand

end Kinds

theorem IsTerm.exists_first {tokens : List Token} (isTerm : IsTerm tokens op literal) :
    ∃ first more, tokens = first :: more ∧ first.kind.endsCondition = false ∧
      joiner? first = none := by
  have order {kind : TokenKind} {strict inclusive : CompareOp}
      (isSign : OrderSign kind strict inclusive) :
      kind.endsCondition = false ∧ kind ≠ .and ∧ kind ≠ .or := by
    cases isSign <;> simp [TokenKind.endsCondition]
  have equality {kind : TokenKind} {op : CompareOp} (isSign : EqualitySign kind op) :
      kind.endsCondition = false ∧ kind ≠ .and ∧ kind ≠ .or := by
    cases isSign <;> simp [TokenKind.endsCondition]
  have bare {kind : TokenKind} (isLiteral : kind.IsLiteral) :
      kind.endsCondition = false ∧ kind ≠ .and ∧ kind ≠ .or := by
    rcases isLiteral with rfl | rfl | rfl | rfl <;> simp [TokenKind.endsCondition]
  have noJoiner {token : Token} (facts : token.kind.endsCondition = false ∧ token.kind ≠ .and ∧
      token.kind ≠ .or) : token.kind.endsCondition = false ∧ joiner? token = none := by
    refine ⟨facts.1, ?_⟩
    unfold joiner?
    split
    next isAnd => exact absurd isAnd facts.2.1
    next isOr => exact absurd isOr facts.2.2
    next => rfl
  cases isTerm with
  | strict isSign => exact ⟨_, _, rfl, noJoiner (order isSign)⟩
  | inclusive isSign => exact ⟨_, _, rfl, noJoiner (order isSign)⟩
  | equality isSign => exact ⟨_, _, rfl, noJoiner (equality isSign)⟩
  | bare isLiteral => exact ⟨_, _, rfl, noJoiner (bare isLiteral)⟩
  | containment isDollar =>
      exact ⟨_, _, rfl, noJoiner (by simp [isDollar, TokenKind.endsCondition])⟩

/-- A term is read as the comparison that it makes. -/
theorem readTerm_gives (field : FieldPath) (sound : session.Sound) (current : session.current = some first)
    (isTerm : IsTerm (first :: more) op literal) (ahead : session.ahead = more ++ rest) :
    Gives (readTerm field first) session (.compare field op literal) (Session.Faces rest) := by
  cases isTerm with
  | strict isSign isOperand isFinite =>
      rw [readTerm_order isSign]
      refine (orEqual_strict sound current isSign.ne_eof ahead isOperand.ne_equals).bind
        fun after follows faces => ?_
      exact (nextLiteral_gives follows.sound orderingLiteral?_covers faces isOperand
        isFinite).bind fun after follows faces => .pure follows.sound faces
  | inclusive isSign isEquals isOperand isFinite =>
      rw [readTerm_order isSign]
      refine (orEqual_inclusive sound ahead isEquals).bind fun after follows faces => ?_
      exact (nextLiteral_gives follows.sound orderingLiteral?_covers faces isOperand
        isFinite).bind fun after follows faces => .pure follows.sound faces
  | equality isSign isOperand isFinite =>
      rw [readTerm_equality isSign]
      exact (nextLiteral_gives sound equalityLiteral?_covers ahead isOperand isFinite).bind
        fun after follows faces => .pure follows.sound faces
  | bare isLiteral isFinite =>
      rw [readTerm_bare isLiteral, bareLiteral?_covers.literal_eq isFinite]
      exact .pure sound ahead
  | containment isDollar isName named isContains isOperand =>
      rw [readTerm_containment isDollar]
      refine (nextToken_gives sound ahead).bind fun after follows stands => ?_
      simp only [isName, named, isContains, if_true]
      exact (nextLiteral_gives follows.sound containmentLiteral?_covers
        (stands.faces (by simp [isName])) isOperand trivial).bind
        fun after follows faces => .pure follows.sound faces

theorem eq_nil_of_cutOff {token : Token} {left missing : List Token}
    (cutOff : [token] = left ++ missing) (nonempty : missing ≠ []) : left = [] := by
  rcases List.cons_eq_append_iff.mp cutOff with ⟨empty, _⟩ | ⟨behind, _, none⟩
  · exact empty
  · exact absurd (List.append_eq_nil_iff.mp none.symm).2 nonempty

/-- A term that the fault of the text cuts off is not read. -/
theorem readTerm_stuck (field : FieldPath) {missing : List Token} (sound : session.Sound)
    (isTerm : IsTerm (first :: more) op literal) (cutOff : more = session.ahead ++ missing)
    (nonempty : missing ≠ []) : Stuck (readTerm field first) session := by
  cases isTerm with
  | strict isSign =>
      rw [readTerm_order isSign]
      exact (orEqual_stuck sound (eq_nil_of_cutOff cutOff nonempty)).bind
  | inclusive isSign isEquals =>
      rw [readTerm_order isSign]
      rcases List.cons_eq_append_iff.mp cutOff with ⟨ahead, _⟩ | ⟨behind, ahead, cutOff⟩
      · exact (orEqual_stuck sound ahead).bind
      · obtain rfl := eq_nil_of_cutOff cutOff nonempty
        refine (orEqual_inclusive sound ahead isEquals).bind_stuck fun after follows faces => ?_
        exact (nextLiteral_stuck follows.sound faces).bind
  | equality isSign =>
      rw [readTerm_equality isSign]
      exact (nextLiteral_stuck sound (eq_nil_of_cutOff cutOff nonempty)).bind
  | bare => exact absurd (List.append_eq_nil_iff.mp cutOff.symm).2 nonempty
  | containment isDollar isName named isContains =>
      rw [readTerm_containment isDollar]
      rcases List.cons_eq_append_iff.mp cutOff with ⟨ahead, _⟩ | ⟨behind, ahead, cutOff⟩
      · exact (nextToken_stuck sound ahead).bind
      · obtain rfl := eq_nil_of_cutOff cutOff nonempty
        refine (nextToken_gives sound ahead).bind_stuck fun after follows stands => ?_
        simp only [isName, named, isContains, if_true]
        exact (nextLiteral_stuck follows.sound (stands.faces (by simp [isName]))).bind

def Token.zero : Token :=
  ⟨.int, some "0", 0, 0⟩

theorem Token.zero_isOperand : Token.zero.kind.IsOperand :=
  .inl (.inl rfl)

theorem Token.zero_isFinite : Token.zero.IsFinite := by
  intro isFloat
  cases isFloat

def Token.containment : Token :=
  ⟨.name, some "contains", 0, 0⟩

/-- What the tokens ahead are to a term that begins with a token: they complete it, or the fault
behind them cuts it off, or there is no such term. -/
inductive TermAhead (field : FieldPath) (first : Token) (session : Session) : Prop where
  | complete {op : CompareOp} {literal : Literal} {more rest : List Token}
      (isTerm : IsTerm (first :: more) op literal) (ahead : session.ahead = more ++ rest)
  | cutOff {op : CompareOp} {literal : Literal} (missing : List Token)
      (isTerm : IsTerm (first :: (session.ahead ++ missing)) op literal) (nonempty : missing ≠ [])
  | refused (refused : Refused (readTerm field first) session)

namespace TermAhead

theorem of_order (sound : session.Sound) (current : session.current = some first)
    {strict inclusive : CompareOp} (isSign : OrderSign first.kind strict inclusive) :
    TermAhead field first session := by
  cases ahead : session.ahead with
  | nil =>
      exact .cutOff [Token.zero]
        (by rw [ahead]; exact .strict isSign Token.zero_isOperand Token.zero_isFinite) (by simp)
  | cons token behind =>
      by_cases isEquals : token.kind = .equals
      · cases behind with
        | nil =>
            exact .cutOff [Token.zero]
              (by rw [ahead]; exact .inclusive isSign isEquals Token.zero_isOperand
                    Token.zero_isFinite) (by simp)
        | cons operand rest =>
            by_cases fit : operand.kind.IsOperand ∧ operand.IsFinite
            · exact .complete (.inclusive isSign isEquals fit.1 fit.2) ahead
            · refine .refused ?_
              rw [readTerm_order isSign]
              refine (orEqual_inclusive sound ahead isEquals).bind_refused
                fun after follows faces => ?_
              exact (nextLiteral_refused follows.sound orderingLiteral?_covers faces fit).bind
      · by_cases fit : token.kind.IsOperand ∧ token.IsFinite
        · exact .complete (.strict isSign fit.1 fit.2) ahead
        · refine .refused ?_
          rw [readTerm_order isSign]
          refine (orEqual_strict sound current isSign.ne_eof ahead isEquals).bind_refused
            fun after follows faces => ?_
          exact (nextLiteral_refused follows.sound orderingLiteral?_covers faces fit).bind

theorem of_equality (sound : session.Sound) (isSign : EqualitySign first.kind op) :
    TermAhead field first session := by
  cases ahead : session.ahead with
  | nil =>
      exact .cutOff [Token.zero]
        (by rw [ahead]; exact .equality isSign Token.zero_isOperand Token.zero_isFinite) (by simp)
  | cons operand rest =>
      by_cases fit : operand.kind.IsOperand ∧ operand.IsFinite
      · exact .complete (.equality isSign fit.1 fit.2) ahead
      · refine .refused ?_
        rw [readTerm_equality isSign]
        exact (nextLiteral_refused sound equalityLiteral?_covers ahead fit).bind

theorem of_bare (sound : session.Sound) (isLiteral : first.kind.IsLiteral) :
    TermAhead field first session := by
  by_cases isFinite : first.IsFinite
  · exact .complete (.bare isLiteral isFinite) rfl
  · refine .refused ?_
    rw [readTerm_bare isLiteral, (bareLiteral?_covers first).mpr isFinite]
    exact .refuse sound _

theorem of_containment (sound : session.Sound) (isDollar : first.kind = .dollar) :
    TermAhead field first session := by
  cases ahead : session.ahead with
  | nil =>
      exact .cutOff [Token.containment, Token.zero]
        (by rw [ahead]; exact .containment isDollar rfl rfl (by decide) Token.zero_isOperand)
        (by simp)
  | cons name behind =>
      by_cases isContainment : name.kind = .name ∧ ∃ operation, name.value = some operation ∧
          equalsIgnoringCase operation.toList ['c', 'o', 'n', 't', 'a', 'i', 'n', 's'] = true
      · obtain ⟨isName, operation, named, isContains⟩ := isContainment
        cases behind with
        | nil =>
            exact .cutOff [Token.zero]
              (by rw [ahead]; exact .containment isDollar isName named isContains
                    Token.zero_isOperand) (by simp)
        | cons operand rest =>
            by_cases fit : operand.kind.IsOperand ∧ True
            · exact .complete (.containment isDollar isName named isContains fit.1) ahead
            · refine .refused ?_
              rw [readTerm_containment isDollar]
              refine (nextToken_gives sound ahead).bind_refused fun after follows stands => ?_
              simp only [isName, named, isContains, if_true]
              exact (nextLiteral_refused follows.sound containmentLiteral?_covers
                (stands.faces (by simp [isName])) fit).bind
      · refine .refused ?_
        rw [readTerm_containment isDollar]
        refine (nextToken_gives sound ahead).bind_refused fun after follows stands => ?_
        split
        next operation isName named =>
          rw [if_neg fun isContains => isContainment ⟨isName, operation, named, isContains⟩]
          exact .refuse follows.sound _
        next => exact .refuse follows.sound _

/-- Every token with what is ahead of it is one of the three. -/
theorem of_first (field : FieldPath) (sound : session.Sound)
    (current : session.current = some first) : TermAhead field first session := by
  rcases termStart_cases field first with
    ⟨strict, inclusive, isSign⟩ | ⟨op, isSign⟩ | isLiteral | isDollar | refused
  · exact of_order sound current isSign
  · exact of_equality sound isSign
  · exact of_bare sound isLiteral
  · exact of_containment sound isDollar
  · exact .refused (refused ▸ .refuse sound _)

end TermAhead

end QueryPlanner.Condition
