import QueryPlanner.Proofs.Toml.Pieces

/-!
# Written strings and keys are read back

Whichever of its forms a string or a key is written in, it is read as the text that was written.
What follows it makes no difference, as long as it does not go on with a quote or a key.
-/

namespace QueryPlanner.Toml

open QueryPlanner.Text

variable {manyLines : Bool} {c : Char} {text rest : List Char} {allowed run bound : Nat}

section Strings

/-- No quote follows, of either kind. -/
def NoQuoteFollows (rest : List Char) : Prop :=
  rest.head? ≠ some '"' ∧ rest.head? ≠ some '\''

theorem escaped_front_ne (manyLines : Bool) (nonempty : text ≠ []) :
    ∃ front tail, escaped manyLines 0 0 text = front :: tail ∧ front ≠ '"' := by
  obtain ⟨c, text, rfl⟩ := List.exists_cons_of_ne_nil nonempty
  rcases escaped_cons_cases manyLines 0 0 c text with ⟨_, few, _⟩ | ⟨written, piece, equation⟩
  · exact absurd few (Nat.lt_irrefl 0)
  · obtain ⟨front, tail, rfl, notQuote⟩ := piece.front_ne
    exact ⟨front, tail ++ escaped manyLines 0 0 text, equation, notQuote⟩

theorem readString?_doubleQuote (notThree : ∀ rest, text ≠ '"' :: '"' :: rest) :
    readString? ('"' :: text) =
      (readBasic? (text.length + 2) text).map fun (value, rest) => (String.ofList value, rest) := by
  unfold readString?
  split
  next rest equation => exact absurd (List.cons.inj equation).2 (notThree rest)
  next equation => cases equation
  next rest _ equation =>
    cases equation
    rfl
  next equation => cases equation
  next _ notQuote _ => exact absurd rfl (notQuote text)

theorem readString?_singleQuote (notThree : ∀ rest, text ≠ '\'' :: '\'' :: rest) :
    readString? ('\'' :: text) =
      (readLiteral? text).map fun (value, rest) => (String.ofList value, rest) := by
  unfold readString?
  split
  next equation => cases equation
  next rest equation => exact absurd (List.cons.inj equation).2 (notThree rest)
  next equation => cases equation
  next rest _ equation =>
    cases equation
    rfl
  next _ _ notQuote => exact absurd rfl (notQuote text)

theorem readString?_basicString (follows : NoQuoteFollows rest) :
    readString? (basicString text ++ rest) = some (String.ofList text, rest) := by
  have notThree (after : List Char) :
      escaped false 0 0 text ++ '"' :: rest ≠ '"' :: '"' :: after := by
    by_cases isEmpty : text = []
    · subst isEmpty
      intro equation
      obtain rfl := (List.cons.inj equation).2
      exact follows.1 rfl
    · obtain ⟨front, tail, written, notQuote⟩ := escaped_front_ne false isEmpty
      rw [written]
      intro equation
      exact notQuote (List.cons.inj equation).1
  have shape : basicString text ++ rest = '"' :: (escaped false 0 0 text ++ '"' :: rest) := by
    simp [basicString]
  have enough : (escaped false 0 0 text).length <
      (escaped false 0 0 text ++ '"' :: rest).length + 2 := by
    rw [List.length_append]
    omega
  rw [shape, readString?_doubleQuote notThree, readBasic?_escaped enough]
  rfl

theorem readString?_literalString (allowed : ∀ c ∈ text, isPlain c = true ∧ c ≠ '\'')
    (follows : NoQuoteFollows rest) :
    readString? (literalString text ++ rest) = some (String.ofList text, rest) := by
  have notThree (after : List Char) : text ++ '\'' :: rest ≠ '\'' :: '\'' :: after := by
    cases text with
    | nil =>
        intro equation
        obtain rfl := (List.cons.inj equation).2
        exact follows.2 rfl
    | cons c text =>
        intro equation
        exact (allowed c List.mem_cons_self).2 (List.cons.inj equation).1
  have shape : literalString text ++ rest = '\'' :: (text ++ '\'' :: rest) := by
    simp [literalString]
  rw [shape, readString?_singleQuote notThree, readLiteral?_literal allowed]
  rfl

theorem skipFirstLineEnd_openingBreak {after : List Char}
    (front : '\n' ∉ text → after.head? ≠ some '\n') :
    skipFirstLineEnd (openingBreak text ++ after) = after := by
  unfold openingBreak
  split
  next => rfl
  next noLineEnd =>
    have notFront := front (by simpa using noLineEnd)
    rw [List.nil_append]
    unfold skipFirstLineEnd
    split
    next => exact absurd rfl notFront
    next => rfl

theorem escaped_append_front {after : List Char} (noLineEnd : '\n' ∉ text)
    (noneAfter : after.head? ≠ some '\n') :
    (escaped manyLines allowed run text ++ after).head? ≠ some '\n' := by
  cases text with
  | nil => exact noneAfter
  | cons c text =>
      have notLineEnd := List.ne_of_not_mem_cons noLineEnd
      rcases escaped_cons_cases manyLines allowed run c text with
        ⟨_, _, equation⟩ | ⟨written, piece, equation⟩
      · rw [equation]
        exact (by decide : some '"' ≠ some '\n')
      · rw [equation]
        rcases piece.cases_front with ⟨rfl, _⟩ | ⟨mark, tail, rfl, _⟩
        · simpa using Ne.symm notLineEnd
        · exact (by decide : some '\\' ≠ some '\n')

theorem readString?_basicLines (follows : NoQuoteFollows rest) :
    readString? (basicLines text ++ rest) = some (String.ofList text, rest) := by
  have skipped : skipFirstLineEnd
      (openingBreak text ++ (escaped true 2 0 text ++ ['"', '"', '"'] ++ rest)) =
      escaped true 2 0 text ++ ['"', '"', '"'] ++ rest := by
    apply skipFirstLineEnd_openingBreak
    intro noLineEnd
    rw [List.append_assoc]
    exact escaped_append_front noLineEnd (by simp)
  have shape : basicLines text ++ rest = '"' :: '"' :: '"' ::
      (openingBreak text ++ (escaped true 2 0 text ++ ['"', '"', '"'] ++ rest)) := by
    simp [basicLines]
  rw [shape, readString?]
  simp only [skipped]
  rw [readBasicLines?_escaped (Nat.zero_le 2) follows.1]
  · rfl
  · simp only [List.length_cons, List.length_append]
    omega

theorem readString?_literalLines (short : longestRun '\'' 0 text ≤ 2)
    (allowed : ∀ c ∈ text, c = '\n' ∨ isPlain c = true) (follows : NoQuoteFollows rest) :
    readString? (literalLines text ++ rest) = some (String.ofList text, rest) := by
  have skipped : skipFirstLineEnd
      (openingBreak text ++ (text ++ ['\'', '\'', '\''] ++ rest)) =
      text ++ ['\'', '\'', '\''] ++ rest := by
    apply skipFirstLineEnd_openingBreak
    intro noLineEnd
    cases text with
    | nil => simp
    | cons c text =>
        intro same
        exact noLineEnd (Option.some.inj same ▸ List.mem_cons_self)
  have shape : literalLines text ++ rest = '\'' :: '\'' :: '\'' ::
      (openingBreak text ++ (text ++ ['\'', '\'', '\''] ++ rest)) := by
    simp [literalLines]
  rw [shape, readString?]
  simp only [skipped]
  rw [readLiteralLines?_literal short allowed follows.2]
  · rfl
  · simp only [List.length_cons, List.length_append]
    omega

/-- A string is only written without escapes if it needs none. -/
theorem writeString_cases (text : List Char) :
    writeString text = basicString text ∨ writeString text = basicLines text ∨
      (writeString text = literalString text ∧ ∀ c ∈ text, isPlain c = true ∧ c ≠ '\'') ∨
      (writeString text = literalLines text ∧ longestRun '\'' 0 text ≤ 2 ∧
        ∀ c ∈ text, c = '\n' ∨ isPlain c = true) := by
  have plain_or (noControls : text.any needsEscape = false) :
      ∀ c ∈ text, c = '\n' ∨ isPlain c = true := by
    intro c isMember
    by_cases isLineEnd : c = '\n'
    · exact .inl isLineEnd
    · have noEscape := List.any_eq_false.mp noControls c isMember
      exact .inr (isPlain_eq_true (by simpa using noEscape) isLineEnd)
  unfold writeString
  extract_lets controls backslash newline doubles singles
  split
  next => exact .inl rfl
  split
  next isLiteral =>
    simp only [Bool.and_eq_true, Bool.not_eq_true', decide_eq_true_eq] at isLiteral
    obtain ⟨⟨noControls, noSingles⟩, noLineEnd⟩ := isLiteral
    refine .inr (.inr (.inl ⟨rfl, fun c isMember => ⟨?_, ?_⟩⟩))
    · apply (plain_or noControls c isMember).resolve_left
      rintro rfl
      simp [newline, isMember] at noLineEnd
    · exact ne_of_longestRun_zero noSingles c isMember
  split
  next => exact .inr (.inl rfl)
  split
  next isLiteral =>
    simp only [Bool.and_eq_true, Bool.not_eq_true', decide_eq_true_eq] at isLiteral
    exact .inr (.inr (.inr ⟨rfl, isLiteral.2, plain_or isLiteral.1⟩))
  split
  next => exact .inr (.inl rfl)
  next => exact .inl rfl

/-- A string is read as the text that was written, whichever of its forms it has. -/
theorem readString?_writeString (text : List Char) (follows : NoQuoteFollows rest) :
    readString? (writeString text ++ rest) = some (String.ofList text, rest) := by
  rcases writeString_cases text with form | form | ⟨form, allowed⟩ | ⟨form, short, allowed⟩
  · rw [form, readString?_basicString follows]
  · rw [form, readString?_basicLines follows]
  · rw [form, readString?_literalString allowed follows]
  · rw [form, readString?_literalLines short allowed follows]

theorem writeString_front (text : List Char) :
    ∃ c rest, writeString text = c :: rest ∧ (c = '"' ∨ c = '\'') := by
  rcases writeString_cases text with form | form | ⟨form, _⟩ | ⟨form, _⟩
  · exact ⟨'"', _, form, .inl rfl⟩
  · exact ⟨'"', _, form, .inl rfl⟩
  · exact ⟨'\'', _, form, .inr rfl⟩
  · exact ⟨'\'', _, form, .inr rfl⟩

theorem basicString_no_return : '\r' ∉ basicString text := by
  simp [basicString, escaped_no_return]

theorem literalString_no_return (allowed : ∀ c ∈ text, isPlain c = true ∧ c ≠ '\'') :
    '\r' ∉ literalString text := by
  have noReturn : '\r' ∉ text := by
    intro isMember
    exact absurd (allowed _ isMember).1 (by decide)
  simp [literalString, noReturn]

theorem openingBreak_no_return : '\r' ∉ openingBreak text := by
  unfold openingBreak
  split <;> decide

theorem writeString_no_return (text : List Char) : '\r' ∉ writeString text := by
  rcases writeString_cases text with form | form | ⟨form, allowed⟩ | ⟨form, _, allowed⟩
  · rw [form]
    exact basicString_no_return
  · rw [form]
    simp [basicLines, openingBreak_no_return, escaped_no_return]
  · rw [form]
    exact literalString_no_return allowed
  · have noReturn : '\r' ∉ text := by
      intro isMember
      exact absurd (allowed _ isMember) (by decide)
    rw [form]
    simp [literalLines, openingBreak_no_return, noReturn]

end Strings

section Keys

/-- No further character of a key follows. -/
def NoKeyFollows (rest : List Char) : Prop :=
  ∀ c ∈ rest.head?, isBareKeyChar c = false

/-- The characters that a written key begins with. -/
def beginsKey (c : Char) : Bool :=
  c = '"' || c = '\'' || isBareKeyChar c

theorem writeKey_cases (text : List Char) :
    (writeKey text = text ∧ text ≠ [] ∧ ∀ c ∈ text, isBareKeyChar c = true) ∨
      writeKey text = basicString text ∨
      (writeKey text = literalString text ∧ ∀ c ∈ text, isPlain c = true ∧ c ≠ '\'') := by
  unfold writeKey
  extract_lets controls backslash
  split
  next bare =>
    simp only [Bool.and_eq_true, Bool.not_eq_true', List.isEmpty_eq_false_iff,
      List.all_eq_true] at bare
    exact .inl ⟨rfl, bare⟩
  split
  next => exact .inr (.inl rfl)
  split
  next isLiteral =>
    simp only [Bool.and_eq_true, Bool.not_eq_true'] at isLiteral
    refine .inr (.inr ⟨rfl, fun c isMember => ?_⟩)
    have notControl := List.any_eq_false.mp isLiteral.1 c isMember
    simp only [Bool.or_eq_true, decide_eq_true_eq, not_or, Bool.not_eq_true] at notControl
    refine ⟨isPlain_eq_true notControl.1 notControl.2, ?_⟩
    rintro rfl
    simp [isMember] at isLiteral
  next => exact .inr (.inl rfl)

theorem writeKey_front (text : List Char) :
    ∃ c rest, writeKey text = c :: rest ∧ beginsKey c = true := by
  rcases writeKey_cases text with ⟨form, nonempty, bare⟩ | form | ⟨form, _⟩
  · obtain ⟨c, text, rfl⟩ := List.exists_cons_of_ne_nil nonempty
    exact ⟨c, text, form, by simp [beginsKey, bare c List.mem_cons_self]⟩
  · exact ⟨'"', _, form, rfl⟩
  · exact ⟨'\'', _, form, rfl⟩

theorem writeKey_no_return (text : List Char) : '\r' ∉ writeKey text := by
  rcases writeKey_cases text with ⟨form, _, bare⟩ | form | ⟨form, allowed⟩
  · rw [form]
    intro isMember
    exact absurd (bare _ isMember) (by decide)
  · rw [form]
    exact basicString_no_return
  · rw [form]
    exact literalString_no_return allowed

theorem readSimpleKey?_bare (nonempty : text ≠ []) (bare : ∀ c ∈ text, isBareKeyChar c = true)
    (follows : NoKeyFollows rest) :
    readSimpleKey? (text ++ rest) = some (String.ofList text, rest) := by
  have taken : (text ++ rest).takeWhile isBareKeyChar = text := by
    rw [List.takeWhile_append_of_pos bare]
    cases rest with
    | nil => simp
    | cons c rest =>
        have notBare : isBareKeyChar c = false := follows c rfl
        simp [notBare]
  obtain ⟨c, text, rfl⟩ := List.exists_cons_of_ne_nil nonempty
  have isBare := bare c List.mem_cons_self
  unfold readSimpleKey?
  split
  next equation =>
    cases equation
    exact absurd isBare (by decide)
  next equation =>
    cases equation
    exact absurd isBare (by decide)
  next =>
    change (if (c :: text ++ rest).takeWhile isBareKeyChar = [] then none else
      some (String.ofList ((c :: text ++ rest).takeWhile isBareKeyChar),
        (c :: text ++ rest).drop ((c :: text ++ rest).takeWhile isBareKeyChar).length)) = _
    rw [taken, if_neg (List.cons_ne_nil c text), List.drop_left]

theorem readSimpleKey?_basicString :
    readSimpleKey? (basicString text ++ rest) = some (String.ofList text, rest) := by
  have shape : basicString text ++ rest = '"' :: (escaped false 0 0 text ++ '"' :: rest) := by
    simp [basicString]
  have enough : (escaped false 0 0 text).length <
      (escaped false 0 0 text ++ '"' :: rest).length + 1 := by
    rw [List.length_append]
    omega
  rw [shape, readSimpleKey?, readBasic?_escaped enough]
  rfl

theorem readSimpleKey?_literalString (allowed : ∀ c ∈ text, isPlain c = true ∧ c ≠ '\'') :
    readSimpleKey? (literalString text ++ rest) = some (String.ofList text, rest) := by
  have shape : literalString text ++ rest = '\'' :: (text ++ '\'' :: rest) := by
    simp [literalString]
  rw [shape, readSimpleKey?, readLiteral?_literal allowed]
  rfl

theorem readSimpleKey?_writeKey (follows : NoKeyFollows rest) :
    readSimpleKey? (writeKey text ++ rest) = some (String.ofList text, rest) := by
  rcases writeKey_cases text with ⟨form, nonempty, bare⟩ | form | ⟨form, allowed⟩
  · rw [form, readSimpleKey?_bare nonempty bare follows]
  · rw [form, readSimpleKey?_basicString]
  · rw [form, readSimpleKey?_literalString allowed]

theorem skipBlanks_of_beginsKey (begins : beginsKey c = true) :
    skipBlanks (c :: rest) = c :: rest := by
  have notSpace : c ≠ ' ' := by
    rintro rfl
    exact absurd begins (by decide)
  have notTab : c ≠ '\t' := by
    rintro rfl
    exact absurd begins (by decide)
  simp [skipBlanks, notSpace, notTab]

theorem writePath_front {path : List String} (nonempty : path ≠ []) :
    ∃ c rest, writePath path = c :: rest ∧ beginsKey c = true := by
  match path, nonempty with
  | [key], _ => exact writeKey_front key.toList
  | key :: next :: path, _ =>
      obtain ⟨c, rest, written, begins⟩ := writeKey_front key.toList
      refine ⟨c, rest ++ '.' :: writePath (next :: path), ?_, begins⟩
      rw [writePath, written]
      · rfl
      · exact List.cons_ne_nil next path

/-- The keys of a path are read back, with the space behind them. -/
theorem readKey?_writePath {path : List String} (nonempty : path ≠ [])
    (enough : path.length ≤ bound) (follows : NoKeyFollows rest)
    (ends : (skipBlanks rest).head? ≠ some '.') :
    readKey? bound (writePath path ++ rest) = some (path, skipBlanks rest) := by
  induction path generalizing bound with
  | nil => exact absurd rfl nonempty
  | cons key path inductionHypothesis =>
      obtain ⟨bound, rfl⟩ := Nat.exists_eq_add_one_of_ne_zero (Nat.ne_zero_of_lt enough)
      cases path with
      | nil =>
          rw [writePath, readKey?, readSimpleKey?_writeKey follows]
          simp only [Option.bind_eq_bind, Option.bind_some, String.ofList_toList]
          split
          next equation => simp [equation] at ends
          next => rfl
      | cons next path =>
          have further := inductionHypothesis (List.cons_ne_nil _ _) (Nat.le_of_succ_le_succ enough)
          have dotFollows : NoKeyFollows ('.' :: (writePath (next :: path) ++ rest)) := by
            rintro c isFront
            cases isFront
            decide
          obtain ⟨c, tail, written, begins⟩ := writePath_front (List.cons_ne_nil next path)
          have noBlank : skipBlanks (writePath (next :: path) ++ rest) =
              writePath (next :: path) ++ rest := by
            rw [written]
            exact skipBlanks_of_beginsKey begins
          rw [writePath, List.append_assoc, List.cons_append, readKey?,
            readSimpleKey?_writeKey dotFollows]
          · have dot : skipBlanks ('.' :: (writePath (next :: path) ++ rest)) =
                '.' :: (writePath (next :: path) ++ rest) := rfl
            simp only [Option.bind_eq_bind, Option.bind_some, dot, noBlank, further,
              String.ofList_toList]
            rfl
          · exact List.cons_ne_nil next path

end Keys

end QueryPlanner.Toml
