import QueryPlanner.Proofs.Toml.Strings
import QueryPlanner.Toml.Reader

/-!
# Reading what is written, line by line

A written text is a row of lines, each of which is blank, opens a table or gives a key of the open
table a value.  The reader takes the lines in turn and carries out what they tell, so reading a text
is a fold over its statements.
-/

namespace QueryPlanner.Toml

/-- What a line tells. -/
inductive Statement where
  | header (path : List String)
  | entry (key : String) (value : Value)

/-- A table is opened, or the open one is given an entry. -/
def Statement.carryOut (reading : Reading) : Statement → Option Reading
  | header path => (openTable path reading.root).map fun root => ⟨root, path⟩
  | entry key value =>
      (assignIn reading.opened [key] (.value value) reading.root).map fun root =>
        ⟨root, reading.opened⟩

/-- The written form of a value. -/
inductive IsWritten : List Char → Value → Prop where
  | string (text : String) : IsWritten (writeString text.toList) (.string text)
  | truth : IsWritten ['t', 'r', 'u', 'e'] (.boolean true)

/-- A line with its end, and what it tells. -/
inductive IsLine : List Char → Statement → Prop where
  | header {path : List String} (nonempty : path ≠ []) (short : path.length ≤ 79) :
      IsLine ('[' :: writePath path ++ [']', '\n']) (.header path)
  | entry {written : List Char} {value : Value} (key : String)
      (isWritten : IsWritten written value) :
      IsLine (writeEntry key written) (.entry key value)

/-- A text and what its lines tell. -/
inductive Tells : List Char → List Statement → Prop where
  | nil : Tells [] []
  | blank {text : List Char} {statements : List Statement} (tells : Tells text statements) :
      Tells ('\n' :: text) statements
  | line {line text : List Char} {statement : Statement} {statements : List Statement}
      (isLine : IsLine line statement) (tells : Tells text statements) :
      Tells (line ++ text) (statement :: statements)

variable {text written line rest : List Char} {value : Value} {statement : Statement}
  {statements others : List Statement} {reading : Reading} {bound levels : Nat}

section Statements

theorem readNode?_quote {c : Char} (isQuote : c = '"' ∨ c = '\'') :
    readNode? levels (c :: rest) = (readString? (c :: rest)).map fun (text, rest) =>
      (.value (.string text), rest) := by
  unfold readNode?
  exact if_pos isQuote

theorem readNode?_isWritten (isWritten : IsWritten written value) :
    readNode? levels (written ++ '\n' :: rest) = some (.value value, '\n' :: rest) := by
  cases isWritten with
  | truth =>
      unfold readNode?
      rfl
  | string text =>
      have follows : NoQuoteFollows ('\n' :: rest) := ⟨by simp, by simp⟩
      have read := readString?_writeString text.toList follows
      obtain ⟨c, tail, written, isQuote⟩ := writeString_front text.toList
      rw [written, List.cons_append] at read ⊢
      rw [readNode?_quote isQuote, read, String.ofList_toList]
      rfl

theorem IsWritten.front (isWritten : IsWritten written value) :
    ∃ c tail, written = c :: tail ∧ beginsKey c = true := by
  cases isWritten with
  | truth => exact ⟨'t', ['r', 'u', 'e'], rfl, by decide⟩
  | string text =>
      obtain ⟨c, tail, written, isQuote⟩ := writeString_front text.toList
      rcases isQuote with rfl | rfl
      · exact ⟨'"', tail, written, by decide⟩
      · exact ⟨'\'', tail, written, by decide⟩

theorem readPair?_writeEntry {key : String} (isWritten : IsWritten written value) :
    readPair? (readNode? levels) (writeEntry key written ++ rest) =
      some ([key], .value value, '\n' :: rest) := by
  have keyRead : readKey? 79 (writePath [key] ++ ' ' :: '=' :: ' ' :: (written ++ '\n' :: rest)) =
      some ([key], '=' :: ' ' :: (written ++ '\n' :: rest)) := by
    refine readKey?_writePath (List.cons_ne_nil _ _) (by simp) ?_ ?_
    · rintro c ⟨⟩
      decide
    · simp [skipBlanks]
  have noBlank : skipBlanks (' ' :: (written ++ '\n' :: rest)) = written ++ '\n' :: rest := by
    obtain ⟨c, tail, rfl, begins⟩ := isWritten.front
    exact skipBlanks_of_beginsKey begins
  have shape : writeEntry key written ++ rest =
      writePath [key] ++ ' ' :: '=' :: ' ' :: (written ++ '\n' :: rest) := by
    simp [writeEntry, writePath]
  rw [shape, readPair?, keyRead]
  simp only [Option.bind_eq_bind, Option.bind_some, noBlank, readNode?_isWritten isWritten]
  rfl

theorem readHeader?_writePath {path : List String} (nonempty : path ≠ [])
    (short : path.length ≤ 79) :
    readHeader? ('[' :: (writePath path ++ ']' :: rest)) = some (false, path, rest) := by
  have follows : NoKeyFollows (']' :: rest) := by
    rintro c ⟨⟩
    decide
  have pathRead := readKey?_writePath nonempty short follows (by simp [skipBlanks])
  obtain ⟨c, tail, written, begins⟩ := writePath_front nonempty
  have notBracket : c ≠ '[' := by
    rintro rfl
    exact absurd begins (by decide)
  rw [written] at pathRead ⊢
  have noBlank : skipBlanks (c :: (tail ++ ']' :: rest)) = c :: (tail ++ ']' :: rest) :=
    skipBlanks_of_beginsKey begins
  unfold readHeader?
  split
  next after equation =>
    simp only [List.cons_append, List.cons.injEq, true_and] at equation
    exact absurd equation.1 notBracket
  next after _ equation =>
    cases equation
    rw [List.cons_append] at pathRead ⊢
    rw [noBlank, pathRead]
    simp [skipBlanks]
  next notHeader => exact absurd rfl (notHeader _)

theorem readStatement?_isLine (isLine : IsLine line statement) :
    readStatement? reading (line ++ rest) =
      (statement.carryOut reading).map fun reading => (reading, '\n' :: rest) := by
  cases isLine with
  | @header path nonempty short =>
      have shape : '[' :: writePath path ++ [']', '\n'] ++ rest =
          '[' :: (writePath path ++ ']' :: '\n' :: rest) := by simp
      rw [shape, readStatement?, readHeader?_writePath nonempty short]
      simp only [Option.bind_eq_bind, Option.bind_some, Statement.carryOut]
      cases openTable path reading.root <;> rfl
  | @entry written value key isWritten =>
      obtain ⟨c, tail, keyWritten, begins⟩ := writeKey_front key.toList
      have pairRead : readPair? (readNode? 79) (writeEntry key written ++ rest) =
          some ([key], .value value, '\n' :: rest) :=
        readPair?_writeEntry isWritten
      unfold readStatement?
      split
      next after equation =>
        rw [writeEntry, keyWritten] at equation
        cases equation
        exact absurd begins (by decide)
      next =>
        rw [pairRead]
        simp only [Option.bind_eq_bind, Option.bind_some, Statement.carryOut]
        cases assignIn reading.opened [key] (.value value) reading.root <;> rfl

end Statements

section Text

theorem IsLine.front (isLine : IsLine line statement) :
    ∃ c tail, line = c :: tail ∧ (c = '[' ∨ beginsKey c = true) := by
  cases isLine with
  | header _ _ => exact ⟨'[', _, rfl, .inl rfl⟩
  | @entry written _ key _ =>
      obtain ⟨c, tail, keyWritten, begins⟩ := writeKey_front key.toList
      refine ⟨c, tail ++ [' ', '=', ' '] ++ written ++ ['\n'], ?_, .inr begins⟩
      rw [writeEntry, keyWritten]
      rfl

theorem skipLines?_lineEnd :
    skipLines? (('\n' :: text).length + 1) ('\n' :: text) = skipLines? (text.length + 1) text := by
  rfl

theorem skipLines?_isLine (isLine : IsLine line statement) :
    skipLines? bound (line ++ rest) = some (line ++ rest) := by
  obtain ⟨c, tail, rfl, front⟩ := isLine.front
  have notFront (other : Char) (notBracket : other ≠ '[') (notKey : beginsKey other = false) :
      c ≠ other := by
    rintro rfl
    rcases front with isBracket | begins
    · exact notBracket isBracket
    · rw [begins] at notKey
      cases notKey
  have notSpace := notFront ' ' (by decide) (by decide)
  have notTab := notFront '\t' (by decide) (by decide)
  have notComment := notFront '#' (by decide) (by decide)
  have notLineEnd := notFront '\n' (by decide) (by decide)
  cases bound with
  | zero => rfl
  | succ bound =>
      simp [skipLines?, skipBlanks, skipComment?, afterNewline?, notSpace, notTab, notComment,
        notLineEnd]

/-- Reading a text carries out what its lines tell, one after another. -/
theorem readLines?_tells (tells : Tells text statements) (enough : text.length < bound) :
    readLines? bound reading text = statements.foldlM Statement.carryOut reading := by
  induction tells generalizing reading bound with
  | nil =>
      obtain ⟨bound, rfl⟩ := Nat.exists_eq_add_one_of_ne_zero (Nat.ne_zero_of_lt enough)
      rfl
  | @blank text statements tells inductionHypothesis =>
      obtain ⟨bound, rfl⟩ := Nat.exists_eq_add_one_of_ne_zero (Nat.ne_zero_of_lt enough)
      rw [← inductionHypothesis (Nat.lt_of_succ_lt enough), readLines?, readLines?,
        skipLines?_lineEnd]
  | @line line text statement statements isLine tells inductionHypothesis =>
      obtain ⟨bound, rfl⟩ := Nat.exists_eq_add_one_of_ne_zero (Nat.ne_zero_of_lt enough)
      obtain ⟨c, tail, lineEq, _⟩ := isLine.front
      have restEnough : text.length < bound := by
        rw [lineEq, List.length_append, List.length_cons] at enough
        omega
      rw [readLines?, skipLines?_isLine isLine, List.foldlM_cons]
      simp only [Option.bind_eq_bind, Option.bind_some]
      split
      next isEmpty =>
        rw [lineEq] at isEmpty
        cases isEmpty
      next =>
        rw [readStatement?_isLine isLine]
        cases carried : statement.carryOut reading with
        | none => rfl
        | some reading =>
            have noComment : skipComment? (skipBlanks ('\n' :: text)) = some ('\n' :: text) := rfl
            rw [Option.bind_some, ← inductionHypothesis restEnough]
            simp only [Option.map_some, Option.bind_some, noComment]
            rfl

theorem Tells.append {back : List Char} (tells : Tells text statements)
    (tellsToo : Tells back others) : Tells (text ++ back) (statements ++ others) := by
  induction tells with
  | nil => exact tellsToo
  | blank _ inductionHypothesis => exact .blank inductionHypothesis
  | line isLine _ inductionHypothesis =>
      rw [List.append_assoc]
      exact .line isLine inductionHypothesis

theorem writePath_no_return (path : List String) : '\r' ∉ writePath path := by
  fun_induction writePath path with
  | case1 => exact List.not_mem_nil
  | case2 key => exact writeKey_no_return key.toList
  | case3 key path _ inductionHypothesis =>
      simp [writeKey_no_return key.toList, inductionHypothesis]

theorem IsLine.no_return (isLine : IsLine line statement) : '\r' ∉ line := by
  cases isLine with
  | @header path _ _ => simp [writePath_no_return path]
  | @entry written _ key isWritten =>
      have writtenOnly : '\r' ∉ written := by
        cases isWritten with
        | string text => exact writeString_no_return text.toList
        | truth => decide
      simp [writeEntry, writeKey_no_return key.toList, writtenOnly]

theorem Tells.no_return (tells : Tells text statements) : '\r' ∉ text := by
  induction tells with
  | nil => exact List.not_mem_nil
  | blank _ inductionHypothesis => simp [inductionHypothesis]
  | line isLine _ inductionHypothesis => simp [isLine.no_return, inductionHypothesis]

theorem unifyLineEnds_eq_self (noReturn : '\r' ∉ text) : unifyLineEnds text = text := by
  fun_induction unifyLineEnds text with
  | case1 => rfl
  | case2 => simp at noReturn
  | case3 c text _ inductionHypothesis =>
      rw [inductionHypothesis (List.not_mem_of_not_mem_cons noReturn)]

theorem Tells.no_mark (tells : Tells text statements) : text.head? ≠ some '\uFEFF' := by
  cases tells with
  | nil => simp
  | blank _ => simp
  | line isLine _ =>
      obtain ⟨c, tail, rfl, front⟩ := isLine.front
      rintro ⟨⟩
      exact absurd front (by decide)

/-- A text is the outermost table that its lines build from nothing. -/
theorem parse?_tells (tells : Tells text statements) :
    parse? (String.ofList text) =
      (statements.foldlM Statement.carryOut {}).map fun reading => membersOf reading.root := by
  unfold parse?
  rw [String.toList_ofList]
  split
  next rest => exact absurd rfl tells.no_mark
  next =>
    simp only [unifyLineEnds_eq_self tells.no_return]
    rw [readLines?_tells tells (Nat.lt_succ_self _)]

end Text

end QueryPlanner.Toml
