import QueryPlanner.Text.Utf8

/-!
Line ends and positions.  Texts are kept with a line feed at the end of each line, and a byte
offset is shown as a line and a column that both count from one.
-/

namespace QueryPlanner.Text

/-- A text in which each carriage return, with a line feed right after it or alone, has become one
line feed. -/
def normalizeLineEnds : List Char → List Char
  | [] => []
  | '\r' :: '\n' :: rest => '\n' :: normalizeLineEnds rest
  | c :: rest => (if c = '\r' then '\n' else c) :: normalizeLineEnds rest

/-- The line of a byte offset: one more than the line feeds before it. -/
def lineAt (text : List Char) (offset : Nat) : Nat :=
  (takeBytes offset text).count '\n' + 1

/-- The column of a byte offset: one more than the characters between it and the last line feed
before it. -/
def columnAt (text : List Char) (offset : Nat) : Nat :=
  ((takeBytes offset text).reverse.takeWhile (· ≠ '\n')).length + 1

theorem return_not_mem_normalizeLineEnds (text : List Char) :
    '\r' ∉ normalizeLineEnds text := by
  fun_induction normalizeLineEnds text with
  | case1 => simp
  | case2 rest inductionHypothesis => simp [inductionHypothesis]
  | case3 c rest _ inductionHypothesis =>
      by_cases isReturn : c = '\r'
      · simp [isReturn, inductionHypothesis]
      · simp [isReturn, inductionHypothesis, Ne.symm isReturn]

theorem normalizeLineEnds_of_oneLine {text : List Char} (oneLine : '\r' ∉ text) :
    normalizeLineEnds text = text := by
  fun_induction normalizeLineEnds text with
  | case1 => rfl
  | case2 rest => simp at oneLine
  | case3 c rest _ inductionHypothesis =>
      have notReturn : c ≠ '\r' := by
        rintro rfl
        simp at oneLine
      rw [if_neg notReturn, inductionHypothesis fun membership =>
        oneLine (List.mem_cons_of_mem _ membership)]

theorem normalizeLineEnds_append {front : List Char} (rest : List Char)
    (apart : front.getLast? = some '\r' → rest.head? ≠ some '\n') :
    normalizeLineEnds (front ++ rest) = normalizeLineEnds front ++ normalizeLineEnds rest := by
  fun_induction normalizeLineEnds front with
  | case1 => rfl
  | case2 front inductionHypothesis =>
      rw [List.cons_append, List.cons_append, normalizeLineEnds, inductionHypothesis]
      · rfl
      · intro endsInReturn
        exact apart (by simp [List.getLast?_cons, endsInReturn])
  | case3 c front single inductionHypothesis =>
      rw [List.cons_append, normalizeLineEnds, inductionHypothesis]
      · rfl
      · intro endsInReturn
        exact apart (by simp [List.getLast?_cons, endsInReturn])
      · intro left isReturn same
        cases front with
        | nil =>
            cases same
            exact apart (congrArg some isReturn) rfl
        | cons next front =>
            cases same
            exact single front isReturn rfl

end QueryPlanner.Text
