import Mathlib.Data.List.Basic
import QueryPlanner.Condition.Compile
import QueryPlanner.Proofs.Text.Replacement

/-!
# Line ends

However the lines of a condition end, its tokens, its predicate and its faults are the same.  The
text that is read comes from a single pass over the line ends, which does the work of two passes
that replace first the pairs and then what is left of the carriage returns.
-/

namespace QueryPlanner.Text

/-- The second text comes from a single pass from left to right over the first: a pair of carriage
return and line feed has become one line feed, and so has each other carriage return. -/
inductive Unified : List Char → List Char → Prop where
  | nil : Unified [] []
  | pair {rest body : List Char} :
      Unified rest body → Unified ('\r' :: '\n' :: rest) ('\n' :: body)
  | single {rest body : List Char} :
      rest.head? ≠ some '\n' → Unified rest body → Unified ('\r' :: rest) ('\n' :: body)
  | other {c : Char} {rest body : List Char} :
      c ≠ '\r' → Unified rest body → Unified (c :: rest) (c :: body)

def isLineEnd (c : Char) : Bool :=
  c = '\r' || c = '\n'

theorem Unified.cons {c : Char} {rest body : List Char} (notPair : ¬['\r', '\n'] <+: c :: rest)
    (unified : Unified rest body) :
    Unified (c :: rest) ((if c = '\r' then '\n' else c) :: body) := by
  by_cases isReturn : c = '\r'
  · subst isReturn
    refine .single (fun beginsWithFeed => ?_) unified
    obtain ⟨tail, rfl⟩ := List.head?_eq_some_iff.mp beginsWithFeed
    exact notPair (List.prefix_append ['\r', '\n'] tail)
  · rw [if_neg isReturn]
    exact .other isReturn unified

theorem unified_normalizeLineEnds (text : List Char) : Unified text (normalizeLineEnds text) := by
  fun_induction normalizeLineEnds text with
  | case1 => exact .nil
  | case2 rest inductionHypothesis => exact .pair inductionHypothesis
  | case3 c rest notPair inductionHypothesis =>
      refine inductionHypothesis.cons ?_
      rintro ⟨tail, same⟩
      cases same
      exact notPair tail rfl rfl

example : normalizeLineEnds ['\r', '\r', '\n', '\n'] = ['\n', '\n', '\n'] := by decide

namespace Unified

variable {text body : List Char}

theorem eq_normalizeLineEnds (unified : Unified text body) : body = normalizeLineEnds text := by
  induction unified with
  | nil => rfl
  | pair _ inductionHypothesis => rw [normalizeLineEnds, inductionHypothesis]
  | @single rest body notFeed _ inductionHypothesis =>
      rw [normalizeLineEnds, if_pos rfl, inductionHypothesis]
      rintro tail - rfl
      exact notFeed rfl
  | @other c rest body notReturn _ inductionHypothesis =>
      rw [normalizeLineEnds, if_neg notReturn, inductionHypothesis]
      rintro tail rfl
      exact absurd rfl notReturn

theorem filter_eq (unified : Unified text body) :
    body.filter (!isLineEnd ·) = text.filter (!isLineEnd ·) := by
  induction unified with
  | nil => rfl
  | pair _ inductionHypothesis => simpa [isLineEnd] using inductionHypothesis
  | single _ _ inductionHypothesis => simpa [isLineEnd] using inductionHypothesis
  | @other c _ _ _ _ inductionHypothesis =>
      rw [List.filter_cons, List.filter_cons, inductionHypothesis]

theorem sublist (unified : Unified text body) : (text.filter (· ≠ '\r')).Sublist body := by
  induction unified with
  | nil => exact .slnil
  | pair _ inductionHypothesis => simpa using inductionHypothesis
  | single _ _ inductionHypothesis => simpa using inductionHypothesis.cons '\n'
  | other notReturn _ inductionHypothesis => simpa [notReturn] using inductionHypothesis

/-- Once the pairs have been replaced, replacing the carriage returns one by one is enough. -/
theorem of_replaced {middle : List Char} (pairs : Replaced ['\r', '\n'] ['\n'] text middle) :
    Unified text (middle.flatMap fun c => if c = '\r' then ['\n'] else [c]) := by
  induction pairs with
  | nil => exact .nil
  | part _ inductionHypothesis => exact .pair inductionHypothesis
  | @other c rest middle absent _ inductionHypothesis =>
      have unified := inductionHypothesis.cons absent
      by_cases isReturn : c = '\r'
      · simpa [isReturn] using unified
      · simpa [isReturn] using unified

end Unified

theorem unified_replace_replace (text : String) :
    Unified text.toList ((text.replace "\r\n" "\n").replace "\r" "\n").toList := by
  have pairsReplaced := replaced_replace text (by decide : "\r\n" ≠ "") "\n"
  rw [toList_replace_of_char (by rfl : "\r".toList = ['\r'])]
  exact .of_replaced pairsReplaced

/-- A text may end all its lines in any one of the three ways. -/
theorem unified_replace {text lineEnd : String} (oneLine : '\r' ∉ text.toList)
    (isLineEnd : lineEnd ∈ ["\n", "\r\n", "\r"]) :
    Unified (text.replace "\n" lineEnd).toList text.toList := by
  have replaced := replaced_replace text (by decide : "\n" ≠ "") lineEnd
  generalize text.toList = body, (text.replace "\n" lineEnd).toList = written at replaced oneLine
  induction replaced with
  | nil => exact .nil
  | @part rest written replaced inductionHypothesis =>
      have unified := inductionHypothesis fun membership =>
        oneLine (List.mem_append_right ['\n'] membership)
      simp only [List.mem_cons, List.not_mem_nil, or_false] at isLineEnd
      rcases isLineEnd with rfl | rfl | rfl
      · exact .other (by decide) unified
      · exact .pair unified
      -- No line feed is left behind a carriage return that it could be a pair with.
      · refine .single (fun beginsWithFeed => ?_) unified
        exact replaced.not_mem (by decide) (List.mem_of_mem_head? beginsWithFeed)
  | other _ _ inductionHypothesis =>
      rw [List.mem_cons, not_or] at oneLine
      exact .other (Ne.symm oneLine.1) (inductionHypothesis oneLine.2)

end QueryPlanner.Text

namespace QueryPlanner.Condition

open QueryPlanner.Text

/-- The text that is read is the given one after two passes, the first of which replaces each pair
of carriage return and line feed and the second each carriage return that is left, and after the
single pass that does both.  It has no carriage return, all other characters in their order, and
does not change if it is given again.  A text without carriage returns gives the same tokens, the
same predicate and the same faults if its line feeds are all written in another way. -/
theorem line_ends_read_alike :
    (∀ text : String,
      let source := Source.ofString text
      source.body = ((text.replace "\r\n" "\n").replace "\r" "\n").toList ∧
        (∀ body, Unified text.toList body ↔ body = source.body) ∧
        '\r' ∉ source.body ∧
        source.body.filter (!isLineEnd ·) = text.toList.filter (!isLineEnd ·) ∧
        (text.toList.filter (· ≠ '\r')).Sublist source.body ∧
        Source.ofString (String.ofList source.body) = source) ∧
    ∀ text : String, '\r' ∉ text.toList → ∀ lineEnd ∈ ["\n", "\r\n", "\r"],
      let written := text.replace "\n" lineEnd
      (Source.ofString written).body = text.toList ∧
        Source.ofString written = Source.ofString text ∧
        (Source.ofString written).tokens = (Source.ofString text).tokens ∧
        (∀ start, (Source.ofString written).tokenAt start =
          (Source.ofString text).tokenAt start) ∧
        ∀ field, compileCondition field written = compileCondition field text := by
  constructor
  · intro text source
    have unified : Unified text.toList source.body := unified_normalizeLineEnds text.toList
    have oneLine : '\r' ∉ source.body := return_not_mem_normalizeLineEnds text.toList
    refine ⟨?_, fun body => ?_, oneLine, unified.filter_eq, unified.sublist, ?_⟩
    · exact (unified_replace_replace text).eq_normalizeLineEnds.symm
    · constructor
      · intro bodyUnified
        exact bodyUnified.eq_normalizeLineEnds
      · rintro rfl
        exact unified
    · rw [Source.ofString, String.toList_ofList, normalizeLineEnds_of_oneLine oneLine]
  · intro text oneLine lineEnd isLineEnd written
    have unified : Unified written.toList text.toList := unified_replace oneLine isLineEnd
    have same : Source.ofString written = Source.ofString text := by
      rw [Source.ofString, Source.ofString, ← unified.eq_normalizeLineEnds,
        normalizeLineEnds_of_oneLine oneLine]
    refine ⟨unified.eq_normalizeLineEnds.symm, same, ?_, fun start => ?_, fun field => ?_⟩
    · rw [same]
    · rw [same]
    · rw [compileCondition, compileCondition, same]

/-- A line that ends inside a comment and one that ends inside a string, which is not closed. -/
theorem line_ends_read_alike_unclosed :
    let text := "#é\n= 'b\nc'"
    let fault : SyntaxFault := ⟨.unterminatedString, ⟨text.toList⟩, 6⟩
    ('\r' ∉ text.toList ∧ "\r\n" ∈ ["\n", "\r\n", "\r"] ∧ "\r" ∈ ["\n", "\r\n", "\r"]) ∧
      text.replace "\n" "\r\n" = "#é\r\n= 'b\r\nc'" ∧
      text.replace "\n" "\r" = "#é\r= 'b\rc'" ∧
      (Source.ofString "#é\r\n= 'b\r\nc'").tokens = .error fault ∧
      (Source.ofString "#é\r= 'b\rc'").tokens = .error fault ∧
      ∀ field, compileCondition field "#é\r\n= 'b\r\nc'" = compileCondition field text := by
  intro text fault
  have oneLine : '\r' ∉ text.toList := by decide
  have isFeed : "\n".toList = ['\n'] := rfl
  have inPairs : text.replace "\n" "\r\n" = "#é\r\n= 'b\r\nc'" := by
    rw [← String.toList_inj, toList_replace_of_char isFeed]
    decide
  have inReturns : text.replace "\n" "\r" = "#é\r= 'b\rc'" := by
    rw [← String.toList_inj, toList_replace_of_char isFeed]
    decide
  have unclosed : (Source.ofString text).tokens = .error fault := by decide +kernel
  obtain ⟨_, _, pairTokens, _, compiled⟩ := line_ends_read_alike.2 text oneLine "\r\n" (by decide)
  obtain ⟨_, _, returnTokens, _⟩ := line_ends_read_alike.2 text oneLine "\r" (by decide)
  rw [inPairs] at pairTokens compiled
  rw [inReturns] at returnTokens
  exact ⟨⟨oneLine, by decide, by decide⟩, inPairs, inReturns, pairTokens.trans unclosed,
    returnTokens.trans unclosed, compiled⟩

end QueryPlanner.Condition
