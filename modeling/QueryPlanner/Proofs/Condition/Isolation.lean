import QueryPlanner.Proofs.Condition.Lines
import QueryPlanner.Proofs.Condition.Recognition

/-!
# Text beyond a condition

A line feed and a comma close whatever condition stands before them, also behind a comment.  What
follows them has no influence on what the condition stands for, nor on the way in which it fails.
-/

namespace QueryPlanner.Condition

open QueryPlanner.Text

/-- Behind a tail of this kind no condition goes on: the line ends, and what comes next, be the line
a comment or not, is the end of the text or a comma. -/
structure Closes (tail : List Char) : Prop where
  endsLine : EndsLine tail
  isEnd : ∀ inComment, ∀ c ∈ (spanIgnored inComment tail).2.head?, c = ','

theorem closes_nil : Closes [] :=
  ⟨by simp [EndsLine], by simp [spanIgnored]⟩

theorem closes_lineFeed : Closes ['\n'] := by
  refine ⟨by simp [EndsLine], fun inComment c isHead => ?_⟩
  cases inComment <;> cases isHead

theorem closes_comma (more : List Char) : Closes ('\n' :: ',' :: more) := by
  refine ⟨by simp [EndsLine], fun inComment c isHead => ?_⟩
  cases inComment <;> cases isHead <;> rfl

section Tokens

variable {inComment : Bool} {body text rest tail : List Char} {c : Char} {start offset : Nat}

theorem spanIgnored_append_of_cons (spanned : (spanIgnored inComment text).2 = c :: rest)
    (tail : List Char) :
    spanIgnored inComment (text ++ tail) =
      ((spanIgnored inComment text).1, c :: (rest ++ tail)) := by
  induction text generalizing inComment with
  | nil => simp [spanIgnored] at spanned
  | cons first text inductionHypothesis =>
      unfold spanIgnored at spanned ⊢
      rw [List.cons_append]
      dsimp only at spanned ⊢
      split at spanned
      next ignores => 
        rw [if_pos ignores, if_pos ignores, inductionHypothesis spanned]
      next stops =>
        cases spanned
        rw [if_neg stops, if_neg stops]

theorem spanIgnored_append_of_nil (spanned : (spanIgnored inComment text).2 = []) :
    ∃ inside, ∀ tail, spanIgnored inComment (text ++ tail) =
      (text ++ (spanIgnored inside tail).1, (spanIgnored inside tail).2) := by
  induction text generalizing inComment with
  | nil => exact ⟨inComment, fun tail => rfl⟩
  | cons first text inductionHypothesis =>
      unfold spanIgnored at spanned
      dsimp only at spanned
      split at spanned
      next ignores =>
        obtain ⟨inside, appended⟩ := inductionHypothesis spanned
        refine ⟨inside, fun tail => ?_⟩
        rw [List.cons_append, spanIgnored]
        dsimp only
        rw [if_pos ignores, appended]
        rfl
      next => cases spanned

theorem dropBytes_append (dropped : dropBytes offset text = some rest) (tail : List Char) :
    dropBytes offset (text ++ tail) = some (rest ++ tail) := by
  fun_induction dropBytes offset text with
  | case1 text =>
      cases dropped
      rw [dropBytes]
  | case2 => cases dropped
  | case3 offset c text fits inductionHypothesis =>
      rw [List.cons_append, dropBytes, if_pos fits]
      exact inductionHypothesis dropped
  | case4 => cases dropped

variable (dropped : dropBytes start body = some text) (closes : Closes tail)
include dropped closes

theorem tokenAt_append_of_cons (spanned : (spanIgnored false text).2 = c :: rest) :
    (Source.tokenAt ⟨body ++ tail⟩ start).toOption = (Source.tokenAt ⟨body⟩ start).toOption := by
  have lexemesAlike := closes.endsLine.readLexeme_append rest c
  simp only [Source.tokenAt, dropBytes_append dropped tail, dropped, Source.scanText,
    spanIgnored_append_of_cons spanned tail, spanned]
  cases read : readLexeme c rest with
  | ok lexeme =>
      rw [read] at lexemesAlike
      rw [toOption_eq_some.mp lexemesAlike]
  | error misread =>
      rw [read] at lexemesAlike
      obtain ⟨other, readAgain⟩ := toOption_eq_none.mp lexemesAlike
      rw [readAgain]
      rfl

theorem tokenAt_append_of_nil (spanned : (spanIgnored false text).2 = []) :
    ∃ token, Source.tokenAt ⟨body ++ tail⟩ start = .ok token ∧
      token.kind.endsCondition = true := by
  obtain ⟨inside, appended⟩ := spanIgnored_append_of_nil spanned
  have isEnd := closes.isEnd inside
  simp only [Source.tokenAt, dropBytes_append dropped tail, Source.scanText, appended]
  cases beyond : (spanIgnored inside tail).2 with
  | nil => exact ⟨_, rfl, rfl⟩
  | cons c more =>
      rw [beyond] at isEnd
      obtain rfl : c = ',' := isEnd c rfl
      exact ⟨_, rfl, rfl⟩

end Tokens

/-- The tokens of two texts are the same up to one on each side that ends a condition, or up to a
fault in both. -/
inductive AlikeUpToEnd :
    List Token → Option SyntaxFault → List Token → Option SyntaxFault → Prop where
  | ended {token other : Token} {tokens others : List Token} {fault otherFault : Option SyntaxFault}
      (ends : token.kind.endsCondition = true) (otherEnds : other.kind.endsCondition = true) :
      AlikeUpToEnd (token :: tokens) fault (other :: others) otherFault
  | stuck {fault otherFault : SyntaxFault} : AlikeUpToEnd [] (some fault) [] (some otherFault)
  | step {token : Token} {tokens others : List Token} {fault otherFault : Option SyntaxFault}
      (rest : AlikeUpToEnd tokens fault others otherFault) :
      AlikeUpToEnd (token :: tokens) fault (token :: others) otherFault

namespace AlikeUpToEnd

variable {tokens others front beyond : List Token} {terminator : Token}
  {fault otherFault : Option SyntaxFault}

theorem symm (alike : AlikeUpToEnd tokens fault others otherFault) :
    AlikeUpToEnd others otherFault tokens fault := by
  induction alike with
  | ended ends otherEnds => exact .ended otherEnds ends
  | stuck => exact .stuck
  | step _ inductionHypothesis => exact .step inductionHypothesis

theorem exists_terminator (alike : AlikeUpToEnd tokens fault others otherFault)
    (split : tokens = front ++ terminator :: beyond)
    (continues : ∀ token ∈ front, token.kind.endsCondition = false)
    (ends : terminator.kind.endsCondition = true) :
    ∃ otherTerminator otherBeyond, others = front ++ otherTerminator :: otherBeyond ∧
      otherTerminator.kind.endsCondition = true := by
  induction alike generalizing front with
  | ended tokenEnds otherEnds =>
      cases front with
      | nil => exact ⟨_, _, rfl, otherEnds⟩
      | cons first front =>
          cases split
          cases tokenEnds.symm.trans (continues _ List.mem_cons_self)
  | stuck => simp at split
  | step rest inductionHypothesis =>
      cases front with
      | nil =>
          cases split
          exact ⟨_, _, rfl, ends⟩
      | cons first front =>
          rw [List.cons_append, List.cons.injEq] at split
          obtain ⟨rfl, restSplit⟩ := split
          obtain ⟨otherTerminator, otherBeyond, rfl, otherEnds⟩ :=
            inductionHypothesis restSplit fun token membership =>
              continues token (List.mem_cons_of_mem _ membership)
          exact ⟨otherTerminator, otherBeyond, rfl, otherEnds⟩

theorem eq_of_prefix (alike : AlikeUpToEnd tokens fault others otherFault)
    (isFront : tokens <+: front) (continues : ∀ token ∈ front, token.kind.endsCondition = false) :
    others = tokens ∧ otherFault.isSome = true := by
  induction alike generalizing front with
  | ended ends =>
      cases ends.symm.trans (continues _ (isFront.subset List.mem_cons_self))
  | stuck => exact ⟨rfl, rfl⟩
  | step rest inductionHypothesis =>
      obtain ⟨left, rfl⟩ := isFront
      obtain ⟨rfl, isSome⟩ := inductionHypothesis (List.prefix_append _ left)
        fun token membership => continues token (List.mem_cons_of_mem _ membership)
      exact ⟨rfl, isSome⟩

end AlikeUpToEnd

section Scans

variable {body text tail : List Char} {start : Nat} {tokens : List Token}
  {fault : Option SyntaxFault}

theorem Source.exists_chain (source : Source) (dropped : dropBytes start source.body = some text) :
    ∃ tokens fault, source.Chain start tokens fault :=
  ⟨_, _, chain_scanFrom dropped (Nat.lt_succ_self _)⟩

theorem Source.Chain.exists_cons {source : Source} {token : Token}
    (chain : source.Chain start tokens fault) (read : source.tokenAt start = .ok token) :
    ∃ beyond, tokens = token :: beyond := by
  cases chain with
  | finish readAgain =>
      cases read.symm.trans readAgain
      exact ⟨_, rfl⟩
  | stuck failed => cases read.symm.trans failed
  | step readAgain =>
      cases read.symm.trans readAgain
      exact ⟨_, rfl⟩

theorem kind_eq_eof_iff {token : Token} (dropped : dropBytes start body = some text)
    (read : Source.tokenAt ⟨body⟩ start = .ok token) :
    token.kind = .eof ↔ (spanIgnored false text).2 = [] := by
  simp only [Source.tokenAt, dropped, Source.scanText] at read
  split at read
  next nothing =>
    cases read
    simp [nothing, Token.eof]
  next c rest something =>
    split at read
    next lexeme lexemeRead =>
      cases read
      simp [something, (readLexeme_ok lexemeRead).2.2]
    next => cases read

/-- Up to the tail the chain of a text and that of the text with the tail are the same. -/
theorem Source.Chain.append (chain : Source.Chain ⟨body⟩ start tokens fault)
    (dropped : dropBytes start body = some text) (closes : Closes tail) :
    ∃ others otherFault, Source.Chain ⟨body ++ tail⟩ start others otherFault ∧
      AlikeUpToEnd tokens fault others otherFault := by
  induction chain generalizing text with
  | finish read isEnd =>
      have nothing := (kind_eq_eof_iff dropped read).mp isEnd
      obtain ⟨other, otherRead, ends⟩ := tokenAt_append_of_nil dropped closes nothing
      obtain ⟨others, otherFault, otherChain⟩ :=
        Source.exists_chain ⟨body ++ tail⟩ (dropBytes_append dropped tail)
      obtain ⟨beyond, rfl⟩ := otherChain.exists_cons otherRead
      exact ⟨_, _, otherChain, .ended (by rw [isEnd]; rfl) ends⟩
  | stuck failed =>
      cases spanned : (spanIgnored false text).2 with
      | nil => simp [tokenAt, dropped, scanText, spanned] at failed
      | cons c rest =>
          have alike := tokenAt_append_of_cons dropped closes spanned
          rw [failed] at alike
          obtain ⟨otherFault, failedAgain⟩ := toOption_eq_none.mp alike
          exact ⟨_, _, .stuck failedAgain, .stuck⟩
  | step read notEnd rest inductionHypothesis =>
      cases spanned : (spanIgnored false text).2 with
      | nil => exact absurd ((kind_eq_eof_iff dropped read).mpr spanned) notEnd
      | cons c left =>
          have alike := tokenAt_append_of_cons dropped closes spanned
          rw [read] at alike
          obtain ⟨leftAfter, droppedAfter, _⟩ := tokenAt_ok dropped read notEnd
          obtain ⟨others, otherFault, otherChain, restAlike⟩ := inductionHypothesis droppedAfter
          exact ⟨_, _, .step (toOption_eq_some.mp alike) notEnd otherChain, .step restAlike⟩

theorem Source.scan_append (body : List Char) (closes : Closes tail) :
    AlikeUpToEnd (Source.scan ⟨body⟩).1 (Source.scan ⟨body⟩).2
      (Source.scan ⟨body ++ tail⟩).1 (Source.scan ⟨body ++ tail⟩).2 := by
  have dropped : dropBytes 0 body = some body := by rw [dropBytes]
  obtain ⟨others, otherFault, otherChain, alike⟩ := (chain_scan ⟨body⟩).append dropped closes
  obtain ⟨rfl, rfl⟩ := otherChain.unique (chain_scan ⟨body ++ tail⟩)
  exact alike

end Scans

section Sentences

theorem OrderSign.continues {kind : TokenKind} {strict inclusive : CompareOp}
    (isSign : OrderSign kind strict inclusive) : kind.endsCondition = false := by
  cases isSign <;> rfl

theorem EqualitySign.continues {kind : TokenKind} {op : CompareOp}
    (isSign : EqualitySign kind op) : kind.endsCondition = false := by
  cases isSign <;> rfl

theorem TokenKind.IsLiteral.continues {kind : TokenKind} (isLiteral : kind.IsLiteral) :
    kind.endsCondition = false := by
  rcases isLiteral with rfl | rfl | rfl | rfl <;> rfl

theorem TokenKind.IsOperand.continues {kind : TokenKind} (isOperand : kind.IsOperand) :
    kind.endsCondition = false := by
  rcases isOperand with isLiteral | rfl
  · exact isLiteral.continues
  · rfl

theorem IsTerm.continues {tokens : List Token} {op : CompareOp} {literal : Literal}
    (isTerm : IsTerm tokens op literal) :
    ∀ token ∈ tokens, token.kind.endsCondition = false := by
  cases isTerm with
  | strict isSign isOperand => simp [isSign.continues, isOperand.continues]
  | @inclusive sign equals operand strict inclusive isSign isEquals isOperand =>
      have ofEquals : equals.kind.endsCondition = false := by rw [isEquals]; rfl
      simp [isSign.continues, ofEquals, isOperand.continues]
  | equality isSign isOperand => simp [isSign.continues, isOperand.continues]
  | bare isLiteral => simp [isLiteral.continues]
  | @containment dollar name operand operation isDollar isName _ _ isOperand =>
      have ofDollar : dollar.kind.endsCondition = false := by rw [isDollar]; rfl
      have ofName : name.kind.endsCondition = false := by rw [isName]; rfl
      simp [ofDollar, ofName, isOperand.continues]

theorem Continuation.continues (continuation : Continuation) :
    ∀ token ∈ continuation.tokens, token.kind.endsCondition = false := by
  induction continuation with
  | nil => simp
  | cons joined continuation inductionHypothesis =>
      obtain ⟨joiner, term⟩ := joined
      intro token membership
      rw [tokens_cons, List.mem_cons, List.mem_append] at membership
      rcases membership with rfl | inTerm | inRest
      · exact joiner.not_endsCondition
      · exact term.isTerm.continues token inTerm
      · exact inductionHypothesis token inRest

theorem Sentence.continues (sentence : Sentence) :
    ∀ token ∈ sentence.tokens, token.kind.endsCondition = false := by
  cases sentence with
  | empty => simp [tokens]
  | terms term continuation =>
      intro token membership
      rcases List.mem_append.mp membership with inTerm | inRest
      · exact term.isTerm.continues token inTerm
      · exact continuation.continues token inRest

end Sentences

inductive ErrorKind where
  | syntaxFault
  | unsupported
  deriving DecidableEq

def Error.kind : Error → ErrorKind
  | syntaxFault _ => .syntaxFault
  | unsupported _ => .unsupported

section Verdicts

variable {field : FieldPath} {source other : Source} {result : Option Predicate}

theorem compile_ok_of_alike
    (alike : AlikeUpToEnd source.scan.1 source.scan.2 other.scan.1 other.scan.2)
    (compiled : (outcome (compile field) (.start source)).1 = .ok result) :
    (outcome (compile field) (.start other)).1 = .ok result := by
  obtain ⟨sentence, terminator, beyond, begins, predicate, empty⟩ :=
    (compile_ok_iff field (.start source) result).mp compiled
  obtain ⟨split, ends⟩ := begins
  rw [Session.ahead_start] at split
  obtain ⟨otherTerminator, otherBeyond, otherSplit, otherEnds⟩ :=
    alike.exists_terminator split sentence.continues ends
  refine (compile_ok_iff field (.start other) result).mpr
    ⟨sentence, otherTerminator, otherBeyond, ⟨?_, otherEnds⟩, predicate, empty⟩
  rw [Session.ahead_start]
  exact otherSplit

theorem compile_fault_of_alike {fault : SyntaxFault}
    (alike : AlikeUpToEnd source.scan.1 source.scan.2 other.scan.1 other.scan.2)
    (failed : (outcome (compile field) (.start source)).1 = .error (.syntaxFault fault)) :
    ∃ otherFault, (outcome (compile field) (.start other)).1 = .error (.syntaxFault otherFault) := by
  obtain ⟨_, sentence, isFront⟩ := (compile_fault_iff field (.start source) fault).mp failed
  rw [Session.ahead_start] at isFront
  obtain ⟨sameTokens, isSome⟩ := alike.eq_of_prefix isFront sentence.continues
  obtain ⟨otherFault, scanFault⟩ := Option.isSome_iff_exists.mp isSome
  refine ⟨otherFault, (compile_fault_iff field (.start other) otherFault).mpr
    ⟨scanFault, sentence, ?_⟩⟩
  rw [Session.ahead_start, sameTokens]
  exact isFront

/-- Texts with the same tokens up to the end of the condition are accepted as the same predicate, or
fail in the same way. -/
theorem compile_alike (field : FieldPath)
    (alike : AlikeUpToEnd source.scan.1 source.scan.2 other.scan.1 other.scan.2) :
    (outcome (compile field) (.start source)).1.mapError Error.kind =
      (outcome (compile field) (.start other)).1.mapError Error.kind := by
  cases compiled : (outcome (compile field) (.start source)).1 with
  | ok result => rw [compile_ok_of_alike alike compiled]
  | error error =>
      cases error with
      | syntaxFault fault =>
          obtain ⟨otherFault, failed⟩ := compile_fault_of_alike alike compiled
          rw [failed]
          rfl
      | unsupported cause =>
          cases otherCompiled : (outcome (compile field) (.start other)).1 with
          | ok result => cases compiled.symm.trans (compile_ok_of_alike alike.symm otherCompiled)
          | error otherError =>
              cases otherError with
              | unsupported => rfl
              | syntaxFault fault =>
                  obtain ⟨_, failed⟩ := compile_fault_of_alike alike.symm otherCompiled
                  cases compiled.symm.trans failed

end Verdicts

section LineEnds

theorem exists_closes (text : List Char) (suffix : List Char) :
    ∃ body tail otherTail, Closes tail ∧ Closes otherTail ∧
      normalizeLineEnds text = body ++ tail ∧
      normalizeLineEnds (text ++ '\n' :: ',' :: suffix) = body ++ otherTail := by
  by_cases endsInReturn : text.getLast? = some '\r'
  · obtain ⟨front, rfl⟩ := List.getLast?_eq_some_iff.mp endsInReturn
    refine ⟨normalizeLineEnds front, ['\n'], _, closes_lineFeed,
      closes_comma (normalizeLineEnds suffix), ?_, ?_⟩
    · rw [normalizeLineEnds_append]
      · rfl
      · simp
    · rw [List.append_assoc, normalizeLineEnds_append]
      · rfl
      · simp
  · refine ⟨normalizeLineEnds text, [], _, closes_nil,
      closes_comma (normalizeLineEnds suffix), ?_, ?_⟩
    · rw [List.append_nil]
    · rw [normalizeLineEnds_append]
      · rfl
      · exact fun isReturn => absurd isReturn endsInReturn

end LineEnds

/-- Whatever stands on the lines after a condition, behind a comma, the condition is accepted as the
same predicate, or fails in the same way, as without it. -/
theorem compileCondition_ignores_text_beyond (field : FieldPath) (text suffix : String) :
    (compileCondition field (text ++ "\n," ++ suffix)).mapError Error.kind =
      (compileCondition field text).mapError Error.kind := by
  obtain ⟨body, tail, otherTail, closes, otherCloses, textEq, otherEq⟩ :=
    exists_closes text.toList suffix.toList
  have sourceEq : Source.ofString text = ⟨body ++ tail⟩ := congrArg Source.mk textEq
  have otherSourceEq : Source.ofString (text ++ "\n," ++ suffix) = ⟨body ++ otherTail⟩ := by
    rw [Source.ofString, String.toList_append, String.toList_append, List.append_assoc]
    exact congrArg Source.mk otherEq
  have alike := compile_alike field (Source.scan_append body closes)
  have otherAlike := compile_alike field (Source.scan_append body otherCloses)
  unfold compileCondition
  rw [sourceEq, otherSourceEq]
  exact otherAlike.symm.trans alike

example : (compileCondition (.ofName "age") "> 1 # years\r\n,\"open").mapError Error.kind =
    .ok (some (.compare (.ofName "age") .greaterThan (.int 1))) := by decide +kernel

end QueryPlanner.Condition
