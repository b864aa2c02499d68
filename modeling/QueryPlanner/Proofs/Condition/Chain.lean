import QueryPlanner.Condition.Scan
import QueryPlanner.Proofs.Condition.Lexeme

/-!
# Chains of tokens

The tokens of a source are the chain of tokens that begins at its start, each read where the one
before it ends.  Every token but the end of the text takes a character at least, so the bound on
their number is never met.
-/

namespace QueryPlanner.Condition

open QueryPlanner.Number QueryPlanner.Text

theorem spanIgnored_append (inComment : Bool) (text : List Char) :
    (spanIgnored inComment text).1 ++ (spanIgnored inComment text).2 = text := by
  induction text generalizing inComment with
  | nil => simp [spanIgnored]
  | cons c rest inductionHypothesis =>
      unfold spanIgnored
      dsimp only
      split
      next => rw [List.cons_append, inductionHypothesis]
      next => rfl

theorem dropBytes_add {text rest : List Char} {offset : Nat}
    (dropped : dropBytes offset text = some rest) (more : Nat) :
    dropBytes (offset + more) text = dropBytes more rest := by
  fun_induction dropBytes offset text with
  | case1 text =>
      cases dropped
      rw [Nat.zero_add]
  | case2 => cases dropped
  | case3 offset c tail fits inductionHypothesis =>
      have remaining : offset + more + 1 - c.utf8Size = offset + 1 - c.utf8Size + more := by omega
      have counted : offset + 1 + more = offset + more + 1 := by omega
      rw [← inductionHypothesis dropped, counted, dropBytes, if_pos (by omega), remaining]
  | case4 => cases dropped

theorem Source.tokenAt_ok {source : Source} {start : Nat} {text : List Char} {token : Token}
    (dropped : dropBytes start source.body = some text) (read : source.tokenAt start = .ok token)
    (notEnd : token.kind ≠ .eof) :
    ∃ left, dropBytes token.stop source.body = some left ∧ left.length < text.length := by
  simp only [tokenAt, dropped, scanText] at read
  have spanned := spanIgnored_append false text
  split at read
  next =>
    cases read
    exact absurd rfl notEnd
  next c tail restEq =>
    rw [restEq] at spanned
    split at read
    next lexeme lexemeRead =>
      cases read
      obtain ⟨⟨left, front⟩, nonempty, _⟩ := readLexeme_ok lexemeRead
      have textEq : text = (spanIgnored false text).1 ++ lexeme.written ++ left := by
        rw [List.append_assoc, ← front, spanned]
      refine ⟨left, ?_, ?_⟩
      · dsimp only
        rw [Nat.add_assoc, ← byteLength_append, dropBytes_add dropped]
        conv => lhs; arg 2; rw [textEq]
        exact dropBytes_byteLength_append _ left
      · have positive := List.length_pos_of_ne_nil nonempty
        rw [textEq, List.length_append, List.length_append]
        omega
    next => cases read

/-- Every token but the end of the text was read as a lexeme. -/
theorem Source.exists_readLexeme {source : Source} {start : Nat} {token : Token}
    (read : source.tokenAt start = .ok token) (notEnd : token.kind ≠ .eof) :
    ∃ c rest lexeme, readLexeme c rest = .ok lexeme ∧ token.kind = lexeme.kind ∧
      token.value = lexeme.value.map String.ofList := by
  unfold tokenAt at read
  split at read
  next =>
    cases read
    exact absurd rfl notEnd
  next text dropped =>
    unfold scanText at read
    dsimp only at read
    split at read
    next =>
      cases read
      exact absurd rfl notEnd
    next c rest restEq =>
      split at read
      next lexeme lexemeRead =>
        cases read
        exact ⟨c, rest, lexeme, lexemeRead, rfl, rfl⟩
      next => cases read

theorem Source.tokenAt_name {source : Source} {start : Nat} {token : Token}
    (read : source.tokenAt start = .ok token) (isName : token.kind = .name) :
    ∃ first word, token.text.toList = first :: word ∧ beginsName first = true := by
  obtain ⟨c, rest, lexeme, lexemeRead, kind, value⟩ :=
    Source.exists_readLexeme read (by simp [isName])
  obtain ⟨first, word, valueEq, begins⟩ := readLexeme_name lexemeRead (kind.symm.trans isName)
  exact ⟨first, word, by simp [Token.text, value, valueEq], begins⟩

theorem Source.tokenAt_int {source : Source} {start : Nat} {token : Token}
    (read : source.tokenAt start = .ok token) (isInt : token.kind = .int) :
    ∃ n, IsWholeNumeral token.text.toList n := by
  obtain ⟨c, rest, lexeme, lexemeRead, kind, value⟩ :=
    Source.exists_readLexeme read (by simp [isInt])
  obtain ⟨numeral, n, valueEq, isNumeral⟩ := readLexeme_int lexemeRead (kind.symm.trans isInt)
  refine ⟨n, ?_⟩
  simpa [Token.text, value, valueEq] using isNumeral

/-- The tokens that are read from an offset on, each where the one before it ends, up to the end
of the text or a fault. -/
inductive Source.Chain (source : Source) : Nat → List Token → Option SyntaxFault → Prop where
  | finish {start : Nat} {token : Token} (read : source.tokenAt start = .ok token)
      (isEnd : token.kind = .eof) : Chain source start [token] none
  | stuck {start : Nat} {fault : SyntaxFault} (failed : source.tokenAt start = .error fault) :
      Chain source start [] (some fault)
  | step {start : Nat} {token : Token} {tokens : List Token} {fault : Option SyntaxFault}
      (read : source.tokenAt start = .ok token) (notEnd : token.kind ≠ .eof)
      (rest : Chain source token.stop tokens fault) : Chain source start (token :: tokens) fault

namespace Source

variable {source : Source}

theorem chain_scanFrom {bound start : Nat} {text : List Char}
    (dropped : dropBytes start source.body = some text) (enough : text.length < bound) :
    source.Chain start (source.scanFrom bound start).1 (source.scanFrom bound start).2 := by
  induction bound generalizing start text with
  | zero => omega
  | succ bound inductionHypothesis =>
      unfold scanFrom
      split
      next fault failed => exact .stuck failed
      next token read =>
        split
        next isEnd => exact .finish read isEnd
        next notEnd =>
          obtain ⟨left, leftDropped, shorter⟩ := tokenAt_ok dropped read notEnd
          exact .step read notEnd (inductionHypothesis leftDropped (by omega))

/-- The scan of a source is the chain from its start: the bound on its length is never met. -/
theorem chain_scan (source : Source) : source.Chain 0 source.scan.1 source.scan.2 :=
  have dropped : dropBytes 0 source.body = some source.body := by rw [dropBytes]
  chain_scanFrom dropped (Nat.lt_succ_self _)

namespace Chain

variable {start : Nat} {tokens : List Token} {fault : Option SyntaxFault}

theorem unique {others : List Token} {otherFault : Option SyntaxFault}
    (chain : source.Chain start tokens fault) (other : source.Chain start others otherFault) :
    tokens = others ∧ fault = otherFault := by
  induction chain generalizing others otherFault with
  | finish read isEnd =>
      cases other with
      | finish otherRead =>
          cases read.symm.trans otherRead
          exact ⟨rfl, rfl⟩
      | stuck failed => cases read.symm.trans failed
      | step otherRead notEnd =>
          cases read.symm.trans otherRead
          exact absurd isEnd notEnd
  | stuck failed =>
      cases other with
      | finish otherRead => cases failed.symm.trans otherRead
      | stuck otherFailed =>
          cases failed.symm.trans otherFailed
          exact ⟨rfl, rfl⟩
      | step otherRead => cases failed.symm.trans otherRead
  | step read notEnd rest inductionHypothesis =>
      cases other with
      | finish otherRead isEnd =>
          cases read.symm.trans otherRead
          exact absurd isEnd notEnd
      | stuck failed => cases read.symm.trans failed
      | step otherRead _ otherRest =>
          cases read.symm.trans otherRead
          obtain ⟨rfl, rfl⟩ := inductionHypothesis otherRest
          exact ⟨rfl, rfl⟩

theorem resume {before ahead : List Token} (chain : source.Chain start (before ++ ahead) fault)
    (notEnd : ∀ token ∈ before.getLast?, token.kind ≠ .eof) :
    source.Chain ((before.getLast?.map Token.stop).getD start) ahead fault := by
  induction before generalizing start with
  | nil => exact chain
  | cons token before inductionHypothesis =>
      cases before with
      | nil =>
          cases chain with
          | finish read isEnd => exact absurd isEnd (notEnd token rfl)
          | step read _ rest => exact rest
      | cons next before =>
          cases chain with
          | step read _ rest =>
              have resumed := inductionHypothesis rest (by simpa using notEnd)
              rw [List.getLast?_eq_some_getLast (List.cons_ne_nil next before)] at resumed
              rw [List.getLast?_cons_cons,
                List.getLast?_eq_some_getLast (List.cons_ne_nil next before)]
              exact resumed

theorem eof_last {before ahead : List Token} {token : Token}
    (chain : source.Chain start (before ++ token :: ahead) fault) (isEnd : token.kind = .eof) :
    ahead = [] ∧ fault = none := by
  induction before generalizing start with
  | nil =>
      cases chain with
      | finish => exact ⟨rfl, rfl⟩
      | step _ notEnd => exact absurd isEnd notEnd
  | cons first before inductionHypothesis =>
      rw [List.cons_append] at chain
      generalize restEq : before ++ token :: ahead = rest at chain
      cases chain with
      | finish => simp at restEq
      | step _ _ rest => exact inductionHypothesis (restEq ▸ rest)

theorem exists_tokenAt (chain : source.Chain start tokens fault) :
    ∀ token ∈ tokens, ∃ place, source.tokenAt place = .ok token := by
  induction chain with
  | finish read => exact fun token membership => ⟨_, List.mem_singleton.mp membership ▸ read⟩
  | stuck => simp
  | step read _ _ inductionHypothesis =>
      intro token membership
      rcases List.mem_cons.mp membership with rfl | inRest
      · exact ⟨_, read⟩
      · exact inductionHypothesis token inRest

theorem count_le {text : List Char} (chain : source.Chain start tokens fault)
    (dropped : dropBytes start source.body = some text) :
    tokens.countP (fun token => token.kind ≠ .eof) ≤ text.length := by
  induction chain generalizing text with
  | finish read isEnd => simp [isEnd]
  | stuck => simp
  | step read notEnd rest inductionHypothesis =>
      obtain ⟨left, leftDropped, shorter⟩ := tokenAt_ok dropped read notEnd
      have counted := inductionHypothesis leftDropped
      rw [List.countP_cons_of_pos (by simpa using notEnd)]
      omega

end Chain

end Source

end QueryPlanner.Condition
