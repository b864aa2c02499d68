import QueryPlanner.Proofs.Condition.Tiling

/-!
# Lexing is local

What is read at a place depends on the text from there on and on nothing in front of it.  So a text
that is put in front of another one moves the tokens and does not change them, and reading may begin
again at any token, or in the gap before it if the place is not inside a comment.
-/

namespace QueryPlanner.Condition

open QueryPlanner.Text

def Token.shift (distance : Nat) (token : Token) : Token :=
  { token with start := token.start + distance, stop := token.stop + distance }

/-- What is read of a text that stands some bytes further on in a source. -/
def Source.shifted (source : Source) (distance : Nat) :
    Except SyntaxFault Token → Except SyntaxFault Token
  | .ok token => .ok (token.shift distance)
  | .error fault => .error ⟨fault.cause, source, fault.offset + distance⟩

/-- A place between two parts of a gap is inside a comment: the comment is open in front of it, and
the character behind it belongs to the comment. -/
def InComment (front back : List Char) : Prop :=
  ∃ gap words c rest, front = gap ++ '#' :: words ∧ IsGap False gap ∧
    (∀ d ∈ words, isForbidden d = false) ∧ back = c :: rest ∧ isForbidden c = false

section Shift

variable {source : Source} {front text : List Char} {start distance : Nat}

theorem Source.scanText_shift (source other : Source) (start distance : Nat) (text : List Char) :
    source.scanText (start + distance) text =
      source.shifted distance (other.scanText start text) := by
  unfold scanText
  dsimp only
  split
  next => simp only [shifted, Token.shift, Token.eof, Nat.add_right_comm]
  next c tail _ =>
    cases readLexeme c tail with
    | ok lexeme => simp only [shifted, Token.shift, Nat.add_right_comm]
    | error misread => simp only [shifted, Nat.add_right_comm]

theorem Source.tokenAt_append_left (front : List Char)
    (dropped : dropBytes start source.body = some text) :
    Source.tokenAt ⟨front ++ source.body⟩ (byteLength front + start) =
      Source.shifted ⟨front ++ source.body⟩ (byteLength front) (source.tokenAt start) := by
  have droppedBehind : dropBytes (byteLength front + start) (front ++ source.body) = some text := by
    rw [dropBytes_add (dropBytes_byteLength_append front source.body), dropped]
  simp only [tokenAt, droppedBehind, dropped]
  rw [Nat.add_comm]
  exact scanText_shift _ source start (byteLength front) text

end Shift

section Gaps

variable {inComment : Bool} {front back rest tail words text : List Char} {c : Char}

theorem spanIgnored_of_append
    (spanned : spanIgnored inComment (front ++ tail) = (front ++ back, rest)) :
    spanIgnored inComment front = (front, []) := by
  induction front generalizing inComment with
  | nil => rfl
  | cons c front inductionHypothesis =>
      rw [List.cons_append, spanIgnored] at spanned
      rw [spanIgnored]
      dsimp only at spanned ⊢
      split at spanned
      next ignores =>
        obtain ⟨behindEq, restEq⟩ := Prod.mk.inj spanned
        rw [if_pos ignores, inductionHypothesis (Prod.ext (List.cons.inj behindEq).2 restEq)]
      next => cases spanned

theorem IsGap.closed_or_open (isGap : IsGap True text) :
    IsGap False text ∨ ∃ gap words, text = gap ++ '#' :: words ∧ IsGap False gap ∧
      ∀ d ∈ words, isForbidden d = false := by
  induction isGap with
  | nil => exact .inl .nil
  | @blank c behind isBlank _ inductionHypothesis =>
      rcases inductionHypothesis with isClosed | ⟨gap, words, rfl, isClosed, oneLine⟩
      · exact .inl (.blank isBlank isClosed)
      · exact .inr ⟨c :: gap, words, rfl, .blank isBlank isClosed, oneLine⟩
  | @comment line behind allowed _ inductionHypothesis =>
      rcases inductionHypothesis with isClosed | ⟨gap, words, rfl, isClosed, oneLine⟩
      · exact .inl (.comment allowed isClosed)
      · refine .inr ⟨'#' :: (line ++ '\n' :: gap), words, ?_, .comment allowed isClosed, oneLine⟩
        simp
  | @openComment line oneLine _ => exact .inr ⟨[], line, rfl, .nil, oneLine⟩

theorem spanIgnored_words (oneLine : ∀ d ∈ words, isForbidden d = false) (tail : List Char) :
    spanIgnored true (words ++ tail) =
      (words ++ (spanIgnored true tail).1, (spanIgnored true tail).2) := by
  induction words with
  | nil => rfl
  | cons d words inductionHypothesis =>
      obtain ⟨allowed, others⟩ := List.forall_mem_cons.mp oneLine
      simp [spanIgnored, allowed, inductionHypothesis others]

theorem spanIgnored_false_of_true (spanned : spanIgnored true tail = (back, rest))
    (ends : ∀ c ∈ back.head?, isForbidden c = true) : spanIgnored false tail = (back, rest) := by
  cases tail with
  | nil => exact spanned
  | cons c tail =>
      cases back with
      | nil =>
          have appended := spanIgnored_append true (c :: tail)
          rw [spanned, List.nil_append] at appended
          subst appended
          obtain ⟨notSpace, notComment⟩ := spanIgnored_stops spanned
          exact spanIgnored_cons notSpace notComment tail
      | cons first back =>
          have appended := spanIgnored_append true (c :: tail)
          rw [spanned] at appended
          obtain ⟨rfl, _⟩ := List.cons.inj appended
          have forbidden : isForbidden first = true := ends first rfl
          rw [← spanned]
          simp only [spanIgnored, forbidden, Bool.not_true, Bool.and_false]

/-- A gap is passed over in two parts, unless it is parted inside a comment. -/
theorem spanIgnored_parted (oneLine : '\r' ∉ front)
    (spanned : spanIgnored false (front ++ tail) = (front ++ back, rest))
    (notInComment : ¬InComment front back) : spanIgnored false tail = (back, rest) := by
  have isGap : IsGap True front := by
    have passed := isGap_of_spanIgnored oneLine (spanIgnored_of_append spanned) (by rintro c ⟨⟩)
    exact passed.mono fun _ => trivial
  rcases isGap.closed_or_open with isClosed | ⟨gap, words, rfl, isClosed, allowed⟩
  · rw [isClosed.spanIgnored_append] at spanned
    obtain ⟨behindEq, restEq⟩ := Prod.mk.inj spanned
    exact Prod.ext (List.append_cancel_left behindEq) restEq
  · have opened : spanIgnored false ('#' :: (words ++ tail)) =
        ('#' :: (words ++ (spanIgnored true tail).1), (spanIgnored true tail).2) := by
      rw [spanIgnored]
      simp [spanIgnored_words allowed]
    rw [List.append_assoc, List.cons_append, isClosed.spanIgnored_append, opened] at spanned
    obtain ⟨behindEq, restEq⟩ := Prod.mk.inj spanned
    have backEq : (spanIgnored true tail).1 = back := by
      simpa using behindEq
    refine spanIgnored_false_of_true (Prod.ext backEq restEq) fun c isHead => ?_
    obtain ⟨more, backIs⟩ := List.head?_eq_some_iff.mp isHead
    by_contra notForbidden
    exact notInComment ⟨gap, words, c, more, rfl, isClosed, allowed, backIs,
      Bool.eq_false_iff.mpr notForbidden⟩

end Gaps

namespace Source

variable {source : Source} {start other place : Nat} {token : Token} {front back : List Char}
  {before after : List Token}

theorem scanText_congr {text otherText ignored otherIgnored rest : List Char}
    (spanned : spanIgnored false text = (ignored, rest))
    (otherSpanned : spanIgnored false otherText = (otherIgnored, rest))
    (samePlace : start + byteLength ignored = other + byteLength otherIgnored) :
    source.scanText start text = source.scanText other otherText := by
  simp only [scanText, spanned, otherSpanned, samePlace]

theorem start_of_scanText {text ignored rest : List Char}
    (spanned : spanIgnored false text = (ignored, rest))
    (read : source.scanText start text = .ok token) :
    token.start = start + byteLength ignored := by
  simp only [scanText, spanned] at read
  cases rest with
  | nil =>
      cases read
      rfl
  | cons c tail =>
      dsimp only at read
      split at read
      next =>
        cases read
        rfl
      next => cases read

/-- A token is read again from any place in the gap before it that is not inside a comment. -/
theorem tokenAt_of_parted (oneLine : '\r' ∉ source.body) (read : source.tokenAt start = .ok token)
    (frontSlice : source.IsSlice start place front)
    (backSlice : source.IsSlice place token.start back) (notInComment : ¬InComment front back) :
    source.tokenAt place = .ok token := by
  obtain ⟨before, behindFront, bodyEq, rfl, rfl⟩ := frontSlice
  obtain ⟨otherBefore, left, otherBodyEq, placeEq, startEq⟩ := backSlice
  obtain ⟨rfl, behindEq⟩ := append_inj_of_byteLength
    (bodyEq.symm.trans (otherBodyEq.trans (List.append_assoc ..))) placeEq
  subst behindEq
  rw [List.append_assoc] at bodyEq
  have frontOneLine : '\r' ∉ front := fun membership =>
    oneLine (bodyEq ▸ List.mem_append_right before (List.mem_append_left _ membership))
  rw [tokenAt_of_append bodyEq] at read
  obtain ⟨ignored, rest, spanned⟩ : ∃ ignored rest,
      spanIgnored false (front ++ (back ++ left)) = (ignored, rest) := ⟨_, _, rfl⟩
  have gapEq : front ++ back = ignored := by
    have appended := spanIgnored_append false (front ++ (back ++ left))
    rw [spanned] at appended
    have sameLength : byteLength ignored = byteLength (front ++ back) := by
      have counted := (start_of_scanText spanned read).symm.trans startEq
      simp only [byteLength_append] at counted ⊢
      omega
    exact (append_inj_of_byteLength (appended.trans (List.append_assoc ..).symm)
      sameLength).1.symm
  rw [← gapEq] at spanned
  have parted := spanIgnored_parted frontOneLine spanned notInComment
  rw [tokenAt_of_append (otherBodyEq.trans (List.append_assoc ..)), ← read]
  refine scanText_congr parted spanned ?_
  rw [byteLength_append, byteLength_append, Nat.add_assoc]

theorem Chain.of_tokenAt {tokens : List Token} {fault : Option SyntaxFault}
    (chain : source.Chain start (token :: tokens) fault)
    (read : source.tokenAt place = .ok token) : source.Chain place (token :: tokens) fault := by
  cases chain with
  | finish _ isEnd => exact .finish read isEnd
  | step _ notEnd rest => exact .step read notEnd rest

/-- Where the gap before a token begins: at the end of the token in front of it, if there is one. -/
def gapStart (before : List Token) : Nat :=
  (before.getLast?.map Token.stop).getD 0

theorem chain_gapStart (tokenized : source.tokens = .ok (before ++ token :: after)) :
    source.Chain (gapStart before) (token :: after) none := by
  have chain := source.chain_scan
  rw [scan_of_tokens tokenized] at chain
  refine chain.resume fun last isLast isEnd => ?_
  obtain ⟨others, beforeEq⟩ := List.getLast?_eq_some_iff.mp isLast
  subst beforeEq
  rw [List.append_assoc] at chain
  exact List.cons_ne_nil _ _ (chain.eof_last isEnd).1

theorem Chain.tokenAt {tokens : List Token} {fault : Option SyntaxFault}
    (chain : source.Chain start (token :: tokens) fault) : source.tokenAt start = .ok token := by
  cases chain with
  | finish read _ => exact read
  | step read _ _ => exact read

theorem mem_borders (source : Source) (start : Nat) (before after : List Token) (token : Token) :
    ((before.getLast?.map Token.stop).getD start, token.start) ∈
      source.borders start (before ++ token :: after) := by
  induction before generalizing start with
  | nil => exact List.mem_cons_self
  | cons first before inductionHypothesis =>
      have inRest := inductionHypothesis first.stop
      rw [List.getLast?_cons]
      cases lastEq : before.getLast? with
      | none =>
          rw [lastEq] at inRest
          exact List.mem_cons_of_mem _ inRest
      | some last =>
          rw [lastEq] at inRest
          exact List.mem_cons_of_mem _ inRest

theorem exists_gap (oneLine : '\r' ∉ source.body)
    (tokenized : source.tokens = .ok (before ++ token :: after)) :
    ∃ gap, source.IsSlice (gapStart before) token.start gap := by
  have laid := laid_of_tokens oneLine tokenized
  obtain ⟨gap, isSlice, _⟩ := laid.gap_isSlice _ (source.mem_borders 0 before after token)
  exact ⟨gap, isSlice⟩

theorem IsSlice.stop_isSlice {stop : Nat} {part : List Char}
    (isSlice : source.IsSlice start stop part) : source.IsSlice stop stop [] := by
  obtain ⟨before, after, bodyEq, _, stopEq⟩ := isSlice
  exact ⟨before ++ part, after, by rw [bodyEq, List.append_nil], stopEq, by
    rw [List.append_nil, stopEq]⟩

/-- A chain goes on in the same way from any place in the gap before one of its tokens. -/
theorem chain_of_parted (oneLine : '\r' ∉ source.body)
    (tokenized : source.tokens = .ok (before ++ token :: after))
    (frontSlice : source.IsSlice (gapStart before) place front)
    (backSlice : source.IsSlice place token.start back) (notInComment : ¬InComment front back) :
    source.tokenAt place = .ok token ∧ source.Chain place (token :: after) none := by
  have chain := chain_gapStart tokenized
  have read := tokenAt_of_parted oneLine chain.tokenAt frontSlice backSlice notInComment
  exact ⟨read, chain.of_tokenAt read⟩

end Source

/-- A text without carriage returns is read in the same way behind another such text: the same kinds
and values, or a fault of the same cause, all further on by the length of what stands in front.  In
a text of tokens each token, and the rest of the chain behind it, is read again from its own start
and from every place in the gap before it that is not inside a comment. -/
theorem lexing_is_local :
    (∀ (front text : String) (place : Nat) (rest : List Char), '\r' ∉ front.toList →
      '\r' ∉ text.toList → dropBytes place text.toList = some rest →
        (Source.ofString (front ++ text)).tokenAt (byteLength front.toList + place) =
          (Source.ofString (front ++ text)).shifted (byteLength front.toList)
            ((Source.ofString text).tokenAt place)) ∧
    ∀ (text : String) (before after : List Token) (token : Token),
      let source := Source.ofString text
      source.tokens = .ok (before ++ token :: after) →
        (source.tokenAt token.start = .ok token ∧
          source.Chain token.start (token :: after) none) ∧
        ∀ place front back, source.IsSlice (Source.gapStart before) place front →
          source.IsSlice place token.start back → ¬InComment front back →
            source.tokenAt place = .ok token ∧ source.Chain place (token :: after) none := by
  constructor
  · intro front text place rest frontOneLine textOneLine dropped
    have textBody : (Source.ofString text).body = text.toList :=
      normalizeLineEnds_of_oneLine textOneLine
    have bothOneLine : '\r' ∉ (front ++ text).toList := by
      rw [String.toList_append, List.mem_append, not_or]
      exact ⟨frontOneLine, textOneLine⟩
    have sourceEq : Source.ofString (front ++ text) =
        ⟨front.toList ++ (Source.ofString text).body⟩ := by
      rw [Source.ofString, normalizeLineEnds_of_oneLine bothOneLine, String.toList_append,
        textBody]
    rw [sourceEq]
    exact Source.tokenAt_append_left front.toList (by rw [textBody, dropped])
  · intro text before after token source tokenized
    have oneLine : '\r' ∉ source.body := return_not_mem_normalizeLineEnds text.toList
    refine ⟨?_, fun place front back => Source.chain_of_parted oneLine tokenized⟩
    obtain ⟨gap, isSlice⟩ := Source.exists_gap oneLine tokenized
    exact Source.chain_of_parted oneLine tokenized isSlice isSlice.stop_isSlice
      (by rintro ⟨_, _, _, _, _, _, _, ⟨⟩, _⟩)

/-- A fault behind a text that leaves a comment open, and a token read from the end of the comment
before it. -/
theorem lexing_is_local_commented :
    ('\r' ∉ "é#".toList ∧ '\r' ∉ "< 1.x".toList ∧
      dropBytes 1 "< 1.x".toList = some " 1.x".toList ∧
      (Source.ofString ("é#" ++ "< 1.x")).tokenAt (3 + 1) =
        .error ⟨.missingDigit (some 'x'), Source.ofString ("é#" ++ "< 1.x"), 4 + 3⟩) ∧
    (Source.ofString "< #é\n\t5").tokens =
        .ok ([⟨.lessThan, none, 0, 1⟩] ++ ⟨.int, some "5", 7, 8⟩ :: [.eof 8]) ∧
      (Source.ofString "< #é\n\t5").IsSlice 1 5 " #é".toList ∧
      (Source.ofString "< #é\n\t5").IsSlice 5 7 "\n\t".toList ∧
      ¬InComment " #é".toList "\n\t".toList ∧
      (Source.ofString "< #é\n\t5").tokenAt 5 = .ok ⟨.int, some "5", 7, 8⟩ ∧
      (Source.ofString "< #é\n\t5").Chain 5 [⟨.int, some "5", 7, 8⟩, .eof 8] none := by
  have frontOneLine : '\r' ∉ "é#".toList := by decide
  have textOneLine : '\r' ∉ "< 1.x".toList := by decide
  have dropped : dropBytes 1 "< 1.x".toList = some " 1.x".toList := by decide +kernel
  have faulty : (Source.ofString "< 1.x").tokenAt 1 =
      .error ⟨.missingDigit (some 'x'), Source.ofString "< 1.x", 4⟩ := by decide +kernel
  have tokenized : (Source.ofString "< #é\n\t5").tokens =
      .ok ([⟨.lessThan, none, 0, 1⟩] ++ ⟨.int, some "5", 7, 8⟩ :: [.eof 8]) := by
    decide +kernel
  have frontSlice : (Source.ofString "< #é\n\t5").IsSlice 1 5 " #é".toList :=
    ⟨['<'], ['\n', '\t', '5'], by decide +kernel⟩
  have backSlice : (Source.ofString "< #é\n\t5").IsSlice 5 7 "\n\t".toList :=
    ⟨['<', ' ', '#', 'é'], ['5'], by decide +kernel⟩
  have notInComment : ¬InComment " #é".toList "\n\t".toList := by
    rintro ⟨_, _, c, rest, _, _, _, backEq, allowed⟩
    cases backEq
    cases allowed
  have moved := lexing_is_local.1 "é#" "< 1.x" 1 _ frontOneLine textOneLine dropped
  rw [faulty] at moved
  obtain ⟨_, again⟩ := lexing_is_local.2 "< #é\n\t5" _ _ _ tokenized
  exact ⟨⟨frontOneLine, textOneLine, dropped, moved⟩, tokenized, frontSlice, backSlice,
    notInComment, again 5 _ _ frontSlice backSlice notInComment⟩

end QueryPlanner.Condition
