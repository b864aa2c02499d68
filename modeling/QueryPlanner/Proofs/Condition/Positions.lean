import QueryPlanner.Proofs.Condition.Offsets
import QueryPlanner.Proofs.Condition.Tiling

/-!
# Positions of faults

Lexing may begin at any offset and never cuts the text where it cannot be cut.  A fault lies between
the offset at which reading began and the end of the text, in front of a character or at the end,
and its line and column tell where.
-/

namespace QueryPlanner.Condition

open QueryPlanner.Text

variable {source : Source} {start : Nat} {text : List Char} {fault : SyntaxFault}

theorem gap_of_quote (oneLine : '\r' ∉ source.body)
    (dropped : dropBytes start source.body = some text) {gap tail : List Char} {quote : Char}
    (spanned : spanIgnored false text = (gap, quote :: tail)) (isQuote : IsQuote quote) :
    source.IsSlice start (start + byteLength gap) gap ∧ IsGap False gap := by
  obtain ⟨before, bodyEq, startEq⟩ := dropBytes_eq_some_iff.mp dropped
  have textEq : gap ++ quote :: tail = text := by
    have appended := spanIgnored_append false text
    rwa [spanned] at appended
  constructor
  · refine ⟨before, quote :: tail, ?_, startEq, ?_⟩
    · rw [bodyEq, List.append_assoc, textEq]
    · rw [byteLength_append, startEq]
  · have textOneLine : '\r' ∉ text := fun member =>
      oneLine (bodyEq ▸ List.mem_append_right before member)
    have allowed : ∀ c ∈ (quote :: tail).head?, isForbidden c = false := by
      rintro c ⟨⟩
      rcases isQuote with rfl | rfl <;> decide
    exact (isGap_of_spanIgnored textOneLine spanned allowed).mono
      fun atEnd => absurd atEnd (List.cons_ne_nil quote tail)

/-- A fault lies in front of a part of the text that is read.  If a string is not closed, it lies at
the first quote behind space and comments. -/
theorem tokenAt_error (oneLine : '\r' ∉ source.body)
    (dropped : dropBytes start source.body = some text)
    (failed : source.tokenAt start = .error fault) :
    fault.source = source ∧ start ≤ fault.offset ∧
      ∃ left, dropBytes fault.offset source.body = some left ∧
        (fault.cause = .unterminatedString →
          ∃ gap quote more, source.IsSlice start fault.offset gap ∧ IsGap False gap ∧
            left = quote :: more ∧ IsQuote quote) := by
  cases spanned : (spanIgnored false text).2 with
  | nil =>
      simp only [Source.tokenAt, dropped, Source.scanText, spanned] at failed
      cases failed
  | cons c tail =>
      obtain ⟨behind, tokenEq⟩ := tokenAt_of_cons dropped spanned
      rw [tokenEq] at failed
      cases read : readLexeme c tail with
      | ok lexeme =>
          rw [read] at failed
          cases failed
      | error misread =>
          rw [read] at failed
          cases failed
          obtain ⟨front, sameText, atQuote⟩ := readLexeme_error read
          have placed := dropBytes_past (sameText ▸ behind)
          dsimp only
          rw [size_sub placed]
          refine ⟨rfl, by omega, misread.left, placed, fun unterminated => ?_⟩
          obtain ⟨rfl, isQuote⟩ := atQuote unterminated
          obtain ⟨gapSlice, isGap⟩ := gap_of_quote oneLine dropped (Prod.ext rfl spanned) isQuote
          exact ⟨_, c, tail, gapSlice, isGap, sameText.symm, isQuote⟩

/-- Read by its bytes, from whatever offset, a text is never cut past its end or inside a character,
and the outcome is the same.  An offset past the end or inside a character is the end of the text.
From any other offset on, a fault lies there or behind it, not past the end and not inside a
character; a string that is not closed is a fault at its opening quote.  The line of a fault is one
more than the line feeds before it, and its column one more than the characters since the last of
them, so that no two places have the same line and column. -/
theorem faults_have_positions (text : String) :
    let source := Source.ofString text
    (∀ start, lexAt source start = some (source.tokenAt start) ∧
      (dropBytes start source.body = none → source.tokenAt start = .ok (.eof start))) ∧
    (∀ start rest fault, dropBytes start source.body = some rest →
      source.tokenAt start = .error fault →
        fault.source = source ∧ start ≤ fault.offset ∧ fault.offset ≤ source.size ∧
          ∃ front left, source.body = front ++ left ∧ fault.offset = byteLength front ∧
            (fault.cause = .unterminatedString →
              ∃ gap quote more, source.IsSlice start fault.offset gap ∧ IsGap False gap ∧
                left = quote :: more ∧ IsQuote quote) ∧
            positionAt? source.body fault.offset = some (fault.line, fault.column) ∧
            fault.line = front.count '\n' + 1 ∧
            ∀ lines last, front = lines ++ last → (∀ c ∈ lines.getLast?, c = '\n') →
              '\n' ∉ last → fault.column = last.length + 1) ∧
    ∀ offset other rest otherRest, dropBytes offset source.body = some rest →
      dropBytes other source.body = some otherRest →
        positionAt? source.body offset = positionAt? source.body other → offset = other := by
  intro source
  have oneLine : '\r' ∉ source.body := return_not_mem_normalizeLineEnds text.toList
  refine ⟨fun start => ⟨lexAt_eq source start, fun dropped => ?_⟩, ?_, ?_⟩
  · rw [Source.tokenAt, dropped]
  · intro start rest fault dropped failed
    obtain ⟨sourceEq, behind, left, placed, atQuote⟩ := tokenAt_error oneLine dropped failed
    obtain ⟨front, bodyEq, offsetEq⟩ := dropBytes_eq_some_iff.mp placed
    have before : takeBytes fault.offset source.body = front := by
      rw [bodyEq, offsetEq, takeBytes_byteLength_append]
    have inText : fault.offset ≤ source.size := by
      rw [offsetEq, Source.size, bodyEq, byteLength_append]
      exact Nat.le_add_right _ _
    refine ⟨sourceEq, behind, inText, front, left, bodyEq, offsetEq, atQuote, ?_, ?_, ?_⟩
    · rw [positionAt?_eq, SyntaxFault.line, SyntaxFault.column, sourceEq]
    · rw [SyntaxFault.line, lineAt, sourceEq, before]
    · intro lines last frontEq begins noFeed
      rw [SyntaxFault.column, columnAt, sourceEq, before, frontEq, length_lastLine noFeed begins]
  · intro offset other rest otherRest dropped otherDropped same
    obtain ⟨front, bodyEq, rfl⟩ := dropBytes_eq_some_iff.mp dropped
    obtain ⟨otherFront, otherBodyEq, rfl⟩ := dropBytes_eq_some_iff.mp otherDropped
    have before : takeBytes (byteLength front) source.body = front := by
      rw [bodyEq, takeBytes_byteLength_append]
    have otherBefore : takeBytes (byteLength otherFront) source.body = otherFront := by
      rw [otherBodyEq, takeBytes_byteLength_append]
    rw [positionAt?_eq, positionAt?_eq, Option.some.injEq, Prod.mk.injEq] at same
    simp only [lineAt, columnAt, before, otherBefore, Nat.add_right_cancel_iff] at same
    rw [eq_of_position_eq (bodyEq.symm.trans otherBodyEq) same.1 same.2]

/-- A string that is not closed on the third line, behind a comment and characters of two bytes. -/
theorem faults_have_positions_unclosed :
    let source := Source.ofString "é\r\n#ü\r  'ab"
    let fault : SyntaxFault := ⟨.unterminatedString, source, 9⟩
    (dropBytes 1 source.body = none ∧ lexAt source 1 = some (.ok (.eof 1))) ∧
      dropBytes 2 source.body = some "\n#ü\n  'ab".toList ∧
      lexAt source 2 = some (.error fault) ∧
      positionAt? source.body 9 = some (3, 3) ∧
      dropBytes 9 source.body = some "'ab".toList ∧
      ∀ other rest, dropBytes other source.body = some rest →
        positionAt? source.body other = some (3, 3) → 9 = other := by
  intro source fault
  obtain ⟨outcomes, faults, places⟩ := faults_have_positions "é\r\n#ü\r  'ab"
  have inside : dropBytes 1 source.body = none := by decide +kernel
  have dropped : dropBytes 2 source.body = some "\n#ü\n  'ab".toList := by decide +kernel
  have failed : source.tokenAt 2 = .error fault := by decide +kernel
  have atQuote : dropBytes 9 source.body = some "'ab".toList := by decide +kernel
  obtain ⟨_, _, _, _, _, _, _, _, position, _⟩ := faults 2 _ fault dropped failed
  have lineEq : (fault.line, fault.column) = (3, 3) := by decide +kernel
  rw [lineEq] at position
  refine ⟨⟨inside, ?_⟩, dropped, ?_, position, atQuote, fun other rest otherDropped same => ?_⟩
  · rw [(outcomes 1).1, (outcomes 1).2 inside]
  · rw [(outcomes 2).1, failed]
  · exact places 9 other _ rest atQuote otherDropped (position.trans same.symm)

end QueryPlanner.Condition
