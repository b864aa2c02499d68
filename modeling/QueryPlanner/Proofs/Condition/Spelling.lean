import Mathlib.Data.List.Forall2
import QueryPlanner.Proofs.Condition.Chain

/-!
# Spellings of tokens

A text spells tokens if it is read as them whatever follows it, provided that this is nothing or
begins with a space.  Spellings with a space between them spell the tokens of both.
-/

namespace QueryPlanner.Condition

open QueryPlanner.Text

/-- A text is read as lexemes, with some text left behind them. -/
inductive Lexes : List Char → List Lexeme → List Char → Prop where
  | nil {text : List Char} : Lexes text [] text
  | cons {text ignored tail left rest : List Char} {c : Char} {lexeme : Lexeme}
      {lexemes : List Lexeme} (spanned : spanIgnored false text = (ignored, c :: tail))
      (read : readLexeme c tail = .ok lexeme) (front : c :: tail = lexeme.written ++ left)
      (behind : Lexes left lexemes rest) : Lexes text (lexeme :: lexemes) rest

theorem Lexes.append {text middle rest : List Char} {lexemes others : List Lexeme}
    (first : Lexes text lexemes middle) (second : Lexes middle others rest) :
    Lexes text (lexemes ++ others) rest := by
  induction first with
  | nil => exact second
  | cons spanned read front _ inductionHypothesis =>
      exact .cons spanned read front (inductionHypothesis second)

theorem Lexes.space {text rest : List Char} {lexemes : List Lexeme}
    (lexes : Lexes text lexemes rest) (nonempty : lexemes ≠ []) :
    Lexes (' ' :: text) lexemes rest := by
  cases lexes with
  | nil => exact absurd rfl nonempty
  | @cons _ ignored tail left _ c lexeme lexemes spanned read front behind =>
      have spannedSpace : spanIgnored false (' ' :: text) = (' ' :: ignored, c :: tail) := by
        simp [spanIgnored, isSpace, spanned]
      exact .cons spannedSpace read front behind

theorem spanIgnored_cons {c : Char} (notSpace : isSpace c = false) (notComment : c ≠ '#')
    (rest : List Char) : spanIgnored false (c :: rest) = ([], c :: rest) := by
  simp [spanIgnored, notSpace, notComment]

/-- A token has the kind and the value of a lexeme. -/
structure Carries (token : Token) (lexeme : Lexeme) : Prop where
  kind : token.kind = lexeme.kind
  value : token.value = lexeme.value.map String.ofList

/-- The tokens of a text that is read as lexemes begin every chain from its place on. -/
theorem Lexes.chain {text rest : List Char} {lexemes : List Lexeme} {source : Source} {start : Nat}
    (lexes : Lexes text lexemes rest) (dropped : dropBytes start source.body = some text) :
    ∃ tokens stop, List.Forall₂ Carries tokens lexemes ∧
      dropBytes stop source.body = some rest ∧
      ∀ more fault, source.Chain stop more fault → source.Chain start (tokens ++ more) fault := by
  -- The chain behind the lexemes is left open, so that the same tokens fit in front of any text.
  induction lexes generalizing start with
  | nil => exact ⟨[], start, .nil, dropped, fun _ _ chain => chain⟩
  | @cons text ignored tail left rest c lexeme lexemes spanned read front _
      inductionHypothesis =>
      have textEq : text = ignored ++ lexeme.written ++ left := by
        have appended := spanIgnored_append false text
        rw [spanned] at appended
        rw [List.append_assoc, ← front, ← appended]
      let position := start + byteLength ignored
      let token : Token := ⟨lexeme.kind, lexeme.value.map String.ofList, position,
        position + byteLength lexeme.written⟩
      have tokenRead : source.tokenAt start = .ok token := by
        simp only [Source.tokenAt, dropped, Source.scanText, spanned, read]
        rfl
      have leftDropped : dropBytes token.stop source.body = some left := by
        have counted : token.stop = start + byteLength (ignored ++ lexeme.written) := by
          rw [byteLength_append, ← Nat.add_assoc]
        rw [counted, dropBytes_add dropped, textEq]
        exact dropBytes_byteLength_append _ left
      obtain ⟨tokens, stop, carried, stopDropped, chains⟩ := inductionHypothesis leftDropped
      refine ⟨token :: tokens, stop, .cons ⟨rfl, rfl⟩ carried, stopDropped, ?_⟩
      exact fun more fault chain =>
        .step tokenRead (readLexeme_ok read).2.2 (chains more fault chain)

/-- The scan of a source whose text is read as lexemes up to what is ignored at its end. -/
theorem Lexes.scan {source : Source} {lexemes : List Lexeme} {left ignored : List Char}
    (lexes : Lexes source.body lexemes left) (spanned : spanIgnored false left = (ignored, [])) :
    ∃ tokens position, List.Forall₂ Carries tokens lexemes ∧
      source.scan = (tokens ++ [.eof position], none) := by
  have dropped : dropBytes 0 source.body = some source.body := by rw [dropBytes]
  obtain ⟨tokens, stop, carried, stopDropped, chains⟩ := lexes.chain dropped
  have atEnd : source.tokenAt stop = .ok (.eof (stop + byteLength ignored)) := by
    simp only [Source.tokenAt, stopDropped, Source.scanText, spanned]
  have same := source.chain_scan.unique (chains _ _ (.finish atEnd rfl))
  exact ⟨tokens, stop + byteLength ignored, carried, Prod.ext same.1 same.2⟩

/-- Nothing, or a text that begins with a space. -/
def Separated (rest : List Char) : Prop :=
  rest = [] ∨ ∃ tail, rest = ' ' :: tail

/-- A text is read as tokens of a kind, whatever comes behind it at a distance. -/
structure Spells (text : List Char) (means : List Token → Prop) : Prop where
  oneLine : '\r' ∉ text
  lexes : ∀ rest, Separated rest → ∃ lexemes, lexemes ≠ [] ∧ Lexes (text ++ rest) lexemes rest ∧
    ∀ tokens, List.Forall₂ Carries tokens lexemes → means tokens

namespace Spells

variable {text other : List Char} {means meansOther : List Token → Prop}

theorem mono (spells : Spells text means) (implies : ∀ tokens, means tokens → meansOther tokens) :
    Spells text meansOther := by
  refine ⟨spells.oneLine, fun rest separated => ?_⟩
  obtain ⟨lexemes, nonempty, lexes, carried⟩ := spells.lexes rest separated
  exact ⟨lexemes, nonempty, lexes, fun tokens carries => implies tokens (carried tokens carries)⟩

theorem append (first : Spells text means) (second : Spells other meansOther) :
    Spells (text ++ ' ' :: other) fun tokens =>
      ∃ front back, tokens = front ++ back ∧ means front ∧ meansOther back := by
  refine ⟨by simp [first.oneLine, second.oneLine], fun rest separated => ?_⟩
  obtain ⟨back, backNonempty, backLexes, backCarried⟩ := second.lexes rest separated
  obtain ⟨front, frontNonempty, frontLexes, frontCarried⟩ :=
    first.lexes (' ' :: (other ++ rest)) (.inr ⟨_, rfl⟩)
  refine ⟨front ++ back, by simp [frontNonempty], ?_, fun tokens carries => ?_⟩
  · rw [List.append_assoc, List.cons_append]
    exact frontLexes.append (backLexes.space backNonempty)
  · exact ⟨tokens.take front.length, tokens.drop front.length, (List.take_append_drop ..).symm,
      frontCarried _ (List.forall₂_take_append _ _ _ carries),
      backCarried _ (List.forall₂_drop_append _ _ _ carries)⟩

theorem single (kind : TokenKind) (value : Option (List Char)) (oneLine : '\r' ∉ text)
    (reads : ∀ rest, Separated rest → ∃ c tail, text = c :: tail ∧ isSpace c = false ∧ c ≠ '#' ∧
      readLexeme c (tail ++ rest) = .ok ⟨kind, text, value⟩) :
    Spells text fun tokens => ∃ token, tokens = [token] ∧ token.kind = kind ∧
      token.value = value.map String.ofList := by
  refine ⟨oneLine, fun rest separated => ?_⟩
  obtain ⟨c, tail, rfl, notSpace, notComment, read⟩ := reads rest separated
  refine ⟨[⟨kind, c :: tail, value⟩], by simp, ?_, fun tokens carries => ?_⟩
  · exact .cons (spanIgnored_cons notSpace notComment _) read rfl .nil
  · cases carries with
    | cons carried none =>
        cases none
        exact ⟨_, rfl, carried.kind, carried.value⟩

theorem cons (kind : TokenKind) {c : Char} (other : c ≠ '\r') (notSpace : isSpace c = false)
    (notComment : c ≠ '#') (reads : ∀ rest, readLexeme c rest = .ok ⟨kind, [c], none⟩)
    (spells : Spells text means) :
    Spells (c :: text) fun tokens => ∃ token behind, tokens = token :: behind ∧
      token.kind = kind ∧ means behind := by
  refine ⟨by simp [spells.oneLine, Ne.symm other], fun rest separated => ?_⟩
  obtain ⟨lexemes, _, lexes, carried⟩ := spells.lexes rest separated
  refine ⟨⟨kind, [c], none⟩ :: lexemes, by simp, ?_, fun tokens carries => ?_⟩
  · exact .cons (spanIgnored_cons notSpace notComment _) (reads _) rfl lexes
  · cases carries with
    | cons first behind => exact ⟨_, _, rfl, first.kind, carried _ behind⟩

end Spells

end QueryPlanner.Condition
