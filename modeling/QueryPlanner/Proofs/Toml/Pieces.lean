import QueryPlanner.Proofs.Condition.Quotation
import QueryPlanner.Toml.Strings
import QueryPlanner.Toml.Writer

/-!
# What stands between quotes

Between double quotes a text is a row of pieces, each of which stands for one character: the
character itself, or an escape by a letter or by its code point.  In three quotes up to two quotes
in a row may stand for themselves, since three of them end the string.  The readers of all four
kinds of strings give the text that was written.
-/

namespace QueryPlanner.Toml

open QueryPlanner.Text
open QueryPlanner.Condition (IsCodeUnit isCodeUnit_upperHex readCodeUnit?_eq_some_iff)

/-- The letters behind a backslash and the characters that they stand for. -/
def letterMarks : List (Char × Char) := [
  ('b', '\x08'), ('t', '\t'), ('n', '\n'), ('f', '\x0C'), ('r', '\r'), ('"', '"'), ('\\', '\\')]

/-- What stands for a character between double quotes.  Only a string of many lines has line ends
of its own. -/
inductive IsPiece (manyLines : Bool) : List Char → Char → Prop where
  | plain {c : Char} (notQuote : c ≠ '"') (notBackslash : c ≠ '\\') (allowed : isPlain c = true) :
      IsPiece manyLines [c] c
  | lineEnd (inLines : manyLines = true) : IsPiece manyLines ['\n'] '\n'
  | letter {mark c : Char} (listed : (mark, c) ∈ letterMarks) : IsPiece manyLines ['\\', mark] c
  | unit {digits : List Char} {c : Char} (names : IsCodeUnit digits c.toNat) :
      IsPiece manyLines ('\\' :: 'u' :: digits) c

/-- No more than some number of quotes stand at the front of a text. -/
def LeadsWithin (quote : Char) (most : Nat) (text : List Char) : Prop :=
  (text.takeWhile (· = quote)).length ≤ most

variable {manyLines : Bool} {c quote mark : Char} {text written rest : List Char}
  {allowed run bound most : Nat}

theorem isPlain_eq_true (noEscape : needsEscape c = false) (notLineEnd : c ≠ '\n') :
    isPlain c = true := by
  simp only [needsEscape, Bool.or_eq_false_iff, Bool.and_eq_false_iff, decide_eq_false_iff_not,
    Nat.not_lt, Decidable.not_not] at noEscape
  have notDelete : c.toNat ≠ 0x7F := by
    intro isDelete
    exact noEscape.2 (Char.toNat_inj.mp isDelete)
  rcases noEscape.1 with (visible | isTab) | isLineEnd
  · simp [isPlain, visible, notDelete]
  · simp [isPlain, isTab]
  · exact absurd isLineEnd notLineEnd

section Pieces

theorem unescape?_letter (listed : (mark, c) ∈ letterMarks) :
    unescape? (mark :: rest) = some (c, rest) := by
  simp only [letterMarks, List.mem_cons, Prod.mk.injEq, List.not_mem_nil, or_false] at listed
  rcases listed with ⟨rfl, rfl⟩ | ⟨rfl, rfl⟩ | ⟨rfl, rfl⟩ | ⟨rfl, rfl⟩ | ⟨rfl, rfl⟩ | ⟨rfl, rfl⟩ |
    ⟨rfl, rfl⟩ <;> rfl

theorem unescape?_unit {digits : List Char} (names : IsCodeUnit digits c.toNat) :
    unescape? ('u' :: digits ++ rest) = some (c, rest) := by
  have read : readCodeUnit? (digits ++ rest) = some (c.toNat, rest) :=
    readCodeUnit?_eq_some_iff.mpr ⟨digits, rfl, names⟩
  have isScalar : scalar? c.toNat = some c := by
    have isValid : c.toNat.isValidChar := c.valid
    rw [scalar?, if_pos isValid, Char.ofNat_toNat]
  simp [unescape?, read, isScalar]

theorem IsPiece.cases_front (piece : IsPiece manyLines written c) :
    (written = [c] ∧ c ≠ '"' ∧ c ≠ '\\' ∧ (isPlain c = true ∨ manyLines = true ∧ c = '\n')) ∨
      ∃ mark tail, written = '\\' :: mark :: tail ∧ mark ∉ [' ', '\t', '\n'] ∧
        ∀ rest, unescape? (mark :: tail ++ rest) = some (c, rest) := by
  cases piece with
  | plain notQuote notBackslash allowed => exact .inl ⟨rfl, notQuote, notBackslash, .inl allowed⟩
  | lineEnd inLines => exact .inl ⟨rfl, by decide, by decide, .inr ⟨inLines, rfl⟩⟩
  | @letter mark _ listed =>
      refine .inr ⟨mark, [], rfl, ?_, fun rest => unescape?_letter listed⟩
      have noneHides : ∀ entry ∈ letterMarks, entry.1 ∉ [' ', '\t', '\n'] := by decide
      exact noneHides (mark, c) listed
  | @unit digits _ names =>
      exact .inr ⟨'u', digits, rfl, by decide, fun rest => unescape?_unit names⟩

theorem IsPiece.front_ne (piece : IsPiece manyLines written c) :
    ∃ front tail, written = front :: tail ∧ front ≠ '"' := by
  rcases piece.cases_front with ⟨rfl, notQuote, _⟩ | ⟨mark, tail, rfl, _⟩
  · exact ⟨c, [], rfl, notQuote⟩
  · exact ⟨'\\', mark :: tail, rfl, by decide⟩

theorem IsPiece.no_return (piece : IsPiece manyLines written c) : '\r' ∉ written := by
  cases piece with
  | plain _ _ allowed =>
      rw [List.mem_singleton]
      rintro rfl
      exact absurd allowed (by decide)
  | lineEnd _ => decide
  | letter listed =>
      have noneReturns : ∀ entry ∈ letterMarks, '\r' ∉ ['\\', entry.1] := by decide
      exact noneReturns _ listed
  | unit names =>
      intro isMember
      simp only [List.mem_cons, Char.reduceEq, false_or] at isMember
      exact absurd (names.allowed _ isMember) (by decide)

theorem isPiece_escapedChar (notQuote : c ≠ '"') :
    IsPiece manyLines (escapedChar manyLines c) c := by
  have letterPiece (mark : Char) (listed : (mark, c) ∈ letterMarks) :
      IsPiece manyLines ['\\', mark] c := .letter listed
  unfold escapedChar
  split
  next same => exact letterPiece 'b' (by subst same; decide)
  next =>
  split
  next same => exact letterPiece 't' (by subst same; decide)
  next =>
  split
  next same =>
    subst same
    split
    next inLines => exact .lineEnd inLines
    next => exact letterPiece 'n' (by decide)
  next notLineEnd =>
  split
  next same => exact letterPiece 'f' (by subst same; decide)
  next =>
  split
  next same => exact letterPiece 'r' (by subst same; decide)
  next =>
  split
  next same => exact letterPiece '\\' (by subst same; decide)
  next notBackslash =>
  split
  next control =>
    refine .unit (isCodeUnit_upperHex ?_)
    rcases control with control | rfl
    · exact Nat.lt_trans control (by decide)
    · decide
  next visible =>
    refine .plain notQuote notBackslash (isPlain_eq_true ?_ notLineEnd)
    simp_all [needsEscape]

theorem escaped_cons_cases (manyLines : Bool) (allowed run : Nat) (c : Char) (rest : List Char) :
    (c = '"' ∧ run < allowed ∧ escaped manyLines allowed run (c :: rest) =
      '"' :: escaped manyLines allowed (run + 1) rest) ∨
    ∃ written, IsPiece manyLines written c ∧ escaped manyLines allowed run (c :: rest) =
      written ++ escaped manyLines allowed 0 rest := by
  rw [escaped]
  split
  next isQuote =>
    split
    next few => exact .inl ⟨isQuote, few, rfl⟩
    next => exact .inr ⟨['\\', '"'], .letter (by subst isQuote; decide), rfl⟩
  next notQuote => exact .inr ⟨_, isPiece_escapedChar notQuote, rfl⟩

theorem escaped_no_return : '\r' ∉ escaped manyLines allowed run text := by
  induction text generalizing run with
  | nil => exact List.not_mem_nil
  | cons c text inductionHypothesis =>
      rcases escaped_cons_cases manyLines allowed run c text with
        ⟨_, _, equation⟩ | ⟨written, piece, equation⟩
      · rw [equation, List.mem_cons, not_or]
        exact ⟨by decide, inductionHypothesis⟩
      · rw [equation, List.mem_append, not_or]
        exact ⟨piece.no_return, inductionHypothesis⟩

end Pieces

section Basic

theorem readBasic?_piece (piece : IsPiece false written c) :
    readBasic? (bound + 1) (written ++ rest) =
      (readBasic? bound rest).map fun (value, rest) => (c :: value, rest) := by
  rcases piece.cases_front with
    ⟨rfl, notQuote, notBackslash, allowed⟩ | ⟨mark, tail, rfl, _, decodes⟩
  · have isPlain : isPlain c = true := by simpa using allowed
    simp only [List.cons_append, List.nil_append, readBasic?, if_neg notQuote, if_neg notBackslash,
      if_pos isPlain]
    cases readBasic? bound rest <;> rfl
  · have decoded : unescape? (mark :: (tail ++ rest)) = some (c, rest) := decodes rest
    rw [List.cons_append, List.cons_append, readBasic?, if_neg (by decide), if_pos rfl, decoded]
    change (do let (value, rest) ← readBasic? bound rest; return (c :: value, rest)) = _
    cases readBasic? bound rest <;> rfl

theorem readBasic?_escaped (enough : (escaped false 0 0 text).length < bound) :
    readBasic? bound (escaped false 0 0 text ++ '"' :: rest) = some (text, rest) := by
  induction text generalizing bound with
  | nil =>
      obtain ⟨bound, rfl⟩ := Nat.exists_eq_add_one_of_ne_zero (Nat.ne_zero_of_lt enough)
      rfl
  | cons c text inductionHypothesis =>
      rcases escaped_cons_cases false 0 0 c text with ⟨_, few, _⟩ | ⟨written, piece, equation⟩
      · exact absurd few (Nat.lt_irrefl 0)
      · obtain ⟨front, tail, rfl, _⟩ := piece.front_ne
        rw [equation, List.length_append, List.length_cons] at enough
        obtain ⟨bound, rfl⟩ := Nat.exists_eq_add_one_of_ne_zero (Nat.ne_zero_of_lt enough)
        rw [equation, List.append_assoc, readBasic?_piece piece, inductionHypothesis (by omega)]
        rfl

/-- A string of one line in single quotes holds what stands between them. -/
theorem readLiteral?_literal (allowed : ∀ c ∈ text, isPlain c = true ∧ c ≠ '\'') :
    readLiteral? (text ++ '\'' :: rest) = some (text, rest) := by
  have taken : (text ++ '\'' :: rest).takeWhile (fun c => isPlain c && c ≠ '\'') = text := by
    rw [List.takeWhile_append_of_pos (by simpa using allowed)]
    simp
  simp only [readLiteral?, taken, List.drop_left]

end Basic

section Lines

theorem closeLines?_replicate {count : Nat} (few : count ≤ 2) (stops : rest.head? ≠ some quote) :
    closeLines? quote (List.replicate count quote ++ [quote, quote, quote] ++ rest) =
      some (List.replicate count quote, rest) := by
  have stopsAt : rest.takeWhile (· = quote) = [] := by
    cases rest with
    | nil => rfl
    | cons c rest => simp_all
  have areQuotes : ∀ c ∈ List.replicate count quote ++ [quote, quote, quote],
      decide (c = quote) = true := by
    intro c isMember
    rcases List.mem_append.mp isMember with isBefore | isLast
    · exact decide_eq_true (List.eq_of_mem_replicate isBefore)
    · simpa using isLast
  have run : ((List.replicate count quote ++ [quote, quote, quote] ++ rest).takeWhile
      (· = quote)).length = count + 3 := by
    rw [List.takeWhile_append_of_pos areQuotes]
    simp [stopsAt]
  have kept : min (count + 3 - 3) 2 = count := by omega
  unfold closeLines?
  simp only [run, kept]
  rw [if_pos (Nat.le_add_left 3 _)]
  simp [List.drop_append]

/-- Quotes behind the content of a string close it where nothing but quotes is left of the content,
and not before. -/
theorem closeLines?_append (leads : LeadsWithin quote 2 text) (stops : rest.head? ≠ some quote) :
    (∀ c ∈ text, c = quote) ∧
        closeLines? quote (text ++ [quote, quote, quote] ++ rest) = some (text, rest) ∨
      text ≠ [] ∧ closeLines? quote (text ++ [quote, quote, quote] ++ rest) = none := by
  unfold LeadsWithin at leads
  by_cases allQuotes : text.takeWhile (· = quote) = text
  · left
    have areQuotes : ∀ c ∈ text, c = quote := by
      intro c isMember
      rw [← allQuotes] at isMember
      exact of_decide_eq_true (List.all_eq_true.mp List.all_takeWhile c isMember)
    rw [allQuotes] at leads
    refine ⟨areQuotes, ?_⟩
    rw [List.eq_replicate_of_mem areQuotes]
    exact closeLines?_replicate leads stops
  · right
    have shorter : (text.takeWhile (· = quote)).length ≠ text.length := by
      intro same
      exact allQuotes ((List.takeWhile_prefix _).eq_of_length same)
    constructor
    · rintro rfl
      exact shorter rfl
    · unfold closeLines?
      simp only [List.append_assoc, List.takeWhile_append, if_neg shorter]
      rw [if_neg (by omega)]

theorem readLiteralLines?_of_closed {found : List Char × List Char}
    (closed : closeLines? '\'' text = some found) :
    readLiteralLines? (bound + 1) text = some found := by
  cases text <;> simp [readLiteralLines?, closed]

theorem readBasicLines?_of_closed {found : List Char × List Char}
    (closed : closeLines? '"' text = some found) :
    readBasicLines? (bound + 1) text = some found := by
  cases text <;> simp [readBasicLines?, closed]

theorem longestRun_mono {less more : Nat} (le : less ≤ more) :
    longestRun quote less text ≤ longestRun quote more text := by
  induction text generalizing less more with
  | nil => exact le
  | cons c text inductionHypothesis =>
      simp only [longestRun]
      split
      next => exact inductionHypothesis (Nat.succ_le_succ le)
      next => exact Nat.max_le.mpr ⟨Nat.le_trans le (Nat.le_max_left _ _), Nat.le_max_right _ _⟩

theorem longestRun_rest_le : longestRun quote 0 text ≤ longestRun quote run (c :: text) := by
  rw [longestRun]
  split
  next => exact longestRun_mono (Nat.zero_le _)
  next => exact Nat.le_max_right _ _

theorem length_takeWhile_le_longestRun (quote : Char) (run : Nat) (text : List Char) :
    run + (text.takeWhile (· = quote)).length ≤ longestRun quote run text := by
  induction text generalizing run with
  | nil => exact Nat.le_refl run
  | cons c text inductionHypothesis =>
      rw [longestRun, List.takeWhile_cons]
      by_cases same : c = quote
      · have further := inductionHypothesis (run + 1)
        simp only [same, decide_true, if_true, List.length_cons]
        omega
      · simp only [same, decide_false, Bool.false_eq_true, if_false, List.length_nil, Nat.add_zero]
        exact Nat.le_max_left _ _

theorem leadsWithin_of_longestRun (short : longestRun quote 0 text ≤ most) :
    LeadsWithin quote most text := by
  have leads := length_takeWhile_le_longestRun quote 0 text
  rw [Nat.zero_add] at leads
  exact Nat.le_trans leads short

theorem ne_of_longestRun_zero (short : longestRun quote 0 text = 0) : ∀ c ∈ text, c ≠ quote := by
  induction text with
  | nil => simp
  | cons c text inductionHypothesis =>
      have restShort : longestRun quote 0 text = 0 :=
        Nat.eq_zero_of_le_zero (Nat.le_trans longestRun_rest_le (Nat.le_of_eq short))
      have leads := leadsWithin_of_longestRun (Nat.le_of_eq short)
      refine List.forall_mem_cons.mpr ⟨?_, inductionHypothesis restShort⟩
      rintro rfl
      simp [LeadsWithin] at leads

theorem readLiteralLines?_literal (short : longestRun '\'' 0 text ≤ 2)
    (allowed : ∀ c ∈ text, c = '\n' ∨ isPlain c = true) (stops : rest.head? ≠ some '\'')
    (enough : text.length < bound) :
    readLiteralLines? bound (text ++ ['\'', '\'', '\''] ++ rest) = some (text, rest) := by
  induction text generalizing bound with
  | nil =>
      obtain ⟨bound, rfl⟩ := Nat.exists_eq_add_one_of_ne_zero (Nat.ne_zero_of_lt enough)
      rcases closeLines?_append (leadsWithin_of_longestRun short) stops with
        ⟨_, closed⟩ | ⟨nonempty, _⟩
      · exact readLiteralLines?_of_closed closed
      · exact absurd rfl nonempty
  | cons c text inductionHypothesis =>
      obtain ⟨bound, rfl⟩ := Nat.exists_eq_add_one_of_ne_zero (Nat.ne_zero_of_lt enough)
      rcases closeLines?_append (leadsWithin_of_longestRun short) stops with
        ⟨_, closed⟩ | ⟨_, notClosed⟩
      · exact readLiteralLines?_of_closed closed
      · obtain ⟨cAllowed, restAllowed⟩ := List.forall_mem_cons.mp allowed
        have restRead := inductionHypothesis (Nat.le_trans longestRun_rest_le short) restAllowed
          (Nat.lt_of_succ_lt_succ enough)
        rw [List.cons_append, List.cons_append] at notClosed ⊢
        rw [readLiteralLines?, notClosed]
        simp only [if_pos cAllowed, restRead]
        rfl

/-- Of the quotes that stand for themselves, no more are at the front than may follow. -/
theorem leadsWithin_escaped (few : run ≤ allowed) :
    LeadsWithin '"' (allowed - run) (escaped manyLines allowed run text) := by
  induction text generalizing run with
  | nil => exact Nat.zero_le _
  | cons c text inductionHypothesis =>
      rcases escaped_cons_cases manyLines allowed run c text with
        ⟨_, less, equation⟩ | ⟨written, piece, equation⟩
      · have further : LeadsWithin '"' (allowed - (run + 1))
            (escaped manyLines allowed (run + 1) text) :=
          inductionHypothesis less
        rw [LeadsWithin] at further
        rw [equation, LeadsWithin, List.takeWhile_cons]
        simp only [decide_true, if_true, List.length_cons]
        omega
      · obtain ⟨front, tail, rfl, notQuote⟩ := piece.front_ne
        rw [equation, LeadsWithin]
        simp [notQuote]

/-- Where nothing but quotes is written, they all stand for themselves. -/
theorem eq_of_escaped_quotes
    (quotes : ∀ c ∈ escaped manyLines allowed run text, c = '"') :
    escaped manyLines allowed run text = text := by
  induction text generalizing run with
  | nil => rfl
  | cons c text inductionHypothesis =>
      rcases escaped_cons_cases manyLines allowed run c text with
        ⟨rfl, _, equation⟩ | ⟨written, piece, equation⟩
      · rw [equation, List.forall_mem_cons] at quotes
        rw [equation, inductionHypothesis quotes.2]
      · obtain ⟨front, tail, rfl, notQuote⟩ := piece.front_ne
        rw [equation] at quotes
        exact absurd (quotes front (by simp)) notQuote

theorem readBasicLines?_self (notClosed : closeLines? '"' (c :: rest) = none)
    (notBackslash : c ≠ '\\') (allowed : c = '\n' ∨ isPlain c = true) :
    readBasicLines? (bound + 1) (c :: rest) =
      (readBasicLines? bound rest).map fun (value, rest) => (c :: value, rest) := by
  rw [readBasicLines?, notClosed]
  simp only [if_neg notBackslash, if_pos allowed]
  change (do let (value, rest) ← readBasicLines? bound rest; return (c :: value, rest)) = _
  cases readBasicLines? bound rest <;> rfl

theorem readBasicLines?_piece (piece : IsPiece true written c) :
    readBasicLines? (bound + 1) (written ++ rest) =
      (readBasicLines? bound rest).map fun (value, rest) => (c :: value, rest) := by
  have notClosed : closeLines? '"' (written ++ rest) = none := by
    obtain ⟨front, tail, rfl, notQuote⟩ := piece.front_ne
    simp [closeLines?, notQuote]
  rcases piece.cases_front with
    ⟨rfl, _, notBackslash, allowed⟩ | ⟨mark, tail, rfl, notBlank, decodes⟩
  · refine readBasicLines?_self notClosed notBackslash ?_
    rcases allowed with isPlain | isLineEnd
    · exact .inr isPlain
    · exact .inl isLineEnd.2
  · have decoded : unescape? (mark :: (tail ++ rest)) = some (c, rest) := decodes rest
    simp only [List.mem_cons, List.not_mem_nil, or_false, not_or] at notBlank
    have hidesNothing : hiddenLineEnd? (mark :: (tail ++ rest)) = none := by
      simp [hiddenLineEnd?, skipBlanks, afterNewline?, notBlank]
    rw [List.cons_append, List.cons_append] at notClosed ⊢
    rw [readBasicLines?, notClosed]
    simp only [if_true, hidesNothing, decoded]
    change (do let (value, rest) ← readBasicLines? bound rest; return (c :: value, rest)) = _
    cases readBasicLines? bound rest <;> rfl

theorem readBasicLines?_escaped (few : run ≤ 2) (stops : rest.head? ≠ some '"')
    (enough : (escaped true 2 run text).length < bound) :
    readBasicLines? bound (escaped true 2 run text ++ ['"', '"', '"'] ++ rest) =
      some (text, rest) := by
  induction text generalizing run bound with
  | nil =>
      obtain ⟨bound, rfl⟩ := Nat.exists_eq_add_one_of_ne_zero (Nat.ne_zero_of_lt enough)
      have leads : LeadsWithin '"' 2 [] := Nat.zero_le 2
      rcases closeLines?_append leads stops with ⟨_, closed⟩ | ⟨nonempty, _⟩
      · exact readBasicLines?_of_closed closed
      · exact absurd rfl nonempty
  | cons c text inductionHypothesis =>
      obtain ⟨bound, rfl⟩ := Nat.exists_eq_add_one_of_ne_zero (Nat.ne_zero_of_lt enough)
      have leads : LeadsWithin '"' 2 (escaped true 2 run (c :: text)) :=
        Nat.le_trans (leadsWithin_escaped few) (Nat.sub_le _ _)
      rcases closeLines?_append leads stops with ⟨areQuotes, closed⟩ | ⟨_, notClosed⟩
      -- Where the quotes that close the string are found early, quotes are all that is left of it.
      · rw [eq_of_escaped_quotes areQuotes] at closed ⊢
        exact readBasicLines?_of_closed closed
      · rcases escaped_cons_cases true 2 run c text with
          ⟨rfl, less, equation⟩ | ⟨written, piece, equation⟩
        · rw [equation] at enough notClosed ⊢
          have restRead := inductionHypothesis less (Nat.lt_of_succ_lt_succ enough)
          rw [List.cons_append, List.cons_append] at notClosed ⊢
          rw [readBasicLines?_self notClosed (by decide) (by decide), restRead]
          rfl
        · obtain ⟨front, tail, rfl, _⟩ := piece.front_ne
          rw [equation, List.length_append, List.length_cons] at enough
          have restEnough : (escaped true 2 0 text).length < bound := by omega
          have restRead := inductionHypothesis (Nat.zero_le 2) restEnough
          rw [List.append_assoc] at restRead
          rw [equation, List.append_assoc, List.append_assoc, readBasicLines?_piece piece, restRead]
          rfl

end Lines

end QueryPlanner.Toml
