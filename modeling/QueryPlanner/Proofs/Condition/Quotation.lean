import QueryPlanner.Condition.Render
import QueryPlanner.Condition.Scan
import QueryPlanner.Proofs.Outcomes

/-!
# The grammar of strings

A string stands between two quotes of one kind.  Between them is a row of items, each of which
gives one character: the character itself, or an escape by a letter, by the code unit of the
character or by its two surrogates.
-/

namespace QueryPlanner.Condition

open QueryPlanner.Text

def IsQuote (quote : Char) : Prop :=
  quote = '\'' ∨ quote = '"'

/-- The letters behind a backslash and the characters that they stand for. -/
def letterEscapes : List (Char × Char) := [
  ('"', '"'), ('\'', '\''), ('/', '/'), ('\\', '\\'), ('b', '\x08'), ('f', '\x0C'), ('n', '\n'),
  ('r', '\r'), ('t', '\t')]

/-- The sixteen digits in lower case.  A digit counts its place among them. -/
def hexDigits : List Char :=
  ['0', '1', '2', '3', '4', '5', '6', '7', '8', '9', 'a', 'b', 'c', 'd', 'e', 'f']

/-- Four hexadecimal digits of either case, and the code unit that they name. -/
inductive IsCodeUnit : List Char → Nat → Prop where
  | intro {a b c d : Char} {i j k l : Nat} (first : hexDigits.idxOf? a.toLower = some i)
      (second : hexDigits.idxOf? b.toLower = some j) (third : hexDigits.idxOf? c.toLower = some k)
      (fourth : hexDigits.idxOf? d.toLower = some l) :
      IsCodeUnit [a, b, c, d] (((i * 16 + j) * 16 + k) * 16 + l)

/-- An escape as it is written, and the character that it stands for.  A code unit that is a
surrogate is no character, so it does not stand alone. -/
inductive IsEscape : List Char → Char → Prop where
  | letter {letter decoded : Char} (listed : (letter, decoded) ∈ letterEscapes) :
      IsEscape ['\\', letter] decoded
  | unit {digits : List Char} {decoded : Char} (names : IsCodeUnit digits decoded.toNat) :
      IsEscape ('\\' :: 'u' :: digits) decoded
  | pair {first second : List Char} {high low : Nat} {decoded : Char}
      (namesHigh : IsCodeUnit first high) (isHigh : 0xD800 ≤ high ∧ high ≤ 0xDBFF)
      (namesLow : IsCodeUnit second low) (isLow : 0xDC00 ≤ low ∧ low ≤ 0xDFFF)
      (paired : decoded.toNat = 0x10000 + (high - 0xD800) * 0x400 + (low - 0xDC00)) :
      IsEscape ('\\' :: 'u' :: first ++ '\\' :: 'u' :: second) decoded

/-- An item of a string as it is written, and the character that it gives. -/
inductive IsItem (quote : Char) : List Char → Char → Prop where
  | plain {c : Char} (notQuote : c ≠ quote) (notBackslash : c ≠ '\\')
      (allowed : 0x20 ≤ c.toNat ∨ c = '\t') : IsItem quote [c] c
  | escape {written : List Char} {decoded : Char} (isEscape : IsEscape written decoded) :
      IsItem quote written decoded

/-- A row of items as they are written, and the text that they give. -/
inductive Decodes (quote : Char) : List Char → List Char → Prop where
  | nil : Decodes quote [] []
  | cons {written text value : List Char} {decoded : Char} (item : IsItem quote written decoded)
      (items : Decodes quote text value) : Decodes quote (written ++ text) (decoded :: value)

variable {quote c decoded : Char} {opening text rest left value : List Char} {unit : Nat}

theorem isForbidden_eq_false_iff : isForbidden c = false ↔ 0x20 ≤ c.toNat ∨ c = '\t' := by
  simp only [isForbidden, Bool.and_eq_false_iff, decide_eq_false_iff_not, Nat.not_lt,
    Decidable.not_not]

section CodeUnits

theorem hexDigit?_eq (c : Char) : hexDigit? c = hexDigits.idxOf? c.toLower := by
  by_cases small : c.toNat < 128
  · have exact : ∀ code : Fin 128,
        hexDigit? (Char.ofNat code) = hexDigits.idxOf? (Char.ofNat code).toLower := by
      decide +kernel
    simpa using exact ⟨c.toNat, small⟩
  · have noDigit (least most : Char) (bound : most.toNat < 128) : ¬(least ≤ c ∧ c ≤ most) := by
      rintro ⟨_, atMost⟩
      exact small (Nat.lt_of_le_of_lt atMost bound)
    have notUpper : c.toLower = c := dif_neg (noDigit 'A' 'Z' (by decide))
    have notDigit : c ∉ hexDigits := by
      intro membership
      have bounded : (hexDigits.all fun digit => digit.toNat < 128) = true := by decide
      exact small (of_decide_eq_true (List.all_eq_true.mp bounded c membership))
    rw [hexDigit?, if_neg (noDigit _ _ (by decide)), if_neg (noDigit _ _ (by decide)),
      if_neg (noDigit _ _ (by decide)), notUpper, List.idxOf?_eq_none_iff.mpr notDigit]

theorem readCodeUnit?_eq_some_iff : readCodeUnit? text = some (unit, rest) ↔
    ∃ digits, text = digits ++ rest ∧ IsCodeUnit digits unit := by
  constructor
  · intro read
    match text, read with
    | a :: b :: c :: d :: tail, read =>
        obtain ⟨_, unitFound, equality⟩ := Option.map_eq_some_iff.mp read
        cases equality
        simp only [codeUnit?, hexDigit?_eq, Option.bind_eq_bind, Option.bind_eq_some_iff]
          at unitFound
        obtain ⟨i, first, j, second, k, third, l, fourth, unitEq⟩ := unitFound
        cases unitEq
        exact ⟨[a, b, c, d], rfl, .intro first second third fourth⟩
  · rintro ⟨digits, rfl, names⟩
    cases names with
    | intro first second third fourth =>
        simp [readCodeUnit?, codeUnit?, hexDigit?_eq, first, second, third, fourth]

theorem IsCodeUnit.lt {digits : List Char} (names : IsCodeUnit digits unit) : unit < 0x10000 := by
  have bounded {digit : Char} {place : Nat} (found : hexDigits.idxOf? digit = some place) :
      place < 16 := by
    exact (List.findIdx?_eq_some_iff_getElem.mp found).1
  cases names with
  | intro first second third fourth =>
      have firstLt := bounded first
      have secondLt := bounded second
      have thirdLt := bounded third
      have fourthLt := bounded fourth
      omega

theorem IsCodeUnit.allowed {digits : List Char} (names : IsCodeUnit digits unit) :
    ∀ c ∈ digits, isForbidden c = false := by
  have digitAllowed {digit : Char} {place : Nat}
      (found : hexDigits.idxOf? digit.toLower = some place) : isForbidden digit = false := by
    refine isForbidden_eq_false_iff.mpr (.inl (Nat.not_lt.mp fun control => ?_))
    have noDigit : ∀ code : Fin 0x20, hexDigits.idxOf? (Char.ofNat code).toLower = none := by
      decide
    have notFound := noDigit ⟨digit.toNat, control⟩
    rw [Char.ofNat_toNat, found] at notFound
    cases notFound
  cases names with
  | intro first second third fourth =>
      simp [digitAllowed first, digitAllowed second, digitAllowed third, digitAllowed fourth]

end CodeUnits

section Escapes

theorem simpleEscape?_eq_some_iff :
    simpleEscape? c = some decoded ↔ (c, decoded) ∈ letterEscapes := by
  unfold simpleEscape? letterEscapes
  split <;> simp_all [eq_comm]

theorem lowSurrogate?_eq_some_iff : lowSurrogate? text = some (unit, rest) ↔
    ∃ digits, text = '\\' :: 'u' :: digits ++ rest ∧ IsCodeUnit digits unit ∧
      isLowSurrogate unit = true := by
  unfold lowSurrogate?
  split
  next tail =>
    simp only [Option.filter_eq_some_iff, readCodeUnit?_eq_some_iff, List.cons_append,
      List.cons.injEq, true_and, ← exists_and_right, and_assoc]
  next noEscape =>
    refine iff_of_false (by simp) ?_
    rintro ⟨digits, rfl, _⟩
    exact noEscape _ rfl

theorem toNat_ofNat (valid : unit.isValidChar) : (Char.ofNat unit).toNat = unit := by
  rw [Char.ofNat, dif_pos valid]
  rfl

theorem isValidChar_iff (small : unit < 0x10000) :
    unit.isValidChar ↔ isHighSurrogate unit = false ∧ isLowSurrogate unit = false := by
  simp only [isHighSurrogate, isLowSurrogate, Bool.and_eq_false_iff, decide_eq_false_iff_not,
    Nat.isValidChar]
  omega

theorem isValidChar_surrogatePair {high low : Nat} (isHigh : isHighSurrogate high = true)
    (isLow : isLowSurrogate low = true) : (surrogatePair high low).isValidChar := by
  simp only [isHighSurrogate, isLowSurrogate, Bool.and_eq_true, decide_eq_true_eq] at isHigh isLow
  unfold surrogatePair Nat.isValidChar
  omega

theorem isEscape_of_unescapeUnit (found : unescapeUnit text = .ok (decoded, rest)) :
    ∃ written, '\\' :: 'u' :: text = written ++ rest ∧ IsEscape written decoded := by
  unfold unescapeUnit at found
  split at found
  next => cases found
  next unit tail unitFound =>
    obtain ⟨digits, rfl, names⟩ := readCodeUnit?_eq_some_iff.mp unitFound
    split at found
    next isHigh =>
      split at found
      next low tailAfter lowFound =>
        simp only [Except.ok.injEq, Prod.mk.injEq] at found
        obtain ⟨rfl, rfl⟩ := found
        obtain ⟨lowDigits, rfl, namesLow, isLow⟩ := lowSurrogate?_eq_some_iff.mp lowFound
        have decodedEq := toNat_ofNat (isValidChar_surrogatePair isHigh isLow)
        simp only [isHighSurrogate, isLowSurrogate, Bool.and_eq_true, decide_eq_true_eq]
          at isHigh isLow
        refine ⟨_, ?_, .pair names isHigh namesLow isLow decodedEq⟩
        simp
      next => cases found
    next notHigh =>
      split at found
      next => cases found
      next notLow =>
        simp only [Except.ok.injEq, Prod.mk.injEq] at found
        obtain ⟨rfl, rfl⟩ := found
        have valid := (isValidChar_iff names.lt).mpr
          ⟨Bool.eq_false_iff.mpr notHigh, Bool.eq_false_iff.mpr notLow⟩
        exact ⟨'\\' :: 'u' :: digits, rfl, .unit ((toNat_ofNat valid).symm ▸ names)⟩

theorem isEscape_of_unescape (found : unescape c text = .ok (decoded, rest)) :
    ∃ written, '\\' :: c :: text = written ++ rest ∧ IsEscape written decoded := by
  unfold unescape at found
  split at found
  next isUnit =>
    subst isUnit
    exact isEscape_of_unescapeUnit found
  next notUnit =>
    split at found
    next letterDecoded letterFound =>
      cases found
      exact ⟨['\\', c], rfl, .letter (simpleEscape?_eq_some_iff.mp letterFound)⟩
    next => cases found

theorem unescape_of_isEscape {written : List Char} (isEscape : IsEscape written decoded)
    (rest : List Char) :
    ∃ c text, written ++ rest = '\\' :: c :: text ∧ unescape c text = .ok (decoded, rest) := by
  cases isEscape with
  | @letter letter _ listed =>
      refine ⟨letter, rest, rfl, ?_⟩
      have notUnit : letter ≠ 'u' := by
        rintro rfl
        simp [letterEscapes] at listed
      rw [unescape, if_neg notUnit, simpleEscape?_eq_some_iff.mpr listed]
  | @unit digits _ names =>
      refine ⟨'u', digits ++ rest, rfl, ?_⟩
      have read : readCodeUnit? (digits ++ rest) = some (decoded.toNat, rest) :=
        readCodeUnit?_eq_some_iff.mpr ⟨digits, rfl, names⟩
      obtain ⟨notHigh, notLow⟩ := (isValidChar_iff names.lt).mp decoded.valid
      simp [unescape, unescapeUnit, read, notHigh, notLow]
  | @pair first second high low _ namesHigh isHigh namesLow isLow paired =>
      refine ⟨'u', first ++ ('\\' :: 'u' :: second ++ rest), by simp, ?_⟩
      have read : readCodeUnit? (first ++ ('\\' :: 'u' :: second ++ rest)) =
          some (high, '\\' :: 'u' :: second ++ rest) :=
        readCodeUnit?_eq_some_iff.mpr ⟨first, rfl, namesHigh⟩
      have isHighUnit : isHighSurrogate high = true := by
        simpa [isHighSurrogate] using isHigh
      have isLowUnit : isLowSurrogate low = true := by
        simpa [isLowSurrogate] using isLow
      have readLow : lowSurrogate? ('\\' :: 'u' :: second ++ rest) = some (low, rest) :=
        lowSurrogate?_eq_some_iff.mpr ⟨second, rfl, namesLow, isLowUnit⟩
      have pairEq : surrogatePair high low = decoded.toNat := by
        unfold surrogatePair
        exact paired.symm
      rw [unescape, if_pos rfl, unescapeUnit, read]
      dsimp only
      rw [if_pos isHighUnit, readLow]
      dsimp only
      rw [pairEq, Char.ofNat_toNat]

theorem IsEscape.allowed {written : List Char} (isEscape : IsEscape written decoded) :
    ∀ c ∈ written, isForbidden c = false := by
  have backslash : isForbidden '\\' = false := by decide
  have u : isForbidden 'u' = false := by decide
  cases isEscape with
  | letter listed =>
      have letters : ∀ entry ∈ letterEscapes, isForbidden entry.1 = false := by decide
      simp [backslash, letters _ listed]
  | unit names => simpa [backslash, u] using names.allowed
  | pair namesHigh _ namesLow _ _ =>
      have high := namesHigh.allowed
      have low := namesLow.allowed
      simp only [List.cons_append, List.forall_mem_cons, List.forall_mem_append, backslash, u,
        true_and]
      exact ⟨high, low⟩

end Escapes

section Strings

theorem isQuote_iff : (quote = '"' || quote = '\'') = true ↔ IsQuote quote := by
  rw [Bool.or_eq_true, decide_eq_true_eq, decide_eq_true_eq]
  exact or_comm

theorem IsQuote.ne_backslash (isQuote : IsQuote quote) : '\\' ≠ quote := by
  rcases isQuote with rfl | rfl <;> decide

theorem readQuoted_close (notEnd : quote ≠ '\n' ∧ quote ≠ '\r') :
    readQuoted quote opening (quote :: rest) = .ok ([], rest) := by
  rw [readQuoted.eq_def]
  simp [notEnd]

theorem readQuoted_plain (notEnd : c ≠ '\n' ∧ c ≠ '\r') (notQuote : c ≠ quote)
    (allowed : isForbidden c = false) (notEscape : c ≠ '\\') :
    readQuoted quote opening (c :: rest) =
      (readQuoted quote opening rest).map fun (value, after) => (c :: value, after) := by
  rw [readQuoted.eq_def]
  simp [notEnd, notQuote, allowed, notEscape]

theorem readQuoted_escape {escaped decoded : Char} {tail : List Char} (notQuote : '\\' ≠ quote)
    (found : unescape escaped tail = .ok (decoded, rest)) :
    readQuoted quote opening ('\\' :: escaped :: tail) =
      (readQuoted quote opening rest).map fun (value, after) => (decoded :: value, after) := by
  have allowed : isForbidden '\\' = false := by decide
  rw [readQuoted, if_neg (by decide), if_neg notQuote, allowed]
  simp only [Bool.false_eq_true, if_false, if_true]
  split
  next cause failed => cases found.symm.trans failed
  next otherDecoded left read =>
    cases found.symm.trans read
    rfl

/-- What is read up to a closing quote is a row of items. -/
theorem exists_decodes_of_readQuoted
    (read : readQuoted quote opening text = .ok (value, left)) :
    ∃ items, text = items ++ quote :: left ∧ Decodes quote items value := by
  fun_induction readQuoted quote opening text generalizing value left with
  | case1 => cases read
  | case2 => cases read
  | case3 =>
      cases read
      exact ⟨[], rfl, .nil⟩
  | case4 => cases read
  | case5 => cases read
  | case6 => cases read
  | case7 escaped tail decoded after found shorter notEnd notQuote allowed inductionHypothesis =>
      obtain ⟨⟨tailValue, tailLeft⟩, tailRead, equality⟩ := exists_of_map_ok read
      cases equality
      obtain ⟨items, rfl, decodes⟩ := inductionHypothesis tailRead
      obtain ⟨written, writtenEq, isEscape⟩ := isEscape_of_unescape found
      refine ⟨written ++ items, ?_, .cons (.escape isEscape) decodes⟩
      rw [writtenEq, List.append_assoc]
  | case8 other rest notEnd notQuote allowed plain inductionHypothesis =>
      obtain ⟨⟨tailValue, tailLeft⟩, tailRead, equality⟩ := exists_of_map_ok read
      cases equality
      obtain ⟨items, rfl, decodes⟩ := inductionHypothesis tailRead
      have isAllowed := isForbidden_eq_false_iff.mp (Bool.eq_false_iff.mpr allowed)
      exact ⟨other :: items, rfl, .cons (.plain notQuote plain isAllowed) decodes⟩

/-- A row of items is read up to the first quote behind it. -/
theorem readQuoted_of_decodes {items : List Char} (isQuote : IsQuote quote)
    (decodes : Decodes quote items value) (opening left : List Char) :
    readQuoted quote opening (items ++ quote :: left) = .ok (value, left) := by
  induction decodes with
  | nil =>
      refine readQuoted_close ?_
      rcases isQuote with rfl | rfl <;> decide
  | @cons written items value decoded item _ inductionHypothesis =>
      cases item with
      | plain notQuote notBackslash allowed =>
          have notEnd : decoded ≠ '\n' ∧ decoded ≠ '\r' := by
            constructor <;> rintro rfl <;> revert allowed <;> decide
          rw [List.append_assoc, List.singleton_append, readQuoted_plain notEnd notQuote
            (isForbidden_eq_false_iff.mpr allowed) notBackslash, inductionHypothesis]
          rfl
      | escape isEscape =>
          obtain ⟨c, text, writtenEq, found⟩ :=
            unescape_of_isEscape isEscape (items ++ quote :: left)
          rw [List.append_assoc, writtenEq, readQuoted_escape isQuote.ne_backslash found,
            inductionHypothesis]
          rfl

theorem Decodes.allowed {items : List Char} (decodes : Decodes quote items value) :
    ∀ c ∈ items, isForbidden c = false := by
  induction decodes with
  | nil => simp
  | cons item _ inductionHypothesis =>
      rw [List.forall_mem_append]
      refine ⟨?_, inductionHypothesis⟩
      cases item with
      | plain notQuote notBackslash allowed =>
          simpa using isForbidden_eq_false_iff.mpr allowed
      | escape isEscape => exact isEscape.allowed

/-- A string is read exactly if it is a row of items between its quotes. -/
theorem readString_ok_iff (isQuote : IsQuote quote) {lexeme : Lexeme} :
    readString quote rest = .ok lexeme ↔
      ∃ items value left, rest = items ++ quote :: left ∧ Decodes quote items value ∧
        lexeme = ⟨.string, quote :: items ++ [quote], some value⟩ := by
  have cut (items left : List Char) : (quote :: (items ++ quote :: left)).take
      ((quote :: (items ++ quote :: left)).length - left.length) = quote :: items ++ [quote] := by
    have split : quote :: (items ++ quote :: left) = (quote :: items ++ [quote]) ++ left := by
      simp
    rw [split, List.length_append, Nat.add_sub_cancel, List.take_left]
  constructor
  · intro read
    obtain ⟨⟨value, left⟩, quotedRead, returned⟩ := exists_of_bind_ok read
    obtain ⟨items, rfl, decodes⟩ := exists_decodes_of_readQuoted quotedRead
    cases returned
    exact ⟨items, value, left, rfl, decodes, by rw [cut]⟩
  · rintro ⟨items, value, left, rfl, decodes, rfl⟩
    simp only [readString, readQuoted_of_decodes isQuote decodes, bind, Except.bind, cut]
    rfl

theorem readLexeme_quote (isQuote : IsQuote quote) (rest : List Char) :
    readLexeme quote rest = readString quote rest := by
  have allowed : isForbidden quote = false := by
    rcases isQuote with rfl | rfl <;> decide
  have noMark : punctuation? (quote :: rest) = none := by
    rcases isQuote with rfl | rfl <;> rfl
  have noName : beginsName quote = false := by
    rcases isQuote with rfl | rfl <;> decide
  have noNumber : (quote.isDigit || quote = '-') = false := by
    rcases isQuote with rfl | rfl <;> decide
  have quotes : (quote = '"' || quote = '\'') = true := by
    rcases isQuote with rfl | rfl <;> decide
  rw [readLexeme, allowed, noMark, noName, noNumber, quotes]
  rfl

theorem isCodeUnit_upperHex {code : Nat} (isAscii : code < 0x80) :
    IsCodeUnit (upperHex code) code := by
  have exact : ∀ code : Fin 0x80, readCodeUnit? (upperHex code) = some (code.val, []) := by
    decide +kernel
  obtain ⟨digits, digitsEq, names⟩ := readCodeUnit?_eq_some_iff.mp (exact ⟨code, isAscii⟩)
  rw [List.append_nil] at digitsEq
  exact digitsEq ▸ names

theorem isItem_conditionChar (c : Char) : IsItem '\'' (conditionChar c) c := by
  unfold conditionChar
  split
  next isQuote =>
    subst isQuote
    exact .escape (.letter (by decide))
  next notQuote =>
  split
  next isBackslash =>
    subst isBackslash
    exact .escape (.letter (by decide))
  next notBackslash =>
  split
  next isNewline =>
    subst isNewline
    exact .escape (.letter (by decide))
  next =>
  split
  next isReturn =>
    subst isReturn
    exact .escape (.letter (by decide))
  next =>
  split
  next isBackspace =>
    subst isBackspace
    exact .escape (.letter (by decide))
  next =>
  split
  next isFormFeed =>
    subst isFormFeed
    exact .escape (.letter (by decide))
  next =>
  split
  next control =>
    exact .escape (.unit (isCodeUnit_upperHex (Nat.lt_trans control.1 (by decide))))
  next notControl =>
    refine .plain notQuote notBackslash ?_
    rw [← isForbidden_eq_false_iff, isForbidden]
    simpa using notControl

theorem decodes_conditionString (text : List Char) :
    Decodes '\'' (text.flatMap conditionChar) text := by
  induction text with
  | nil => exact .nil
  | cons c text inductionHypothesis => exact .cons (isItem_conditionChar c) inductionHypothesis

theorem conditionString_oneLine (text : List Char) : '\r' ∉ conditionString text := by
  intro membership
  have allowed := (decodes_conditionString text).allowed
  simp only [conditionString, List.cons_append, List.mem_cons, List.mem_append] at membership
  rcases membership with isQuote | inItems | isQuote | none
  · exact absurd isQuote (by decide)
  · exact absurd (allowed _ inItems) (by decide)
  · exact absurd isQuote (by decide)
  · cases none

end Strings

section Sources

variable {source : Source} {place : Nat}

theorem tokenAt_quote_iff (isQuote : IsQuote quote)
    (dropped : dropBytes place source.body = some (quote :: rest)) {token : Token} :
    source.tokenAt place = .ok token ↔
      ∃ items value left, rest = items ++ quote :: left ∧ Decodes quote items value ∧
        token = ⟨.string, some (String.ofList value), place,
          place + byteLength (quote :: items ++ [quote])⟩ := by
  have spanned : spanIgnored false (quote :: rest) = ([], quote :: rest) := by
    rcases isQuote with rfl | rfl <;> rfl
  simp only [Source.tokenAt, dropped, Source.scanText, spanned, readLexeme_quote isQuote]
  constructor
  · intro read
    split at read
    next lexeme lexemeRead =>
      obtain ⟨items, value, left, restEq, decodes, rfl⟩ := (readString_ok_iff isQuote).mp lexemeRead
      cases read
      exact ⟨items, value, left, restEq, decodes, rfl⟩
    next => cases read
  · rintro ⟨items, value, left, restEq, decodes, rfl⟩
    have lexemeRead := (readString_ok_iff isQuote).mpr ⟨items, value, left, restEq, decodes, rfl⟩
    rw [lexemeRead]
    rfl

theorem tokenAt_conditionString (front text after : List Char) :
    Source.tokenAt ⟨front ++ conditionString text ++ after⟩ (byteLength front) =
      .ok ⟨.string, some (String.ofList text), byteLength front,
        byteLength front + byteLength (conditionString text)⟩ := by
  refine (tokenAt_quote_iff (.inl rfl) ?_).mpr ⟨text.flatMap conditionChar, text, after, rfl,
    decodes_conditionString text, rfl⟩
  have bodyEq : front ++ conditionString text ++ after =
      front ++ '\'' :: (text.flatMap conditionChar ++ '\'' :: after) := by
    simp [conditionString]
  rw [bodyEq]
  exact dropBytes_byteLength_append front _

/-- Where a quote stands in a source there is a string exactly if a row of items and the same quote
follow.  The string ends right behind that quote, and its value is what the items give; so no text
is such a row in two ways.  A text that is written as a string is read back from it, whatever stands
in front of the string and behind it. -/
theorem strings_decode_exactly :
    (∀ (source : Source) (place : Nat) (quote : Char) (rest : List Char), IsQuote quote →
      dropBytes place source.body = some (quote :: rest) → ∀ token,
        source.tokenAt place = .ok token ↔
          ∃ items value left, rest = items ++ quote :: left ∧ Decodes quote items value ∧
            token = ⟨.string, some (String.ofList value), place,
              place + byteLength (quote :: items ++ [quote])⟩) ∧
    (∀ front text after : List Char,
      Source.tokenAt ⟨front ++ conditionString text ++ after⟩ (byteLength front) =
        .ok ⟨.string, some (String.ofList text), byteLength front,
          byteLength front + byteLength (conditionString text)⟩) ∧
    ∀ text after : List Char,
      (Source.ofString (String.ofList (conditionString text ++ after))).tokenAt 0 =
        .ok ⟨.string, some (String.ofList text), 0, byteLength (conditionString text)⟩ := by
  refine ⟨fun source place quote rest isQuote dropped token => tokenAt_quote_iff isQuote dropped,
    tokenAt_conditionString, fun text after => ?_⟩
  have bodyEq : Source.ofString (String.ofList (conditionString text ++ after)) =
      ⟨[] ++ conditionString text ++ normalizeLineEnds after⟩ := by
    rw [Source.ofString, String.toList_ofList, normalizeLineEnds_append,
      normalizeLineEnds_of_oneLine (conditionString_oneLine text), List.nil_append]
    intro endsInReturn
    exact absurd (List.mem_of_getLast? endsInReturn) (conditionString_oneLine text)
  have read := tokenAt_conditionString [] text (normalizeLineEnds after)
  rw [bodyEq, ← Nat.zero_add (byteLength (conditionString text))]
  exact read

/-- A string with an escape by letter and one by surrogates, and text behind it. -/
theorem tokenAt_escaped_string :
    IsQuote '"' ∧ Source.tokenAt ⟨"\"\\n\\uD83d\\uDe00'\" = 1".toList⟩ 0 =
      .ok ⟨.string, some "\n😀'", 0, 17⟩ := by
  have isQuote : IsQuote '"' := .inr rfl
  have namesHigh : IsCodeUnit ['D', '8', '3', 'd'] (((13 * 16 + 8) * 16 + 3) * 16 + 13) :=
    .intro rfl rfl rfl rfl
  have namesLow : IsCodeUnit ['D', 'e', '0', '0'] (((13 * 16 + 14) * 16 + 0) * 16 + 0) :=
    .intro rfl rfl rfl rfl
  have letter : IsEscape ['\\', 'n'] '\n' := .letter (by decide)
  have pair : IsEscape "\\uD83d\\uDe00".toList '😀' :=
    .pair namesHigh (by decide) namesLow (by decide) rfl
  have decodes : Decodes '"' "\\n\\uD83d\\uDe00'".toList ['\n', '😀', '\''] :=
    .cons (.escape letter) (.cons (.escape pair)
      (.cons (.plain (by decide) (by decide) (by decide)) .nil))
  refine ⟨isQuote, ?_⟩
  exact (strings_decode_exactly.1 _ 0 '"' _ isQuote rfl _).mpr ⟨_, _, _, rfl, decodes, rfl⟩

end Sources

end QueryPlanner.Condition
