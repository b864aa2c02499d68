import QueryPlanner.Proofs.Condition.Spelling
import QueryPlanner.Proofs.Text.Offsets
import QueryPlanner.Proofs.Text.Trimming

/-!
# Lexing by byte offsets

The reader of tokens that keeps no text but a byte offset of its source: it looks at the character
there and at those a few bytes further on, and cuts the parts it needs out of the body.  It stops
without an outcome where a cut would be past the end or inside a character.  Its outcome is always
that of `Source.tokenAt`, so that no cut of it ever fails.
-/

namespace QueryPlanner.Condition

open QueryPlanner.Number QueryPlanner.Text

section Definitions

def skipIgnored (body : List Char) (offset : Nat) : Nat :=
  match found : charAt? body offset with
  | some c =>
      have := lt_of_charAt? found
      have := Char.utf8Size_pos c
      have := le_skipWhile (fun c => !isForbidden c) body (offset + 1)
      if isSpace c then skipIgnored body (offset + c.utf8Size)
      else if c = '#' then
        skipIgnored body (skipWhile (fun c => !isForbidden c) body (offset + 1))
      else offset
  | none => offset
termination_by byteLength body - offset

/-- A mark of one character and `count` more that are `follow`. -/
def repeated? (body : List Char) (offset : Nat) (follow : Char) (count : Nat) (kind : TokenKind) :
    Option (TokenKind × Nat) :=
  if (List.range count).all fun i => charAt? body (offset + (i + 1)) = some follow then
    some (kind, count + 1)
  else none

def doubled (body : List Char) (offset : Nat) (follow : Char) (double single : TokenKind) :
    TokenKind × Nat :=
  (repeated? body offset follow 1 double).getD (single, 1)

/-- The kind and the length of the mark that begins with a character. -/
def markAt? (body : List Char) (offset : Nat) : Char → Option (TokenKind × Nat)
  | '$' => some (.dollar, 1)
  | '(' => some (.parenL, 1)
  | ')' => some (.parenR, 1)
  | ':' => some (.colon, 1)
  | '@' => some (.at, 1)
  | '[' => some (.bracketL, 1)
  | ']' => some (.bracketR, 1)
  | '{' => some (.braceL, 1)
  | '}' => some (.braceR, 1)
  | ',' => some (.comma, 1)
  | '<' => some (.lessThan, 1)
  | '>' => some (.greaterThan, 1)
  | '.' => repeated? body offset '.' 2 .spread
  | '&' => some (doubled body offset '&' .and .and)
  | '|' => some (doubled body offset '|' .or .pipe)
  | '=' => some (doubled body offset '=' .equals .equals)
  | '!' => some (doubled body offset '=' .not .bang)
  | _ => none

def wordAt? (source : Source) (offset : Nat) : Option Token :=
  let stop := skipWhile continuesName source.body offset
  (cut? source.body offset stop).map fun word =>
    ⟨if isTruthValue word then .boolean else .name, some (String.ofList word), offset, stop⟩

def skipDigits (body : List Char) (offset : Nat) : Nat :=
  match found : charAt? body offset with
  | some c =>
      have := lt_of_charAt? found
      if c.isDigit then skipDigits body (offset + 1) else offset
  | none => offset
termination_by byteLength body - offset

def digitsStop (source : Source) (offset : Nat) : Except SyntaxFault Nat :=
  if (charAt? source.body offset).any Char.isDigit then .ok (skipDigits source.body offset)
  else .error ⟨.missingDigit (charAt? source.body offset), source, offset⟩

def wholeStop (source : Source) (offset : Nat) : Except SyntaxFault Nat :=
  if charAt? source.body offset = some '0' then
    match (charAt? source.body (offset + 1)).filter Char.isDigit with
    | some digit => .error ⟨.digitAfterZero digit, source, offset + 1⟩
    | none => .ok (offset + 1)
  else digitsStop source offset

def fractionStop (source : Source) (offset : Nat) : Except SyntaxFault Nat :=
  if charAt? source.body offset = some '.' then digitsStop source (offset + 1) else .ok offset

def powerStop (source : Source) (offset : Nat) : Except SyntaxFault Nat :=
  let marker := charAt? source.body offset
  if marker = some 'e' ∨ marker = some 'E' then
    let sign := charAt? source.body (offset + 1)
    digitsStop source (if sign = some '+' ∨ sign = some '-' then offset + 1 + 1 else offset + 1)
  else .ok offset

/-- Where the whole part of a number ends, and where the number does. -/
def numberStops (source : Source) (offset : Nat) : Except SyntaxFault (Nat × Nat) := do
  let unsigned := if charAt? source.body offset = some '-' then offset + 1 else offset
  let wholeEnd ← wholeStop source unsigned
  let fractionEnd ← fractionStop source wholeEnd
  let stop ← powerStop source fractionEnd
  return (wholeEnd, stop)

def numberAt (source : Source) (offset : Nat) : Option (Except SyntaxFault Token) :=
  match numberStops source offset with
  | .error fault => some (.error fault)
  | .ok (wholeEnd, stop) => (cut? source.body offset stop).map fun written =>
      .ok ⟨if stop = wholeEnd then .int else .float, some (String.ofList written), offset, stop⟩

/-- The code unit in the four bytes behind the letter of an escape, or what is shown if there is
none. -/
def unitDigitsAt (body : List Char) (offset : Nat) : Option (Except (List Char) Nat) :=
  match (cut? body (offset + 1) (offset + 5)).bind readCodeUnit? with
  | some (unit, _) => some (.ok unit)
  | none => (dropBytes offset body).map fun tail => .error (tail.take 5)

/-- The low surrogate whose escape begins at an offset, if one does. -/
def lowUnitAt (body : List Char) (offset : Nat) : Option (Option Nat) :=
  (dropBytes offset body).bind fun tail =>
    if ['\\', 'u'].isPrefixOf tail then
      (unitDigitsAt body (offset + 1)).map fun unit => unit.toOption.filter isLowSurrogate
    else some none

/-- The character of an escape whose letter stands at an offset, and where the escape ends. -/
def unitAt (source : Source) (backslash offset : Nat) :
    Option (Except SyntaxFault (Char × Nat)) :=
  (unitDigitsAt source.body offset).bind fun
    | .error shown => some (.error ⟨.malformedEscape shown, source, backslash⟩)
    | .ok unit =>
        if isHighSurrogate unit then
          (lowUnitAt source.body (offset + 5)).map fun
            | some low => .ok (Char.ofNat (surrogatePair unit low), offset + 5 + 1 + 5)
            | none => .error ⟨.unpairedSurrogate unit, source, backslash⟩
        else if isLowSurrogate unit then some (.error ⟨.surrogateEscape unit, source, backslash⟩)
        else some (.ok (Char.ofNat unit, offset + 5))

/-- The character of an escape that stands behind its backslash, and where the escape ends. -/
def escapeAt (source : Source) (opening offset : Nat) : Option (Except SyntaxFault (Char × Nat)) :=
  match charAt? source.body offset with
  | none => some (.error ⟨.unterminatedString, source, opening⟩)
  | some c =>
      if c = 'u' then unitAt source (offset - 1) offset
      else
        match simpleEscape? c with
        | some decoded => some (.ok (decoded, offset + c.utf8Size))
        | none => some (.error ⟨.unknownEscape c, source, offset - 1⟩)

theorem lt_of_unitAt {source : Source} {backslash offset next : Nat} {decoded : Char}
    (found : unitAt source backslash offset = some (.ok (decoded, next))) : offset < next := by
  obtain ⟨read, _, found⟩ := Option.bind_eq_some_iff.mp found
  split at found
  next => cases found
  next =>
    split at found
    next =>
      obtain ⟨low, _, found⟩ := Option.map_eq_some_iff.mp found
      split at found
      next =>
        rw [Except.ok.injEq, Prod.mk.injEq] at found
        omega
      next => cases found
    next =>
      split at found
      next => cases found
      next =>
        rw [Option.some.injEq, Except.ok.injEq, Prod.mk.injEq] at found
        omega

theorem lt_of_escapeAt {source : Source} {opening offset next : Nat} {decoded : Char}
    (found : escapeAt source opening offset = some (.ok (decoded, next))) : offset < next := by
  unfold escapeAt at found
  split at found
  next => cases found
  next c _ =>
    have positive := Char.utf8Size_pos c
    split at found
    next => exact lt_of_unitAt found
    next =>
      split at found
      next =>
        rw [Option.some.injEq, Except.ok.injEq, Prod.mk.injEq] at found
        omega
      next => cases found

/-- The decoded characters from an offset on up to the closing quote, and the offset behind it.
The characters since `chunkStart` have not been taken yet. -/
def chunksAt (source : Source) (quote : Char) (opening : Nat) (value : List Char)
    (chunkStart offset : Nat) : Option (Except SyntaxFault (List Char × Nat)) :=
  match found : charAt? source.body offset with
  | none => some (.error ⟨.unterminatedString, source, opening⟩)
  | some c =>
      have := lt_of_charAt? found
      have := Char.utf8Size_pos c
      if c = '\n' ∨ c = '\r' then some (.error ⟨.unterminatedString, source, opening⟩)
      else if c = quote then
        (cut? source.body chunkStart offset).map fun chunk => .ok (value ++ chunk, offset + 1)
      else if isForbidden c then some (.error ⟨.controlInString c, source, offset⟩)
      else if c = '\\' then
        (cut? source.body chunkStart offset).bind fun chunk =>
          match escaped : escapeAt source opening (offset + 1) with
          | none => none
          | some (.error fault) => some (.error fault)
          | some (.ok (decoded, next)) =>
              have := lt_of_escapeAt escaped
              chunksAt source quote opening (value ++ chunk ++ [decoded]) next next
      else chunksAt source quote opening value chunkStart (offset + c.utf8Size)
termination_by byteLength source.body - offset

def stringAt (source : Source) (quote : Char) (offset : Nat) :
    Option (Except SyntaxFault Token) :=
  (chunksAt source quote offset [] (offset + 1) (offset + 1)).map fun outcome =>
    outcome.map fun (value, stop) => ⟨.string, some (String.ofList value), offset, stop⟩

/-- The first token at or after a byte offset, found by offsets alone. -/
def lexAt (source : Source) (start : Nat) : Option (Except SyntaxFault Token) :=
  let offset := skipIgnored source.body start
  match charAt? source.body offset with
  | none => some (.ok (.eof offset))
  | some c =>
      if isForbidden c then some (.error ⟨.controlCharacter c, source, offset⟩)
      else
        match markAt? source.body offset c with
        | some (kind, length) => some (.ok (.punctuation kind offset length))
        | none =>
            if beginsName c then (wordAt? source offset).map .ok
            else if c.isDigit || c = '-' then numberAt source offset
            else if c = '"' || c = '\'' then stringAt source c offset
            else some (.error ⟨.unexpectedCharacter c, source, offset⟩)

end Definitions

/-- What was read of the text behind an offset, with the offset at which reading ended or failed. -/
def Source.placed {α : Type} (source : Source) :
    Except Misread (α × List Char) → Except SyntaxFault (α × Nat)
  | .ok (value, rest) => .ok (value, source.size - byteLength rest)
  | .error misread => .error ⟨misread.cause, source, source.size - byteLength misread.left⟩

/-- The token of a lexeme that stands at an offset. -/
def Source.shown (source : Source) (offset : Nat) : Except Misread Lexeme → Except SyntaxFault Token
  | .ok lexeme => .ok ⟨lexeme.kind, lexeme.value.map String.ofList, offset,
      offset + byteLength lexeme.written⟩
  | .error misread => .error ⟨misread.cause, source, source.size - byteLength misread.left⟩

variable {source : Source} {offset : Nat} {text rest : List Char} {c : Char}

theorem size_sub (dropped : dropBytes offset source.body = some rest) :
    source.size - byteLength rest = offset := by
  obtain ⟨front, bodyEq, rfl⟩ := dropBytes_eq_some_iff.mp dropped
  rw [Source.size, bodyEq, byteLength_append, Nat.add_sub_cancel]

section Gaps

theorem spanIgnored_space (space : isSpace c = true) (text : List Char) :
    spanIgnored false (c :: text) =
      (c :: (spanIgnored false text).1, (spanIgnored false text).2) := by
  have notComment : c ≠ '#' := by
    rintro rfl
    exact absurd space (by decide)
  simp [spanIgnored, space, notComment]

theorem spanIgnored_inComment (text : List Char) :
    spanIgnored true text =
      (text.takeWhile (fun c => !isForbidden c) ++
        (spanIgnored false (text.dropWhile fun c => !isForbidden c)).1,
      (spanIgnored false (text.dropWhile fun c => !isForbidden c)).2) := by
  induction text with
  | nil => rfl
  | cons c text inductionHypothesis =>
      cases allowed : isForbidden c with
      | false => simp [spanIgnored, allowed, inductionHypothesis]
      | true => simp [spanIgnored, allowed]

theorem skipIgnored_eq {body : List Char} (dropped : dropBytes offset body = some text) :
    skipIgnored body offset = offset + byteLength (spanIgnored false text).1 := by
  fun_induction skipIgnored body offset generalizing text with
  | case1 offset c found inText positive further space inductionHypothesis =>
      obtain ⟨tail, rfl⟩ : ∃ tail, text = c :: tail :=
        List.head?_eq_some_iff.mp ((charAt?_of_dropBytes dropped).symm.trans found)
      rw [inductionHypothesis (dropBytes_next dropped), spanIgnored_space space, byteLength,
        Nat.add_assoc]
  | case2 offset further found inText positive notSpace inductionHypothesis =>
      obtain ⟨tail, rfl⟩ : ∃ tail, text = '#' :: tail :=
        List.head?_eq_some_iff.mp ((charAt?_of_dropBytes dropped).symm.trans found)
      have tailDropped : dropBytes (offset + 1) body = some tail := dropBytes_next dropped
      have comment := skipWhile_eq (p := fun c => !isForbidden c) tailDropped
      have behind := tailDropped
      rw [← tail.takeWhile_append_dropWhile (p := fun c => !isForbidden c)] at behind
      rw [comment] at inductionHypothesis ⊢
      rw [inductionHypothesis (dropBytes_past behind)]
      have signed : (spanIgnored false ('#' :: tail)).1 = '#' :: (spanIgnored true tail).1 := rfl
      rw [signed, spanIgnored_inComment, byteLength, byteLength_append]
      have width : '#'.utf8Size = 1 := rfl
      omega
  | case3 offset c found inText positive further notSpace notComment =>
      obtain ⟨tail, rfl⟩ : ∃ tail, text = c :: tail :=
        List.head?_eq_some_iff.mp ((charAt?_of_dropBytes dropped).symm.trans found)
      rw [spanIgnored_cons (Bool.eq_false_iff.mpr notSpace) notComment]
      rfl
  | case4 offset found =>
      obtain rfl : text = [] :=
        List.head?_eq_none_iff.mp ((charAt?_of_dropBytes dropped).symm.trans found)
      rfl

end Gaps

section Marks

theorem punctuation?_value {lexeme : Lexeme} (found : punctuation? text = some lexeme) :
    lexeme.value = none := by
  unfold punctuation? at found
  split at found <;> cases found <;> rfl

theorem repeated?_one (follow : Char) (kind : TokenKind) (body : List Char) (offset : Nat) :
    repeated? body offset follow 1 kind =
      if charAt? body (offset + 1) = some follow then some (kind, 2) else none := by
  simp [repeated?]

theorem repeated?_two (follow : Char) (kind : TokenKind) (body : List Char) (offset : Nat) :
    repeated? body offset follow 2 kind =
      if charAt? body (offset + 1) = some follow ∧ charAt? body (offset + 2) = some follow then
        some (kind, 3)
      else none := by
  simp [repeated?, List.range_succ]

theorem markAt?_eq {body : List Char} (dropped : dropBytes offset body = some (c :: rest)) :
    markAt? body offset c =
      (punctuation? (c :: rest)).map fun lexeme => (lexeme.kind, byteLength lexeme.written) := by
  have next : c.utf8Size = 1 → charAt? body (offset + 1) = rest.head? := fun width =>
    charAt?_of_dropBytes (width ▸ dropBytes_next dropped)
  unfold markAt?
  split
  case h_13 =>
    have behind := dropBytes_next dropped
    rw [repeated?_two, next rfl]
    rcases rest with _ | ⟨d, rest⟩
    · rfl
    by_cases isPoint : d = '.'
    · subst isPoint
      have last : charAt? body (offset + 2) = rest.head? :=
        charAt?_of_dropBytes (dropBytes_next behind)
      rw [last]
      rcases rest with _ | ⟨e, rest⟩
      · rfl
      by_cases isLast : e = '.'
      · subst isLast
        rfl
      · simp [punctuation?, isLast]
    · simp [punctuation?, isPoint]
  case h_14 | h_15 | h_16 | h_17 =>
    rw [doubled, repeated?_one, next rfl]
    rcases rest with _ | ⟨d, rest⟩
    · rfl
    rw [List.head?_cons]
    split
    next double =>
      cases double
      rfl
    next single =>
      rw [Option.some.injEq] at single
      simp [punctuation?, single]
      rfl
  case h_18 =>
    unfold punctuation?
    split
    all_goals
      first
      | rfl
      | rename_i same
        cases same
        exfalso
        solve_by_elim [rfl]
  all_goals rfl

end Marks

section Words

theorem wordAt?_eq (dropped : dropBytes offset source.body = some text) :
    wordAt? source offset = some ⟨(readWord text).kind, (readWord text).value.map String.ofList,
      offset, offset + byteLength (readWord text).written⟩ := by
  have isCut : cut? source.body offset (offset + byteLength (text.takeWhile continuesName)) =
      some (text.takeWhile continuesName) :=
    cut?_of_dropBytes (by rw [List.takeWhile_append_dropWhile, dropped])
  rw [wordAt?, skipWhile_eq dropped, isCut]
  rfl

end Words

section Numbers

theorem utf8Size_of_isDigit (isDigit : c.isDigit = true) : c.utf8Size = 1 := by
  have bounds := toNat_of_isDigit isDigit
  exact utf8Size_of_ascii (by omega)

theorem skipDigits_eq {body : List Char} (dropped : dropBytes offset body = some text) :
    skipDigits body offset = offset + byteLength (text.takeWhile Char.isDigit) := by
  fun_induction skipDigits body offset generalizing text with
  | case1 offset c found inText isDigit inductionHypothesis =>
      obtain ⟨tail, rfl⟩ : ∃ tail, text = c :: tail :=
        List.head?_eq_some_iff.mp ((charAt?_of_dropBytes dropped).symm.trans found)
      have behind := dropBytes_next dropped
      rw [utf8Size_of_isDigit isDigit] at behind
      rw [inductionHypothesis behind, List.takeWhile_cons_of_pos isDigit, byteLength,
        utf8Size_of_isDigit isDigit, Nat.add_assoc]
  | case2 offset c found inText notDigit =>
      obtain ⟨tail, rfl⟩ : ∃ tail, text = c :: tail :=
        List.head?_eq_some_iff.mp ((charAt?_of_dropBytes dropped).symm.trans found)
      rw [List.takeWhile_cons_of_neg notDigit]
      rfl
  | case3 offset found =>
      obtain rfl : text = [] :=
        List.head?_eq_none_iff.mp ((charAt?_of_dropBytes dropped).symm.trans found)
      rfl

theorem digitsStop_eq (dropped : dropBytes offset source.body = some text) :
    digitsStop source offset = (source.placed (readDigits text)).map Prod.snd := by
  have behind : dropBytes (offset + byteLength (text.takeWhile Char.isDigit)) source.body =
      some (text.dropWhile Char.isDigit) :=
    dropBytes_past (by rw [List.takeWhile_append_dropWhile, dropped])
  have begins : text.head?.any Char.isDigit = true ↔ text.takeWhile Char.isDigit ≠ [] := by
    cases text with
    | nil => simp
    | cons c text => cases isDigit : c.isDigit <;> simp [isDigit]
  unfold digitsStop readDigits spanDigits
  dsimp only
  rw [charAt?_of_dropBytes dropped]
  split
  next some =>
    rw [if_neg (begins.mp some), skipDigits_eq dropped, ← size_sub behind]
    rfl
  next none =>
    rw [if_pos (Decidable.not_not.mp (mt begins.mpr none))]
    simp only [Source.placed, size_sub dropped]
    rfl

theorem wholeStop_eq (dropped : dropBytes offset source.body = some text) :
    wholeStop source offset = (source.placed (readWhole text)).map Prod.snd := by
  unfold wholeStop
  rw [charAt?_of_dropBytes dropped]
  split
  next zero =>
    obtain ⟨tail, rfl⟩ := List.head?_eq_some_iff.mp zero
    have behind : dropBytes (offset + 1) source.body = some tail := dropBytes_next dropped
    rw [charAt?_of_dropBytes behind]
    split
    next digit found =>
      obtain ⟨isHead, isDigit⟩ := Option.filter_eq_some_iff.mp found
      obtain ⟨more, rfl⟩ := List.head?_eq_some_iff.mp isHead
      rw [readWhole_error_iff.mpr (.inl ⟨digit, more, rfl, isDigit, rfl⟩)]
      simp only [Source.placed, size_sub behind]
      rfl
    next none =>
      have stops : BeginsWithoutDigit tail := by
        intro c isHead
        have notDigit := Option.filter_eq_none_iff.mp none c isHead
        exact Bool.eq_false_iff.mpr notDigit
      have read : readWhole (['0'] ++ tail) = .ok (['0'], tail) := readWhole_append (.inl rfl) stops
      rw [List.singleton_append] at read
      rw [read]
      simp only [Source.placed, size_sub behind]
      rfl
  next notZero =>
    have read : readWhole text = readDigits text := by
      unfold readWhole
      split
      next => exact absurd rfl notZero
      next => rfl
    rw [read, digitsStop_eq dropped]

theorem fractionStop_eq (dropped : dropBytes offset source.body = some text) :
    fractionStop source offset = (source.placed (readFraction text)).map Prod.snd := by
  unfold fractionStop
  rw [charAt?_of_dropBytes dropped]
  split
  next point =>
    obtain ⟨tail, rfl⟩ := List.head?_eq_some_iff.mp point
    have behind : dropBytes (offset + 1) source.body = some tail := dropBytes_next dropped
    rw [digitsStop_eq behind, readFraction]
    cases readDigits tail <;> rfl
  next noPoint =>
    have read : readFraction text = .ok ([], text) := by
      unfold readFraction
      split
      next => exact absurd rfl noPoint
      next => rfl
    rw [read]
    simp only [Source.placed, size_sub dropped]
    rfl

theorem dropBytes_spanSign (dropped : dropBytes offset source.body = some text) :
    dropBytes (if charAt? source.body offset = some '+' ∨ charAt? source.body offset = some '-' then
      offset + 1 else offset) source.body = some (spanSign text).2 := by
  rw [charAt?_of_dropBytes dropped]
  fun_cases spanSign text with
  | case1 rest => exact dropBytes_next dropped
  | case2 rest => exact dropBytes_next dropped
  | case3 text noPlus noMinus =>
    rw [if_neg, dropped]
    rintro (isPlus | isMinus)
    · obtain ⟨tail, rfl⟩ := List.head?_eq_some_iff.mp isPlus
      exact noPlus tail rfl
    · obtain ⟨tail, rfl⟩ := List.head?_eq_some_iff.mp isMinus
      exact noMinus tail rfl

theorem powerStop_eq (dropped : dropBytes offset source.body = some text) :
    powerStop source offset = (source.placed (readPower text)).map Prod.snd := by
  unfold powerStop readPower
  rw [charAt?_of_dropBytes dropped]
  cases text with
  | nil =>
      simp only [Source.placed, size_sub dropped]
      rfl
  | cons marker tail =>
      simp only [List.head?_cons, Option.some.injEq]
      split
      next isMarker =>
        have width : marker.utf8Size = 1 := by
          rcases isMarker with rfl | rfl <;> rfl
        have behind : dropBytes (offset + 1) source.body = some tail :=
          width ▸ dropBytes_next dropped
        rw [digitsStop_eq (dropBytes_spanSign behind)]
        cases readDigits (spanSign tail).2 <;> rfl
      next notMarker =>
        simp only [Source.placed, size_sub dropped]
        rfl

theorem numberAt_eq (dropped : dropBytes offset source.body = some text) :
    numberAt source offset = some (source.shown offset (readNumber text)) := by
  obtain ⟨negative, unsigned, spanned, rfl, noMinus⟩ := exists_spanMinus text
  have behindSign := dropBytes_past dropped
  have start : (if charAt? source.body offset = some '-' then offset + 1 else offset) =
      offset + byteLength (minusSign negative) := by
    rw [charAt?_of_dropBytes dropped]
    cases negative with
    | true => rfl
    | false =>
        rw [if_neg]
        · rfl
        · exact fun isMinus => noMinus rfl '-' isMinus rfl
  simp only [numberAt, numberStops, start, readNumber, spanned, wholeStop_eq behindSign]
  cases wholeRead : readWhole unsigned with
  | error misread => rfl
  | ok wholePair =>
      obtain ⟨whole, afterWhole⟩ := wholePair
      obtain ⟨rfl, _, _⟩ := readWhole_ok_iff.mp wholeRead
      have behindWhole := dropBytes_past behindSign
      simp only [Source.placed, Except.map, bind, Except.bind, size_sub behindWhole,
        fractionStop_eq behindWhole]
      cases fractionRead : readFraction afterWhole with
      | error misread => rfl
      | ok fractionPair =>
          obtain ⟨fraction, afterFraction⟩ := fractionPair
          obtain ⟨_, _, _, rfl, _⟩ := exists_of_readFraction fractionRead
          have behindFraction := dropBytes_past behindWhole
          simp only [Source.placed, size_sub behindFraction, powerStop_eq behindFraction]
          cases powerRead : readPower afterFraction with
          | error misread => rfl
          | ok powerPair =>
              obtain ⟨power, left⟩ := powerPair
              obtain ⟨_, _, rfl, _⟩ := exists_of_readPower powerRead
              have behindPower := dropBytes_past behindFraction
              let written := minusSign negative ++ whole ++ fraction ++ power
              have writtenLength : offset + byteLength written = offset +
                  byteLength (minusSign negative) + byteLength whole + byteLength fraction +
                    byteLength power := by
                simp only [written, byteLength_append, Nat.add_assoc]
              have isCut : cut? source.body offset (offset + byteLength written) = some written :=
                cut?_of_dropBytes (by simpa only [written, List.append_assoc] using dropped)
              have isInt : offset + byteLength written =
                  offset + byteLength (minusSign negative) + byteLength whole ↔
                    fraction = [] ∧ power = [] := by
                rw [writtenLength, ← byteLength_eq_zero, ← byteLength_eq_zero]
                omega
              simp only [Except.map, size_sub behindPower, pure, Except.pure, ← writtenLength,
                isCut, isInt]
              rfl

end Numbers

section Escapes

variable {opening unit : Nat} {digits : List Char}

theorem utf8Size_of_hexDigit? {value : Nat} (found : hexDigit? c = some value) :
    c.utf8Size = 1 := by
  have ascii {most : Char} (bound : most.toNat < 0x80) (atMost : c ≤ most) : c.toNat < 0x80 :=
    Nat.lt_of_le_of_lt atMost bound
  refine utf8Size_of_ascii ?_
  unfold hexDigit? at found
  split at found
  next isDecimal => exact ascii (by decide) isDecimal.2
  next =>
    split at found
    next isLower => exact ascii (by decide) isLower.2
    next =>
      split at found
      next isUpper => exact ascii (by decide) isUpper.2
      next => cases found

theorem IsCodeUnit.byteLength_eq (names : IsCodeUnit digits unit) : byteLength digits = 4 := by
  cases names with
  | intro first second third fourth =>
      rw [← hexDigit?_eq] at first second third fourth
      simp only [byteLength, utf8Size_of_hexDigit? first, utf8Size_of_hexDigit? second,
        utf8Size_of_hexDigit? third, utf8Size_of_hexDigit? fourth]

theorem dropBytes_of_readCodeUnit? {body : List Char} (dropped : dropBytes offset body = some text)
    (read : readCodeUnit? text = some (unit, rest)) : dropBytes (offset + 4) body = some rest := by
  obtain ⟨digits, rfl, names⟩ := readCodeUnit?_eq_some_iff.mp read
  have behind := dropBytes_past dropped
  rwa [names.byteLength_eq] at behind

theorem unitDigitsAt_eq {body : List Char} (dropped : dropBytes offset body = some ('u' :: text)) :
    unitDigitsAt body offset = some (match readCodeUnit? text with
      | some (unit, _) => .ok unit
      | none => .error ('u' :: text.take 4)) := by
  have behind : dropBytes (offset + 1) body = some text := dropBytes_next dropped
  unfold unitDigitsAt
  cases read : readCodeUnit? text with
  | some pair =>
      obtain ⟨unit, rest⟩ := pair
      obtain ⟨digits, rfl, names⟩ := readCodeUnit?_eq_some_iff.mp read
      have isCut := cut?_of_dropBytes behind
      have digitsRead : readCodeUnit? digits = some (unit, []) :=
        readCodeUnit?_eq_some_iff.mpr ⟨digits, (List.append_nil _).symm, names⟩
      rw [names.byteLength_eq] at isCut
      rw [isCut, Option.bind_some, digitsRead]
  | none =>
      have noDigits : (cut? body (offset + 1) (offset + 5)).bind readCodeUnit? = none := by
        refine Option.bind_eq_none_iff.mpr fun part isCut => ?_
        refine Option.eq_none_iff_forall_ne_some.mpr fun (unit, left) partRead => ?_
        obtain ⟨digits, rfl, names⟩ := readCodeUnit?_eq_some_iff.mp partRead
        obtain ⟨after, droppedAgain⟩ := dropBytes_of_cut? isCut
        cases behind.symm.trans droppedAgain
        have textRead := readCodeUnit?_eq_some_iff.mpr
          ⟨digits, List.append_assoc digits left after, names⟩
        cases read.symm.trans textRead
      rw [noDigits, dropped]
      rfl

theorem lowUnitAt_eq {body : List Char} (dropped : dropBytes offset body = some text) :
    lowUnitAt body offset = some ((lowSurrogate? text).map Prod.fst) := by
  unfold lowUnitAt
  rw [dropped, Option.bind_some]
  fun_cases lowSurrogate? text with
  | case1 rest =>
      have behind : dropBytes (offset + 1) body = some ('u' :: rest) := dropBytes_next dropped
      have isEscape : ['\\', 'u'].isPrefixOf ('\\' :: 'u' :: rest) = true := rfl
      rw [if_pos isEscape, unitDigitsAt_eq behind]
      cases readCodeUnit? rest with
      | none => rfl
      | some pair =>
          obtain ⟨unit, after⟩ := pair
          cases isLow : isLowSurrogate unit <;> simp [Except.toOption, Option.filter, isLow]
  | case2 _ noEscape =>
      rw [if_neg]
      · rfl
      · intro isEscape
        obtain ⟨rest, rfl⟩ := List.isPrefixOf_iff_prefix.mp isEscape
        exact noEscape rest rfl

theorem dropBytes_of_lowSurrogate? {body : List Char} (dropped : dropBytes offset body = some text)
    (found : lowSurrogate? text = some (unit, rest)) :
    dropBytes (offset + 6) body = some rest := by
  unfold lowSurrogate? at found
  split at found
  next tail =>
    have behindSlash : dropBytes (offset + 1) body = some ('u' :: tail) := dropBytes_next dropped
    have behindLetter : dropBytes (offset + 1 + 1) body = some tail := dropBytes_next behindSlash
    exact dropBytes_of_readCodeUnit? behindLetter (Option.filter_eq_some_iff.mp found).1
  next => cases found

theorem unitAt_eq (dropped : dropBytes offset source.body = some ('\\' :: 'u' :: text)) :
    unitAt source offset (offset + 1) =
      some (source.placed ((unescapeUnit text).mapError (⟨·, '\\' :: 'u' :: text⟩))) := by
  have behindSlash : dropBytes (offset + 1) source.body = some ('u' :: text) :=
    dropBytes_next dropped
  have behindLetter : dropBytes (offset + 1 + 1) source.body = some text :=
    dropBytes_next behindSlash
  unfold unitAt unescapeUnit
  rw [unitDigitsAt_eq behindSlash, Option.bind_some]
  cases read : readCodeUnit? text with
  | none =>
      simp only [Except.mapError, Source.placed, size_sub dropped]
  | some pair =>
      obtain ⟨unit, rest⟩ := pair
      have behindUnit : dropBytes (offset + 1 + 5) source.body = some rest :=
        dropBytes_of_readCodeUnit? behindLetter read
      dsimp only
      split
      next isHigh =>
        rw [lowUnitAt_eq behindUnit]
        cases lowRead : lowSurrogate? rest with
        | none =>
            simp only [Option.map_none, Option.map_some, Except.mapError, Source.placed,
              size_sub dropped]
        | some lowPair =>
            have behindLow := dropBytes_of_lowSurrogate? behindUnit lowRead
            simp only [Option.map_some, Except.mapError, Source.placed, size_sub behindLow]
      next notHigh =>
        split
        next => simp only [Except.mapError, Source.placed, size_sub dropped]
        next => simp only [Except.mapError, Source.placed, size_sub behindUnit]

theorem escapeAt_eq (dropped : dropBytes offset source.body = some ('\\' :: c :: text)) :
    escapeAt source opening (offset + 1) =
      some (source.placed ((unescape c text).mapError (⟨·, '\\' :: c :: text⟩))) := by
  have behindSlash : dropBytes (offset + 1) source.body = some (c :: text) :=
    dropBytes_next dropped
  unfold escapeAt unescape
  rw [charAt?_of_dropBytes behindSlash, List.head?_cons]
  dsimp only
  split
  next isUnit =>
    subst isUnit
    exact unitAt_eq dropped
  next =>
    cases simpleEscape? c with
    | some decoded =>
        simp only [Except.mapError, Source.placed, size_sub (dropBytes_next behindSlash)]
    | none => simp only [Except.mapError, Source.placed, size_sub dropped, Nat.add_sub_cancel]

end Escapes

section Strings

variable {quote : Char} {opening chunkStart : Nat} {openingText value chunk : List Char}

theorem chunksAt_of_nil (dropped : dropBytes offset source.body = some []) :
    chunksAt source quote opening value chunkStart offset =
      some (.error ⟨.unterminatedString, source, opening⟩) := by
  have none := charAt?_of_dropBytes dropped
  rw [chunksAt]
  split
  next => rfl
  next found => cases none.symm.trans found

theorem chunksAt_of_cons (dropped : dropBytes offset source.body = some (c :: rest)) :
    chunksAt source quote opening value chunkStart offset =
      if c = '\n' ∨ c = '\r' then some (.error ⟨.unterminatedString, source, opening⟩)
      else if c = quote then
        (cut? source.body chunkStart offset).map fun chunk => .ok (value ++ chunk, offset + 1)
      else if isForbidden c then some (.error ⟨.controlInString c, source, offset⟩)
      else if c = '\\' then
        (cut? source.body chunkStart offset).bind fun chunk =>
          (escapeAt source opening (offset + 1)).bind fun
            | .error fault => some (.error fault)
            | .ok (decoded, next) =>
                chunksAt source quote opening (value ++ chunk ++ [decoded]) next next
      else chunksAt source quote opening value chunkStart (offset + c.utf8Size) := by
  have isHead := charAt?_of_dropBytes dropped
  rw [chunksAt]
  split
  next none => cases isHead.symm.trans none
  next other found =>
    cases isHead.symm.trans found
    have escapes (chunk : List Char) :
        (match escaped : escapeAt source opening (offset + 1) with
        | none => none
        | some (.error fault) => some (.error fault)
        | some (.ok (decoded, next)) =>
            chunksAt source quote opening (value ++ chunk ++ [decoded]) next next) =
        (escapeAt source opening (offset + 1)).bind fun
          | .error fault => some (.error fault)
          | .ok (decoded, next) =>
              chunksAt source quote opening (value ++ chunk ++ [decoded]) next next := by
      split
      next none => rw [none]; rfl
      next failed => rw [failed]; rfl
      next read => rw [read]; rfl
    simp only [escapes]

theorem chunksAt_eq (isQuote : IsQuote quote) (dropped : dropBytes offset source.body = some text)
    (opened : dropBytes opening source.body = some openingText)
    (isCut : cut? source.body chunkStart offset = some chunk) :
    chunksAt source quote opening value chunkStart offset =
      some (source.placed ((readQuoted quote openingText text).map fun (decoded, rest) =>
        (value ++ chunk ++ decoded, rest))) := by
  fun_induction readQuoted quote openingText text generalizing offset chunkStart value chunk with
  | case1 =>
      rw [chunksAt_of_nil dropped, ← size_sub opened]
      rfl
  | case2 c rest isEnd =>
      rw [chunksAt_of_cons dropped, if_pos isEnd, ← size_sub opened]
      rfl
  | case3 rest notEnd =>
      have width : quote.utf8Size = 1 := by
        rcases isQuote with rfl | rfl <;> rfl
      have behind : dropBytes (offset + 1) source.body = some rest := width ▸ dropBytes_next dropped
      rw [chunksAt_of_cons dropped, if_neg notEnd, if_pos rfl, isCut]
      simp only [Option.map_some, Except.map, Source.placed, size_sub behind, List.append_nil]
  | case4 c rest notEnd notQuote forbidden =>
      rw [chunksAt_of_cons dropped, if_neg notEnd, if_neg notQuote, if_pos forbidden]
      simp only [Except.map, Source.placed, size_sub dropped]
  | case5 notEnd notQuote allowed =>
      rw [chunksAt_of_cons dropped, if_neg notEnd, if_neg notQuote, if_neg allowed, if_pos rfl,
        isCut, Option.bind_some]
      have behind : dropBytes (offset + 1) source.body = some [] := dropBytes_next dropped
      rw [escapeAt, charAt?_of_dropBytes behind, ← size_sub opened]
      rfl
  | case6 escaped tail cause found notEnd notQuote allowed =>
      rw [chunksAt_of_cons dropped, if_neg notEnd, if_neg notQuote, if_neg allowed, if_pos rfl,
        isCut, Option.bind_some, escapeAt_eq dropped, found]
      rfl
  | case7 escaped tail decoded after found shorter notEnd notQuote allowed inductionHypothesis =>
      rw [chunksAt_of_cons dropped, if_neg notEnd, if_neg notQuote, if_neg allowed, if_pos rfl,
        isCut, Option.bind_some, escapeAt_eq dropped, found]
      obtain ⟨written, writtenEq, _⟩ := isEscape_of_unescape found
      have behind := dropBytes_past (writtenEq ▸ dropped)
      have nothing : cut? source.body (offset + byteLength written) (offset + byteLength written) =
          some [] := cut?_of_dropBytes (show dropBytes _ _ = some ([] ++ after) from behind)
      simp only [Except.mapError, Source.placed, size_sub behind, Option.bind_some]
      rw [inductionHypothesis behind nothing]
      cases readQuoted quote openingText after <;> simp [Except.map, Source.placed]
  | case8 other rest notEnd notQuote allowed plain inductionHypothesis =>
      rw [chunksAt_of_cons dropped, if_neg notEnd, if_neg notQuote, if_neg allowed, if_neg plain,
        inductionHypothesis (dropBytes_next dropped) (cut?_next isCut dropped)]
      cases readQuoted quote openingText rest <;> simp [Except.map]

theorem stringAt_eq (isQuote : IsQuote quote)
    (dropped : dropBytes offset source.body = some (quote :: rest)) :
    stringAt source quote offset = some (source.shown offset (readString quote rest)) := by
  have width : quote.utf8Size = 1 := by
    rcases isQuote with rfl | rfl <;> rfl
  have behind : dropBytes (offset + 1) source.body = some rest := width ▸ dropBytes_next dropped
  have nothing : cut? source.body (offset + 1) (offset + 1) = some [] :=
    cut?_of_dropBytes (show dropBytes _ _ = some ([] ++ rest) from behind)
  rw [stringAt, chunksAt_eq isQuote behind dropped nothing]
  cases read : readQuoted quote (quote :: rest) rest with
  | error misread =>
      rw [readString, read]
      rfl
  | ok pair =>
      obtain ⟨value, left⟩ := pair
      obtain ⟨items, rfl, decodes⟩ := exists_decodes_of_readQuoted read
      have stringRead := (readString_ok_iff isQuote).mpr ⟨items, value, left, rfl, decodes, rfl⟩
      have stops : dropBytes (offset + byteLength (quote :: items ++ [quote])) source.body =
          some left := dropBytes_past (by simpa using dropped)
      rw [stringRead]
      simp only [Option.map_some, Except.map, Source.placed, size_sub stops]
      rfl

end Strings

section Tokens

variable {start : Nat} {tail : List Char}

theorem readLexeme_shown (dropped : dropBytes offset source.body = some (c :: tail)) :
    (if isForbidden c then some (.error ⟨.controlCharacter c, source, offset⟩)
      else
        match markAt? source.body offset c with
        | some (kind, length) => some (.ok (.punctuation kind offset length))
        | none =>
            if beginsName c then (wordAt? source offset).map .ok
            else if c.isDigit || c = '-' then numberAt source offset
            else if c = '"' || c = '\'' then stringAt source c offset
            else some (.error ⟨.unexpectedCharacter c, source, offset⟩)) =
      some (source.shown offset (readLexeme c tail)) := by
  unfold readLexeme
  dsimp only
  split
  next => simp only [Source.shown, size_sub dropped]
  next =>
    rw [markAt?_eq dropped]
    cases found : punctuation? (c :: tail) with
    | some lexeme =>
        simp only [Option.map_some, Source.shown, Token.punctuation, punctuation?_value found,
          Option.map_none]
    | none =>
        rw [Option.map_none]
        dsimp only
        split
        next =>
          rw [wordAt?_eq dropped]
          rfl
        next =>
          split
          next => exact numberAt_eq dropped
          next =>
            split
            next quotes => exact stringAt_eq (isQuote_iff.mp quotes) dropped
            next => simp only [Source.shown, size_sub dropped]

theorem tokenAt_of_cons (dropped : dropBytes start source.body = some text)
    (spanned : (spanIgnored false text).2 = c :: tail) :
    dropBytes (start + byteLength (spanIgnored false text).1) source.body = some (c :: tail) ∧
      source.tokenAt start =
        source.shown (start + byteLength (spanIgnored false text).1) (readLexeme c tail) := by
  have textEq := spanIgnored_append false text
  have behind : dropBytes (start + byteLength (spanIgnored false text).1) source.body =
      some (c :: tail) := dropBytes_past (by rw [← spanned, textEq, dropped])
  refine ⟨behind, ?_⟩
  simp only [Source.tokenAt, dropped, Source.scanText, spanned]
  cases read : readLexeme c tail with
  | ok lexeme => rfl
  | error misread =>
      obtain ⟨front, sameText, _⟩ := readLexeme_error read
      rw [sameText] at behind ⊢
      simp only [Source.shown, size_sub (dropBytes_past behind), byteLength_append,
        Nat.add_sub_cancel]

/-- Every cut succeeds, at every offset of every source, and the outcome is the same. -/
theorem lexAt_eq (source : Source) (start : Nat) :
    lexAt source start = some (source.tokenAt start) := by
  unfold lexAt
  cases dropped : dropBytes start source.body with
  | none =>
      have noChar : charAt? source.body start = none := by
        rw [charAt?, dropped, Option.bind_none]
      have stays : skipIgnored source.body start = start := by
        rw [skipIgnored]
        split
        next found => cases noChar.symm.trans found
        next => rfl
      simp only [stays, noChar, Source.tokenAt, dropped]
  | some text =>
      simp only [skipIgnored_eq dropped]
      cases spanned : (spanIgnored false text).2 with
      | nil =>
          have textEq := spanIgnored_append false text
          rw [spanned, List.append_nil] at textEq
          have behind : dropBytes (start + byteLength (spanIgnored false text).1) source.body =
              some [] := dropBytes_past (by rw [textEq, List.append_nil, dropped])
          rw [charAt?_of_dropBytes behind]
          simp only [Source.tokenAt, dropped, Source.scanText, spanned]
          rfl
      | cons c tail =>
          obtain ⟨behind, tokenEq⟩ := tokenAt_of_cons dropped spanned
          rw [charAt?_of_dropBytes behind, tokenEq]
          exact readLexeme_shown behind

end Tokens

end QueryPlanner.Condition
