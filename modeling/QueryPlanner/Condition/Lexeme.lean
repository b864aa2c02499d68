import QueryPlanner.Condition.Fault
import QueryPlanner.Condition.Token
import QueryPlanner.Number.Decimal
import QueryPlanner.Text.Numeric

/-!
Reading one token at the front of a text.

The functions here know nothing of offsets: they take the text from the place of reading on, and
say where something is wrong by the text that is left there.
-/

namespace QueryPlanner.Condition

open QueryPlanner.Number QueryPlanner.Text

/-- A token as it stands at the front of a text. -/
structure Lexeme where
  kind : TokenKind
  written : List Char
  /-- The decoded value of names, numbers, strings and booleans. -/
  value : Option (List Char)
  deriving DecidableEq

/-- A cause, and the text from the fault on. -/
structure Misread where
  cause : SyntaxCause
  left : List Char
  deriving DecidableEq

/-- The characters between tokens that mean nothing. -/
def isSpace (c : Char) : Bool :=
  c = ' ' || c = '\t' || c = '\n' || c = '\r' || c = '\uFEFF'

/-- Control characters other than the tab, which are allowed in no token and in no comment. -/
def isForbidden (c : Char) : Bool :=
  c.toNat < 0x20 && c ≠ '\t'

/-- The space and the comments at the front of a text, and what follows them.  A comment begins
with a number sign and runs up to a control character other than the tab, so also to the end of
its line; `inComment` says that the text begins inside one. -/
def spanIgnored : (inComment : Bool) → List Char → List Char × List Char
  | _, [] => ([], [])
  | inComment, c :: rest =>
      let continues := inComment && !isForbidden c
      if continues || isSpace c || c = '#' then
        let (ignored, left) := spanIgnored (continues || c = '#') rest
        (c :: ignored, left)
      else ([], c :: rest)

/-- The punctuation mark at the front of a text, the longest where one is the beginning of
another. -/
def punctuation? : List Char → Option Lexeme
  | '$' :: _ => some ⟨.dollar, ['$'], none⟩
  | '(' :: _ => some ⟨.parenL, ['('], none⟩
  | ')' :: _ => some ⟨.parenR, [')'], none⟩
  | ':' :: _ => some ⟨.colon, [':'], none⟩
  | '@' :: _ => some ⟨.at, ['@'], none⟩
  | '[' :: _ => some ⟨.bracketL, ['['], none⟩
  | ']' :: _ => some ⟨.bracketR, [']'], none⟩
  | '{' :: _ => some ⟨.braceL, ['{'], none⟩
  | '}' :: _ => some ⟨.braceR, ['}'], none⟩
  | ',' :: _ => some ⟨.comma, [','], none⟩
  | '<' :: _ => some ⟨.lessThan, ['<'], none⟩
  | '>' :: _ => some ⟨.greaterThan, ['>'], none⟩
  | '.' :: '.' :: '.' :: _ => some ⟨.spread, ['.', '.', '.'], none⟩
  | '&' :: '&' :: _ => some ⟨.and, ['&', '&'], none⟩
  | '&' :: _ => some ⟨.and, ['&'], none⟩
  | '|' :: '|' :: _ => some ⟨.or, ['|', '|'], none⟩
  | '|' :: _ => some ⟨.pipe, ['|'], none⟩
  | '=' :: '=' :: _ => some ⟨.equals, ['=', '='], none⟩
  | '=' :: _ => some ⟨.equals, ['='], none⟩
  | '!' :: '=' :: _ => some ⟨.not, ['!', '='], none⟩
  | '!' :: _ => some ⟨.bang, ['!'], none⟩
  | _ => none

def beginsName (c : Char) : Bool :=
  c = '_' || isAlphabetic c

def continuesName (c : Char) : Bool :=
  c = '_' || isAlphanumeric c

def equalsIgnoringCase (left right : List Char) : Bool :=
  left.map Char.toLower = right.map Char.toLower

/-- Whether a word is one of the two truth values, in any case. -/
def isTruthValue (word : List Char) : Bool :=
  equalsIgnoringCase word ['t', 'r', 'u', 'e'] || equalsIgnoringCase word ['f', 'a', 'l', 's', 'e']

def readWord (text : List Char) : Lexeme :=
  let word := text.takeWhile continuesName
  ⟨if isTruthValue word then .boolean else .name, word, some word⟩

/-- The digits at the front of a text, of which there has to be one, and what follows them. -/
def readDigits (text : List Char) : Except Misread (List Char × List Char) :=
  let (digits, rest) := spanDigits text
  if digits = [] then .error ⟨.missingDigit text.head?, text⟩ else .ok (digits, rest)

/-- The whole part of a number: a zero alone, or digits that do not begin with one. -/
def readWhole (text : List Char) : Except Misread (List Char × List Char) :=
  match text with
  | '0' :: c :: rest =>
      if c.isDigit then .error ⟨.digitAfterZero c, c :: rest⟩ else readDigits text
  | _ => readDigits text

/-- The fraction of a number: nothing, or a point and digits. -/
def readFraction (text : List Char) : Except Misread (List Char × List Char) :=
  match text with
  | '.' :: rest => do
      let (digits, rest) ← readDigits rest
      return ('.' :: digits, rest)
  | _ => .ok ([], text)

/-- A sign at the front of a text, as it is written, and what follows it. -/
def spanSign : List Char → List Char × List Char
  | '+' :: rest => (['+'], rest)
  | '-' :: rest => (['-'], rest)
  | text => ([], text)

/-- The power of ten of a number: nothing, or a letter, perhaps a sign, and digits. -/
def readPower (text : List Char) : Except Misread (List Char × List Char) :=
  match text with
  | [] => .ok ([], [])
  | marker :: rest =>
      if marker = 'e' ∨ marker = 'E' then do
        let (sign, rest) := spanSign rest
        let (digits, rest) ← readDigits rest
        return (marker :: sign ++ digits, rest)
      else .ok ([], text)

/-- A minus sign at the front of a text, as it is written, and what follows it. -/
def spanMinus : List Char → List Char × List Char
  | '-' :: rest => (['-'], rest)
  | text => ([], text)

def readNumber (text : List Char) : Except Misread Lexeme := do
  let (sign, rest) := spanMinus text
  let (whole, rest) ← readWhole rest
  let (fraction, rest) ← readFraction rest
  let (power, _) ← readPower rest
  let written := sign ++ whole ++ fraction ++ power
  let kind := if fraction = [] ∧ power = [] then TokenKind.int else .float
  return ⟨kind, written, some written⟩

/-- The characters that a backslash and one letter or mark stand for. -/
def simpleEscape? : Char → Option Char
  | '"' => some '"'
  | '\'' => some '\''
  | '/' => some '/'
  | '\\' => some '\\'
  | 'b' => some '\x08'
  | 'f' => some '\x0C'
  | 'n' => some '\n'
  | 'r' => some '\r'
  | 't' => some '\t'
  | _ => none

/-- The low surrogate whose escape stands at the front of a text, and what follows it. -/
def lowSurrogate? : List Char → Option (Nat × List Char)
  | '\\' :: 'u' :: rest => (readCodeUnit? rest).filter fun (unit, _) => isLowSurrogate unit
  | _ => none

/-- The character that an escape by code unit stands for, and what follows it.  The text begins
after the letter of the escape; a high surrogate needs a second escape with a low one. -/
def unescapeUnit (text : List Char) : Except SyntaxCause (Char × List Char) :=
  match readCodeUnit? text with
  | none => .error (.malformedEscape ('u' :: text.take 4))
  | some (unit, rest) =>
      if isHighSurrogate unit then
        match lowSurrogate? rest with
        | some (low, rest) => .ok (Char.ofNat (surrogatePair unit low), rest)
        | none => .error (.unpairedSurrogate unit)
      else if isLowSurrogate unit then .error (.surrogateEscape unit)
      else .ok (Char.ofNat unit, rest)

/-- The character that an escape stands for, and what follows it.  The escape begins with `c`
after its backslash. -/
def unescape (c : Char) (text : List Char) : Except SyntaxCause (Char × List Char) :=
  if c = 'u' then unescapeUnit text
  else
    match simpleEscape? c with
    | some decoded => .ok (decoded, text)
    | none => .error (.unknownEscape c)

theorem length_of_lowSurrogate? {text rest : List Char} {unit : Nat}
    (found : lowSurrogate? text = some (unit, rest)) : rest.length < text.length := by
  unfold lowSurrogate? at found
  split at found
  next =>
    have shorter := length_of_readCodeUnit? (Option.mem_filter_iff.mp found).1
    simp only [List.length_cons]
    omega
  next => cases found

theorem length_of_unescapeUnit {text rest : List Char} {decoded : Char}
    (found : unescapeUnit text = .ok (decoded, rest)) : rest.length < text.length := by
  unfold unescapeUnit at found
  split at found
  next => cases found
  next unit tail unitFound =>
    have shorter := length_of_readCodeUnit? unitFound
    split at found
    next =>
      split at found
      next low tailAfter lowFound =>
        have shorterAgain := length_of_lowSurrogate? lowFound
        simp only [Except.ok.injEq, Prod.mk.injEq] at found
        obtain ⟨_, rfl⟩ := found
        omega
      next => cases found
    next =>
      split at found
      next => cases found
      next =>
        simp only [Except.ok.injEq, Prod.mk.injEq] at found
        obtain ⟨_, rfl⟩ := found
        omega

theorem length_of_unescape {c decoded : Char} {text rest : List Char}
    (found : unescape c text = .ok (decoded, rest)) : rest.length ≤ text.length := by
  unfold unescape at found
  split at found
  next => exact Nat.le_of_lt (length_of_unescapeUnit found)
  next =>
    split at found
    next =>
      cases found
      exact Nat.le_refl _
    next => cases found

/-- The decoded characters up to the closing quote, and what follows the quote.  A string that is
not closed on its line is a fault of its opening. -/
def readQuoted (quote : Char) (opening text : List Char) :
    Except Misread (List Char × List Char) :=
  match text with
  | [] => .error ⟨.unterminatedString, opening⟩
  | c :: rest =>
      if c = '\n' ∨ c = '\r' then .error ⟨.unterminatedString, opening⟩
      else if c = quote then .ok ([], rest)
      else if isForbidden c then .error ⟨.controlInString c, c :: rest⟩
      else if c = '\\' then
        match rest with
        | [] => .error ⟨.unterminatedString, opening⟩
        | escaped :: tail =>
            match found : unescape escaped tail with
            | .error cause => .error ⟨cause, c :: escaped :: tail⟩
            | .ok (decoded, left) =>
                have := length_of_unescape found
                (readQuoted quote opening left).map fun (value, after) => (decoded :: value, after)
      else (readQuoted quote opening rest).map fun (value, after) => (c :: value, after)
termination_by text.length
decreasing_by
  all_goals
    simp only [List.length_cons]
    omega

/-- The string at the front of a text, which begins with its quote. -/
def readString (quote : Char) (rest : List Char) : Except Misread Lexeme := do
  let text := quote :: rest
  let (value, left) ← readQuoted quote text rest
  return ⟨.string, text.take (text.length - left.length), some value⟩

/-- The token at the front of a text that begins with the character `c`, which is not ignored. -/
def readLexeme (c : Char) (rest : List Char) : Except Misread Lexeme :=
  let text := c :: rest
  if isForbidden c then .error ⟨.controlCharacter c, text⟩
  else
    match punctuation? text with
    | some lexeme => .ok lexeme
    | none =>
        if beginsName c then .ok (readWord text)
        else if c.isDigit || c = '-' then readNumber text
        else if c = '"' || c = '\'' then readString c rest
        else .error ⟨.unexpectedCharacter c, text⟩

end QueryPlanner.Condition
