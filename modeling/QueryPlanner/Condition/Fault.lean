import QueryPlanner.Text.Hexadecimal
import QueryPlanner.Text.Lines

/-!
Condition text, and what can be wrong with it before its tokens are looked at.
-/

namespace QueryPlanner.Condition

open QueryPlanner.Text

/-- The text of a condition.  Its lines end in line feeds, so that offsets do not depend on where
the text came from. -/
structure Source where
  body : List Char
  deriving DecidableEq

def Source.ofString (text : String) : Source :=
  ⟨normalizeLineEnds text.toList⟩

def Source.size (source : Source) : Nat :=
  byteLength source.body

inductive SyntaxCause where
  | controlCharacter (c : Char)
  | unexpectedCharacter (c : Char)
  | digitAfterZero (digit : Char)
  /-- A digit is missing; `found` stands in its place, nothing at the end of the text. -/
  | missingDigit (found : Option Char)
  | unterminatedString
  | controlInString (c : Char)
  | unknownEscape (c : Char)
  /-- Four hexadecimal digits are missing; `shown` begins with the letter of the escape. -/
  | malformedEscape (shown : List Char)
  | unpairedSurrogate (unit : Nat)
  | surrogateEscape (unit : Nat)
  deriving DecidableEq

/-- A character in a message: as it is, or by its code point if it is a control character. -/
def describeChar (c : Char) : List Char :=
  let shown := if c.toNat < 0x20 ∨ (0x7F ≤ c.toNat ∧ c.toNat ≤ 0x9F) then
    '\\' :: 'u' :: upperHex c.toNat else [c]
  '"' :: shown ++ ['"']

def describeFound : Option Char → String
  | some c => String.ofList (describeChar c)
  | none => "<EOF>"

def describeUnit (unit : Nat) : String :=
  "\\u" ++ String.ofList (upperHex unit)

def SyntaxCause.message : SyntaxCause → String
  | controlCharacter c => "Invalid character \"" ++ describeUnit c.toNat ++ "\"."
  | unexpectedCharacter c => "Unexpected character " ++ describeFound (some c)
  | digitAfterZero digit =>
      "Invalid number, unexpected digit after 0: " ++ describeFound (some digit)
  | missingDigit found => "Invalid number, expected digit but got: " ++ describeFound found
  | unterminatedString => "Unterminated string."
  | controlInString c => "Invalid character within String: \"" ++ describeUnit c.toNat ++ "\"."
  | unknownEscape c => "Invalid character escape sequence: \\" ++ c.toString ++ "."
  | malformedEscape shown =>
      "Invalid character escape sequence: \\" ++ String.ofList shown ++ "."
  | unpairedSurrogate unit =>
      "Invalid character escape sequence: unpaired surrogate " ++ describeUnit unit ++ "."
  | surrogateEscape unit => "Invalid character escape sequence: " ++ describeUnit unit ++ "."

structure SyntaxFault where
  cause : SyntaxCause
  source : Source
  offset : Nat
  deriving DecidableEq

namespace SyntaxFault

/-- The line of a fault, counted from one. -/
def line (fault : SyntaxFault) : Nat :=
  lineAt fault.source.body fault.offset

/-- The column of a fault in characters, counted from one. -/
def column (fault : SyntaxFault) : Nat :=
  columnAt fault.source.body fault.offset

def message (fault : SyntaxFault) : String :=
  "Syntax Error: " ++ fault.cause.message ++
    s!" ({toString fault.line}:{toString fault.column})"

end SyntaxFault

end QueryPlanner.Condition
