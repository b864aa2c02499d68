import QueryPlanner.Text.Lines

/-!
What can be wrong with JSON text.
-/

namespace QueryPlanner.Json

open QueryPlanner.Text

inductive Cause where
  | endInList
  | endInObject
  | endInString
  | endInValue
  | expectedColon
  | expectedListEnd
  | expectedObjectEnd
  | expectedIdent
  | expectedValue
  | invalidEscape
  | invalidNumber
  | numberOutOfRange
  | controlCharacter
  | keyNotString
  | loneSurrogate
  | trailingComma
  | trailingCharacters
  | unfinishedPair
  | recursionLimit
  | duplicateProperty (key : String)
  deriving DecidableEq

def Cause.message : Cause → String
  | endInList => "EOF while parsing a list"
  | endInObject => "EOF while parsing an object"
  | endInString => "EOF while parsing a string"
  | endInValue => "EOF while parsing a value"
  | expectedColon => "expected `:`"
  | expectedListEnd => "expected `,` or `]`"
  | expectedObjectEnd => "expected `,` or `\x7d`"
  | expectedIdent => "expected ident"
  | expectedValue => "expected value"
  | invalidEscape => "invalid escape"
  | invalidNumber => "invalid number"
  | numberOutOfRange => "number out of range"
  | controlCharacter =>
      "control character (\\u0000-\\u001F) found while parsing a string"
  | keyNotString => "key must be a string"
  | loneSurrogate => "lone leading surrogate in hex escape"
  | trailingComma => "trailing comma"
  | trailingCharacters => "trailing characters"
  | unfinishedPair => "unexpected end of hex escape"
  | recursionLimit => "recursion limit exceeded"
  | duplicateProperty key => "duplicate property '" ++ key ++ "'"

/-- A cause, and how many bytes of the text lie after the place that is reported. -/
structure Misread where
  cause : Cause
  left : Nat
  deriving DecidableEq

/-- A fault at the bytes that have been read, of which the rest is left. -/
def Misread.here (cause : Cause) (rest : List Char) : Misread :=
  ⟨cause, byteLength rest⟩

/-- A fault at the next byte, which has not been read.  At the end of the text there is none, and
the fault lies at the end. -/
def Misread.ahead (cause : Cause) (rest : List Char) : Misread :=
  ⟨cause, byteLength rest - 1⟩

structure Fault where
  cause : Cause
  /-- The line of the place, counted from one. -/
  line : Nat
  /-- The number of bytes on the line up to the place. -/
  column : Nat
  deriving DecidableEq

/-- Where a misreading lies in the whole text.  Lines end in line feeds. -/
def Misread.locate (misread : Misread) (text : List Char) : Fault :=
  let offset := byteLength text - misread.left
  let before := takeBytes offset text
  let lastLine := (before.reverse.takeWhile (· ≠ '\n')).reverse
  ⟨misread.cause, before.count '\n' + 1,
    offset - (byteLength before - byteLength lastLine)⟩

def Fault.message (fault : Fault) : String :=
  fault.cause.message ++
    s!" at line {toString fault.line} column {toString fault.column}"

end QueryPlanner.Json
