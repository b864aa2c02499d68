import QueryPlanner.Text.Hexadecimal

/-!
Reading the strings and keys of TOML text.

Readers take the text from a place on, and give what they found with the text that follows it, or
nothing where the text is no TOML.  Lines end in line feeds.
-/

namespace QueryPlanner.Toml

open QueryPlanner.Text

/-- Characters that may stand in a comment, and in a string apart from its own marks. -/
def isPlain (c : Char) : Bool :=
  c = '\t' || (0x20 ≤ c.toNat && c.toNat ≠ 0x7F)

def skipBlanks (text : List Char) : List Char :=
  text.dropWhile fun c => c = ' ' || c = '\t'

def afterNewline? : List Char → Option (List Char)
  | '\n' :: rest => some rest
  | _ => none

/-- The text after a comment, if one stands at its front: the line end is left. -/
def skipComment? (text : List Char) : Option (List Char) :=
  match text with
  | '#' :: rest =>
      let left := rest.dropWhile isPlain
      if left = [] ∨ (afterNewline? left).isSome then some left else none
  | _ => some text

/-- The text after the spaces, line ends and comments at its front.  Every step takes a character,
so a bound by the length of the text is never met. -/
def skipLines? : (bound : Nat) → List Char → Option (List Char)
  | 0, text => some text
  | bound + 1, text => do
      let rest ← skipComment? (skipBlanks text)
      match afterNewline? rest with
      | some rest => skipLines? bound rest
      | none => some rest

/-- The character of a code point, unless it is a surrogate or out of range. -/
def scalar? (code : Nat) : Option Char :=
  if code.isValidChar then some (Char.ofNat code) else none

/-- The character that an escape stands for.  The text begins after the backslash. -/
def unescape? : List Char → Option (Char × List Char)
  | 'b' :: rest => some ('\x08', rest)
  | 't' :: rest => some ('\t', rest)
  | 'n' :: rest => some ('\n', rest)
  | 'f' :: rest => some ('\x0C', rest)
  | 'r' :: rest => some ('\r', rest)
  | '"' :: rest => some ('"', rest)
  | '\\' :: rest => some ('\\', rest)
  | 'u' :: rest => do
      let (unit, rest) ← readCodeUnit? rest
      let c ← scalar? unit
      return (c, rest)
  | 'U' :: rest => do
      let (high, rest) ← readCodeUnit? rest
      let (low, rest) ← readCodeUnit? rest
      let c ← scalar? (high * 0x10000 + low)
      return (c, rest)
  | _ => none

def readBasic? : (bound : Nat) → List Char → Option (List Char × List Char)
  | 0, _ => none
  | _ + 1, [] => none
  | bound + 1, c :: rest =>
      if c = '"' then some ([], rest)
      else if c = '\\' then do
        let (decoded, rest) ← unescape? rest
        let (value, rest) ← readBasic? bound rest
        return (decoded :: value, rest)
      else if isPlain c then do
        let (value, rest) ← readBasic? bound rest
        return (c :: value, rest)
      else none

def readLiteral? (text : List Char) : Option (List Char × List Char) :=
  let value := text.takeWhile fun c => isPlain c && c ≠ '\''
  match text.drop value.length with
  | '\'' :: rest => some (value, rest)
  | _ => none

/-- The quotes at the end of a string of many lines.  Of up to five in a row, the last three close
the string and those before them belong to it. -/
def closeLines? (quote : Char) (text : List Char) : Option (List Char × List Char) :=
  let run := (text.takeWhile (· = quote)).length
  if 3 ≤ run then
    let kept := min (run - 3) 2
    some (List.replicate kept quote, text.drop (kept + 3))
  else none

def skipSpace (text : List Char) : List Char :=
  text.dropWhile fun c => c = ' ' || c = '\t' || c = '\n'

/-- The text after a line end that a backslash hides, and the space and line ends after it. -/
def hiddenLineEnd? (text : List Char) : Option (List Char) :=
  (afterNewline? (skipBlanks text)).map skipSpace

/-- The rest of a string of many lines in double quotes.  Its lines end in line feeds. -/
def readBasicLines? : (bound : Nat) → List Char → Option (List Char × List Char)
  | 0, _ => none
  | bound + 1, text =>
      match closeLines? '"' text with
      | some found => some found
      | none =>
          match text with
          | [] => none
          | c :: rest => do
              let (decoded, rest) ←
                if c = '\\' then
                  match hiddenLineEnd? rest with
                  | some rest => some ([], rest)
                  | none => (unescape? rest).map fun (decoded, rest) => ([decoded], rest)
                else if c = '\n' ∨ isPlain c then some ([c], rest)
                else none
              let (value, rest) ← readBasicLines? bound rest
              return (decoded ++ value, rest)

/-- The rest of a string of many lines in single quotes.  Its lines end in line feeds. -/
def readLiteralLines? : (bound : Nat) → List Char → Option (List Char × List Char)
  | 0, _ => none
  | bound + 1, text =>
      match closeLines? '\'' text with
      | some found => some found
      | none =>
          match text with
          | [] => none
          | c :: rest =>
              if c = '\n' ∨ isPlain c then do
                let (value, rest) ← readLiteralLines? bound rest
                return (c :: value, rest)
              else none

def skipFirstLineEnd (text : List Char) : List Char :=
  match text with
  | '\n' :: rest => rest
  | _ => text

/-- The string value at the front of a text, in any of its four forms. -/
def readString? (text : List Char) : Option (String × List Char) :=
  let bound := text.length + 1
  let found :=
    match text with
    | '"' :: '"' :: '"' :: rest => readBasicLines? bound (skipFirstLineEnd rest)
    | '\'' :: '\'' :: '\'' :: rest => readLiteralLines? bound (skipFirstLineEnd rest)
    | '"' :: rest => readBasic? bound rest
    | '\'' :: rest => readLiteral? rest
    | _ => none
  found.map fun (value, rest) => (String.ofList value, rest)

/-- One key at the front of a text: bare, or in quotes on one line. -/
def readSimpleKey? (text : List Char) : Option (String × List Char) :=
  match text with
  | '"' :: rest =>
      (readBasic? (rest.length + 1) rest).map fun (key, rest) => (String.ofList key, rest)
  | '\'' :: rest => (readLiteral? rest).map fun (key, rest) => (String.ofList key, rest)
  | _ =>
      let key := text.takeWhile fun c => c.isAlphanum || c = '_' || c = '-'
      if key = [] then none else some (String.ofList key, text.drop key.length)

/-- A key at the front of a text: one key, or several with dots between them.  Space may stand on
either side of a dot, and after the last key. -/
def readKey? : (bound : Nat) → List Char → Option (List String × List Char)
  | 0, _ => none
  | bound + 1, text => do
      let (key, rest) ← readSimpleKey? text
      match skipBlanks rest with
      | '.' :: rest => do
          let (keys, rest) ← readKey? bound (skipBlanks rest)
          return (key :: keys, rest)
      | rest => return ([key], rest)

end QueryPlanner.Toml
