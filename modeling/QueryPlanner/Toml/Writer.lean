import QueryPlanner.Text.Hexadecimal

/-!
Writing TOML text: keys, strings and tables.

A string is written in the plainest form that needs no escapes, in this order: in double quotes,
in single quotes, and in three of either.  Only when all of these need escapes are there any.
-/

namespace QueryPlanner.Toml

open QueryPlanner.Text

/-- The length of the longest row of a character in a text.  `run` counts the row that the text
goes on with. -/
def longestRun (c : Char) (run : Nat) : List Char → Nat
  | [] => run
  | head :: rest =>
      if head = c then longestRun c (run + 1) rest else max run (longestRun c 0 rest)

/-- Characters that only an escape can stand for, wherever they are. -/
def needsEscape (c : Char) : Bool :=
  (c.toNat < 0x20 && c ≠ '\t' && c ≠ '\n') || c = '\x7F'

def escapedChar (manyLines : Bool) (c : Char) : List Char :=
  if c = '\x08' then ['\\', 'b']
  else if c = '\t' then ['\\', 't']
  else if c = '\n' then if manyLines then ['\n'] else ['\\', 'n']
  else if c = '\x0C' then ['\\', 'f']
  else if c = '\r' then ['\\', 'r']
  else if c = '\\' then ['\\', '\\']
  else if c.toNat < 0x20 ∨ c = '\x7F' then '\\' :: 'u' :: upperHex c.toNat
  else [c]

/-- The inside of a string in double quotes.  A double quote is escaped when it would follow
`allowed` others; `run` counts those that have just been written. -/
def escaped (manyLines : Bool) (allowed run : Nat) : List Char → List Char
  | [] => []
  | c :: rest =>
      if c = '"' then
        if run < allowed then '"' :: escaped manyLines allowed (run + 1) rest
        else '\\' :: '"' :: escaped manyLines allowed 0 rest
      else escapedChar manyLines c ++ escaped manyLines allowed 0 rest

def basicString (text : List Char) : List Char :=
  '"' :: escaped false 0 0 text ++ ['"']

/-- A text in single quotes, which has to hold nothing that ends or breaks them. -/
def literalString (text : List Char) : List Char :=
  '\'' :: text ++ ['\'']

/-- The line end after the opening quotes of a text in three quotes: a text of many lines begins
on the next line, any other on the same one. -/
def openingBreak (text : List Char) : List Char :=
  if text.contains '\n' then ['\n'] else []

def basicLines (text : List Char) : List Char :=
  ['"', '"', '"'] ++ openingBreak text ++ escaped true 2 0 text ++ ['"', '"', '"']

def literalLines (text : List Char) : List Char :=
  ['\'', '\'', '\''] ++ openingBreak text ++ text ++ ['\'', '\'', '\'']

def writeString (text : List Char) : List Char :=
  let controls := text.any needsEscape
  let backslash := text.contains '\\'
  let newline := text.contains '\n'
  let doubles := longestRun '"' 0 text
  let singles := longestRun '\'' 0 text
  if !controls && !backslash && doubles = 0 && !newline then basicString text
  else if !controls && singles = 0 && !newline then literalString text
  else if !controls && !backslash && doubles ≤ 2 then basicLines text
  else if !controls && singles ≤ 2 then literalLines text
  else if newline then basicLines text
  else basicString text

def isBareKeyChar (c : Char) : Bool :=
  c.isAlphanum || c = '_' || c = '-'

def writeKey (text : List Char) : List Char :=
  let controls := text.any fun c => needsEscape c || c = '\n'
  let backslash := text.contains '\\'
  if !text.isEmpty && text.all isBareKeyChar then text
  else if !controls && !backslash && !text.contains '"' then basicString text
  else if !controls && !text.contains '\'' then literalString text
  else basicString text

def writeEntry (key : String) (value : List Char) : List Char :=
  writeKey key.toList ++ [' ', '=', ' '] ++ value ++ ['\n']

def writePath : List String → List Char
  | [] => []
  | [key] => writeKey key.toList
  | key :: rest => writeKey key.toList ++ '.' :: writePath rest

def writeTable (path : List String) (entries : List (List Char)) : List Char :=
  '[' :: writePath path ++ [']', '\n'] ++ entries.flatten

def joinTables : List (List Char) → List Char
  | [] => []
  | [table] => table
  | table :: rest => table ++ '\n' :: joinTables rest

end QueryPlanner.Toml
