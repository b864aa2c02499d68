import QueryPlanner.Toml.Layout
import QueryPlanner.Toml.Scalars

/-!
Reading TOML text.

Arrays and tables in braces may be nested 79 levels deep, and a key may have 79 parts.
-/

namespace QueryPlanner.Toml

def readElements? (element : List Char → Option (Node × List Char)) :
    (bound : Nat) → List Char → Option (List Node × List Char)
  | 0, _ => none
  | bound + 1, text => do
      let skip (text : List Char) := skipLines? (text.length + 1) text
      match ← skip text with
      | ']' :: rest => return ([], rest)
      | text => do
          let (node, rest) ← element text
          match ← skip rest with
          | ',' :: rest => do
              let (nodes, rest) ← readElements? element bound rest
              return (node :: nodes, rest)
          | ']' :: rest => return ([node], rest)
          | _ => none

def readPair? (element : List Char → Option (Node × List Char)) (text : List Char) :
    Option (List String × Node × List Char) := do
  let (key, rest) ← readKey? 79 text
  match rest with
  | '=' :: rest => do
      let (node, rest) ← element (skipBlanks rest)
      return (key, node, rest)
  | _ => none

/-- The members of a table in braces from one of them on. -/
def readBraced? (element : List Char → Option (Node × List Char)) :
    (bound : Nat) → Entries → List Char → Option (Entries × List Char)
  | 0, _, _ => none
  | bound + 1, entries, text => do
      let (key, node, rest) ← readPair? element (skipBlanks text)
      let entries ← assign key node entries
      match skipBlanks rest with
      | ',' :: rest => readBraced? element bound entries rest
      | '}' :: rest => return (entries, rest)
      | _ => none

/-- The value at the front of a text.  Tables in braces are closed: they have a header of their
own, so to say. -/
def readNode? (levels : Nat) (text : List Char) : Option (Node × List Char) :=
  match text with
  | [] => none
  | c :: rest =>
      if c = '"' ∨ c = '\'' then
        (readString? text).map fun (value, rest) => (.value (.string value), rest)
      else if c = '[' ∨ c = '{' then
        match levels with
        | 0 => none
        | levels + 1 =>
            if c = '[' then
              (readElements? (readNode? levels) (rest.length + 1) rest).map fun (nodes, rest) =>
                (.value (.array (nodes.map Node.toValue)), rest)
            else
              match skipBlanks rest with
              | '}' :: rest => some (.value (.table []), rest)
              | _ =>
                  (readBraced? (readNode? levels) (rest.length + 1) [] rest).map
                    fun (entries, rest) => (.value (.table (membersOf entries)), rest)
      else (readScalar? text).map fun (value, rest) => (.value value, rest)

/-- What has been read of a text: the outermost table and the path of the open table. -/
structure Reading where
  root : Entries := []
  opened : List String := []

/-- A header at the front of a text: whether it opens a table of an array, and its path. -/
def readHeader? (text : List Char) : Option (Bool × List String × List Char) :=
  match text with
  | '[' :: '[' :: rest => do
      let (path, rest) ← readKey? 79 (skipBlanks rest)
      match rest with
      | ']' :: ']' :: rest => return (true, path, rest)
      | _ => none
  | '[' :: rest => do
      let (path, rest) ← readKey? 79 (skipBlanks rest)
      match rest with
      | ']' :: rest => return (false, path, rest)
      | _ => none
  | _ => none

/-- What one line adds, a header or a key with its value, and the text after it. -/
def readStatement? (reading : Reading) (text : List Char) : Option (Reading × List Char) :=
  match text with
  | '[' :: _ => do
      let (isArray, path, rest) ← readHeader? text
      let root ← if isArray then openNext path reading.root else openTable path reading.root
      return (⟨root, path⟩, rest)
  | _ => do
      let (key, node, rest) ← readPair? (readNode? 79) text
      let root ← assignIn reading.opened key node reading.root
      return ({ reading with root }, rest)

/-- Reads line after line to the end of the text.  Every line takes a character, so a bound by the
length of the text is never met. -/
def readLines? : (bound : Nat) → Reading → List Char → Option Reading
  | 0, _, _ => none
  | bound + 1, reading, text => do
      match ← skipLines? (text.length + 1) text with
      | [] => return reading
      | text => do
          let (reading, rest) ← readStatement? reading text
          let rest ← skipComment? (skipBlanks rest)
          match rest, afterNewline? rest with
          | [], _ => return reading
          | _, some rest => readLines? bound reading rest
          | _, none => none

/-- Line ends of two characters, which count as one, in the form of one. -/
def unifyLineEnds : List Char → List Char
  | [] => []
  | '\r' :: '\n' :: rest => '\n' :: unifyLineEnds rest
  | c :: rest => c :: unifyLineEnds rest

/-- The members of the outermost table of a text, if it is TOML.  A byte order mark at the front
counts for nothing. -/
def parse? (text : String) : Option (List (String × Value)) :=
  let body :=
    match text.toList with
    | '\uFEFF' :: rest => rest
    | body => body
  let body := unifyLineEnds body
  (readLines? (body.length + 1) {} body).map fun reading => membersOf reading.root

end QueryPlanner.Toml
