import QueryPlanner.Json.NumberReader
import QueryPlanner.Text.Hexadecimal

/-!
Reading JSON text.

Readers take the text from a place on and give what they found with the text that follows it.
Arrays and objects may be nested 127 levels deep.  Whether an object may repeat a key is up to the
caller.
-/

namespace QueryPlanner.Json

open QueryPlanner.Text

def skipSpace (text : List Char) : List Char :=
  text.dropWhile fun c => c = ' ' || c = '\n' || c = '\t' || c = '\r'

def readUnit (text : List Char) : Except Misread (Nat × List Char) :=
  match readCodeUnit? text with
  | some found => .ok found
  | none =>
      if byteLength text < 4 then .error (.here .endInString [])
      else .error ⟨.invalidEscape, byteLength text - 4⟩

/-- The low surrogate whose escape has to follow a high one. -/
def readLowSurrogate (text : List Char) : Except Misread (Nat × List Char) :=
  match text with
  | '\\' :: 'u' :: rest => do
      let (unit, rest) ← readUnit rest
      if isLowSurrogate unit then return (unit, rest) else .error (.here .loneSurrogate rest)
  | [] => .error (.here .endInString [])
  | ['\\'] => .error (.here .endInString [])
  | '\\' :: rest => .error (.ahead .unfinishedPair rest)
  | _ => .error (.ahead .unfinishedPair text)

def unescapeUnit (text : List Char) : Except Misread (Char × List Char) := do
  let (unit, rest) ← readUnit text
  if isLowSurrogate unit then .error (.here .loneSurrogate rest)
  else if isHighSurrogate unit then
    let (low, rest) ← readLowSurrogate rest
    return (Char.ofNat (surrogatePair unit low), rest)
  else return (Char.ofNat unit, rest)

/-- The characters that a backslash and one letter or mark stand for. -/
def simpleEscape? : Char → Option Char
  | '"' => some '"'
  | '\\' => some '\\'
  | '/' => some '/'
  | 'b' => some '\x08'
  | 'f' => some '\x0C'
  | 'n' => some '\n'
  | 'r' => some '\r'
  | 't' => some '\t'
  | _ => none

/-- The character that an escape stands for.  The escape begins with `c` after its backslash. -/
def unescape (c : Char) (rest : List Char) : Except Misread (Char × List Char) :=
  if c = 'u' then unescapeUnit rest
  else
    match simpleEscape? c with
    | some decoded => .ok (decoded, rest)
    | none => .error (.ahead .invalidEscape (c :: rest))

theorem length_of_readUnit {text rest : List Char} {unit : Nat}
    (found : readUnit text = .ok (unit, rest)) : rest.length ≤ text.length := by
  unfold readUnit at found
  split at found
  next entry entryFound =>
    cases found
    have shorter := length_of_readCodeUnit? entryFound
    omega
  next => split at found <;> cases found

theorem length_of_readLowSurrogate {text rest : List Char} {unit : Nat}
    (found : readLowSurrogate text = .ok (unit, rest)) : rest.length ≤ text.length := by
  unfold readLowSurrogate at found
  split at found
  next tail =>
    cases unitFound : readUnit tail with
    | error misread => simp [unitFound, bind, Except.bind] at found
    | ok entry =>
        have shorter : entry.2.length ≤ tail.length := length_of_readUnit unitFound
        simp only [unitFound, bind, Except.bind] at found
        split at found
        next =>
          cases found
          simp only [List.length_cons]
          omega
        next => cases found
  all_goals cases found

theorem length_of_unescapeUnit {text rest : List Char} {decoded : Char}
    (found : unescapeUnit text = .ok (decoded, rest)) : rest.length ≤ text.length := by
  unfold unescapeUnit at found
  cases unitFound : readUnit text with
  | error misread => simp [unitFound, bind, Except.bind] at found
  | ok entry =>
      have shorter : entry.2.length ≤ text.length := length_of_readUnit unitFound
      simp only [unitFound, bind, Except.bind] at found
      split at found
      next => cases found
      next =>
        split at found
        next =>
          cases lowFound : readLowSurrogate entry.2 with
          | error misread => simp [lowFound] at found
          | ok pair =>
              have shorterAgain : pair.2.length ≤ entry.2.length :=
                length_of_readLowSurrogate lowFound
              simp only [lowFound, pure, Except.pure, Except.ok.injEq, Prod.mk.injEq] at found
              obtain ⟨_, rfl⟩ := found
              omega
        next =>
          simp only [pure, Except.pure, Except.ok.injEq, Prod.mk.injEq] at found
          obtain ⟨_, rfl⟩ := found
          exact shorter

theorem length_of_unescape {c decoded : Char} {text rest : List Char}
    (found : unescape c text = .ok (decoded, rest)) : rest.length ≤ text.length := by
  unfold unescape at found
  split at found
  next => exact length_of_unescapeUnit found
  next =>
    split at found
    next =>
      cases found
      exact Nat.le_refl _
    next => cases found

/-- The decoded characters of a string up to its closing quote, and what follows the quote. -/
def readString (text : List Char) : Except Misread (List Char × List Char) :=
  match text with
  | [] => .error (.here .endInString [])
  | c :: rest =>
      if c = '"' then .ok ([], rest)
      else if c = '\\' then
        match rest with
        | [] => .error (.here .endInString [])
        | escaped :: tail =>
            match found : unescape escaped tail with
            | .error misread => .error misread
            | .ok (decoded, left) =>
                have := length_of_unescape found
                (readString left).map fun (value, after) => (decoded :: value, after)
      else if c.toNat < 0x20 then .error (.here .controlCharacter rest)
      else (readString rest).map fun (value, after) => (c :: value, after)
termination_by text.length
decreasing_by
  all_goals
    simp only [List.length_cons]
    omega

/-- The rest of a word of which the first letter has been read. -/
def readWord (value : Value) : (word text : List Char) → Except Misread (Value × List Char)
  | [], text => .ok (value, text)
  | _ :: _, [] => .error (.here .endInValue [])
  | letter :: word, c :: rest =>
      if c = letter then readWord value word rest else .error (.ahead .expectedIdent (c :: rest))

/-- The items of an array from one of them on.  An item takes a character at least, so a bound by
the length of the text is never met. -/
def readItems (item : List Char → Except Misread (Value × List Char)) :
    (bound : Nat) → List Char → Except Misread (List Value × List Char)
  | 0, text => .ok ([], text)
  | bound + 1, text => do
      let (value, rest) ← item text
      match skipSpace rest with
      | ']' :: rest => return ([value], rest)
      | ',' :: rest =>
          match skipSpace rest with
          | [] => .error (.ahead .endInValue [])
          | ']' :: rest => .error (.ahead .trailingComma (']' :: rest))
          | rest => do
              let (values, after) ← readItems item bound rest
              return (value :: values, after)
      | [] => .error (.ahead .endInList [])
      | rest => .error (.ahead .expectedListEnd rest)

def readArray (item : List Char → Except Misread (Value × List Char)) (text : List Char) :
    Except Misread (Value × List Char) :=
  match skipSpace text with
  | ']' :: rest => .ok (.array [], rest)
  | [] => .error (.ahead .endInList [])
  | text => (readItems item text.length text).map fun (items, rest) => (.array items, rest)

/-- The fault of a repeated key.  It is reported after the space that follows the key, and after
a closing brace that stands there. -/
def repeated (key : String) (rest : List Char) : Misread :=
  match skipSpace rest with
  | '}' :: rest => .here (.duplicateProperty key) rest
  | rest => .here (.duplicateProperty key) rest

def readMemberValue (item : List Char → Except Misread (Value × List Char)) (text : List Char) :
    Except Misread (Value × List Char) :=
  match skipSpace text with
  | ':' :: rest => item rest
  | [] => .error (.ahead .endInObject [])
  | rest => .error (.ahead .expectedColon rest)

/-- The members of an object from the opening quote of a key on.  With `unique`, a key among those
that came before is refused. -/
def readMembers (unique : Bool) (item : List Char → Except Misread (Value × List Char)) :
    (bound : Nat) → (before : List String) → List Char →
      Except Misread (List (String × Value) × List Char)
  | 0, _, text => .ok ([], text)
  | bound + 1, before, text => do
      let (key, rest) ← readString (text.drop 1)
      let key := String.ofList key
      if unique && before.contains key then .error (repeated key rest)
      else
        let (value, rest) ← readMemberValue item rest
        match skipSpace rest with
        | '}' :: rest => return ([(key, value)], rest)
        | ',' :: rest =>
            match skipSpace rest with
            | '"' :: rest => do
                let (members, after) ←
                  readMembers unique item bound (key :: before) ('"' :: rest)
                return ((key, value) :: members, after)
            | '}' :: rest => .error (.ahead .trailingComma ('}' :: rest))
            | [] => .error (.ahead .endInValue [])
            | rest => .error (.ahead .keyNotString rest)
        | [] => .error (.ahead .endInObject [])
        | rest => .error (.ahead .expectedObjectEnd rest)

def readObject (unique : Bool) (item : List Char → Except Misread (Value × List Char))
    (text : List Char) : Except Misread (Value × List Char) :=
  match skipSpace text with
  | '}' :: rest => .ok (.object [], rest)
  | [] => .error (.ahead .endInObject [])
  | '"' :: rest =>
      (readMembers unique item (rest.length + 1) [] ('"' :: rest)).map
        fun (members, after) => (.object members, after)
  | rest => .error (.ahead .keyNotString rest)

/-- The value at the front of a text.  Arrays and objects may be nested as many levels deep as
`levels` says. -/
def readValue (unique : Bool) (levels : Nat) (text : List Char) :
    Except Misread (Value × List Char) :=
  match skipSpace text with
  | [] => .error (.ahead .endInValue [])
  | c :: rest =>
      if c = 'n' then readWord .null ['u', 'l', 'l'] rest
      else if c = 't' then readWord (.bool true) ['r', 'u', 'e'] rest
      else if c = 'f' then readWord (.bool false) ['a', 'l', 's', 'e'] rest
      else if c = '-' then (readNumber true rest).map fun (n, rest) => (.number n, rest)
      else if c.isDigit then
        (readNumber false (c :: rest)).map fun (n, rest) => (.number n, rest)
      else if c = '"' then
        (readString rest).map fun (s, rest) => (.string (String.ofList s), rest)
      else if c = '[' ∨ c = '{' then
        match levels with
        | 0 => .error (.ahead .recursionLimit (c :: rest))
        | levels + 1 =>
            if c = '[' then readArray (readValue unique levels) rest
            else readObject unique (readValue unique levels) rest
      else .error (.ahead .expectedValue (c :: rest))

def readText (unique : Bool) (text : List Char) : Except Misread Value := do
  let (value, rest) ← readValue unique 127 text
  match skipSpace rest with
  | [] => return value
  | rest => .error (.ahead .trailingCharacters rest)

/-- The value that a JSON text gives, with `unique` only if no object repeats a key. -/
def Value.parse (unique : Bool) (text : String) : Except Fault Value :=
  match readText unique text.toList with
  | .ok value => .ok value
  | .error misread => .error (misread.locate text.toList)

end QueryPlanner.Json
