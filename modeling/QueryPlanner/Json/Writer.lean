import QueryPlanner.Json.Value
import QueryPlanner.Text.Hexadecimal

/-!
The text of JSON values, on one line or indented by two spaces a level.
-/

namespace QueryPlanner.Json

open QueryPlanner.Text

def escapedChar (c : Char) : List Char :=
  if c = '"' then ['\\', '"']
  else if c = '\\' then ['\\', '\\']
  else if c = '\x08' then ['\\', 'b']
  else if c = '\x0C' then ['\\', 'f']
  else if c = '\n' then ['\\', 'n']
  else if c = '\r' then ['\\', 'r']
  else if c = '\t' then ['\\', 't']
  else if c.toNat < 0x20 then '\\' :: 'u' :: (lowerHex c.toNat).leftpad 4 '0'
  else [c]

def writeString (text : String) : List Char :=
  '"' :: text.toList.flatMap escapedChar ++ ['"']

inductive Layout where
  | compact
  | indented

def Layout.lineStart (layout : Layout) (level : Nat) : List Char :=
  match layout with
  | .compact => []
  | .indented => '\n' :: List.replicate (2 * level) ' '

def Layout.colon : Layout → List Char
  | .compact => [':']
  | .indented => [':', ' ']

mutual

/-- The text of a value at a level of nesting, and the text `rest` after it. -/
def Value.writeBefore (layout : Layout) (level : Nat) : Value → (rest : List Char) → List Char
  | .null, rest => 'n' :: 'u' :: 'l' :: 'l' :: rest
  | .bool true, rest => 't' :: 'r' :: 'u' :: 'e' :: rest
  | .bool false, rest => 'f' :: 'a' :: 'l' :: 's' :: 'e' :: rest
  | .number n, rest => n.write ++ rest
  | .string s, rest => writeString s ++ rest
  | .array [], rest => '[' :: ']' :: rest
  | .array (item :: items), rest =>
      '[' :: (layout.lineStart (level + 1) ++ item.writeBefore layout (level + 1)
        (writeItemsBefore layout (level + 1) items (layout.lineStart level ++ ']' :: rest)))
  | .object [], rest => '{' :: '}' :: rest
  | .object ((key, value) :: members), rest =>
      '{' :: (layout.lineStart (level + 1) ++ (writeString key ++ (layout.colon ++
        value.writeBefore layout (level + 1)
          (writeMembersBefore layout (level + 1) members
            (layout.lineStart level ++ '}' :: rest)))))

/-- The text of the items of an array after its first, and the text `rest` after them. -/
def writeItemsBefore (layout : Layout) (level : Nat) :
    List Value → (rest : List Char) → List Char
  | [], rest => rest
  | item :: items, rest =>
      ',' :: (layout.lineStart level ++
        item.writeBefore layout level (writeItemsBefore layout level items rest))

/-- The text of the members of an object after its first, and the text `rest` after them. -/
def writeMembersBefore (layout : Layout) (level : Nat) :
    List (String × Value) → (rest : List Char) → List Char
  | [], rest => rest
  | (key, value) :: members, rest =>
      ',' :: (layout.lineStart level ++ (writeString key ++ (layout.colon ++
        value.writeBefore layout level (writeMembersBefore layout level members rest))))

end

def Value.write (layout : Layout) (value : Value) : String :=
  String.ofList (value.writeBefore layout 0 [])

def Value.compact (value : Value) : String :=
  value.write .compact

def Value.pretty (value : Value) : String :=
  value.write .indented

end QueryPlanner.Json
