import QueryPlanner.Number.Integer
import QueryPlanner.Number.Style

/-!
JSON values.  Members of objects keep their order, and numbers keep whether they are whole.
-/

namespace QueryPlanner.Json

open QueryPlanner.Number

inductive Number where
  /-- A whole number that is not negative. -/
  | unsigned (n : UInt64)
  /-- A whole number below zero. -/
  | negative (n : Int64)
  | float (x : Binary64)
  deriving DecidableEq

inductive Value where
  | null
  | bool (b : Bool)
  | number (n : Number)
  | string (s : String)
  | array (items : List Value)
  | object (members : List (String × Value))

/-- Floating-point numbers in JSON text have a point from `0.00001` up to `10 ^ 16`; elsewhere
they have a power of ten, which shows its sign. -/
def floatStyle : Style where
  least := -5
  limit := 16
  plusSign := true
  tie := .even

def Number.write : Number → List Char
  | .unsigned n => Nat.toDigits 10 n.toNat
  | .negative n => writeInt n.toInt
  | .float x => floatStyle.write x

namespace Value

def ofNat (n : Nat) : Value :=
  .number (.unsigned n.toUInt64)

def ofInt64 (n : Int64) : Value :=
  if n < 0 then .number (.negative n) else .number (.unsigned n.toUInt64)

def ofOption {α : Type} (encode : α → Value) : Option α → Value
  | some a => encode a
  | none => .null

def ofStrings (texts : List String) : Value :=
  .array (texts.map .string)

def member? (key : String) : Value → Option Value
  | .object members => (members.find? fun entry => entry.1 = key).map Prod.snd
  | _ => none

end Value

end QueryPlanner.Json
