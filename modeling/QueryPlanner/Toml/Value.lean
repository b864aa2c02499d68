/-!
TOML values, as far as schema files need them.
-/

namespace QueryPlanner.Toml

/-- A TOML value.  Numbers are checked when they are read, and their values are not kept. -/
inductive Value where
  | string (text : String)
  | boolean (b : Bool)
  | number
  /-- A date, a time or both, in their normal form. -/
  | dateTime (text : String)
  | array (items : List Value)
  | table (members : List (String × Value))

def member? (key : String) (members : List (String × Value)) : Option Value :=
  (members.find? fun entry => entry.1 = key).map Prod.snd

end QueryPlanner.Toml
