import QueryPlanner.Json.Reader
import QueryPlanner.Proofs.Outcomes

/-!
# The grammar of JSON text

A value that stands at the front of a text is a word, a number, a string, or an array or an object
with commas between its parts.  Members and items stand in the text in the order in which the value
has them.  What numbers and strings are made of is left to their readers.
-/

namespace QueryPlanner.Json

namespace Value

/-- No object in a value, at whatever depth, has two members with one key. -/
inductive HasUniqueKeys : Value → Prop where
  | null : HasUniqueKeys .null
  | bool (b : Bool) : HasUniqueKeys (.bool b)
  | number (n : Number) : HasUniqueKeys (.number n)
  | string (s : String) : HasUniqueKeys (.string s)
  | array {items : List Value} (inside : ∀ item ∈ items, HasUniqueKeys item) :
      HasUniqueKeys (.array items)
  | object {members : List (String × Value)} (distinct : (members.map Prod.fst).Nodup)
      (inside : ∀ member ∈ members, HasUniqueKeys member.2) : HasUniqueKeys (.object members)

theorem HasUniqueKeys.of_member {members : List (String × Value)} {member : String × Value}
    (unique : HasUniqueKeys (.object members)) (isMember : member ∈ members) :
    member.2.HasUniqueKeys := by
  cases unique with
  | object distinct inside => exact inside member isMember

theorem HasUniqueKeys.of_cons {member : String × Value} {rest : List (String × Value)}
    (unique : HasUniqueKeys (.object (member :: rest))) :
    member.1 ∉ rest.map Prod.fst ∧ HasUniqueKeys (.object rest) := by
  cases unique with
  | object distinct inside =>
      obtain ⟨isNew, distinctRest⟩ := List.nodup_cons.mp distinct
      exact ⟨isNew, .object distinctRest fun other isOther => inside other (.tail _ isOther)⟩

end Value

/-- Something stands at the front of a text, with the rest of the text behind it. -/
abbrev AtFront (α : Type) := α → (text rest : List Char) → Prop

/-- The words of JSON and their values. -/
inductive IsWord : List Char → Value → Prop where
  | null : IsWord ['n', 'u', 'l', 'l'] .null
  | true : IsWord ['t', 'r', 'u', 'e'] (.bool true)
  | false : IsWord ['f', 'a', 'l', 's', 'e'] (.bool false)

/-- A value without parts, and any space before it. -/
inductive IsScalar : AtFront Value where
  | word {word text rest : List Char} {value : Value} (isWord : IsWord word value)
      (begins : skipSpace text = word ++ rest) : IsScalar value text rest
  | unsigned {c : Char} {tail text rest : List Char} {n : Number} (isDigit : c.isDigit = true)
      (begins : skipSpace text = c :: tail) (read : readNumber false (c :: tail) = .ok (n, rest)) :
      IsScalar (.number n) text rest
  | negative {tail text rest : List Char} {n : Number} (begins : skipSpace text = '-' :: tail)
      (read : readNumber true tail = .ok (n, rest)) : IsScalar (.number n) text rest
  | string {tail text rest shown : List Char} (begins : skipSpace text = '"' :: tail)
      (read : readString tail = .ok (shown, rest)) :
      IsScalar (.string (String.ofList shown)) text rest

/-- Some of the parts of an array or an object, each with a comma behind it.  The rest is where the
next part begins. -/
inductive Listed {α : Type} (part : AtFront α) : AtFront (List α) where
  | nil {text : List Char} : Listed part [] text text
  | cons {a : α} {others : List α} {text after more rest : List Char} (first : part a text after)
      (comma : skipSpace after = ',' :: more) (behind : Listed part others (skipSpace more) rest) :
      Listed part (a :: others) text rest

/-- A key with its quotes. -/
inductive IsKey : AtFront String where
  | quoted {shown inside rest : List Char} (read : readString inside = .ok (shown, rest)) :
      IsKey (String.ofList shown) ('"' :: inside) rest

/-- A key, a colon and a value. -/
inductive IsMember (value : AtFront Value) : AtFront (String × Value) where
  | pair {key : String} {v : Value} {text afterKey valueText rest : List Char}
      (isKey : IsKey key text afterKey) (colon : skipSpace afterKey = ':' :: valueText)
      (isValue : value v valueText rest) : IsMember value (key, v) text rest

/-- An array or an object with values of a kind inside, and any space before it.  With `unique` its
keys differ. -/
inductive IsComposite (unique : Bool) (value : AtFront Value) : AtFront Value where
  | emptyArray {text inside rest : List Char} (opens : skipSpace text = '[' :: inside)
      (closes : skipSpace inside = ']' :: rest) : IsComposite unique value (.array []) text rest
  | array {front : List Value} {last : Value} {text inside lastText after rest : List Char}
      (opens : skipSpace text = '[' :: inside)
      (isFront : Listed value front (skipSpace inside) lastText) (isLast : value last lastText after)
      (closes : skipSpace after = ']' :: rest) :
      IsComposite unique value (.array (front ++ [last])) text rest
  | emptyObject {text inside rest : List Char} (opens : skipSpace text = '{' :: inside)
      (closes : skipSpace inside = '}' :: rest) : IsComposite unique value (.object []) text rest
  | object {front : List (String × Value)} {last : String × Value}
      {text inside lastText after rest : List Char} (opens : skipSpace text = '{' :: inside)
      (isFront : Listed (IsMember value) front (skipSpace inside) lastText)
      (isLast : IsMember value last lastText after) (closes : skipSpace after = '}' :: rest)
      (distinct : unique = true → ((front ++ [last]).map Prod.fst).Nodup) :
      IsComposite unique value (.object (front ++ [last])) text rest

/-- A value whose arrays and objects are nested as many levels deep as `levels` says, or less.
With `unique` no object in it repeats a key. -/
def Spelled (unique : Bool) : (levels : Nat) → AtFront Value
  | 0 => IsScalar
  | levels + 1 => fun value text rest =>
      IsScalar value text rest ∨ IsComposite unique (Spelled unique levels) value text rest

/-- A text is a value and nothing else but space. -/
def IsJson (text : List Char) (value : Value) : Prop :=
  ∃ rest, Spelled false 127 value text rest ∧ skipSpace rest = []

end QueryPlanner.Json
