import QueryPlanner.Failure
import QueryPlanner.Json.Reader
import QueryPlanner.Text.Lowercase

/-!
Query documents: JSON objects with the keys `type`, `query`, `page` and `pageSize`, each in any
case.
-/

namespace QueryPlanner

open QueryPlanner.Json QueryPlanner.Text

structure Document where
  /-- The type of the outermost rows. -/
  typeName : Option String
  query : List (String × Value)
  page : UInt64
  pageSize : UInt64

namespace Document

/-- The JSON value of a text that repeats no key in any object. -/
def parseJson (text : String) : Except Failure Value :=
  match Value.parse true text with
  | .ok value => .ok value
  | .error fault =>
      match fault.cause with
      | .duplicateProperty _ => .error (.malformedDocument (.repeatedProperty fault))
      | _ => .error (.malformedJson fault)

inductive Key where
  | type
  | query
  | page
  | pageSize
  deriving DecidableEq

def key? (lowered : List Char) : Option Key :=
  if lowered = ['t', 'y', 'p', 'e'] then some .type
  else if lowered = ['q', 'u', 'e', 'r', 'y'] then some .query
  else if lowered = ['p', 'a', 'g', 'e'] then some .page
  else if lowered = ['p', 'a', 'g', 'e', 's', 'i', 'z', 'e'] then some .pageSize
  else none

structure Draft where
  typeName : Option String := none
  query : Option (List (String × Value)) := none
  page : UInt64 := 0
  pageSize : UInt64 := 0

def readCount (name : String) (value : Value) : Except Structure UInt64 :=
  match value with
  | .number (.unsigned n) => .ok n
  | _ => .error (.countInvalid name value)

def Draft.read (draft : Draft) (key : Key) (name : String) (value : Value) :
    Except Structure Draft :=
  match key with
  | .type =>
      match value with
      | .string typeName => .ok { draft with typeName := some typeName }
      | _ => .error .typeNotString
  | .query =>
      match value with
      | .object members => .ok { draft with query := some members }
      | _ => .error .queryNotObject
  | .page => (readCount name value).map fun n => { draft with page := n }
  | .pageSize => (readCount name value).map fun n => { draft with pageSize := n }

/-- Reads the members of a document.  `seen` holds the keys that came before, in lower case. -/
def readMembers (seen : List (List Char)) (draft : Draft) :
    List (String × Value) → Except Structure Draft
  | [] => .ok draft
  | (name, value) :: rest =>
      let lowered := lowercase name.toList
      if seen.contains lowered then .error (.duplicateKey name)
      else
        match key? lowered with
        | none => .error (.unknownKey name)
        | some key => do
            let draft ← draft.read key name value
            readMembers (lowered :: seen) draft rest

def ofValue (value : Value) : Except Structure Document :=
  match value with
  | .object members => do
      let draft ← readMembers [] {} members
      match draft.query with
      | none => .error .missingQuery
      | some query => .ok ⟨draft.typeName, query, draft.page, draft.pageSize⟩
  | _ => .error .notAnObject

end Document

end QueryPlanner
