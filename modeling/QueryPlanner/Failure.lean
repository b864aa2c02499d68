import QueryPlanner.Condition.Compile
import QueryPlanner.Json.Fault
import QueryPlanner.Json.Writer

/-!
What can be wrong with a query document, a condition, a schema file or the files themselves.
-/

namespace QueryPlanner

open QueryPlanner.Condition

/-- Why a document is not a query, although it is JSON. -/
inductive Structure where
  | notAnObject
  /-- An object repeats a key; the fault says which and where. -/
  | repeatedProperty (fault : Json.Fault)
  | duplicateKey (key : String)
  | unknownKey (key : String)
  | typeNotString
  | queryNotObject
  | countInvalid (key : String) (value : Json.Value)
  | missingQuery
  | missingType
  | pageOutOfRange (page pageSize : UInt64)
  | arrayValue (shape name : String)

def Structure.message : Structure → String
  | notAnObject => "a query document must be a JSON object"
  | repeatedProperty fault => fault.message
  | duplicateKey key => "duplicate top-level key '" ++ key ++ "'"
  | unknownKey key => "unknown top-level key '" ++ key ++ "'"
  | typeNotString => "'type' must be a string"
  | queryNotObject => "'query' must be an object"
  | countInvalid key value =>
      "'" ++ key ++ "' must be a non-negative integer, got " ++ value.compact
  | missingQuery => "missing 'query'"
  | missingType => "missing 'type'"
  | pageOutOfRange page pageSize =>
      s!"page {toString page} with page size {toString pageSize} is out of range"
  | arrayValue shape name =>
      "'" ++ shape ++ "." ++ name ++ "' has an array value; conditions are strings"

/-- An error of the operating system, with its number and its words for it. -/
structure SystemError where
  number : Nat
  description : String
  deriving DecidableEq

def SystemError.message (error : SystemError) : String :=
  error.description ++ " (os error " ++ toString error.number ++ ")"

inductive Unreadable where
  | refused (error : SystemError)
  | notText
  deriving DecidableEq

def Unreadable.message : Unreadable → String
  | refused error => error.message
  | notText => "stream did not contain valid UTF-8"

/-- What is wrong with the choice of the schema file or with its contents. -/
inductive Misconfigured where
  | fileNotFound (path : String)
  | noLocation
  /-- The report is that of the reader of TOML. -/
  | malformed (report : String)
  deriving DecidableEq

def Misconfigured.message : Misconfigured → String
  | fileNotFound path => "Schema file not found: " ++ path
  | noLocation => "Could not determine schema location; pass --schema or set JSONQ_SCHEMA"
  | malformed report => "Failed to parse schema: " ++ report

inductive Failure where
  | unreadable (cause : Unreadable)
  | misconfigured (cause : Misconfigured)
  | malformedJson (fault : Json.Fault)
  | malformedCondition (fault : SyntaxFault)
  | unsupportedCondition (cause : Unsupported)
  | malformedDocument (cause : Structure)
  | unresolvedType (typeName : String)
  | unknownField (shape field : String)

namespace Failure

def ofCondition : Condition.Error → Failure
  | .syntaxFault fault => .malformedCondition fault
  | .unsupported cause => .unsupportedCondition cause

def message : Failure → String
  | unreadable cause => "IO error: " ++ cause.message
  | misconfigured cause => "Configuration error: " ++ cause.message
  | malformedJson fault => "JSON error: " ++ fault.message
  | malformedCondition fault => fault.message
  | unsupportedCondition cause => "Unsupported operator: " ++ cause.message
  | malformedDocument cause => "Invalid query document: " ++ cause.message
  | unresolvedType typeName => "No shape matches type '" ++ typeName ++ "'"
  | unknownField shape field => "Shape '" ++ shape ++ "' has no field '" ++ field ++ "'"

end Failure

end QueryPlanner
