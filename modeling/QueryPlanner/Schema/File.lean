import QueryPlanner.Schema.Catalog
import QueryPlanner.Toml.Reader
import QueryPlanner.Toml.Writer

/-!
Schema files: shapes and their fields, written in TOML.

A field is either the name of a type, or a reference to a shape that may be to many rows.
-/

namespace QueryPlanner.Schema

open QueryPlanner.Toml

/-- A field as a schema file gives it. -/
inductive FieldSpec where
  | type (name : String)
  | reference (shape : String) (many : Bool)
  deriving DecidableEq

namespace FieldSpec

def valueShape : FieldSpec → String
  | type name => name
  | reference shape _ => shape

def isMany : FieldSpec → Bool
  | type _ => false
  | reference _ many => many

end FieldSpec

structure File where
  shapes : Table (Table FieldSpec) := {}
  deriving DecidableEq

namespace File

/-- The field that a TOML value gives: a string, or a table with a `shape`.  Other members of the
table than `shape` and `many` count for nothing. -/
def fieldOf? : Value → Option FieldSpec
  | .string name => some (.type name)
  | .table members =>
      match member? "shape" members, member? "many" members with
      | some (.string shape), none => some (.reference shape false)
      | some (.string shape), some (.boolean many) => some (.reference shape many)
      | _, _ => none
  | _ => none

/-- The name of the one member that a date has when it is read as a table. -/
def dateMember : String := "$__toml_private_datetime"

/-- The fields that members give, if every one of them gives a field. -/
def fieldsOf? (members : List (String × Value)) : Option (Table FieldSpec) :=
  (members.mapM fun entry => (fieldOf? entry.2).map (entry.1, ·)).map Table.ofList

/-- The fields of the shape that a TOML value gives.  A date is read as a table. -/
def shapeOf? : Value → Option (Table FieldSpec)
  | .table members => fieldsOf? members
  | .dateTime text => some (Table.ofList [(dateMember, .type text)])
  | _ => none

/-- The schema that the members of a TOML text give.  Only the member `shapes` counts. -/
def ofMembers? (members : List (String × Value)) : Option File :=
  match member? "shapes" members with
  | none => some {}
  | some (.table shapes) =>
      (shapes.mapM fun entry => (shapeOf? entry.2).map (entry.1, ·)).map fun entries =>
        ⟨Table.ofList entries⟩
  | some _ => none

def parse? (text : String) : Option File :=
  (Toml.parse? text).bind ofMembers?

/-- The lines of a reference.  That it is to one row goes without saying. -/
def referenceLines (shape : String) (many : Bool) : List (List Char) :=
  writeEntry "shape" (writeString shape.toList) ::
    if many then [writeEntry "many" ['t', 'r', 'u', 'e']] else []

def typeLines (fields : List (String × FieldSpec)) : List (List Char) :=
  fields.filterMap fun (name, field) =>
    match field with
    | .type type => some (writeEntry name (writeString type.toList))
    | .reference _ _ => none

def referenceTables (shape : String) (fields : List (String × FieldSpec)) : List (List Char) :=
  fields.filterMap fun (name, field) =>
    match field with
    | .type _ => none
    | .reference target many =>
        some (writeTable ["shapes", shape, name] (referenceLines target many))

/-- The tables of a shape: its own with the fields that are types, and one for each reference.
The shape's own table is left out when all its fields are references. -/
def shapeTables (shape : String) (fields : List (String × FieldSpec)) : List (List Char) :=
  let types := typeLines fields
  let references := referenceTables shape fields
  if types.isEmpty && !references.isEmpty then references
  else writeTable ["shapes", shape] types :: references

def write (file : File) : String :=
  let tables := file.shapes.entries.flatMap fun (shape, fields) => shapeTables shape fields.entries
  String.ofList (joinTables (if tables.isEmpty then [writeTable ["shapes"] []] else tables))

/-- What a field means in a file: it can be followed if the file declares its shape. -/
def property (file : File) (field : FieldSpec) : Property :=
  ⟨field.valueShape, field.isMany, file.shapes.contains field.valueShape⟩

def catalog (file : File) : Catalog :=
  let declared : Catalog := file.shapes.names.foldl Catalog.declare {}
  file.shapes.entries.foldl
    (fun catalog (shape, fields) =>
      fields.entries.foldl
        (fun catalog (name, field) => catalog.insert shape name (file.property field)) catalog)
    declared

end File

end QueryPlanner.Schema
