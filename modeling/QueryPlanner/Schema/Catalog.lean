import QueryPlanner.Schema.Table
import QueryPlanner.Text.Containment
import QueryPlanner.Text.Lowercase

/-!
What is known about the shapes of rows: their fields, and which shape a type name means.
-/

namespace QueryPlanner.Schema

open QueryPlanner.Text

/-- What a field of a shape holds. -/
structure Property where
  /-- A scalar type or the shape of the related rows. -/
  valueShape : String
  isCollection : Bool
  /-- Whether the value is a related row, or rows, that conditions can reach. -/
  isNavigable : Bool
  deriving DecidableEq

namespace Property

def scalar (valueShape : String) : Property :=
  ⟨valueShape, false, false⟩

def relation (target : String) (isCollection : Bool) : Property :=
  ⟨target, isCollection, true⟩

end Property

/-- Everything that planning a query asks about shapes. -/
structure Provider where
  property? : (shape name : String) → Option Property
  shape? : (typeName : String) → Option String

structure Catalog where
  shapes : Table (Table Property) := {}
  deriving DecidableEq

namespace Catalog

/-- Declares a shape, which keeps the fields that it has. -/
def declare (catalog : Catalog) (shape : String) : Catalog :=
  if catalog.shapes.contains shape then catalog else ⟨catalog.shapes.insert shape {}⟩

/-- Gives a shape a field, and declares the shape if need be. -/
def insert (catalog : Catalog) (shape name : String) (property : Property) : Catalog :=
  let fields := (catalog.shapes.find? shape).getD {}
  ⟨catalog.shapes.insert shape (fields.insert name property)⟩

def containsShape (catalog : Catalog) (shape : String) : Bool :=
  catalog.shapes.contains shape

def shapeNames (catalog : Catalog) : List String :=
  catalog.shapes.names

def fields (catalog : Catalog) (shape : String) : List (String × Property) :=
  ((catalog.shapes.find? shape).map Table.entries).getD []

def property? (catalog : Catalog) (shape name : String) : Option Property :=
  (catalog.shapes.find? shape).bind fun fields => fields.find? name

/-- The shape that a type name means: the first one whose name is the same in lower case, or else
the first one whose name contains it in lower case. -/
def shape? (catalog : Catalog) (typeName : String) : Option String :=
  let wanted := lowercase typeName.toList
  let lowered (name : String) := lowercase name.toList
  if wanted.isEmpty then none
  else
    let candidates := catalog.shapeNames.filter fun name => hasPart wanted (lowered name)
    candidates.find? (fun name => lowered name = wanted) <|> candidates.head?

def provider (catalog : Catalog) : Provider :=
  ⟨catalog.property?, catalog.shape?⟩

end Catalog

end QueryPlanner.Schema
