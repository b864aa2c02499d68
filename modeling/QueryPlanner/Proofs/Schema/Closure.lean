import QueryPlanner.Proofs.Plan.Faults
import QueryPlanner.Proofs.Schema.Shapes
import QueryPlanner.Schema.File

/-!
# Catalogs of schema files

The catalog of a schema file has the shapes of the file and their fields, and a field can be
followed exactly if the file declares the shape that it leads to.  So relations never leave the
declared shapes, and a query can only be refused for a field that a declared shape does not have.
-/

namespace QueryPlanner.Schema.File

open QueryPlanner.Json QueryPlanner.Document

/-- The file has a shape, with or without fields. -/
def DeclaresShape (file : File) (shape : String) : Prop :=
  ∃ fields, (shape, fields) ∈ file.shapes.entries

def Gives (file : File) (shape name : String) (field : FieldSpec) : Prop :=
  ∃ fields, (shape, fields) ∈ file.shapes.entries ∧ (name, field) ∈ fields.entries

/-- What the file declares: first all shapes, then their fields. -/
def declarations (file : File) : List Declaration :=
  file.shapes.names.map .shape ++
    file.shapes.entries.flatMap fun (shape, fields) =>
      fields.entries.map fun (name, field) => .field shape name (file.property field)

variable {file : File} {shape name : String} {field other : FieldSpec} {property : Property}

theorem declaresShape_iff : file.DeclaresShape shape ↔ shape ∈ file.shapes.names := by
  simp only [DeclaresShape, Table.names, List.mem_map, Prod.exists, exists_and_right,
    exists_eq_right]

theorem Gives.declaresShape (gives : file.Gives shape name field) : file.DeclaresShape shape := by
  obtain ⟨fields, isEntry, _⟩ := gives
  exact ⟨fields, isEntry⟩

theorem Gives.unique (gives : file.Gives shape name field)
    (givesToo : file.Gives shape name other) : field = other := by
  obtain ⟨fields, isEntry, isField⟩ := gives
  obtain ⟨otherFields, isEntryToo, isFieldToo⟩ := givesToo
  have sameFields : fields = otherFields := Table.eq_of_mem_entries isEntry isEntryToo
  subst sameFields
  exact Table.eq_of_mem_entries isField isFieldToo

theorem field_mem_declarations_iff : .field shape name property ∈ file.declarations ↔
    ∃ field, file.Gives shape name field ∧ file.property field = property := by
  simp only [declarations, Gives, List.mem_append, List.mem_map, List.mem_flatMap, Prod.exists,
    reduceCtorEq, and_false, exists_false, false_or, Declaration.field.injEq]
  constructor
  · rintro ⟨_, fields, isEntry, _, field, isField, rfl, rfl, rfl⟩
    exact ⟨field, ⟨fields, isEntry, isField⟩, rfl⟩
  · rintro ⟨field, ⟨fields, isEntry, isField⟩, rfl⟩
    exact ⟨shape, fields, isEntry, name, field, isField, rfl, rfl, rfl⟩

theorem exists_owner_iff :
    (∃ declaration ∈ file.declarations, declaration.owner = shape) ↔ file.DeclaresShape shape := by
  constructor
  · rintro ⟨declaration, isDeclared, rfl⟩
    cases declaration with
    | shape name =>
        apply declaresShape_iff.mpr
        simpa [declarations, Declaration.owner] using isDeclared
    | field shape name property =>
        obtain ⟨field, gives, _⟩ := field_mem_declarations_iff.mp isDeclared
        exact gives.declaresShape
  · intro declares
    refine ⟨.shape shape, ?_, rfl⟩
    apply List.mem_append_left
    exact List.mem_map.mpr ⟨shape, declaresShape_iff.mp declares, rfl⟩

theorem catalog_eq_ofDeclarations : file.catalog = .ofDeclarations file.declarations := by
  rw [Catalog.ofDeclarations, Catalog.extend, declarations, List.foldl_append, List.foldl_map,
    List.foldl_flatMap]
  simp only [List.foldl_map]
  rfl

theorem mem_shapeNames_catalog_iff :
    shape ∈ file.catalog.shapeNames ↔ file.DeclaresShape shape := by
  rw [catalog_eq_ofDeclarations, Catalog.mem_shapeNames_ofDeclarations, exists_owner_iff]

theorem property?_catalog_iff : file.catalog.property? shape name = some property ↔
    ∃ field, file.Gives shape name field ∧ file.property field = property := by
  rw [catalog_eq_ofDeclarations, Catalog.property?_ofDeclarations_iff, field_mem_declarations_iff]
  intro shape name property other isDeclared isDeclaredToo
  obtain ⟨field, gives, rfl⟩ := field_mem_declarations_iff.mp isDeclared
  obtain ⟨otherField, givesToo, rfl⟩ := field_mem_declarations_iff.mp isDeclaredToo
  rw [gives.unique givesToo]

theorem property_isNavigable_iff :
    (file.property field).isNavigable = true ↔ file.DeclaresShape field.valueShape := by
  rw [declaresShape_iff]
  exact Table.contains_iff

theorem isClosed_catalog : IsClosed file.catalog.provider file.DeclaresShape := by
  intro shape name property _ found isNavigable
  obtain ⟨field, _, rfl⟩ := property?_catalog_iff.mp found
  exact property_isNavigable_iff.mp isNavigable

/-- What a file's catalog says of a field is what the file says of it. -/
theorem describes_of_gives (gives : file.Gives shape name field) :
    ∃ property, file.catalog.property? shape name = some property ∧
      (field = .type property.valueShape ∨ ∃ many, field = .reference property.valueShape many) ∧
      (property.isCollection = true ↔ field = .reference property.valueShape true) ∧
      (property.isNavigable = true ↔ file.DeclaresShape property.valueShape) := by
  refine ⟨file.property field, property?_catalog_iff.mpr ⟨field, gives, rfl⟩, ?_, ?_,
    property_isNavigable_iff⟩
  · cases field with
    | type name => exact .inl rfl
    | reference target many => exact .inr ⟨many, rfl⟩
  · cases field with
    | type name =>
        apply iff_of_false
        · rintro ⟨⟩
        · rintro ⟨⟩
    | reference target many =>
        constructor
        · rintro rfl
          rfl
        · rintro ⟨⟩
          rfl

/-- The catalog of a schema file is closed.  It has exactly the shapes of the file and exactly their
fields: each has the type or the shape that the file gives it, it is a collection exactly if it is
written as a reference to many rows, and it can be followed exactly if the file declares the shape
that it leads to.  So relations lead to declared shapes, and a document on a declared shape, or on
the shape that its type means, is refused for an unknown field only if a declared shape does not
have this field. -/
theorem catalog_closed (file : File) :
    (∀ shape, file.catalog.containsShape shape = true ↔ file.DeclaresShape shape) ∧
    (∀ shape name, (file.catalog.property? shape name).isSome = true ↔
      ∃ field, file.Gives shape name field) ∧
    (∀ shape name field, file.Gives shape name field →
      ∃ property, file.catalog.property? shape name = some property ∧
        (field = .type property.valueShape ∨ ∃ many, field = .reference property.valueShape many) ∧
        (property.isCollection = true ↔ field = .reference property.valueShape true) ∧
        (property.isNavigable = true ↔ file.DeclaresShape property.valueShape)) ∧
    (∀ shape name property, file.catalog.property? shape name = some property →
      property.isNavigable = true → file.catalog.containsShape property.valueShape = true) ∧
    (∀ (document : Document) (root shape field : String), file.catalog.containsShape root = true →
      document.build root file.catalog.provider = .error (.unknownField shape field) →
        file.catalog.containsShape shape = true ∧ file.catalog.property? shape field = none) ∧
    ∀ text shape field, plan text file.catalog.provider = .error (.unknownField shape field) →
      file.catalog.containsShape shape = true ∧ file.catalog.property? shape field = none := by
  have declares_iff (shape : String) :
      file.catalog.containsShape shape = true ↔ file.DeclaresShape shape :=
    Catalog.containsShape_iff.trans mem_shapeNames_catalog_iff
  refine ⟨declares_iff, ?_⟩
  simp only [declares_iff]
  refine ⟨?_, fun shape name field => describes_of_gives, ?_, ?_, ?_⟩
  · intro shape name
    rw [Option.isSome_iff_exists]
    constructor
    · rintro ⟨property, found⟩
      obtain ⟨field, gives, _⟩ := property?_catalog_iff.mp found
      exact ⟨field, gives⟩
    · rintro ⟨field, gives⟩
      exact ⟨file.property field, property?_catalog_iff.mpr ⟨field, gives, rfl⟩⟩
  · intro shape name property found isNavigable
    obtain ⟨field, _, rfl⟩ := property?_catalog_iff.mp found
    exact property_isNavigable_iff.mp isNavigable
  · intro document root shape field start refused
    exact isClosed_catalog.of_unknownField start refused
  · intro text shape field refused
    obtain ⟨document, typeName, root, means, refusedDocument⟩ := exists_build_of_plan refused
    have start : file.DeclaresShape root :=
      mem_shapeNames_catalog_iff.mp (Catalog.mem_shapeNames_of_shape? means)
    exact isClosed_catalog.of_unknownField start refusedDocument

/-- Customers and orders lead to each other, customers by a reference and orders by the bare name of
the shape.  Notes have no fields. -/
def customersFile : File where
  shapes := .ofList [
    ("order", .ofList [("customer", .type "customer"), ("number", .type "int")]),
    ("customer", .ofList [("orders", .reference "order" true), ("note", .type "note")]),
    ("note", {})]

def notesDocument : Document where
  typeName := none
  query := [("orders", .object [("customer", .object [("note", .object [("text", .null)])])])]
  page := 0
  pageSize := 0

theorem build_notesDocument : notesDocument.build "customer" customersFile.catalog.provider =
    .error (.unknownField "note" "text") := by
  apply build_error_iff.mpr
  refine .inr ⟨.inl rfl, ?_⟩
  have orders : customersFile.catalog.property? "customer" "orders" =
      some ⟨"order", true, true⟩ := by decide +kernel
  have customer : customersFile.catalog.property? "order" "customer" =
      some ⟨"customer", false, true⟩ := by decide +kernel
  have note : customersFile.catalog.property? "customer" "note" = some ⟨"note", false, true⟩ := by
    decide +kernel
  have noText : customersFile.catalog.property? "note" "text" = none := by decide +kernel
  rw [← firstFault?_eq_some_iff, notesDocument, firstFault?_object orders, if_pos rfl,
    firstFault?_object customer, if_pos rfl, firstFault?_object note, if_pos rfl,
    firstFault?_undeclared noText]
  rfl

theorem catalog_closed_customers :
    customersFile.catalog.containsShape "customer" = true ∧
      notesDocument.build "customer" customersFile.catalog.provider =
        .error (.unknownField "note" "text") ∧
      customersFile.catalog.containsShape "note" = true ∧
      customersFile.catalog.property? "note" "text" = none := by
  have start : customersFile.catalog.containsShape "customer" = true := by decide +kernel
  have refusedFor := (catalog_closed customersFile).2.2.2.2.1
  exact ⟨start, build_notesDocument,
    refusedFor notesDocument "customer" "note" "text" start build_notesDocument⟩

end QueryPlanner.Schema.File
