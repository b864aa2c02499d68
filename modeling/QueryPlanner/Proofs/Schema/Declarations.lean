import QueryPlanner.Schema.Catalog

/-!
# Catalogs and their declarations

A catalog is built by declaring shapes and fields one after another.  It has the shapes that were
declared, and every field has the property that it was given last.
-/

namespace QueryPlanner.Schema

namespace Table

variable {α : Type} {table : Table α} {name other : String} {value : α}

theorem find?_eq_some_iff : table.find? name = some value ↔ (name, value) ∈ table.entries := by
  unfold find?
  constructor
  · intro found
    obtain ⟨entry, foundEntry, rfl⟩ := Option.map_eq_some_iff.mp found
    have nameEq : entry.1 = name := by simpa using List.find?_some foundEntry
    subst nameEq
    exact List.mem_of_find?_eq_some foundEntry
  · intro isEntry
    obtain ⟨front, back, split⟩ := List.append_of_mem isEntry
    have increasing := table.increasing
    rw [split] at increasing
    have earlier := (List.pairwise_append.mp increasing).2.2
    have foundEntry : table.entries.find? (fun entry => entry.1 = name) = some (name, value) := by
      rw [split, List.find?_eq_some_iff_append]
      refine ⟨by simp, front, back, rfl, ?_⟩
      intro entry isEarlier
      have different := String.ne_of_lt (earlier entry isEarlier (name, value) List.mem_cons_self)
      simpa using different
    rw [foundEntry]
    rfl

theorem eq_of_mem_entries {given : α} (isEntry : (name, value) ∈ table.entries)
    (isEntryToo : (name, given) ∈ table.entries) : value = given := by
  have found := find?_eq_some_iff.mpr isEntry
  rw [find?_eq_some_iff.mpr isEntryToo] at found
  exact (Option.some.inj found).symm

theorem contains_iff : table.contains name = true ↔ name ∈ table.names := by
  simp only [contains, names, Option.isSome_iff_exists, find?_eq_some_iff, List.mem_map,
    Prod.exists, exists_and_right, exists_eq_right]

theorem mem_names_insert :
    other ∈ (table.insert name value).names ↔ other = name ∨ other ∈ table.names := by
  rw [← contains_iff, ← contains_iff, contains, contains, find?_insert]
  by_cases same : name = other
  · simp [same]
  · simp [same, Ne.symm same]

theorem pairwise_names (table : Table α) : table.names.Pairwise (· < ·) :=
  List.pairwise_map.mpr table.increasing

end Table

/-- A step of building a catalog: a shape is declared, or a shape is given a field, which is a
scalar, a relation to one row or to many rows, or has any other property. -/
inductive Declaration where
  | shape (name : String)
  | field (shape name : String) (property : Property)

namespace Declaration

def owner : Declaration → String
  | shape name => name
  | field owner _ _ => owner

def apply (catalog : Catalog) : Declaration → Catalog
  | shape name => catalog.declare name
  | field owner name property => catalog.insert owner name property

end Declaration

namespace Catalog

def extend (catalog : Catalog) (declarations : List Declaration) : Catalog :=
  declarations.foldl Declaration.apply catalog

/-- The catalog that declarations build from nothing. -/
def ofDeclarations (declarations : List Declaration) : Catalog :=
  Catalog.extend ⟨.ofList []⟩ declarations

variable {catalog : Catalog} {declaration : Declaration} {declarations : List Declaration}
  {shape name other : String} {property given : Property}

theorem containsShape_iff : catalog.containsShape shape = true ↔ shape ∈ catalog.shapeNames :=
  Table.contains_iff

theorem mem_shapeNames_apply :
    other ∈ (declaration.apply catalog).shapeNames ↔
      other = declaration.owner ∨ other ∈ catalog.shapeNames := by
  cases declaration with
  | field shape name property => exact Table.mem_names_insert
  | shape name =>
      change other ∈ (catalog.declare name).shapeNames ↔ other = name ∨ _
      unfold declare
      split
      next isDeclared =>
        have declared : name ∈ catalog.shapeNames := Table.contains_iff.mp isDeclared
        constructor
        · exact .inr
        · rintro (rfl | isOld)
          · exact declared
          · exact isOld
      next => exact Table.mem_names_insert

theorem mem_shapeNames_extend :
    name ∈ (catalog.extend declarations).shapeNames ↔
      name ∈ catalog.shapeNames ∨ ∃ declaration ∈ declarations, declaration.owner = name := by
  induction declarations generalizing catalog with
  | nil => simp [extend]
  | cons declaration rest inductionHypothesis =>
      have further := @inductionHypothesis (declaration.apply catalog)
      rw [mem_shapeNames_apply] at further
      simp only [List.mem_cons, exists_eq_or_imp, ← or_assoc]
      rw [@or_comm (name ∈ catalog.shapeNames), @eq_comm _ declaration.owner]
      exact further

/-- The shapes of a catalog are those that were declared. -/
theorem mem_shapeNames_ofDeclarations :
    name ∈ (ofDeclarations declarations).shapeNames ↔
      ∃ declaration ∈ declarations, declaration.owner = name := by
  rw [ofDeclarations, mem_shapeNames_extend]
  exact or_iff_right List.not_mem_nil

theorem property?_declare : (catalog.declare other).property? shape name =
    catalog.property? shape name := by
  unfold declare
  split
  next => rfl
  next undeclared =>
    unfold property?
    rw [Table.find?_insert]
    split
    next same =>
      subst same
      rw [Option.not_isSome_iff_eq_none.mp undeclared]
      rfl
    next => rfl

theorem property?_insert {field : String} :
    (catalog.insert other field given).property? shape name =
      if other = shape ∧ field = name then some given else catalog.property? shape name := by
  unfold insert property?
  rw [Table.find?_insert]
  by_cases sameShape : other = shape
  · subst sameShape
    rw [if_pos rfl, Option.bind_some, Table.find?_insert]
    by_cases sameName : field = name
    · simp [sameName]
    · simp only [sameName, and_false, if_false]
      cases catalog.shapes.find? other with
      | none => rfl
      | some fields => rfl
  · simp [sameShape]

theorem property?_extend
    (found : (catalog.extend declarations).property? shape name = some property) :
    .field shape name property ∈ declarations ∨ catalog.property? shape name = some property := by
  induction declarations generalizing catalog with
  | nil => exact .inr found
  | cons declaration rest inductionHypothesis =>
      rcases inductionHypothesis found with isLater | wasBefore
      · exact .inl (List.mem_cons_of_mem _ isLater)
      · cases declaration with
        | shape other =>
            right
            rwa [Declaration.apply, property?_declare] at wasBefore
        | field other field given =>
            rw [Declaration.apply, property?_insert] at wasBefore
            split at wasBefore
            next same =>
              obtain ⟨rfl, rfl⟩ := same
              cases wasBefore
              exact .inl List.mem_cons_self
            next => exact .inr wasBefore

theorem isSome_property?_extend
    (given : (catalog.property? shape name).isSome = true ∨
      ∃ property, .field shape name property ∈ declarations) :
    ((catalog.extend declarations).property? shape name).isSome = true := by
  induction declarations generalizing catalog with
  | nil => simpa [extend] using given
  | cons declaration rest inductionHypothesis =>
      apply inductionHypothesis
      by_cases isLater : ∃ property, .field shape name property ∈ rest
      · exact .inr isLater
      · left
        cases declaration with
        | shape other =>
            rw [Declaration.apply, property?_declare]
            simpa [isLater] using given
        | field other field property =>
            rw [Declaration.apply, property?_insert]
            split
            next => rfl
            next different =>
              rcases given with wasBefore | ⟨later, isGiven⟩
              · exact wasBefore
              · rcases List.mem_cons.mp isGiven with same | further
                · cases same
                  exact absurd ⟨rfl, rfl⟩ different
                · exact absurd ⟨later, further⟩ isLater

/-- If no field is given two properties, the fields have what they are given. -/
theorem property?_ofDeclarations_iff
    (single : ∀ {shape name : String} {property other : Property},
      .field shape name property ∈ declarations → .field shape name other ∈ declarations →
        property = other) :
    (ofDeclarations declarations).property? shape name = some property ↔
      .field shape name property ∈ declarations := by
  have isGiven {property : Property}
      (found : (ofDeclarations declarations).property? shape name = some property) :
      .field shape name property ∈ declarations := by
    rcases property?_extend found with given | before
    · exact given
    · cases before
  constructor
  · exact isGiven
  · intro given
    obtain ⟨found, foundEq⟩ := Option.isSome_iff_exists.mp
      (isSome_property?_extend (.inr ⟨property, given⟩))
    rw [single given (isGiven foundEq)]
    exact foundEq

end Catalog

end QueryPlanner.Schema
