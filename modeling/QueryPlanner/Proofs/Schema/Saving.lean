import QueryPlanner.Proofs.Schema.Declarations
import QueryPlanner.Proofs.Toml.Tables
import QueryPlanner.Schema.File

/-!
# Saved schema files are loaded again

A schema file is written with the fields of each shape that are types first and a table for each
reference after them.  The text is read as these fields in this order, and a table does not depend
on the order of its entries, so the file that is read is the one that was written.
-/

namespace QueryPlanner.Schema

open QueryPlanner.Toml

namespace Table

variable {α : Type} {table : Table α} {name : String} {value : α} {entries : List (String × α)}

theorem perm_insertEntry (fresh : name ∉ entries.map Prod.fst) :
    (insertEntry name value entries).Perm ((name, value) :: entries) := by
  induction entries with
  | nil => exact .refl _
  | cons entry entries inductionHypothesis =>
      rw [List.map_cons, List.mem_cons, not_or] at fresh
      rw [insertEntry]
      split
      next => exact .refl _
      next =>
        rw [if_neg fresh.1]
        exact ((inductionHypothesis fresh.2).cons entry).trans (.swap _ _ _)

theorem perm_insertAll (distinct : (entries.map Prod.fst ++ table.names).Nodup) :
    (entries.foldl (fun table entry => table.insert entry.1 entry.2) table).entries.Perm
      (entries ++ table.entries) := by
  induction entries generalizing table with
  | nil => exact .refl _
  | cons entry entries inductionHypothesis =>
      rw [List.map_cons, List.cons_append] at distinct
      have notLater := (List.nodup_cons.mp distinct).1
      rw [List.mem_append, not_or] at notLater
      have inserted : (table.insert entry.1 entry.2).entries.Perm (entry :: table.entries) :=
        perm_insertEntry notLater.2
      have distinctAfter :
          (entries.map Prod.fst ++ (table.insert entry.1 entry.2).names).Nodup := by
        have names := ((inserted.map Prod.fst).append_left (entries.map Prod.fst)).trans
          List.perm_middle
        exact names.nodup_iff.mpr distinct
      have moved : (entries ++ (table.insert entry.1 entry.2).entries).Perm
          (entry :: entries ++ table.entries) :=
        (inserted.append_left entries).trans List.perm_middle
      exact (inductionHypothesis distinctAfter).trans moved

theorem nodup_names (table : Table α) : table.names.Nodup :=
  table.pairwise_names.imp String.ne_of_lt

/-- A table is what its entries build, in whichever order they are given. -/
theorem ofList_eq_of_perm (perm : entries.Perm table.entries) : ofList entries = table := by
  have distinct : (entries.map Prod.fst ++ (({} : Table α)).names).Nodup := by
    rw [names, List.map_nil, List.append_nil]
    exact (perm.map Prod.fst).nodup_iff.mpr table.nodup_names
  have built : (ofList entries).entries.Perm table.entries := by
    have all := perm_insertAll distinct
    rw [List.append_nil] at all
    exact all.trans perm
  apply ext
  refine List.Perm.eq_of_pairwise ?_ (ofList entries).increasing table.increasing built
  intro entry other _ _ less greater
  exact absurd greater (String.lt_asymm less)

end Table

namespace FieldSpec

def isType : FieldSpec → Bool
  | type _ => true
  | reference _ _ => false

/-- The members of a reference.  That it is to one row is left out. -/
def members : FieldSpec → List (String × Value)
  | type _ => []
  | reference shape many =>
      ("shape", .string shape) :: if many then [("many", .boolean true)] else []

/-- A field in TOML: the name of its type, or the table of a reference. -/
def toValue : FieldSpec → Value
  | type name => .string name
  | reference shape many => .table (reference shape many).members

def toNode : FieldSpec → Node
  | type name => .value (.string name)
  | reference shape many => .table .declared (nodesOf (reference shape many).members)

end FieldSpec

namespace File

def typesOf (fields : List (String × FieldSpec)) : List (String × FieldSpec) :=
  fields.filter fun (_, field) => field.isType

def referencesOf (fields : List (String × FieldSpec)) : List (String × FieldSpec) :=
  fields.filter fun (_, field) => !field.isType

def typesFirst (fields : List (String × FieldSpec)) : List (String × FieldSpec) :=
  typesOf fields ++ referencesOf fields

/-- The fields of a shape in TOML, in the order in which they are written. -/
def fieldMembers (fields : List (String × FieldSpec)) : List (String × Value) :=
  (typesFirst fields).map fun (name, field) => (name, field.toValue)

def members (file : File) : List (String × Value) :=
  [("shapes", .table (file.shapes.entries.map fun (shape, fields) =>
    (shape, .table (fieldMembers fields.entries))))]

variable {shape : String} {fields : List (String × FieldSpec)}

section Meaning

theorem fieldOf?_toValue (field : FieldSpec) : fieldOf? field.toValue = some field := by
  cases field with
  | type name => rfl
  | reference shape many => cases many <;> rfl

theorem mapM_map_of_forall {α β γ : Type} {f : β → Option γ} {g : α → β} {h : α → γ}
    {list : List α} (each : ∀ a ∈ list, f (g a) = some (h a)) :
    (list.map g).mapM f = some (list.map h) := by
  induction list with
  | nil => rfl
  | cons a list inductionHypothesis =>
      obtain ⟨first, rest⟩ := List.forall_mem_cons.mp each
      rw [List.map_cons, List.mapM_cons, first, inductionHypothesis rest]
      rfl

theorem perm_typesFirst (fields : List (String × FieldSpec)) : (typesFirst fields).Perm fields :=
  List.filter_append_perm _ fields

theorem fieldsOf?_fieldMembers (fields : Table FieldSpec) :
    fieldsOf? (fieldMembers fields.entries) = some fields := by
  have read : (fieldMembers fields.entries).mapM
      (fun entry => (fieldOf? entry.2).map (entry.1, ·)) =
      some ((typesFirst fields.entries).map id) := by
    apply mapM_map_of_forall
    rintro ⟨name, field⟩ _
    rw [fieldOf?_toValue]
    rfl
  rw [fieldsOf?, read, List.map_id]
  exact congrArg some (Table.ofList_eq_of_perm (perm_typesFirst fields.entries))

theorem ofMembers?_members (file : File) : ofMembers? file.members = some file := by
  have read : (file.shapes.entries.map fun (shape, fields) =>
      (shape, Value.table (fieldMembers fields.entries))).mapM
        (fun entry => (shapeOf? entry.2).map (entry.1, ·)) =
      some (file.shapes.entries.map id) := by
    apply mapM_map_of_forall
    rintro ⟨shape, fields⟩ _
    simp only [shapeOf?, fieldsOf?_fieldMembers]
    rfl
  have found : member? "shapes" file.members =
      some (.table (file.shapes.entries.map fun (shape, fields) =>
        (shape, Value.table (fieldMembers fields.entries)))) := rfl
  simp only [ofMembers?, found, read, List.map_id, Option.map_some,
    Table.ofList_eq_of_perm (List.Perm.refl _)]

end Meaning

/-- The entries of a shape's own table, which are its fields that are types. -/
def typeMembers (fields : List (String × FieldSpec)) : List (String × Value) :=
  (typesOf fields).map fun (name, field) => (name, field.toValue)

def referenceBlocks (shape : String) (fields : List (String × FieldSpec)) : List Block :=
  (referencesOf fields).map fun (name, field) => ⟨["shapes", shape, name], field.members⟩

/-- The shape's own table is left out. -/
def onlyReferences (fields : List (String × FieldSpec)) : Bool :=
  (typesOf fields).isEmpty && !(referencesOf fields).isEmpty

/-- The tables of a shape as they are written. -/
def shapeBlocks (shape : String) (fields : List (String × FieldSpec)) : List Block :=
  if onlyReferences fields then referenceBlocks shape fields
  else ⟨["shapes", shape], typeMembers fields⟩ :: referenceBlocks shape fields

/-- The tables of a file as they are written.  Without shapes there is one that is empty. -/
def blocks (file : File) : List Block :=
  let tables := file.shapes.entries.flatMap fun (shape, fields) => shapeBlocks shape fields.entries
  if tables.isEmpty then [⟨["shapes"], []⟩] else tables

section Text

theorem isEntry_typeLines (fields : List (String × FieldSpec)) :
    List.Forall₂ IsEntry (typeLines fields) (typeMembers fields) := by
  induction fields with
  | nil => exact .nil
  | cons entry fields inductionHypothesis =>
      obtain ⟨name, field⟩ := entry
      cases field with
      | type type => exact .cons (.entry name (.string type)) inductionHypothesis
      | reference target many => exact inductionHypothesis

theorem isEntry_referenceLines (shape : String) (many : Bool) :
    List.Forall₂ IsEntry (referenceLines shape many) (FieldSpec.reference shape many).members := by
  cases many with
  | false => exact .cons (.entry "shape" (.string shape)) .nil
  | true => exact .cons (.entry "shape" (.string shape)) (.cons (.entry "many" .truth) .nil)

theorem isBlock_referenceTables (shape : String) (fields : List (String × FieldSpec)) :
    List.Forall₂ IsBlock (referenceTables shape fields) (referenceBlocks shape fields) := by
  induction fields with
  | nil => exact .nil
  | cons entry fields inductionHypothesis =>
      obtain ⟨name, field⟩ := entry
      cases field with
      | type type => exact inductionHypothesis
      | reference target many =>
          have isBlock := isBlock_writeTable ["shapes", shape, name]
            (List.cons_ne_nil _ _) (by simp) (isEntry_referenceLines target many)
          exact .cons isBlock inductionHypothesis

theorem isEmpty_eq_of_forall₂ {α β : Type} {relation : α → β → Prop} {left : List α}
    {right : List β} (related : List.Forall₂ relation left right) :
    left.isEmpty = right.isEmpty := by
  cases related <;> rfl

theorem isBlock_shapeTables (shape : String) (fields : List (String × FieldSpec)) :
    List.Forall₂ IsBlock (shapeTables shape fields) (shapeBlocks shape fields) := by
  have types := isEntry_typeLines fields
  have references := isBlock_referenceTables shape fields
  have own := isBlock_writeTable ["shapes", shape] (List.cons_ne_nil _ _) (by simp) types
  have sameChoice : ((typeLines fields).isEmpty && !(referenceTables shape fields).isEmpty) =
      onlyReferences fields := by
    rw [isEmpty_eq_of_forall₂ types, isEmpty_eq_of_forall₂ references, typeMembers,
      referenceBlocks, List.isEmpty_map, List.isEmpty_map, onlyReferences]
  simp only [shapeTables, shapeBlocks, sameChoice]
  split
  next => exact references
  next => exact .cons own references

theorem isBlock_tables (shapes : List (String × Table FieldSpec)) :
    List.Forall₂ IsBlock (shapes.flatMap fun (shape, fields) => shapeTables shape fields.entries)
      (shapes.flatMap fun (shape, fields) => shapeBlocks shape fields.entries) := by
  induction shapes with
  | nil => exact .nil
  | cons entry shapes inductionHypothesis =>
      rw [List.flatMap_cons, List.flatMap_cons]
      exact List.rel_append (isBlock_shapeTables entry.1 entry.2.entries) inductionHypothesis

theorem shapeBlocks_front (shape : String) (fields : List (String × FieldSpec)) :
    ∃ path members rest,
      shapeBlocks shape fields = ⟨"shapes" :: shape :: path, members⟩ :: rest := by
  unfold shapeBlocks
  split
  next isOnly =>
    cases references : referencesOf fields with
    | nil => simp [onlyReferences, references] at isOnly
    | cons entry rest =>
        rw [referenceBlocks, references]
        exact ⟨[entry.1], entry.2.members, _, rfl⟩
  next => exact ⟨[], _, _, rfl⟩

theorem shapes_front {shapes : List (String × Table FieldSpec)} (nonempty : shapes ≠ []) :
    ∃ path members rest, (shapes.flatMap fun (shape, fields) => shapeBlocks shape fields.entries) =
      ⟨"shapes" :: path, members⟩ :: rest := by
  obtain ⟨⟨shape, fields⟩, shapes, rfl⟩ := List.exists_cons_of_ne_nil nonempty
  obtain ⟨path, members, rest, front⟩ := shapeBlocks_front shape fields.entries
  simp only [List.flatMap_cons, front]
  exact ⟨shape :: path, members, _, rfl⟩

/-- A file is written as a row of tables. -/
theorem parse?_write_eq (file : File) :
    Toml.parse? file.write = (file.blocks.foldlM Block.addTo []).map membersOf := by
  have tables := isBlock_tables file.shapes.entries
  have empty := isBlock_writeTable ["shapes"] (List.cons_ne_nil _ _) (by simp) .nil
  apply parse?_joinTables
  simp only [blocks, isEmpty_eq_of_forall₂ tables]
  split
  next => exact .cons empty .nil
  next => exact tables

end Text

section Reading

/-- The table that all shapes are in.  Only a file without shapes has a header for it. -/
def shapesFrame : Frame := ⟨[], "shapes", .implied⟩

def fieldNodes (fields : List (String × FieldSpec)) : Entries :=
  fields.map fun (name, field) => (name, field.toNode)

def shapeNode (fields : List (String × FieldSpec)) : Node :=
  .table (if onlyReferences fields then .implied else .declared) (fieldNodes (typesFirst fields))

variable {inner : Entries}

theorem nodesOf_typeMembers (fields : List (String × FieldSpec)) :
    nodesOf (typeMembers fields) = fieldNodes (typesOf fields) := by
  rw [nodesOf, typeMembers, List.map_map]
  apply List.map_congr_left
  rintro ⟨name, field⟩ isMember
  have isType := (List.mem_filter.mp isMember).2
  cases field with
  | type type => rfl
  | reference target many => cases isType

theorem fieldNodes_referencesOf (fields : List (String × FieldSpec)) :
    (referencesOf fields).map (fun (name, field) =>
      (name, .table .declared (nodesOf field.members))) = fieldNodes (referencesOf fields) := by
  apply List.map_congr_left
  rintro ⟨name, field⟩ isMember
  have isReference := (List.mem_filter.mp isMember).2
  cases field with
  | type type => cases isReference
  | reference target many => rfl

theorem fieldNodes_typesFirst (fields : List (String × FieldSpec)) :
    fieldNodes (typesFirst fields) =
      fieldNodes (typesOf fields) ++ fieldNodes (referencesOf fields) :=
  List.map_append

theorem distinctKeys_members (field : FieldSpec) : DistinctKeys (nodesOf field.members) := by
  cases field with
  | type name => exact .nil
  | reference shape many => cases many <;> simp [DistinctKeys, nodesOf, FieldSpec.members]

theorem distinctKeys_typesFirst (distinct : (fields.map Prod.fst).Nodup) :
    DistinctKeys (fieldNodes (typesOf fields) ++ fieldNodes (referencesOf fields)) := by
  rw [← fieldNodes_typesFirst, DistinctKeys, fieldNodes, List.map_map]
  exact ((perm_typesFirst fields).map Prod.fst).nodup_iff.mpr distinct

theorem foldlM_referenceBlocks (shape : String) {frames : List Frame} (clear : Clear frames)
    (pathEq : pathOf frames = ["shapes", shape])
    (distinct : DistinctKeys (inner ++ fieldNodes (referencesOf fields))) :
    (referenceBlocks shape fields).foldlM Block.addTo (around frames inner) =
      some (around frames (inner ++ fieldNodes (referencesOf fields))) := by
  let tables := (referencesOf fields).map fun (name, field) => (name, field.members)
  have added := foldlM_addTo_around inner tables clear
  rw [List.map_map, List.map_map, pathEq] at added
  rw [← fieldNodes_referencesOf] at distinct ⊢
  apply added distinct
  intro table isMember
  obtain ⟨⟨name, field⟩, _, rfl⟩ := List.mem_map.mp isMember
  exact distinctKeys_members field

theorem clear_shapesFrame : Clear [shapesFrame] := by
  intro frame isMember
  rw [List.mem_singleton] at isMember
  subst isMember
  exact List.not_mem_nil

theorem foldlM_shapeBlocks (fresh : Fresh shape inner) (distinct : (fields.map Prod.fst).Nodup) :
    (shapeBlocks shape fields).foldlM Block.addTo (around [shapesFrame] inner) =
      some (around [shapesFrame] (inner ++ [(shape, shapeNode fields)])) := by
  have fieldsDistinct := distinctKeys_typesFirst distinct
  have clear := clear_concat clear_shapesFrame fresh
  have starts := shapeBlocks_front shape fields
  unfold shapeBlocks at starts ⊢
  unfold shapeNode
  split
  next isOnly =>
    -- The table of the shape comes about by the header of its first reference.
    rw [if_pos isOnly] at starts
    have noTypes : typesOf fields = [] :=
      List.isEmpty_iff.mp (Bool.and_eq_true_iff.mp isOnly).1
    rw [noTypes] at fieldsDistinct
    have references := foldlM_referenceBlocks shape (clear .implied) rfl fieldsDistinct
    rw [foldlM_addTo_missing clear_shapesFrame fresh starts, fieldNodes_typesFirst, noTypes,
      ← around_concat]
    exact references
  next notOnly =>
    have typesDistinct : DistinctKeys (nodesOf (typeMembers fields)) := by
      rw [nodesOf_typeMembers]
      rw [DistinctKeys, List.map_append] at fieldsDistinct
      exact (List.nodup_append.mp fieldsDistinct).1
    have own : Block.addTo (around [shapesFrame] inner) ⟨["shapes", shape], typeMembers fields⟩ =
        some (around [shapesFrame]
          (inner ++ [(shape, .table .declared (nodesOf (typeMembers fields)))])) :=
      addTo_around clear_shapesFrame fresh typesDistinct
    have references := foldlM_referenceBlocks shape (clear .declared) rfl fieldsDistinct
    rw [around_concat, around_concat, ← nodesOf_typeMembers] at references
    rw [List.foldlM_cons, own, fieldNodes_typesFirst, ← nodesOf_typeMembers]
    exact references

/-- The shapes of a file among the entries of the table that they are in. -/
def shapeNodes (shapes : List (String × Table FieldSpec)) : Entries :=
  shapes.map fun (shape, fields) => (shape, shapeNode fields.entries)

theorem foldlM_shapes {shapes : List (String × Table FieldSpec)}
    (distinct : DistinctKeys (inner ++ shapeNodes shapes)) :
    (shapes.flatMap fun (shape, fields) => shapeBlocks shape fields.entries).foldlM Block.addTo
        (around [shapesFrame] inner) =
      some (around [shapesFrame] (inner ++ shapeNodes shapes)) := by
  induction shapes generalizing inner with
  | nil => simp [shapeNodes]
  | cons entry shapes inductionHypothesis =>
      obtain ⟨shape, fields⟩ := entry
      rw [shapeNodes, List.map_cons] at distinct ⊢
      have added := foldlM_shapeBlocks (fresh_of_distinct distinct) fields.nodup_names
      rw [List.append_cons] at distinct ⊢
      rw [List.flatMap_cons, List.foldlM_append, added]
      exact inductionHypothesis distinct

theorem toValue_toNode (field : FieldSpec) : field.toNode.toValue = field.toValue := by
  cases field with
  | type type => rfl
  | reference target many =>
      rw [FieldSpec.toNode, Node.toValue, membersOf_nodesOf]
      rfl

theorem toValue_shapeNode (fields : List (String × FieldSpec)) :
    (shapeNode fields).toValue = .table (fieldMembers fields) := by
  rw [shapeNode, Node.toValue, membersOf_eq_map, fieldNodes, fieldMembers, List.map_map]
  congr 1
  apply List.map_congr_left
  rintro ⟨name, field⟩ _
  exact congrArg (Prod.mk name) (toValue_toNode field)

theorem membersOf_shapeNodes (file : File) :
    membersOf (around [shapesFrame] (shapeNodes file.shapes.entries)) = file.members := by
  have inner : membersOf (shapeNodes file.shapes.entries) =
      file.shapes.entries.map fun (shape, fields) =>
        (shape, .table (fieldMembers fields.entries)) := by
    rw [membersOf_eq_map, shapeNodes, List.map_map]
    apply List.map_congr_left
    rintro ⟨shape, fields⟩ _
    exact congrArg (Prod.mk shape) (toValue_shapeNode fields.entries)
  rw [members, ← inner]
  rfl

/-- The written tables of a file build the members of the file. -/
theorem membersOf_blocks (file : File) :
    (file.blocks.foldlM Block.addTo []).map membersOf = some file.members := by
  have noFrames : Clear [] := List.forall_mem_nil _
  have nothing : Fresh "shapes" [] := List.not_mem_nil
  have distinct : DistinctKeys ([] ++ shapeNodes file.shapes.entries) := by
    rw [List.nil_append, DistinctKeys, shapeNodes, List.map_map]
    exact file.shapes.nodup_names
  have built := foldlM_shapes distinct
  unfold blocks
  by_cases noShapes : file.shapes.entries = []
  · have header : Block.addTo [] ⟨["shapes"], []⟩ = some [("shapes", .table .declared [])] :=
      addTo_around noFrames nothing .nil
    rw [members, noShapes]
    simp only [List.flatMap_nil, List.isEmpty_nil, if_true, List.foldlM_cons, header]
    rfl
  · have starts := shapes_front noShapes
    have missing := foldlM_addTo_missing noFrames nothing starts
    obtain ⟨path, first, rest, front⟩ := starts
    rw [← membersOf_shapeNodes]
    simp only [front, List.isEmpty_cons, Bool.false_eq_true, if_false] at built missing ⊢
    exact congrArg (Option.map membersOf) (missing.trans built)

/-- A schema file that is written is read as the members of the file, in which a reference to one
row does not mention that it is to one, and is loaded again as the same file. -/
theorem parse?_write (file : File) :
    Toml.parse? file.write = some file.members ∧ parse? file.write = some file := by
  have read : Toml.parse? file.write = some file.members := by
    rw [parse?_write_eq, membersOf_blocks]
  refine ⟨read, ?_⟩
  rw [parse?, read]
  exact ofMembers?_members file

/-- Names that are no bare keys stand in quotes, and a reference to one row has one member only. -/
example : File.write { shapes := .ofList [
    ("a.b", .ofList [("one", .reference "c d" false), ("", .type "it's")])] } =
      "[shapes.\"a.b\"]\n\"\" = \"it's\"\n\n[shapes.\"a.b\".one]\nshape = \"c d\"\n" := by
  decide +kernel

end Reading

end File

end QueryPlanner.Schema
