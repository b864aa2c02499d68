import Mathlib.Data.List.Infix
import QueryPlanner.Proofs.Schema.Declarations
import QueryPlanner.Proofs.Text.ByteOrder

/-!
# Shapes and type names

A type name means the first shape that has this name in lower case, whatever shapes before it only
contain the name, and else the first shape that contains it.  So it depends on the set of the shapes
only, and a shape that is added is either what the type name means from now on or makes no
difference.
-/

namespace QueryPlanner.Schema

open QueryPlanner.Text

/-- Two names are the same in lower case. -/
def SameLowered (typeName name : String) : Prop :=
  lowercase name.toList = lowercase typeName.toList

/-- A name contains another one in lower case. -/
def OccursIn (typeName name : String) : Prop :=
  lowercase typeName.toList <:+: lowercase name.toList

/-- The first one of some names in the order of their bytes. -/
def IsFirst (among : String → Prop) (name : String) : Prop :=
  among name ∧ ∀ other, among other → utf8 name ≤ utf8 other

variable {among fewer : String → Prop} {name other typeName found : String} {names : List String}
  {select : String → Bool} {catalog : Catalog} {declaration : Declaration}

theorem IsFirst.unique (first : IsFirst among name) (otherFirst : IsFirst among other) :
    name = other := by
  apply String.le_antisymm
  · exact utf8_le_utf8_iff.mp (first.2 other otherFirst.1)
  · exact utf8_le_utf8_iff.mp (otherFirst.2 name first.1)

theorem IsFirst.of_fewer (first : IsFirst among name) (isAmong : fewer name)
    (subset : ∀ other, fewer other → among other) : IsFirst fewer name :=
  ⟨isAmong, fun other isOther => first.2 other (subset other isOther)⟩

theorem isFirst_of_find? (increasing : names.Pairwise (· < ·))
    (selected : names.find? select = some name) :
    IsFirst (fun name => name ∈ names ∧ select name = true) name := by
  obtain ⟨isSelected, front, back, split, notBefore⟩ :=
    List.find?_eq_some_iff_append.mp selected
  have isMember : name ∈ names := List.mem_of_find?_eq_some selected
  refine ⟨⟨isMember, isSelected⟩, ?_⟩
  rintro other ⟨isOther, otherSelected⟩
  apply utf8_le_utf8_iff.mpr
  rw [split] at isOther increasing
  rcases List.mem_append.mp isOther with isBefore | isLater
  · have notSelected := notBefore other isBefore
    rw [otherSelected] at notSelected
    cases notSelected
  · rcases List.mem_cons.mp isLater with rfl | isBehind
    · exact String.le_refl other
    · have behind := (List.pairwise_append.mp increasing).2.1
      exact Std.le_of_lt ((List.pairwise_cons.mp behind).1 other isBehind)

theorem find?_eq_some_iff_isFirst (increasing : names.Pairwise (· < ·)) :
    names.find? select = some name ↔
      IsFirst (fun name => name ∈ names ∧ select name = true) name := by
  constructor
  · exact isFirst_of_find? increasing
  · intro first
    cases selected : names.find? select with
    | none => exact absurd first.1.2 (List.find?_eq_none.mp selected name first.1.1)
    | some other => rw [first.unique (isFirst_of_find? increasing selected)]

theorem hasPart_iff {part text : List Char} : hasPart part text = true ↔ part <:+: text := by
  induction text with
  | nil => simp [hasPart]
  | cons c text inductionHypothesis =>
      rw [hasPart, Bool.or_eq_true, inductionHypothesis, List.isPrefixOf_iff_prefix,
        List.infix_cons_iff]

theorem lowercase_eq_nil_iff {text : List Char} : lowercase text = [] ↔ text = [] := by
  cases text with
  | nil => exact iff_of_true rfl rfl
  | cons c text =>
      apply iff_of_false
      · rw [lowercase, lowercaseFrom]
        intro isEmpty
        have noChar := (List.append_eq_nil_iff.mp isEmpty).1
        split at noChar
        next => split at noChar <;> cases noChar
        next => split at noChar <;> cases noChar
      · exact List.cons_ne_nil c text

theorem SameLowered.occursIn (same : SameLowered typeName name) : OccursIn typeName name := by
  rw [OccursIn, same]

namespace Catalog

theorem shape?_empty : catalog.shape? "" = none := by
  unfold shape?
  exact if_pos rfl

theorem shape?_of_ne (nonempty : typeName ≠ "") :
    catalog.shape? typeName =
      (catalog.shapeNames.find? fun name => lowercase name.toList = lowercase typeName.toList).or
        (catalog.shapeNames.find? fun name =>
          hasPart (lowercase typeName.toList) (lowercase name.toList)) := by
  have loweredNonempty : (lowercase typeName.toList).isEmpty = false := by
    rw [List.isEmpty_eq_false_iff, ne_eq, lowercase_eq_nil_iff]
    simpa using nonempty
  have candidates : catalog.shapeNames.find? (fun name => decide
      (hasPart (lowercase typeName.toList) (lowercase name.toList) = true ∧
        decide (lowercase name.toList = lowercase typeName.toList) = true)) =
      catalog.shapeNames.find? fun name => lowercase name.toList = lowercase typeName.toList := by
    congr 1
    funext name
    rw [decide_eq_decide, decide_eq_true_iff, and_iff_right_iff_imp]
    intro same
    exact hasPart_iff.mpr (SameLowered.occursIn same)
  unfold shape?
  simp only [loweredNonempty, Bool.false_eq_true, if_false, List.find?_filter, List.head?_filter,
    candidates]
  cases catalog.shapeNames.find? fun name => lowercase name.toList = lowercase typeName.toList with
  | none => rfl
  | some name => rfl

theorem pairwise_shapeNames : catalog.shapeNames.Pairwise (· < ·) :=
  catalog.shapes.pairwise_names

theorem find?_sameLowered_iff :
    catalog.shapeNames.find? (fun name => lowercase name.toList = lowercase typeName.toList) =
        some found ↔
      IsFirst (fun name => name ∈ catalog.shapeNames ∧ SameLowered typeName name) found := by
  rw [find?_eq_some_iff_isFirst pairwise_shapeNames]
  simp only [decide_eq_true_eq, SameLowered]

theorem find?_occursIn_iff :
    catalog.shapeNames.find?
        (fun name => hasPart (lowercase typeName.toList) (lowercase name.toList)) = some found ↔
      IsFirst (fun name => name ∈ catalog.shapeNames ∧ OccursIn typeName name) found := by
  rw [find?_eq_some_iff_isFirst pairwise_shapeNames]
  simp only [hasPart_iff, OccursIn]

/-- A type name means nothing exactly if it is empty or occurs in no shape. -/
theorem shape?_eq_none_iff :
    catalog.shape? typeName = none ↔
      typeName = "" ∨ ∀ name ∈ catalog.shapeNames, ¬ OccursIn typeName name := by
  by_cases isEmpty : typeName = ""
  · subst isEmpty
    exact iff_of_true shape?_empty (.inl rfl)
  · rw [shape?_of_ne isEmpty, Option.or_eq_none_iff, or_iff_right isEmpty, List.find?_eq_none,
      List.find?_eq_none]
    simp only [decide_eq_true_eq, hasPart_iff]
    constructor
    · exact And.right
    · intro noneContains
      refine ⟨?_, noneContains⟩
      intro name isDeclared same
      exact noneContains name isDeclared (SameLowered.occursIn same)

/-- What a type name means is the first shape of the same name, or else the first one that contains
it. -/
theorem shape?_eq_some_iff :
    catalog.shape? typeName = some found ↔
      typeName ≠ "" ∧
        (IsFirst (fun name => name ∈ catalog.shapeNames ∧ SameLowered typeName name) found ∨
          (∀ name ∈ catalog.shapeNames, ¬ SameLowered typeName name) ∧
            IsFirst (fun name => name ∈ catalog.shapeNames ∧ OccursIn typeName name) found) := by
  by_cases isEmpty : typeName = ""
  · subst isEmpty
    rw [shape?_empty]
    simp
  · rw [shape?_of_ne isEmpty, Option.or_eq_some_iff, find?_sameLowered_iff, find?_occursIn_iff,
      List.find?_eq_none]
    simp only [decide_eq_true_eq, ne_eq, isEmpty, not_false_eq_true, true_and, SameLowered]

theorem mem_shapeNames_of_shape? (means : catalog.shape? typeName = some found) :
    found ∈ catalog.shapeNames := by
  rcases (shape?_eq_some_iff.mp means).2 with isExact | ⟨_, isPartial⟩
  · exact isExact.1.1
  · exact isPartial.1.1

theorem shape?_congr {otherCatalog : Catalog}
    (same : ∀ name, name ∈ catalog.shapeNames ↔ name ∈ otherCatalog.shapeNames) :
    catalog.shape? typeName = otherCatalog.shape? typeName := by
  apply Option.ext
  intro found
  rw [shape?_eq_some_iff, shape?_eq_some_iff]
  simp only [same]

section Subset

variable {larger : Catalog}

theorem shape?_eq_none_of_subset (subset : ∀ name ∈ catalog.shapeNames, name ∈ larger.shapeNames)
    (means : larger.shape? typeName = none) : catalog.shape? typeName = none := by
  apply shape?_eq_none_iff.mpr
  rcases shape?_eq_none_iff.mp means with isEmpty | noneContains
  · exact .inl isEmpty
  · right
    intro name isThere
    exact noneContains name (subset name isThere)

theorem shape?_eq_some_of_subset (subset : ∀ name ∈ catalog.shapeNames, name ∈ larger.shapeNames)
    (means : larger.shape? typeName = some found) (isThere : found ∈ catalog.shapeNames) :
    catalog.shape? typeName = some found := by
  obtain ⟨nonempty, isFirst⟩ := shape?_eq_some_iff.mp means
  refine shape?_eq_some_iff.mpr ⟨nonempty, ?_⟩
  rcases isFirst with isExact | ⟨noneExact, isPartial⟩
  · left
    apply isExact.of_fewer ⟨isThere, isExact.1.2⟩
    intro other isOther
    exact ⟨subset other isOther.1, isOther.2⟩
  · right
    refine ⟨fun name isDeclared => noneExact name (subset name isDeclared), ?_⟩
    apply isPartial.of_fewer ⟨isThere, isPartial.1.2⟩
    intro other isOther
    exact ⟨subset other isOther.1, isOther.2⟩

/-- If a shape is declared, type names mean the same as before or that shape. -/
theorem shape?_apply :
    (declaration.apply catalog).shape? typeName = catalog.shape? typeName ∨
      (declaration.apply catalog).shape? typeName = some declaration.owner := by
  have subset (name : String) (isOld : name ∈ catalog.shapeNames) :
      name ∈ (declaration.apply catalog).shapeNames :=
    mem_shapeNames_apply.mpr (.inr isOld)
  cases means : (declaration.apply catalog).shape? typeName with
  | none => exact .inl (shape?_eq_none_of_subset subset means).symm
  | some found =>
      rcases mem_shapeNames_apply.mp (mem_shapeNames_of_shape? means) with isNew | isOld
      · exact .inr (congrArg some isNew)
      · exact .inl (shape?_eq_some_of_subset subset means isOld).symm

end Subset

/-- In a catalog that is built by any declarations, a type name means the first shape that has this
name in lower case, or else the first shape that contains it, and nothing if it is empty or no shape
contains it.  The order of the declarations makes no difference, and a further one changes what the
type name means to the shape that it declares, if at all. -/
theorem shape?_ofDeclarations (declarations : List Declaration) (typeName : String) :
    let IsDeclared (name : String) := ∃ declaration ∈ declarations, declaration.owner = name
    let catalog := ofDeclarations declarations
    (catalog.shape? typeName = none ↔
      typeName = "" ∨ ∀ name, IsDeclared name → ¬ OccursIn typeName name) ∧
    (∀ found, catalog.shape? typeName = some found ↔
      typeName ≠ "" ∧
        (IsFirst (fun name => IsDeclared name ∧ SameLowered typeName name) found ∨
          (∀ name, IsDeclared name → ¬ SameLowered typeName name) ∧
            IsFirst (fun name => IsDeclared name ∧ OccursIn typeName name) found)) ∧
    (∀ others : List Declaration,
      (∀ name, (∃ declaration ∈ others, declaration.owner = name) ↔ IsDeclared name) →
        (ofDeclarations others).shape? typeName = catalog.shape? typeName) ∧
    ∀ further : Declaration,
      (ofDeclarations (declarations ++ [further])).shape? typeName = catalog.shape? typeName ∨
        (ofDeclarations (declarations ++ [further])).shape? typeName = some further.owner := by
  intro IsDeclared catalog
  have isDeclared_iff (name : String) : IsDeclared name ↔ name ∈ catalog.shapeNames :=
    mem_shapeNames_ofDeclarations.symm
  simp only [isDeclared_iff]
  refine ⟨shape?_eq_none_iff, fun found => shape?_eq_some_iff, ?_, ?_⟩
  · intro others same
    apply shape?_congr
    intro name
    rw [mem_shapeNames_ofDeclarations]
    exact same name
  · intro further
    have longer : ofDeclarations (declarations ++ [further]) = further.apply catalog :=
      List.foldl_concat ..
    rw [longer]
    exact shape?_apply

/-- A longer name that comes first gives way to the name itself. -/
example : (ofDeclarations [.shape "Archive of orders", .shape "ORDERS", .shape "Reordering"]).shape?
    "Orders" = some "ORDERS" := by decide +kernel

end Catalog

end QueryPlanner.Schema
