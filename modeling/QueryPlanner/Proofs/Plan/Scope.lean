import QueryPlanner.Proofs.Condition.RoundTrip
import QueryPlanner.Proofs.Plan.Translation

/-!
# Plans and shapes

The fields and relations that the predicate of a plan mentions are those of the shape of the rows
it is evaluated on.
-/

namespace QueryPlanner

open QueryPlanner.Condition QueryPlanner.Json QueryPlanner.Plan QueryPlanner.Schema

def Schema.Property.isToOne (property : Property) : Bool :=
  property.isNavigable && !property.isCollection

/-- The shape at the end of a way along properties of a kind. -/
def Schema.Provider.reach? (schema : Provider) (follows : Property → Bool) (shape : String) :
    List String → Option String
  | [] => some shape
  | name :: names =>
      match schema.property? shape name with
      | some property =>
          if follows property then schema.reach? follows property.valueShape names else none
      | none => none

/-- A predicate can be evaluated on rows of a shape: ways lead along relations to one row, a
comparison is on a declared property, and what is asked of a related row is asked of one of many
and can be evaluated on it. -/
def Predicate.WellScoped (schema : Provider) : String → Predicate → Prop
  | shape, .compare field _ _ =>
      ∃ target, schema.reach? Property.isToOne shape field.relations = some target ∧
        (schema.property? target field.name).isSome = true
  | shape, .and left right => left.WellScoped schema shape ∧ right.WellScoped schema shape
  | shape, .or left right => left.WellScoped schema shape ∧ right.WellScoped schema shape
  | shape, .any relation inner =>
      ∃ target valueShape, schema.reach? Property.isToOne shape relation.relations = some target ∧
        schema.property? target relation.name = some ⟨valueShape, true, true⟩ ∧
        inner.WellScoped schema valueShape

/-- A predicate only compares properties of a shape itself. -/
def Predicate.IsOwn (schema : Provider) (shape : String) : Predicate → Prop
  | .compare field _ _ =>
      field.relations = [] ∧ (schema.property? shape field.name).isSome = true
  | .and left right => left.IsOwn schema shape ∧ right.IsOwn schema shape
  | .or left right => left.IsOwn schema shape ∧ right.IsOwn schema shape
  | .any _ _ => False

variable {schema : Provider} {shape name : String} {predicate : Predicate} {property : Property}

theorem reach?_cons {follows : Property → Bool} (names : List String)
    (declared : schema.property? shape name = some property) (followed : follows property = true) :
    schema.reach? follows shape (name :: names) =
      schema.reach? follows property.valueShape names := by
  rw [Provider.reach?, declared]
  exact if_pos followed

theorem reach?_append {follows : Property → Bool} {middle : String} {names : List String}
    (reached : schema.reach? follows shape names = some middle) (others : List String) :
    schema.reach? follows shape (names ++ others) = schema.reach? follows middle others := by
  induction names generalizing shape with
  | nil =>
      cases reached
      rfl
  | cons name names inductionHypothesis =>
      rw [Provider.reach?] at reached
      split at reached
      next property declared =>
        split at reached
        next followed =>
          rw [List.cons_append, reach?_cons _ declared followed]
          exact inductionHypothesis reached
        next => cases reached
      next => cases reached

theorem Predicate.IsOwn.wellScoped (isOwn : predicate.IsOwn schema shape) :
    predicate.WellScoped schema shape := by
  induction predicate with
  | compare field op value =>
      obtain ⟨noRelations, declared⟩ := isOwn
      refine ⟨shape, ?_, declared⟩
      rw [noRelations]
      rfl
  | and left right leftIH rightIH => exact ⟨leftIH isOwn.1, rightIH isOwn.2⟩
  | or left right leftIH rightIH => exact ⟨leftIH isOwn.1, rightIH isOwn.2⟩
  | any relation inner => exact False.elim isOwn

theorem Condition.IsFold.isOwn (fold : IsFold (.ofName name) predicate)
    (declared : schema.property? shape name = some property) :
    predicate.IsOwn schema shape := by
  have isSome : (schema.property? shape name).isSome = true := by
    rw [declared]
    rfl
  induction fold with
  | compare admissible => exact ⟨rfl, isSome⟩
  | and fold admissible inductionHypothesis => exact ⟨inductionHypothesis, rfl, isSome⟩
  | or fold admissible inductionHypothesis => exact ⟨inductionHypothesis, rfl, isSome⟩

theorem Predicate.WellScoped.through (declared : schema.property? shape name = some property)
    (isToOne : property.isToOne = true)
    (wellScoped : predicate.WellScoped schema property.valueShape) :
    (predicate.through name).WellScoped schema shape := by
  induction predicate with
  | compare field op value =>
      obtain ⟨target, reached, isSome⟩ := wellScoped
      exact ⟨target, (reach?_cons _ declared isToOne).trans reached, isSome⟩
  | and left right leftIH rightIH => exact ⟨leftIH wellScoped.1, rightIH wellScoped.2⟩
  | or left right leftIH rightIH => exact ⟨leftIH wellScoped.1, rightIH wellScoped.2⟩
  | any relation inner =>
      obtain ⟨target, valueShape, reached, isRelation, inside⟩ := wellScoped
      exact ⟨target, valueShape, (reach?_cons _ declared isToOne).trans reached, isRelation,
        inside⟩

theorem Predicate.WellScoped.across
    (declared : schema.property? shape name = some property)
    (isNavigable : property.isNavigable = true)
    (wellScoped : predicate.WellScoped schema property.valueShape) :
    (acrossRelation name property.isCollection predicate).WellScoped schema shape := by
  obtain ⟨valueShape, isCollection, navigable⟩ := property
  cases isNavigable
  cases isCollection with
  | false => exact wellScoped.through declared rfl
  | true => exact ⟨shape, valueShape, rfl, declared, wellScoped⟩

theorem Predicate.forall_mem_conjunction {motive : Predicate → Prop}
    (joined : ∀ left right, motive left → motive right → motive (.and left right))
    {predicates : List Predicate} (each : ∀ single ∈ predicates, motive single) :
    ∀ whole ∈ Predicate.conjunction predicates, motive whole := by
  intro whole isWhole
  cases predicates with
  | nil => cases isWhole
  | cons first rest =>
      cases isWhole
      obtain ⟨firstHolds, restHold⟩ := List.forall_mem_cons.mp each
      clear each
      induction rest generalizing first with
      | nil => exact firstHolds
      | cons second rest inductionHypothesis =>
          obtain ⟨secondHolds, othersHold⟩ := List.forall_mem_cons.mp restHold
          exact inductionHypothesis _ (joined _ _ firstHolds secondHolds) othersHold

namespace Document

variable {members : List (String × Value)} {tree after : Tree} {ids : List NodeId}
  {parent : NodeId} {value : Value}

theorem isFold_of_condition? (compiled : condition? name value = .ok (some predicate)) :
    IsFold (.ofName name) predicate := by
  unfold condition? at compiled
  split at compiled
  next => cases compiled
  next text _ => exact isFold_of_compileCondition (exists_of_mapError_ok compiled)

theorem Adds.wellScoped_demands (adds : Adds schema parent shape members tree ids after) :
    ∀ single ∈ demands schema shape members, single.WellScoped schema shape := by
  induction adds with
  | nothing =>
      rw [demands]
      exact List.forall_mem_nil _
  | relation declared isNavigable inside others insideIH othersIH =>
      rw [demands_relation declared isNavigable, List.forall_mem_append]
      refine ⟨?_, othersIH⟩
      intro single isSingle
      obtain ⟨whole, isWhole, rfl⟩ := Option.map_eq_some_iff.mp (Option.mem_toList.mp isSingle)
      apply Predicate.WellScoped.across declared isNavigable
      exact Predicate.forall_mem_conjunction (fun _ _ => And.intro) insideIH whole isWhole
  | skipped declared notNavigable others othersIH =>
      rw [demands_skipped declared notNavigable]
      exact othersIH
  | scalar declared scalar compiled others othersIH =>
      rw [demands_scalar scalar, List.forall_mem_append, ownCondition_eq compiled]
      refine ⟨?_, othersIH⟩
      intro single isSingle
      cases Option.mem_toList.mp isSingle
      exact ((isFold_of_condition? compiled).isOwn declared).wellScoped

end Document

end QueryPlanner
