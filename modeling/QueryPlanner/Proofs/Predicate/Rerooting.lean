import QueryPlanner.Condition.Render

/-!
# Predicates seen from other rows

A predicate that is seen through a row of to-one relations is the same predicate with longer paths.
Only the paths that begin at its own row grow: those of its comparisons and those to its
collections, but none inside a collection.
-/

namespace QueryPlanner

namespace FieldPath

/-- The same path from a row that has to follow relations first. -/
def behind (relations : List String) (path : FieldPath) : FieldPath :=
  { path with relations := relations ++ path.relations }

theorem segments_behind (relations : List String) (path : FieldPath) :
    (path.behind relations).segments = relations ++ path.segments :=
  List.append_assoc ..

theorem behind_injective (relations : List String) :
    Function.Injective (FieldPath.behind relations) := by
  rintro ⟨leftRelations, leftName⟩ ⟨rightRelations, rightName⟩ same
  obtain ⟨sameRelations, sameName⟩ := FieldPath.mk.inj same
  cases List.append_cancel_left sameRelations
  cases sameName
  rfl

end FieldPath

namespace Predicate

/-- The predicate after relations have been put in front of it in turn. -/
def throughAll (relations : List String) (predicate : Predicate) : Predicate :=
  relations.foldl (fun predicate relation => predicate.through relation) predicate

/-- A condition that a row of a related collection meets an inner predicate. -/
structure Existence where
  relation : FieldPath
  inner : Predicate

/-- The conditions on collections of a row's own from left to right.  Those inside a collection are
not among them. -/
def existences : Predicate → List Existence
  | compare _ _ _ => []
  | and left right => left.existences ++ right.existences
  | or left right => left.existences ++ right.existences
  | any relation inner => [⟨relation, inner⟩]

/-- How a predicate joins its conditions. -/
inductive Skeleton where
  | comparison
  | existence
  | and (left right : Skeleton)
  | or (left right : Skeleton)

def skeleton : Predicate → Skeleton
  | compare _ _ _ => .comparison
  | and left right => .and left.skeleton right.skeleton
  | or left right => .or left.skeleton right.skeleton
  | any _ _ => .existence

/-- The predicate with every path that begins at its own row changed. -/
def mapPaths (change : FieldPath → FieldPath) : Predicate → Predicate
  | compare field op value => compare (change field) op value
  | and left right => and (left.mapPaths change) (right.mapPaths change)
  | or left right => or (left.mapPaths change) (right.mapPaths change)
  | any relation inner => any (change relation) inner

variable {change : FieldPath → FieldPath}

section Reading

theorem comparisons_mapPaths (predicate : Predicate) :
    (predicate.mapPaths change).comparisons =
      predicate.comparisons.map fun found => { found with field := change found.field } := by
  induction predicate with
  | compare field op value => rfl
  | and left right leftIH rightIH =>
      rw [mapPaths, comparisons, comparisons, leftIH, rightIH, List.map_append]
  | or left right leftIH rightIH =>
      rw [mapPaths, comparisons, comparisons, leftIH, rightIH, List.map_append]
  | any relation inner => rfl

theorem existences_mapPaths (predicate : Predicate) :
    (predicate.mapPaths change).existences =
      predicate.existences.map fun found => { found with relation := change found.relation } := by
  induction predicate with
  | compare field op value => rfl
  | and left right leftIH rightIH =>
      rw [mapPaths, existences, existences, leftIH, rightIH, List.map_append]
  | or left right leftIH rightIH =>
      rw [mapPaths, existences, existences, leftIH, rightIH, List.map_append]
  | any relation inner => rfl

theorem skeleton_mapPaths (predicate : Predicate) :
    (predicate.mapPaths change).skeleton = predicate.skeleton := by
  induction predicate with
  | compare field op value => rfl
  | and left right leftIH rightIH => rw [mapPaths, skeleton, skeleton, leftIH, rightIH]
  | or left right leftIH rightIH => rw [mapPaths, skeleton, skeleton, leftIH, rightIH]
  | any relation inner => rfl

theorem mapPaths_injective (injective : Function.Injective change) :
    Function.Injective (mapPaths change) := by
  intro predicate other same
  induction predicate generalizing other with
  | compare field op value =>
      cases other with
      | compare otherField otherOp otherValue =>
          obtain ⟨sameField, rfl, rfl⟩ := Predicate.compare.inj same
          rw [injective sameField]
      | _ => cases same
  | and left right leftIH rightIH =>
      cases other with
      | and otherLeft otherRight =>
          obtain ⟨sameLeft, sameRight⟩ := Predicate.and.inj same
          rw [leftIH sameLeft, rightIH sameRight]
      | _ => cases same
  | or left right leftIH rightIH =>
      cases other with
      | or otherLeft otherRight =>
          obtain ⟨sameLeft, sameRight⟩ := Predicate.or.inj same
          rw [leftIH sameLeft, rightIH sameRight]
      | _ => cases same
  | any relation inner =>
      cases other with
      | any otherRelation otherInner =>
          obtain ⟨sameRelation, rfl⟩ := Predicate.any.inj same
          rw [injective sameRelation]
      | _ => cases same

end Reading

section Condition

theorem conditionOn?_mapPaths (injective : Function.Injective change) (field : FieldPath)
    (predicate : Predicate) :
    (predicate.mapPaths change).conditionOn? (change field) = predicate.conditionOn? field := by
  induction predicate with
  | compare other op value => simp only [mapPaths, conditionOn?, injective.eq_iff]
  | and left right leftIH _ =>
      cases right with
      | compare other op value => simp only [mapPaths, conditionOn?, injective.eq_iff, leftIH]
      | _ => rfl
  | or left right leftIH _ =>
      cases right with
      | compare other op value => simp only [mapPaths, conditionOn?, injective.eq_iff, leftIH]
      | _ => rfl
  | any relation inner => rfl

theorem toCondition?_mapPaths (injective : Function.Injective change) (predicate : Predicate) :
    (predicate.mapPaths change).toCondition? = predicate.toCondition? := by
  unfold toCondition? toConditionChars?
  rw [comparisons_mapPaths, List.head?_map]
  cases predicate.comparisons.head? with
  | none => rfl
  | some first => exact congrArg _ (conditionOn?_mapPaths injective first.field predicate)

end Condition

section Through

theorem through_eq_mapPaths (relation : String) (predicate : Predicate) :
    predicate.through relation = predicate.mapPaths (FieldPath.behind [relation]) := by
  induction predicate with
  | compare field op value => rfl
  | and left right leftIH rightIH => rw [through, mapPaths, leftIH, rightIH]
  | or left right leftIH rightIH => rw [through, mapPaths, leftIH, rightIH]
  | any relation inner => rfl

theorem mapPaths_mapPaths (first second : FieldPath → FieldPath) (predicate : Predicate) :
    (predicate.mapPaths first).mapPaths second = predicate.mapPaths (second ∘ first) := by
  induction predicate with
  | compare field op value => rfl
  | and left right leftIH rightIH => simp only [mapPaths, leftIH, rightIH]
  | or left right leftIH rightIH => simp only [mapPaths, leftIH, rightIH]
  | any relation inner => rfl

theorem mapPaths_behind_nil (predicate : Predicate) :
    predicate.mapPaths (FieldPath.behind []) = predicate := by
  induction predicate with
  | compare field op value => rfl
  | and left right leftIH rightIH => rw [mapPaths, leftIH, rightIH]
  | or left right leftIH rightIH => rw [mapPaths, leftIH, rightIH]
  | any relation inner => rfl

/-- The relation that was put in front last is followed first. -/
theorem throughAll_eq_mapPaths (relations : List String) (predicate : Predicate) :
    predicate.throughAll relations =
      predicate.mapPaths (FieldPath.behind relations.reverse) := by
  induction relations generalizing predicate with
  | nil => exact predicate.mapPaths_behind_nil.symm
  | cons relation relations inductionHypothesis =>
      have composed : FieldPath.behind relations.reverse ∘ FieldPath.behind [relation] =
          FieldPath.behind (relation :: relations).reverse := by
        funext path
        simp [FieldPath.behind]
      calc
        predicate.throughAll (relation :: relations)
        _ = (predicate.through relation).mapPaths (FieldPath.behind relations.reverse) :=
          inductionHypothesis (predicate.through relation)
        _ = predicate.mapPaths (FieldPath.behind (relation :: relations).reverse) := by
          rw [through_eq_mapPaths, mapPaths_mapPaths, composed]

end Through

/-- A predicate seen through relations has the same comparisons in the same order, the names of the
relations standing before each path, the last one first.  Its conditions on collections are the
same too, down to what is inside, with the names before the path to the collection.  It joins its
conditions in the same way and has the same condition text, or none as before.  Different predicates
stay different. -/
theorem throughAll_moves_paths_only (relations : List String) (predicate : Predicate) :
    let moved := predicate.throughAll relations
    moved.comparisons.map (fun found => (found.field.segments, found.op, found.value)) =
      predicate.comparisons.map
        (fun found => (relations.reverse ++ found.field.segments, found.op, found.value)) ∧
    moved.existences.map (fun found => (found.relation.segments, found.inner)) =
      predicate.existences.map
        (fun found => (relations.reverse ++ found.relation.segments, found.inner)) ∧
    moved.skeleton = predicate.skeleton ∧
    moved.toCondition? = predicate.toCondition? ∧
    ∀ other : Predicate, other.throughAll relations = moved → other = predicate := by
  intro moved
  have movedEq : moved = predicate.mapPaths (FieldPath.behind relations.reverse) :=
    throughAll_eq_mapPaths relations predicate
  have injective := FieldPath.behind_injective relations.reverse
  refine ⟨?_, ?_, ?_, ?_, ?_⟩
  · rw [movedEq, comparisons_mapPaths, List.map_map]
    simp only [Function.comp_def, FieldPath.segments_behind]
  · rw [movedEq, existences_mapPaths, List.map_map]
    simp only [Function.comp_def, FieldPath.segments_behind]
  · rw [movedEq, skeleton_mapPaths]
  · rw [movedEq, toCondition?_mapPaths injective]
  · intro other same
    rw [movedEq, throughAll_eq_mapPaths] at same
    exact mapPaths_injective injective same

/-- An order's customer and that customer's employer: the employer is reached from the order through
the customer, and the paths of the notes stay as they are. -/
example :
    (Predicate.and (.compare ⟨[], "name"⟩ .equal (.string "x"))
      (.any ⟨[], "notes"⟩ (.compare ⟨["author"], "age"⟩ .lessThan (.int 5)))).throughAll
        ["employer", "customer"] =
      .and (.compare ⟨["customer", "employer"], "name"⟩ .equal (.string "x"))
        (.any ⟨["customer", "employer"], "notes"⟩
          (.compare ⟨["author"], "age"⟩ .lessThan (.int 5))) := by decide

end Predicate

end QueryPlanner
