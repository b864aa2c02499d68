import QueryPlanner.Proofs.Plan.Translation

/-!
# What plans mean

Rows are read as data: they have fields and are related to other rows.  A query that is read
member by member holds of the same rows as the predicate of its plan.
-/

namespace QueryPlanner

open QueryPlanner.Json QueryPlanner.Plan QueryPlanner.Schema

universe u v

/-- Data that predicates speak about. -/
structure Interpretation (Row : Type u) (Content : Type v) where
  /-- What a field of a row holds. -/
  content : Row → String → Content
  /-- The row that a relation leads to. -/
  toOne : Row → String → Row
  /-- The rows that a relation leads to. -/
  toMany : Row → String → List Row
  /-- Whether a comparison of what a field holds with a literal is true. -/
  compares : Content → CompareOp → Literal → Prop

variable {Row : Type u} {Content : Type v}

def Interpretation.follow (data : Interpretation Row Content) (row : Row)
    (relations : List String) : Row :=
  relations.foldl data.toOne row

def Predicate.Holds (data : Interpretation Row Content) : Predicate → Row → Prop
  | compare field op value, row =>
      data.compares (data.content (data.follow row field.relations) field.name) op value
  | and left right, row => left.Holds data row ∧ right.Holds data row
  | or left right, row => left.Holds data row ∨ right.Holds data row
  | any relation inner, row =>
      ∃ element ∈ data.toMany (data.follow row relation.relations) relation.name,
        inner.Holds data element

def Interpretation.Accepts (data : Interpretation Row Content) (row : Row) :
    Option Predicate → Prop
  | none => True
  | some predicate => predicate.Holds data row

variable {data : Interpretation Row Content} {row : Row}

theorem Predicate.holds_through (relation : String) (predicate : Predicate) :
    (predicate.through relation).Holds data row ↔
      predicate.Holds data (data.toOne row relation) := by
  induction predicate with
  | compare field op value => exact Iff.rfl
  | and left right leftIH rightIH => exact and_congr leftIH rightIH
  | or left right leftIH rightIH => exact or_congr leftIH rightIH
  | any path inner => exact Iff.rfl

theorem Predicate.conjunction_iff {motive : Predicate → Prop}
    (joined : ∀ left right, motive (.and left right) ↔ motive left ∧ motive right)
    {predicates : List Predicate} {whole : Predicate}
    (conjoined : Predicate.conjunction predicates = some whole) :
    motive whole ↔ ∀ single ∈ predicates, motive single := by
  cases predicates with
  | nil => cases conjoined
  | cons first rest =>
      cases conjoined
      induction rest generalizing first with
      | nil => exact (List.forall_mem_singleton).symm
      | cons second rest inductionHypothesis =>
          rw [List.foldl_cons, inductionHypothesis, List.forall_mem_cons, List.forall_mem_cons,
            List.forall_mem_cons, joined]
          exact and_assoc

theorem Interpretation.accepts_conjunction (predicates : List Predicate) :
    data.Accepts row (Predicate.conjunction predicates) ↔
      ∀ predicate ∈ predicates, predicate.Holds data row := by
  cases predicates with
  | nil => simp [Predicate.conjunction, Accepts]
  | cons first rest =>
      exact Predicate.conjunction_iff (motive := fun predicate => predicate.Holds data row)
        (fun _ _ => Iff.rfl) rfl

theorem Interpretation.accepts_iff_forall_mem (predicate : Option Predicate) :
    data.Accepts row predicate ↔ ∀ single ∈ predicate.toList, single.Holds data row := by
  cases predicate with
  | none => simp [Accepts]
  | some predicate => simp [Accepts]

theorem Interpretation.accepts_across_toOne (name : String) (predicate : Option Predicate) :
    data.Accepts row (predicate.map (acrossRelation name false)) ↔
      data.Accepts (data.toOne row name) predicate := by
  cases predicate with
  | none => exact Iff.rfl
  | some predicate => exact predicate.holds_through name

/-- Across a relation to many rows one of these has to meet the predicate, if there is one. -/
theorem Interpretation.accepts_across_toMany (name : String) (predicate : Option Predicate) :
    data.Accepts row (predicate.map (acrossRelation name true)) ↔
      (predicate.isSome = true → ∃ element ∈ data.toMany row name,
        data.Accepts element predicate) := by
  cases predicate with
  | none => simp [Accepts]
  | some predicate =>
      constructor
      · intro holds _
        exact holds
      · intro holds
        exact holds rfl

theorem Predicate.isSome_conjunction_append (predicates others : List Predicate) :
    (Predicate.conjunction (predicates ++ others)).isSome =
      ((Predicate.conjunction predicates).isSome || (Predicate.conjunction others).isSome) := by
  cases predicates with
  | nil => rfl
  | cons first rest => rfl

theorem Predicate.isSome_conjunction_toList (predicate : Option Predicate) :
    (Predicate.conjunction predicate.toList).isSome = predicate.isSome := by
  cases predicate with
  | none => rfl
  | some predicate => rfl

namespace Document

/-- Whether there is a condition among the members of an object or inside their relations. -/
def hasCondition (schema : Provider) (shape : String) : List (String × Value) → Bool
  | [] => false
  | (name, .object members) :: rest =>
      (match schema.property? shape name with
      | some ⟨valueShape, _, true⟩ => hasCondition schema valueShape members
      | _ => false) || hasCondition schema shape rest
  | (name, value) :: rest =>
      (ownCondition name value).isSome || hasCondition schema shape rest

/-- The members of an object hold of a row of a shape: a scalar if the row meets its condition, a
relation to one row if its members hold of this row, and a relation to many rows with a condition
inside it if its members hold of one of them.  Other members hold of every row. -/
def MembersHold (data : Interpretation Row Content) (schema : Provider) (shape : String) :
    List (String × Value) → Row → Prop
  | [], _ => True
  | (name, .object members) :: rest, row =>
      (match schema.property? shape name with
      | some ⟨valueShape, false, true⟩ =>
          MembersHold data schema valueShape members (data.toOne row name)
      | some ⟨valueShape, true, true⟩ =>
          hasCondition schema valueShape members = true →
            ∃ element ∈ data.toMany row name, MembersHold data schema valueShape members element
      | _ => True) ∧ MembersHold data schema shape rest row
  | (name, value) :: rest, row =>
      data.Accepts row (ownCondition name value) ∧ MembersHold data schema shape rest row

variable {schema : Provider} {shape : String} {members : List (String × Value)}

theorem hasCondition_eq : hasCondition schema shape members =
    (Predicate.conjunction (demands schema shape members)).isSome := by
  induction shape, members using demands.induct with
  | case1 shape =>
      rw [hasCondition, demands]
      rfl
  | case2 shape name members rest membersIH restIH =>
      rw [hasCondition, demands, Predicate.isSome_conjunction_append, restIH]
      congr 1
      cases schema.property? shape name with
      | none => rfl
      | some property =>
          obtain ⟨valueShape, isCollection, isNavigable⟩ := property
          cases isNavigable with
          | false => rfl
          | true =>
              simp only
              rw [membersIH, Predicate.isSome_conjunction_toList, Option.isSome_map]
  | case3 shape name value rest notObject restIH =>
      rw [hasCondition, demands, Predicate.isSome_conjunction_append,
        Predicate.isSome_conjunction_toList, restIH]
      · exact notObject
      · exact notObject

/-- The members of an object hold of a row exactly if it meets all that they ask for. -/
theorem membersHold_iff : MembersHold data schema shape members row ↔
    ∀ predicate ∈ demands schema shape members, predicate.Holds data row := by
  induction shape, members using demands.induct generalizing row with
  | case1 shape =>
      rw [MembersHold, demands]
      exact iff_of_true trivial (List.forall_mem_nil _)
  | case2 shape name members rest membersIH restIH =>
      rw [MembersHold, demands, List.forall_mem_append, restIH]
      apply and_congr_left'
      cases schema.property? shape name with
      | none => exact iff_of_true trivial (List.forall_mem_nil _)
      | some property =>
          obtain ⟨valueShape, isCollection, isNavigable⟩ := property
          cases isNavigable with
          | false =>
              cases isCollection with
              | false => exact iff_of_true trivial (List.forall_mem_nil _)
              | true => exact iff_of_true trivial (List.forall_mem_nil _)
          | true =>
              simp only
              rw [← Interpretation.accepts_iff_forall_mem]
              cases isCollection with
              | false =>
                  rw [Interpretation.accepts_across_toOne, Interpretation.accepts_conjunction]
                  exact membersIH valueShape
              | true =>
                  -- Without a condition inside there is no predicate, whatever the rows are.
                  rw [Interpretation.accepts_across_toMany, ← hasCondition_eq]
                  simp only [membersIH, Interpretation.accepts_conjunction]
  | case3 shape name value rest notObject restIH =>
      rw [MembersHold, demands, List.forall_mem_append, restIH,
        Interpretation.accepts_iff_forall_mem]
      · exact notObject
      · exact notObject

theorem membersHold_of_not_hasCondition (noCondition : hasCondition schema shape members = false) :
    MembersHold data schema shape members row := by
  rw [membersHold_iff, ← Interpretation.accepts_conjunction]
  rw [hasCondition_eq, Option.isSome_eq_false_iff, Option.isNone_iff_eq_none] at noCondition
  rw [noCondition]
  trivial

/-- The outermost rows that a plan keeps are those that the query holds of. -/
theorem accepts_wherePredicate_iff {value : Value} {plan : QueryPlan}
    (planned : planValue value shape schema = .ok plan) :
    ∃ document, ofValue value = .ok document ∧
      ∀ {Row : Type u} {Content : Type v} (data : Interpretation Row Content) (row : Row),
        data.Accepts row plan.wherePredicate ↔
          MembersHold data schema shape document.query row := by
  obtain ⟨document, read, built⟩ := exists_of_bind_ok planned
  refine ⟨document, exists_of_mapError_ok read, ?_⟩
  intro Row Content data row
  rw [wherePredicate_of_build built, Interpretation.accepts_conjunction, membersHold_iff]

theorem accepts_wherePredicate_iff_orders :
    planValue (.object [("query", .object ordersQuery)]) "order" orders = .ok ordersPlan ∧
      ∃ document, ofValue (.object [("query", .object ordersQuery)]) = .ok document ∧
        ∀ {Row Content : Type} (data : Interpretation Row Content) (row : Row),
          data.Accepts row ordersPlan.wherePredicate ↔
            MembersHold data orders "order" document.query row :=
  ⟨planValue_orders, accepts_wherePredicate_iff planValue_orders⟩

end Document

end QueryPlanner
