import Mathlib.Data.Multiset.AddSub
import QueryPlanner.Proofs.Plan.Meaning

/-!
# Plans that ask for the same

Two plans ask for the same if they load the same relations, in whatever order, and keep the same
rows, whatever the data are.  Their predicates need not be the same: conjunctions may have another
order.
-/

namespace QueryPlanner

open QueryPlanner.Plan

universe u v

namespace Predicate

/-- Predicates hold of the same rows in all data. -/
def Equivalent (predicate other : Predicate) : Prop :=
  ∀ (Row : Type u) (Content : Type v) (data : Interpretation Row Content) (row : Row),
    predicate.Holds data row ↔ other.Holds data row

/-- Whether a predicate is true if comparisons, and what is asked of related rows, are true or
false as given. -/
def TrueUnder (truth : Predicate → Prop) : Predicate → Prop
  | and left right => left.TrueUnder truth ∧ right.TrueUnder truth
  | or left right => left.TrueUnder truth ∨ right.TrueUnder truth
  | compare field op value => truth (compare field op value)
  | any relation inner => truth (any relation inner)

/-- Predicates are equally true, whatever comparisons are true. -/
def EquallyTrue (predicate other : Predicate) : Prop :=
  ∀ truth, predicate.TrueUnder truth ↔ other.TrueUnder truth

instance : Std.Refl Equivalent.{u, v} where
  refl _ _ _ _ _ := Iff.rfl

instance : IsTrans Predicate Equivalent.{u, v} where
  trans _ _ _ start further Row Content data row :=
    (start Row Content data row).trans (further Row Content data row)

variable {predicate other : Predicate} {predicates others : List Predicate}

theorem Equivalent.acrossRelation (equivalent : Equivalent.{u, v} predicate other) (name : String)
    (isCollection : Bool) : Equivalent.{u, v} (acrossRelation name isCollection predicate)
      (acrossRelation name isCollection other) := by
  intro Row Content data row
  cases isCollection with
  | false =>
      change (predicate.through name).Holds data row ↔ (other.through name).Holds data row
      rw [holds_through, holds_through]
      exact equivalent Row Content data (data.toOne row name)
  | true =>
      exact exists_congr fun element => and_congr_right fun _ =>
        equivalent Row Content data element

theorem map_acrossRelation_equivalent {predicate other : Option Predicate}
    (equivalent : Option.Rel Equivalent.{u, v} predicate other) (name : String)
    (isCollection : Bool) : Multiset.Rel Equivalent.{u, v}
      ((predicate.map (Plan.acrossRelation name isCollection)).toList : Multiset Predicate)
      (other.map (Plan.acrossRelation name isCollection)).toList := by
  cases equivalent with
  | none => exact .zero
  | some equivalent => exact .cons (equivalent.acrossRelation name isCollection) .zero

theorem rel_conjunction {Alike : Predicate → Predicate → Prop}
    (lengthEq : predicates.length = others.length)
    (whole : ∀ whole other, conjunction predicates = some whole →
      conjunction others = some other → Alike whole other) :
    Option.Rel Alike (conjunction predicates) (conjunction others) := by
  cases predicates with
  | nil =>
      cases others with
      | nil => exact .none
      | cons first rest => cases lengthEq
  | cons first rest =>
      cases others with
      | nil => cases lengthEq
      | cons second behind => exact .some (whole _ _ rfl rfl)

theorem conjunction_equivalent
    (equivalent : Multiset.Rel Equivalent.{u, v} (predicates : Multiset Predicate) others) :
    Option.Rel Equivalent.{u, v} (conjunction predicates) (conjunction others) := by
  apply rel_conjunction (Multiset.card_eq_card_of_rel equivalent)
  intro whole other conjoined otherConjoined Row Content data row
  rw [conjunction_iff (motive := fun predicate => predicate.Holds data row) (fun _ _ => Iff.rfl)
    conjoined, conjunction_iff (motive := fun predicate => predicate.Holds data row)
    (fun _ _ => Iff.rfl) otherConjoined]
  constructor
  · intro allHold other isOther
    obtain ⟨predicate, isPredicate, same⟩ :=
      Multiset.exists_mem_of_rel_of_mem (Multiset.rel_flip.mpr equivalent) isOther
    exact (same Row Content data row).mp (allHold predicate isPredicate)
  · intro allHold predicate isPredicate
    obtain ⟨other, isOther, same⟩ := Multiset.exists_mem_of_rel_of_mem equivalent isPredicate
    exact (same Row Content data row).mpr (allHold other isOther)

theorem conjunction_equallyTrue (perm : predicates.Perm others) :
    Option.Rel EquallyTrue (conjunction predicates) (conjunction others) := by
  apply rel_conjunction perm.length_eq
  intro whole other conjoined otherConjoined truth
  rw [conjunction_iff (motive := TrueUnder truth) (fun _ _ => Iff.rfl) conjoined,
    conjunction_iff (motive := TrueUnder truth) (fun _ _ => Iff.rfl) otherConjoined]
  exact forall_congr' fun predicate => imp_congr_left perm.mem_iff

end Predicate

namespace Plan

/-- Requests are the same, but for filters that are equally true. -/
structure Request.Alike (request other : Request) : Prop where
  same : { request with filter := none } = { other with filter := none }
  filter_alike : Option.Rel Predicate.EquallyTrue request.filter other.filter

instance : Std.Refl Request.Alike where
  refl request := by
    refine ⟨rfl, ?_⟩
    cases request.filter with
    | none => exact .none
    | some predicate => exact .some fun _ => Iff.rfl

instance : IsTrans Request Request.Alike where
  trans := by
    intro first second third start further
    have transitive {first second third : Option Predicate}
        (start : Option.Rel Predicate.EquallyTrue first second)
        (further : Option.Rel Predicate.EquallyTrue second third) :
        Option.Rel Predicate.EquallyTrue first third := by
      cases start with
      | none => exact further
      | some startSame =>
          cases further with
          | some furtherSame => exact .some fun truth => (startSame truth).trans (furtherSame truth)
    exact ⟨start.same.trans further.same, transitive start.filter_alike further.filter_alike⟩

/-- Plans load and keep the same. -/
structure QueryPlan.AsksAlike (plan other : QueryPlan) : Prop where
  shape_eq : plan.shape = other.shape
  page_eq : plan.page = other.page
  pageSize_eq : plan.pageSize = other.pageSize
  paging_eq : plan.paging = other.paging
  size_eq : plan.tree.size = other.tree.size
  requests_alike : Multiset.Rel Request.Alike (plan.requests : Multiset Request) other.requests
  wherePredicate_equivalent :
    Option.Rel Predicate.Equivalent.{u, v} plan.wherePredicate other.wherePredicate

end Plan

end QueryPlanner
