import Mathlib.Data.Multiset.AddSub
import QueryPlanner.Proofs.Plan.Growth

/-!
# Values with their members in another order

A value may be rearranged by putting the members of objects in another order, at the outermost
level or anywhere inside.  What is collected from the members of an object one by one stays the
same up to the order, if it does so for what is inside.
-/

namespace QueryPlanner.Json.Value

open QueryPlanner.Document

/-- One value turns into another if members of objects change places, in the value itself or in
those inside it. -/
inductive Rearranged : Value → Value → Prop where
  | refl (value : Value) : Rearranged value value
  | trans {first second third : Value} (start : Rearranged first second)
      (further : Rearranged second third) : Rearranged first third
  | order {members others : List (String × Value)} (perm : members.Perm others) :
      Rearranged (.object members) (.object others)
  | member {front back : List (String × Value)} {name : String} {value other : Value}
      (inside : Rearranged value other) :
      Rearranged (.object (front ++ (name, value) :: back))
        (.object (front ++ (name, other) :: back))
  | item {front back : List Value} {value other : Value} (inside : Rearranged value other) :
      Rearranged (.array (front ++ value :: back)) (.array (front ++ other :: back))

/-- Values are of one kind: the same scalars, arrays of any items, or objects whose members are
related. -/
inductive Corresponds (related : List (String × Value) → List (String × Value) → Prop) :
    Value → Value → Prop where
  | scalar {value : Value} (scalar : isScalar value = true) : Corresponds related value value
  | array {items others : List Value} : Corresponds related (.array items) (.array others)
  | object {members others : List (String × Value)} (areRelated : related members others) :
      Corresponds related (.object members) (.object others)

variable {value other : Value} {members others : List (String × Value)}
  {related : List (String × Value) → List (String × Value) → Prop}

theorem Corresponds.refl (reflexive : ∀ members, related members members) (value : Value) :
    Corresponds related value value := by
  cases value with
  | object members => exact .object (reflexive members)
  | array items => exact .array
  | _ => exact .scalar rfl

theorem Corresponds.trans
    (transitive : ∀ first second third, related first second → related second third →
      related first third)
    {first second third : Value} (start : Corresponds related first second)
    (further : Corresponds related second third) : Corresponds related first third := by
  cases start with
  | scalar isScalar => exact further
  | array =>
      cases further with
      | scalar isScalar => exact .array
      | array => exact .array
  | object areRelated =>
      cases further with
      | scalar isScalar => cases isScalar
      | object furtherRelated => exact .object (transitive _ _ _ areRelated furtherRelated)

namespace Rearranged

theorem symm (rearranged : Rearranged value other) : Rearranged other value := by
  induction rearranged with
  | refl value => exact .refl value
  | trans _ _ startIH furtherIH => exact .trans furtherIH startIH
  | order perm => exact .order perm.symm
  | member _ inductionHypothesis => exact .member inductionHypothesis
  | item _ inductionHypothesis => exact .item inductionHypothesis

/-- The members of rearranged objects are related by whatever relates members in another order and
members of which one is rearranged. -/
theorem corresponds
    (transitive : ∀ first second third, related first second → related second third →
      related first third)
    (order : ∀ {members others}, members.Perm others → related members others)
    (member : ∀ {front back name value other}, Rearranged value other →
      Corresponds related value other →
        related (front ++ (name, value) :: back) (front ++ (name, other) :: back))
    (rearranged : Rearranged value other) : Corresponds related value other := by
  induction rearranged with
  | refl value => exact .refl (fun members => order (.refl members)) value
  | trans _ _ startIH furtherIH => exact startIH.trans transitive furtherIH
  | order perm => exact .object (order perm)
  | member inside inductionHypothesis => exact .object (member inside inductionHypothesis)
  | item _ _ => exact .array

theorem corresponds_self (rearranged : Rearranged value other) :
    Corresponds (fun members others => Rearranged (.object members) (.object others)) value
      other :=
  rearranged.corresponds (fun _ _ _ => .trans) .order fun inside _ => .member inside

section Collect

variable {Context Item : Type} {collect : Context → List (String × Value) → List Item}
  {Alike : Item → Item → Prop}

theorem perm_collect
    (append : ∀ context front back,
      collect context (front ++ back) = collect context front ++ collect context back)
    (perm : members.Perm others) (context : Context) :
    (collect context members).Perm (collect context others) := by
  have cons (member : String × Value) (rest : List (String × Value)) :
      collect context (member :: rest) = collect context [member] ++ collect context rest :=
    append context [member] rest
  induction perm with
  | nil => exact .refl _
  | @cons member rest otherRest _ inductionHypothesis =>
      rw [cons member rest, cons member otherRest]
      exact inductionHypothesis.append_left _
  | swap first second rest =>
      rw [cons second (first :: rest), cons first rest, cons first (second :: rest),
        cons second rest, ← List.append_assoc, ← List.append_assoc]
      exact List.perm_append_comm.append_right _
  | trans _ _ startIH furtherIH => exact startIH.trans furtherIH

/-- What is collected from the members of rearranged objects one by one is alike up to the order,
if it is so for single objects with alike members. -/
theorem collect_alike [Std.Refl Alike] [IsTrans Item Alike]
    (append : ∀ context front back,
      collect context (front ++ back) = collect context front ++ collect context back)
    (array : ∀ context name items others, Multiset.Rel Alike
      (collect context [(name, .array items)] : Multiset Item)
      (collect context [(name, .array others)]))
    (object : ∀ name members others, Rearranged (.object members) (.object others) →
      (∀ context, Multiset.Rel Alike (collect context members : Multiset Item)
        (collect context others)) →
      ∀ context, Multiset.Rel Alike (collect context [(name, .object members)] : Multiset Item)
        (collect context [(name, .object others)]))
    (rearranged : Rearranged (.object members) (.object others)) (context : Context) :
    Multiset.Rel Alike (collect context members : Multiset Item) (collect context others) := by
  have reflexive (items : List Item) : Multiset.Rel Alike (items : Multiset Item) items :=
    Multiset.rel_refl_of_refl_on fun item _ => Std.Refl.refl item
  have corresponds : Corresponds
      (fun members others => ∀ context, Multiset.Rel Alike
        (collect context members : Multiset Item) (collect context others))
      (.object members) (.object others) := by
    apply rearranged.corresponds
    · intro first second third start further context
      exact Multiset.Rel.trans Alike (start context) (further context)
    · intro members others perm context
      rw [Multiset.coe_eq_coe.mpr (perm_collect append perm context)]
      exact reflexive _
    · intro front back name value other inside corresponds context
      -- Only what is collected from the one member is another.
      have single : Multiset.Rel Alike (collect context [(name, value)] : Multiset Item)
          (collect context [(name, other)]) := by
        cases corresponds with
        | scalar isScalar => exact reflexive _
        | array => exact array context name _ _
        | object alike => exact object name _ _ inside alike context
      have split (value : Value) : (collect context (front ++ (name, value) :: back) :
          Multiset Item) = collect context front +
            (collect context [(name, value)] + collect context back) := by
        rw [append, ← List.singleton_append, append]
        rfl
      rw [split, split]
      exact (reflexive _).add (single.add (reflexive _))
  cases corresponds with
  | scalar isScalar => cases isScalar
  | object alike => exact alike context

end Collect

end Rearranged

end QueryPlanner.Json.Value
