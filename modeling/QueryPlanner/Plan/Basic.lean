import QueryPlanner.Plan.Filters
import QueryPlanner.Plan.Request

/-!
Query plans: what to load, which rows to keep, and which page of them to take.
-/

namespace QueryPlanner.Plan

open QueryPlanner.Json QueryPlanner.Number

/-- A tree whose conditions have been worked out, and the page of rows that is wanted. -/
structure QueryPlan where
  tree : Tree
  page : UInt64
  pageSize : UInt64
  deriving DecidableEq

/-- How many rows to pass over and how many to take after them. -/
structure Paging where
  skip : UInt64
  take : UInt64
  deriving DecidableEq

def saturatingMul (left right : UInt64) : UInt64 :=
  (min (left.toNat * right.toNat) (Nat.pow 2 64 - 1)).toUInt64

inductive Step where
  | load (request : Request)
  | keep (predicate : Predicate)
  | paginate (paging : Paging)

def Paging.display (paging : Paging) : String :=
  s!"skip {toString paging.skip} take {toString paging.take}"

def Step.display : Step → String
  | load request => request.display
  | keep predicate => "where " ++ predicate.display
  | paginate paging => paging.display

namespace QueryPlan

def shape (plan : QueryPlan) : String :=
  ((plan.tree.get? Tree.root).map Node.shape).getD ""

def wherePredicate (plan : QueryPlan) : Option Predicate :=
  (plan.tree.get? Tree.root).bind Node.wherePredicate

/-- The rows to take.  A page size of zero asks for all rows. -/
def paging (plan : QueryPlan) : Option Paging :=
  if plan.pageSize = 0 then none
  else some ⟨saturatingMul plan.page plan.pageSize, plan.pageSize⟩

def requests (plan : QueryPlan) : List Request :=
  plan.tree.requests

def chains (plan : QueryPlan) : List (List Request) :=
  plan.tree.chains

/-- The steps of carrying out a plan, in order: loading, then keeping, then paging. -/
def steps (plan : QueryPlan) : List Step :=
  plan.requests.map .load ++ plan.wherePredicate.toList.map .keep ++
    plan.paging.toList.map .paginate

def toJson (encodeFloat : Binary64 → Value) (plan : QueryPlan) : Value :=
  .object [
    ("shape", .string plan.shape),
    ("where", .ofOption (Predicate.toJson encodeFloat) plan.wherePredicate),
    ("where_text", .ofOption (fun predicate => .string predicate.display) plan.wherePredicate),
    ("includes", .array (plan.requests.map (Request.toJson encodeFloat))),
    ("paging", .ofOption
      (fun paging => .object [
        ("skip", .number (.unsigned paging.skip)), ("take", .number (.unsigned paging.take))])
      plan.paging)]

end QueryPlan

end QueryPlanner.Plan
