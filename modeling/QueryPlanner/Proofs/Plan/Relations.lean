import QueryPlanner.Proofs.Json.Grammar
import QueryPlanner.Proofs.Plan.Forest
import QueryPlanner.Proofs.Plan.Loading

/-!
# The relations of a query

The objects of a query on relations are a forest, and so are their requests.  The path of a request
goes on from the path of the one above it, and requests beside each other are for relations of
different names, so no two requests have the same path.
-/

namespace QueryPlanner

open QueryPlanner.Json QueryPlanner.Plan QueryPlanner.Schema

namespace Plan.Forest

/-- The requests of a forest begin at rows of a shape, which are those at the end of a path, and
those further down at the rows of the request above them. -/
inductive IsRooted : (path : List String) → (shape : String) → Forest Request → Prop where
  | empty {path : List String} {shape : String} : IsRooted path shape .empty
  | tree {path : List String} {shape : String} {request : Request} {below others : Forest Request}
      (kind_eq : request.kind = if path = [] then .fresh else .chained)
      (parentShape_eq : request.parentShape = shape)
      (path_eq : request.path = path ++ [request.relation])
      (alone : ∀ other ∈ others.tops, other.relation ≠ request.relation)
      (inside : IsRooted request.path request.shape below) (beside : IsRooted path shape others) :
      IsRooted path shape (.tree request below others)

variable {path : List String} {shape : String} {forest : Forest Request} {request : Request}

theorem IsRooted.exists_top (isRooted : IsRooted path shape forest)
    (isMember : request ∈ forest.preorder) :
    ∃ top ∈ forest.tops, ∃ more, request.path = path ++ top.relation :: more := by
  induction isRooted with
  | empty => cases isMember
  | @tree path shape first below others kind_eq parentShape_eq path_eq alone inside beside insideIH
      besideIH =>
      rcases List.mem_cons.mp isMember with rfl | isLater
      · exact ⟨request, List.mem_cons_self, [], path_eq⟩
      · rcases List.mem_append.mp isLater with isBelow | isBeside
        · obtain ⟨top, _, more, below_eq⟩ := insideIH isBelow
          refine ⟨first, List.mem_cons_self, top.relation :: more, ?_⟩
          rw [below_eq, path_eq, List.append_assoc, List.singleton_append]
        · obtain ⟨top, isTop, more, beside_eq⟩ := besideIH isBeside
          exact ⟨top, List.mem_cons_of_mem _ isTop, more, beside_eq⟩

theorem IsRooted.nodup_paths (isRooted : IsRooted path shape forest) :
    (forest.preorder.map Request.path).Nodup := by
  induction isRooted with
  | empty => exact List.nodup_nil
  | @tree path shape first below others kind_eq parentShape_eq path_eq alone inside beside insideIH
      besideIH =>
      have belowPath {lower : Request} (isBelow : lower ∈ below.preorder) :
          ∃ name more, lower.path = path ++ first.relation :: name :: more := by
        obtain ⟨top, _, more, below_eq⟩ := inside.exists_top isBelow
        refine ⟨top.relation, more, ?_⟩
        rw [below_eq, path_eq, List.append_assoc, List.singleton_append]
      have besidePath {other : Request} (isBeside : other ∈ others.preorder) :
          ∃ name more, name ≠ first.relation ∧ other.path = path ++ name :: more := by
        obtain ⟨top, isTop, more, beside_eq⟩ := beside.exists_top isBeside
        exact ⟨top.relation, more, alone top isTop, beside_eq⟩
      rw [preorder, List.map_cons, List.map_append, List.nodup_cons, List.nodup_append]
      refine ⟨?_, insideIH, besideIH, ?_⟩
      · intro isRepeated
        rcases List.mem_append.mp isRepeated with isBelow | isBeside
        · obtain ⟨lower, isLower, same⟩ := List.mem_map.mp isBelow
          obtain ⟨name, more, lower_eq⟩ := belowPath isLower
          rw [lower_eq, path_eq, List.append_cancel_left_eq] at same
          cases same
        · obtain ⟨other, isOther, same⟩ := List.mem_map.mp isBeside
          obtain ⟨name, more, different, other_eq⟩ := besidePath isOther
          rw [other_eq, path_eq, List.append_cancel_left_eq] at same
          cases same
          exact different rfl
      · rintro _ isBelow _ isBeside rfl
        obtain ⟨lower, isLower, lowerEq⟩ := List.mem_map.mp isBelow
        obtain ⟨other, isOther, otherEq⟩ := List.mem_map.mp isBeside
        obtain ⟨inner, innerMore, lower_eq⟩ := belowPath isLower
        obtain ⟨name, more, different, other_eq⟩ := besidePath isOther
        have same := otherEq.trans lowerEq.symm
        rw [other_eq, lower_eq, List.append_cancel_left_eq] at same
        cases same
        exact different rfl

theorem exists_of_append_eq {α : Type} {front rest before after : List α} {a : α}
    (split : front ++ rest = before ++ a :: after) :
    (∃ more, front = before ++ a :: more) ∨
      ∃ more, before = front ++ more ∧ rest = more ++ a :: after := by
  rcases List.append_eq_append_iff.mp split with ⟨more, inFront, inRest⟩ | ⟨more, inFront, inRest⟩
  · exact .inr ⟨more, inFront, inRest⟩
  · cases more with
    | nil => exact .inr ⟨[], by simpa using inFront.symm, inRest.symm⟩
    | cons b more =>
        cases inRest
        exact .inl ⟨more, inFront⟩

theorem IsRooted.path_ne_nil (isRooted : IsRooted path shape forest)
    (isMember : request ∈ forest.preorder) : request.path ≠ [] := by
  obtain ⟨top, _, more, path_eq⟩ := isRooted.exists_top isMember
  rw [path_eq]
  exact List.append_ne_nil_of_right_ne_nil _ (List.cons_ne_nil _ _)

theorem IsRooted.cases_of_split {before after : List Request} (isRooted : IsRooted path shape forest)
    (split : forest.preorder = before ++ request :: after) :
    (request.path = path ++ [request.relation] ∧ request.parentShape = shape ∧
      request.kind = if path = [] then .fresh else .chained) ∨
    ∃ earlier ∈ before, request.path = earlier.path ++ [request.relation] ∧
      request.parentShape = earlier.shape ∧ request.kind = .chained := by
  induction isRooted generalizing before after with
  | empty => cases List.append_ne_nil_of_right_ne_nil _ (List.cons_ne_nil _ _) split.symm
  | @tree path shape first below others kind_eq parentShape_eq path_eq alone inside beside insideIH
      besideIH =>
      cases before with
      | nil =>
          cases split
          exact .inl ⟨path_eq, parentShape_eq, kind_eq⟩
      | cons head before =>
          obtain ⟨rfl, behind⟩ := List.cons.inj split
          rcases exists_of_append_eq behind with ⟨more, isBelow⟩ | ⟨more, rfl, isBeside⟩
          · right
            rcases insideIH isBelow with ⟨below_eq, shape_eq, kind_eq⟩ | ⟨earlier, isEarlier, rest⟩
            · refine ⟨first, List.mem_cons_self, below_eq, shape_eq, ?_⟩
              rw [kind_eq, if_neg]
              rw [path_eq]
              exact List.append_ne_nil_of_right_ne_nil _ (List.cons_ne_nil _ _)
            · exact ⟨earlier, List.mem_cons_of_mem _ isEarlier, rest⟩
          · rcases besideIH isBeside with atStart | ⟨earlier, isEarlier, rest⟩
            · exact .inl atStart
            · exact .inr ⟨earlier, List.mem_cons_of_mem _ (List.mem_append_right _ isEarlier), rest⟩

end Plan.Forest

namespace Plan.Request

/-- A request begins at the rows of the root, or at those of a request that comes before it. -/
structure Follows (shape : String) (before : List Request) (request : Request) : Prop where
  ends : request.path.getLast? = some request.relation
  isFresh_iff : request.kind = .fresh ↔ request.path.length = 1
  atRoot : request.path.length = 1 → request.parentShape = shape
  atEarlier : request.path.length ≠ 1 → ∃ earlier ∈ before,
    earlier.path = request.path.dropLast ∧ earlier.shape = request.parentShape

/-- The requests of a chain go down a path, name by name. -/
structure LeadsTo (path : List String) (chain : List Request) : Prop where
  length_eq : chain.length = path.length
  descends : ∀ place request, chain[place]? = some request →
    request.path = path.take (place + 1) ∧ (request.kind = .fresh ↔ place = 0)

theorem leadsTo_nil : LeadsTo [] [] :=
  ⟨rfl, fun place request found => by cases List.getElem?_nil.symm.trans found⟩

end Plan.Request

namespace Plan.Forest

variable {path : List String} {shape : String} {forest : Forest Request} {request : Request}

theorem IsRooted.follows {before after : List Request} (isRooted : IsRooted [] shape forest)
    (split : forest.preorder = before ++ request :: after) : request.Follows shape before := by
  rcases isRooted.cases_of_split split with
    ⟨path_eq, shape_eq, kind_eq⟩ | ⟨earlier, isEarlier, path_eq, shape_eq, kind_eq⟩
  · have length_eq : request.path.length = 1 := congrArg List.length path_eq
    exact {
      ends := by rw [path_eq, List.getLast?_concat]
      isFresh_iff := iff_of_true kind_eq length_eq
      atRoot := fun _ => shape_eq
      atEarlier := fun notOne => absurd length_eq notOne }
  · have isMember : earlier ∈ forest.preorder := split ▸ List.mem_append_left _ isEarlier
    have nonempty := List.length_pos_iff.mpr (isRooted.path_ne_nil isMember)
    have length_eq : request.path.length = earlier.path.length + 1 := by
      rw [path_eq, List.length_append, List.length_singleton]
    have notOne : request.path.length ≠ 1 := by omega
    exact {
      ends := by rw [path_eq, List.getLast?_concat]
      isFresh_iff := iff_of_false (by rw [kind_eq]; nofun) notOne
      atRoot := fun isOne => absurd isOne notOne
      atEarlier := fun _ => ⟨earlier, isEarlier, by rw [path_eq, List.dropLast_concat], shape_eq.symm⟩ }

theorem leadsTo_concat {chain : List Request} (leadsTo : Request.LeadsTo path chain)
    (kind_eq : request.kind = if path = [] then .fresh else .chained)
    (path_eq : request.path = path ++ [request.relation]) :
    Request.LeadsTo request.path (chain ++ [request]) := by
  constructor
  · rw [path_eq, List.length_append, List.length_append, leadsTo.length_eq]
    rfl
  · intro place found foundEq
    rcases Nat.lt_trichotomy place chain.length with before | here | beyond
    · rw [List.getElem?_append_left before] at foundEq
      obtain ⟨found_eq, isFresh_iff⟩ := leadsTo.descends place found foundEq
      rw [path_eq, List.take_append_of_le_length (leadsTo.length_eq ▸ before)]
      exact ⟨found_eq, isFresh_iff⟩
    · subst here
      rw [List.getElem?_concat_length] at foundEq
      cases foundEq
      constructor
      · rw [path_eq, leadsTo.length_eq, List.take_of_length_le]
        rw [List.length_append]
        exact Nat.le_refl _
      · rw [kind_eq, leadsTo.length_eq, List.length_eq_zero_iff]
        split <;> simp [*]
    · rw [List.getElem?_eq_none] at foundEq
      · cases foundEq
      · rw [List.length_append]
        exact beyond

/-- A branch goes on to its tip, through requests of the forest. -/
theorem IsRooted.branch (isRooted : IsRooted path shape forest) {above chain : List Request}
    (leadsTo : Request.LeadsTo path above) (isBranch : chain ∈ forest.branches above) :
    (∃ last, chain.getLast? = some last ∧ Request.LeadsTo last.path chain) ∧
      ∀ member ∈ chain, member ∈ above ∨ member ∈ forest.preorder := by
  induction isRooted generalizing above with
  | empty => cases isBranch
  | @tree path shape first below others kind_eq parentShape_eq path_eq alone inside beside insideIH
      besideIH =>
      have longer := leadsTo_concat leadsTo kind_eq path_eq
      rcases List.mem_append.mp isBranch with isInside | isBeside
      · split at isInside
        next =>
          cases List.mem_singleton.mp isInside
          refine ⟨⟨first, List.getLast?_concat, longer⟩, fun member isMember => ?_⟩
          rcases List.mem_append.mp isMember with isAbove | isFirst
          · exact .inl isAbove
          · exact .inr (List.mem_singleton.mp isFirst ▸ List.mem_cons_self)
        next =>
          obtain ⟨ends, members⟩ := insideIH longer isInside
          refine ⟨ends, fun member isMember => ?_⟩
          rcases members member isMember with isAbove | isBelow
          · rcases List.mem_append.mp isAbove with isAbove | isFirst
            · exact .inl isAbove
            · exact .inr (List.mem_singleton.mp isFirst ▸ List.mem_cons_self)
          · exact .inr (List.mem_cons_of_mem _ (List.mem_append_left _ isBelow))
      · obtain ⟨ends, members⟩ := besideIH leadsTo isBeside
        refine ⟨ends, fun member isMember => (members member isMember).imp_right fun isOther => ?_⟩
        exact List.mem_cons_of_mem _ (List.mem_append_right _ isOther)

end Plan.Forest

namespace Document

/-- The requests of the relations among the members of an object and inside them, as a forest. -/
def relationForest (schema : Provider) (path : List String) (shape : String) :
    List (String × Value) → Forest Request
  | [] => .empty
  | (name, .object members) :: rest =>
      let beside := relationForest schema path shape rest
      match schema.property? shape name with
      | some ⟨valueShape, isCollection, true⟩ =>
          .tree (relationRequest path shape name ⟨valueShape, isCollection, true⟩ members)
            (relationForest schema (path ++ [name]) valueShape members) beside
      | _ => beside
  | (_, _) :: rest => relationForest schema path shape rest

variable {schema : Provider} {path : List String} {shape name : String} {value : Value}
  {members rest : List (String × Value)} {property : Property}

theorem relationForest_relation (declared : schema.property? shape name = some property)
    (isNavigable : property.isNavigable = true) :
    relationForest schema path shape ((name, .object members) :: rest) =
      .tree (relationRequest path shape name property members)
        (relationForest schema (path ++ [name]) property.valueShape members)
        (relationForest schema path shape rest) := by
  obtain ⟨valueShape, isCollection, navigable⟩ := property
  cases isNavigable
  rw [relationForest, declared]

theorem relationForest_other
    (notRelation : ∀ valueShape isCollection,
      schema.property? shape name ≠ some ⟨valueShape, isCollection, true⟩) :
    relationForest schema path shape ((name, .object members) :: rest) =
      relationForest schema path shape rest := by
  rw [relationForest]
  split
  next valueShape isCollection declared => cases notRelation valueShape isCollection declared
  next => rfl

theorem relationForest_skipped (declared : schema.property? shape name = some property)
    (notNavigable : property.isNavigable = false) :
    relationForest schema path shape ((name, .object members) :: rest) =
      relationForest schema path shape rest := by
  apply relationForest_other
  intro valueShape isCollection isRelation
  cases declared.symm.trans isRelation
  cases notNavigable

theorem relationForest_scalar (scalar : isScalar value = true) :
    relationForest schema path shape ((name, value) :: rest) =
      relationForest schema path shape rest := by
  rw [relationForest]
  rintro members rfl
  cases scalar

/-- The forest in preorder is what the members load. -/
theorem preorder_relationForest (schema : Provider) (path : List String) (shape : String)
    (members : List (String × Value)) :
    (relationForest schema path shape members).preorder = loads schema path shape members := by
  induction path, shape, members using relationForest.induct schema with
  | case1 path shape => rw [relationForest, loads, Forest.preorder]
  | case2 path shape name members rest valueShape isCollection declared restIH insideIH =>
      rw [relationForest_relation declared rfl, loads_relation declared rfl, Forest.preorder, insideIH,
        restIH]
  | case3 path shape name members rest notRelation restIH =>
      rw [relationForest_other notRelation, restIH, loads]
      split
      next valueShape isCollection declared => cases notRelation valueShape isCollection declared
      next => rfl
  | case4 path shape name value rest notObject restIH =>
      rw [relationForest, loads, restIH]
      · exact notObject
      · exact notObject

theorem relation_mem_of_mem_tops {request : Request}
    (isTop : request ∈ (relationForest schema path shape members).tops) :
    request.relation ∈ members.map Prod.fst := by
  induction path, shape, members using relationForest.induct schema with
  | case1 path shape =>
      rw [relationForest] at isTop
      cases isTop
  | case2 path shape name members rest valueShape isCollection declared restIH insideIH =>
      rw [relationForest_relation declared rfl] at isTop
      rcases List.mem_cons.mp isTop with rfl | isOther
      · exact List.mem_cons_self
      · exact List.mem_cons_of_mem _ (restIH isOther)
  | case3 path shape name members rest notRelation restIH =>
      rw [relationForest_other notRelation] at isTop
      exact List.mem_cons_of_mem _ (restIH isTop)
  | case4 path shape name value rest notObject restIH =>
      rw [relationForest] at isTop
      · exact List.mem_cons_of_mem _ (restIH isTop)
      · exact notObject

theorem isRooted_relationForest (unique : (Value.object members).HasUniqueKeys) :
    (relationForest schema path shape members).IsRooted path shape := by
  induction path, shape, members using relationForest.induct schema with
  | case1 path shape =>
      rw [relationForest]
      exact .empty
  | case2 path shape name members rest valueShape isCollection declared restIH insideIH =>
      have inside := insideIH (unique.of_member List.mem_cons_self)
      obtain ⟨isNew, uniqueRest⟩ := unique.of_cons
      rw [relationForest_relation declared rfl]
      refine .tree rfl rfl rfl ?_ inside (restIH uniqueRest)
      rintro other isTop (same : other.relation = name)
      exact isNew (same ▸ relation_mem_of_mem_tops isTop)
  | case3 path shape name members rest notRelation restIH =>
      rw [relationForest_other notRelation]
      exact restIH unique.of_cons.2
  | case4 path shape name value rest notObject restIH =>
      rw [relationForest]
      · exact restIH unique.of_cons.2
      · exact notObject

end Document

end QueryPlanner
