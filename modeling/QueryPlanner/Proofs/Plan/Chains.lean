import QueryPlanner.Proofs.Json.Repetition
import QueryPlanner.Proofs.Plan.Order
import QueryPlanner.Proofs.Plan.Relations

/-!
# Requests and chains

The relations of a tree and the chains that lead down to its tips are two walks through the same
forest of requests, which is that of the query.
-/

namespace QueryPlanner

open QueryPlanner.Json QueryPlanner.Plan QueryPlanner.Schema

namespace Plan.Tree

/-- The nodes that are come to from the root, from parent to child. -/
inductive Reaches (tree : Tree) : NodeId → Prop where
  | root : Reaches tree Tree.root
  | child {id child : NodeId} {node : Node} (above : Reaches tree id)
      (found : tree.get? id = some node) (isChild : child ∈ node.children) : Reaches tree child

def isTip (tree : Tree) (id : NodeId) : Bool :=
  !(tree.children id).any fun entry => entry.2.isRelation

/-- The places of relations from one place up to another. -/
def relationPlaces (tree : Tree) (start stop : Nat) : List NodeId :=
  (List.range' start (stop - start)).filter fun id => (tree.get? id).any Node.isRelation

/-- The relations among some nodes and below them, with their requests, are a forest. -/
inductive Outlines (tree : Tree) : List NodeId → Forest (NodeId × Request) → Prop where
  | nothing : Outlines tree [] .empty
  | relation {id : NodeId} {ids : List NodeId} {node : Node} {request : Request}
      {below others : Forest (NodeId × Request)} (found : tree.get? id = some node)
      (isRelation : node.isRelation = true) (requested : tree.request? id = some request)
      (inside : Outlines tree node.children below) (beside : Outlines tree ids others) :
      Outlines tree (id :: ids) (.tree (id, request) below others)
  | scalar {id : NodeId} {ids : List NodeId} {node : Node} {others : Forest (NodeId × Request)}
      (found : tree.get? id = some node) (notRelation : node.isRelation = false)
      (beside : Outlines tree ids others) : Outlines tree (id :: ids) others

/-- The chains that go on to some places from a chain. -/
def chainsAmong (tree : Tree) (steps : Nat) (chain : List Request) (ids : List NodeId) :
    List (List Request) :=
  ((ids.filterMap fun id => (tree.get? id).map (id, ·)).filter fun entry =>
      entry.2.isRelation).flatMap fun (child, _) =>
    match tree.request? child with
    | none => []
    | some request =>
        let longer := chain ++ [request]
        if (tree.children child).any fun entry => entry.2.isRelation then
          tree.chainsBelow steps longer child
        else [longer]

variable {tree : Tree} {id : NodeId} {ids : List NodeId} {node : Node} {request : Request}
  {forest : Forest (NodeId × Request)} {steps : Nat} {chain : List Request}

theorem chainsBelow_succ (found : tree.get? id = some node) :
    tree.chainsBelow (steps + 1) chain id = tree.chainsAmong steps chain node.children := by
  rw [chainsBelow, children, found]
  rfl

theorem chainsAmong_cons_relation (found : tree.get? id = some node)
    (isRelation : node.isRelation = true) (requested : tree.request? id = some request) :
    tree.chainsAmong steps chain (id :: ids) =
      (if tree.isTip id then [chain ++ [request]]
        else tree.chainsBelow steps (chain ++ [request]) id) ++
          tree.chainsAmong steps chain ids := by
  rw [chainsAmong, List.filterMap_cons_some (by rw [found, Option.map_some]), List.filter_cons,
    if_pos isRelation, List.flatMap_cons, ← chainsAmong]
  by_cases isAny : ((tree.children id).any fun entry => entry.2.isRelation) = true
  · simp only [requested, isTip, isAny, if_true, Bool.not_true, Bool.false_eq_true, if_false]
  · simp only [requested, isTip, Bool.eq_false_iff.mpr isAny, if_true, Bool.not_false,
      Bool.false_eq_true, if_false]

theorem chainsAmong_cons_scalar (found : tree.get? id = some node)
    (notRelation : node.isRelation = false) :
    tree.chainsAmong steps chain (id :: ids) = tree.chainsAmong steps chain ids := by
  rw [chainsAmong, List.filterMap_cons_some (by rw [found, Option.map_some]), List.filter_cons,
    if_neg (Bool.eq_false_iff.mp notRelation)]
  rfl

namespace Outlines

theorem relationsAmong_eq (outlines : tree.Outlines ids forest)
    (enough : forest.preorder.length ≤ steps) :
    tree.relationsAmong steps ids = forest.preorder.map Prod.fst := by
  induction outlines generalizing steps with
  | nothing => rfl
  | relation found isRelation requested inside beside insideIH besideIH =>
      rw [Forest.preorder, List.length_cons, List.length_append] at enough
      obtain ⟨steps, rfl⟩ : ∃ fewer, steps = fewer + 1 := Nat.exists_eq_add_one.mpr (by omega)
      rw [relationsAmong_cons found, if_pos isRelation, relationsBelow_succ found,
        insideIH (by omega), besideIH (by omega), Forest.preorder, List.map_cons, List.map_append]
      rfl
  | scalar found notRelation beside besideIH =>
      rw [relationsAmong_cons found, if_neg (Bool.eq_false_iff.mp notRelation), List.nil_append,
        besideIH enough]

theorem isTip_eq (found : tree.get? id = some node) (inside : tree.Outlines node.children forest) :
    tree.isTip id = forest.isEmpty := by
  rw [isTip, children, found, Option.map_some, Option.getD_some]
  generalize node.children = ids at inside
  induction inside with
  | nothing => rfl
  | relation found isRelation =>
      rw [List.filterMap_cons_some (by rw [found, Option.map_some]), List.any_cons, isRelation,
        Bool.true_or]
      rfl
  | scalar found notRelation beside besideIH =>
      rw [List.filterMap_cons_some (by rw [found, Option.map_some]), List.any_cons, notRelation,
        Bool.false_or]
      exact besideIH

theorem chainsAmong_eq (outlines : tree.Outlines ids forest)
    (enough : forest.preorder.length ≤ steps + 1) :
    tree.chainsAmong steps chain ids = (forest.map Prod.snd).branches chain := by
  induction outlines generalizing steps chain with
  | nothing => rfl
  | @relation id ids node request below others found isRelation requested inside beside insideIH
      besideIH =>
      rw [Forest.preorder, List.length_cons, List.length_append] at enough
      rw [chainsAmong_cons_relation found isRelation requested, besideIH (by omega),
        isTip_eq found inside, Forest.map, Forest.branches, Forest.isEmpty_map]
      cases below with
      | empty => rfl
      | tree label below beside =>
          -- There are relations below, so there is a step left to go to them.
          rw [Forest.preorder, List.length_cons] at enough
          obtain ⟨steps, rfl⟩ : ∃ fewer, steps = fewer + 1 := Nat.exists_eq_add_one.mpr (by omega)
          rw [chainsBelow_succ found, insideIH (by rw [Forest.preorder, List.length_cons]; omega)]
  | scalar found notRelation beside besideIH =>
      rw [chainsAmong_cons_scalar found notRelation, besideIH enough]

theorem tips_eq (outlines : tree.Outlines ids forest) :
    forest.tips = forest.preorder.filter fun entry => tree.isTip entry.1 := by
  induction outlines with
  | nothing => rfl
  | @relation id ids node request below others found isRelation requested inside beside insideIH
      besideIH =>
      rw [Forest.tips, Forest.preorder, List.filter_cons, List.filter_append, ← insideIH, ← besideIH,
        isTip_eq found inside]
      cases below with
      | empty => rfl
      | tree => rfl
  | scalar found notRelation beside besideIH => exact besideIH

theorem requested_of_mem (outlines : tree.Outlines ids forest) {entry : NodeId × Request}
    (isMember : entry ∈ forest.preorder) : tree.request? entry.1 = some entry.2 := by
  induction outlines with
  | nothing => cases isMember
  | relation found isRelation requested inside beside insideIH besideIH =>
      rcases List.mem_cons.mp isMember with rfl | isLater
      · exact requested
      · rcases List.mem_append.mp isLater with isBelow | isBeside
        · exact insideIH isBelow
        · exact besideIH isBeside
  | scalar found notRelation beside besideIH => exact besideIH isMember

theorem reaches_of_mem (outlines : tree.Outlines ids forest) (reaches : ∀ id ∈ ids, tree.Reaches id)
    {entry : NodeId × Request} (isMember : entry ∈ forest.preorder) : tree.Reaches entry.1 := by
  induction outlines with
  | nothing => cases isMember
  | relation found isRelation requested inside beside insideIH besideIH =>
      obtain ⟨here, others⟩ := List.forall_mem_cons.mp reaches
      rcases List.mem_cons.mp isMember with rfl | isLater
      · exact here
      · rcases List.mem_append.mp isLater with isBelow | isBeside
        · exact insideIH (fun child isChild => here.child found isChild) isBelow
        · exact besideIH others isBeside
  | scalar found notRelation beside besideIH =>
      exact besideIH (List.forall_mem_cons.mp reaches).2 isMember

end Outlines

theorem length_relationPlaces_le (tree : Tree) (start stop : Nat) :
    (tree.relationPlaces start stop).length ≤ stop - start := by
  apply Nat.le_trans (List.length_filter_le _ _)
  rw [List.length_range']

theorem mem_relationPlaces {start stop id : Nat} :
    id ∈ tree.relationPlaces start stop ↔
      start ≤ id ∧ id < stop ∧ ∃ node, tree.get? id = some node ∧ node.isRelation = true := by
  rw [relationPlaces, List.mem_filter, List.mem_range'_1, Option.any_eq_true]
  constructor
  · rintro ⟨⟨notBefore, before⟩, isRelation⟩
    exact ⟨notBefore, by omega, isRelation⟩
  · rintro ⟨notBefore, before, isRelation⟩
    exact ⟨⟨notBefore, by omega⟩, isRelation⟩

theorem nodup_relationPlaces (tree : Tree) (start stop : Nat) :
    (tree.relationPlaces start stop).Nodup :=
  List.Pairwise.filter _ List.nodup_range'

theorem relationPlaces_self (tree : Tree) (place : Nat) : tree.relationPlaces place place = [] := by
  rw [relationPlaces, Nat.sub_self]
  rfl

theorem relationPlaces_append {start middle stop : Nat} (first : start ≤ middle)
    (second : middle ≤ stop) :
    tree.relationPlaces start middle ++ tree.relationPlaces middle stop =
      tree.relationPlaces start stop := by
  have starts : middle = start + (middle - start) := by omega
  have lengths : stop - start = (middle - start) + (stop - middle) := by omega
  rw [relationPlaces, relationPlaces, relationPlaces, ← List.filter_append, lengths,
    ← List.range'_append_1]
  rw [← starts]

theorem relationPlaces_cons {place stop : Nat} (found : tree.get? place = some node)
    (before : place < stop) :
    tree.relationPlaces place stop =
      (if node.isRelation then [place] else []) ++ tree.relationPlaces (place + 1) stop := by
  have length : stop - place = (stop - (place + 1)) + 1 := by omega
  rw [relationPlaces, length, List.range'_succ, List.filter_cons, found, Option.any_some]
  cases node.isRelation <;> rfl

/-- All relations of a tree with their requests are a forest, and stand among the nodes in its
order. -/
structure IsOutline (tree : Tree) (top : Node) (forest : Forest (NodeId × Request)) : Prop where
  found : tree.get? root = some top
  top_eq : top.isRelation = false
  outlines : tree.Outlines top.children forest
  places_eq : forest.preorder.map Prod.fst = tree.relationPlaces 1 tree.size

namespace IsOutline

variable {top : Node} (isOutline : tree.IsOutline top forest)
include isOutline

theorem exists_steps : ∃ steps, tree.size = steps + 1 ∧ forest.preorder.length ≤ steps := by
  have within : 0 < tree.size := lt_size_of_get? isOutline.found
  have lengthLe := tree.length_relationPlaces_le 1 tree.size
  rw [← isOutline.places_eq, List.length_map] at lengthLe
  exact ⟨tree.size - 1, by omega, lengthLe⟩

theorem relations_eq : tree.relations = forest.preorder.map Prod.fst := by
  obtain ⟨steps, sizeEq, enough⟩ := isOutline.exists_steps
  rw [relations, sizeEq, relationsBelow_succ isOutline.found,
    isOutline.outlines.relationsAmong_eq enough]

theorem chains_eq : tree.chains = (forest.map Prod.snd).branches [] := by
  obtain ⟨steps, sizeEq, enough⟩ := isOutline.exists_steps
  rw [chains, sizeEq, chainsBelow_succ isOutline.found,
    isOutline.outlines.chainsAmong_eq (Nat.le_succ_of_le enough)]

theorem nodup_relations : tree.relations.Nodup := by
  rw [isOutline.relations_eq, isOutline.places_eq]
  exact tree.nodup_relationPlaces _ _

theorem mem_relations_iff :
    id ∈ tree.relations ↔
      tree.Reaches id ∧ ∃ node, tree.get? id = some node ∧ node.isRelation = true := by
  rw [isOutline.relations_eq]
  constructor
  · intro isListed
    constructor
    · obtain ⟨entry, isMember, rfl⟩ := List.mem_map.mp isListed
      apply isOutline.outlines.reaches_of_mem _ isMember
      intro child isChild
      exact .child .root isOutline.found isChild
    · rw [isOutline.places_eq] at isListed
      exact (mem_relationPlaces.mp isListed).2.2
  · rintro ⟨_, node, found, isRelation⟩
    rw [isOutline.places_eq, mem_relationPlaces]
    refine ⟨Nat.one_le_iff_ne_zero.mpr ?_, lt_size_of_get? found, node, found, isRelation⟩
    rintro rfl
    cases isOutline.found.symm.trans found
    cases isOutline.top_eq.symm.trans isRelation

theorem map_request?_relations :
    tree.relations.map tree.request? = (forest.map Prod.snd).preorder.map some := by
  rw [isOutline.relations_eq, Forest.preorder_map, List.map_map, List.map_map]
  exact List.map_congr_left fun entry isMember => isOutline.outlines.requested_of_mem isMember

theorem map_request?_tips :
    (tree.relations.filter tree.isTip).map tree.request? =
      (forest.map Prod.snd).tips.map some := by
  rw [isOutline.relations_eq, Forest.tips_map, isOutline.outlines.tips_eq, List.filter_map,
    List.map_map, List.map_map]
  refine List.map_congr_left fun entry isTip => ?_
  exact isOutline.outlines.requested_of_mem (List.mem_of_mem_filter isTip)

end IsOutline

end Plan.Tree

namespace Document

variable {schema : Provider} {tree : Tree} {parent start stop : NodeId} {depth : Nat}
  {shape : String} {members : List (String × Value)} {ids : List NodeId} {above : Node}

/-- The relations among the nodes of members are the forest of the members, with the nodes of the
relations in their order. -/
theorem Depicts.exists_outlines
    (depicts : Depicts schema tree parent depth shape members start stop ids)
    (isArena : tree.IsArena) (settled : ∀ id, tree.IsSettled id)
    (foundAbove : tree.get? parent = some above) (shapeEq : above.shape = shape)
    (depthEq : (tree.path parent).length = depth) :
    ∃ forest, tree.Outlines ids forest ∧
      forest.map Prod.snd = relationForest schema (tree.path parent) shape members ∧
        forest.preorder.map Prod.fst = tree.relationPlaces start stop := by
  induction depicts generalizing above with
  | nothing =>
      refine ⟨.empty, .nothing, ?_, ?_⟩
      · rw [relationForest]
        rfl
      · rw [Tree.relationPlaces_self]
        rfl
  | @relation parent place middle stop depth shape name members rest property node ids declared
      isNavigable found stands inside others insideIH othersIH =>
      subst shapeEq depthEq
      have pathEq : tree.path place = tree.path parent ++ [name] := by
        rw [Tree.path_of_parent isArena found stands.parent_eq, stands.fieldName_eq]
        rfl
      have depthEq : (tree.path place).length = (tree.path parent).length + 1 := by
        rw [pathEq, List.length_append, List.length_singleton]
      obtain ⟨below, insideOutlined, belowEq, belowPlaces⟩ := insideIH found stands.shape_eq depthEq
      obtain ⟨beside, othersOutlined, besideEq, besidePlaces⟩ := othersIH foundAbove rfl rfl
      have requested := request?_of_stands isArena settled foundAbove found stands inside
      refine ⟨.tree (place, _) below beside,
        .relation found stands.isRelation_eq requested insideOutlined othersOutlined, ?_, ?_⟩
      · rw [relationForest_relation declared isNavigable, Forest.map, belowEq, besideEq, pathEq]
      · have placeLt : place < middle := inside.start_le_stop
        have middleLe : middle ≤ stop := others.start_le_stop
        rw [Forest.preorder, List.map_cons, List.map_append, belowPlaces, besidePlaces,
          Tree.relationPlaces_append placeLt middleLe,
          Tree.relationPlaces_cons found (Nat.lt_of_lt_of_le placeLt middleLe),
          if_pos stands.isRelation_eq]
        rfl
  | skipped declared notNavigable others othersIH =>
      rw [relationForest_skipped declared notNavigable]
      exact othersIH foundAbove shapeEq depthEq
  | scalar declared scalar asks found stands childless others othersIH =>
      obtain ⟨beside, othersOutlined, besideEq, besidePlaces⟩ := othersIH foundAbove shapeEq depthEq
      refine ⟨beside, .scalar found stands.isRelation_eq othersOutlined, ?_, ?_⟩
      · rw [relationForest_scalar scalar, besideEq]
      · rw [besidePlaces, Tree.relationPlaces_cons found (Nat.lt_of_succ_le others.start_le_stop),
          if_neg (Bool.eq_false_iff.mp stands.isRelation_eq), List.nil_append]

/-- The relations of a plan with their requests are the forest of its query. -/
theorem exists_isOutline_of_build {document : Document} {plan : QueryPlan}
    (built : document.build shape schema = .ok plan) :
    ∃ top forest, plan.tree.IsOutline top forest ∧
      forest.map Prod.snd = relationForest schema [] shape document.query := by
  obtain ⟨top, isTreeOf⟩ := exists_isTreeOf_of_build built
  have pathEq : plan.tree.path Tree.root = [] := by
    rw [Tree.path_of_orphan isTreeOf.found isTreeOf.parent_eq, isTreeOf.fieldName_eq]
    rfl
  have topEq : top.isRelation = false := by
    rw [Node.isRelation, isTreeOf.parent_eq]
    exact Bool.and_false _
  obtain ⟨forest, outlines, forestEq, places⟩ := isTreeOf.depicts.exists_outlines
    (isArena_of_build built) (isSettled_of_build built) isTreeOf.found isTreeOf.shape_eq
    (by rw [pathEq]; rfl)
  exact ⟨top, forest, ⟨isTreeOf.found, topEq, outlines, places⟩, pathEq ▸ forestEq⟩

theorem query_of_readMembers {seen : List (List Char)} {draft last : Draft}
    (read : readMembers seen draft members = .ok last) :
    last.query = draft.query ∨
      ∃ name query, (name, .object query) ∈ members ∧ last.query = some query := by
  induction members generalizing seen draft with
  | nil =>
      rw [readMembers] at read
      cases read
      exact .inl rfl
  | cons member rest inductionHypothesis =>
      obtain ⟨_, key, next, _, sets, readRest⟩ := readMembers_cons_ok_iff.mp read
      rcases inductionHypothesis readRest with kept | ⟨name, query, isMember, queryEq⟩
      · obtain ⟨name, value⟩ := member
        cases sets with
        | query => exact .inr ⟨name, _, List.mem_cons_self, kept⟩
        | _ => exact .inl kept
      · exact .inr ⟨name, query, List.mem_cons_of_mem _ isMember, queryEq⟩

/-- A document of which no object repeats a key has a query of which none does. -/
theorem hasUniqueKeys_query {document : Document} {value : Value} (unique : value.HasUniqueKeys)
    (read : ofValue value = .ok document) : (Value.object document.query).HasUniqueKeys := by
  cases value with
  | object members =>
      obtain ⟨draft, query, readAll, queryEq, rfl⟩ := ofValue_object_ok_iff.mp read
      rcases query_of_readMembers readAll with unset | ⟨name, found, isMember, foundEq⟩
      · cases queryEq.symm.trans unset
      · cases queryEq.symm.trans foundEq
        exact unique.of_member isMember
  | _ => cases read

/-- A plan is made for a document: for a value whose objects repeat no key, for a text, or for a
text that names the type of its outermost rows. -/
inductive IsPlanned (schema : Provider) (document : Document) : String → QueryPlan → Prop where
  | value {value : Value} {shape : String} {plan : QueryPlan} (unique : value.HasUniqueKeys)
      (read : ofValue value = .ok document) (planned : planValue value shape schema = .ok plan) :
      IsPlanned schema document shape plan
  | text {text shape : String} {value : Value} {plan : QueryPlan}
      (parsed : parseJson text = .ok value) (read : ofValue value = .ok document)
      (planned : planAs text shape schema = .ok plan) : IsPlanned schema document shape plan
  | typed {text typeName shape : String} {value : Value} {plan : QueryPlan}
      (parsed : parseJson text = .ok value) (read : ofValue value = .ok document)
      (named : document.typeName = some typeName) (resolved : schema.shape? typeName = some shape)
      (planned : Document.plan text schema = .ok plan) : IsPlanned schema document shape plan

theorem IsPlanned.build_eq {document : Document} {plan : QueryPlan}
    (planned : IsPlanned schema document shape plan) :
    (Value.object document.query).HasUniqueKeys ∧ document.build shape schema = .ok plan := by
  cases planned with
  | value unique read planned =>
      rw [planValue_of_read read] at planned
      exact ⟨hasUniqueKeys_query unique read, planned⟩
  | text parsed read planned =>
      rw [planAs, parsed] at planned
      exact ⟨hasUniqueKeys_query (hasUniqueKeys_of_parseJson parsed) read,
        (planValue_of_read read).symm.trans planned⟩
  | typed parsed read named resolved planned =>
      rw [Document.plan, parsed] at planned
      simp only [bind, Except.bind, read, Except.mapError, named, resolved] at planned
      exact ⟨hasUniqueKeys_query (hasUniqueKeys_of_parseJson parsed) read, planned⟩

/-- The requests of a plan are one for each relation that is come to from the root, in the order of
the document, and each begins at the root or at an earlier one.  The chains lead down to the
relations that have none below them, in the same order, name by name along their paths, and have
all requests between them. -/
theorem chains_cover_requests {document : Document} {plan : QueryPlan}
    (planned : IsPlanned schema document shape plan) :
    (plan.requests = loads schema [] shape document.query ∧
      plan.tree.relations.map plan.tree.request? = plan.requests.map some ∧
      plan.tree.relations.Nodup ∧
      (∀ id, id ∈ plan.tree.relations ↔ plan.tree.Reaches id ∧
        ∃ node, plan.tree.get? id = some node ∧ node.isRelation = true) ∧
      (plan.requests.map Request.path).Nodup ∧
      ∀ before request after, plan.requests = before ++ request :: after →
        request.Follows plan.shape before) ∧
    plan.chains.map List.getLast? =
      (plan.tree.relations.filter plan.tree.isTip).map plan.tree.request? ∧
    (∀ chain ∈ plan.chains, (∃ last, chain.getLast? = some last ∧ Request.LeadsTo last.path chain) ∧
      ∀ request ∈ chain, request ∈ plan.requests) ∧
    plan.chains.flatten.eraseDups = plan.requests := by
  obtain ⟨unique, built⟩ := planned.build_eq
  obtain ⟨top, forest, isOutline, forestEq⟩ := exists_isOutline_of_build built
  have isRooted : (forest.map Prod.snd).IsRooted [] plan.shape := by
    rw [forestEq, shape_of_build built]
    exact isRooted_relationForest unique
  have requestsEq : plan.requests = (forest.map Prod.snd).preorder := by
    rw [requests_of_build built, forestEq, preorder_relationForest]
  have chainsEq : plan.chains = (forest.map Prod.snd).branches [] := isOutline.chains_eq
  rw [chainsEq]
  refine ⟨⟨requests_of_build built, ?_, isOutline.nodup_relations,
    fun id => isOutline.mem_relations_iff, ?_, ?_⟩, ?_, ?_, ?_⟩
  · rw [requestsEq]
    exact isOutline.map_request?_relations
  · rw [requestsEq]
    exact isRooted.nodup_paths
  · intro before request after split
    rw [requestsEq] at split
    exact isRooted.follows split
  · rw [Forest.map_getLast?_branches]
    exact isOutline.map_request?_tips.symm
  · intro chain isChain
    obtain ⟨ends, members⟩ := isRooted.branch Request.leadsTo_nil isChain
    refine ⟨ends, fun request isMember => ?_⟩
    rw [requestsEq]
    exact (members request isMember).resolve_left List.not_mem_nil
  · rw [requestsEq]
    exact Forest.eraseDups_flatten_branches _ (List.Nodup.of_map _ isRooted.nodup_paths)

/-- Museums with a director and rooms, in which pictures hang and a guard sits. -/
def museums : Provider where
  property?
    | "museum", "director" => some (.relation "person" false)
    | "museum", "rooms" => some (.relation "room" true)
    | "room", "pictures" => some (.relation "picture" true)
    | "room", "guard" => some (.relation "person" false)
    | _, _ => none
  shape? _ := none

def museumQuery : List (String × Value) :=
  [("rooms", .object [("pictures", .object []), ("guard", .object [])]), ("director", .object [])]

def museumPlan : QueryPlan :=
  ⟨((((Tree.ofRoot "museum").addRelation 0 "rooms" "room" true).addRelation
    1 "pictures" "picture" true).addRelation 1 "guard" "person" false).addRelation
    0 "director" "person" false |>.computePredicates, 0, 0⟩

theorem isPlanned_museum :
    IsPlanned museums ⟨none, museumQuery, 0, 0⟩ "museum" museumPlan := by
  have adds : Adds museums Tree.root "museum" museumQuery (.ofRoot "museum") [1, 4] _ :=
    .relation rfl rfl (.relation rfl rfl .nothing (.relation rfl rfl .nothing .nothing))
      (.relation rfl rfl .nothing .nothing)
  have built : (⟨none, museumQuery, 0, 0⟩ : Document).build "museum" museums = .ok museumPlan := by
    rw [build, if_neg (by decide), adds.addMembers_eq]
    rfl
  have noMembers : (Value.object []).HasUniqueKeys := .object .nil (List.forall_mem_nil _)
  have rooms : (Value.object [("pictures", .object []), ("guard", .object [])]).HasUniqueKeys :=
    .object (by decide)
      (List.forall_mem_cons.mpr ⟨noMembers, List.forall_mem_cons.mpr ⟨noMembers, List.forall_mem_nil _⟩⟩)
  have query : (Value.object museumQuery).HasUniqueKeys :=
    .object (by decide)
      (List.forall_mem_cons.mpr ⟨rooms, List.forall_mem_cons.mpr ⟨noMembers, List.forall_mem_nil _⟩⟩)
  have unique : (Value.object [("query", .object museumQuery)]).HasUniqueKeys :=
    .object (by decide) (List.forall_mem_cons.mpr ⟨query, List.forall_mem_nil _⟩)
  exact .value unique rfl built

theorem chains_cover_requests_museum :
    IsPlanned museums ⟨none, museumQuery, 0, 0⟩ "museum" museumPlan ∧
      museumPlan.chains.map List.getLast? =
        (museumPlan.tree.relations.filter museumPlan.tree.isTip).map museumPlan.tree.request? ∧
      museumPlan.chains.flatten.eraseDups = museumPlan.requests := by
  obtain ⟨_, tips, _, firsts⟩ := chains_cover_requests isPlanned_museum
  exact ⟨isPlanned_museum, tips, firsts⟩

example : museumPlan.chains.map (fun chain => chain.map Request.relation) =
    [["rooms", "pictures"], ["rooms", "guard"], ["director"]] := by decide +kernel

end Document

end QueryPlanner
