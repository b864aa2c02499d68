import QueryPlanner.Proofs.Plan.Translation

/-!
# Which queries are read

A query is read if all its members can be, those inside relations among them.  Otherwise the fault
is that of the first member that cannot be read, in the order in which the members are come to.
-/

namespace QueryPlanner.Document

open QueryPlanner.Json QueryPlanner.Plan QueryPlanner.Schema

/-- The members of an object can be read as properties of a shape: they are declared there, none
is an array, the conditions of scalars compile, and so on inside the relations. -/
inductive IsReadable (schema : Provider) : String → List (String × Value) → Prop where
  | intro {shape : String} {members : List (String × Value)}
      (declared : ∀ name value, (name, value) ∈ members →
        (schema.property? shape name).isSome = true)
      (noArray : ∀ name items, (name, Value.array items) ∉ members)
      (compiles : ∀ name value text, (name, value) ∈ members → HasText value text →
        ∃ condition, Condition.compileCondition (.ofName name) text = .ok condition)
      (inside : ∀ name inner property, (name, Value.object inner) ∈ members →
        schema.property? shape name = some property → property.isNavigable = true →
          IsReadable schema property.valueShape inner) :
      IsReadable schema shape members

/-- A member of an object whose members are properties of a shape. -/
structure Visit where
  shape : String
  name : String
  value : Value

/-- The members of an object and of the objects inside its relations, depth first: a relation comes
right before its members. -/
def visits (schema : Provider) (shape : String) : List (String × Value) → List Visit
  | [] => []
  | (name, .object members) :: rest =>
      ⟨shape, name, .object members⟩ ::
        ((match schema.property? shape name with
          | some ⟨valueShape, _, true⟩ => visits schema valueShape members
          | _ => []) ++ visits schema shape rest)
  | (name, value) :: rest => ⟨shape, name, value⟩ :: visits schema shape rest

/-- Whether a member has a node of its own: an object on a property that is no relation has
none. -/
def Visit.hasNode (schema : Provider) (visit : Visit) : Bool :=
  match visit.value with
  | .object _ => (schema.property? visit.shape visit.name).any Property.isNavigable
  | _ => true

/-- What can be wrong with a member, leaving aside what is inside it. -/
inductive Visit.HasFault (schema : Provider) (visit : Visit) : Failure → Prop where
  | unknownField (undeclared : schema.property? visit.shape visit.name = none) :
      HasFault schema visit (.unknownField visit.shape visit.name)
  | arrayValue {items : List Value} (declared : schema.property? visit.shape visit.name ≠ none)
      (isArray : visit.value = .array items) :
      HasFault schema visit (.malformedDocument (.arrayValue visit.shape visit.name))
  | malformedCondition {text : String} {fault : Condition.SyntaxFault}
      (declared : schema.property? visit.shape visit.name ≠ none)
      (hasText : HasText visit.value text)
      (refused : Condition.compileCondition (.ofName visit.name) text =
        .error (.syntaxFault fault)) :
      HasFault schema visit (.malformedCondition fault)
  | unsupportedCondition {text : String} {cause : Condition.Unsupported}
      (declared : schema.property? visit.shape visit.name ≠ none)
      (hasText : HasText visit.value text)
      (refused : Condition.compileCondition (.ofName visit.name) text =
        .error (.unsupported cause)) :
      HasFault schema visit (.unsupportedCondition cause)

/-- Something is wrong with a member, and nothing with those that are come to before it. -/
def HasFirstFault (schema : Provider) (shape : String) (members : List (String × Value))
    (failure : Failure) : Prop :=
  ∃ front visit rest, visits schema shape members = front ++ visit :: rest ∧
    (∀ earlier ∈ front, ∀ other, ¬ earlier.HasFault schema other) ∧ visit.HasFault schema failure

/-- The one thing that is wrong with a member, leaving aside what is inside it. -/
def Visit.fault? (schema : Provider) (visit : Visit) : Option Failure :=
  if schema.property? visit.shape visit.name = none then
    some (.unknownField visit.shape visit.name)
  else
    match visit.value with
    | .array _ => some (.malformedDocument (.arrayValue visit.shape visit.name))
    | value =>
        match condition? visit.name value with
        | .ok _ => none
        | .error failure => some failure

def firstFault? (schema : Provider) (shape : String) (members : List (String × Value)) :
    Option Failure :=
  (visits schema shape members).findSome? (Visit.fault? schema)

/-- Members that differ only inside objects on properties that are no relations. -/
inductive SameVisits (schema : Provider) :
    String → List (String × Value) → List (String × Value) → Prop where
  | nil {shape : String} : SameVisits schema shape [] []
  | skipped {shape name : String} {members others rest otherRest : List (String × Value)}
      {property : Property}
      (declared : schema.property? shape name = some property)
      (notNavigable : property.isNavigable = false)
      (behind : SameVisits schema shape rest otherRest) :
      SameVisits schema shape ((name, .object members) :: rest)
        ((name, .object others) :: otherRest)
  | relation {shape name : String} {members others rest otherRest : List (String × Value)}
      {property : Property}
      (declared : schema.property? shape name = some property)
      (isNavigable : property.isNavigable = true)
      (inside : SameVisits schema property.valueShape members others)
      (behind : SameVisits schema shape rest otherRest) :
      SameVisits schema shape ((name, .object members) :: rest)
        ((name, .object others) :: otherRest)
  | same {shape : String} {member : String × Value} {rest otherRest : List (String × Value)}
      (behind : SameVisits schema shape rest otherRest) :
      SameVisits schema shape (member :: rest) (member :: otherRest)

variable {schema : Provider} {parent : NodeId} {shape name : String} {value : Value}
  {members rest : List (String × Value)} {property : Property} {tree : Tree} {visit : Visit}
  {failure : Failure}

theorem isReadable_nil : IsReadable schema shape [] := by
  constructor
  · intro name value isMember
    cases isMember
  · intro name items isMember
    cases isMember
  · intro name value text isMember
    cases isMember
  · intro name inner property isMember
    cases isMember

theorem isReadable_cons_iff :
    IsReadable schema shape ((name, value) :: rest) ↔
      ((schema.property? shape name).isSome = true ∧ (∀ items, value ≠ .array items) ∧
        (∀ text, HasText value text →
          ∃ condition, Condition.compileCondition (.ofName name) text = .ok condition) ∧
        ∀ inner property, value = .object inner → schema.property? shape name = some property →
          property.isNavigable = true → IsReadable schema property.valueShape inner) ∧
      IsReadable schema shape rest := by
  constructor
  · rintro ⟨declared, noArray, compiles, inside⟩
    refine ⟨⟨?_, ?_, ?_, ?_⟩, ?_, ?_, ?_, ?_⟩
    · exact declared name value List.mem_cons_self
    · rintro items rfl
      exact noArray name items List.mem_cons_self
    · exact fun text => compiles name value text List.mem_cons_self
    · rintro inner property rfl
      exact inside name inner property List.mem_cons_self
    · intro name value isMember
      exact declared name value (List.mem_cons_of_mem _ isMember)
    · intro name items isMember
      exact noArray name items (List.mem_cons_of_mem _ isMember)
    · intro name value text isMember
      exact compiles name value text (List.mem_cons_of_mem _ isMember)
    · intro name inner property isMember
      exact inside name inner property (List.mem_cons_of_mem _ isMember)
  · rintro ⟨⟨isDeclared, notArray, compilesHere, insideHere⟩, ⟨declared, noArray, compiles, inside⟩⟩
    constructor
    · intro other otherValue isMember
      rcases List.mem_cons.mp isMember with same | further
      · cases same
        exact isDeclared
      · exact declared other otherValue further
    · intro other items isMember
      rcases List.mem_cons.mp isMember with same | further
      · cases same
        exact notArray items rfl
      · exact noArray other items further
    · intro other otherValue text isMember
      rcases List.mem_cons.mp isMember with same | further
      · cases same
        exact compilesHere text
      · exact compiles other otherValue text further
    · intro other inner property isMember
      rcases List.mem_cons.mp isMember with same | further
      · cases same
        exact insideHere inner property rfl
      · exact inside other inner property further

theorem compiles_iff :
    (∀ text, HasText value text →
      ∃ condition, Condition.compileCondition (.ofName name) text = .ok condition) ↔
        ∃ condition, condition? name value = .ok condition := by
  simp only [hasText_iff]
  unfold condition?
  cases conditionText? value with
  | none =>
      apply iff_of_true
      · rintro text ⟨⟩
      · exact ⟨none, rfl⟩
  | some text =>
      constructor
      · intro compiles
        obtain ⟨condition, compiled⟩ := compiles text rfl
        exact ⟨condition, congrArg (Except.mapError Failure.ofCondition) compiled⟩
      · rintro ⟨condition, compiled⟩ _ ⟨⟩
        exact ⟨condition, exists_of_mapError_ok compiled⟩

theorem exists_of_condition?_error (refused : condition? name value = .error failure) :
    ∃ text error, HasText value text ∧
      Condition.compileCondition (.ofName name) text = .error error ∧
        failure = .ofCondition error := by
  unfold condition? at refused
  split at refused
  next => cases refused
  next text textEq =>
    obtain ⟨error, compiled, rfl⟩ := exists_of_mapError_error refused
    exact ⟨text, error, hasText_iff.mpr textEq, compiled, rfl⟩

section FirstFault

theorem Visit.fault?_of_refused {text : String} {error : Condition.Error}
    (declared : schema.property? visit.shape visit.name ≠ none) (hasText : HasText visit.value text)
    (refused : Condition.compileCondition (.ofName visit.name) text = .error error) :
    visit.fault? schema = some (.ofCondition error) := by
  rw [Visit.fault?, if_neg declared]
  split
  next items isArray =>
    rw [isArray] at hasText
    cases hasText
  next =>
    rw [condition?, hasText_iff.mp hasText]
    dsimp only
    rw [refused]
    rfl

theorem Visit.fault?_eq_some_iff : visit.fault? schema = some failure ↔
    visit.HasFault schema failure := by
  constructor
  · intro fault
    unfold Visit.fault? at fault
    split at fault
    next undeclared =>
      cases fault
      exact .unknownField undeclared
    next declared =>
      split at fault
      next items isArray =>
        cases fault
        exact .arrayValue declared isArray
      next =>
        split at fault
        next => cases fault
        next refused =>
          cases fault
          obtain ⟨text, error, hasText, notCompiled, rfl⟩ := exists_of_condition?_error refused
          cases error with
          | syntaxFault fault => exact .malformedCondition declared hasText notCompiled
          | unsupported cause => exact .unsupportedCondition declared hasText notCompiled
  · intro hasFault
    cases hasFault with
    | unknownField undeclared => exact if_pos undeclared
    | arrayValue declared isArray => rw [Visit.fault?, if_neg declared, isArray]
    | malformedCondition declared hasText refused =>
        exact fault?_of_refused declared hasText refused
    | unsupportedCondition declared hasText refused =>
        exact fault?_of_refused declared hasText refused

theorem Visit.fault?_eq_none_iff :
    visit.fault? schema = none ↔ ∀ failure, ¬ visit.HasFault schema failure := by
  simp only [← Visit.fault?_eq_some_iff, Option.eq_none_iff_forall_ne_some, ne_eq]

/-- The search for a fault gives the one of the first member that has any. -/
theorem firstFault?_eq_some_iff : firstFault? schema shape members = some failure ↔
    HasFirstFault schema shape members failure := by
  rw [firstFault?, List.findSome?_eq_some_iff]
  simp only [Visit.fault?_eq_some_iff, Visit.fault?_eq_none_iff]
  constructor
  · rintro ⟨front, visit, rest, visited, bad, good⟩
    exact ⟨front, visit, rest, visited, good, bad⟩
  · rintro ⟨front, visit, rest, visited, good, bad⟩
    exact ⟨front, visit, rest, visited, bad, good⟩

theorem firstFault?_nil : firstFault? schema shape [] = none := by
  rw [firstFault?, visits]
  rfl

theorem firstFault?_undeclared (undeclared : schema.property? shape name = none) :
    firstFault? schema shape ((name, value) :: rest) = some (.unknownField shape name) := by
  have fault (value : Value) :
      Visit.fault? schema ⟨shape, name, value⟩ = some (.unknownField shape name) :=
    if_pos undeclared
  cases value <;> rw [firstFault?, visits, List.findSome?_cons, fault] <;> rintro _ ⟨⟩

theorem firstFault?_object (declared : schema.property? shape name = some property) :
    firstFault? schema shape ((name, .object members) :: rest) =
      (if property.isNavigable then firstFault? schema property.valueShape members else none).or
        (firstFault? schema shape rest) := by
  have noFault : Visit.fault? schema ⟨shape, name, .object members⟩ = none := by
    rw [Visit.fault?, declared]
    rfl
  rw [firstFault?, visits, List.findSome?_cons, noFault, List.findSome?_append, declared]
  obtain ⟨valueShape, isCollection, isNavigable⟩ := property
  cases isNavigable with
  | true => rfl
  | false => rfl

theorem firstFault?_array {items : List Value}
    (declared : schema.property? shape name = some property) :
    firstFault? schema shape ((name, .array items) :: rest) =
      some (.malformedDocument (.arrayValue shape name)) := by
  have fault : Visit.fault? schema ⟨shape, name, .array items⟩ =
      some (.malformedDocument (.arrayValue shape name)) := by
    rw [Visit.fault?, declared]
    rfl
  rw [firstFault?, visits, List.findSome?_cons, fault]
  rintro _ ⟨⟩

theorem firstFault?_scalar (declared : schema.property? shape name = some property)
    (scalar : isScalar value = true) :
    firstFault? schema shape ((name, value) :: rest) =
      match condition? name value with
      | .ok _ => firstFault? schema shape rest
      | .error failure => some failure := by
  have fault : Visit.fault? schema ⟨shape, name, value⟩ =
      match condition? name value with
      | .ok _ => none
      | .error failure => some failure := by
    rw [Visit.fault?, declared, if_neg (Option.some_ne_none property)]
    cases value with
    | array items => cases scalar
    | _ => rfl
  rw [firstFault?, visits, List.findSome?_cons, fault]
  · cases condition? name value with
    | ok condition => rfl
    | error failure => rfl
  · rintro inner rfl
    cases scalar

/-- A query can be read exactly if nothing is wrong with any member that is come to. -/
theorem firstFault?_eq_none_iff :
    firstFault? schema shape members = none ↔ IsReadable schema shape members := by
  induction shape, members using visits.induct with
  | case1 shape => exact iff_of_true firstFault?_nil isReadable_nil
  | case2 shape name members rest membersIH restIH =>
      rw [isReadable_cons_iff, ← restIH]
      cases declared : schema.property? shape name with
      | none =>
          rw [firstFault?_undeclared declared]
          simp
      | some property =>
          rw [firstFault?_object declared, Option.or_eq_none_iff]
          apply and_congr_left'
          have compiles := compiles_iff.mpr ⟨none, (rfl : condition? name (.object members) = _)⟩
          cases isNavigable : property.isNavigable with
          | true =>
              rw [if_pos rfl, membersIH property.valueShape]
              constructor
              · intro isReadable
                refine ⟨rfl, ?_, compiles, ?_⟩
                · rintro items ⟨⟩
                · rintro inner _ ⟨⟩ ⟨⟩ _
                  exact isReadable
              · rintro ⟨_, _, _, inside⟩
                exact inside members property rfl rfl isNavigable
          | false =>
              refine iff_of_true (if_neg Bool.false_ne_true) ⟨rfl, ?_, compiles, ?_⟩
              · rintro items ⟨⟩
              · rintro inner _ ⟨⟩ ⟨⟩ navigable
                rw [isNavigable] at navigable
                cases navigable
  | case3 shape name value rest notObject restIH =>
      rw [isReadable_cons_iff, ← restIH]
      cases declared : schema.property? shape name with
      | none =>
          rw [firstFault?_undeclared declared]
          simp
      | some property =>
          by_cases isArray : ∃ items, value = .array items
          · obtain ⟨items, rfl⟩ := isArray
            rw [firstFault?_array declared]
            simp
          · have notArray : ∀ items, value ≠ .array items :=
              fun items equality => isArray ⟨items, equality⟩
            rw [firstFault?_scalar declared (isScalar_of_ne notObject notArray), compiles_iff]
            cases condition? name value with
            | error failure => simp
            | ok condition =>
                constructor
                · intro restFine
                  refine ⟨⟨rfl, notArray, ⟨condition, rfl⟩, ?_⟩, restFine⟩
                  rintro inner _ rfl
                  exact absurd rfl (notObject inner)
                · exact And.right

/-- Members are added if nothing is wrong with them; otherwise the fault of the first one is
given. -/
theorem addMembers_firstFault? :
    (firstFault? schema shape members = none →
      ∃ after, addMembers schema parent shape members tree = .ok after) ∧
    ∀ failure, firstFault? schema shape members = some failure →
      addMembers schema parent shape members tree = .error failure := by
  induction parent, shape, members, tree using addMembers.induct schema with
  | case1 parent shape tree =>
      rw [firstFault?_nil]
      refine ⟨fun _ => ⟨tree, by rw [addMembers]⟩, ?_⟩
      rintro _ ⟨⟩
  | case2 parent shape name value rest tree undeclared =>
      rw [firstFault?_undeclared undeclared, addMembers, undeclared]
      constructor
      · rintro ⟨⟩
      · rintro _ ⟨⟩
        rfl
  | case3 parent shape name rest tree property declared members isNavigable restIH insideIH =>
      rw [firstFault?_object declared, if_pos isNavigable, addMembers, declared]
      simp only [isNavigable, if_true]
      cases insideFault : firstFault? schema property.valueShape members with
      | some failure =>
          rw [insideIH.2 failure insideFault]
          constructor
          · rintro ⟨⟩
          · rintro _ ⟨⟩
            rfl
      | none =>
          obtain ⟨middle, insideAdded⟩ := insideIH.1 insideFault
          rw [insideAdded, Option.none_or]
          exact restIH middle
  | case4 parent shape name rest tree property declared members notNavigable restIH =>
      rw [firstFault?_object declared, if_neg notNavigable, addMembers, declared, Option.none_or]
      simp only [notNavigable]
      exact restIH tree
  | case5 parent shape name rest tree property declared items restIH =>
      rw [firstFault?_array declared, addMembers, declared]
      constructor
      · rintro ⟨⟩
      · rintro _ ⟨⟩
        rfl
  | case6 parent shape name rest tree property declared value notObject notArray restIH =>
      rw [firstFault?_scalar declared (isScalar_of_ne notObject notArray), addMembers, declared]
      simp only
      cases condition? name value with
      | ok condition => exact restIH _
      | error failure =>
          constructor
          · rintro ⟨⟩
          · rintro _ ⟨⟩
            rfl

end FirstFault

/-- What is inside objects on properties that are no relations is not looked at. -/
theorem SameVisits.addMembers_eq {others : List (String × Value)}
    (same : SameVisits schema shape members others) :
    addMembers schema parent shape members tree = addMembers schema parent shape others tree := by
  induction same generalizing parent tree with
  | nil => rfl
  | skipped declared notNavigable behind behindIH =>
      rw [addMembers, addMembers, declared]
      simp only [notNavigable]
      exact behindIH
  | relation declared isNavigable inside behind insideIH behindIH =>
      rw [addMembers, addMembers, declared]
      simp only [isNavigable, if_true, insideIH]
      exact bind_congr fun middle => behindIH
  | @same shape member rest otherRest behind behindIH =>
      obtain ⟨name, value⟩ := member
      have further :
          addMembers schema parent shape rest = addMembers schema parent shape otherRest :=
        funext fun middle => behindIH
      rw [addMembers, addMembers, further]

section NodeCount

variable {start stop : NodeId} {depth : Nat} {ids : List NodeId}

theorem filter_hasNode_relation (declared : schema.property? shape name = some property)
    (isNavigable : property.isNavigable = true) :
    (visits schema shape ((name, .object members) :: rest)).filter (Visit.hasNode schema) =
      ⟨shape, name, .object members⟩ ::
        ((visits schema property.valueShape members).filter (Visit.hasNode schema) ++
          (visits schema shape rest).filter (Visit.hasNode schema)) := by
  have hasNode : Visit.hasNode schema ⟨shape, name, .object members⟩ = true := by
    rw [Visit.hasNode, declared]
    exact isNavigable
  obtain ⟨valueShape, isCollection, navigable⟩ := property
  cases isNavigable
  rw [visits, declared, List.filter_cons_of_pos hasNode, List.filter_append]

theorem filter_hasNode_skipped (declared : schema.property? shape name = some property)
    (notNavigable : property.isNavigable = false) :
    (visits schema shape ((name, .object members) :: rest)).filter (Visit.hasNode schema) =
      (visits schema shape rest).filter (Visit.hasNode schema) := by
  have noNode : ¬ Visit.hasNode schema ⟨shape, name, .object members⟩ = true := by
    rw [Visit.hasNode, declared]
    exact Bool.eq_false_iff.mp notNavigable
  obtain ⟨valueShape, isCollection, navigable⟩ := property
  cases notNavigable
  rw [visits, declared, List.filter_cons_of_neg noNode]
  rfl

theorem filter_hasNode_scalar (scalar : isScalar value = true) :
    (visits schema shape ((name, value) :: rest)).filter (Visit.hasNode schema) =
      ⟨shape, name, value⟩ :: (visits schema shape rest).filter (Visit.hasNode schema) := by
  have notObject (members : List (String × Value)) : value ≠ .object members := by
    rintro rfl
    cases scalar
  have hasNode : Visit.hasNode schema ⟨shape, name, value⟩ = true := by
    cases value with
    | object members => cases scalar
    | _ => rfl
  rw [visits, List.filter_cons_of_pos hasNode]
  exact notObject

theorem Depicts.stop_eq
    (depicts : Depicts schema tree parent depth shape members start stop ids) :
    stop = start + (visits schema shape members).countP (Visit.hasNode schema) := by
  simp only [List.countP_eq_length_filter]
  induction depicts with
  | nothing =>
      rw [visits]
      rfl
  | relation declared isNavigable found stands inside others insideIH othersIH =>
      rw [filter_hasNode_relation declared isNavigable, List.length_cons, List.length_append,
        othersIH, insideIH]
      ac_rfl
  | skipped declared notNavigable others othersIH =>
      rw [filter_hasNode_skipped declared notNavigable, othersIH]
  | scalar declared scalar asks found stands childless others othersIH =>
      rw [filter_hasNode_scalar scalar, List.length_cons, othersIH]
      ac_rfl

/-- The nodes stand in the order in which the members are come to, and the node of a scalar has
the condition that the scalar stands for. -/
theorem Depicts.get?_visit
    (depicts : Depicts schema tree parent depth shape members start stop ids) {index : Nat}
    {visit : Visit}
    (found : ((visits schema shape members).filter (Visit.hasNode schema))[index]? = some visit) :
    ∃ node, tree.get? (start + index) = some node ∧ node.fieldName = some visit.name ∧
      (isScalar visit.value = true →
        condition? visit.name visit.value = .ok node.leafPredicate) := by
  induction depicts generalizing index with
  | nothing =>
      rw [visits] at found
      cases found
  | @relation parent place middle stop depth shape name members rest property node ids declared
      isNavigable foundNode stands inside others insideIH othersIH =>
      rw [filter_hasNode_relation declared isNavigable] at found
      cases index with
      | zero =>
          cases found
          exact ⟨node, foundNode, stands.fieldName_eq, nofun⟩
      | succ index =>
          rw [List.getElem?_cons_succ] at found
          have countEq := inside.stop_eq
          rw [List.countP_eq_length_filter] at countEq
          by_cases isInside : index <
              ((visits schema property.valueShape members).filter (Visit.hasNode schema)).length
          · rw [List.getElem?_append_left isInside] at found
            have placeEq : place + (index + 1) = place + 1 + index := by ac_rfl
            rw [placeEq]
            exact insideIH found
          · obtain ⟨further, rfl⟩ := Nat.exists_eq_add_of_le (Nat.not_lt.mp isInside)
            rw [List.getElem?_append_right (Nat.le_add_right _ _), Nat.add_sub_cancel_left] at found
            obtain ⟨node, foundNode, facts⟩ := othersIH found
            refine ⟨node, ?_, facts⟩
            rw [← foundNode, countEq]
            congr 1
            ac_rfl
  | skipped declared notNavigable others othersIH =>
      rw [filter_hasNode_skipped declared notNavigable] at found
      exact othersIH found
  | @scalar parent place stop depth shape name value rest property condition node ids declared
      scalar asks foundNode stands childless others othersIH =>
      rw [filter_hasNode_scalar scalar] at found
      cases index with
      | zero =>
          cases found
          refine ⟨node, foundNode, stands.fieldName_eq, fun _ => ?_⟩
          rw [(asks_iff scalar).mp asks, stands.leafPredicate_eq]
      | succ index =>
          rw [List.getElem?_cons_succ] at found
          have placeEq : place + (index + 1) = place + 1 + index := by ac_rfl
          rw [placeEq]
          exact othersIH found

/-- Besides the root there is exactly one node for each member that has one. -/
theorem IsTreeOf.size_eq {query : List (String × Value)} {top : Node}
    (isTreeOf : IsTreeOf schema shape query tree top) :
    tree.size = 1 + (visits schema shape query).countP (Visit.hasNode schema) :=
  isTreeOf.depicts.stop_eq

end NodeCount

section PlanValue

variable {value : Value} {document : Document}

theorem planValue_of_read (read : ofValue value = .ok document) :
    planValue value shape schema = document.build shape schema := by
  rw [planValue, read]
  rfl

/-- The rows before the page that is wanted can be counted. -/
def IsInRange (document : Document) : Prop :=
  document.pageSize = 0 ∨ document.page.toNat * document.pageSize.toNat < Nat.pow 2 64

theorem not_isInRange_iff : ¬ document.IsInRange ↔
    document.pageSize ≠ 0 ∧ Nat.pow 2 64 ≤ document.page.toNat * document.pageSize.toNat := by
  rw [IsInRange, not_or, Nat.not_lt]

theorem build_of_inRange (inRange : document.IsInRange) :
    document.build shape schema =
      (addMembers schema Tree.root shape document.query (.ofRoot shape)).map fun tree =>
        ⟨tree.computePredicates, document.page, document.pageSize⟩ := by
  rw [build, if_neg (fun outside => not_isInRange_iff.mpr outside inRange)]
  cases addMembers schema Tree.root shape document.query (.ofRoot shape) with
  | ok tree => rfl
  | error failure => rfl

theorem exists_build_iff : (∃ plan, document.build shape schema = .ok plan) ↔
    document.IsInRange ∧ firstFault? schema shape document.query = none := by
  by_cases inRange : document.IsInRange
  · obtain ⟨succeeds, fails⟩ := @addMembers_firstFault? schema Tree.root shape document.query
      (.ofRoot shape)
    rw [build_of_inRange inRange]
    cases fault : firstFault? schema shape document.query with
    | none =>
        obtain ⟨tree, added⟩ := succeeds fault
        rw [added]
        exact iff_of_true ⟨_, rfl⟩ ⟨inRange, rfl⟩
    | some failure =>
        rw [fails failure fault]
        apply iff_of_false
        · rintro ⟨_, ⟨⟩⟩
        · rintro ⟨_, ⟨⟩⟩
  · rw [build, if_pos (not_isInRange_iff.mp inRange)]
    apply iff_of_false
    · rintro ⟨_, ⟨⟩⟩
    · rintro ⟨isInRange, _⟩
      exact inRange isInRange

/-- A document with a page in range is planned exactly if its query can be read.  Then the tree of
the plan stands for the query, otherwise the fault is that of the first member that cannot be
read.  What is inside objects on properties that are no relations makes no difference. -/
theorem planValue_translates (read : ofValue value = .ok document)
    (inRange : document.IsInRange) :
    ((∃ plan, planValue value shape schema = .ok plan) ↔
      IsReadable schema shape document.query) ∧
    (∀ plan, planValue value shape schema = .ok plan →
      ∃ top, IsTreeOf schema shape document.query plan.tree top) ∧
    (∀ failure, planValue value shape schema = .error failure ↔
      HasFirstFault schema shape document.query failure) ∧
    ∀ other query, ofValue other = .ok { document with query } →
      SameVisits schema shape document.query query →
        planValue other shape schema = planValue value shape schema := by
  have planned : planValue value shape schema = document.build shape schema :=
    planValue_of_read read
  obtain ⟨succeeds, fails⟩ := @addMembers_firstFault? schema Tree.root shape document.query
    (.ofRoot shape)
  refine ⟨?_, ?_, ?_, ?_⟩
  · rw [planned, exists_build_iff, ← firstFault?_eq_none_iff]
    exact and_iff_right inRange
  · intro plan built
    exact exists_isTreeOf_of_build (planned.symm.trans built)
  · intro failure
    rw [planned, build_of_inRange inRange, ← firstFault?_eq_some_iff]
    cases fault : firstFault? schema shape document.query with
    | none =>
        obtain ⟨tree, added⟩ := succeeds fault
        rw [added]
        apply iff_of_false
        · rintro ⟨⟩
        · rintro ⟨⟩
    | some first =>
        rw [fails first fault]
        exact ⟨fun given => congrArg some (Except.error.inj given),
          fun given => congrArg Except.error (Option.some.inj given)⟩
  · intro other query readOther same
    have builtOther := @build_of_inRange schema shape { document with query } inRange
    rw [planned, planValue_of_read readOther, build_of_inRange inRange, builtOther,
      same.addMembers_eq]

theorem planValue_translates_orders :
    ofValue (.object [("query", .object ordersQuery)]) = .ok ⟨none, ordersQuery, 0, 0⟩ ∧
      IsReadable orders "order" ordersQuery ∧
      ∃ top, IsTreeOf orders "order" ordersQuery ordersPlan.tree top := by
  have read : ofValue (.object [("query", .object ordersQuery)]) =
      .ok ⟨none, ordersQuery, 0, 0⟩ := rfl
  have translates := @planValue_translates orders "order" _ _ read (.inl rfl)
  exact ⟨read, translates.1.mp ⟨ordersPlan, planValue_orders⟩,
    translates.2.1 ordersPlan planValue_orders⟩

end PlanValue

end QueryPlanner.Document
