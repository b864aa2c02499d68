import QueryPlanner.Proofs.Plan.Acceptance

/-!
# Why a document is refused

A document is refused for the page that it asks for, or else for the first member of its query that
cannot be read.  What is wrong with a member is its own: the field that it names is not declared, it
is an array, or its condition does not compile.  A text that is no document is refused before that.
-/

namespace QueryPlanner.Document

open QueryPlanner.Json QueryPlanner.Plan QueryPlanner.Schema

/-- Relations lead from shapes of some kind to shapes of this kind only. -/
def IsClosed (schema : Provider) (shapes : String → Prop) : Prop :=
  ∀ shape name property, shapes shape → schema.property? shape name = some property →
    property.isNavigable = true → shapes property.valueShape

variable {schema : Provider} {shape name field : String} {members : List (String × Value)}
  {visit : Visit} {failure : Failure} {document : Document}
  {shapes : String → Prop} {page pageSize : UInt64}

theorem HasFirstFault.exists_visit (fault : HasFirstFault schema shape members failure) :
    ∃ visit ∈ visits schema shape members, visit.HasFault schema failure := by
  obtain ⟨front, visit, rest, visited, _, hasFault⟩ := fault
  exact ⟨visit, visited ▸ List.mem_append_right _ List.mem_cons_self, hasFault⟩

theorem IsClosed.of_mem_visits (closed : IsClosed schema shapes) (start : shapes shape)
    (isVisit : visit ∈ visits schema shape members) : shapes visit.shape := by
  induction shape, members using visits.induct with
  | case1 shape =>
      rw [visits] at isVisit
      cases isVisit
  | case2 shape name members rest membersIH restIH =>
      rw [visits] at isVisit
      rcases List.mem_cons.mp isVisit with rfl | further
      · exact start
      · rcases List.mem_append.mp further with isInside | isBehind
        · split at isInside
          next valueShape isCollection declared =>
            exact membersIH valueShape (closed _ _ _ start declared rfl) isInside
          next => cases isInside
        · exact restIH start isBehind
  | case3 shape name value rest notObject restIH =>
      rw [visits] at isVisit
      · rcases List.mem_cons.mp isVisit with rfl | isBehind
        · exact start
        · exact restIH start isBehind
      · exact notObject

theorem addMembers_error_iff {parent : NodeId} {tree : Tree} :
    addMembers schema parent shape members tree = .error failure ↔
      HasFirstFault schema shape members failure := by
  rw [← firstFault?_eq_some_iff]
  obtain ⟨succeeds, fails⟩ := @addMembers_firstFault? schema parent shape members tree
  constructor
  · intro refused
    cases fault : firstFault? schema shape members with
    | none =>
        obtain ⟨after, added⟩ := succeeds fault
        rw [refused] at added
        cases added
    | some first =>
        rw [fails first fault] at refused
        cases refused
        rfl
  · exact fails failure

theorem build_error_iff : document.build shape schema = .error failure ↔
    (¬ document.IsInRange ∧
        failure = .malformedDocument (.pageOutOfRange document.page document.pageSize)) ∨
      document.IsInRange ∧ HasFirstFault schema shape document.query failure := by
  by_cases inRange : document.IsInRange
  · rw [build_of_inRange inRange, or_iff_right (fun outside => outside.1 inRange),
      and_iff_right inRange, ← addMembers_error_iff]
    constructor
    · exact error_of_map_error
    · intro refused
      rw [refused]
      rfl
  · rw [build, if_pos (not_isInRange_iff.mp inRange), or_iff_left (fun inside => inRange inside.1),
      and_iff_right inRange]
    exact ⟨fun given => (Except.error.inj given).symm, fun same => congrArg Except.error same.symm⟩

theorem Visit.HasFault.ne_pageOutOfRange (fault : visit.HasFault schema failure) :
    failure ≠ .malformedDocument (.pageOutOfRange page pageSize) := by
  cases fault with
  | unknownField => exact nofun
  | arrayValue => exact nofun
  | malformedCondition => exact nofun
  | unsupportedCondition => exact nofun

/-- The page is the fault exactly if a page size is given and the rows before the page cannot be
counted in 64 bits. -/
theorem build_pageOutOfRange_iff :
    document.build shape schema = .error (.malformedDocument (.pageOutOfRange page pageSize)) ↔
      ¬ document.IsInRange ∧ page = document.page ∧ pageSize = document.pageSize := by
  rw [build_error_iff]
  constructor
  · rintro (⟨outside, same⟩ | ⟨_, fault⟩)
    · cases same
      exact ⟨outside, rfl, rfl⟩
    · obtain ⟨visit, _, hasFault⟩ := fault.exists_visit
      exact absurd rfl hasFault.ne_pageOutOfRange
  · rintro ⟨outside, rfl, rfl⟩
    exact .inl ⟨outside, rfl⟩

theorem Visit.HasFault.eq_of_unknownField
    (fault : visit.HasFault schema (.unknownField shape field)) :
    visit.shape = shape ∧ visit.name = field ∧ schema.property? shape field = none := by
  generalize isUnknown : Failure.unknownField shape field = failure at fault
  cases fault with
  | unknownField undeclared =>
      cases isUnknown
      exact ⟨rfl, rfl, undeclared⟩
  | arrayValue => cases isUnknown
  | malformedCondition => cases isUnknown
  | unsupportedCondition => cases isUnknown

/-- A field that a document is refused for is one that its shape does not have, and this is a shape
of any kind that the outermost rows are of and relations do not leave. -/
theorem IsClosed.of_unknownField {root : String} (closed : IsClosed schema shapes)
    (start : shapes root)
    (refused : document.build root schema = .error (.unknownField shape field)) :
    shapes shape ∧ schema.property? shape field = none := by
  rcases build_error_iff.mp refused with ⟨_, isPage⟩ | ⟨_, fault⟩
  · cases isPage
  · obtain ⟨visit, isVisit, hasFault⟩ := fault.exists_visit
    obtain ⟨rfl, rfl, undeclared⟩ := hasFault.eq_of_unknownField
    exact ⟨closed.of_mem_visits start isVisit, undeclared⟩

theorem parseJson_ne_unknownField {text : String} :
    parseJson text ≠ .error (.unknownField shape field) := by
  unfold parseJson
  split
  next => exact nofun
  next =>
    split
    next => exact nofun
    next => exact nofun

section Texts

/-- The shape of the outermost rows: the one that is asked for, or else the one that the document's
type means. -/
inductive IsRoot (schema : Provider) (document : Document) : Option String → String → Prop where
  | asked {root : String} : IsRoot schema document (some root) root
  | named {typeName root : String} (isNamed : document.typeName = some typeName)
      (means : schema.shape? typeName = some root) : IsRoot schema document none root

/-- What comes of planning a text: it is no JSON, or else no document, or else its outermost rows
have no shape, or else its page is out of range, or else one of its members is the first that is
bad, or else there is a plan. -/
inductive Plans (schema : Provider) (text : String) :
    Option String → Except Failure QueryPlan → Prop where
  | notJson {asked : Option String} {failure : Failure}
      (refused : parseJson text = .error failure) : Plans schema text asked (.error failure)
  | notDocument {asked : Option String} {value : Value} {cause : Structure}
      (parsed : parseJson text = .ok value) (refused : ofValue value = .error cause) :
      Plans schema text asked (.error (.malformedDocument cause))
  | noType {value : Value} {document : Document} (parsed : parseJson text = .ok value)
      (read : ofValue value = .ok document) (unnamed : document.typeName = none) :
      Plans schema text none (.error (.malformedDocument .missingType))
  | unresolvedType {value : Value} {document : Document} {typeName : String}
      (parsed : parseJson text = .ok value) (read : ofValue value = .ok document)
      (isNamed : document.typeName = some typeName) (unknown : schema.shape? typeName = none) :
      Plans schema text none (.error (.unresolvedType typeName))
  | pageOutOfRange {asked : Option String} {value : Value} {document : Document} {root : String}
      (parsed : parseJson text = .ok value) (read : ofValue value = .ok document)
      (isRoot : IsRoot schema document asked root) (outside : ¬ document.IsInRange) :
      Plans schema text asked
        (.error (.malformedDocument (.pageOutOfRange document.page document.pageSize)))
  | badMember {asked : Option String} {value : Value} {document : Document} {root : String}
      {failure : Failure} (parsed : parseJson text = .ok value)
      (read : ofValue value = .ok document) (isRoot : IsRoot schema document asked root)
      (inRange : document.IsInRange) (fault : HasFirstFault schema root document.query failure) :
      Plans schema text asked (.error failure)
  | planned {asked : Option String} {value : Value} {document : Document} {root : String}
      {plan : QueryPlan} (parsed : parseJson text = .ok value)
      (read : ofValue value = .ok document) (isRoot : IsRoot schema document asked root)
      (built : document.build root schema = .ok plan) : Plans schema text asked (.ok plan)

def planFor (asked : Option String) (text : String) (schema : Provider) :
    Except Failure QueryPlan :=
  match asked with
  | none => plan text schema
  | some root => planAs text root schema

variable {asked : Option String} {text root typeName : String} {value : Value} {cause : Structure}

theorem planFor_of_notJson (refused : parseJson text = .error failure) :
    planFor asked text schema = .error failure := by
  cases asked with
  | none =>
      rw [planFor, plan, refused]
      rfl
  | some root =>
      rw [planFor, planAs, refused]
      rfl

theorem planFor_of_notDocument (parsed : parseJson text = .ok value)
    (refused : ofValue value = .error cause) :
    planFor asked text schema = .error (.malformedDocument cause) := by
  cases asked with
  | none =>
      rw [planFor, plan, parsed]
      change (ofValue value).mapError Failure.malformedDocument >>= _ = _
      rw [refused]
      rfl
  | some root =>
      rw [planFor, planAs, parsed]
      change planValue value root schema = _
      rw [planValue, refused]
      rfl

theorem planFor_none_of_read (parsed : parseJson text = .ok value)
    (read : ofValue value = .ok document) :
    planFor none text schema =
      match document.typeName with
      | none => .error (.malformedDocument .missingType)
      | some typeName =>
          match schema.shape? typeName with
          | none => .error (.unresolvedType typeName)
          | some root => document.build root schema := by
  rw [planFor, plan, parsed]
  change (ofValue value).mapError Failure.malformedDocument >>= _ = _
  rw [read]
  rfl

theorem planFor_of_isRoot (parsed : parseJson text = .ok value)
    (read : ofValue value = .ok document) (isRoot : IsRoot schema document asked root) :
    planFor asked text schema = document.build root schema := by
  cases isRoot with
  | asked =>
      rw [planFor, planAs, parsed]
      exact planValue_of_read read
  | named isNamed means =>
      rw [planFor_none_of_read parsed read, isNamed]
      dsimp only
      rw [means]

theorem plans_build (parsed : parseJson text = .ok value) (read : ofValue value = .ok document)
    (isRoot : IsRoot schema document asked root) :
    Plans schema text asked (document.build root schema) := by
  cases built : document.build root schema with
  | ok plan => exact .planned parsed read isRoot built
  | error failure =>
      rcases build_error_iff.mp built with ⟨outside, rfl⟩ | ⟨inRange, fault⟩
      · exact .pageOutOfRange parsed read isRoot outside
      · exact .badMember parsed read isRoot inRange fault

theorem plans_planFor : Plans schema text asked (planFor asked text schema) := by
  cases parsed : parseJson text with
  | error failure =>
      rw [planFor_of_notJson parsed]
      exact .notJson parsed
  | ok value =>
      cases read : ofValue value with
      | error cause =>
          rw [planFor_of_notDocument parsed read]
          exact .notDocument parsed read
      | ok document =>
          cases asked with
          | some root =>
              rw [planFor_of_isRoot parsed read .asked]
              exact plans_build parsed read .asked
          | none =>
              rw [planFor_none_of_read parsed read]
              split
              next unnamed => exact .noType parsed read unnamed
              next typeName isNamed =>
                split
                next unknown => exact .unresolvedType parsed read isNamed unknown
                next root means => exact plans_build parsed read (.named isNamed means)

theorem plans_iff {outcome : Except Failure QueryPlan} :
    Plans schema text asked outcome ↔ planFor asked text schema = outcome := by
  constructor
  · intro plans
    cases plans with
    | notJson refused => exact planFor_of_notJson refused
    | notDocument parsed refused => exact planFor_of_notDocument parsed refused
    | noType parsed read unnamed => rw [planFor_none_of_read parsed read, unnamed]
    | unresolvedType parsed read isNamed unknown =>
        rw [planFor_none_of_read parsed read, isNamed]
        dsimp only
        rw [unknown]
    | pageOutOfRange parsed read isRoot outside =>
        rw [planFor_of_isRoot parsed read isRoot]
        exact build_error_iff.mpr (.inl ⟨outside, rfl⟩)
    | badMember parsed read isRoot inRange fault =>
        rw [planFor_of_isRoot parsed read isRoot]
        exact build_error_iff.mpr (.inr ⟨inRange, fault⟩)
    | planned parsed read isRoot built => exact (planFor_of_isRoot parsed read isRoot).trans built
  · rintro rfl
    exact plans_planFor

/-- A text that is refused for a field holds a document that is refused for it on the shape that its
type means. -/
theorem exists_build_of_plan (refused : plan text schema = .error (.unknownField shape field)) :
    ∃ (document : Document) (typeName root : String), schema.shape? typeName = some root ∧
      document.build root schema = .error (.unknownField shape field) := by
  have plans : Plans schema text none _ := plans_iff.mpr refused
  cases plans with
  | notJson notJson => exact absurd notJson parseJson_ne_unknownField
  | badMember parsed read isRoot inRange fault =>
      cases isRoot with
      | named isNamed means =>
          exact ⟨_, _, _, means, build_error_iff.mpr (.inr ⟨inRange, fault⟩)⟩

end Texts

end QueryPlanner.Document
