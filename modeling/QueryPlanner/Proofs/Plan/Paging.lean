import QueryPlanner.Proofs.Plan.Faults
import QueryPlanner.Proofs.Plan.Order

/-!
# The keys of a document and its page

A value is a document if it is an object with no other keys than the four, in any case, each once
and with a value of its kind.  Each key sets what it is for, and what no key sets stays as it is
without one.  The guard against pages out of range and the product that saturates agree: a plan
passes over exactly as many rows as there are before its page.
-/

namespace QueryPlanner.Document

open QueryPlanner.Json QueryPlanner.Plan QueryPlanner.Schema QueryPlanner.Text

/-- The kind of values that a key has. -/
def Key.Takes : Key → Value → Prop
  | type, value => ∃ typeName, value = .string typeName
  | query, value => ∃ members, value = .object members
  | page, value => ∃ n, value = .number (.unsigned n)
  | pageSize, value => ∃ n, value = .number (.unsigned n)

/-- One of the members has a key, in any case, with a value. -/
def Gives (members : List (String × Value)) (key : Key) (value : Value) : Prop :=
  ∃ name, (name, value) ∈ members ∧ lowercase name.toList = key.name

/-- A count is the one that is given, or zero if there is none. -/
def IsCount (members : List (String × Value)) (key : Key) (n : UInt64) : Prop :=
  Gives members key (.number (.unsigned n)) ∨ (∀ value, ¬ Gives members key value) ∧ n = 0

/-- The members of a document at its outermost level. -/
structure IsTopLevel (members : List (String × Value)) : Prop where
  distinct : (members.map fun member => lowercase member.1.toList).Nodup
  known : ∀ name value, (name, value) ∈ members → ∃ key : Key, lowercase name.toList = key.name
  takes : ∀ key value, Gives members key value → key.Takes value
  asks : ∃ value, Gives members .query value

/-- A document says what the members give, and counts that are not given are zero. -/
structure IsGivenBy (document : Document) (members : List (String × Value)) : Prop where
  typeName_iff : ∀ typeName, document.typeName = some typeName ↔
    Gives members .type (.string typeName)
  query : Gives members .query (.object document.query)
  page : IsCount members .page document.page
  pageSize : IsCount members .pageSize document.pageSize

/-- A member has one of the keys and a value of its kind. -/
def IsFit (member : String × Value) : Prop :=
  ∃ key : Key, lowercase member.1.toList = key.name ∧ key.Takes member.2

/-- Members that can be read when some keys have come before: no key comes twice, and all are fit. -/
structure AreReadable (seen : List (List Char)) (members : List (String × Value)) : Prop where
  areNew : ∀ member ∈ members, lowercase member.1.toList ∉ seen
  distinct : (members.map fun member => lowercase member.1.toList).Nodup
  areFit : ∀ member ∈ members, IsFit member

/-- What has been read for a key. -/
def Draft.get (draft : Draft) : Key → Option Value
  | .type => draft.typeName.map .string
  | .query => draft.query.map .object
  | .page => some (.number (.unsigned draft.page))
  | .pageSize => some (.number (.unsigned draft.pageSize))

variable {draft next last : Draft} {key other : Key} {name : String} {value otherValue : Value}
  {member : String × Value} {members rest : List (String × Value)} {seen : List (List Char)}
  {document : Document} {schema : Provider} {shape : String} {plan : QueryPlan}

section Keys

theorem key?_eq_some_iff {lowered : List Char} : key? lowered = some key ↔ lowered = key.name := by
  constructor
  · exact eq_name_of_key?
  · rintro rfl
    cases key with
    | type => rfl
    | query => rfl
    | page => rfl
    | pageSize => rfl

theorem Key.eq_of_name_eq (same : key.name = other.name) : key = other :=
  Option.some.inj ((key?_eq_some_iff.mpr rfl).symm.trans (key?_eq_some_iff.mpr same))

theorem Draft.exists_sets_iff : (∃ next, draft.Sets key value next) ↔ key.Takes value := by
  constructor
  · rintro ⟨next, sets⟩
    cases sets with
    | type => exact ⟨_, rfl⟩
    | query => exact ⟨_, rfl⟩
    | page => exact ⟨_, rfl⟩
    | pageSize => exact ⟨_, rfl⟩
  · intro takes
    cases key with
    | type =>
        obtain ⟨typeName, rfl⟩ := takes
        exact ⟨_, .type⟩
    | query =>
        obtain ⟨members, rfl⟩ := takes
        exact ⟨_, .query⟩
    | page =>
        obtain ⟨n, rfl⟩ := takes
        exact ⟨_, .page⟩
    | pageSize =>
        obtain ⟨n, rfl⟩ := takes
        exact ⟨_, .pageSize⟩

theorem Draft.Sets.get_self (sets : draft.Sets key value next) : next.get key = some value := by
  cases sets with
  | type => rfl
  | query => rfl
  | page => rfl
  | pageSize => rfl

theorem Draft.Sets.get_of_ne (sets : draft.Sets key value next) (differ : other ≠ key) :
    next.get other = draft.get other := by
  cases sets <;> cases other
  all_goals first
    | exact absurd rfl differ
    | rfl

end Keys

section Members

theorem gives_cons_iff : Gives ((name, value) :: rest) key otherValue ↔
    (lowercase name.toList = key.name ∧ otherValue = value) ∨ Gives rest key otherValue := by
  simp only [Gives, List.mem_cons, Prod.mk.injEq]
  constructor
  · rintro ⟨other, ⟨rfl, rfl⟩ | further, isKey⟩
    · exact .inl ⟨isKey, rfl⟩
    · exact .inr ⟨other, further, isKey⟩
  · rintro (⟨isKey, rfl⟩ | ⟨other, further, isKey⟩)
    · exact ⟨name, .inl ⟨rfl, rfl⟩, isKey⟩
    · exact ⟨other, .inr further, isKey⟩

theorem areReadable_cons_iff : AreReadable seen ((name, value) :: rest) ↔
    lowercase name.toList ∉ seen ∧ IsFit (name, value) ∧
      AreReadable (lowercase name.toList :: seen) rest := by
  constructor
  · rintro ⟨areNew, distinct, areFit⟩
    obtain ⟨isNew, restNew⟩ := List.forall_mem_cons.mp areNew
    obtain ⟨isFit, restFit⟩ := List.forall_mem_cons.mp areFit
    obtain ⟨onlyHere, restDistinct⟩ := List.nodup_cons.mp distinct
    refine ⟨isNew, isFit, ?_, restDistinct, restFit⟩
    intro member isMember isOld
    rcases List.mem_cons.mp isOld with isHere | wasBefore
    · exact onlyHere (List.mem_map.mpr ⟨member, isMember, isHere⟩)
    · exact restNew member isMember wasBefore
  · rintro ⟨isNew, isFit, restNew, restDistinct, restFit⟩
    refine ⟨?_, ?_, List.forall_mem_cons.mpr ⟨isFit, restFit⟩⟩
    · intro member isMember wasBefore
      rcases List.mem_cons.mp isMember with rfl | further
      · exact isNew wasBefore
      · exact restNew member further (List.mem_cons_of_mem _ wasBefore)
    · apply List.nodup_cons.mpr ⟨?_, restDistinct⟩
      intro isThere
      obtain ⟨member, isMember, isHere⟩ := List.mem_map.mp isThere
      exact restNew member isMember (List.mem_cons.mpr (.inl isHere))

theorem exists_readMembers_iff :
    (∃ last, readMembers seen draft members = .ok last) ↔ AreReadable seen members := by
  induction members generalizing seen draft with
  | nil => exact iff_of_true ⟨draft, by rw [readMembers]⟩ ⟨nofun, List.nodup_nil, nofun⟩
  | cons member rest inductionHypothesis =>
      obtain ⟨name, value⟩ := member
      simp only [areReadable_cons_iff, readMembers_cons_ok_iff, key?_eq_some_iff]
      constructor
      · rintro ⟨last, isNew, key, next, isKey, sets, readRest⟩
        exact ⟨isNew, ⟨key, isKey, Draft.exists_sets_iff.mp ⟨next, sets⟩⟩,
          inductionHypothesis.mp ⟨last, readRest⟩⟩
      · rintro ⟨isNew, ⟨key, isKey, takes⟩, restReadable⟩
        obtain ⟨next, sets⟩ := (@Draft.exists_sets_iff draft key value).mpr takes
        obtain ⟨last, readRest⟩ := (@inductionHypothesis next _).mpr restReadable
        exact ⟨last, isNew, key, next, isKey, sets, readRest⟩

/-- What is read for a key is what a member gives, and otherwise what there was before. -/
theorem get_of_readMembers (read : readMembers seen draft members = .ok last) :
    (∀ value, Gives members key value → last.get key = some value) ∧
      ((∀ value, ¬ Gives members key value) → last.get key = draft.get key) := by
  induction members generalizing seen draft with
  | nil =>
      rw [readMembers] at read
      cases read
      refine ⟨?_, fun _ => rfl⟩
      rintro value ⟨name, isMember, _⟩
      cases isMember
  | cons member rest inductionHypothesis =>
      obtain ⟨name, value⟩ := member
      obtain ⟨isNew, here, next, isHere, sets, readRest⟩ := readMembers_cons_ok_iff.mp read
      obtain ⟨given, notGiven⟩ := inductionHypothesis readRest
      have hereEq : lowercase name.toList = here.name := eq_name_of_key? isHere
      simp only [gives_cons_iff]
      constructor
      · rintro otherValue (⟨isKey, rfl⟩ | further)
        · cases Key.eq_of_name_eq (hereEq.symm.trans isKey)
          -- The key came before the other members, so none of them sets it again.
          have notAgain (value : Value) : ¬ Gives rest key value := by
            rintro ⟨other, isMember, sameKey⟩
            apply (exists_readMembers_iff.mp ⟨last, readRest⟩).areNew (other, value) isMember
            rw [sameKey, hereEq]
            exact List.mem_cons_self
          rw [notGiven notAgain]
          exact sets.get_self
        · exact given otherValue further
      · intro noneGiven
        rw [notGiven fun value further => noneGiven value (.inr further)]
        apply sets.get_of_ne
        rintro rfl
        exact noneGiven value (.inl ⟨hereEq, rfl⟩)

theorem get_eq_some_iff (read : readMembers seen draft members = .ok last) :
    last.get key = some value ↔
      Gives members key value ∨
        (∀ value, ¬ Gives members key value) ∧ draft.get key = some value := by
  obtain ⟨given, notGiven⟩ := @get_of_readMembers draft last key members seen read
  by_cases isGiven : ∃ value, Gives members key value
  · obtain ⟨found, gives⟩ := isGiven
    rw [given found gives]
    constructor
    · rintro ⟨⟩
      exact .inl gives
    · rintro (givesToo | ⟨noneGiven, _⟩)
      · exact (given found gives).symm.trans (given value givesToo)
      · exact absurd gives (noneGiven found)
  · have noneGiven : ∀ value, ¬ Gives members key value := not_exists.mp isGiven
    rw [notGiven noneGiven, or_iff_right (noneGiven value)]
    exact (and_iff_right noneGiven).symm

theorem isTopLevel_iff :
    IsTopLevel members ↔ AreReadable [] members ∧ ∃ value, Gives members .query value := by
  constructor
  · rintro ⟨distinct, known, takes, asks⟩
    refine ⟨⟨fun _ _ => List.not_mem_nil, distinct, ?_⟩, asks⟩
    rintro ⟨name, value⟩ isMember
    obtain ⟨key, isKey⟩ := known name value isMember
    exact ⟨key, isKey, takes key value ⟨name, isMember, isKey⟩⟩
  · rintro ⟨⟨_, distinct, areFit⟩, asks⟩
    refine ⟨distinct, ?_, ?_, asks⟩
    · intro name value isMember
      obtain ⟨key, isKey, _⟩ := areFit (name, value) isMember
      exact ⟨key, isKey⟩
    · rintro key value ⟨name, isMember, isKey⟩
      obtain ⟨other, isOther, takes⟩ := areFit (name, value) isMember
      cases Key.eq_of_name_eq (isKey.symm.trans isOther)
      exact takes

end Members

section TopLevel

theorem exists_ofValue_object_iff :
    (∃ document, ofValue (.object members) = .ok document) ↔ IsTopLevel members := by
  rw [isTopLevel_iff, ← @exists_readMembers_iff {}]
  constructor
  · rintro ⟨document, read⟩
    obtain ⟨draft, query, readAll, queryEq, _⟩ := ofValue_object_ok_iff.mp read
    refine ⟨⟨draft, readAll⟩, ?_⟩
    by_contra notAsked
    have unset := (@get_of_readMembers {} draft .query members [] readAll).2
      (not_exists.mp notAsked)
    rw [Draft.get, queryEq] at unset
    cases unset
  · rintro ⟨⟨draft, readAll⟩, value, asks⟩
    have set := (@get_of_readMembers {} draft .query members [] readAll).1 value asks
    obtain ⟨query, queryEq, _⟩ := Option.map_eq_some_iff.mp set
    exact ⟨_, ofValue_object_ok_iff.mpr ⟨draft, query, readAll, queryEq, rfl⟩⟩

theorem exists_ofValue_iff : (∃ document, ofValue value = .ok document) ↔
    ∃ members, value = .object members ∧ IsTopLevel members := by
  constructor
  · rintro ⟨document, read⟩
    cases value with
    | object members => exact ⟨members, rfl, exists_ofValue_object_iff.mp ⟨document, read⟩⟩
    | _ => cases read
  · rintro ⟨members, rfl, isTopLevel⟩
    exact exists_ofValue_object_iff.mpr isTopLevel

theorem isGivenBy_of_ofValue (read : ofValue (.object members) = .ok document) :
    document.IsGivenBy members := by
  obtain ⟨draft, query, readAll, queryEq, rfl⟩ := ofValue_object_ok_iff.mp read
  have get_iff (key : Key) (value : Value) : draft.get key = some value ↔
      Gives members key value ∨
        (∀ value, ¬ Gives members key value) ∧ Draft.get {} key = some value :=
    get_eq_some_iff readAll
  have count {n : UInt64} {key : Key} (unset : Draft.get {} key = some (.number (.unsigned 0)))
      (isCount : draft.get key = some (.number (.unsigned n))) : IsCount members key n := by
    rcases (get_iff key _).mp isCount with gives | ⟨noneGiven, isZero⟩
    · exact .inl gives
    · rw [unset] at isZero
      cases isZero
      exact .inr ⟨noneGiven, rfl⟩
  refine ⟨?_, ?_, count rfl rfl, count rfl rfl⟩
  · intro typeName
    have isType : draft.typeName = some typeName ↔ draft.get .type = some (.string typeName) := by
      simp [Draft.get]
    rw [isType, get_iff]
    apply or_iff_left
    rintro ⟨_, ⟨⟩⟩
  · have isQuery : draft.get .query = some (.object query) := by rw [Draft.get, queryEq]; rfl
    rcases (get_iff _ _).mp isQuery with gives | ⟨_, unset⟩
    · exact gives
    · cases unset

end TopLevel

section Page

theorem saturatingMul_toNat {left right : UInt64} (fits : left.toNat * right.toNat < Nat.pow 2 64) :
    (saturatingMul left right).toNat = left.toNat * right.toNat := by
  have notMore : left.toNat * right.toNat ≤ Nat.pow 2 64 - 1 := Nat.le_sub_one_of_lt fits
  unfold saturatingMul
  rw [Nat.min_eq_left notMore]
  exact UInt64.toNat_ofNat_of_lt' fits

/-- A plan is paged if its document has a page size, and then it passes over the rows of the pages
before. -/
theorem paging_of_build (built : document.build shape schema = .ok plan) :
    (plan.paging = none ↔ document.pageSize = 0) ∧
      (document.pageSize ≠ 0 → ∃ skip, plan.paging = some ⟨skip, document.pageSize⟩ ∧
        skip.toNat = document.page.toNat * document.pageSize.toNat) := by
  obtain ⟨page, pageSize⟩ := page_of_build built
  rw [QueryPlan.paging, page, pageSize]
  by_cases unpaged : document.pageSize = 0
  · exact ⟨iff_of_true (if_pos unpaged) unpaged, fun paged => absurd unpaged paged⟩
  · rw [if_neg unpaged]
    refine ⟨iff_of_false (Option.some_ne_none _) unpaged, fun _ => ⟨_, rfl, ?_⟩⟩
    have inRange := (exists_build_iff.mp ⟨plan, built⟩).1
    exact saturatingMul_toNat (inRange.resolve_left unpaged)

end Page

/-- A value is a document exactly if it is an object whose keys are the four, in any case, with none
twice, whose query is an object, and whose type and counts, if given, are a string and whole
numbers of 64 bits.  Then it says what the members give.  A plan is refused for its page exactly if
a page size is given and the rows of the pages before are too many for 64 bits, and a plan that is
built passes over exactly these rows and takes a page, or all rows if no page size is given. -/
theorem documents_read_and_paged_exactly (value : Value) :
    ((∃ document, ofValue value = .ok document) ↔
      ∃ members, value = .object members ∧ IsTopLevel members) ∧
    ∀ document, ofValue value = .ok document →
      (∃ members, value = .object members ∧ document.IsGivenBy members) ∧
      ∀ shape schema,
        (∀ page pageSize, document.build shape schema =
            .error (.malformedDocument (.pageOutOfRange page pageSize)) ↔
          page = document.page ∧ pageSize = document.pageSize ∧
            0 < pageSize ∧ Nat.pow 2 64 ≤ page.toNat * pageSize.toNat) ∧
        ∀ plan, document.build shape schema = .ok plan →
          (plan.paging = none ↔ document.pageSize = 0) ∧
          (document.pageSize ≠ 0 → ∃ skip, plan.paging = some ⟨skip, document.pageSize⟩ ∧
            skip.toNat = document.page.toNat * document.pageSize.toNat) := by
  refine ⟨exists_ofValue_iff, ?_⟩
  intro document read
  obtain ⟨members, rfl, _⟩ := exists_ofValue_iff.mp ⟨document, read⟩
  refine ⟨⟨members, rfl, isGivenBy_of_ofValue read⟩, ?_⟩
  intro shape schema
  refine ⟨?_, fun plan built => paging_of_build built⟩
  intro page pageSize
  rw [build_pageOutOfRange_iff, not_isInRange_iff]
  constructor
  · rintro ⟨⟨paged, tooFar⟩, rfl, rfl⟩
    exact ⟨rfl, rfl, UInt64.pos_iff_ne_zero.mpr paged, tooFar⟩
  · rintro ⟨rfl, rfl, paged, tooFar⟩
    exact ⟨⟨UInt64.pos_iff_ne_zero.mp paged, tooFar⟩, rfl, rfl⟩

/-- The first page of this size that is out of range. -/
theorem documents_read_and_paged_exactly_tooFar :
    ofValue (.object [("PAGE", .number (.unsigned 4294967296)), ("query", .object []),
        ("pageSize", .number (.unsigned 4294967296))]) =
      .ok ⟨none, [], 4294967296, 4294967296⟩ ∧
    (⟨none, [], 4294967296, 4294967296⟩ : Document).build "order" orders =
      .error (.malformedDocument (.pageOutOfRange 4294967296 4294967296)) := by
  have read : ofValue (.object [("PAGE", .number (.unsigned 4294967296)), ("query", .object []),
      ("pageSize", .number (.unsigned 4294967296))]) =
        .ok ⟨none, [], 4294967296, 4294967296⟩ := rfl
  have paged := ((documents_read_and_paged_exactly _).2 _ read).2 "order" orders
  exact ⟨read, (paged.1 _ _).mpr ⟨rfl, rfl, by decide, by decide⟩⟩

end QueryPlanner.Document
