import QueryPlanner.Proofs.Plan.Rearrangement

/-!
# Documents and the order of their members

The members of a document are for different keys, so each sets another part of what is read.  The
order in which they stand makes no difference, and if something inside one of them is rearranged,
the query that is read is rearranged.
-/

namespace QueryPlanner.Document

open QueryPlanner.Json QueryPlanner.Text

def Key.name : Key → List Char
  | type => ['t', 'y', 'p', 'e']
  | query => ['q', 'u', 'e', 'r', 'y']
  | page => ['p', 'a', 'g', 'e']
  | pageSize => ['p', 'a', 'g', 'e', 's', 'i', 'z', 'e']

/-- What the value of a key sets. -/
inductive Draft.Sets : Draft → Key → Value → Draft → Prop where
  | type {draft : Draft} {typeName : String} :
      Sets draft .type (.string typeName) { draft with typeName := some typeName }
  | query {draft : Draft} {members : List (String × Value)} :
      Sets draft .query (.object members) { draft with query := some members }
  | page {draft : Draft} {n : UInt64} :
      Sets draft .page (.number (.unsigned n)) { draft with page := n }
  | pageSize {draft : Draft} {n : UInt64} :
      Sets draft .pageSize (.number (.unsigned n)) { draft with pageSize := n }

/-- Drafts say the same, but for the order of members inside the query. -/
structure Draft.Alike (draft other : Draft) : Prop where
  typeName_eq : draft.typeName = other.typeName
  query_alike : Option.Rel
    (fun members others => (Value.object members).Rearranged (.object others))
    draft.query other.query
  page_eq : draft.page = other.page
  pageSize_eq : draft.pageSize = other.pageSize

/-- Documents say the same, but for the order of members inside the query. -/
structure Alike (document other : Document) : Prop where
  typeName_eq : document.typeName = other.typeName
  query_alike : (Value.object document.query).Rearranged (.object other.query)
  page_eq : document.page = other.page
  pageSize_eq : document.pageSize = other.pageSize

/-- Members of the same name, of which one is rearranged into the other. -/
def RearrangedInside (member other : String × Value) : Prop :=
  member.1 = other.1 ∧ member.2.Rearranged other.2

variable {draft next last : Draft} {key otherKey : Key} {name : String}
  {value other otherValue : Value} {members others : List (String × Value)}
  {seen otherSeen : List (List Char)} {document : Document}

theorem readCount_ok_iff {n : UInt64} :
    readCount name value = .ok n ↔ value = .number (.unsigned n) := by
  unfold readCount
  split
  next => simp
  next notCount =>
    apply iff_of_false
    · rintro ⟨⟩
    · rintro rfl
      exact notCount n rfl

theorem Draft.read_ok_iff : draft.read key name value = .ok next ↔ draft.Sets key value next := by
  constructor
  · intro read
    unfold Draft.read at read
    split at read
    next =>
      split at read
      next =>
        cases read
        exact .type
      next => cases read
    next =>
      split at read
      next =>
        cases read
        exact .query
      next => cases read
    next =>
      obtain ⟨n, counted, rfl⟩ := exists_of_map_ok read
      cases readCount_ok_iff.mp counted
      exact .page
    next =>
      obtain ⟨n, counted, rfl⟩ := exists_of_map_ok read
      cases readCount_ok_iff.mp counted
      exact .pageSize
  · intro sets
    cases sets with
    | type => rfl
    | query => rfl
    | page => rfl
    | pageSize => rfl

theorem Draft.Sets.comm (sets : draft.Sets key value next)
    (further : next.Sets otherKey otherValue last) (differ : key ≠ otherKey) :
    ∃ middle, draft.Sets otherKey otherValue middle ∧ middle.Sets key value last := by
  -- A case for each pair of keys: the same key twice, or two keys whose values do not meet.
  cases sets <;> cases further
  all_goals first
    | exact absurd rfl differ
    | exact ⟨_, by constructor, by constructor⟩

theorem eq_name_of_key? {lowered : List Char} (isKey : key? lowered = some key) :
    lowered = key.name := by
  unfold key? at isKey
  split at isKey
  next isType =>
    cases isKey
    exact isType
  next =>
    split at isKey
    next isQuery =>
      cases isKey
      exact isQuery
    next =>
      split at isKey
      next isPage =>
        cases isKey
        exact isPage
      next =>
        split at isKey
        next isPageSize =>
          cases isKey
          exact isPageSize
        next => cases isKey

theorem readMembers_cons_ok_iff {rest : List (String × Value)} :
    readMembers seen draft ((name, value) :: rest) = .ok last ↔
      lowercase name.toList ∉ seen ∧ ∃ key next, key? (lowercase name.toList) = some key ∧
        draft.Sets key value next ∧
          readMembers (lowercase name.toList :: seen) next rest = .ok last := by
  rw [readMembers]
  simp only [List.contains_iff_mem]
  by_cases isRepeated : lowercase name.toList ∈ seen
  · rw [if_pos isRepeated]
    apply iff_of_false
    · rintro ⟨⟩
    · rintro ⟨isNew, _⟩
      exact isNew isRepeated
  · rw [if_neg isRepeated]
    cases isKey : key? (lowercase name.toList) with
    | none =>
        apply iff_of_false
        · rintro ⟨⟩
        · rintro ⟨_, key, next, ⟨⟩, _⟩
    | some key =>
        simp only
        constructor
        · intro read
          obtain ⟨next, readHere, readRest⟩ := exists_of_bind_ok read
          exact ⟨isRepeated, key, next, rfl, Draft.read_ok_iff.mp readHere, readRest⟩
        · rintro ⟨_, _, next, ⟨⟩, sets, readRest⟩
          rw [Draft.read_ok_iff.mpr sets]
          exact readRest

theorem readMembers_of_sameSeen (sameSeen : ∀ lowered, lowered ∈ seen ↔ lowered ∈ otherSeen)
    (read : readMembers seen draft members = .ok last) :
    readMembers otherSeen draft members = .ok last := by
  induction members generalizing seen otherSeen draft with
  | nil =>
      rw [readMembers] at read ⊢
      exact read
  | cons member rest inductionHypothesis =>
      obtain ⟨isNew, key, next, isKey, sets, readRest⟩ := readMembers_cons_ok_iff.mp read
      refine readMembers_cons_ok_iff.mpr ⟨?_, key, next, isKey, sets, ?_⟩
      · rwa [← sameSeen]
      · apply inductionHypothesis _ readRest
        intro lowered
        rw [List.mem_cons, List.mem_cons, sameSeen]

theorem readMembers_perm (perm : members.Perm others)
    (read : readMembers seen draft members = .ok last) :
    readMembers seen draft others = .ok last := by
  induction perm generalizing seen draft with
  | nil => exact read
  | cons member _ inductionHypothesis =>
      obtain ⟨isNew, key, next, isKey, sets, readRest⟩ := readMembers_cons_ok_iff.mp read
      exact readMembers_cons_ok_iff.mpr ⟨isNew, key, next, isKey, sets,
        inductionHypothesis readRest⟩
  | swap second first rest =>
      obtain ⟨isNew, key, middle, isKey, sets, readFurther⟩ := readMembers_cons_ok_iff.mp read
      obtain ⟨isNewToo, otherKey, next, isOtherKey, setsToo, readRest⟩ :=
        readMembers_cons_ok_iff.mp readFurther
      have differ : lowercase second.1.toList ≠ lowercase first.1.toList := by
        intro same
        exact isNewToo (List.mem_cons.mpr (.inl same))
      have keysDiffer : key ≠ otherKey := by
        rintro rfl
        exact differ ((eq_name_of_key? isOtherKey).trans (eq_name_of_key? isKey).symm)
      obtain ⟨between, otherSets, setsAfter⟩ := sets.comm setsToo keysDiffer
      have readAfter :=
        readMembers_of_sameSeen (fun lowered => (List.Perm.swap _ _ _).mem_iff) readRest
      refine readMembers_cons_ok_iff.mpr ⟨?_, otherKey, between, isOtherKey, otherSets, ?_⟩
      · intro isOld
        exact isNewToo (List.mem_cons_of_mem _ isOld)
      · refine readMembers_cons_ok_iff.mpr ⟨?_, key, next, isKey, setsAfter, readAfter⟩
        intro isPresent
        rcases List.mem_cons.mp isPresent with same | isOld
        · exact differ same.symm
        · exact isNew isOld
  | trans _ _ startIH furtherIH => exact furtherIH (startIH read)

theorem Draft.Alike.refl (draft : Draft) : draft.Alike draft := by
  refine ⟨rfl, ?_, rfl, rfl⟩
  cases draft.query with
  | none => exact .none
  | some members => exact .some (.refl _)

theorem Draft.Sets.alike {otherDraft : Draft} (sets : draft.Sets key value next)
    (alike : draft.Alike otherDraft) (rearranged : value.Rearranged other) :
    ∃ otherNext, otherDraft.Sets key other otherNext ∧ next.Alike otherNext := by
  cases sets with
  | type =>
      cases rearranged.corresponds_self with
      | scalar isScalar =>
          exact ⟨_, .type, rfl, alike.query_alike, alike.page_eq, alike.pageSize_eq⟩
  | query =>
      cases rearranged.corresponds_self with
      | scalar isScalar => cases isScalar
      | object inside =>
          exact ⟨_, .query, alike.typeName_eq, .some inside, alike.page_eq, alike.pageSize_eq⟩
  | page =>
      cases rearranged.corresponds_self with
      | scalar isScalar =>
          exact ⟨_, .page, alike.typeName_eq, alike.query_alike, rfl, alike.pageSize_eq⟩
  | pageSize =>
      cases rearranged.corresponds_self with
      | scalar isScalar =>
          exact ⟨_, .pageSize, alike.typeName_eq, alike.query_alike, alike.page_eq, rfl⟩

/-- If members are rearranged inside, so is what is read. -/
theorem readMembers_alike {otherDraft : Draft}
    (inside : List.Forall₂ RearrangedInside members others) (alike : draft.Alike otherDraft)
    (read : readMembers seen draft members = .ok last) :
    ∃ otherLast, readMembers seen otherDraft others = .ok otherLast ∧ last.Alike otherLast := by
  induction inside generalizing seen draft otherDraft with
  | nil =>
      rw [readMembers] at read
      cases read
      exact ⟨otherDraft, by rw [readMembers], alike⟩
  | @cons member other rest otherRest same _ inductionHypothesis =>
      obtain ⟨name, value⟩ := member
      obtain ⟨otherName, otherValue⟩ := other
      obtain ⟨rfl, rearranged⟩ := same
      obtain ⟨isNew, key, next, isKey, sets, readRest⟩ := readMembers_cons_ok_iff.mp read
      obtain ⟨otherNext, otherSets, nextAlike⟩ := sets.alike alike rearranged
      obtain ⟨otherLast, otherReadRest, lastAlike⟩ := inductionHypothesis nextAlike readRest
      exact ⟨otherLast,
        readMembers_cons_ok_iff.mpr ⟨isNew, key, otherNext, isKey, otherSets, otherReadRest⟩,
        lastAlike⟩

theorem ofValue_object_ok_iff : ofValue (.object members) = .ok document ↔
    ∃ draft query, readMembers [] {} members = .ok draft ∧ draft.query = some query ∧
      document = ⟨draft.typeName, query, draft.page, draft.pageSize⟩ := by
  constructor
  · intro read
    obtain ⟨draft, readAll, finished⟩ := exists_of_bind_ok read
    cases queryEq : draft.query with
    | none =>
        rw [queryEq] at finished
        cases finished
    | some query =>
        rw [queryEq] at finished
        cases finished
        exact ⟨draft, query, readAll, queryEq, rfl⟩
  · rintro ⟨draft, query, readAll, queryEq, rfl⟩
    rw [ofValue, readAll]
    simp only [bind, Except.bind, queryEq]

theorem ofValue_perm (perm : members.Perm others)
    (read : ofValue (.object members) = .ok document) :
    ofValue (.object others) = .ok document := by
  obtain ⟨draft, query, readAll, finished⟩ := ofValue_object_ok_iff.mp read
  exact ofValue_object_ok_iff.mpr ⟨draft, query, readMembers_perm perm readAll, finished⟩

theorem Alike.refl (document : Document) : document.Alike document :=
  ⟨rfl, .refl _, rfl, rfl⟩

theorem Alike.trans {first second third : Document} (start : first.Alike second)
    (further : second.Alike third) : first.Alike third where
  typeName_eq := start.typeName_eq.trans further.typeName_eq
  query_alike := start.query_alike.trans further.query_alike
  page_eq := start.page_eq.trans further.page_eq
  pageSize_eq := start.pageSize_eq.trans further.pageSize_eq

/-- Rearranged values are read as the same document with a rearranged query. -/
theorem exists_ofValue_alike (rearranged : value.Rearranged other)
    (read : ofValue value = .ok document) :
    ∃ otherDocument, ofValue other = .ok otherDocument ∧ document.Alike otherDocument := by
  have corresponds : value.Corresponds
      (fun members others => ∀ document, ofValue (.object members) = .ok document →
        ∃ otherDocument, ofValue (.object others) = .ok otherDocument ∧
          document.Alike otherDocument) other := by
    apply rearranged.corresponds
    · intro first second third start further document read
      obtain ⟨middle, readMiddle, startAlike⟩ := start document read
      obtain ⟨last, readLast, furtherAlike⟩ := further middle readMiddle
      exact ⟨last, readLast, startAlike.trans furtherAlike⟩
    · intro members others perm document read
      exact ⟨document, ofValue_perm perm read, .refl document⟩
    · intro front back name value other inside _ document read
      obtain ⟨draft, query, readAll, queryEq, rfl⟩ := ofValue_object_ok_iff.mp read
      have same (members : List (String × Value)) : List.Forall₂ RearrangedInside members members :=
        List.forall₂_same.mpr fun member _ => ⟨rfl, .refl _⟩
      have insideAll : List.Forall₂ RearrangedInside (front ++ (name, value) :: back)
          (front ++ (name, other) :: back) :=
        List.rel_append (same front) (.cons ⟨rfl, inside⟩ (same back))
      obtain ⟨otherDraft, otherReadAll, alike⟩ := readMembers_alike insideAll (.refl {}) readAll
      have queryAlike := alike.query_alike
      rw [queryEq] at queryAlike
      cases otherQueryEq : otherDraft.query with
      | none =>
          rw [otherQueryEq] at queryAlike
          cases queryAlike
      | some otherQuery =>
          rw [otherQueryEq] at queryAlike
          cases queryAlike with
          | some rearranged =>
              exact ⟨_, ofValue_object_ok_iff.mpr ⟨otherDraft, otherQuery, otherReadAll,
                otherQueryEq, rfl⟩, alike.typeName_eq, rearranged, alike.page_eq,
                alike.pageSize_eq⟩
  cases corresponds with
  | scalar isScalar => exact ⟨document, read, .refl document⟩
  | array => cases read
  | object readsAlike => exact readsAlike document read

end QueryPlanner.Document
