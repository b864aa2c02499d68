import QueryPlanner.Document.Basic
import QueryPlanner.Proofs.Json.Faults
import QueryPlanner.Proofs.Json.Reading

/-!
# Repeated keys

A document whose objects repeat no key is the JSON value that it spells.  Where a key is repeated
before anything else is wrong, the key is reported, and otherwise what is wrong.
-/

namespace QueryPlanner

namespace Json

section Unique

variable {α : Type} {value : AtFront Value} {text rest : List Char}

theorem listed_and_iff {part : AtFront α} {p : α → Prop} {parts : List α} :
    Listed (fun a text rest => part a text rest ∧ p a) parts text rest ↔
      Listed part parts text rest ∧ ∀ a ∈ parts, p a := by
  constructor
  · intro listed
    induction listed with
    | nil => exact ⟨.nil, fun _ => nofun⟩
    | cons first comma behind inductionHypothesis =>
        exact ⟨.cons first.1 comma inductionHypothesis.1,
          List.forall_mem_cons.mpr ⟨first.2, inductionHypothesis.2⟩⟩
  · rintro ⟨listed, properties⟩
    induction listed with
    | nil => exact .nil
    | cons first comma behind inductionHypothesis =>
        obtain ⟨here, others⟩ := List.forall_mem_cons.mp properties
        exact .cons ⟨first, here⟩ comma (inductionHypothesis others)

theorem isMember_and (value : AtFront Value) (p : Value → Prop) :
    IsMember (fun v text rest => value v text rest ∧ p v) =
      fun member text rest => IsMember value member text rest ∧ p member.2 := by
  funext member text rest
  apply propext
  constructor
  · rintro ⟨isKey, colon, isValue, property⟩
    exact ⟨.pair isKey colon isValue, property⟩
  · rintro ⟨⟨isKey, colon, isValue⟩, property⟩
    exact .pair isKey colon ⟨isValue, property⟩

theorem IsScalar.hasUniqueKeys {v : Value} (isScalar : IsScalar v text rest) :
    v.HasUniqueKeys := by
  cases isScalar with
  | word isWord =>
      cases isWord with
      | null => exact .null
      | true => exact .bool true
      | false => exact .bool false
  | unsigned => exact .number _
  | negative => exact .number _
  | string => exact .string _

theorem forall_mem_concat {p : α → Prop} {front : List α} {last : α} :
    (∀ a ∈ front ++ [last], p a) ↔ (∀ a ∈ front, p a) ∧ p last := by
  simp [or_imp, forall_and]

theorem isComposite_unique_iff {v : Value} :
    IsComposite true (fun v text rest => value v text rest ∧ v.HasUniqueKeys) v text rest ↔
      IsComposite false value v text rest ∧ v.HasUniqueKeys := by
  constructor
  · intro isComposite
    cases isComposite with
    | emptyArray opens closes => exact ⟨.emptyArray opens closes, .array (fun _ => nofun)⟩
    | array opens isFront isLast closes =>
        obtain ⟨isFront, uniqueFront⟩ := listed_and_iff.mp isFront
        exact ⟨.array opens isFront isLast.1 closes,
          .array (forall_mem_concat.mpr ⟨uniqueFront, isLast.2⟩)⟩
    | emptyObject opens closes =>
        exact ⟨.emptyObject opens closes, .object .nil (fun _ => nofun)⟩
    | object opens isFront isLast closes distinct =>
        rw [isMember_and] at isFront isLast
        obtain ⟨isFront, uniqueFront⟩ := listed_and_iff.mp isFront
        exact ⟨.object opens isFront isLast.1 closes nofun,
          .object (distinct rfl) (forall_mem_concat.mpr ⟨uniqueFront, isLast.2⟩)⟩
  · rintro ⟨isComposite, unique⟩
    cases isComposite with
    | emptyArray opens closes => exact .emptyArray opens closes
    | array opens isFront isLast closes =>
        cases unique with
        | array inside =>
            obtain ⟨uniqueFront, uniqueLast⟩ := forall_mem_concat.mp inside
            exact .array opens (listed_and_iff.mpr ⟨isFront, uniqueFront⟩) ⟨isLast, uniqueLast⟩ closes
    | emptyObject opens closes => exact .emptyObject opens closes
    | object opens isFront isLast closes =>
        cases unique with
        | object distinct inside =>
            obtain ⟨uniqueFront, uniqueLast⟩ := forall_mem_concat.mp inside
            have alike := isMember_and value Value.HasUniqueKeys
            exact .object opens (alike ▸ listed_and_iff.mpr ⟨isFront, uniqueFront⟩)
              (alike ▸ ⟨isLast, uniqueLast⟩) closes fun _ => distinct

/-- The values whose objects repeat no key are spelled like all others. -/
theorem spelled_unique (levels : Nat) :
    Spelled true levels = fun v text rest => Spelled false levels v text rest ∧ v.HasUniqueKeys := by
  induction levels with
  | zero =>
      funext v text rest
      exact propext ⟨fun isScalar => ⟨isScalar, isScalar.hasUniqueKeys⟩, And.left⟩
  | succ levels inductionHypothesis =>
      funext v text rest
      rw [Spelled, Spelled, inductionHypothesis]
      dsimp only
      rw [isComposite_unique_iff, or_and_right]
      exact propext (or_congr_left ⟨fun isScalar => ⟨isScalar, isScalar.hasUniqueKeys⟩, And.left⟩)

end Unique

/-- Among the members of an object, from one of them on, a key is repeated: one that was seen
before, or one inside a value.  The rest begins behind the repeated key.  With `unique` nothing is
repeated before it. -/
inductive RepeatsAmong (unique : Bool) (value : AtFront Value) (inside : AtFront String) :
    (seen : List String) → AtFront String where
  | again {seen : List String} {key : String} {text rest : List Char} (isKey : IsKey key text rest)
      (isOld : key ∈ seen) : RepeatsAmong unique value inside seen key text rest
  | within {seen : List String} {name key : String} {text afterKey valueText rest : List Char}
      (isKey : IsKey name text afterKey) (isNew : unique = true → name ∉ seen)
      (colon : skipSpace afterKey = ':' :: valueText) (repeats : inside key valueText rest) :
      RepeatsAmong unique value inside seen key text rest
  | later {seen : List String} {member : String × Value} {key : String}
      {text after more rest : List Char} (first : IsMember value member text after)
      (isNew : unique = true → member.1 ∉ seen) (comma : skipSpace after = ',' :: more)
      (behind : RepeatsAmong unique value inside (member.1 :: seen) key (skipSpace more) rest) :
      RepeatsAmong unique value inside seen key text rest

/-- An array or an object inside which a key is repeated. -/
inductive RepeatsInside (unique : Bool) (value : AtFront Value) (inside : AtFront String) :
    AtFront String where
  | array {front : List Value} {key : String} {text inner itemText rest : List Char}
      (opens : skipSpace text = '[' :: inner) (isFront : Listed value front (skipSpace inner) itemText)
      (repeats : inside key itemText rest) : RepeatsInside unique value inside key text rest
  | object {key : String} {text inner rest : List Char} (opens : skipSpace text = '{' :: inner)
      (repeats : RepeatsAmong unique value inside [] key (skipSpace inner) rest) :
      RepeatsInside unique value inside key text rest

/-- A text begins like a value in which an object repeats a key, and is spelled rightly up to the
end of that key.  Arrays and objects are nested as many levels deep as `levels` says, or less. -/
def Repeats (unique : Bool) : (levels : Nat) → AtFront String
  | 0 => fun _ _ _ => False
  | levels + 1 => RepeatsInside unique (Spelled unique levels) (Repeats unique levels)

section Begins

variable {unique : Bool} {value : AtFront Value} {inside : AtFront String} {key : String}
  {text rest : List Char}

theorem RepeatsAmong.begins {seen : List String}
    (repeats : RepeatsAmong unique value inside seen key text rest) : ∃ inner, text = '"' :: inner := by
  cases repeats with
  | again isKey =>
      cases isKey with
      | quoted => exact ⟨_, rfl⟩
  | within isKey =>
      cases isKey with
      | quoted => exact ⟨_, rfl⟩
  | later first => exact first.begins

theorem Repeats.begins {levels : Nat} (repeats : Repeats unique levels key text rest) :
    ∃ c inner, skipSpace text = c :: inner ∧ (c = '[' ∨ c = '{') := by
  cases levels with
  | zero => cases repeats
  | succ levels =>
      cases repeats with
      | array opens => exact ⟨_, _, opens, .inl rfl⟩
      | object opens => exact ⟨_, _, opens, .inr rfl⟩

theorem RepeatsAmong.mono {strict : AtFront Value} {within : AtFront String}
    (values : ∀ v text rest, strict v text rest → value v text rest)
    (keys : ∀ key text rest, within key text rest → inside key text rest) {seen : List String}
    (repeats : RepeatsAmong true strict within seen key text rest) :
    RepeatsAmong false value inside seen key text rest := by
  induction repeats with
  | again isKey isOld => exact .again isKey isOld
  | within isKey isNew colon repeats => exact .within isKey nofun colon (keys _ _ _ repeats)
  | later first isNew comma behind inductionHypothesis =>
      cases first with
      | pair isKey colon isValue =>
          exact .later (.pair isKey colon (values _ _ _ isValue)) nofun comma inductionHypothesis

/-- Where no key is repeated before, what stands there may be read in either way. -/
theorem Repeats.mono {levels : Nat} (repeats : Repeats true levels key text rest) :
    Repeats false levels key text rest := by
  induction levels generalizing key text rest with
  | zero => cases repeats
  | succ levels inductionHypothesis =>
      cases repeats with
      | array opens isFront repeats =>
          rw [spelled_unique] at isFront
          exact .array opens (listed_and_iff.mp isFront).1 (inductionHypothesis repeats)
      | object opens repeats =>
          refine .object opens (repeats.mono ?_ fun _ _ _ => inductionHypothesis)
          intro v text rest isValue
          rw [spelled_unique] at isValue
          exact isValue.1

end Begins

/-- A reading stops at a repeated key. -/
def IsRepeated {α : Type} (reading : Except Misread α) : Prop :=
  ∃ key rest, reading = .error (repeated key rest)

/-- A reading is like another one, or it stops at a repeated key, and the key is one of some. -/
def StopsOrEquals {α : Type} (repeats : String → List Char → Prop)
    (reading other : Except Misread α) : Prop :=
  reading = other ∨ ∃ key rest, repeats key rest ∧ reading = .error (repeated key rest)

theorem cause_repeated (key : String) (rest : List Char) :
    (repeated key rest).cause = .duplicateProperty key := by
  unfold repeated
  split <;> rfl

section Readings

variable {α β : Type} {repeats : String → List Char → Prop} {reading other : Except Misread α}

theorem IsRepeated.map {f : α → β} (isRepeated : IsRepeated reading) :
    IsRepeated (reading.map f) := by
  obtain ⟨key, rest, rfl⟩ := isRepeated
  exact ⟨key, rest, rfl⟩

theorem IsRepeated.bind {next : α → Except Misread β} (isRepeated : IsRepeated reading) :
    IsRepeated (reading >>= next) := by
  obtain ⟨key, rest, rfl⟩ := isRepeated
  exact ⟨key, rest, rfl⟩

theorem StopsOrEquals.refl (reading : Except Misread α) : StopsOrEquals repeats reading reading :=
  .inl rfl

theorem StopsOrEquals.mono {more : String → List Char → Prop}
    (stops : StopsOrEquals repeats reading other) (weaker : ∀ key rest, repeats key rest → more key rest) :
    StopsOrEquals more reading other :=
  stops.imp id fun ⟨key, rest, isOne, stopped⟩ => ⟨key, rest, weaker key rest isOne, stopped⟩

theorem StopsOrEquals.bind {next nextOther : α → Except Misread β}
    (first : StopsOrEquals repeats reading other)
    (later : ∀ a, reading = .ok a → StopsOrEquals repeats (next a) (nextOther a)) :
    StopsOrEquals repeats (reading >>= next) (other >>= nextOther) := by
  rcases first with rfl | ⟨key, rest, isOne, rfl⟩
  · cases reading with
    | error misread => exact .refl _
    | ok a => exact later a rfl
  · exact .inr ⟨key, rest, isOne, rfl⟩

theorem StopsOrEquals.map (f : α → β) (first : StopsOrEquals repeats reading other) :
    StopsOrEquals repeats (reading.map f) (other.map f) := by
  rcases first with rfl | ⟨key, rest, isOne, rfl⟩
  · exact .refl _
  · exact .inr ⟨key, rest, isOne, rfl⟩

theorem StopsOrEquals.of_ok {a : α} (stops : StopsOrEquals repeats reading other)
    (given : other = .ok a) : reading = .ok a ∨ IsRepeated reading :=
  stops.imp (fun same => same.trans given) fun ⟨key, rest, _, stopped⟩ => ⟨key, rest, stopped⟩

end Readings

section Stopping

variable {strict lax : List Char → Except Misread (Value × List Char)} {inside : AtFront String}

theorem readItems_stopsOrEquals
    (items : ∀ text, StopsOrEquals (inside · text) (strict text) (lax text)) (bound : Nat)
    (text : List Char) :
    StopsOrEquals
      (fun key rest => ∃ front itemText, Listed (Gives strict) front text itemText ∧
        inside key itemText rest)
      (readItems strict bound text) (readItems lax bound text) := by
  induction bound generalizing text with
  | zero => exact .refl _
  | succ bound inductionHypothesis =>
      rw [readItems, readItems]
      refine StopsOrEquals.bind ?_ fun item itemRead => ?_
      · exact (items text).mono fun key rest repeats => ⟨[], text, .nil, repeats⟩
      obtain ⟨value, after⟩ := item
      dsimp only
      split
      next => exact .refl _
      next more comma =>
        split
        next => exact .refl _
        next => exact .refl _
        next =>
          refine StopsOrEquals.bind ?_ fun _ _ => .refl _
          refine (inductionHypothesis (skipSpace more)).mono ?_
          rintro key rest ⟨front, itemText, isFront, repeats⟩
          exact ⟨value :: front, itemText, .cons itemRead comma isFront, repeats⟩
      next => exact .refl _
      next => exact .refl _

theorem readMemberValue_stopsOrEquals
    (items : ∀ text, StopsOrEquals (inside · text) (strict text) (lax text)) (text : List Char) :
    StopsOrEquals
      (fun key rest => ∃ valueText, skipSpace text = ':' :: valueText ∧ inside key valueText rest)
      (readMemberValue strict text) (readMemberValue lax text) := by
  unfold readMemberValue
  split
  next valueText colon => exact (items valueText).mono fun key rest repeats => ⟨_, colon, repeats⟩
  next => exact .refl _
  next => exact .refl _

theorem readMembers_stopsOrEquals
    (items : ∀ text, StopsOrEquals (inside · text) (strict text) (lax text)) (bound : Nat)
    (seen : List String) (text inner : List Char) (opens : text = '"' :: inner) :
    StopsOrEquals (RepeatsAmong true (Gives strict) inside seen · text)
      (readMembers true strict bound seen text) (readMembers false lax bound seen text) := by
  induction bound generalizing seen text inner with
  | zero => exact .refl _
  | succ bound inductionHypothesis =>
      subst opens
      rw [readMembers, readMembers]
      refine (StopsOrEquals.refl _).bind fun keyPart keyRead => ?_
      obtain ⟨shown, afterKey⟩ := keyPart
      have isKey : IsKey (String.ofList shown) ('"' :: inner) afterKey := .quoted keyRead
      have laxNew : ¬(false && seen.contains (String.ofList shown)) = true := Bool.false_ne_true
      dsimp only
      rw [if_neg laxNew]
      split
      next isOld =>
        exact .inr ⟨_, _, .again isKey (List.contains_iff_mem.mp isOld), rfl⟩
      next notOld =>
        have isNew (_ : true = true) : String.ofList shown ∉ seen :=
          fun isOld => notOld (List.contains_iff_mem.mpr isOld)
        refine StopsOrEquals.bind ?_ fun valuePart valueRead => ?_
        · refine (readMemberValue_stopsOrEquals items afterKey).mono ?_
          rintro key rest ⟨valueText, colon, repeats⟩
          exact .within isKey isNew colon repeats
        obtain ⟨value, after⟩ := valuePart
        obtain ⟨valueText, colon, isValue⟩ := readMemberValue_ok_iff.mp valueRead
        dsimp only
        split
        next => exact .refl _
        next more comma =>
          split
          next nextInner nextOpens =>
            refine StopsOrEquals.bind ?_ fun _ _ => .refl _
            refine (inductionHypothesis _ _ nextInner rfl).mono fun key rest repeats => ?_
            exact .later (.pair isKey colon isValue) isNew comma (nextOpens ▸ repeats)
          next => exact .refl _
          next => exact .refl _
          next => exact .refl _
        next => exact .refl _
        next => exact .refl _

theorem readArray_stopsOrEquals
    (items : ∀ text, StopsOrEquals (inside · text) (strict text) (lax text)) (text : List Char) :
    StopsOrEquals
      (fun key rest => ∃ front itemText, Listed (Gives strict) front (skipSpace text) itemText ∧
        inside key itemText rest)
      (readArray strict text) (readArray lax text) := by
  unfold readArray
  split
  next => exact .refl _
  next => exact .refl _
  next => exact (readItems_stopsOrEquals items _ _).map _

theorem readObject_stopsOrEquals
    (items : ∀ text, StopsOrEquals (inside · text) (strict text) (lax text)) (text : List Char) :
    StopsOrEquals (RepeatsAmong true (Gives strict) inside [] · (skipSpace text))
      (readObject true strict text) (readObject false lax text) := by
  unfold readObject
  split
  next => exact .refl _
  next => exact .refl _
  next inner opens =>
    rw [opens]
    exact (readMembers_stopsOrEquals items _ _ _ _ rfl).map _
  next => exact .refl _

end Stopping

section Repeating

variable {strict lax : List Char → Except Misread (Value × List Char)} {inside : AtFront String}
  {text : List Char} {bound : Nat}

/-- Something stands at the front of a text, and it is no closing bracket. -/
structure IsOpen (text : List Char) : Prop where
  nonempty : text ≠ []
  not_closed : ∀ inner, text ≠ ']' :: inner

theorem Listed.isOpen {part : AtFront Value} (isPart : IsPart part) {front : List Value}
    {lastText : List Char} (isFront : Listed part front text lastText) (isOpen : IsOpen lastText) :
    IsOpen text := by
  cases isFront with
  | nil => exact isOpen
  | cons first => exact ⟨isPart.ne_nil first, fun inner closed => isPart.open_ne (closed ▸ first)⟩

theorem Repeats.isOpen {unique : Bool} {levels : Nat} {key : String} {rest : List Char}
    (repeats : Repeats unique levels key text rest) : IsOpen text := by
  obtain ⟨c, inner, skipped, opens⟩ := repeats.begins
  constructor
  · rintro rfl
    cases skipped
  · rintro after rfl
    have bracket : skipSpace (']' :: after) = ']' :: after := rfl
    cases bracket.symm.trans skipped
    rcases opens with opens | opens <;> cases opens

/-- Where an item stops at a repeated key, the array does, or it has done so before. -/
theorem isRepeated_readItems
    (items : ∀ text, StopsOrEquals (inside · text) (strict text) (lax text))
    (isPart : IsPart (Gives lax)) {front : List Value} {itemText : List Char}
    (isFront : Listed (Gives lax) front text itemText) (isOpen : IsOpen itemText)
    (stops : IsRepeated (strict itemText)) (enough : text.length ≤ bound) :
    IsRepeated (readItems strict bound text) := by
  have nonempty := (isFront.isOpen isPart isOpen).nonempty
  obtain ⟨bound, rfl⟩ : ∃ smaller, bound = smaller + 1 :=
    Nat.exists_eq_add_one.mpr (Nat.lt_of_lt_of_le (List.length_pos_iff.mpr nonempty) enough)
  induction isFront generalizing bound with
  | nil =>
      rw [readItems]
      exact stops.bind
  | @cons value others text after more itemText first comma behind inductionHypothesis =>
      rcases (items text).of_ok first with itemRead | stopsHere
      · have opens := behind.isOpen isPart isOpen
        have fewer := isPart.length_next_lt first comma
        obtain ⟨smaller, rfl⟩ : ∃ smaller, bound = smaller + 1 := by
          have positive := List.length_pos_iff.mpr opens.nonempty
          exact Nat.exists_eq_add_one.mpr (by omega)
        rw [readItems_item itemRead comma opens.nonempty opens.not_closed]
        exact (inductionHypothesis isOpen stops opens.nonempty smaller (by omega)).bind
      · rw [readItems]
        exact stopsHere.bind

theorem isRepeated_readMembers_of_mem {item : List Char → Except Misread (Value × List Char)}
    {seen : List String} {key : String} {afterKey : List Char} (isKey : IsKey key text afterKey)
    (isOld : key ∈ seen) : IsRepeated (readMembers true item (bound + 1) seen text) := by
  cases isKey with
  | @quoted shown inner rest keyRead =>
      have isSeen : (true && seen.contains (String.ofList shown)) = true :=
        List.contains_iff_mem.mpr isOld
      rw [readMembers, List.drop_succ_cons, List.drop_zero, keyRead]
      simp only [bind, Except.bind, if_pos isSeen]
      exact ⟨_, _, rfl⟩

theorem isRepeated_readMembers_of_value {item : List Char → Except Misread (Value × List Char)}
    {seen : List String} {key : String} {afterKey valueText : List Char}
    (isKey : IsKey key text afterKey) (colon : skipSpace afterKey = ':' :: valueText)
    (stops : IsRepeated (item valueText)) :
    IsRepeated (readMembers true item (bound + 1) seen text) := by
  by_cases isOld : key ∈ seen
  · exact isRepeated_readMembers_of_mem isKey isOld
  · cases isKey with
    | @quoted shown inner rest keyRead =>
        have notSeen : ¬(true && seen.contains (String.ofList shown)) = true :=
          fun isSeen => isOld (List.contains_iff_mem.mp isSeen)
        obtain ⟨inKey, left, stopped⟩ := stops
        rw [readMembers, List.drop_succ_cons, List.drop_zero, keyRead]
        simp only [bind, Except.bind, if_neg notSeen, readMemberValue, colon, stopped]
        exact ⟨_, _, rfl⟩

/-- Where a member repeats a key, the object stops at it, or it has done so before. -/
theorem isRepeated_readMembers
    (items : ∀ text, StopsOrEquals (inside · text) (strict text) (lax text))
    (isPart : IsPart (Gives lax)) {within : AtFront String}
    (stops : ∀ key text rest, within key text rest → IsRepeated (strict text))
    {seen : List String} {key : String} {rest : List Char}
    (repeats : RepeatsAmong false (Gives lax) within seen key text rest)
    (enough : text.length ≤ bound) : IsRepeated (readMembers true strict bound seen text) := by
  obtain ⟨bound, rfl⟩ : ∃ smaller, bound = smaller + 1 := by
    obtain ⟨inner, rfl⟩ := repeats.begins
    exact Nat.exists_eq_add_one.mpr (Nat.lt_of_lt_of_le (Nat.succ_pos _) enough)
  induction repeats generalizing bound with
  | again isKey isOld => exact isRepeated_readMembers_of_mem isKey isOld
  | within isKey isNew colon repeats =>
      exact isRepeated_readMembers_of_value isKey colon (stops _ _ _ repeats)
  | @later seen member key text after more rest first isNew comma behind inductionHypothesis =>
      cases first with
      | @pair name value text afterKey valueText after isKey colon isValue =>
          rcases (items valueText).of_ok isValue with valueRead | stopsHere
          · by_cases isOld : name ∈ seen
            · exact isRepeated_readMembers_of_mem isKey isOld
            · obtain ⟨inner, opens⟩ := behind.begins
              have fewer := isPart.isMember.length_next_lt (.pair isKey colon isValue) comma
              obtain ⟨smaller, rfl⟩ : ∃ smaller, bound = smaller + 1 := by
                rw [opens, List.length_cons] at fewer
                exact Nat.exists_eq_add_one.mpr (by omega)
              have isMember : IsMember (Gives strict) (name, value) text after :=
                .pair isKey colon valueRead
              rw [readMembers_member isMember fun _ => isOld]
              simp only [comma, opens]
              rw [← opens]
              exact (inductionHypothesis smaller (by omega)).bind
          · exact isRepeated_readMembers_of_value isKey colon stopsHere

end Repeating

section Values

variable {levels : Nat} {text : List Char}

theorem readValue_alike {unique other : Bool} {fewer : Nat}
    (noArray : ∀ inner, skipSpace text ≠ '[' :: inner)
    (noObject : ∀ inner, skipSpace text ≠ '{' :: inner) :
    readValue unique levels text = readValue other fewer text := by
  rw [readValue.eq_def, readValue.eq_def other]
  cases begins : skipSpace text with
  | nil => rfl
  | cons c inner =>
      have noParts : ¬(c = '[' ∨ c = '{') := by
        rintro (rfl | rfl)
        · exact noArray inner begins
        · exact noObject inner begins
      simp only [if_neg noParts]

/-- A reading that allows no repeated key is like one that does, or it stops at one. -/
theorem readValue_stopsOrEquals (levels : Nat) (text : List Char) :
    StopsOrEquals (Repeats true levels · text) (readValue true levels text)
      (readValue false levels text) := by
  induction levels generalizing text with
  | zero =>
      rw [readValue.eq_def, readValue.eq_def false]
      exact .refl _
  | succ levels inductionHypothesis =>
      by_cases isArray : ∃ inner, skipSpace text = '[' :: inner
      · obtain ⟨inner, opens⟩ := isArray
        rw [readValue_array opens, readValue_array opens]
        refine (readArray_stopsOrEquals inductionHypothesis inner).mono ?_
        rintro key rest ⟨front, itemText, isFront, repeats⟩
        exact .array opens (gives_readValue true levels ▸ isFront) repeats
      · by_cases isObject : ∃ inner, skipSpace text = '{' :: inner
        · obtain ⟨inner, opens⟩ := isObject
          rw [readValue_object opens, readValue_object opens]
          refine (readObject_stopsOrEquals inductionHypothesis inner).mono fun key rest repeats => ?_
          exact .object opens (gives_readValue true levels ▸ repeats)
        · exact .inl (readValue_alike (not_exists.mp isArray) (not_exists.mp isObject))

theorem isRepeated_readValue {key : String} {rest : List Char}
    (repeats : Repeats false levels key text rest) : IsRepeated (readValue true levels text) := by
  induction levels generalizing key text rest with
  | zero => cases repeats
  | succ levels inductionHypothesis =>
      have isPart : IsPart (Gives (readValue false levels)) :=
        gives_readValue false levels ▸ .spelled false levels
      have items := readValue_stopsOrEquals levels
      cases repeats with
      | @array front key text inner itemText rest opens isFront repeats =>
          rw [← gives_readValue] at isFront
          have isOpen := isFront.isOpen isPart repeats.isOpen
          rw [readValue_array opens, readArray]
          split
          next closed => exact absurd closed (isOpen.not_closed _)
          next atEnd => exact absurd atEnd isOpen.nonempty
          next =>
            exact (isRepeated_readItems items isPart isFront repeats.isOpen
              (inductionHypothesis repeats) (Nat.le_refl _)).map
      | @object key text inner rest opens repeats =>
          rw [← gives_readValue] at repeats
          obtain ⟨keyText, begins⟩ := repeats.begins
          have stops (key : String) (text rest : List Char)
              (isOne : Repeats false levels key text rest) : IsRepeated (readValue true levels text) :=
            inductionHypothesis isOne
          rw [readValue_object opens]
          simp only [readObject, begins]
          exact (isRepeated_readMembers items isPart stops (begins ▸ repeats) (Nat.le_refl _)).map

end Values

section Texts

variable {unique : Bool} {text : List Char} {value : Value}

theorem readText_ok_iff :
    readText unique text = .ok value ↔
      ∃ rest, Spelled unique 127 value text rest ∧ skipSpace rest = [] := by
  constructor
  · intro read
    obtain ⟨⟨v, rest⟩, valueRead, read⟩ := exists_of_bind_ok read
    dsimp only at read
    split at read
    next atEnd =>
      cases read
      exact ⟨rest, readValue_ok_iff.mp valueRead, atEnd⟩
    next => cases read
  · rintro ⟨rest, spelled, atEnd⟩
    rw [readText, readValue_ok_iff.mpr spelled]
    simp only [bind, Except.bind, atEnd]
    rfl

theorem readText_unique_ok_iff :
    readText true text = .ok value ↔ IsJson text value ∧ value.HasUniqueKeys := by
  rw [readText_ok_iff, spelled_unique]
  constructor
  · rintro ⟨rest, ⟨spelled, unique⟩, atEnd⟩
    exact ⟨⟨rest, spelled, atEnd⟩, unique⟩
  · rintro ⟨⟨rest, spelled, atEnd⟩, unique⟩
    exact ⟨rest, ⟨spelled, unique⟩, atEnd⟩

theorem isSyntactic_readText (text : List Char) : IsSyntactic (readText false text) := by
  unfold readText
  refine (isSyntactic_readValue 127 text).bind fun (value, rest) => ?_
  dsimp only
  split
  next => exact isSyntactic_ok _
  next => simp

theorem readText_stopsOrEquals (text : List Char) :
    StopsOrEquals (Repeats true 127 · text) (readText true text) (readText false text) :=
  (readValue_stopsOrEquals 127 text).bind fun _ _ => .refl _

/-- Reading stops at a repeated key exactly where the text is right up to one. -/
theorem isRepeated_readText_iff :
    IsRepeated (readText true text) ↔ ∃ key rest, Repeats false 127 key text rest := by
  constructor
  · rintro ⟨key, rest, stopped⟩
    rcases readText_stopsOrEquals text with same | ⟨first, after, repeats, _⟩
    · have syntactic := isSyntactic_readText text
      rw [← same, stopped] at syntactic
      exact absurd (cause_repeated key rest) (syntactic key)
    · exact ⟨first, after, repeats.mono⟩
  · rintro ⟨key, rest, repeats⟩
    exact (isRepeated_readValue repeats).bind

end Texts

end Json

namespace Document

open QueryPlanner.Json

variable {text : String} {value : Value}

theorem parse_ok_iff {unique : Bool} :
    Value.parse unique text = .ok value ↔ readText unique text.toList = .ok value := by
  unfold Value.parse
  split
  next v read => rw [read, Except.ok.injEq, Except.ok.injEq]
  next misread stopped =>
    rw [stopped]
    exact ⟨nofun, nofun⟩

theorem parseJson_ok_iff :
    parseJson text = .ok value ↔ readText true text.toList = .ok value := by
  rw [← parse_ok_iff]
  unfold parseJson
  split
  next v read => rw [read, Except.ok.injEq, Except.ok.injEq]
  next fault stopped =>
    rw [stopped]
    split <;> exact ⟨nofun, nofun⟩

theorem hasUniqueKeys_of_parseJson (parsed : parseJson text = .ok value) : value.HasUniqueKeys :=
  (readText_unique_ok_iff.mp (parseJson_ok_iff.mp parsed)).2

theorem parseJson_of_repeated {key : String} {rest : List Char}
    (stopped : readText true text.toList = .error (repeated key rest)) :
    parseJson text = .error (.malformedDocument
      (.repeatedProperty ((repeated key rest).locate text.toList))) := by
  have cause : ((repeated key rest).locate text.toList).cause = .duplicateProperty key :=
    cause_repeated key rest
  simp only [parseJson, Value.parse, stopped, cause]

theorem parseJson_of_isSyntactic {misread : Misread}
    (stopped : readText true text.toList = .error misread)
    (syntactic : ∀ key, misread.cause ≠ .duplicateProperty key) :
    parseJson text = .error (.malformedJson (misread.locate text.toList)) := by
  simp only [parseJson, Value.parse, stopped]
  split
  next key cause => exact absurd cause (syntactic key)
  next => rfl

theorem parseJson_error {failure : Failure} (failed : parseJson text = .error failure) :
    (∃ key rest, Repeats true 127 key text.toList rest ∧
      readText true text.toList = .error (repeated key rest) ∧
        failure = .malformedDocument
          (.repeatedProperty ((repeated key rest).locate text.toList))) ∨
      ∃ fault, Value.parse false text = .error fault ∧ failure = .malformedJson fault := by
  rcases readText_stopsOrEquals text.toList with same | ⟨key, rest, repeats, stopped⟩
  · cases lax : readText false text.toList with
    | ok value =>
        rw [parseJson_ok_iff.mpr (same.trans lax)] at failed
        cases failed
    | error misread =>
        have syntactic := isSyntactic_readText text.toList
        rw [lax] at syntactic
        rw [parseJson_of_isSyntactic (same.trans lax) syntactic] at failed
        cases failed
        refine .inr ⟨_, ?_, rfl⟩
        simp only [Value.parse, lax]
  · rw [parseJson_of_repeated stopped] at failed
    cases failed
    exact .inl ⟨key, rest, repeats, stopped, rfl⟩

/-- A text gives a value if it spells it and repeats no key in an object, and it gives the value
that it spells.  A repeated key is refused where the text is right up to the end of it, and it is
the first one that is named; all else is refused as it would be if keys could be repeated. -/
theorem parseJson_rejects_repeated (text : String) :
    (∀ value, Value.parse false text = .ok value ↔ IsJson text.toList value) ∧
      (∀ value, parseJson text = .ok value ↔ IsJson text.toList value ∧ value.HasUniqueKeys) ∧
      ((∃ fault, parseJson text = .error (.malformedDocument (.repeatedProperty fault))) ↔
        ∃ key rest, Repeats false 127 key text.toList rest) ∧
      ∀ failure, parseJson text = .error failure →
        (∃ key rest fault, Repeats true 127 key text.toList rest ∧
          fault = (repeated key rest).locate text.toList ∧ fault.cause = .duplicateProperty key ∧
            failure = .malformedDocument (.repeatedProperty fault)) ∨
        ∃ fault, Value.parse false text = .error fault ∧ failure = .malformedJson fault := by
  refine ⟨fun value => ?_, fun value => ?_, ?_, fun failure failed => ?_⟩
  · rw [parse_ok_iff, readText_ok_iff, IsJson]
  · rw [parseJson_ok_iff, readText_unique_ok_iff]
  · rw [← isRepeated_readText_iff]
    constructor
    · rintro ⟨fault, failed⟩
      rcases parseJson_error failed with ⟨key, rest, _, stopped, _⟩ | ⟨_, _, isSyntax⟩
      · exact ⟨key, rest, stopped⟩
      · cases isSyntax
    · rintro ⟨key, rest, stopped⟩
      exact ⟨_, parseJson_of_repeated stopped⟩
  · rcases parseJson_error failed with ⟨key, rest, repeats, _, rfl⟩ | isSyntax
    · exact .inl ⟨key, rest, _, repeats, rfl, cause_repeated key rest, rfl⟩
    · exact .inr isSyntax

end Document

end QueryPlanner
