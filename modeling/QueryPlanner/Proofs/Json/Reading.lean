import QueryPlanner.Proofs.Json.Grammar

/-!
# Reading by the grammar

The reader gives exactly the values of the grammar: in all texts, or in those whose objects do not
repeat a key.  Every part takes a character at least, so the bounds on their number are never met.
-/

namespace QueryPlanner.Json

open QueryPlanner.Number QueryPlanner.Text

section Lengths

variable {negative : Bool} {number : Nat} {power : Int} {text rest : List Char} {n : Number}

theorem length_dropWhile_le (p : Char → Bool) (text : List Char) :
    (text.dropWhile p).length ≤ text.length :=
  (List.dropWhile_suffix p).length_le

theorem length_of_finishNumber (read : finishNumber negative number power text = .ok (n, rest)) :
    rest.length ≤ text.length := by
  unfold finishNumber at read
  split at read
  next =>
    cases read
    exact Nat.le_refl _
  next => cases read

theorem length_of_readPower (read : readPower negative number power text = .ok (n, rest)) :
    rest.length ≤ text.length := by
  unfold readPower at read
  have signLength : (splitSign text).2.length ≤ text.length := by
    unfold splitSign
    split <;> simp
  have digitsLength : (spanDigits (splitSign text).2).2.length ≤ text.length :=
    Nat.le_trans (length_dropWhile_le _ _) signLength
  dsimp only at read
  split at read
  next => cases read
  next => cases read
  next =>
    split at read
    next => exact Nat.le_trans (length_of_finishNumber read) digitsLength
    next =>
      split at read
      next =>
        cases read
        exact digitsLength
      next => cases read

theorem length_of_readTail (read : readTail negative number power text = .ok (n, rest)) :
    rest.length ≤ text.length := by
  unfold readTail at read
  split at read
  next => exact Nat.le_succ_of_le (length_of_readPower read)
  next => exact Nat.le_succ_of_le (length_of_readPower read)
  next => exact length_of_finishNumber read

theorem length_of_readFraction (read : readFraction negative number power text = .ok (n, rest)) :
    rest.length ≤ text.length := by
  unfold readFraction at read
  dsimp only at read
  split at read
  next => cases read
  next => cases read
  next => exact Nat.le_trans (length_of_readTail read) (length_dropWhile_le _ _)

theorem length_of_readAfterWhole {digits : List Char}
    (read : readAfterWhole negative digits text = .ok (n, rest)) : rest.length ≤ text.length := by
  unfold readAfterWhole at read
  dsimp only at read
  split at read
  next => exact Nat.le_succ_of_le (length_of_readFraction read)
  next =>
    split at read
    next => exact length_of_readTail read
    next => exact length_of_readTail read
    next =>
      cases read
      exact Nat.le_refl _
    next => exact length_of_finishNumber read

theorem length_of_readNumber (read : readNumber negative text = .ok (n, rest)) :
    rest.length < text.length := by
  unfold readNumber at read
  split at read
  next => cases read
  next tail =>
    apply Nat.lt_succ_of_le
    split at read
    next =>
      split at read
      next => cases read
      next => exact length_of_readAfterWhole read
    next => exact length_of_readAfterWhole read
  next =>
    dsimp only at read
    split at read
    next => cases read
    next nonempty =>
      apply Nat.lt_of_le_of_lt (length_of_readAfterWhole read)
      have spanned : (spanDigits text).1.length + (spanDigits text).2.length = text.length := by
        rw [spanDigits, ← List.length_append, List.takeWhile_append_dropWhile]
      have positive := List.length_pos_iff.mpr nonempty
      omega

theorem length_of_readString {shown : List Char} (read : readString text = .ok (shown, rest)) :
    rest.length < text.length := by
  fun_induction readString text generalizing shown with
  | case1 => cases read
  | case2 tail =>
      cases read
      exact Nat.lt_succ_self _
  | case3 => cases read
  | case4 => cases read
  | case5 escaped tail decoded left found _ _ inductionHypothesis =>
      obtain ⟨⟨value, after⟩, tailRead, equality⟩ := exists_of_map_ok read
      cases equality
      have := inductionHypothesis tailRead
      simp only [List.length_cons]
      omega
  | case6 => cases read
  | case7 c tail _ _ _ inductionHypothesis =>
      obtain ⟨⟨value, after⟩, tailRead, equality⟩ := exists_of_map_ok read
      cases equality
      exact Nat.lt_succ_of_lt (inductionHypothesis tailRead)

theorem length_skipSpace_le (text : List Char) : (skipSpace text).length ≤ text.length :=
  length_dropWhile_le _ text

theorem lt_of_skipSpace {c : Char} {more : List Char} (skipped : skipSpace text = c :: more) :
    more.length < text.length := by
  have lengthLe := length_skipSpace_le text
  rw [skipped, List.length_cons] at lengthLe
  exact lengthLe

end Lengths

/-- What a reader gives stands at the front of the text. -/
def Gives {α : Type} (read : List Char → Except Misread (α × List Char)) : AtFront α :=
  fun a text rest => read text = .ok (a, rest)

/-- What a reader gives takes a character at least, the first of which is no closing bracket. -/
structure IsPart {α : Type} (part : AtFront α) : Prop where
  shorter : ∀ {a text rest}, part a text rest → rest.length < text.length
  open_ne : ∀ {a rest inside}, ¬part a (']' :: inside) rest

theorem IsPart.ne_nil {α : Type} {part : AtFront α} (isPart : IsPart part) {a : α}
    {text rest : List Char} (atFront : part a text rest) : text ≠ [] := by
  rintro rfl
  exact Nat.not_lt_zero _ (isPart.shorter atFront)

section Parts

variable {unique : Bool} {value : AtFront Value} {text rest : List Char}

theorem isPart_isScalar : IsPart IsScalar := by
  constructor
  · intro v text rest isScalar
    apply Nat.lt_of_lt_of_le _ (length_skipSpace_le text)
    cases isScalar with
    | word isWord begins =>
        rw [begins, List.length_append]
        cases isWord <;> simp
    | unsigned isDigit begins read =>
        rw [begins]
        exact length_of_readNumber read
    | negative begins read =>
        rw [begins]
        exact Nat.lt_succ_of_lt (length_of_readNumber read)
    | string begins read =>
        rw [begins]
        exact Nat.lt_succ_of_lt (length_of_readString read)
  · intro v rest inside isScalar
    have bracket : skipSpace (']' :: inside) = ']' :: inside := rfl
    cases isScalar with
    | word isWord begins =>
        rw [bracket] at begins
        cases isWord <;> cases begins
    | unsigned isDigit begins read =>
        cases bracket.symm.trans begins
        cases isDigit
    | negative begins read => cases bracket.symm.trans begins
    | string begins read => cases bracket.symm.trans begins

theorem IsMember.begins {member : String × Value} (isMember : IsMember value member text rest) :
    ∃ inside, text = '"' :: inside := by
  cases isMember with
  | pair isKey =>
      cases isKey with
      | quoted => exact ⟨_, rfl⟩

theorem Listed.begins {α : Type} {part : AtFront α} {front : List α} {last : α}
    {lastText after : List Char} (isFront : Listed part front text lastText)
    (isLast : part last lastText after) : ∃ first behind, part first text behind := by
  cases isFront with
  | nil => exact ⟨last, after, isLast⟩
  | cons first => exact ⟨_, _, first⟩

namespace IsPart

theorem isMember (isPart : IsPart value) : IsPart (IsMember value) := by
  constructor
  · intro member text rest isMember
    cases isMember with
    | pair isKey colon isValue =>
        cases isKey with
        | quoted keyRead =>
            have keyShorter := length_of_readString keyRead
            have colonShorter := lt_of_skipSpace colon
            have valueShorter := isPart.shorter isValue
            rw [List.length_cons]
            omega
  · intro member rest inside isMember
    obtain ⟨_, begins⟩ := isMember.begins
    cases begins

theorem length_next_lt {α : Type} {part : AtFront α} (isPart : IsPart part) {a : α}
    {after more : List Char} (first : part a text after) (comma : skipSpace after = ',' :: more) :
    (skipSpace more).length < text.length :=
  calc
    (skipSpace more).length ≤ more.length := length_skipSpace_le more
    _ < after.length := lt_of_skipSpace comma
    _ < text.length := isPart.shorter first

theorem listed {α : Type} {part : AtFront α} (isPart : IsPart part) {parts : List α}
    (listed : Listed part parts text rest) : rest.length ≤ text.length := by
  induction listed with
  | nil => exact Nat.le_refl _
  | cons first comma behind inductionHypothesis =>
      exact Nat.le_of_lt (Nat.lt_of_le_of_lt inductionHypothesis (isPart.length_next_lt first comma))

/-- Parts with their brackets around them take more than their opening bracket. -/
theorem enclosed {α : Type} {part : AtFront α} (isPart : IsPart part) {front : List α} {last : α}
    {opening closing : Char} {inside lastText after : List Char}
    (opens : skipSpace text = opening :: inside)
    (isFront : Listed part front (skipSpace inside) lastText) (isLast : part last lastText after)
    (closes : skipSpace after = closing :: rest) : rest.length < text.length := by
  have opened := lt_of_skipSpace opens
  have skipped := length_skipSpace_le inside
  have frontLength := isPart.listed isFront
  have lastShorter := isPart.shorter isLast
  have closed := lt_of_skipSpace closes
  omega

theorem isComposite (isPart : IsPart value) : IsPart (IsComposite unique value) := by
  constructor
  · intro v text rest isComposite
    cases isComposite with
    | emptyArray opens closes =>
        exact Nat.lt_trans (lt_of_skipSpace closes) (lt_of_skipSpace opens)
    | array opens isFront isLast closes => exact isPart.enclosed opens isFront isLast closes
    | emptyObject opens closes =>
        exact Nat.lt_trans (lt_of_skipSpace closes) (lt_of_skipSpace opens)
    | object opens isFront isLast closes =>
        exact isPart.isMember.enclosed opens isFront isLast closes
  · intro v rest inside isComposite
    have bracket : skipSpace (']' :: inside) = ']' :: inside := rfl
    cases isComposite with
    | emptyArray opens => cases bracket.symm.trans opens
    | array opens => cases bracket.symm.trans opens
    | emptyObject opens => cases bracket.symm.trans opens
    | object opens => cases bracket.symm.trans opens

theorem spelled (unique : Bool) (levels : Nat) : IsPart (Spelled unique levels) := by
  induction levels with
  | zero => exact isPart_isScalar
  | succ levels inductionHypothesis =>
      have isComposite : IsPart (IsComposite unique (Spelled unique levels)) :=
        inductionHypothesis.isComposite
      constructor
      · rintro v text rest (isScalar | composite)
        · exact isPart_isScalar.shorter isScalar
        · exact isComposite.shorter composite
      · rintro v rest inside (isScalar | composite)
        · exact isPart_isScalar.open_ne isScalar
        · exact isComposite.open_ne composite

end IsPart

end Parts

section Items

variable {item : List Char → Except Misread (Value × List Char)} {bound : Nat}
  {text rest : List Char} {values : List Value}

theorem readItems_item {value : Value} {after more : List Char}
    (itemRead : item text = .ok (value, after)) (comma : skipSpace after = ',' :: more)
    (nonempty : skipSpace more ≠ []) (notClosed : ∀ inside, skipSpace more ≠ ']' :: inside) :
    readItems item (bound + 1) text = (do
      let (values, after) ← readItems item bound (skipSpace more)
      return (value :: values, after)) := by
  rw [readItems, itemRead]
  simp only [bind, Except.bind, comma]

/-- Items that are read have commas between them and a closing bracket behind them. -/
theorem exists_listed_of_readItems (isPart : IsPart (Gives item)) (nonempty : text ≠ [])
    (enough : text.length ≤ bound) (read : readItems item bound text = .ok (values, rest)) :
    ∃ front last lastText after, values = front ++ [last] ∧
      Listed (Gives item) front text lastText ∧ Gives item last lastText after ∧
        skipSpace after = ']' :: rest := by
  induction bound generalizing text values with
  | zero => exact absurd (List.eq_nil_of_length_eq_zero (Nat.le_zero.mp enough)) nonempty
  | succ bound inductionHypothesis =>
      rw [readItems] at read
      obtain ⟨⟨value, after⟩, itemRead, read⟩ := exists_of_bind_ok read
      dsimp only at read
      split at read
      next closes =>
        cases read
        exact ⟨[], value, text, after, rfl, .nil, itemRead, closes⟩
      next more comma =>
        split at read
        next => cases read
        next => cases read
        next notEnd notClosed =>
          obtain ⟨⟨others, behind⟩, othersRead, returned⟩ := exists_of_bind_ok read
          cases returned
          have fewer := isPart.length_next_lt itemRead comma
          obtain ⟨front, last, lastText, afterLast, rfl, isFront, isLast⟩ :=
            inductionHypothesis notEnd (by omega) othersRead
          exact ⟨value :: front, last, lastText, afterLast, rfl,
            .cons itemRead comma isFront, isLast⟩
      next => cases read
      next => cases read

theorem readItems_of_listed (isPart : IsPart (Gives item)) {front : List Value} {last : Value}
    {lastText after : List Char} (isFront : Listed (Gives item) front text lastText)
    (isLast : Gives item last lastText after) (closes : skipSpace after = ']' :: rest)
    (enough : text.length ≤ bound) :
    readItems item bound text = .ok (front ++ [last], rest) := by
  obtain ⟨bound, rfl⟩ : ∃ smaller, bound = smaller + 1 := by
    obtain ⟨first, beyond, firstRead⟩ := isFront.begins isLast
    have positive := List.length_pos_iff.mpr (isPart.ne_nil firstRead)
    exact Nat.exists_eq_add_one.mpr (by omega)
  induction isFront generalizing bound with
  | nil =>
      rw [readItems, isLast]
      simp only [bind, Except.bind, closes]
      rfl
  | @cons value others text between more lastText first comma behind inductionHypothesis =>
      obtain ⟨next, beyond, nextRead⟩ := behind.begins isLast
      have notClosed (inside : List Char) : skipSpace more ≠ ']' :: inside :=
        fun closed => isPart.open_ne (closed ▸ nextRead)
      have fewer := isPart.length_next_lt first comma
      obtain ⟨smaller, rfl⟩ : ∃ smaller, bound = smaller + 1 := by
        have positive := List.length_pos_iff.mpr (isPart.ne_nil nextRead)
        exact Nat.exists_eq_add_one.mpr (by omega)
      rw [readItems_item first comma (isPart.ne_nil nextRead) notClosed,
        inductionHypothesis isLast smaller (by omega)]
      rfl

end Items

section Members

variable {unique : Bool} {item : List Char → Except Misread (Value × List Char)} {bound : Nat}
  {before : List String} {text rest : List Char} {members : List (String × Value)}

/-- The keys of members differ from each other and from those before them. -/
structure AreNew (before : List String) (members : List (String × Value)) : Prop where
  distinct : (members.map Prod.fst).Nodup
  unseen : ∀ member ∈ members, member.1 ∉ before

theorem areNew_singleton {member : String × Value} (unseen : member.1 ∉ before) :
    AreNew before [member] :=
  ⟨List.pairwise_singleton _ _, fun _ isMember => List.mem_singleton.mp isMember ▸ unseen⟩

theorem areNew_cons {member : String × Value} :
    AreNew before (member :: members) ↔
      member.1 ∉ before ∧ AreNew (member.1 :: before) members := by
  constructor
  · rintro ⟨distinct, unseen⟩
    rw [List.map_cons, List.nodup_cons] at distinct
    refine ⟨unseen member (List.mem_cons_self), distinct.2, ?_⟩
    intro other isMember isOld
    rcases List.mem_cons.mp isOld with same | isOlder
    · exact distinct.1 (same ▸ List.mem_map_of_mem isMember)
    · exact unseen other (List.mem_cons_of_mem _ isMember) isOlder
  · rintro ⟨isNew, distinct, unseen⟩
    refine ⟨?_, ?_⟩
    · rw [List.map_cons, List.nodup_cons]
      refine ⟨?_, distinct⟩
      intro isRepeated
      obtain ⟨other, isMember, same⟩ := List.mem_map.mp isRepeated
      exact unseen other isMember (same ▸ List.mem_cons_self)
    · intro other isMember
      rcases List.mem_cons.mp isMember with rfl | isBehind
      · exact isNew
      · exact fun isOld => unseen other isBehind (List.mem_cons_of_mem _ isOld)

theorem readMemberValue_ok_iff {value : Value} :
    readMemberValue item text = .ok (value, rest) ↔
      ∃ valueText, skipSpace text = ':' :: valueText ∧ item valueText = .ok (value, rest) := by
  unfold readMemberValue
  cases skipped : skipSpace text with
  | nil => simp
  | cons c more =>
      by_cases isColon : c = ':'
      · simp [isColon]
      · simp [isColon]

theorem readMembers_member {member : String × Value} {after : List Char}
    (isMember : IsMember (Gives item) member text after)
    (isNew : unique = true → member.1 ∉ before) :
    readMembers unique item (bound + 1) before text =
      (match skipSpace after with
      | '}' :: rest => .ok ([member], rest)
      | ',' :: rest =>
          match skipSpace rest with
          | '"' :: rest => do
              let (members, after) ←
                readMembers unique item bound (member.1 :: before) ('"' :: rest)
              return (member :: members, after)
          | '}' :: rest => .error (.ahead .trailingComma ('}' :: rest))
          | [] => .error (.ahead .endInValue [])
          | rest => .error (.ahead .keyNotString rest)
      | [] => .error (.ahead .endInObject [])
      | rest => .error (.ahead .expectedObjectEnd rest)) := by
  cases isMember with
  | @pair key value text afterKey valueText rest isKey colon isValue =>
      cases isKey with
      | @quoted shown inside rest keyRead =>
          have valueRead := readMemberValue_ok_iff.mpr ⟨valueText, colon, isValue⟩
          have notRepeated : ¬(unique && before.contains (String.ofList shown)) = true := by
            simpa using isNew
          rw [readMembers, List.drop_succ_cons, List.drop_zero, keyRead]
          simp only [bind, Except.bind, if_neg notRepeated, valueRead]
          rfl

/-- Members that are read have commas between them and a closing brace behind them. -/
theorem exists_listed_of_readMembers (isPart : IsPart (Gives item)) {inside : List Char}
    (opens : text = '"' :: inside) (enough : text.length ≤ bound)
    (read : readMembers unique item bound before text = .ok (members, rest)) :
    ∃ front last lastText after, members = front ++ [last] ∧
      Listed (IsMember (Gives item)) front text lastText ∧
        IsMember (Gives item) last lastText after ∧ skipSpace after = '}' :: rest ∧
          (unique = true → AreNew before members) := by
  induction bound generalizing text inside before members with
  | zero =>
      subst opens
      cases enough
  | succ bound inductionHypothesis =>
      subst opens
      rw [readMembers] at read
      obtain ⟨⟨shown, afterKey⟩, keyRead, read⟩ := exists_of_bind_ok read
      have isKey : IsKey (String.ofList shown) ('"' :: inside) afterKey := .quoted keyRead
      dsimp only at read
      split at read
      next => cases read
      next notRepeated =>
        have isNew : unique = true → String.ofList shown ∉ before := by
          rintro rfl isOld
          exact notRepeated (by simpa using isOld)
        obtain ⟨⟨value, after⟩, valueRead, read⟩ := exists_of_bind_ok read
        obtain ⟨valueText, colon, isValue⟩ := readMemberValue_ok_iff.mp valueRead
        have isMember : IsMember (Gives item) (String.ofList shown, value) ('"' :: inside) after :=
          .pair isKey colon isValue
        dsimp only at read
        split at read
        next closes =>
          cases read
          exact ⟨[], _, _, after, rfl, .nil, isMember, closes,
            fun isUnique => areNew_singleton (isNew isUnique)⟩
        next more comma =>
          split at read
          next nextInside nextOpens =>
            obtain ⟨⟨others, behind⟩, othersRead, returned⟩ := exists_of_bind_ok read
            cases returned
            have fewer := isPart.isMember.length_next_lt isMember comma
            rw [nextOpens] at fewer
            obtain ⟨front, last, lastText, afterLast, rfl, isFront, isLast, closes, areNew⟩ :=
              inductionHypothesis rfl (by omega) othersRead
            refine ⟨_ :: front, last, lastText, afterLast, rfl, ?_, isLast, closes, ?_⟩
            · exact .cons isMember comma (nextOpens ▸ isFront)
            · exact fun isUnique => areNew_cons.mpr ⟨isNew isUnique, areNew isUnique⟩
          next => cases read
          next => cases read
          next => cases read
        next => cases read
        next => cases read

theorem readMembers_of_listed (isPart : IsPart (Gives item)) {front : List (String × Value)}
    {last : String × Value} {lastText after : List Char}
    (isFront : Listed (IsMember (Gives item)) front text lastText)
    (isLast : IsMember (Gives item) last lastText after) (closes : skipSpace after = '}' :: rest)
    (areNew : unique = true → AreNew before (front ++ [last])) (enough : text.length ≤ bound) :
    readMembers unique item bound before text = .ok (front ++ [last], rest) := by
  obtain ⟨bound, rfl⟩ : ∃ smaller, bound = smaller + 1 := by
    obtain ⟨first, beyond, firstMember⟩ := isFront.begins isLast
    have shorter := isPart.isMember.shorter firstMember
    exact Nat.exists_eq_add_one.mpr (by omega)
  induction isFront generalizing bound before with
  | nil =>
      rw [readMembers_member isLast fun isUnique =>
        (areNew isUnique).unseen last (List.mem_singleton.mpr rfl)]
      simp only [closes]
      rfl
  | @cons member others text between more lastText first comma behind inductionHypothesis =>
      obtain ⟨next, beyond, nextMember⟩ := behind.begins isLast
      obtain ⟨nextInside, nextOpens⟩ := nextMember.begins
      have fewer := isPart.isMember.length_next_lt first comma
      obtain ⟨smaller, rfl⟩ : ∃ smaller, bound = smaller + 1 := by
        have shorter := isPart.isMember.shorter nextMember
        exact Nat.exists_eq_add_one.mpr (by omega)
      rw [readMembers_member first fun isUnique => (areNew_cons.mp (areNew isUnique)).1]
      simp only [comma, nextOpens]
      rw [← nextOpens, inductionHypothesis isLast
        (fun isUnique => (areNew_cons.mp (areNew isUnique)).2) smaller (by omega)]
      rfl

end Members

section Values

variable {unique : Bool} {item : List Char → Except Misread (Value × List Char)} {levels : Nat}
  {text rest : List Char} {value : Value}

theorem isComposite_of_readArray (isPart : IsPart (Gives item)) {inside : List Char}
    (opens : skipSpace text = '[' :: inside) (read : readArray item inside = .ok (value, rest)) :
    IsComposite unique (Gives item) value text rest := by
  unfold readArray at read
  split at read
  next closes =>
    cases read
    exact .emptyArray opens closes
  next => cases read
  next notClosed nonempty =>
    obtain ⟨⟨items, behind⟩, itemsRead, returned⟩ := exists_of_map_ok read
    cases returned
    obtain ⟨front, last, lastText, after, rfl, isFront, isLast, closes⟩ :=
      exists_listed_of_readItems isPart nonempty (Nat.le_refl _) itemsRead
    exact .array opens isFront isLast closes

theorem isComposite_of_readObject (isPart : IsPart (Gives item)) {inside : List Char}
    (opens : skipSpace text = '{' :: inside)
    (read : readObject unique item inside = .ok (value, rest)) :
    IsComposite unique (Gives item) value text rest := by
  unfold readObject at read
  split at read
  next closes =>
    cases read
    exact .emptyObject opens closes
  next => cases read
  next key begins =>
    obtain ⟨⟨members, behind⟩, membersRead, returned⟩ := exists_of_map_ok read
    cases returned
    obtain ⟨front, last, lastText, after, rfl, isFront, isLast, closes, areNew⟩ :=
      exists_listed_of_readMembers isPart rfl (Nat.le_refl _) membersRead
    exact .object opens (begins ▸ isFront) isLast closes fun isUnique => (areNew isUnique).distinct
  next => cases read

/-- Arrays and objects are read if their parts are. -/
theorem isComposite_iff (isPart : IsPart (Gives item)) :
    IsComposite unique (Gives item) value text rest ↔
      (∃ inside, skipSpace text = '[' :: inside ∧ readArray item inside = .ok (value, rest)) ∨
        ∃ inside, skipSpace text = '{' :: inside ∧
          readObject unique item inside = .ok (value, rest) := by
  constructor
  · intro isComposite
    cases isComposite with
    | emptyArray opens closes =>
        refine .inl ⟨_, opens, ?_⟩
        simp only [readArray, closes]
    | @array front last text inside lastText after rest opens isFront isLast closes =>
        refine .inl ⟨inside, opens, ?_⟩
        obtain ⟨first, behind, isFirst⟩ := isFront.begins isLast
        unfold readArray
        split
        next closed => exact absurd (closed ▸ isFirst) isPart.open_ne
        next atEnd => exact absurd atEnd (isPart.ne_nil isFirst)
        next =>
          rw [readItems_of_listed isPart isFront isLast closes (Nat.le_refl _)]
          rfl
    | emptyObject opens closes =>
        refine .inr ⟨_, opens, ?_⟩
        simp only [readObject, closes]
    | @object front last text inside lastText after rest opens isFront isLast closes distinct =>
        refine .inr ⟨inside, opens, ?_⟩
        obtain ⟨first, behind, isFirst⟩ := isFront.begins isLast
        obtain ⟨key, begins⟩ := isFirst.begins
        have areNew (isUnique : unique = true) : AreNew [] (front ++ [last]) :=
          ⟨distinct isUnique, fun _ _ => List.not_mem_nil⟩
        have membersRead : readMembers unique item (key.length + 1) [] ('"' :: key) =
            .ok (front ++ [last], rest) :=
          readMembers_of_listed isPart (begins ▸ isFront) isLast closes areNew (Nat.le_refl _)
        simp only [readObject, begins, membersRead]
        rfl
  · rintro (⟨inside, opens, read⟩ | ⟨inside, opens, read⟩)
    · exact isComposite_of_readArray isPart opens read
    · exact isComposite_of_readObject isPart opens read

theorem readWord_ok_iff {v value : Value} {word : List Char} :
    readWord v word text = .ok (value, rest) ↔ value = v ∧ text = word ++ rest := by
  induction word generalizing text with
  | nil => simp [readWord, eq_comm]
  | cons letter word inductionHypothesis =>
      cases text with
      | nil => simp [readWord]
      | cons c text =>
          by_cases same : c = letter
          · simp [readWord, same, inductionHypothesis]
          · simp [readWord, same]

theorem readValue_of_isScalar (isScalar : IsScalar value text rest) :
    readValue unique levels text = .ok (value, rest) := by
  cases isScalar with
  | @word word text rest value isWord begins =>
      rw [readValue.eq_def, begins]
      cases isWord with
      | null => exact readWord_ok_iff.mpr ⟨rfl, rfl⟩
      | true => exact readWord_ok_iff.mpr ⟨rfl, rfl⟩
      | false => exact readWord_ok_iff.mpr ⟨rfl, rfl⟩
  | @unsigned c tail text rest n isDigit begins read =>
      have apart (other : Char) (noDigit : other.isDigit = false) : c ≠ other := by
        rintro rfl
        cases isDigit.symm.trans noDigit
      rw [readValue.eq_def, begins]
      simp only [apart 'n' rfl, apart 't' rfl, apart 'f' rfl, apart '-' rfl, isDigit, read,
        if_true, if_false]
      rfl
  | negative begins read =>
      rw [readValue.eq_def, begins]
      simp only [read]
      rfl
  | string begins read =>
      rw [readValue.eq_def, begins]
      simp only [read]
      rfl

theorem readValue_array {inside : List Char} (opens : skipSpace text = '[' :: inside) :
    readValue unique (levels + 1) text = readArray (readValue unique levels) inside := by
  rw [readValue.eq_def, opens]
  rfl

theorem readValue_object {inside : List Char} (opens : skipSpace text = '{' :: inside) :
    readValue unique (levels + 1) text = readObject unique (readValue unique levels) inside := by
  rw [readValue.eq_def, opens]
  rfl

/-- What is read has no parts, or it is an array or an object and there are levels left. -/
theorem readValue_cases (read : readValue unique levels text = .ok (value, rest)) :
    IsScalar value text rest ∨ ∃ fewer, levels = fewer + 1 ∧
      ((∃ inside, skipSpace text = '[' :: inside ∧
          readArray (readValue unique fewer) inside = .ok (value, rest)) ∨
        ∃ inside, skipSpace text = '{' :: inside ∧
          readObject unique (readValue unique fewer) inside = .ok (value, rest)) := by
  rw [readValue.eq_def] at read
  split at read
  next => cases read
  next c tail begins =>
    split at read
    next isN =>
      obtain ⟨rfl, rfl⟩ := readWord_ok_iff.mp read
      exact .inl (.word .null (isN ▸ begins))
    next =>
    split at read
    next isT =>
      obtain ⟨rfl, rfl⟩ := readWord_ok_iff.mp read
      exact .inl (.word .true (isT ▸ begins))
    next =>
    split at read
    next isF =>
      obtain ⟨rfl, rfl⟩ := readWord_ok_iff.mp read
      exact .inl (.word .false (isF ▸ begins))
    next =>
    split at read
    next isMinus =>
      obtain ⟨⟨n, after⟩, numberRead, returned⟩ := exists_of_map_ok read
      cases returned
      exact .inl (.negative (isMinus ▸ begins) numberRead)
    next =>
    split at read
    next isDigit =>
      obtain ⟨⟨n, after⟩, numberRead, returned⟩ := exists_of_map_ok read
      cases returned
      exact .inl (.unsigned isDigit begins numberRead)
    next =>
    split at read
    next isQuote =>
      obtain ⟨⟨shown, after⟩, stringRead, returned⟩ := exists_of_map_ok read
      cases returned
      exact .inl (.string (isQuote ▸ begins) stringRead)
    next =>
    split at read
    next opens =>
      split at read
      next => cases read
      next fewer =>
        refine .inr ⟨fewer, rfl, ?_⟩
        split at read
        next isArray => exact .inl ⟨tail, isArray ▸ begins, read⟩
        next notArray => exact .inr ⟨tail, opens.resolve_left notArray ▸ begins, read⟩
    next => cases read

/-- The reader gives the values of the grammar. -/
theorem gives_readValue (unique : Bool) (levels : Nat) :
    Gives (readValue unique levels) = Spelled unique levels := by
  induction levels with
  | zero =>
      funext value text rest
      refine propext ⟨fun read => ?_, readValue_of_isScalar⟩
      rcases readValue_cases read with isScalar | ⟨_, ⟨⟩, _⟩
      exact isScalar
  | succ levels inductionHypothesis =>
      have isPart : IsPart (Gives (readValue unique levels)) :=
        inductionHypothesis ▸ .spelled unique levels
      funext value text rest
      refine propext ⟨fun read => ?_, fun spelled => ?_⟩
      · rcases readValue_cases read with isScalar | ⟨_, ⟨⟩, isComposite⟩
        · exact .inl isScalar
        · exact .inr (inductionHypothesis ▸ (isComposite_iff isPart).mpr isComposite)
      · rcases spelled with isScalar | isComposite
        · exact readValue_of_isScalar isScalar
        · rw [← inductionHypothesis, isComposite_iff isPart] at isComposite
          rcases isComposite with ⟨inside, opens, read⟩ | ⟨inside, opens, read⟩
          · exact (readValue_array opens).trans read
          · exact (readValue_object opens).trans read

theorem readValue_ok_iff :
    readValue unique levels text = .ok (value, rest) ↔ Spelled unique levels value text rest := by
  rw [← gives_readValue]
  rfl

end Values

end QueryPlanner.Json
