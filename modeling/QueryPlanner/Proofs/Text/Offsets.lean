import QueryPlanner.Text.Lines

/-!
# Texts by byte offsets

The characters and parts of a text as they are found by counting bytes, and the line and the column
of an offset.  A part can be cut out of a text only between two places at which a character ends; a
cut anywhere else gives nothing.
-/

namespace QueryPlanner.Text

def charAt? (text : List Char) (offset : Nat) : Option Char :=
  (dropBytes offset text).bind List.head?

theorem dropBytes_eq_some_iff {text rest : List Char} {offset : Nat} :
    dropBytes offset text = some rest ↔
      ∃ front, text = front ++ rest ∧ offset = byteLength front := by
  constructor
  · intro dropped
    fun_induction dropBytes offset text with
    | case1 text =>
        cases dropped
        exact ⟨[], rfl, rfl⟩
    | case2 => cases dropped
    | case3 offset c tail fits inductionHypothesis =>
        obtain ⟨front, rfl, offsetEq⟩ := inductionHypothesis dropped
        refine ⟨c :: front, rfl, ?_⟩
        rw [byteLength]
        omega
    | case4 => cases dropped
  · rintro ⟨front, rfl, rfl⟩
    exact dropBytes_byteLength_append front rest

theorem lt_of_charAt? {text : List Char} {offset : Nat} {c : Char}
    (found : charAt? text offset = some c) : offset < byteLength text := by
  obtain ⟨rest, dropped, isHead⟩ := Option.bind_eq_some_iff.mp found
  obtain ⟨front, rfl, rfl⟩ := dropBytes_eq_some_iff.mp dropped
  obtain ⟨tail, rfl⟩ := List.head?_eq_some_iff.mp isHead
  have positive := Char.utf8Size_pos c
  rw [byteLength_append, byteLength]
  omega

/-- The part between two byte offsets.  There is none if they are out of order, or if one of them is
past the end or inside a character. -/
def cut? (text : List Char) (start stop : Nat) : Option (List Char) :=
  if start ≤ stop then
    (dropBytes start text).bind fun behind =>
      (dropBytes (stop - start) behind).map fun _ => takeBytes (stop - start) behind
  else none

/-- Past the characters from a byte offset on that meet a condition. -/
def skipWhile (p : Char → Bool) (text : List Char) (offset : Nat) : Nat :=
  match found : charAt? text offset with
  | some c =>
      if p c then
        have := lt_of_charAt? found
        have := Char.utf8Size_pos c
        skipWhile p text (offset + c.utf8Size)
      else offset
  | none => offset
termination_by byteLength text - offset

/-- The last byte offset up to a given one that is not inside a character. -/
def floorBoundary (text : List Char) : Nat → Nat
  | 0 => 0
  | offset + 1 =>
      if (dropBytes (offset + 1) text).isSome then offset + 1 else floorBoundary text offset

def lastLineFeed? : List Char → Option Nat
  | [] => none
  | c :: rest =>
      match lastLineFeed? rest with
      | some offset => some (c.utf8Size + offset)
      | none => if c = '\n' then some 0 else none

/-- The line and the column of a byte offset, counted in the part in front of it. -/
def positionAt? (text : List Char) (offset : Nat) : Option (Nat × Nat) := do
  let before ← cut? text 0 (floorBoundary text (min offset (byteLength text)))
  let lastLine ← match lastLineFeed? before with
    | some feed => dropBytes (feed + 1) before
    | none => some before
  return (before.count '\n' + 1, lastLine.length + 1)

variable {text front back rest part : List Char} {start stop offset : Nat} {c : Char}

section Boundaries

theorem takeBytes_byteLength_append (front back : List Char) :
    takeBytes (byteLength front) (front ++ back) = front := by
  induction front with
  | nil =>
      cases back with
      | nil => rfl
      | cons c back =>
          have positive := Char.utf8Size_pos c
          rw [List.nil_append, byteLength, takeBytes, if_neg (by omega)]
  | cons c front inductionHypothesis =>
      rw [List.cons_append, byteLength, takeBytes, if_pos (Nat.le_add_right _ _),
        Nat.add_sub_cancel_left, inductionHypothesis]

theorem exists_takeBytes (offset : Nat) (text : List Char) :
    ∃ rest, text = takeBytes offset text ++ rest ∧ byteLength (takeBytes offset text) ≤ offset ∧
      ∀ c ∈ rest.head?, offset < byteLength (takeBytes offset text) + c.utf8Size := by
  fun_induction takeBytes offset text with
  | case1 => exact ⟨[], rfl, Nat.zero_le _, nofun⟩
  | case2 offset c rest fits inductionHypothesis =>
      obtain ⟨behind, restEq, before, inside⟩ := inductionHypothesis
      refine ⟨behind, congrArg (c :: ·) restEq, ?_, fun d isHead => ?_⟩
      · rw [byteLength]
        omega
      · have further := inside d isHead
        rw [byteLength]
        omega
  | case3 offset c rest wide =>
      refine ⟨c :: rest, rfl, Nat.zero_le _, ?_⟩
      rintro d ⟨⟩
      rw [byteLength]
      omega

theorem byteLength_eq_zero : byteLength text = 0 ↔ text = [] := by
  cases text with
  | nil => exact iff_of_true rfl rfl
  | cons c text =>
      have positive := Char.utf8Size_pos c
      refine iff_of_false ?_ (List.cons_ne_nil c text)
      rw [byteLength]
      omega

theorem utf8Size_of_ascii (isAscii : c.toNat < 0x80) : c.utf8Size = 1 := by
  have small : c.val ≤ 0x7F := by
    rw [UInt32.le_iff_toNat_le]
    exact Nat.le_of_lt_succ isAscii
  exact if_pos small

theorem dropBytes_past (dropped : dropBytes offset text = some (part ++ rest)) :
    dropBytes (offset + byteLength part) text = some rest := by
  obtain ⟨front, rfl, rfl⟩ := dropBytes_eq_some_iff.mp dropped
  exact dropBytes_eq_some_iff.mpr ⟨front ++ part, by simp, by simp⟩

theorem dropBytes_next (dropped : dropBytes offset text = some (c :: rest)) :
    dropBytes (offset + c.utf8Size) text = some rest :=
  dropBytes_past (show dropBytes offset text = some ([c] ++ rest) from dropped)

theorem charAt?_of_dropBytes (dropped : dropBytes offset text = some rest) :
    charAt? text offset = rest.head? := by
  rw [charAt?, dropped, Option.bind_some]

theorem le_skipWhile (p : Char → Bool) (text : List Char) (offset : Nat) :
    offset ≤ skipWhile p text offset := by
  fun_induction skipWhile p text offset with
  | case1 offset c found continues inText positive inductionHypothesis => omega
  | case2 => exact Nat.le_refl _
  | case3 => exact Nat.le_refl _

theorem skipWhile_eq {p : Char → Bool} (dropped : dropBytes offset text = some rest) :
    skipWhile p text offset = offset + byteLength (rest.takeWhile p) := by
  induction rest generalizing offset with
  | nil =>
      have none := charAt?_of_dropBytes dropped
      rw [skipWhile]
      split
      next found => cases none.symm.trans found
      next => rfl
  | cons c rest inductionHypothesis =>
      have found := charAt?_of_dropBytes dropped
      rw [skipWhile]
      split
      next other otherFound =>
        cases found.symm.trans otherFound
        by_cases continues : p c = true
        · rw [if_pos continues, List.takeWhile_cons_of_pos continues, byteLength,
            inductionHypothesis (dropBytes_next dropped), Nat.add_assoc]
        · rw [if_neg continues, List.takeWhile_cons_of_neg continues]
          rfl
      next otherFound => cases found.symm.trans otherFound

/-- A part is cut out exactly if it lies between the offsets. -/
theorem cut?_eq_some_iff : cut? text start stop = some part ↔
    ∃ before after, text = before ++ part ++ after ∧ start = byteLength before ∧
      stop = byteLength (before ++ part) := by
  constructor
  · intro isCut
    unfold cut? at isCut
    split at isCut
    next inOrder =>
      obtain ⟨behind, dropped, isCut⟩ := Option.bind_eq_some_iff.mp isCut
      obtain ⟨after, droppedAgain, taken⟩ := Option.map_eq_some_iff.mp isCut
      obtain ⟨before, rfl, rfl⟩ := dropBytes_eq_some_iff.mp dropped
      obtain ⟨inner, rfl, lengthEq⟩ := dropBytes_eq_some_iff.mp droppedAgain
      rw [lengthEq, takeBytes_byteLength_append] at taken
      subst taken
      refine ⟨before, after, (List.append_assoc _ _ _).symm, rfl, ?_⟩
      rw [byteLength_append]
      omega
    next => cases isCut
  · rintro ⟨before, after, rfl, rfl, rfl⟩
    unfold cut?
    rw [byteLength_append, if_pos (Nat.le_add_right _ _), List.append_assoc,
      dropBytes_byteLength_append, Option.bind_some, Nat.add_sub_cancel_left,
      dropBytes_byteLength_append, takeBytes_byteLength_append]
    rfl

theorem cut?_of_dropBytes (dropped : dropBytes offset text = some (part ++ rest)) :
    cut? text offset (offset + byteLength part) = some part := by
  obtain ⟨front, rfl, rfl⟩ := dropBytes_eq_some_iff.mp dropped
  exact cut?_eq_some_iff.mpr ⟨front, rest, by simp, rfl, by simp⟩

theorem dropBytes_of_cut? (isCut : cut? text start stop = some part) :
    ∃ after, dropBytes start text = some (part ++ after) := by
  obtain ⟨before, after, rfl, rfl, _⟩ := cut?_eq_some_iff.mp isCut
  exact ⟨after, dropBytes_eq_some_iff.mpr ⟨before, List.append_assoc _ _ _, rfl⟩⟩

theorem cut?_next (isCut : cut? text start offset = some part)
    (dropped : dropBytes offset text = some (c :: rest)) :
    cut? text start (offset + c.utf8Size) = some (part ++ [c]) := by
  obtain ⟨before, after, rfl, rfl, rfl⟩ := cut?_eq_some_iff.mp isCut
  rw [dropBytes_byteLength_append] at dropped
  cases dropped
  refine cut?_eq_some_iff.mpr ⟨before, rest, by simp, rfl, ?_⟩
  rw [← List.append_assoc, byteLength_append (before ++ part)]
  rfl

theorem byteLength_lt_of_dropBytes (dropped : dropBytes offset (front ++ back) = some rest)
    (behind : byteLength front < offset) :
    ∃ c ∈ back.head?, byteLength front + c.utf8Size ≤ offset := by
  obtain ⟨longer, sameText, rfl⟩ := dropBytes_eq_some_iff.mp dropped
  rcases List.append_eq_append_iff.mp sameText with ⟨more, rfl, rfl⟩ | ⟨more, rfl, _⟩
  · cases more with
    | nil =>
        rw [List.append_nil] at behind
        exact absurd behind (Nat.lt_irrefl _)
    | cons c more =>
        refine ⟨c, rfl, ?_⟩
        rw [byteLength_append, byteLength]
        omega
  · rw [byteLength_append] at behind
    omega

theorem floorBoundary_eq (before : byteLength front ≤ offset)
    (inside : ∀ c ∈ back.head?, offset < byteLength front + c.utf8Size) :
    floorBoundary (front ++ back) offset = byteLength front := by
  induction offset with
  | zero => exact (Nat.le_zero.mp before).symm
  | succ offset inductionHypothesis =>
      rw [floorBoundary]
      rcases Nat.eq_or_lt_of_le before with atEnd | behind
      · rw [← atEnd, dropBytes_byteLength_append]
        rfl
      · have none : dropBytes (offset + 1) (front ++ back) = none := by
          refine Option.eq_none_iff_forall_ne_some.mpr fun rest dropped => ?_
          obtain ⟨c, isHead, past⟩ := byteLength_lt_of_dropBytes dropped behind
          exact absurd (inside c isHead) (Nat.not_lt.mpr past)
        rw [none, Option.isSome_none, if_neg Bool.false_ne_true]
        refine inductionHypothesis (Nat.le_of_lt_succ behind) fun c isHead => ?_
        exact Nat.lt_of_succ_lt (inside c isHead)

end Boundaries

section Positions

theorem lastLineFeed?_eq_none (found : lastLineFeed? text = none) : '\n' ∉ text := by
  fun_induction lastLineFeed? text with
  | case1 => exact List.not_mem_nil
  | case2 => cases found
  | case3 => cases found
  | case4 c rest restNone notFeed inductionHypothesis =>
      exact List.not_mem_cons_of_ne_of_not_mem (Ne.symm notFeed) (inductionHypothesis restNone)

theorem exists_of_lastLineFeed? {feed : Nat} (found : lastLineFeed? text = some feed) :
    ∃ lines last, text = lines ++ '\n' :: last ∧ feed = byteLength lines ∧ '\n' ∉ last := by
  fun_induction lastLineFeed? text generalizing feed with
  | case1 => cases found
  | case2 c rest offset restFound inductionHypothesis =>
      cases found
      obtain ⟨lines, last, rfl, rfl, noFeed⟩ := inductionHypothesis restFound
      exact ⟨c :: lines, last, rfl, rfl, noFeed⟩
  | case3 rest restNone =>
      cases found
      exact ⟨[], rest, rfl, rfl, lastLineFeed?_eq_none restNone⟩
  | case4 => cases found

theorem length_lastLine {lines last : List Char} (noFeed : '\n' ∉ last)
    (begins : ∀ c ∈ lines.getLast?, c = '\n') :
    ((lines ++ last).reverse.takeWhile (· ≠ '\n')).length = last.length := by
  have allBehind : ∀ c ∈ last.reverse, decide (c ≠ '\n') = true := by
    intro c member
    refine decide_eq_true fun isFeed => noFeed ?_
    rw [← isFeed]
    exact List.mem_reverse.mp member
  have stops : lines.reverse.takeWhile (· ≠ '\n') = [] := by
    cases reversed : lines.reverse with
    | nil => rfl
    | cons c more =>
        obtain rfl : c = '\n' := begins c (by rw [← List.head?_reverse, reversed]; rfl)
        rfl
  rw [List.reverse_append, List.takeWhile_append_of_pos allBehind, stops, List.append_nil,
    List.length_reverse]

/-- The position of an offset is found by cutting, and none of the cuts fails. -/
theorem positionAt?_eq (text : List Char) (offset : Nat) :
    positionAt? text offset = some (lineAt text offset, columnAt text offset) := by
  obtain ⟨rest, textEq, before, inside⟩ := exists_takeBytes offset text
  have floorEq : floorBoundary text (min offset (byteLength text)) =
      byteLength (takeBytes offset text) := by
    conv => lhs; rw [textEq]
    refine floorBoundary_eq (Nat.le_min.mpr ⟨before, ?_⟩) fun c isHead => ?_
    · rw [byteLength_append]
      exact Nat.le_add_right _ _
    · exact Nat.lt_of_le_of_lt (Nat.min_le_left _ _) (inside c isHead)
  have isCut : cut? text 0 (byteLength (takeBytes offset text)) = some (takeBytes offset text) :=
    cut?_eq_some_iff.mpr ⟨[], rest, textEq, rfl, rfl⟩
  rw [positionAt?, floorEq, isCut]
  simp only [lineAt, columnAt]
  generalize takeBytes offset text = front
  cases found : lastLineFeed? front with
  | none =>
      have lengthEq : (([] ++ front).reverse.takeWhile (· ≠ '\n')).length = front.length :=
        length_lastLine (lastLineFeed?_eq_none found) nofun
      rw [List.nil_append] at lengthEq
      simp only [bind, Option.bind, pure, found, lengthEq]
  | some feed =>
      obtain ⟨lines, last, rfl, rfl, noFeed⟩ := exists_of_lastLineFeed? found
      have lengthEq : ((lines ++ ['\n'] ++ last).reverse.takeWhile (· ≠ '\n')).length =
          last.length := length_lastLine noFeed (by simp)
      have dropped : dropBytes (byteLength lines + 1) (lines ++ '\n' :: last) = some last :=
        dropBytes_eq_some_iff.mpr ⟨lines ++ ['\n'], by simp, by rw [byteLength_append]; rfl⟩
      rw [List.append_assoc, List.singleton_append] at lengthEq
      simp only [bind, Option.bind, pure, found, dropped, lengthEq]

/-- Two places of a text differ in their line or in their column. -/
theorem eq_of_position_eq {other otherBack : List Char} (same : front ++ back = other ++ otherBack)
    (sameLine : front.count '\n' = other.count '\n')
    (sameColumn : (front.reverse.takeWhile (· ≠ '\n')).length =
      (other.reverse.takeWhile (· ≠ '\n')).length) : front = other := by
  have shorter {front more : List Char}
      (sameLine : front.count '\n' = (front ++ more).count '\n')
      (sameColumn : (front.reverse.takeWhile (· ≠ '\n')).length =
        ((front ++ more).reverse.takeWhile (· ≠ '\n')).length) : more = [] := by
    rw [List.count_append, Nat.left_eq_add, List.count_eq_zero] at sameLine
    have allBehind : ∀ c ∈ more.reverse, decide (c ≠ '\n') = true := by
      intro c member
      refine decide_eq_true fun isFeed => sameLine ?_
      rw [← isFeed]
      exact List.mem_reverse.mp member
    rw [List.reverse_append, List.takeWhile_append_of_pos allBehind, List.length_append,
      Nat.right_eq_add, List.length_reverse] at sameColumn
    exact List.length_eq_zero_iff.mp sameColumn
  rcases List.append_eq_append_iff.mp same with ⟨more, rfl, _⟩ | ⟨more, rfl, _⟩
  · rw [shorter sameLine sameColumn, List.append_nil]
  · rw [shorter sameLine.symm sameColumn.symm, List.append_nil]

end Positions

end QueryPlanner.Text
