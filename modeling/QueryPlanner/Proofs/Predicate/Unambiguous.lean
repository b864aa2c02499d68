import QueryPlanner.Proofs.Predicate.Shown

/-!
# Shown predicates are told apart

A predicate is shown as a row of operands with the same word between any two of them.  An operand in
parentheses is a row of its own, and the word `EXISTS` opens one as well.  Where an operand ends is
known from its own characters, whatever its strings contain, so the row is known from how it is
shown, and from the row the predicate.
-/

namespace QueryPlanner

open QueryPlanner.Text

inductive Junction where
  | and
  | or
  deriving DecidableEq

namespace Junction

def join : Junction → Predicate → Predicate → Predicate
  | and => .and
  | or => .or

def display : Junction → List Char
  | and => [' ', 'A', 'N', 'D', ' ']
  | or => [' ', 'O', 'R', ' ']

theorem display_append_inj {junction other : Junction} {rest otherRest : List Char}
    (same : junction.display ++ rest = other.display ++ otherRest) :
    junction = other ∧ rest = otherRest := by
  cases junction <;> cases other <;> simp_all [display]

end Junction

namespace Predicate

/-- A predicate of plain names and without infinite numbers. -/
def IsPlain : Predicate → Prop
  | compare field _ value => field.IsPlain ∧ value.IsFinite
  | and left right => left.IsPlain ∧ right.IsPlain
  | or left right => left.IsPlain ∧ right.IsPlain
  | any relation inner => relation.IsPlain ∧ inner.IsPlain

def isJoined (predicate : Predicate) : Bool :=
  predicate.isAnd || predicate.isOr

/-- A predicate as it is shown to the right of a word. -/
def operandChars (predicate : Predicate) : List Char :=
  parenthesized predicate.isJoined predicate.displayChars

def firstOperand : Predicate → Predicate
  | and left _ => if left.isOr then left else left.firstOperand
  | or left _ => if left.isAnd then left else left.firstOperand
  | compare field op value => compare field op value
  | any relation inner => any relation inner

/-- The operands behind the first one, each with the word before it. -/
def furtherOperands : Predicate → List (Junction × Predicate)
  | and left right => (if left.isOr then [] else left.furtherOperands) ++ [(.and, right)]
  | or left right => (if left.isAnd then [] else left.furtherOperands) ++ [(.or, right)]
  | compare _ _ _ => []
  | any _ _ => []

def operands (predicate : Predicate) : List Predicate :=
  predicate.firstOperand :: predicate.furtherOperands.map Prod.snd

def stepsChars (steps : List (Junction × Predicate)) : List Char :=
  steps.flatMap fun (junction, operand) => junction.display ++ operand.operandChars

end Predicate

def Junction.differs : Junction → Predicate → Bool
  | and => Predicate.isOr
  | or => Predicate.isAnd

namespace Predicate

section Joining

variable (junction : Junction) (left right : Predicate)

@[simp]
theorem isJoined_join : (junction.join left right).isJoined = true := by
  cases junction <;> rfl

theorem isPlain_join :
    (junction.join left right).IsPlain ↔ left.IsPlain ∧ right.IsPlain := by
  cases junction <;> rfl

theorem displayChars_join : (junction.join left right).displayChars =
    parenthesized (junction.differs left) left.displayChars ++
      (junction.display ++ right.operandChars) := by
  cases junction <;> exact List.append_assoc _ _ _

theorem firstOperand_join : (junction.join left right).firstOperand =
    if junction.differs left then left else left.firstOperand := by
  cases junction <;> rfl

theorem furtherOperands_join : (junction.join left right).furtherOperands =
    (if junction.differs left then [] else left.furtherOperands) ++ [(junction, right)] := by
  cases junction <;> rfl

theorem forall_operands_join {p : Predicate → Prop} {left right : Predicate} (ofLeft : p left)
    (ofOperands : ∀ operand ∈ left.operands, p operand) (ofRight : p right) :
    ∀ operand ∈ (junction.join left right).operands, p operand := by
  obtain ⟨ofFirst, ofFurther⟩ := List.forall_mem_cons.mp ofOperands
  have ofLast : ∀ operand ∈ [right], p operand := List.forall_mem_singleton.mpr ofRight
  rw [operands, firstOperand_join, furtherOperands_join, List.map_append, List.forall_mem_cons,
    List.forall_mem_append]
  split
  next => exact ⟨ofLeft, List.forall_mem_nil p, ofLast⟩
  next => exact ⟨ofFirst, ofFurther, ofLast⟩

theorem isJoined_of_differs {junction : Junction} {left : Predicate}
    (differs : junction.differs left = true) : left.isJoined = true := by
  cases junction with
  | and => exact Bool.or_eq_true_iff.mpr (.inr differs)
  | or => exact Bool.or_eq_true_iff.mpr (.inl differs)

/-- Every predicate is a comparison, asks for a related row, or joins two predicates. -/
@[elab_as_elim]
theorem joinInduction {motive : Predicate → Prop}
    (compare : ∀ field op value, motive (.compare field op value))
    (any : ∀ relation inner, motive inner → motive (.any relation inner))
    (join : ∀ (junction : Junction) left right, motive left → motive right →
      motive (junction.join left right)) (predicate : Predicate) : motive predicate := by
  induction predicate with
  | compare field op value => exact compare field op value
  | and left right ofLeft ofRight => exact join .and left right ofLeft ofRight
  | or left right ofLeft ofRight => exact join .or left right ofLeft ofRight
  | any relation inner ofInner => exact any relation inner ofInner

end Joining

variable {predicate other : Predicate} {rest otherRest : List Char}

section Rows

theorem displayChars_eq (predicate : Predicate) : predicate.displayChars =
    predicate.firstOperand.operandChars ++ stepsChars predicate.furtherOperands := by
  induction predicate using joinInduction with
  | compare field op value => exact (List.append_nil _).symm
  | any relation inner => exact (List.append_nil _).symm
  | join junction left right leftEq _ =>
      rw [displayChars_join, firstOperand_join, furtherOperands_join]
      cases differs : junction.differs left with
      | true =>
          have leftChars : left.operandChars = parenthesized true left.displayChars := by
            rw [operandChars, isJoined_of_differs differs]
          rw [if_pos rfl, if_pos rfl, leftChars]
          simp [stepsChars]
      | false =>
          rw [if_neg Bool.false_ne_true, if_neg Bool.false_ne_true, parenthesized,
            if_neg Bool.false_ne_true, leftEq]
          simp [stepsChars]

theorem foldl_operands (predicate : Predicate) :
    predicate.furtherOperands.foldl (fun front (junction, operand) => junction.join front operand)
      predicate.firstOperand = predicate := by
  induction predicate using joinInduction with
  | compare field op value => rfl
  | any relation inner => rfl
  | join junction left right leftEq _ =>
      rw [firstOperand_join, furtherOperands_join, List.foldl_append]
      split
      next => rfl
      next => rw [leftEq]; rfl

theorem IsPlain.operands (plain : predicate.IsPlain) :
    ∀ operand ∈ predicate.operands, operand.IsPlain := by
  induction predicate using joinInduction with
  | compare field op value => exact List.forall_mem_singleton.mpr plain
  | any relation inner => exact List.forall_mem_singleton.mpr plain
  | join junction left right ofLeft _ =>
      obtain ⟨leftPlain, rightPlain⟩ := (isPlain_join junction left right).mp plain
      exact forall_operands_join junction leftPlain (ofLeft leftPlain) rightPlain

end Rows

/-- What may stand behind a predicate. -/
def EndsPredicate (rest : List Char) : Prop :=
  ∀ c ∈ rest.head?, c = ')'

/-- What may stand behind an operand. -/
def EndsOperand (rest : List Char) : Prop :=
  ∀ c ∈ rest.head?, c = ' ' ∨ c = ')'

/-- A predicate is known from how it is shown, whatever follows it. -/
def IsKnown (predicate : Predicate) : Prop :=
  ∀ (other : Predicate) (rest otherRest : List Char), other.IsPlain → EndsPredicate rest →
    EndsPredicate otherRest →
      predicate.displayChars ++ rest = other.displayChars ++ otherRest →
        predicate = other ∧ rest = otherRest

/-- A predicate is known from how it is shown as an operand, whatever follows it. -/
def IsKnownOperand (predicate : Predicate) : Prop :=
  ∀ (other : Predicate) (rest otherRest : List Char), other.IsPlain → EndsOperand rest →
    EndsOperand otherRest →
      predicate.operandChars ++ rest = other.operandChars ++ otherRest →
        predicate = other ∧ rest = otherRest

section Steps

variable {steps otherSteps : List (Junction × Predicate)}

theorem EndsPredicate.endsOperand (ends : EndsPredicate rest)
    (steps : List (Junction × Predicate)) : EndsOperand (stepsChars steps ++ rest) := by
  intro c isHead
  cases steps with
  | nil => exact .inr (ends c isHead)
  | cons step steps =>
      obtain ⟨junction, operand⟩ := step
      left
      cases junction <;> cases isHead <;> rfl

theorem steps_known (known : ∀ step ∈ steps, IsKnownOperand step.2)
    (otherPlain : ∀ step ∈ otherSteps, step.2.IsPlain) (ends : EndsPredicate rest)
    (otherEnds : EndsPredicate otherRest)
    (same : stepsChars steps ++ rest = stepsChars otherSteps ++ otherRest) :
    steps = otherSteps ∧ rest = otherRest := by
  have noSpace {step : Junction × Predicate} {steps : List (Junction × Predicate)}
      {rest otherRest : List Char} (ends : EndsPredicate rest) :
      rest ≠ stepsChars (step :: steps) ++ otherRest := by
    rintro rfl
    obtain ⟨junction, operand⟩ := step
    cases junction <;> cases ends ' ' rfl
  induction steps generalizing otherSteps with
  | nil =>
      cases otherSteps with
      | nil => exact ⟨rfl, same⟩
      | cons otherStep otherSteps => exact absurd same (noSpace ends)
  | cons step steps inductionHypothesis =>
      cases otherSteps with
      | nil => exact absurd same.symm (noSpace otherEnds)
      | cons otherStep otherSteps =>
          obtain ⟨junction, operand⟩ := step
          obtain ⟨otherJunction, otherOperand⟩ := otherStep
          obtain ⟨operandKnown, furtherKnown⟩ := List.forall_mem_cons.mp known
          obtain ⟨operandPlain, furtherPlain⟩ := List.forall_mem_cons.mp otherPlain
          simp only [stepsChars, List.flatMap_cons, List.append_assoc] at same
          obtain ⟨rfl, behindWord⟩ := Junction.display_append_inj same
          obtain ⟨rfl, behind⟩ := operandKnown otherOperand _ _ operandPlain
            (ends.endsOperand steps) (otherEnds.endsOperand otherSteps) behindWord
          obtain ⟨rfl, restEq⟩ := inductionHypothesis furtherKnown furtherPlain behind
          exact ⟨rfl, restEq⟩

theorem isKnown_of_operands (known : ∀ operand ∈ predicate.operands, IsKnownOperand operand) :
    IsKnown predicate := by
  intro other rest otherRest otherPlain ends otherEnds same
  obtain ⟨firstKnown, furtherKnown⟩ := List.forall_mem_cons.mp known
  obtain ⟨firstPlain, furtherPlain⟩ := List.forall_mem_cons.mp otherPlain.operands
  rw [displayChars_eq predicate, displayChars_eq other, List.append_assoc, List.append_assoc]
    at same
  obtain ⟨firstEq, behind⟩ := firstKnown other.firstOperand _ _ firstPlain
    (ends.endsOperand predicate.furtherOperands) (otherEnds.endsOperand other.furtherOperands) same
  obtain ⟨furtherEq, restEq⟩ := steps_known (List.forall_mem_map.mp furtherKnown)
    (List.forall_mem_map.mp furtherPlain) ends otherEnds behind
  refine ⟨?_, restEq⟩
  rw [← foldl_operands predicate, ← foldl_operands other, firstEq, furtherEq]

end Steps

section Operands

theorem operandChars_of_joined (joined : predicate.isJoined = true) :
    predicate.operandChars = '(' :: (predicate.displayChars ++ [')']) := by
  rw [operandChars, joined]
  rfl

/-- Only joined predicates are shown in parentheses. -/
theorem operandChars_ne_paren (single : predicate.isJoined = false) (plain : predicate.IsPlain)
    (rest otherRest : List Char) : predicate.operandChars ++ rest ≠ '(' :: otherRest := by
  intro same
  cases predicate with
  | compare field op value =>
      obtain ⟨c, tail, shown⟩ := List.exists_cons_of_ne_nil plain.1.display_ne_nil
      have isPathChar := plain.1.chars c (by rw [shown]; exact List.mem_cons_self)
      simp only [operandChars, single, parenthesized, displayChars, shown] at same
      obtain ⟨rfl, _⟩ := List.cons.inj same
      cases isPathChar
  | and left right => cases single
  | or left right => cases single
  | any relation inner => cases (List.cons.inj same).1

theorem isKnownOperand_of_joined (joined : predicate.isJoined = true)
    (known : IsKnown predicate) : IsKnownOperand predicate := by
  intro other rest otherRest otherPlain ends otherEnds same
  rw [operandChars_of_joined joined] at same
  cases otherJoined : other.isJoined with
  | false => exact absurd same.symm (operandChars_ne_paren otherJoined otherPlain _ _)
  | true =>
      rw [operandChars_of_joined otherJoined] at same
      simp only [List.cons_append, List.cons.injEq, List.append_assoc, true_and] at same
      have closes (rest : List Char) : EndsPredicate ([')'] ++ rest) := by
        rintro c ⟨⟩
        rfl
      obtain ⟨rfl, behind⟩ := known other _ _ otherPlain (closes rest) (closes otherRest) same
      exact ⟨rfl, (List.cons.inj behind).2⟩

theorem operandChars_compare (field : FieldPath) (op : CompareOp) (value : Literal)
    (rest : List Char) : (compare field op value).operandChars ++ rest =
      field.display ++ ' ' :: (op.display ++ ' ' :: (value.display ++ rest)) := by
  simp [operandChars, isJoined, isAnd, isOr, parenthesized, displayChars]

theorem operandChars_any (relation : FieldPath) (inner : Predicate) (rest : List Char) :
    (any relation inner).operandChars ++ rest = ['E', 'X', 'I', 'S', 'T', 'S'] ++
      '(' :: (relation.display ++ ':' :: ' ' :: (inner.displayChars ++ ')' :: rest)) := by
  simp [operandChars, isJoined, isAnd, isOr, parenthesized, displayChars]

theorem display_ne_exists {field : FieldPath} (plain : field.IsPlain) (rest otherRest : List Char) :
    field.display ++ ' ' :: rest ≠ ['E', 'X', 'I', 'S', 'T', 'S'] ++ '(' :: otherRest := by
  intro same
  obtain ⟨_, behind⟩ := append_inj_of_stops same plain.chars (List.all_eq_true.mp rfl)
    (by rintro c ⟨⟩; rfl) (by rintro c ⟨⟩; rfl)
  cases (List.cons.inj behind).1

theorem isKnownOperand_compare {field : FieldPath} {op : CompareOp} {value : Literal}
    (plain : (compare field op value).IsPlain) : IsKnownOperand (compare field op value) := by
  intro other rest otherRest otherPlain ends otherEnds same
  cases other with
  | compare otherField otherOp otherValue =>
      rw [operandChars_compare, operandChars_compare] at same
      obtain ⟨rfl, behindField⟩ := FieldPath.display_append_inj plain.1 otherPlain.1
        (by rintro c ⟨⟩; rfl) (by rintro c ⟨⟩; rfl) same
      obtain ⟨rfl, behindOp⟩ := CompareOp.display_append_inj (List.cons.inj behindField).2
      obtain ⟨rfl, restEq⟩ :=
        Literal.display_append_inj plain.2 otherPlain.2 ends otherEnds behindOp
      exact ⟨rfl, restEq⟩
  | any relation inner =>
      rw [operandChars_compare, operandChars_any] at same
      exact absurd same (display_ne_exists plain.1 _ _)
  | and left right => exact absurd same (operandChars_ne_paren rfl plain _ _)
  | or left right => exact absurd same (operandChars_ne_paren rfl plain _ _)

theorem isKnownOperand_any {relation : FieldPath} {inner : Predicate}
    (plain : (any relation inner).IsPlain) (known : IsKnown inner) :
    IsKnownOperand (any relation inner) := by
  intro other rest otherRest otherPlain ends otherEnds same
  cases other with
  | compare field op value =>
      rw [operandChars_compare, operandChars_any] at same
      exact absurd same.symm (display_ne_exists otherPlain.1 _ _)
  | any otherRelation otherInner =>
      rw [operandChars_any, operandChars_any, List.append_cancel_left_eq, List.cons.injEq] at same
      obtain ⟨rfl, behindRelation⟩ := FieldPath.display_append_inj plain.1 otherPlain.1
        (by rintro c ⟨⟩; rfl) (by rintro c ⟨⟩; rfl) same.2
      simp only [List.cons.injEq, true_and] at behindRelation
      obtain ⟨rfl, behind⟩ := known otherInner _ _ otherPlain.2 (by rintro c ⟨⟩; rfl)
        (by rintro c ⟨⟩; rfl) behindRelation
      exact ⟨rfl, (List.cons.inj behind).2⟩
  | and left right => exact absurd same (operandChars_ne_paren rfl plain _ _)
  | or left right => exact absurd same (operandChars_ne_paren rfl plain _ _)

end Operands

/-- Every plain predicate is known from how it is shown, alone or as an operand, by its own operands
if it is joined and by what is inside it otherwise. -/
theorem isKnown_of_isPlain (plain : predicate.IsPlain) :
    (∀ operand ∈ predicate.operands, IsKnownOperand operand) ∧ IsKnownOperand predicate := by
  induction predicate using joinInduction with
  | compare field op value =>
      have known := isKnownOperand_compare plain
      exact ⟨List.forall_mem_singleton.mpr known, known⟩
  | any relation inner ofInner =>
      have known := isKnownOperand_any plain (isKnown_of_operands (ofInner plain.2).1)
      exact ⟨List.forall_mem_singleton.mpr known, known⟩
  | join junction left right ofLeft ofRight =>
      obtain ⟨leftPlain, rightPlain⟩ := (isPlain_join junction left right).mp plain
      obtain ⟨leftOperands, leftKnown⟩ := ofLeft leftPlain
      have known :=
        forall_operands_join junction leftKnown leftOperands (ofRight rightPlain).2
      exact ⟨known, isKnownOperand_of_joined (isJoined_join junction left right)
        (isKnown_of_operands known)⟩

section Groupings

variable {junction word : Junction} {first second third last : Predicate}
  {middle : List Predicate}

theorem join_inj (same : junction.join first second = word.join third last) :
    junction = word ∧ first = third ∧ second = last := by
  cases junction <;> cases word <;> cases same <;> exact ⟨rfl, rfl, rfl⟩

theorem sizeOf_lt_join (junction : Junction) (first second : Predicate) :
    sizeOf first < sizeOf (junction.join first second) := by
  cases junction <;> simp only [Junction.join, and.sizeOf_spec, or.sizeOf_spec] <;> omega

theorem sizeOf_le_foldl (junction : Junction) (first : Predicate) (operands : List Predicate) :
    sizeOf first ≤ sizeOf (operands.foldl junction.join first) := by
  induction operands generalizing first with
  | nil => exact Nat.le_refl _
  | cons operand operands inductionHypothesis =>
      exact Nat.le_trans (Nat.le_of_lt (sizeOf_lt_join junction first operand))
        (inductionHypothesis (junction.join first operand))

theorem isPlain_foldl (plain : first.IsPlain) (operandsPlain : ∀ operand ∈ middle, operand.IsPlain) :
    (middle.foldl junction.join first).IsPlain := by
  induction middle generalizing first with
  | nil => exact plain
  | cons operand middle inductionHypothesis =>
      obtain ⟨operandPlain, othersPlain⟩ := List.forall_mem_cons.mp operandsPlain
      exact inductionHypothesis ((isPlain_join _ _ _).mpr ⟨plain, operandPlain⟩) othersPlain

theorem isPlain_foldr (plain : last.IsPlain) (operandsPlain : ∀ operand ∈ middle, operand.IsPlain) :
    (middle.foldr junction.join last).IsPlain := by
  induction middle with
  | nil => exact plain
  | cons operand middle inductionHypothesis =>
      obtain ⟨operandPlain, othersPlain⟩ := List.forall_mem_cons.mp operandsPlain
      exact (isPlain_join _ _ _).mpr ⟨operandPlain, inductionHypothesis othersPlain⟩

end Groupings

theorem display_injective (plain : predicate.IsPlain) (otherPlain : other.IsPlain)
    (same : predicate.display = other.display) : predicate = other := by
  have charsEq := congrArg String.toList same
  rw [display, display, String.toList_ofList, String.toList_ofList] at charsEq
  have known := isKnown_of_operands (isKnown_of_isPlain plain).1
  exact (known other [] [] otherPlain nofun nofun (by rw [charsEq])).1

/-- Plain predicates that are shown in the same way are the same: they join, nest and compare the
same paths, operators and literals.  So no two groupings of the same operands by the same or by
different words are shown in the same way, nor are chains that nest to the left and to the right. -/
theorem display_unambiguous :
    (∀ predicate other : Predicate, predicate.IsPlain → other.IsPlain →
      predicate.display = other.display → predicate = other) ∧
    (∀ (junction word : Junction) (first second third : Predicate), first.IsPlain →
      second.IsPlain → third.IsPlain →
        (word.join (junction.join first second) third).display ≠
          (junction.join first (word.join second third)).display) ∧
    ∀ (junction : Junction) (first last : Predicate) (middle : List Predicate), middle ≠ [] →
      first.IsPlain → (∀ operand ∈ middle, operand.IsPlain) → last.IsPlain →
        ((middle ++ [last]).foldl junction.join first).display ≠
          ((first :: middle).foldr junction.join last).display := by
  refine ⟨fun _ _ => display_injective, ?_, ?_⟩
  · intro junction word first second third firstPlain secondPlain thirdPlain same
    have equal := display_injective
      ((isPlain_join _ _ _).mpr ⟨(isPlain_join _ _ _).mpr ⟨firstPlain, secondPlain⟩, thirdPlain⟩)
      ((isPlain_join _ _ _).mpr ⟨firstPlain, (isPlain_join _ _ _).mpr ⟨secondPlain, thirdPlain⟩⟩)
      same
    have smaller := sizeOf_lt_join junction first second
    rw [(join_inj equal).2.1] at smaller
    exact Nat.lt_irrefl _ smaller
  · intro junction first last middle nonempty firstPlain middlePlain lastPlain same
    obtain ⟨second, middle, rfl⟩ := List.exists_cons_of_ne_nil nonempty
    have equal := display_injective
      (isPlain_foldl firstPlain (List.forall_mem_append.mpr
        ⟨middlePlain, List.forall_mem_singleton.mpr lastPlain⟩))
      (isPlain_foldr lastPlain (List.forall_mem_cons.mpr ⟨firstPlain, middlePlain⟩)) same
    rw [List.foldl_append] at equal
    have smaller := sizeOf_lt_join junction first second
    have atMost := sizeOf_le_foldl junction (junction.join first second) middle
    have frontEq : middle.foldl junction.join (junction.join first second) = first :=
      (join_inj equal).2.1
    rw [frontEq] at atMost
    omega

/-- A string that looks like the end of one comparison, a word and another comparison, and three
comparisons of a field `EXISTS` in both groupings. -/
theorem display_unambiguous_strings :
    let first : Predicate := .compare ⟨[], "a"⟩ .equal (.string "1\" AND b == \"2")
    let second : Predicate := .and (.compare ⟨[], "a"⟩ .equal (.string "1"))
      (.compare ⟨[], "b"⟩ .equal (.string "2"))
    let third : Predicate := .compare ⟨["x_1"], "EXISTS"⟩ .lessThan (.int (-5))
    (first.IsPlain ∧ second.IsPlain ∧ first.display ≠ second.display) ∧
      (third.IsPlain ∧ (((third.and first).or second).display ≠
        (third.and (first.or second)).display)) ∧
      ((third.and first).and second).display ≠ (third.and (first.and second)).display := by
  intro first second third
  have oneLetter (c : Char) (isAlpha : c.isAlpha = true) : IsPlainName (String.ofList [c]) :=
    ⟨c, [], String.toList_ofList, .inl isAlpha, List.forall_mem_nil _⟩
  have firstPlain : first.IsPlain :=
    ⟨FieldPath.isPlain_nil_iff.mpr (oneLetter 'a' rfl), trivial⟩
  have secondPlain : second.IsPlain :=
    ⟨⟨FieldPath.isPlain_nil_iff.mpr (oneLetter 'a' rfl), trivial⟩,
      FieldPath.isPlain_nil_iff.mpr (oneLetter 'b' rfl), trivial⟩
  have thirdPlain : third.IsPlain := by
    refine ⟨FieldPath.isPlain_cons_iff.mpr ⟨?_, FieldPath.isPlain_nil_iff.mpr ?_⟩, trivial⟩
    · exact ⟨'x', ['_', '1'], rfl, .inl rfl, List.all_eq_true.mp rfl⟩
    · exact ⟨'E', "XISTS".toList, rfl, .inl rfl, List.all_eq_true.mp rfl⟩
  obtain ⟨injective, groupings, chains⟩ := display_unambiguous
  refine ⟨⟨firstPlain, secondPlain, fun same => ?_⟩, ⟨thirdPlain, ?_⟩, ?_⟩
  · have differ : first ≠ second := nofun
    exact differ (injective first second firstPlain secondPlain same)
  · exact groupings .and .or third first second thirdPlain firstPlain secondPlain
  · exact chains .and third second [first] (List.cons_ne_nil _ _) thirdPlain
      (List.forall_mem_singleton.mpr firstPlain) secondPlain

end Predicate

end QueryPlanner
