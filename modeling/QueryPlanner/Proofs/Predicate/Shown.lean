import QueryPlanner.Predicate.Display
import QueryPlanner.Proofs.Condition.Numerals
import QueryPlanner.Proofs.Date.ReadBack
import QueryPlanner.Proofs.Text.Quoted

/-!
# The parts of a shown comparison

Paths of plain names, operators and literals are known from how they are shown.  Each of them ends
where a character stands that it cannot go on with, so they are also known from any text that they
begin.
-/

namespace QueryPlanner

open QueryPlanner.Date QueryPlanner.Number QueryPlanner.Text

section Paths

def isNameChar (c : Char) : Bool :=
  c.isAlphanum || c = '_'

/-- A name of ASCII letters, digits and underscores, which no digit begins. -/
def IsPlainName (name : String) : Prop :=
  ∃ first rest, name.toList = first :: rest ∧ (first.isAlpha = true ∨ first = '_') ∧
    ∀ c ∈ rest, isNameChar c = true

def FieldPath.IsPlain (path : FieldPath) : Prop :=
  ∀ segment ∈ path.segments, IsPlainName segment

theorem IsPlainName.chars {name : String} (plain : IsPlainName name) :
    ∀ c ∈ name.toList, isNameChar c = true := by
  obtain ⟨first, rest, nameEq, isFirst, areNames⟩ := plain
  rw [nameEq]
  refine List.forall_mem_cons.mpr ⟨?_, areNames⟩
  rcases isFirst with isAlpha | rfl
  · simp [isNameChar, Char.isAlphanum, isAlpha]
  · rfl

/-- A path is shown with the characters of its names and with dots. -/
def isPathChar (c : Char) : Bool :=
  isNameChar c || c = '.'

namespace FieldPath

variable {path other : FieldPath} {relation name : String} {relations : List String}

theorem display_cons (relation : String) (relations : List String) (name : String) :
    display ⟨relation :: relations, name⟩ =
      relation.toList ++ '.' :: display ⟨relations, name⟩ := by
  simp [display]

theorem isPlain_nil_iff : IsPlain ⟨[], name⟩ ↔ IsPlainName name := by
  simp [IsPlain, segments]

theorem isPlain_cons_iff :
    IsPlain ⟨relation :: relations, name⟩ ↔ IsPlainName relation ∧ IsPlain ⟨relations, name⟩ := by
  simp [IsPlain, segments]

theorem IsPlain.chars (plain : path.IsPlain) : ∀ c ∈ path.display, isPathChar c = true := by
  have ofName {name : String} (isName : IsPlainName name) :
      ∀ c ∈ name.toList, isPathChar c = true := by
    intro c member
    rw [isPathChar, isName.chars c member, Bool.true_or]
  obtain ⟨relations, name⟩ := path
  induction relations with
  | nil => exact ofName (isPlain_nil_iff.mp plain)
  | cons relation relations inductionHypothesis =>
      obtain ⟨isRelation, isPath⟩ := isPlain_cons_iff.mp plain
      rw [display_cons, List.forall_mem_append, List.forall_mem_cons]
      exact ⟨ofName isRelation, rfl, inductionHypothesis isPath⟩

theorem IsPlain.display_ne_nil (plain : path.IsPlain) : path.display ≠ [] := by
  obtain ⟨relations, name⟩ := path
  cases relations with
  | nil =>
      obtain ⟨first, rest, nameEq, _⟩ := isPlain_nil_iff.mp plain
      rw [display, nameEq]
      exact List.cons_ne_nil first rest
  | cons relation relations =>
      rw [display_cons]
      exact List.append_ne_nil_of_right_ne_nil _ (List.cons_ne_nil _ _)

/-- Names have no dots, so the dots tell where the names of a path end. -/
theorem display_injective (plain : path.IsPlain) (otherPlain : other.IsPlain)
    (same : path.display = other.display) : path = other := by
  have noDot : isNameChar '.' = false := rfl
  obtain ⟨relations, name⟩ := path
  obtain ⟨otherRelations, otherName⟩ := other
  induction relations generalizing otherRelations with
  | nil =>
      have isName := isPlain_nil_iff.mp plain
      cases otherRelations with
      | nil =>
          have namesEq : name.toList = otherName.toList := same
          rw [String.toList_inj.mp namesEq]
      | cons relation otherRelations =>
          rw [display_cons] at same
          have dotInName : '.' ∈ name.toList := by
            rw [show name.toList = _ from same]
            simp
          cases noDot.symm.trans (isName.chars '.' dotInName)
  | cons relation relations inductionHypothesis =>
      obtain ⟨isRelation, isPath⟩ := isPlain_cons_iff.mp plain
      rw [display_cons] at same
      cases otherRelations with
      | nil =>
          have dotInName : '.' ∈ otherName.toList := by
            rw [show otherName.toList = _ from same.symm]
            simp
          cases noDot.symm.trans ((isPlain_nil_iff.mp otherPlain).chars '.' dotInName)
      | cons otherRelation otherRelations =>
          obtain ⟨otherIsRelation, otherIsPath⟩ := isPlain_cons_iff.mp otherPlain
          rw [display_cons] at same
          obtain ⟨relationsEq, behind⟩ := append_inj_of_stops same isRelation.chars
            otherIsRelation.chars (by rintro c ⟨⟩; rfl) (by rintro c ⟨⟩; rfl)
          have pathsEq :=
            inductionHypothesis isPath otherRelations otherIsPath (List.cons.inj behind).2
          cases pathsEq
          rw [String.toList_inj.mp relationsEq]

theorem display_append_inj {rest otherRest : List Char} (plain : path.IsPlain)
    (otherPlain : other.IsPlain) (stops : ∀ c ∈ rest.head?, isPathChar c = false)
    (otherStops : ∀ c ∈ otherRest.head?, isPathChar c = false)
    (same : path.display ++ rest = other.display ++ otherRest) :
    path = other ∧ rest = otherRest := by
  obtain ⟨displayEq, restEq⟩ :=
    append_inj_of_stops same plain.chars otherPlain.chars stops otherStops
  exact ⟨display_injective plain otherPlain displayEq, restEq⟩

end FieldPath

end Paths

section Operators

theorem CompareOp.display_append_inj {op other : CompareOp} {rest otherRest : List Char}
    (same : op.display ++ ' ' :: rest = other.display ++ ' ' :: otherRest) :
    op = other ∧ rest = otherRest := by
  have noSpace (op : CompareOp) : ∀ c ∈ op.display, decide (c ≠ ' ') = true := by
    apply List.all_eq_true.mp
    cases op <;> rfl
  obtain ⟨displayEq, restEq⟩ := append_inj_of_stops same (noSpace op) (noSpace other)
    (by rintro c ⟨⟩; rfl) (by rintro c ⟨⟩; rfl)
  refine ⟨?_, (List.cons.inj restEq).2⟩
  revert displayEq
  cases op <;> cases other <;> decide

end Operators

section Literals

namespace Literal

/-- Whether a literal is a floating-point number only if it is a finite one. -/
def IsFinite : Literal → Prop
  | float x => x.isFinite = true
  | _ => True

def isBare : Literal → Bool
  | string _ => false
  | _ => true

end Literal

def isBareChar (c : Char) : Bool :=
  c ≠ ' ' && c ≠ ')' && c ≠ '"'

/-- The literal that is shown by a text without quotes. -/
def readBare? (text : List Char) : Option Literal :=
  if ':' ∈ text then (readDateTime? text).map .dateTime
  else if text = boolText true then some (.bool true)
  else if text = boolText false then some (.bool false)
  else
    match Condition.readNumber text with
    | .ok lexeme =>
        if lexeme.kind = .int then (readInt64? text).map .int else (readBinary64? text).map .float
    | .error _ => none

namespace Literal

/-- A number is shown by its numeral and marks, which no date and no truth value is. -/
theorem readBare?_numberText (negative : Bool) (numeral : Numeral) :
    readBare? (Condition.numberText negative numeral) =
      if numeral.fraction = none ∧ numeral.power = none then
        (readInt64? (Condition.numberText negative numeral)).map .int
      else (readBinary64? (Condition.numberText negative numeral)).map .float := by
  have noMark {c : Char} (other : ¬(c.isDigit = true ∨ c ∈ ['-', '+', '.', 'e', 'E'])) :
      c ∉ Condition.numberText negative numeral := fun member =>
    other (Condition.mem_numberText member)
  have notTruth (b : Bool) : Condition.numberText negative numeral ≠ boolText b := by
    intro same
    refine noMark (c := if b then 't' else 'f') (by cases b <;> decide) ?_
    rw [same]
    cases b <;> decide
  rw [readBare?, if_neg (noMark (by decide)), if_neg (notTruth true), if_neg (notTruth false),
    Condition.readNumber_numberText]
  by_cases whole : numeral.fraction = none ∧ numeral.power = none
  · simp only [Condition.numberLexeme, if_pos whole, if_true]
  · simp only [Condition.numberLexeme, if_neg whole, reduceCtorEq, if_false]

theorem isBareChar_of_isDigit {c : Char} (isDigit : c.isDigit = true) : isBareChar c = true := by
  have other : c ≠ ' ' ∧ c ≠ ')' ∧ c ≠ '"' := by
    refine ⟨?_, ?_, ?_⟩ <;> rintro rfl <;> cases isDigit
  simp [isBareChar, other]

theorem display_bare {value : Literal} (bare : value.isBare = true) (finite : value.IsFinite) :
    readBare? value.display = some value ∧ ∀ c ∈ value.display, isBareChar c = true := by
  have numberChars {negative : Bool} {numeral : Numeral} :
      ∀ c ∈ Condition.numberText negative numeral, isBareChar c = true := by
    have marks : ∀ c ∈ ['-', '+', '.', 'e', 'E'], isBareChar c = true :=
      List.all_eq_true.mp rfl
    intro c member
    rcases Condition.mem_numberText member with isDigit | isMark
    · exact isBareChar_of_isDigit isDigit
    · exact marks c isMark
  cases value with
  | string text => cases bare
  | int n =>
      have written : writeInt n.toInt =
          Condition.numberText (n.toInt < 0) (Numeral.ofNat n.toInt.natAbs) := writeInt_eq n.toInt
      rw [display, written]
      refine ⟨?_, numberChars⟩
      rw [readBare?_numberText, if_pos ⟨rfl, rfl⟩, ← written, readInt64?_writeInt, Option.map_some]
  | float x =>
      cases x with
      | nan => cases finite
      | infinite negative => cases finite
      | finite negative magnitude =>
          obtain ⟨numeral, written, isFloat, _⟩ :=
            literalFloatStyle.write_finite negative magnitude
          have readsBack := readBinary64?_write literalFloatStyle finite
          rw [written] at readsBack
          have notWhole : ¬(numeral.fraction = none ∧ numeral.power = none) := by
            rintro ⟨noFraction, noPower⟩
            simp [noFraction, noPower] at isFloat
          rw [display, written]
          refine ⟨?_, numberChars⟩
          exact (readBare?_numberText negative numeral).trans
            ((if_neg notWhole).trans (congrArg (Option.map Literal.float) readsBack))
  | bool b =>
      refine ⟨by cases b <;> decide +kernel, ?_⟩
      apply List.all_eq_true.mp
      cases b <;> rfl
  | dateTime moment =>
      have colon : ':' ∈ moment.write := by simp [DateTime.write]
      have marks : ∀ c ∈ dateMarks, isBareChar c = true := List.all_eq_true.mp rfl
      refine ⟨?_, fun c member => ?_⟩
      · rw [display, readBare?, if_pos colon, readDateTime?_write, Option.map_some]
      · rcases moment.write_chars c member with isDigit | isMark
        · exact isBareChar_of_isDigit isDigit
        · exact marks c isMark

variable {value other : Literal} {rest otherRest : List Char}

theorem display_ne_quoted (bare : value.isBare = true) (finite : value.IsFinite)
    (rest otherRest : List Char) : value.display ++ rest ≠ '"' :: otherRest := by
  obtain ⟨readsBack, chars⟩ := display_bare bare finite
  cases shown : value.display with
  | nil =>
      rw [shown] at readsBack
      cases readsBack
  | cons c tail =>
      intro same
      obtain ⟨rfl, _⟩ := List.cons.inj same
      cases chars '"' (by rw [shown]; exact List.mem_cons_self)

/-- A literal is known from any longer text that it begins, if that goes on with a space or with a
closing parenthesis. -/
theorem display_append_inj (finite : value.IsFinite) (otherFinite : other.IsFinite)
    (stops : ∀ c ∈ rest.head?, c = ' ' ∨ c = ')')
    (otherStops : ∀ c ∈ otherRest.head?, c = ' ' ∨ c = ')')
    (same : value.display ++ rest = other.display ++ otherRest) :
    value = other ∧ rest = otherRest := by
  have isStop {c : Char} (ends : c = ' ' ∨ c = ')') : isBareChar c = false := by
    rcases ends with rfl | rfl <;> rfl
  by_cases bare : value.isBare = true
  · by_cases otherBare : other.isBare = true
    · obtain ⟨readsBack, chars⟩ := display_bare bare finite
      obtain ⟨otherReadsBack, otherChars⟩ := display_bare otherBare otherFinite
      obtain ⟨displayEq, restEq⟩ := append_inj_of_stops same chars otherChars
        (fun c isHead => isStop (stops c isHead)) (fun c isHead => isStop (otherStops c isHead))
      rw [displayEq, otherReadsBack] at readsBack
      exact ⟨(Option.some.inj readsBack).symm, restEq⟩
    · cases other with
      | string text => exact absurd same (display_ne_quoted bare finite _ _)
      | _ => exact absurd rfl otherBare
  · cases value with
    | string text =>
        by_cases otherBare : other.isBare = true
        · exact absurd same.symm (display_ne_quoted otherBare otherFinite _ _)
        · cases other with
          | string otherText =>
              obtain ⟨textsEq, restEq⟩ := quoted_append_inj same
              rw [String.toList_inj.mp textsEq]
              exact ⟨rfl, restEq⟩
          | _ => exact absurd rfl otherBare
    | _ => exact absurd rfl bare

end Literal

end Literals

end QueryPlanner
