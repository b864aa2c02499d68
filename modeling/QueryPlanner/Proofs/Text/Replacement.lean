/-!
# Replacing a part of a text

`String.replace` searches a text from left to right and goes on behind each match.  The text that it
gives is described by a relation that takes one match or one character at a time, and if the part is
a single character, by what becomes of each character.
-/

namespace QueryPlanner.Text

open String.Slice.Pattern String.Slice.Pattern.Model

/-- The second text is the first with each occurrence of a part replaced, from left to right and
without overlap. -/
inductive Replaced (part replacement : List Char) : List Char → List Char → Prop where
  | nil : Replaced part replacement [] []
  | part {rest result : List Char} :
      Replaced part replacement rest result →
      Replaced part replacement (part ++ rest) (replacement ++ result)
  | other {c : Char} {rest result : List Char} :
      ¬part <+: c :: rest →
      Replaced part replacement rest result →
      Replaced part replacement (c :: rest) (c :: result)

namespace Replaced

variable {part replacement text result : List Char}

/-- A piece of a text in which the part begins nowhere stays as it is. -/
theorem past {front : List Char}
    (absent : ∀ before after, front = before ++ after → after ≠ [] → ¬part <+: after ++ text)
    (replaced : Replaced part replacement text result) :
    Replaced part replacement (front ++ text) (front ++ result) := by
  induction front with
  | nil => exact replaced
  | cons c front inductionHypothesis =>
      refine .other (absent [] (c :: front) rfl (List.cons_ne_nil c front)) (inductionHypothesis ?_)
      intro before after frontEq
      exact absent (c :: before) after (congrArg (List.cons c) frontEq)

theorem eq_flatMap {c : Char} (replaced : Replaced [c] replacement text result) :
    result = text.flatMap fun other => if other = c then replacement else [other] := by
  induction replaced with
  | nil => rfl
  | part _ inductionHypothesis => simp [← inductionHypothesis]
  | @other other rest result absent _ inductionHypothesis =>
      have notPart : other ≠ c := by
        rintro rfl
        exact absent (List.prefix_append [other] rest)
      simp [notPart, ← inductionHypothesis]

theorem not_mem {c : Char} (replaced : Replaced [c] replacement text result)
    (notBack : c ∉ replacement) : c ∉ result := by
  rw [replaced.eq_flatMap]
  intro membership
  obtain ⟨other, _, inPlace⟩ := List.mem_flatMap.mp membership
  split at inPlace
  next => exact notBack inPlace
  next notPart => exact notPart (List.mem_singleton.mp inPlace).symm

end Replaced

/-- One more step of a search in a result: the replacement for a match, and otherwise what the
search has passed over. -/
def appendStep (replacement : String) {text : String.Slice} (result : String) :
    SearchStep text → String
  | .matched _ _ => result ++ replacement
  | .rejected start stop => result ++ (text.slice! start stop).copy

theorem replace_eq_foldl (text part replacement : String) :
    text.replace part replacement =
      (ToForwardSearcher.toSearcher part text.toSlice).toList.foldl
        (appendStep replacement) "" := by
  rw [Std.Iter.foldl_toList, String.replace, String.Slice.replace]
  congr 1
  funext result step
  cases step with
  | matched start stop => simp [appendStep, String.ToSlice.toSlice]
  | rejected start stop => simp [appendStep]

section Search

variable {part : String} {text : String.Slice}

theorem absent_of_not_matchesAt {start stop : text.Pos}
    (absent : ∀ position, start ≤ position → position < stop → ¬MatchesAt part position)
    {front piece back : String} (startSplits : start.Splits front (piece ++ back))
    (stopSplits : stop.Splits (front ++ piece) back) (before after : List Char)
    (pieceEq : piece.toList = before ++ after) (notEmpty : after ≠ []) :
    ¬part.toList <+: after ++ back.toList := by
  rintro ⟨rest, restEq⟩
  have textEq : text.copy =
      (front ++ String.ofList before) ++ (part ++ String.ofList rest) := by
    rw [startSplits.eq_append, ← String.toList_inj]
    simp [pieceEq, ← restEq]
  have between := String.Slice.Pos.splits_ofEqAppend textEq
  refine absent (.ofEqAppend textEq) ?_ ?_
    (ForwardStringSearcher.matchesAt_iff_splits.mpr ⟨_, _, between⟩)
  · refine (startSplits.le_iff_exists_eq_append between).mpr ⟨_, rfl, ?_⟩
    rw [← String.toList_inj]
    simp [pieceEq, ← restEq]
  · refine (between.lt_iff_exists_eq_append stopSplits).mpr ⟨.ofList after, ?_, ?_, ?_⟩
    · simpa [← String.toList_inj] using notEmpty
    · rw [← String.toList_inj]
      simp [pieceEq]
    · rw [← String.toList_inj]
      simp [restEq]

/-- The steps of a search from a position on replace the part in what stands behind it. -/
theorem exists_replaced_of_isValidSearchFrom (replacement : String) {position : text.Pos}
    {steps : List (SearchStep text)} (valid : IsValidSearchFrom part position steps)
    {front back : String} (splits : position.Splits front back) (before : String) :
    ∃ result, (steps.foldl (appendStep replacement) before).toList = before.toList ++ result ∧
      Replaced part.toList replacement.toList back.toList result := by
  induction valid generalizing front back before with
  | endPos =>
      obtain rfl : back = "" := splits.eq_right text.splits_endPos
      exact ⟨[], by simp, .nil⟩
  | matched isMatch _ inductionHypothesis =>
      obtain ⟨_, rest, startSplits, stopSplits⟩ :=
        ForwardStringSearcher.isLongestMatchAt_iff_splits.mp isMatch
      obtain rfl := splits.eq_right startSplits
      obtain ⟨result, resultEq, replaced⟩ := inductionHypothesis stopSplits (before ++ replacement)
      refine ⟨replacement.toList ++ result, ?_, ?_⟩
      · rw [List.foldl_cons, appendStep, resultEq, String.toList_append, List.append_assoc]
      · rw [String.toList_append]
        exact replaced.part
  | @mismatched steps start stop inOrder absent _ inductionHypothesis =>
      -- The search tells of the piece as a whole, the relation takes it one character at a time.
      have ordered := Std.le_of_lt inOrder
      obtain ⟨_, rest, startSplits, stopSplits⟩ :=
        String.Slice.copy_slice_eq_iff_splits.mp ⟨ordered, rfl⟩
      obtain rfl := splits.eq_right startSplits
      have passed : text.slice! start stop = text.slice start stop ordered :=
        String.Slice.slice_eq_slice!.symm
      obtain ⟨result, resultEq, replaced⟩ :=
        inductionHypothesis stopSplits (before ++ (text.slice start stop ordered).copy)
      refine ⟨(text.slice start stop ordered).copy.toList ++ result, ?_, ?_⟩
      · rw [List.foldl_cons, appendStep, passed, resultEq, String.toList_append,
          List.append_assoc]
      · rw [String.toList_append]
        exact replaced.past (absent_of_not_matchesAt absent startSplits stopSplits)

end Search

theorem replaced_replace (text : String) {part : String} (notEmpty : part ≠ "")
    (replacement : String) :
    Replaced part.toList replacement.toList text.toList
      (text.replace part replacement).toList := by
  have lawful := ForwardStringSearcher.lawfulToForwardSearcherModel notEmpty
  obtain ⟨result, resultEq, replaced⟩ := exists_replaced_of_isValidSearchFrom replacement
    (lawful.isValidSearchFrom_toList text.toSlice) text.toSlice.splits_startPos ""
  rw [String.copy_toSlice] at replaced
  rw [replace_eq_foldl, resultEq]
  exact replaced

theorem toList_replace_of_char {part : String} {c : Char} (isChar : part.toList = [c])
    (text replacement : String) :
    (text.replace part replacement).toList =
      text.toList.flatMap fun other => if other = c then replacement.toList else [other] := by
  have notEmpty : part ≠ "" := by
    rintro rfl
    cases isChar
  have replaced := replaced_replace text notEmpty replacement
  rw [isChar] at replaced
  exact replaced.eq_flatMap

end QueryPlanner.Text
