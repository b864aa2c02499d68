import QueryPlanner.Json.Reader

/-!
# Faults of syntax

Words, numbers and strings are refused for their spelling.  A reading that allows repeated keys
refuses arrays and objects for no other reason either.
-/

namespace QueryPlanner.Json

variable {α β : Type}

/-- A reading that does not fail, or fails for another reason than a repeated key. -/
def IsSyntactic : Except Misread α → Prop
  | .ok _ => True
  | .error misread => ∀ key, misread.cause ≠ .duplicateProperty key

@[simp]
theorem isSyntactic_ok (a : α) : IsSyntactic (.ok a) :=
  trivial

@[simp]
theorem isSyntactic_here (cause : Cause) (rest : List Char) :
    @IsSyntactic α (.error (.here cause rest)) ↔ ∀ key, cause ≠ .duplicateProperty key :=
  Iff.rfl

@[simp]
theorem isSyntactic_ahead (cause : Cause) (rest : List Char) :
    @IsSyntactic α (.error (.ahead cause rest)) ↔ ∀ key, cause ≠ .duplicateProperty key :=
  Iff.rfl

@[simp]
theorem isSyntactic_map {reading : Except Misread α} {f : α → β} :
    IsSyntactic (reading.map f) ↔ IsSyntactic reading := by
  cases reading <;> exact Iff.rfl

theorem IsSyntactic.bind {reading : Except Misread α} {next : α → Except Misread β}
    (first : IsSyntactic reading) (later : ∀ a, IsSyntactic (next a)) :
    IsSyntactic (reading >>= next) := by
  cases reading with
  | error misread => exact first
  | ok a => exact later a

section Numbers

variable (negative : Bool) (number : Nat) (power : Int) (text : List Char)

theorem isSyntactic_finishNumber : IsSyntactic (finishNumber negative number power text) := by
  unfold finishNumber
  split <;> simp

theorem isSyntactic_readPower : IsSyntactic (readPower negative number power text) := by
  unfold readPower
  dsimp only
  split
  next => simp
  next => simp
  next =>
    split
    next => exact isSyntactic_finishNumber ..
    next => split <;> simp

theorem isSyntactic_readTail : IsSyntactic (readTail negative number power text) := by
  unfold readTail
  split
  next => exact isSyntactic_readPower ..
  next => exact isSyntactic_readPower ..
  next => exact isSyntactic_finishNumber ..

theorem isSyntactic_readFraction : IsSyntactic (readFraction negative number power text) := by
  unfold readFraction
  dsimp only
  split
  next => simp
  next => simp
  next => exact isSyntactic_readTail ..

theorem isSyntactic_readAfterWhole (digits : List Char) :
    IsSyntactic (readAfterWhole negative digits text) := by
  unfold readAfterWhole
  dsimp only
  split
  next => exact isSyntactic_readFraction ..
  next =>
    split
    next => exact isSyntactic_readTail ..
    next => exact isSyntactic_readTail ..
    next => simp
    next => exact isSyntactic_finishNumber ..

theorem isSyntactic_readNumber : IsSyntactic (readNumber negative text) := by
  unfold readNumber
  split
  next => simp
  next =>
    split
    next =>
      split
      next => simp
      next => exact isSyntactic_readAfterWhole ..
    next => exact isSyntactic_readAfterWhole ..
  next =>
    dsimp only
    split
    next => simp
    next => exact isSyntactic_readAfterWhole ..

end Numbers

section Strings

variable (text : List Char)

theorem isSyntactic_readUnit : IsSyntactic (readUnit text) := by
  unfold readUnit
  split
  next => simp
  next =>
    split
    next => simp
    next => exact fun key => nofun

theorem isSyntactic_readLowSurrogate : IsSyntactic (readLowSurrogate text) := by
  unfold readLowSurrogate
  split
  next =>
    refine (isSyntactic_readUnit _).bind fun (unit, rest) => ?_
    dsimp only
    split
    next => exact isSyntactic_ok _
    next => simp
  all_goals simp

theorem isSyntactic_unescapeUnit : IsSyntactic (unescapeUnit text) := by
  unfold unescapeUnit
  refine (isSyntactic_readUnit _).bind fun (unit, rest) => ?_
  dsimp only
  split
  next => simp
  next =>
    split
    next => exact (isSyntactic_readLowSurrogate _).bind fun _ => isSyntactic_ok _
    next => exact isSyntactic_ok _

theorem isSyntactic_unescape (c : Char) : IsSyntactic (unescape c text) := by
  unfold unescape
  split
  next => exact isSyntactic_unescapeUnit _
  next => split <;> simp

theorem isSyntactic_readString : IsSyntactic (readString text) := by
  fun_induction readString text with
  | case1 => simp
  | case2 => simp
  | case3 => simp
  | case4 escaped tail misread found =>
      have escape := isSyntactic_unescape tail escaped
      rwa [found] at escape
  | case5 escaped tail decoded left found _ _ inductionHypothesis =>
      exact isSyntactic_map.mpr inductionHypothesis
  | case6 => simp
  | case7 c tail _ _ _ inductionHypothesis => exact isSyntactic_map.mpr inductionHypothesis

theorem isSyntactic_readWord (value : Value) (word : List Char) :
    IsSyntactic (readWord value word text) := by
  fun_induction readWord value word text with
  | case1 => simp
  | case2 => simp
  | case3 _ _ _ inductionHypothesis => exact inductionHypothesis
  | case4 => simp

end Strings

section Values

variable {item : List Char → Except Misread (Value × List Char)}

theorem isSyntactic_readItems (items : ∀ text, IsSyntactic (item text)) (bound : Nat)
    (text : List Char) : IsSyntactic (readItems item bound text) := by
  induction bound generalizing text with
  | zero => exact isSyntactic_ok _
  | succ bound inductionHypothesis =>
      rw [readItems]
      refine (items text).bind fun (value, rest) => ?_
      dsimp only
      split
      next => exact isSyntactic_ok _
      next =>
        split
        next => simp
        next => simp
        next => exact (inductionHypothesis _).bind fun _ => isSyntactic_ok _
      next => simp
      next => simp

theorem isSyntactic_readArray (items : ∀ text, IsSyntactic (item text)) (text : List Char) :
    IsSyntactic (readArray item text) := by
  unfold readArray
  split
  next => simp
  next => simp
  next => exact isSyntactic_map.mpr (isSyntactic_readItems items _ _)

theorem isSyntactic_readMemberValue (items : ∀ text, IsSyntactic (item text)) (text : List Char) :
    IsSyntactic (readMemberValue item text) := by
  unfold readMemberValue
  split
  next => exact items _
  next => simp
  next => simp

theorem isSyntactic_readMembers (items : ∀ text, IsSyntactic (item text)) (bound : Nat)
    (before : List String) (text : List Char) :
    IsSyntactic (readMembers false item bound before text) := by
  induction bound generalizing before text with
  | zero => exact isSyntactic_ok _
  | succ bound inductionHypothesis =>
      rw [readMembers]
      refine (isSyntactic_readString _).bind fun (key, rest) => ?_
      refine (isSyntactic_readMemberValue items _).bind fun (value, rest) => ?_
      dsimp only
      split
      next => exact isSyntactic_ok _
      next =>
        split
        next => exact (inductionHypothesis _ _).bind fun _ => isSyntactic_ok _
        next => simp
        next => simp
        next => simp
      next => simp
      next => simp

theorem isSyntactic_readObject (items : ∀ text, IsSyntactic (item text)) (text : List Char) :
    IsSyntactic (readObject false item text) := by
  unfold readObject
  split
  next => simp
  next => simp
  next => exact isSyntactic_map.mpr (isSyntactic_readMembers items _ _ _)
  next => simp

theorem isSyntactic_readValue_of_fewer {levels : Nat}
    (inner : ∀ fewer, levels = fewer + 1 → ∀ text, IsSyntactic (readValue false fewer text))
    (text : List Char) : IsSyntactic (readValue false levels text) := by
  fun_cases readValue false levels text with
  | case1 => simp
  | case2 => exact isSyntactic_readWord ..
  | case3 => exact isSyntactic_readWord ..
  | case4 => exact isSyntactic_readWord ..
  | case5 => exact isSyntactic_map.mpr (isSyntactic_readNumber ..)
  | case6 => exact isSyntactic_map.mpr (isSyntactic_readNumber ..)
  | case7 => exact isSyntactic_map.mpr (isSyntactic_readString _)
  | case8 => simp
  | case9 => exact isSyntactic_readArray (inner _ rfl) _
  | case10 => exact isSyntactic_readObject (inner _ rfl) _
  | case11 => simp

theorem isSyntactic_readValue (levels : Nat) (text : List Char) :
    IsSyntactic (readValue false levels text) := by
  induction levels generalizing text with
  | zero =>
      refine isSyntactic_readValue_of_fewer ?_ text
      rintro _ ⟨⟩
  | succ levels inductionHypothesis =>
      refine isSyntactic_readValue_of_fewer ?_ text
      rintro _ ⟨⟩
      exact inductionHypothesis

end Values

end QueryPlanner.Json
