import QueryPlanner.Text.Quoted

/-!
# Quoted texts are told apart

What stands between double quotes is known from how it is shown, and so is where it ends, whatever
follows the closing quote.
-/

namespace QueryPlanner.Text

section Spans

variable {p : Char → Bool} {front back other otherBack : List Char}

theorem append_inj_of_stops (same : front ++ back = other ++ otherBack)
    (within : ∀ c ∈ front, p c = true) (otherWithin : ∀ c ∈ other, p c = true)
    (stops : ∀ c ∈ back.head?, p c = false) (otherStops : ∀ c ∈ otherBack.head?, p c = false) :
    front = other ∧ back = otherBack := by
  have nothingBetween {more rest : List Char} (goesOn : ∀ c ∈ more, p c = true)
      (ends : ∀ c ∈ (more ++ rest).head?, p c = false) : more = [] := by
    cases more with
    | nil => rfl
    | cons c more => cases (goesOn c List.mem_cons_self).symm.trans (ends c rfl)
  rcases List.append_eq_append_iff.mp same with ⟨more, rfl, rfl⟩ | ⟨more, rfl, rfl⟩
  · obtain rfl := nothingBetween
      (fun c member => otherWithin c (List.mem_append_right front member)) stops
    exact ⟨(List.append_nil front).symm, rfl⟩
  · obtain rfl := nothingBetween
      (fun c member => within c (List.mem_append_right other member)) otherStops
    exact ⟨List.append_nil other, rfl⟩

end Spans

section Hexadecimal

theorem digitChar_inj {m n : Nat} (mLt : m < 16) (nLt : n < 16) (same : m.digitChar = n.digitChar) :
    m = n := by
  have distinct : ∀ i j : Fin 16, Nat.digitChar i = Nat.digitChar j → i = j := by decide
  exact congrArg Fin.val (distinct ⟨m, mLt⟩ ⟨n, nLt⟩ same)

theorem lowerHex_eq (n : Nat) : lowerHex n =
    if n < 16 then [n.digitChar] else lowerHex (n / 16) ++ [(n % 16).digitChar] :=
  Nat.toDigits_eq_if (by omega)

theorem lowerHex_injective {m n : Nat} (same : lowerHex m = lowerHex n) : m = n := by
  have longer (front : Nat) (c d : Char) : [c] ≠ lowerHex front ++ [d] := by
    intro equality
    have lengths := congrArg List.length equality
    have nonempty : lowerHex front ≠ [] := Nat.toDigits_ne_nil
    have positive := List.length_pos_iff.mpr nonempty
    rw [List.length_append, List.length_singleton, List.length_singleton] at lengths
    omega
  induction m using Nat.strongRecOn generalizing n with
  | ind m inductionHypothesis =>
      rw [lowerHex_eq m, lowerHex_eq n] at same
      split at same
      next mLt =>
        split at same
        next nLt => exact digitChar_inj mLt nLt (List.cons.inj same).1
        next => exact absurd same (longer _ _ _)
      next mGe =>
        split at same
        next => exact absurd same.symm (longer _ _ _)
        next =>
          obtain ⟨fronts, lasts⟩ := List.append_inj' same rfl
          have quotients := inductionHypothesis (m / 16) (by omega) fronts
          have remainders := digitChar_inj (Nat.mod_lt m (by omega)) (Nat.mod_lt n (by omega))
            (List.cons.inj lasts).1
          omega

theorem lowerHex_not_brace (n : Nat) : ∀ c ∈ lowerHex n, decide (c ≠ '}') = true := by
  have noBrace : ∀ i : Fin 16, decide (Nat.digitChar i ≠ '}') = true := by decide
  induction n using Nat.strongRecOn with
  | ind n inductionHypothesis =>
      rw [lowerHex_eq]
      split
      next small => exact List.forall_mem_singleton.mpr (noBrace ⟨n, small⟩)
      next large =>
        refine List.forall_mem_append.mpr ⟨inductionHypothesis (n / 16) (by omega), ?_⟩
        exact List.forall_mem_singleton.mpr (noBrace ⟨n % 16, Nat.mod_lt n (by omega)⟩)

end Hexadecimal

section Quoted

variable {c d : Char} {text other rest otherRest : List Char}

/-- The characters that a backslash and one more character show. -/
def shortQuotes : List (Char × Char) :=
  [('\x00', '0'), ('\t', 't'), ('\r', 'r'), ('\n', 'n'), ('\\', '\\'), ('"', '"')]

theorem quotedChar_cases (c : Char) :
    quotedChar c = [c] ∧ c ≠ '\\' ∧ c ≠ '"' ∨
      (∃ letter, quotedChar c = ['\\', letter] ∧ (c, letter) ∈ shortQuotes) ∨
      quotedChar c = '\\' :: 'u' :: '{' :: (lowerHex c.toNat ++ ['}']) := by
  have short {d letter : Char} (isShort : (d, letter) ∈ shortQuotes) (same : c = d) :
      ∃ other, ['\\', letter] = ['\\', other] ∧ (c, other) ∈ shortQuotes :=
    ⟨letter, rfl, same ▸ isShort⟩
  unfold quotedChar
  split
  next isNull => exact .inr (.inl (short (by decide) isNull))
  next =>
  split
  next isTab => exact .inr (.inl (short (by decide) isTab))
  next =>
  split
  next isReturn => exact .inr (.inl (short (by decide) isReturn))
  next =>
  split
  next isFeed => exact .inr (.inl (short (by decide) isFeed))
  next =>
  split
  next isBackslash => exact .inr (.inl (short (by decide) isBackslash))
  next notBackslash =>
  split
  next isQuote => exact .inr (.inl (short (by decide) isQuote))
  next notQuote =>
  split
  next => exact .inl ⟨rfl, notBackslash, notQuote⟩
  next => exact .inr (.inr rfl)

theorem quotedChar_append_inj (same : quotedChar c ++ rest = quotedChar d ++ otherRest) :
    c = d ∧ rest = otherRest := by
  have oneEach : ∀ pair ∈ shortQuotes, ∀ other ∈ shortQuotes, pair.2 = other.2 → pair = other := by
    decide
  have noUnit : ∀ pair ∈ shortQuotes, pair.2 ≠ 'u' := by decide
  rcases quotedChar_cases c with ⟨isPlain, notBackslash, _⟩ | ⟨letter, isShort, known⟩ | byNumber
  · rw [isPlain] at same
    rcases quotedChar_cases d with ⟨otherPlain, _, _⟩ | ⟨other, otherShort, _⟩ | otherByNumber
    · rw [otherPlain] at same
      exact List.cons.inj same
    · rw [otherShort] at same
      exact absurd (List.cons.inj same).1 notBackslash
    · rw [otherByNumber] at same
      exact absurd (List.cons.inj same).1 notBackslash
  · rw [isShort] at same
    rcases quotedChar_cases d with ⟨otherPlain, otherNot, _⟩ | ⟨other, otherShort, otherKnown⟩ |
      otherByNumber
    · rw [otherPlain] at same
      exact absurd (List.cons.inj same).1.symm otherNot
    · rw [otherShort] at same
      obtain ⟨_, behindSlash⟩ := List.cons.inj same
      obtain ⟨lettersEq, restEq⟩ := List.cons.inj behindSlash
      exact ⟨congrArg Prod.fst (oneEach _ known _ otherKnown lettersEq), restEq⟩
    · rw [otherByNumber] at same
      obtain ⟨_, behindSlash⟩ := List.cons.inj same
      exact absurd (List.cons.inj behindSlash).1 (noUnit _ known)
  · rw [byNumber] at same
    rcases quotedChar_cases d with ⟨otherPlain, otherNot, _⟩ | ⟨other, otherShort, otherKnown⟩ |
      otherByNumber
    · rw [otherPlain] at same
      exact absurd (List.cons.inj same).1.symm otherNot
    · rw [otherShort] at same
      obtain ⟨_, behindSlash⟩ := List.cons.inj same
      exact absurd (List.cons.inj behindSlash).1.symm (noUnit _ otherKnown)
    · rw [otherByNumber] at same
      simp only [List.cons_append, List.append_assoc, List.cons.injEq, true_and] at same
      obtain ⟨digitsEq, behindDigits⟩ := append_inj_of_stops same (lowerHex_not_brace c.toNat)
        (lowerHex_not_brace d.toNat) (by rintro _ ⟨⟩; rfl) (by rintro _ ⟨⟩; rfl)
      exact ⟨Char.toNat_inj.mp (lowerHex_injective digitsEq), (List.cons.inj behindDigits).2⟩

theorem quotedChar_ne_quote (c : Char) (rest otherRest : List Char) :
    quotedChar c ++ rest ≠ '"' :: otherRest := by
  intro same
  rcases quotedChar_cases c with ⟨isPlain, _, notQuote⟩ | ⟨letter, isShort, _⟩ | byNumber
  · rw [isPlain] at same
    exact notQuote (List.cons.inj same).1
  · rw [isShort] at same
    exact absurd (List.cons.inj same).1 (by decide)
  · rw [byNumber] at same
    exact absurd (List.cons.inj same).1 (by decide)

/-- A quoted text is known from any longer text that it begins. -/
theorem quoted_append_inj (same : quoted text ++ rest = quoted other ++ otherRest) :
    text = other ∧ rest = otherRest := by
  have itemsSame : text.flatMap quotedChar ++ '"' :: rest =
      other.flatMap quotedChar ++ '"' :: otherRest := by
    simpa [quoted] using same
  clear same
  induction text generalizing other with
  | nil =>
      cases other with
      | nil => exact ⟨rfl, (List.cons.inj itemsSame).2⟩
      | cons d other =>
          rw [List.flatMap_cons, List.append_assoc] at itemsSame
          exact absurd itemsSame.symm (quotedChar_ne_quote d _ _)
  | cons c text inductionHypothesis =>
      rw [List.flatMap_cons, List.append_assoc] at itemsSame
      cases other with
      | nil => exact absurd itemsSame (quotedChar_ne_quote c _ _)
      | cons d other =>
          rw [List.flatMap_cons, List.append_assoc] at itemsSame
          obtain ⟨rfl, behind⟩ := quotedChar_append_inj itemsSame
          obtain ⟨rfl, restEq⟩ := inductionHypothesis behind
          exact ⟨rfl, restEq⟩

end Quoted

end QueryPlanner.Text
