import QueryPlanner.Text.Blank
import QueryPlanner.Text.Numeric

/-!
# White space around a text

A text that begins and ends with other characters is left as it is, and no digit and no letter is
white space.
-/

namespace QueryPlanner.Text

theorem trimStart_eq_self {text : List Char} (front : ∀ c ∈ text.head?, isBlank c = false) :
    trimStart text = text := by
  cases text with
  | nil => rfl
  | cons c rest =>
      have notBlank : isBlank c = false := front c rfl
      simp [trimStart, notBlank]

theorem trim_eq_self {text : List Char} (front : ∀ c ∈ text.head?, isBlank c = false)
    (back : ∀ c ∈ text.getLast?, isBlank c = false) : trim text = text := by
  rw [trim, trimStart_eq_self front, trimStart_eq_self, List.reverse_reverse]
  rwa [List.head?_reverse]

theorem trim_eq_self_of_forall {text : List Char} (notBlank : ∀ c ∈ text, isBlank c = false) :
    trim text = text :=
  trim_eq_self (fun c found => notBlank c (List.mem_of_mem_head? found))
    (fun c found => notBlank c (List.mem_of_getLast? found))

theorem trim_cons {c : Char} (notBlank : isBlank c = false) (rest : List Char) :
    ∃ kept, trim (c :: rest) = c :: kept := by
  have front : trimStart (c :: rest) = c :: rest :=
    trimStart_eq_self (by simpa using notBlank)
  refine ⟨(rest.reverse.dropWhile isBlank).reverse, ?_⟩
  rw [trim, front, List.reverse_cons, trimStart, List.dropWhile_append]
  split
  next allBlank => simp_all
  next => simp

theorem toNat_of_isDigit {c : Char} (isDigit : c.isDigit = true) :
    48 ≤ c.toNat ∧ c.toNat ≤ 57 := by
  simp only [Char.isDigit, Bool.and_eq_true, decide_eq_true_eq] at isDigit
  exact isDigit

theorem isBlank_of_isDigit {c : Char} (isDigit : c.isDigit = true) : isBlank c = false := by
  have bounds := toNat_of_isDigit isDigit
  simp only [isBlank, blankRanges, inRanges]
  grind

def blankCodes : List Nat :=
  blankRanges.flatMap fun (first, last) => List.range' first (last + 1 - first)

theorem mem_blankCodes {c : Char} (blank : isBlank c = true) : c.toNat ∈ blankCodes := by
  simp only [isBlank, blankRanges, inRanges] at blank
  simp only [blankCodes, blankRanges, List.mem_flatMap, List.mem_range'_1, List.mem_cons,
    exists_eq_or_imp]
  grind

theorem blankCodes_not_alphabetic :
    ∀ code ∈ blankCodes, inRanges code alphabeticRanges = false := by
  decide +kernel

theorem isBlank_of_isAlphabetic {c : Char} (alphabetic : isAlphabetic c = true) :
    isBlank c = false := by
  cases blank : isBlank c with
  | false => rfl
  | true =>
      have notAlphabetic := blankCodes_not_alphabetic c.toNat (mem_blankCodes blank)
      rw [isAlphabetic, notAlphabetic] at alphabetic
      cases alphabetic

end QueryPlanner.Text
