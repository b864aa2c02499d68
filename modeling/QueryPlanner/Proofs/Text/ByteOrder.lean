import Mathlib.Algebra.Group.Nat.Defs
import Mathlib.Tactic.SplitIfs

/-!
# The order of texts by their bytes

The first byte of a character grows with the code point, and the bytes after it are the lower digits
of the code point to the base of 64, the most significant one first.  So texts have the same order
by the bytes of their UTF-8 form as by their code points.
-/

namespace QueryPlanner.Text

def utf8 (text : String) : List UInt8 :=
  text.toUTF8.data.toList

def followers (code : Nat) : Nat :=
  if code ≤ 0x7f then 0 else if code ≤ 0x7ff then 1 else if code ≤ 0xffff then 2 else 3

def firstByte (code : Nat) : Nat :=
  if code ≤ 0x7f then code
  else if code ≤ 0x7ff then code / 64 + 0xc0
  else if code ≤ 0xffff then code / 64 ^ 2 + 0xe0
  else code / 64 ^ 3 + 0xf0

/-- The lower digits of a number to the base of 64, each as a byte that follows another one. -/
def lowerDigits (code : Nat) : Nat → List UInt8
  | 0 => []
  | count + 1 => UInt8.ofNat (code / 64 ^ count % 64 + 0x80) :: lowerDigits code count

variable {code larger m n : Nat} {front back : List UInt8}

theorem utf8_eq_flatMap (text : String) :
    utf8 text = text.toList.flatMap String.utf8EncodeChar := by
  rw [utf8, String.toUTF8_eq_toByteArray, ← String.utf8Encode_toList, List.utf8Encode,
    List.data_toByteArray]

theorem toNat_lt (c : Char) : c.toNat < 0x110000 := by
  rcases c.valid with low | high
  · exact Nat.lt_trans low (by decide)
  · exact high.2

theorem utf8EncodeChar_eq (c : Char) :
    String.utf8EncodeChar c =
      UInt8.ofNat (firstByte c.toNat) :: lowerDigits c.toNat (followers c.toNat) := by
  have bound : c.val.toNat < 0x110000 := toNat_lt c
  have codeEq : c.toNat = c.val.toNat := rfl
  simp only [String.utf8EncodeChar, firstByte, followers, codeEq]
  generalize c.val.toNat = code at bound
  -- What is cut off the first byte of each form is zero for the code points of that form.
  split_ifs with one two three
  · rfl
  · have noMore : code / 64 % 32 = code / 64 := Nat.mod_eq_of_lt (by omega)
    simp [lowerDigits, noMore]
  · have noMore : code / 4096 % 16 = code / 4096 := Nat.mod_eq_of_lt (by omega)
    simp [lowerDigits, noMore]
  · have noMore : code / 262144 % 8 = code / 262144 := Nat.mod_eq_of_lt (by omega)
    simp [lowerDigits, noMore]

theorem cons_lt_cons_of_byte_lt (less : m < n) (isByte : n < 256) :
    UInt8.ofNat m :: front < UInt8.ofNat n :: back := by
  apply List.cons_lt_cons_iff.mpr
  left
  simp only [UInt8.lt_iff_toNat_lt, UInt8.toNat_ofNat']
  omega

theorem lowerDigits_append_lt (less : code < larger) (count : Nat)
    (same : code / 64 ^ count = larger / 64 ^ count) (front back : List UInt8) :
    lowerDigits code count ++ front < lowerDigits larger count ++ back := by
  induction count with
  | zero => simp [Nat.ne_of_lt less] at same
  | succ count inductionHypothesis =>
      rw [lowerDigits, lowerDigits, List.cons_append, List.cons_append]
      rw [Nat.pow_succ, ← Nat.div_div_eq_div_mul, ← Nat.div_div_eq_div_mul] at same
      by_cases digitsSame : code / 64 ^ count = larger / 64 ^ count
      · rw [digitsSame]
        exact List.cons_lt_cons_iff.mpr (.inr ⟨rfl, inductionHypothesis digitsSame⟩)
      · have notMore : code / 64 ^ count ≤ larger / 64 ^ count :=
          Nat.div_le_div_right (Nat.le_of_lt less)
        apply cons_lt_cons_of_byte_lt
        · omega
        · omega

theorem firstByte_lt_or_eq (less : code < larger) (bound : larger < 0x110000) :
    firstByte code < firstByte larger ∨
      firstByte code = firstByte larger ∧ followers code = followers larger ∧
        code / 64 ^ followers larger = larger / 64 ^ followers larger := by
  unfold firstByte followers
  split_ifs
  all_goals omega

theorem firstByte_lt (bound : code < 0x110000) : firstByte code < 256 := by
  unfold firstByte
  split_ifs
  all_goals omega

theorem utf8EncodeChar_append_lt {c d : Char} (less : c < d) (front back : List UInt8) :
    String.utf8EncodeChar c ++ front < String.utf8EncodeChar d ++ back := by
  have codeLess : c.toNat < d.toNat := less
  rw [utf8EncodeChar_eq, utf8EncodeChar_eq, List.cons_append, List.cons_append]
  rcases firstByte_lt_or_eq codeLess (toNat_lt d) with firstLess | ⟨firstSame, countSame, upperSame⟩
  · exact cons_lt_cons_of_byte_lt firstLess (firstByte_lt (toNat_lt d))
  · rw [firstSame, countSame]
    apply List.cons_lt_cons_iff.mpr
    exact .inr ⟨rfl, lowerDigits_append_lt codeLess _ upperSame front back⟩

theorem flatMap_utf8EncodeChar_lt {text other : List Char} (less : text < other) :
    text.flatMap String.utf8EncodeChar < other.flatMap String.utf8EncodeChar := by
  induction text generalizing other with
  | nil =>
      cases other with
      | nil => exact absurd less (List.lt_irrefl [])
      | cons d other =>
          rw [List.flatMap_cons, utf8EncodeChar_eq]
          exact List.nil_lt_cons _ _
  | cons c text inductionHypothesis =>
      cases other with
      | nil => exact absurd less (List.not_lt_nil _)
      | cons d other =>
          rw [List.flatMap_cons, List.flatMap_cons]
          rcases List.cons_lt_cons_iff.mp less with firstLess | ⟨rfl, restLess⟩
          · exact utf8EncodeChar_append_lt firstLess _ _
          · exact List.append_left_lt (inductionHypothesis restLess)

theorem utf8_lt_of_lt {text other : String} (less : text < other) : utf8 text < utf8 other := by
  rw [utf8_eq_flatMap, utf8_eq_flatMap]
  exact flatMap_utf8EncodeChar_lt less

/-- Texts have the same order by their bytes as by their code points. -/
theorem utf8_le_utf8_iff {text other : String} : utf8 text ≤ utf8 other ↔ text ≤ other := by
  constructor
  · intro notMore
    apply String.not_lt.mp
    intro less
    exact List.not_lt.mpr notMore (utf8_lt_of_lt less)
  · intro notMore
    by_cases same : text = other
    · rw [same]
      exact List.le_refl _
    · exact List.le_of_lt (utf8_lt_of_lt (Std.lt_of_le_of_ne notMore same))

end QueryPlanner.Text
