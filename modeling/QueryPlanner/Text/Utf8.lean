/-!
Byte measures of a text.  Offsets into a text count the bytes of its UTF-8 form, while the text
itself is a list of characters.
-/

namespace QueryPlanner.Text

def byteLength : List Char → Nat
  | [] => 0
  | c :: rest => c.utf8Size + byteLength rest

/-- The text from a byte offset on.  There is none past the end or inside a character. -/
def dropBytes : Nat → List Char → Option (List Char)
  | 0, text => some text
  | _ + 1, [] => none
  | offset + 1, c :: rest =>
      if c.utf8Size ≤ offset + 1 then dropBytes (offset + 1 - c.utf8Size) rest else none

/-- The characters that lie wholly before a byte offset. -/
def takeBytes : Nat → List Char → List Char
  | _, [] => []
  | offset, c :: rest =>
      if c.utf8Size ≤ offset then c :: takeBytes (offset - c.utf8Size) rest else []

@[simp]
theorem byteLength_append (front back : List Char) :
    byteLength (front ++ back) = byteLength front + byteLength back := by
  induction front with
  | nil => simp [byteLength]
  | cons c front inductionHypothesis =>
      simp [byteLength, inductionHypothesis, Nat.add_assoc]

theorem dropBytes_byteLength_append (front back : List Char) :
    dropBytes (byteLength front) (front ++ back) = some back := by
  induction front with
  | nil => simp [byteLength, dropBytes]
  | cons c front inductionHypothesis =>
      have positive := Char.utf8Size_pos c
      obtain ⟨size, sizeEq⟩ : ∃ size, c.utf8Size + byteLength front = size + 1 :=
        ⟨c.utf8Size + byteLength front - 1, by omega⟩
      have remaining : size + 1 - c.utf8Size = byteLength front := by omega
      have fits : c.utf8Size ≤ size + 1 := by omega
      rw [byteLength, List.cons_append, sizeEq, dropBytes, if_pos fits, remaining]
      exact inductionHypothesis

end QueryPlanner.Text
