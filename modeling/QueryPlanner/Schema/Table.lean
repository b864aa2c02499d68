/-!
Tables from names to values, kept in the order of the names by code points.

A table has each name once, so two tables with the same contents are equal however they were
built.
-/

namespace QueryPlanner.Schema

def Increasing {α : Type} (entries : List (String × α)) : Prop :=
  entries.Pairwise fun earlier later => earlier.1 < later.1

/-- A list of named values in increasing order of the names. -/
structure Table (α : Type) where
  entries : List (String × α) := []
  increasing : Increasing entries := by exact .nil

namespace Table

variable {α : Type}

@[ext]
theorem ext {left right : Table α} (equal : left.entries = right.entries) : left = right := by
  cases left
  cases right
  cases equal
  rfl

instance [DecidableEq α] : DecidableEq (Table α) := fun left right =>
  if equal : left.entries = right.entries then .isTrue (ext equal)
  else .isFalse fun same => equal (congrArg entries same)

/-- The entries with a name given a value, in place of any value that it had. -/
def insertEntry (name : String) (value : α) : List (String × α) → List (String × α)
  | [] => [(name, value)]
  | (other, kept) :: rest =>
      if name < other then (name, value) :: (other, kept) :: rest
      else if name = other then (name, value) :: rest
      else (other, kept) :: insertEntry name value rest

theorem mem_of_mem_insertEntry {name : String} {value : α} {entries : List (String × α)}
    {entry : String × α} (membership : entry ∈ insertEntry name value entries) :
    entry = (name, value) ∨ entry ∈ entries := by
  induction entries with
  | nil => simpa [insertEntry] using membership
  | cons head rest inductionHypothesis =>
      simp only [insertEntry] at membership
      split at membership
      next => simpa using membership
      next =>
        split at membership
        next =>
          rcases List.mem_cons.mp membership with given | inRest
          · exact .inl given
          · exact .inr (List.mem_cons_of_mem _ inRest)
        next =>
          rcases List.mem_cons.mp membership with isHead | inInserted
          · exact .inr (by simp [isHead])
          · rcases inductionHypothesis inInserted with given | inRest
            · exact .inl given
            · exact .inr (List.mem_cons_of_mem _ inRest)

theorem insertEntry_increasing {name : String} {value : α} {entries : List (String × α)}
    (increasing : Increasing entries) : Increasing (insertEntry name value entries) := by
  induction entries with
  | nil => simp [insertEntry, Increasing]
  | cons head rest inductionHypothesis =>
      obtain ⟨headLess, restIncreasing⟩ := List.pairwise_cons.mp increasing
      simp only [insertEntry]
      split
      next less =>
        refine List.pairwise_cons.mpr ⟨fun entry membership => ?_, increasing⟩
        rcases List.mem_cons.mp membership with isHead | inRest
        · simpa [isHead] using less
        · exact String.lt_trans less (headLess entry inRest)
      next notLess =>
        split
        next same =>
          refine List.pairwise_cons.mpr ⟨fun entry membership => ?_, restIncreasing⟩
          simpa [same] using headLess entry membership
        next different =>
          have greater : head.1 < name :=
            Std.lt_of_le_of_ne (String.not_lt.mp notLess) (Ne.symm different)
          refine List.pairwise_cons.mpr
            ⟨fun entry membership => ?_, inductionHypothesis restIncreasing⟩
          rcases mem_of_mem_insertEntry membership with given | inRest
          · simpa [given] using greater
          · exact headLess entry inRest

/-- The table with a name given a value, in place of any value that it had. -/
def insert (table : Table α) (name : String) (value : α) : Table α :=
  ⟨insertEntry name value table.entries, insertEntry_increasing table.increasing⟩

def find? (table : Table α) (name : String) : Option α :=
  (table.entries.find? fun entry => entry.1 = name).map Prod.snd

def contains (table : Table α) (name : String) : Bool :=
  (table.find? name).isSome

def names (table : Table α) : List String :=
  table.entries.map Prod.fst

/-- The table of a list of entries, of which a later one wins over an earlier one. -/
def ofList (entries : List (String × α)) : Table α :=
  entries.foldl (fun table entry => table.insert entry.1 entry.2) {}

theorem find?_insertEntry (name other : String) (value : α) (entries : List (String × α)) :
    (insertEntry name value entries).find? (fun entry => entry.1 = other) =
      if name = other then some (name, value)
      else entries.find? fun entry => entry.1 = other := by
  induction entries with
  | nil => by_cases same : name = other <;> simp [insertEntry, same]
  | cons head rest inductionHypothesis =>
      by_cases same : name = other
      · subst same
        by_cases less : name < head.1
        · simp [insertEntry, less]
        · by_cases isHead : name = head.1
          · rw [insertEntry, if_neg less, if_pos isHead]
            simp
          · simp [insertEntry, less, isHead, Ne.symm isHead, inductionHypothesis]
      · by_cases less : name < head.1
        · simp [insertEntry, less, same]
        · by_cases isHead : name = head.1
          · have notOther : ¬head.1 = other := isHead ▸ same
            rw [insertEntry, if_neg less, if_pos isHead]
            simp [same, notOther]
          · simp only [insertEntry, less, isHead, if_false, List.find?_cons, inductionHypothesis,
              same]

theorem find?_insert (table : Table α) (name other : String) (value : α) :
    (table.insert name value).find? other =
      if name = other then some value else table.find? other := by
  simp only [find?, insert, find?_insertEntry]
  split <;> simp

end Table

end QueryPlanner.Schema
