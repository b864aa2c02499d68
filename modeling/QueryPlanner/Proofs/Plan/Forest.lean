/-!
# Forests

The trees of a forest stand beside each other, each with the forest below its root.  The labels in
preorder and the ways from the roots down to the tips hold the same: put one after the other, the
ways give the preorder when each label is kept where it comes first.
-/

namespace QueryPlanner.Plan

inductive Forest (α : Type) where
  | empty
  | tree (label : α) (below others : Forest α)

namespace Forest

variable {α β : Type}

def isEmpty : Forest α → Bool
  | empty => true
  | tree _ _ _ => false

def map (f : α → β) : Forest α → Forest β
  | empty => empty
  | tree label below others => tree (f label) (below.map f) (others.map f)

def tops : Forest α → List α
  | empty => []
  | tree label _ others => label :: others.tops

/-- All labels, each right before those below it. -/
def preorder : Forest α → List α
  | empty => []
  | tree label below others => label :: (below.preorder ++ others.preorder)

def tips : Forest α → List α
  | empty => []
  | tree label below others => (if below.isEmpty then [label] else below.tips) ++ others.tips

/-- The ways that lead on from a way to the tips. -/
def branches (above : List α) : Forest α → List (List α)
  | empty => []
  | tree label below others =>
      (if below.isEmpty then [above ++ [label]] else below.branches (above ++ [label])) ++
        others.branches above

theorem isEmpty_map (f : α → β) (forest : Forest α) : (forest.map f).isEmpty = forest.isEmpty := by
  cases forest <;> rfl

theorem preorder_map (f : α → β) (forest : Forest α) :
    (forest.map f).preorder = forest.preorder.map f := by
  induction forest with
  | empty => rfl
  | tree label below others belowIH othersIH =>
      rw [map, preorder, preorder, belowIH, othersIH, List.map_cons, List.map_append]

theorem tips_map (f : α → β) (forest : Forest α) : (forest.map f).tips = forest.tips.map f := by
  induction forest with
  | empty => rfl
  | tree label below others belowIH othersIH =>
      rw [map, tips, tips, isEmpty_map, belowIH, othersIH, List.map_append]
      cases below.isEmpty <;> rfl

theorem map_getLast?_branches (above : List α) (forest : Forest α) :
    (forest.branches above).map List.getLast? = forest.tips.map some := by
  induction forest generalizing above with
  | empty => rfl
  | tree label below others belowIH othersIH =>
      rw [branches, tips, List.map_append, List.map_append, othersIH]
      congr 1
      split
      next => rw [List.map_singleton, List.getLast?_concat, List.map_singleton]
      next => exact belowIH _

section Firsts

variable [DecidableEq α] {front other rest otherRest : List α}

/-- Two lists have the same members in the same order when only the first of equal ones are kept,
whatever comes before them. -/
def SameFirsts (front other : List α) : Prop :=
  ∀ before, (before ++ front).eraseDups = (before ++ other).eraseDups

theorem SameFirsts.refl (front : List α) : SameFirsts front front :=
  fun _ => rfl

theorem SameFirsts.trans {last : List α} (first : SameFirsts front other)
    (second : SameFirsts other last) : SameFirsts front last :=
  fun before => (first before).trans (second before)

theorem removeAll_congr {seen others : List α} (same : ∀ a, a ∈ seen ↔ a ∈ others) :
    rest.removeAll seen = rest.removeAll others := by
  apply List.filter_congr
  intro a _
  rw [Bool.eq_iff_iff]
  simp [same]

theorem removeAll_eq_nil {seen : List α} (known : ∀ a ∈ rest, a ∈ seen) :
    rest.removeAll seen = [] := by
  apply List.filter_eq_nil_iff.mpr
  intro a isMember
  simp [known a isMember]

theorem SameFirsts.append (first : SameFirsts front other) (second : SameFirsts rest otherRest) :
    SameFirsts (front ++ rest) (other ++ otherRest) := by
  intro before
  have sameMembers (a : α) : a ∈ before ++ front ↔ a ∈ before ++ other := by
    rw [← List.mem_eraseDups, first before, List.mem_eraseDups]
  rw [← List.append_assoc, second, List.eraseDups_append, first before,
    removeAll_congr sameMembers, ← List.eraseDups_append, List.append_assoc]

theorem SameFirsts.absorb (known : ∀ a ∈ other, a ∈ front) :
    SameFirsts (front ++ (other ++ rest)) (front ++ rest) := by
  intro before
  have removed : (other ++ rest).removeAll (before ++ front) = rest.removeAll (before ++ front) := by
    rw [List.removeAll, List.filter_append, ← List.removeAll, ← List.removeAll,
      removeAll_eq_nil fun a isKnown => List.mem_append_right _ (known a isKnown), List.nil_append]
  rw [← List.append_assoc, List.eraseDups_append, removed, ← List.eraseDups_append,
    List.append_assoc]

theorem eraseDups_of_nodup (distinct : front.Nodup) : front.eraseDups = front := by
  induction front with
  | nil => rfl
  | cons a rest inductionHypothesis =>
      obtain ⟨isNew, distinctRest⟩ := List.nodup_cons.mp distinct
      have kept : (rest.filter fun b => !b == a) = rest := by
        apply List.filter_eq_self.mpr
        rintro b isMember
        have other : b ≠ a := fun same => isNew (same ▸ isMember)
        simpa using other
      rw [List.eraseDups_cons, kept, inductionHypothesis distinctRest]

theorem sameFirsts_flatten_branches (above : List α) (forest : Forest α) :
    SameFirsts (forest.branches above).flatten
      (if forest.isEmpty then [] else above ++ forest.preorder) := by
  induction forest generalizing above with
  | empty => exact .refl _
  | tree label below others belowIH othersIH =>
      have here : SameFirsts
          (if below.isEmpty then [above ++ [label]] else below.branches (above ++ [label])).flatten
          (above ++ label :: below.preorder) := by
        cases below with
        | empty => simpa [isEmpty, preorder] using SameFirsts.refl (above ++ [label])
        | tree => simpa [isEmpty] using belowIH (above ++ [label])
      rw [branches, List.flatten_append]
      apply (here.append (othersIH above)).trans
      cases others with
      | empty => simpa [isEmpty, preorder] using SameFirsts.refl (above ++ label :: below.preorder)
      | tree =>
          have known (a : α) (isAbove : a ∈ above) : a ∈ above ++ label :: below.preorder :=
            List.mem_append_left _ isAbove
          simpa [isEmpty, preorder] using SameFirsts.absorb known

/-- The branches one after the other give the preorder, each label kept where it comes first. -/
theorem eraseDups_flatten_branches (forest : Forest α) (distinct : forest.preorder.Nodup) :
    (forest.branches []).flatten.eraseDups = forest.preorder := by
  have same := sameFirsts_flatten_branches [] forest []
  rw [List.nil_append, List.nil_append, List.nil_append] at same
  rw [same]
  cases forest with
  | empty => rfl
  | tree => exact eraseDups_of_nodup distinct

end Firsts

end Forest

end QueryPlanner.Plan
