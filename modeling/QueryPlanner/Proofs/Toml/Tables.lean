import Mathlib.Data.List.Forall2
import QueryPlanner.Proofs.Toml.Lines

/-!
# Written tables

A text is written table by table: a header with the path of the table, and its entries.  Each
table comes behind all that was read before it, so what is read is a row of nested tables of which
only the last entries grow.  A table that is missing on the way to another one is the same as an
empty one that came about by the header of the table inside it.
-/

namespace QueryPlanner.Toml

/-- A table as it is written: its path, and its entries apart from further tables. -/
structure Block where
  path : List String
  members : List (String × Value)

namespace Block

def statements (block : Block) : List Statement :=
  .header block.path :: block.members.map fun (key, value) => .entry key value

/-- The outermost table after a written table is read. -/
def addTo (root : Entries) (block : Block) : Option Entries :=
  (block.statements.foldlM Statement.carryOut ⟨root, []⟩).map Reading.root

end Block

/-- A table around others: the entries before the one with the next table, the key of that table
and how it came about. -/
structure Frame where
  before : Entries
  key : String
  origin : Origin

/-- The entries of the innermost one of nested tables, with the tables around it. -/
def around : List Frame → Entries → Entries
  | [], inner => inner
  | frame :: frames, inner =>
      frame.before ++ [(frame.key, .table frame.origin (around frames inner))]

/-- The path of the innermost one of nested tables. -/
def pathOf (frames : List Frame) : List String :=
  frames.map Frame.key

/-- No entry has a key yet. -/
def Fresh (key : String) (entries : Entries) : Prop :=
  key ∉ entries.map Prod.fst

def DistinctKeys (entries : Entries) : Prop :=
  (entries.map Prod.fst).Nodup

/-- Nested tables have their keys to themselves. -/
def Clear (frames : List Frame) : Prop :=
  ∀ frame ∈ frames, Fresh frame.key frame.before

/-- The entries of a table that have values of their own. -/
def nodesOf (members : List (String × Value)) : Entries :=
  members.map fun (key, value) => (key, .value value)

variable {key : String} {entries inner : Entries} {node other : Node} {frames : List Frame}
  {blocks : List Block} {members : List (String × Value)} {path : List String}

section Entries

theorem find?_of_fresh (fresh : Fresh key entries) : entries.find? key = none := by
  rw [Entries.find?, Option.map_eq_none_iff, List.find?_eq_none]
  intro entry isMember same
  exact fresh (List.mem_map.mpr ⟨entry, isMember, of_decide_eq_true same⟩)

theorem find?_last (fresh : Fresh key entries) :
    Entries.find? (entries ++ [(key, node)]) key = some node := by
  have noneBefore : List.find? (fun entry => decide (entry.1 = key)) entries = none := by
    simpa [Entries.find?] using find?_of_fresh fresh
  simp [Entries.find?, List.find?_append, noneBefore]

theorem fresh_of_distinct (distinct : DistinctKeys (inner ++ (key, node) :: entries)) :
    Fresh key inner := by
  rw [DistinctKeys, List.map_append, List.nodup_append] at distinct
  intro isMember
  exact distinct.2.2 key isMember key (by simp) rfl

theorem put_of_fresh (fresh : Fresh key entries) :
    entries.put key node = entries ++ [(key, node)] := by
  induction entries with
  | nil => rfl
  | cons entry entries inductionHypothesis =>
      rw [Fresh, List.map_cons, List.mem_cons, not_or] at fresh
      rw [Entries.put, if_neg (Ne.symm fresh.1), inductionHypothesis fresh.2]
      rfl

theorem put_last (fresh : Fresh key entries) :
    Entries.put key node (entries ++ [(key, other)]) = entries ++ [(key, node)] := by
  induction entries with
  | nil => simp [Entries.put]
  | cons entry entries inductionHypothesis =>
      rw [Fresh, List.map_cons, List.mem_cons, not_or] at fresh
      rw [List.cons_append, Entries.put, if_neg (Ne.symm fresh.1), inductionHypothesis fresh.2]
      rfl

end Entries

section Nested

variable {change : Entries → Option Entries}

theorem around_concat (frames : List Frame) (before : Entries) (key : String) (origin : Origin)
    (inner : Entries) :
    around (frames ++ [⟨before, key, origin⟩]) inner =
      around frames (before ++ [(key, .table origin inner)]) := by
  induction frames with
  | nil => rfl
  | cons outer frames inductionHypothesis =>
      rw [List.cons_append, around, inductionHypothesis]
      rfl

theorem clear_concat (clear : Clear frames) (fresh : Fresh key entries) (origin : Origin) :
    Clear (frames ++ [⟨entries, key, origin⟩]) := by
  intro frame isMember
  rcases List.mem_append.mp isMember with isOuter | isLast
  · exact clear frame isOuter
  · rw [List.mem_singleton] at isLast
    exact isLast ▸ fresh

theorem pathOf_concat (frames : List Frame) (before : Entries) (key : String) (origin : Origin) :
    pathOf (frames ++ [⟨before, key, origin⟩]) = pathOf frames ++ [key] :=
  List.map_append

theorem updateAt_here (here there : Origin) :
    updateAt .implied (fun _ => change) path here entries =
      updateAt .implied (fun _ => change) path there entries := by
  cases path <;> rfl

theorem updateAt_last (fresh : Fresh key entries) (here origin : Origin) :
    updateAt .implied (fun _ => change) (key :: path) here
        (entries ++ [(key, .table origin inner)]) =
      (updateAt .implied (fun _ => change) path origin inner).map fun inner =>
        entries ++ [(key, .table origin inner)] := by
  rw [updateAt, find?_last fresh]
  simp only [reduceCtorEq, false_and, if_false]
  cases updateAt .implied (fun _ => change) path origin inner with
  | none => rfl
  | some inner => exact congrArg some (put_last fresh)

theorem updateAt_missing (fresh : Fresh key entries) (here : Origin) :
    updateAt .implied (fun _ => change) (key :: path) here entries =
      updateAt .implied (fun _ => change) (key :: path) here
        (entries ++ [(key, .table .implied [])]) := by
  rw [updateAt_last fresh, updateAt, find?_of_fresh fresh]
  cases updateAt .implied (fun _ => change) path .implied [] with
  | none => rfl
  | some inner => exact congrArg some (put_of_fresh fresh)

/-- A change of the innermost table leaves the tables around it as they are. -/
theorem updateAt_around (clear : Clear frames) (here there : Origin) :
    updateAt .implied (fun _ => change) (pathOf frames ++ path) here (around frames inner) =
      (updateAt .implied (fun _ => change) path there inner).map (around frames) := by
  induction frames generalizing here with
  | nil =>
      rw [updateAt_here here there]
      exact (Option.map_id' ..).symm
  | cons frame frames inductionHypothesis =>
      obtain ⟨fresh, restClear⟩ := List.forall_mem_cons.mp clear
      have further := inductionHypothesis restClear frame.origin
      rw [around, pathOf, List.map_cons, List.cons_append, updateAt_last fresh, ← pathOf, further,
        Option.map_map]
      rfl

theorem updateAt_innermost (clear : Clear frames) (here : Origin) :
    updateAt .implied (fun _ => change) (pathOf frames) here (around frames inner) =
      (change inner).map (around frames) := by
  have changed : updateAt .implied (fun _ => change) (pathOf frames ++ []) here
      (around frames inner) = (change inner).map (around frames) :=
    updateAt_around clear here here
  rwa [List.append_nil] at changed

end Nested

section Headers

/-- What a header does in the table that its own table is in. -/
def openHere (key : String) (entries : Entries) : Option Entries :=
  match entries.find? key with
  | none => some (entries.put key (.table .declared []))
  | some (.table .implied inner) => some (entries.put key (.table .declared inner))
  | some _ => none

theorem openTable_concat (path : List String) (key : String) (root : Entries) :
    openTable (path ++ [key]) root =
      updateAt .implied (fun _ => openHere key) path .declared root := by
  simp only [openTable, splitPath?, List.getLast?_concat, List.dropLast_concat, Option.map_some,
    Option.bind_eq_bind, Option.bind_some]
  rfl

theorem openHere_of_fresh (fresh : Fresh key inner) :
    openHere key inner = some (inner ++ [(key, .table .declared [])]) := by
  rw [openHere, find?_of_fresh fresh]
  exact congrArg some (put_of_fresh fresh)

theorem openTable_around (clear : Clear frames) (fresh : Fresh key inner) :
    openTable (pathOf frames ++ [key]) (around frames inner) =
      some (around frames (inner ++ [(key, .table .declared [])])) := by
  rw [openTable_concat, updateAt_innermost clear, openHere_of_fresh fresh]
  rfl

theorem openTable_missing (clear : Clear frames) (fresh : Fresh key inner) :
    openTable (pathOf frames ++ key :: path) (around frames inner) =
      openTable (pathOf frames ++ key :: path)
        (around frames (inner ++ [(key, .table .implied [])])) := by
  -- The missing table is the one that the header opens, or one on the way to it.
  rcases List.eq_nil_or_concat path with rfl | ⟨parents, last, rfl⟩
  · have openEmpty : openHere key (inner ++ [(key, .table .implied [])]) =
        some (inner ++ [(key, .table .declared [])]) := by
      rw [openHere, find?_last fresh]
      exact congrArg some (put_last fresh)
    rw [openTable_concat, openTable_concat, updateAt_innermost clear, updateAt_innermost clear,
      openHere_of_fresh fresh, openEmpty]
  · rw [List.concat_eq_append, ← List.cons_append, ← List.append_assoc, openTable_concat,
      openTable_concat, updateAt_around clear .declared .declared,
      updateAt_around clear .declared .declared, updateAt_missing fresh]

theorem assignIn_around (clear : Clear frames) (fresh : Fresh key inner) :
    assignIn (pathOf frames) [key] node (around frames inner) =
      some (around frames (inner ++ [(key, node)])) := by
  have assigned : assign [key] node inner = some (inner ++ [(key, node)]) := by
    simp [assign, splitPath?, updateAt, find?_of_fresh fresh, put_of_fresh fresh]
  rw [assignIn, updateAt_innermost clear, assigned]
  rfl

end Headers

section Blocks

theorem carryOut_members (clear : Clear frames)
    (distinct : DistinctKeys (inner ++ nodesOf members)) :
    (members.map fun (key, value) => Statement.entry key value).foldlM Statement.carryOut
        ⟨around frames inner, pathOf frames⟩ =
      some ⟨around frames (inner ++ nodesOf members), pathOf frames⟩ := by
  induction members generalizing inner with
  | nil => simp [nodesOf]
  | cons member members inductionHypothesis =>
      obtain ⟨key, value⟩ := member
      have fresh : Fresh key inner := fresh_of_distinct distinct
      have split : inner ++ nodesOf ((key, value) :: members) =
          inner ++ [(key, .value value)] ++ nodesOf members := by
        simp [nodesOf]
      rw [split] at distinct
      rw [List.map_cons, List.foldlM_cons, Statement.carryOut, assignIn_around clear fresh, split]
      exact inductionHypothesis distinct

theorem addTo_around (clear : Clear frames) (fresh : Fresh key inner)
    (distinct : DistinctKeys (nodesOf members)) :
    Block.addTo (around frames inner) ⟨pathOf frames ++ [key], members⟩ =
      some (around frames (inner ++ [(key, .table .declared (nodesOf members))])) := by
  rw [← List.nil_append (nodesOf members)] at distinct
  have membersAdded := carryOut_members (clear_concat clear fresh .declared) distinct
  rw [around_concat, around_concat, pathOf_concat] at membersAdded
  rw [Block.addTo, Block.statements, List.foldlM_cons, Statement.carryOut,
    openTable_around clear fresh]
  simp only [Option.map_some, Option.bind_eq_bind, Option.bind_some]
  rw [membersAdded]
  rfl

/-- Written tables are the same whether the one around the first of them is missing before or has
come about by its header, without entries. -/
theorem foldlM_addTo_missing (clear : Clear frames) (fresh : Fresh key inner)
    (starts : ∃ path members rest, blocks = ⟨pathOf frames ++ key :: path, members⟩ :: rest) :
    blocks.foldlM Block.addTo (around frames inner) =
      blocks.foldlM Block.addTo (around (frames ++ [⟨inner, key, .implied⟩]) []) := by
  obtain ⟨path, members, rest, rfl⟩ := starts
  have first : Block.addTo (around frames inner) ⟨pathOf frames ++ key :: path, members⟩ =
      Block.addTo (around frames (inner ++ [(key, .table .implied [])]))
        ⟨pathOf frames ++ key :: path, members⟩ := by
    simp only [Block.addTo, Block.statements, List.foldlM_cons, Statement.carryOut]
    rw [openTable_missing clear fresh]
  rw [List.foldlM_cons, List.foldlM_cons, around_concat, first]

/-- Several tables in the same one come behind what it has. -/
theorem foldlM_addTo_around (inner : Entries) (tables : List (String × List (String × Value)))
    (clear : Clear frames)
    (distinct : DistinctKeys (inner ++ tables.map fun (key, members) =>
      (key, .table .declared (nodesOf members))))
    (each : ∀ table ∈ tables, DistinctKeys (nodesOf table.2)) :
    (tables.map fun (key, members) => Block.mk (pathOf frames ++ [key]) members).foldlM Block.addTo
        (around frames inner) =
      some (around frames (inner ++ tables.map fun (key, members) =>
        (key, .table .declared (nodesOf members)))) := by
  induction tables generalizing inner with
  | nil => simp
  | cons table tables inductionHypothesis =>
      obtain ⟨tableDistinct, restDistinct⟩ := List.forall_mem_cons.mp each
      rw [List.map_cons] at distinct
      have added := addTo_around clear (fresh_of_distinct distinct) tableDistinct
      rw [List.append_cons] at distinct
      have further := inductionHypothesis _ distinct restDistinct
      rw [← List.append_cons] at further
      rw [List.map_cons, List.foldlM_cons, List.map_cons, added]
      exact further

/-- The statements of written tables add the tables, whichever table is open before. -/
theorem carryOut_blocks (blocks : List Block) (reading : Reading) :
    ((blocks.flatMap Block.statements).foldlM Statement.carryOut reading).map Reading.root =
      blocks.foldlM Block.addTo reading.root := by
  induction blocks generalizing reading with
  | nil => rfl
  | cons block blocks inductionHypothesis =>
      -- A header opens its table from the outermost one on, so the open one plays no part.
      have startsAnew : block.statements.foldlM Statement.carryOut reading =
          block.statements.foldlM Statement.carryOut ⟨reading.root, []⟩ := rfl
      rw [List.flatMap_cons, List.foldlM_append, List.foldlM_cons, startsAnew, Block.addTo]
      cases block.statements.foldlM Statement.carryOut ⟨reading.root, []⟩ with
      | none => rfl
      | some reading => exact inductionHypothesis reading

end Blocks

section Values

theorem membersOf_eq_map (entries : Entries) :
    membersOf entries = entries.map fun (key, node) => (key, node.toValue) := by
  induction entries with
  | nil => rfl
  | cons entry entries inductionHypothesis =>
      rw [membersOf, inductionHypothesis]
      rfl

theorem membersOf_nodesOf (members : List (String × Value)) :
    membersOf (nodesOf members) = members := by
  rw [membersOf_eq_map, nodesOf, List.map_map]
  exact List.map_id' members

end Values

section Text

def IsEntry (line : List Char) (member : String × Value) : Prop :=
  IsLine line (.entry member.1 member.2)

def IsBlock (text : List Char) (block : Block) : Prop :=
  Tells text block.statements

variable {lines texts : List (List Char)}

theorem isBlock_writeTable (path : List String) (nonempty : path ≠ []) (short : path.length ≤ 79)
    (each : List.Forall₂ IsEntry lines members) :
    IsBlock (writeTable path lines) ⟨path, members⟩ := by
  have rest : Tells lines.flatten (members.map fun (key, value) => .entry key value) := by
    induction each with
    | nil => exact .nil
    | cons isLine _ inductionHypothesis => exact .line isLine inductionHypothesis
  exact .line (.header nonempty short) rest

theorem tells_joinTables (each : List.Forall₂ IsBlock texts blocks) :
    Tells (joinTables texts) (blocks.flatMap Block.statements) := by
  induction each with
  | nil => exact .nil
  | @cons text block texts blocks tells rest inductionHypothesis =>
      cases rest with
      | nil =>
          rw [List.flatMap_cons, List.flatMap_nil, List.append_nil]
          exact tells
      | cons _ _ => exact tells.append (.blank inductionHypothesis)

/-- A text of written tables is what adding them to nothing gives. -/
theorem parse?_joinTables (each : List.Forall₂ IsBlock texts blocks) :
    parse? (String.ofList (joinTables texts)) = (blocks.foldlM Block.addTo []).map membersOf := by
  rw [parse?_tells (tells_joinTables each), ← carryOut_blocks blocks {}, Option.map_map]
  rfl

end Text

end QueryPlanner.Toml
