import QueryPlanner.Proofs.Command.Sources
import QueryPlanner.Proofs.Condition.Chain
import QueryPlanner.Proofs.Plan.Faults

/-!
# What is printed

An action that may fail anywhere could print a part of its output and then fail.  The commands do
not: each takes all steps that may fail before it prints its first line, so a failure leaves nothing
but its message.
-/

namespace QueryPlanner.Condition.Source.Chain

variable {source : Source} {tokens : List Token} {fault : Option SyntaxFault}

theorem tokens_eq (chain : source.Chain 0 tokens fault) :
    source.tokens = match fault with
      | none => .ok tokens
      | some fault => .error fault := by
  obtain ⟨tokensEq, faultEq⟩ := source.chain_scan.unique chain
  have scanned : source.scan = (tokens, fault) := Prod.ext tokensEq faultEq
  rw [Source.tokens, scanned]
  cases fault with
  | none => rfl
  | some fault => rfl

end QueryPlanner.Condition.Source.Chain

namespace QueryPlanner.Command

open QueryPlanner.Condition QueryPlanner.Document QueryPlanner.Plan QueryPlanner.Schema

def unlines (lines : List String) : String :=
  String.join (lines.map (· ++ "\n"))

theorem unlines_append (lines others : List String) :
    unlines (lines ++ others) = unlines lines ++ unlines others := by
  rw [unlines, List.map_append, String.join_append]
  rfl

namespace Action

/-- The action prints a text behind whatever has been printed, and does not fail. -/
def Prints (action : Action Unit) (text : String) : Prop :=
  ∀ printed, action.run.run printed = (.ok (), printed ++ text)

/-- The action fails, and leaves what has been printed as it is. -/
def Refuses (action : Action Unit) (fault : Failure) : Prop :=
  ∀ printed, action.run.run printed = (.error fault, printed)

variable {α : Type} {action first second : Action Unit} {lines others : List String}
  {text : String} {fault : Failure} {result : Except Failure α} {next : α → Action Unit} {a : α}

section Printing

theorem prints_print (text : String) : (print text).Prints text :=
  fun _ => rfl

theorem prints_nothing : (pure () : Action Unit).Prints (unlines []) := by
  intro printed
  have same : printed ++ unlines [] = printed := String.append_empty
  rw [same]
  rfl

theorem prints_printLine (line : String) : (printLine line).Prints (unlines [line]) := by
  have single : unlines [line] = line ++ "\n" := by simp [unlines]
  rw [single]
  exact prints_print (line ++ "\n")

theorem Prints.andThen (firstPrints : first.Prints (unlines lines))
    (secondPrints : second.Prints (unlines others)) :
    (first >>= fun _ => second).Prints (unlines (lines ++ others)) := by
  intro printed
  have atSecond : (first >>= fun _ => second).run.run printed =
      second.run.run (printed ++ unlines lines) := by
    change (ExceptT.bindCont (fun _ => second) (first.run.run printed).1).run
      (first.run.run printed).2 = _
    rw [firstPrints]
    rfl
  rw [atSecond, secondPrints, unlines_append, String.append_assoc]

theorem prints_forM {items : List α} {act : α → Action Unit} {shown : α → List String}
    (each : ∀ item, (act item).Prints (unlines (shown item))) :
    (items.forM act).Prints (unlines (items.flatMap shown)) := by
  induction items with
  | nil => exact prints_nothing
  | cons item items inductionHypothesis => exact (each item).andThen inductionHypothesis

theorem prints_lines (items : List α) (shown : α → String) :
    (items.forM fun item => printLine (shown item)).Prints (unlines (items.map shown)) := by
  rw [List.map_eq_flatMap]
  exact prints_forM fun item => prints_printLine (shown item)

end Printing

section Failing

theorem run_after (result : Except Failure α) (next : α → Action Unit) (printed : String) :
    ((liftM result : Action α) >>= next).run.run printed =
      match result with
      | .ok a => (next a).run.run printed
      | .error fault => (.error fault, printed) := by
  cases result with
  | ok a => rfl
  | error fault => rfl

theorem Prints.after (succeeds : result = .ok a) (prints : (next a).Prints text) :
    ((liftM result : Action α) >>= next).Prints text := by
  intro printed
  rw [run_after, succeeds]
  exact prints printed

theorem Refuses.after (succeeds : result = .ok a) (refuses : (next a).Refuses fault) :
    ((liftM result : Action α) >>= next).Refuses fault := by
  intro printed
  rw [run_after, succeeds]
  exact refuses printed

theorem refuses_of_error (fails : result = .error fault) :
    ((liftM result : Action α) >>= next).Refuses fault := by
  intro printed
  rw [run_after, fails]

theorem Prints.outcome_eq (prints : action.Prints text) : action.outcome = ⟨0, text, ""⟩ := by
  rw [outcome, prints, String.empty_append]

theorem Refuses.outcome_eq (refuses : action.Refuses fault) :
    action.outcome = ⟨1, "", "Error: " ++ fault.message ++ "\n"⟩ := by
  rw [outcome, refuses]

end Failing

end Action

def includeLines (plan : QueryPlan) : List String :=
  if plan.chains.isEmpty then ["includes: (none)"]
  else
    ["includes:"] ++ plan.requests.map requestLine ++ ["chains:"] ++ plan.chains.map chainLine

def planLines (plan : QueryPlan) : Format → List String
  | .text =>
      ["shape:  " ++ plan.shape,
        "where:  " ++ (plan.wherePredicate.map Predicate.display).getD "(none)"] ++
        includeLines plan ++ ["paging: " ++ (plan.paging.map Paging.display).getD "(none)"]
  | .json => [(plan.toJson floatValue).pretty]

def conditionLines (field : String) (predicate : Option Predicate) : Format → List String
  | .text => [(predicate.map Predicate.display).getD "(empty condition)"]
  | .json => [(conditionValue field predicate).pretty]

def shapeLines (catalog : Catalog) (shape : String) : List String :=
  shape :: (catalog.fields shape).map fun (name, property) => fieldLine name property

def catalogLines (catalog : Catalog) : List String :=
  if catalog.shapeNames.isEmpty then ["No shapes declared."]
  else catalog.shapeNames.flatMap (shapeLines catalog)

namespace Invocation

/-- All that a command prints if nothing is wrong. -/
inductive Yields (wording : Wording) (world : World) (arguments : List String) :
    Invocation → String → Prop where
  | version : Yields wording world arguments .version "jqc 0.1.10\n"
  | help : Yields wording world arguments .help (wording.help arguments)
  | compile {file schema shape : Option String} {format : Format} {catalog : Catalog}
      {text : String} {plan : QueryPlan} (loaded : LoadsSchema wording world schema (.ok catalog))
      (read : ReadsDocument world file (.ok text))
      (declared : ∀ asked ∈ shape, catalog.containsShape asked = true)
      (planned : Plans catalog.provider text shape (.ok plan)) :
      Yields wording world arguments (.compile file schema shape format)
        (unlines (planLines plan format))
  | condition {field text : String} {format : Format} {predicate : Option Predicate}
      (compiled : compileCondition (.ofName field) text = .ok predicate) :
      Yields wording world arguments (.condition field text format)
        (unlines (conditionLines field predicate format))
  | tokens {text : String} {tokens : List Token}
      (read : (Source.ofString text).Chain 0 tokens none) :
      Yields wording world arguments (.tokens text) (unlines (tokens.map tokenLine))
  | shapes {schema : Option String} {catalog : Catalog}
      (loaded : LoadsSchema wording world schema (.ok catalog)) :
      Yields wording world arguments (.shapes schema) (unlines (catalogLines catalog))

/-- The first thing that is wrong: with the schema, or else with the text of the document, or else
with the shape that is asked for, or else with the document; or with the condition, or with a token
behind any number of good ones. -/
inductive FailsWith (wording : Wording) (world : World) : Invocation → Failure → Prop where
  | schema {file schema shape : Option String} {format : Format} {fault : Failure}
      (notLoaded : LoadsSchema wording world schema (.error fault)) :
      FailsWith wording world (.compile file schema shape format) fault
  | input {file schema shape : Option String} {format : Format} {catalog : Catalog}
      {fault : Failure} (loaded : LoadsSchema wording world schema (.ok catalog))
      (notRead : ReadsDocument world file (.error fault)) :
      FailsWith wording world (.compile file schema shape format) fault
  | shape {file schema : Option String} {shape : String} {format : Format} {catalog : Catalog}
      {text : String} (loaded : LoadsSchema wording world schema (.ok catalog))
      (read : ReadsDocument world file (.ok text))
      (undeclared : catalog.containsShape shape = false) :
      FailsWith wording world (.compile file schema (some shape) format) (.unresolvedType shape)
  | document {file schema shape : Option String} {format : Format} {catalog : Catalog}
      {text : String} {fault : Failure} (loaded : LoadsSchema wording world schema (.ok catalog))
      (read : ReadsDocument world file (.ok text))
      (declared : ∀ asked ∈ shape, catalog.containsShape asked = true)
      (notPlanned : Plans catalog.provider text shape (.error fault)) :
      FailsWith wording world (.compile file schema shape format) fault
  | condition {field text : String} {format : Format} {fault : SyntaxFault}
      (notCompiled : compileCondition (.ofName field) text = .error (.syntaxFault fault)) :
      FailsWith wording world (.condition field text format) (.malformedCondition fault)
  | unsupported {field text : String} {format : Format} {cause : Unsupported}
      (notCompiled : compileCondition (.ofName field) text = .error (.unsupported cause)) :
      FailsWith wording world (.condition field text format) (.unsupportedCondition cause)
  | token {text : String} {good : List Token} {fault : SyntaxFault}
      (stuck : (Source.ofString text).Chain 0 good (some fault)) :
      FailsWith wording world (.tokens text) (.malformedCondition fault)
  | shapes {schema : Option String} {fault : Failure}
      (notLoaded : LoadsSchema wording world schema (.error fault)) :
      FailsWith wording world (.shapes schema) fault

end Invocation

section Output

variable {wording : Wording} {world : World} {arguments : List String} {invocation : Invocation}

theorem prints_printIncludes (plan : QueryPlan) :
    (printIncludes plan).Prints (unlines (includeLines plan)) := by
  unfold printIncludes includeLines
  split
  next => exact Action.prints_printLine _
  next =>
    rw [List.append_assoc, List.append_assoc]
    apply (Action.prints_printLine _).andThen
    apply (Action.prints_lines _ _).andThen
    apply (Action.prints_printLine _).andThen
    exact Action.prints_lines _ _

theorem prints_printPlan (format : Format) (plan : QueryPlan) :
    (printPlan format plan).Prints (unlines (planLines plan format)) := by
  cases format with
  | json => exact Action.prints_printLine _
  | text =>
      rw [planLines, List.append_assoc]
      apply (Action.prints_printLine _).andThen
      apply (Action.prints_printLine _).andThen
      apply (prints_printIncludes plan).andThen
      exact Action.prints_printLine _

theorem prints_printShape (catalog : Catalog) (shape : String) :
    (printShape catalog shape).Prints (unlines (shapeLines catalog shape)) :=
  (Action.prints_printLine shape).andThen (Action.prints_lines _ _)

theorem prints_of_yields {output : String}
    (yields : invocation.Yields wording world arguments output) :
    (invocation.act wording world arguments).Prints output := by
  cases yields with
  | version => exact Action.prints_print _
  | help => exact Action.prints_print _
  | @compile file schema shape format catalog text plan loaded read declared planned =>
      apply Action.Prints.after (loadsSchema_iff.mp loaded)
      apply Action.Prints.after (readsDocument_iff.mp read)
      have succeeds := plans_iff.mp planned
      cases shape with
      | none =>
          apply Action.Prints.after succeeds
          exact prints_printPlan _ _
      | some asked =>
          dsimp only
          rw [if_pos (declared asked rfl)]
          apply Action.Prints.after succeeds
          exact prints_printPlan _ _
  | @condition field text format predicate compiled =>
      have succeeds : (compileCondition (.ofName field) text).mapError Failure.ofCondition =
          .ok predicate := by rw [compiled]; rfl
      apply Action.Prints.after succeeds
      cases format with
      | text => exact Action.prints_printLine _
      | json => exact Action.prints_printLine _
  | @tokens text tokens read =>
      have succeeds : (Source.ofString text).tokens.mapError Failure.malformedCondition =
          .ok tokens := by rw [read.tokens_eq]; rfl
      apply Action.Prints.after succeeds
      exact Action.prints_lines _ _
  | @shapes schema catalog loaded =>
      apply Action.Prints.after (loadsSchema_iff.mp loaded)
      unfold catalogLines
      split
      next noShapes =>
        have empty : catalog.shapeNames = [] := List.isEmpty_iff.mp noShapes
        rw [empty]
        exact Action.prints_nothing.andThen (Action.prints_printLine _)
      next someShapes =>
        rw [← List.append_nil (catalog.shapeNames.flatMap _)]
        apply (Action.prints_forM (prints_printShape catalog)).andThen
        exact Action.prints_nothing

theorem refuses_of_failsWith {fault : Failure} (fails : invocation.FailsWith wording world fault) :
    (invocation.act wording world arguments).Refuses fault := by
  cases fails with
  | schema notLoaded => exact Action.refuses_of_error (loadsSchema_iff.mp notLoaded)
  | input loaded notRead =>
      apply Action.Refuses.after (loadsSchema_iff.mp loaded)
      exact Action.refuses_of_error (readsDocument_iff.mp notRead)
  | shape loaded read undeclared =>
      apply Action.Refuses.after (loadsSchema_iff.mp loaded)
      apply Action.Refuses.after (readsDocument_iff.mp read)
      dsimp only
      rw [if_neg (Bool.eq_false_iff.mp undeclared)]
      exact fun printed => rfl
  | @document file schema shape format catalog text fault loaded read declared notPlanned =>
      apply Action.Refuses.after (loadsSchema_iff.mp loaded)
      apply Action.Refuses.after (readsDocument_iff.mp read)
      have fails := plans_iff.mp notPlanned
      cases shape with
      | none => exact Action.refuses_of_error fails
      | some asked =>
          dsimp only
          rw [if_pos (declared asked rfl)]
          exact Action.refuses_of_error fails
  | @condition field text format fault notCompiled =>
      have fails : (compileCondition (.ofName field) text).mapError Failure.ofCondition =
          .error (.malformedCondition fault) := by rw [notCompiled]; rfl
      exact Action.refuses_of_error fails
  | @unsupported field text format cause notCompiled =>
      have fails : (compileCondition (.ofName field) text).mapError Failure.ofCondition =
          .error (.unsupportedCondition cause) := by rw [notCompiled]; rfl
      exact Action.refuses_of_error fails
  | @token text good fault stuck =>
      have fails : (Source.ofString text).tokens.mapError Failure.malformedCondition =
          .error (.malformedCondition fault) := by rw [stuck.tokens_eq]; rfl
      exact Action.refuses_of_error fails
  | shapes notLoaded => exact Action.refuses_of_error (loadsSchema_iff.mp notLoaded)

theorem yields_or_failsWith (wording : Wording) (world : World) (arguments : List String)
    (invocation : Invocation) :
    (∃ output, invocation.Yields wording world arguments output) ∨
      ∃ fault, invocation.FailsWith wording world fault := by
  cases invocation with
  | version => exact .inl ⟨_, .version⟩
  | help => exact .inl ⟨_, .help⟩
  | compile file schema shape format =>
      have loads : LoadsSchema wording world schema _ := loadsSchema_iff.mpr rfl
      have reads : ReadsDocument world file _ := readsDocument_iff.mpr rfl
      cases loaded : loadSchema wording world schema with
      | error fault => exact .inr ⟨fault, .schema (loaded ▸ loads)⟩
      | ok catalog =>
          rw [loaded] at loads
          cases read : readDocument world file with
          | error fault => exact .inr ⟨fault, .input loads (read ▸ reads)⟩
          | ok text =>
              rw [read] at reads
              by_cases declared : ∀ asked ∈ shape, catalog.containsShape asked = true
              · have plans : Plans catalog.provider text shape _ := plans_iff.mpr rfl
                cases planned : planFor shape text catalog.provider with
                | error fault => exact .inr ⟨_, .document loads reads declared (planned ▸ plans)⟩
                | ok plan => exact .inl ⟨_, .compile loads reads declared (planned ▸ plans)⟩
              · simp only [not_forall] at declared
                obtain ⟨asked, rfl, undeclared⟩ := declared
                exact .inr ⟨_, .shape loads reads (Bool.eq_false_iff.mpr undeclared)⟩
  | condition field text format =>
      cases compiled : compileCondition (.ofName field) text with
      | error error =>
          cases error with
          | syntaxFault fault => exact .inr ⟨_, .condition compiled⟩
          | unsupported cause => exact .inr ⟨_, .unsupported compiled⟩
      | ok predicate => exact .inl ⟨_, .condition compiled⟩
  | tokens text =>
      have chain := (Source.ofString text).chain_scan
      cases faultEq : (Source.ofString text).scan.2 with
      | none => exact .inl ⟨_, .tokens (faultEq ▸ chain)⟩
      | some fault => exact .inr ⟨_, .token (faultEq ▸ chain)⟩
  | shapes schema =>
      have loads : LoadsSchema wording world schema _ := loadsSchema_iff.mpr rfl
      cases loaded : loadSchema wording world schema with
      | error fault => exact .inr ⟨fault, .shapes (loaded ▸ loads)⟩
      | ok catalog => exact .inl ⟨_, .shapes (loaded ▸ loads)⟩

end Output

/-- A command whose command line is well formed prints all or nothing.  Either nothing is wrong: it
ends with 0, prints all of its output and no message.  Or something is: it ends with 1, prints
nothing, and its message is about the first thing that is wrong, in the order of schema, text of the
document, shape and document, or in the condition or the tokens.  In particular, good members of a
query in front of a bad one leave nothing printed. -/
theorem prints_all_or_nothing (wording : Wording) (world : World) (arguments : List String)
    (invocation : Invocation) (wellFormed : readCommandLine? arguments = some invocation) :
    ((∃ output, invocation.Yields wording world arguments output) ∨
      ∃ fault, invocation.FailsWith wording world fault) ∧
    (∀ output, invocation.Yields wording world arguments output →
      run wording world arguments = ⟨0, output, ""⟩) ∧
    (∀ fault, invocation.FailsWith wording world fault →
      run wording world arguments = ⟨1, "", "Error: " ++ fault.message ++ "\n"⟩) ∧
    ∀ file schema shape format catalog text value document root front visit rest fault,
      invocation = .compile file schema shape format →
      LoadsSchema wording world schema (.ok catalog) → ReadsDocument world file (.ok text) →
      (∀ asked ∈ shape, catalog.containsShape asked = true) →
      parseJson text = .ok value → ofValue value = .ok document →
      IsRoot catalog.provider document shape root → document.IsInRange →
      visits catalog.provider root document.query = front ++ visit :: rest →
      (∀ earlier ∈ front, ∀ other, ¬ earlier.HasFault catalog.provider other) →
      visit.HasFault catalog.provider fault →
        run wording world arguments = ⟨1, "", "Error: " ++ fault.message ++ "\n"⟩ := by
  have runEq : run wording world arguments = (invocation.act wording world arguments).outcome := by
    rw [run, wellFormed]
  have failing (fault : Failure) (fails : invocation.FailsWith wording world fault) :
      run wording world arguments = ⟨1, "", "Error: " ++ fault.message ++ "\n"⟩ := by
    rw [runEq]
    exact (refuses_of_failsWith fails).outcome_eq
  refine ⟨yields_or_failsWith wording world arguments invocation, ?_, failing, ?_⟩
  · intro output yields
    rw [runEq]
    exact (prints_of_yields yields).outcome_eq
  · rintro file schema shape format catalog text value document root front visit rest fault rfl
      loaded read declared parsed understood isRoot inRange visited good bad
    have firstFault : HasFirstFault catalog.provider root document.query fault :=
      ⟨front, visit, rest, visited, good, bad⟩
    apply failing
    apply Invocation.FailsWith.document loaded read declared
    exact .badMember parsed understood isRoot inRange firstFault

/-- Readers that say the same of everything. -/
def curtWording : Wording where
  malformedSchema _ := "invalid table header"
  help _ := "see the manual\n"
  misuse _ := "see the manual\n"

def notesText : String :=
  "[shapes.note]\ntext = \"string\"\n"

def notesFile : File where
  shapes := .ofList [("note", .ofList [("text", .type "string")])]

def colorsText : String :=
  "\x7b\"query\":\x7b\"text\":null,\"color\":null\x7d\x7d"

def colorsQuery : List (String × Json.Value) :=
  [("text", .null), ("color", .null)]

/-- A world in which one schema file is broken and all others are about notes, and in which the
input asks for the text of notes and then for their color, which they do not have. -/
def notesWorld : World where
  file path := .found (.ok (if path = "broken" then "[" else notesText).toUTF8)
  input := .ok colorsText.toUTF8
  environment := {}

theorem loadsSchema_broken : LoadsSchema curtWording notesWorld (some "broken")
    (.error (.misconfigured (.malformed "invalid table header"))) := by
  have refused : File.parse? "[" = none := by decide +kernel
  exact .malformed .asked rfl .text refused

theorem loadsSchema_notes :
    LoadsSchema curtWording notesWorld (some "notes") (.ok notesFile.catalog) := by
  have parsed : File.parse? notesText = some notesFile := by decide +kernel
  exact .loaded .asked rfl .text parsed

theorem parseJson_colorsText :
    parseJson colorsText = .ok (.object [("query", .object colorsQuery)]) := by
  have characters : colorsText.toList =
      ['{', '"', 'q', 'u', 'e', 'r', 'y', '"', ':', '{', '"', 't', 'e', 'x', 't', '"', ':', 'n', 'u',
        'l', 'l', ',', '"', 'c', 'o', 'l', 'o', 'r', '"', ':', 'n', 'u', 'l', 'l', '}', '}'] := rfl
  rw [parseJson, Json.Value.parse, characters]
  simp [Json.readText, Json.readValue, Json.readObject, Json.readMembers, Json.readMemberValue,
    Json.readString, Json.readWord, Json.skipSpace, bind, Except.bind, Except.map, pure,
    Except.pure, colorsQuery]

theorem chain_unclosed : (Source.ofString "5 'abc").Chain 0 [⟨.int, some "5", 0, 1⟩]
    (some ⟨.unterminatedString, Source.ofString "5 'abc", 2⟩) := by
  have chain := (Source.ofString "5 'abc").chain_scan
  have scanned : (Source.ofString "5 'abc").scan = ([⟨.int, some "5", 0, 1⟩],
      some ⟨.unterminatedString, Source.ofString "5 'abc", 2⟩) := by decide +kernel
  rw [scanned] at chain
  exact chain

/-- A string that is not closed behind a number: the number is not printed.  A schema file that does
not go on behind a bracket: the message has the report on it.  A bad member behind a good one: no
part of a plan is printed. -/
theorem prints_all_or_nothing_notes :
    readCommandLine? ["tokens", "5 'abc"] = some (.tokens "5 'abc") ∧
      run curtWording notesWorld ["tokens", "5 'abc"] =
        ⟨1, "", "Error: Syntax Error: Unterminated string. (1:3)\n"⟩ ∧
      readCommandLine? ["shapes", "-s", "broken"] = some (.shapes (some "broken")) ∧
      run curtWording notesWorld ["shapes", "-s", "broken"] =
        ⟨1, "", "Error: Configuration error: Failed to parse schema: invalid table header\n"⟩ ∧
      readCommandLine? ["compile", "-s", "notes", "--shape=note"] =
        some (.compile none (some "notes") (some "note") .text) ∧
      run curtWording notesWorld ["compile", "-s", "notes", "--shape=note"] =
        ⟨1, "", "Error: Shape 'note' has no field 'color'\n"⟩ := by
  have asksTokens : readCommandLine? ["tokens", "5 'abc"] = some (.tokens "5 'abc") := by
    decide +kernel
  have asksShapes : readCommandLine? ["shapes", "-s", "broken"] =
      some (.shapes (some "broken")) := by decide +kernel
  have asksPlan : readCommandLine? ["compile", "-s", "notes", "--shape=note"] =
      some (.compile none (some "notes") (some "note") .text) := by decide +kernel
  obtain ⟨_, _, tokensFail, _⟩ := prints_all_or_nothing curtWording notesWorld _ _ asksTokens
  obtain ⟨_, _, shapesFail, _⟩ := prints_all_or_nothing curtWording notesWorld _ _ asksShapes
  obtain ⟨_, _, _, planFails⟩ := prints_all_or_nothing curtWording notesWorld _ _ asksPlan
  refine ⟨asksTokens, ?_, asksShapes, ?_, asksPlan, ?_⟩
  · rw [tokensFail _ (.token chain_unclosed)]
    decide +kernel
  · rw [shapesFail _ (.shapes loadsSchema_broken)]
    decide +kernel
  · have read : ReadsDocument notesWorld none (.ok colorsText) := .input (.inl rfl) .text
    have declared : ∀ asked ∈ some "note", notesFile.catalog.containsShape asked = true := by
      decide +kernel
    have understood : ofValue (.object [("query", .object colorsQuery)]) =
        .ok ⟨none, colorsQuery, 0, 0⟩ := rfl
    have visited : visits notesFile.catalog.provider "note" colorsQuery =
        [⟨"note", "text", .null⟩] ++ [⟨"note", "color", .null⟩] := by simp [visits, colorsQuery]
    have good : ∀ earlier ∈ [(⟨"note", "text", .null⟩ : Visit)],
        ∀ other, ¬ earlier.HasFault notesFile.catalog.provider other := by
      rintro _ (_ | ⟨_, ⟨⟩⟩)
      exact Visit.fault?_eq_none_iff.mp rfl
    have undeclared : notesFile.catalog.property? "note" "color" = none := by decide +kernel
    rw [planFails _ _ _ _ _ _ _ _ _ _ _ _ _ rfl loadsSchema_notes read declared
      parseJson_colorsText understood .asked (.inl rfl) visited good (.unknownField undeclared)]
    decide +kernel

end QueryPlanner.Command
