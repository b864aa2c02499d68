import QueryPlanner.Command.Arguments
import QueryPlanner.Condition.Render
import QueryPlanner.Document.Build
import QueryPlanner.Schema.File
import QueryPlanner.Schema.Location

/-!
What the commands do.

A command prints line after line and may fail on the way.  What it has printed by then stays
printed, and the message comes after it.
-/

namespace QueryPlanner.Command

open QueryPlanner.Condition QueryPlanner.Json QueryPlanner.Plan QueryPlanner.Schema
open QueryPlanner.Text

inductive FileState where
  /-- The path leads nowhere. -/
  | unreachable (cause : SystemError)
  /-- Something is there, which can be read or not. -/
  | found (contents : Except SystemError ByteArray)

structure World where
  file : (path : String) → FileState
  input : Except SystemError ByteArray
  environment : Environment

/-- What the readers that the command is built upon have to say: the one of TOML about a text that
it refuses, the one of command lines about their use and about those that are not well formed. -/
structure Wording where
  malformedSchema : (text : String) → String
  help : (arguments : List String) → String
  misuse : (arguments : List String) → String

structure Outcome where
  exitCode : Nat
  output : String
  errors : String
  deriving DecidableEq

def readText (contents : Except SystemError ByteArray) : Except Failure String :=
  match contents with
  | .error cause => .error (.unreadable (.refused cause))
  | .ok bytes =>
      match String.fromUTF8? bytes with
      | some text => .ok text
      | none => .error (.unreadable .notText)

def schemaOfText (wording : Wording) (text : String) : Except Failure Catalog :=
  match File.parse? text with
  | some file => .ok file.catalog
  | none => .error (.misconfigured (.malformed (wording.malformedSchema text)))

def loadSchema (wording : Wording) (world : World) (schema : Option String) :
    Except Failure Catalog :=
  match world.environment.schemaPath? schema with
  | none => .error (.misconfigured .noLocation)
  | some path =>
      match world.file path with
      | .unreachable _ => .error (.misconfigured (.fileNotFound path))
      | .found contents => readText contents >>= schemaOfText wording

/-- The text of a document: of a file, or of the input where the file is a hyphen or not given. -/
def readDocument (world : World) (file : Option String) : Except Failure String :=
  match file.filter (· ≠ "-") with
  | none => readText world.input
  | some path =>
      match world.file path with
      | .unreachable cause => .error (.unreadable (.refused cause))
      | .found contents => readText contents

/-- Something that a command does.  It may print, and it may fail, and what it has printed before
it fails stays printed. -/
abbrev Action : Type → Type :=
  ExceptT Failure (StateM String)

def print (text : String) : Action Unit :=
  modify (· ++ text)

def printLine (line : String) : Action Unit :=
  print (line ++ "\n")

def padEnd (width : Nat) (text : String) : String :=
  text ++ String.ofList (List.replicate (width - text.toList.length) ' ')

def requestLine (request : Request) : String :=
  String.ofList (List.replicate (2 * request.depth) ' ') ++ request.display

def chainLine (chain : List Request) : String :=
  "  " ++ " -> ".intercalate (chain.map Request.relation)

def printIncludes (plan : QueryPlan) : Action Unit := do
  if plan.chains.isEmpty then printLine "includes: (none)"
  else
    printLine "includes:"
    plan.requests.forM fun request => printLine (requestLine request)
    printLine "chains:"
    plan.chains.forM fun chain => printLine (chainLine chain)

def printPlan (format : Format) (plan : QueryPlan) : Action Unit :=
  match format with
  | .text => do
      printLine ("shape:  " ++ plan.shape)
      printLine ("where:  " ++ (plan.wherePredicate.map Predicate.display).getD "(none)")
      printIncludes plan
      printLine ("paging: " ++ (plan.paging.map Paging.display).getD "(none)")
  | .json => printLine (plan.toJson floatValue).pretty

/-- Plans a document and prints the plan.  The schema is read before the document, and a shape that
is not declared is refused before the document is looked at. -/
def compileDocument (wording : Wording) (world : World) (file schema shape : Option String)
    (format : Format) : Action Unit := do
  let catalog ← loadSchema wording world schema
  let text ← readDocument world file
  match shape with
  | none => printPlan format (← Document.plan text catalog.provider)
  | some shape =>
      if catalog.containsShape shape then
        printPlan format (← Document.planAs text shape catalog.provider)
      else throw (.unresolvedType shape)

def conditionValue (field : String) (predicate : Option Predicate) : Value :=
  .object [
    ("field", .string field),
    ("predicate", .ofOption (Predicate.toJson floatValue) predicate),
    ("text", .ofOption (fun found => .string found.display) predicate),
    ("condition", .ofOption .string (predicate.bind Predicate.toCondition?))]

def printCondition (field text : String) (format : Format) : Action Unit := do
  let predicate ← (compileCondition (.ofName field) text).mapError Failure.ofCondition
  match format with
  | .text => printLine ((predicate.map Predicate.display).getD "(empty condition)")
  | .json => printLine (conditionValue field predicate).pretty

def tokenLine (token : Token) : String :=
  let span := padEnd 9 (toString token.start ++ ".." ++ toString token.stop)
  match token.value with
  | some value =>
      span ++ " " ++ padEnd 8 token.kind.description ++ " " ++ String.ofList (quoted value.toList)
  | none => span ++ " " ++ token.kind.description

def printTokens (text : String) : Action Unit := do
  let tokens ← (Source.ofString text).tokens.mapError Failure.malformedCondition
  tokens.forM fun token => printLine (tokenLine token)

def fieldLine (name : String) (property : Property) : String :=
  "  " ++ padEnd 16 name ++ " " ++ property.valueShape ++
    (if property.isCollection then "[]" else "") ++
    (if property.isNavigable then "  (relation)" else "")

def printShape (catalog : Catalog) (shape : String) : Action Unit := do
  printLine shape
  (catalog.fields shape).forM fun (name, property) => printLine (fieldLine name property)

def printShapes (wording : Wording) (world : World) (schema : Option String) : Action Unit := do
  let catalog ← loadSchema wording world schema
  catalog.shapeNames.forM (printShape catalog)
  if catalog.shapeNames.isEmpty then printLine "No shapes declared."

def Invocation.act (wording : Wording) (world : World) (arguments : List String) :
    Invocation → Action Unit
  | version => printLine "jqc 0.1.10"
  | help => print (wording.help arguments)
  | compile file schema shape format => compileDocument wording world file schema shape format
  | condition field text format => printCondition field text format
  | tokens text => printTokens text
  | shapes schema => printShapes wording world schema

/-- The end of an action that began with nothing printed.  A failure adds a message to whatever has
been printed. -/
def Action.outcome (action : Action Unit) : Outcome :=
  match action.run.run "" with
  | (.ok (), printed) => ⟨0, printed, ""⟩
  | (.error fault, printed) => ⟨1, printed, "Error: " ++ fault.message ++ "\n"⟩

/-- The end of a command line.  One that is not well formed ends with a code of its own. -/
def run (wording : Wording) (world : World) (arguments : List String) : Outcome :=
  match readCommandLine? arguments with
  | some invocation => (invocation.act wording world arguments).outcome
  | none => ⟨2, "", wording.misuse arguments⟩

def Invocation.paths (environment : Environment) : Invocation → List String
  | compile file schema _ _ =>
      (environment.schemaPath? schema).toList ++ (file.filter (· ≠ "-")).toList
  | shapes schema => (environment.schemaPath? schema).toList
  | _ => []

def Invocation.readsInput : Invocation → Bool
  | compile file _ _ _ => (file.filter (· ≠ "-")).isNone
  | _ => false

end QueryPlanner.Command
