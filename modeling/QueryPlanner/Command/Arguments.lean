import QueryPlanner.Text.Utf8

/-!
The command line: which command it asks for, with which options.

Options stand anywhere after the command, up to two hyphens alone, after which everything is
taken as it is.  A hyphen alone is no option.
-/

namespace QueryPlanner.Command

inductive Format where
  | text
  | json
  deriving DecidableEq

inductive Invocation where
  | version
  | help
  | compile (file schema shape : Option String) (format : Format)
  | condition (field text : String) (format : Format)
  | tokens (text : String)
  | shapes (schema : Option String)
  deriving DecidableEq

inductive ValueOption where
  | schema
  | shape
  | format
  deriving DecidableEq

def ValueOption.ofLong? (name : String) : Option ValueOption :=
  if name = "schema" then some .schema
  else if name = "shape" then some .shape
  else if name = "format" then some .format
  else none

def ValueOption.ofShort? (letter : Char) : Option ValueOption :=
  if letter = 's' then some .schema
  else if letter = 'f' then some .format
  else none

def Format.ofName? (name : String) : Option Format :=
  if name = "text" then some .text
  else if name = "json" then some .json
  else none

structure Arguments where
  schema : Option String := none
  shape : Option String := none
  format : Option Format := none
  /-- The arguments that are no options, the last one first. -/
  plain : List String := []
  /-- Whether help is asked for, which makes all else count for nothing. -/
  wantsHelp : Bool := false

/-- Arguments with the value of an option, which may be given only once. -/
def Arguments.set? (arguments : Arguments) (name : ValueOption) (value : String) :
    Option Arguments :=
  match name with
  | .schema =>
      if arguments.schema.isSome then none else some { arguments with schema := some value }
  | .shape =>
      if arguments.shape.isSome then none else some { arguments with shape := some value }
  | .format =>
      if arguments.format.isSome then none
      else (Format.ofName? value).map fun format => { arguments with format := some format }

/-- What letters after one hyphen add to the arguments, and the option that still waits for its
value. -/
def readLetters? (allowed : List ValueOption) (arguments : Arguments) :
    List Char → Option (Arguments × Option ValueOption)
  | [] => some (arguments, none)
  | letter :: rest =>
      if letter = 'v' then readLetters? allowed arguments rest
      else if letter = 'h' then some ({ arguments with wantsHelp := true }, none)
      else
        match (ValueOption.ofShort? letter).filter allowed.contains with
        | none => none
        | some name =>
            match rest with
            | [] => some (arguments, some name)
            | '=' :: value => (arguments.set? name (String.ofList value)).map (·, none)
            | value => (arguments.set? name (String.ofList value)).map (·, none)

/-- What a name after two hyphens adds to the arguments, and the option that still waits for its
value.  An equals sign divides the name from a value. -/
def readLong? (allowed : List ValueOption) (arguments : Arguments) (text : List Char) :
    Option (Arguments × Option ValueOption) :=
  let name := String.ofList (text.takeWhile (· ≠ '='))
  let value? := (text.dropWhile (· ≠ '=')).tail?
  match (ValueOption.ofLong? name).filter allowed.contains, value? with
  | some option, none => some (arguments, some option)
  | some option, some value => (arguments.set? option (String.ofList value)).map (·, none)
  | none, some _ => none
  | none, none =>
      if name = "verbose" then some (arguments, none)
      else if name = "help" then some ({ arguments with wantsHelp := true }, none)
      else none

/-- Reads the arguments of a command.  `pending` is an option that waits for its value, which may
not look like an option itself. -/
def readArguments? (allowed : List ValueOption) (pending : Option ValueOption)
    (arguments : Arguments) : List String → Option Arguments
  | [] => if pending.isSome then none else some arguments
  | argument :: rest =>
      if arguments.wantsHelp then some arguments
      else
        match pending, argument.toList with
        | some _, '-' :: _ :: _ => none
        | some name, _ => do
            let arguments ← arguments.set? name argument
            readArguments? allowed none arguments rest
        | none, ['-', '-'] =>
            some { arguments with plain := rest.reverse ++ arguments.plain }
        | none, '-' :: '-' :: text => do
            let (arguments, pending) ← readLong? allowed arguments text
            readArguments? allowed pending arguments rest
        | none, '-' :: letter :: letters => do
            let (arguments, pending) ← readLetters? allowed arguments (letter :: letters)
            readArguments? allowed pending arguments rest
        | none, _ =>
            readArguments? allowed none { arguments with plain := argument :: arguments.plain } rest

/-- The invocation of a command by its name and its arguments.  Each command has room for so many
arguments that are no options; with more of them before it, even asking for help is refused. -/
def readCommand? (name : String) (arguments : List String) : Option Invocation :=
  let read (allowed : List ValueOption) (room : Nat) (invoke : Arguments → Option Invocation) :
      Option Invocation := do
    let found ← readArguments? allowed none {} arguments
    if found.plain.length > room then none
    else if found.wantsHelp then return .help
    else invoke found
  if name = "compile" ∨ name = "c" then
    read [.schema, .shape, .format] 1 fun found =>
      some (.compile found.plain.head? found.schema found.shape (found.format.getD .text))
  else if name = "condition" then
    read [.format] 2 fun found =>
      match found.plain with
      | [text, field] => some (.condition field text (found.format.getD .text))
      | _ => none
  else if name = "tokens" then
    read [] 1 fun found => found.plain.head?.map .tokens
  else if name = "shapes" then
    read [.schema] 0 fun found => some (.shapes found.schema)
  else none

def commandNames : List String :=
  ["compile", "c", "condition", "tokens", "shapes", "help"]

/-- What the letters after one hyphen ask for before any command: nothing, or an invocation of
their own. -/
def readLeadingLetters? : List Char → Option (Option Invocation)
  | [] => some none
  | 'v' :: rest => readLeadingLetters? rest
  | 'V' :: _ => some (some .version)
  | 'h' :: _ => some (some .help)
  | _ => none

def readCommandLine? : List String → Option Invocation
  | [] => none
  | argument :: rest =>
      match argument.toList with
      | '-' :: '-' :: text =>
          if text = ['v', 'e', 'r', 'b', 'o', 's', 'e'] then readCommandLine? rest
          else if text = ['v', 'e', 'r', 's', 'i', 'o', 'n'] then some .version
          else if text = ['h', 'e', 'l', 'p'] then some .help
          else none
      | '-' :: letter :: letters =>
          match readLeadingLetters? (letter :: letters) with
          | none => none
          | some none => readCommandLine? rest
          | some (some invocation) => some invocation
      | _ =>
          if argument = "help" then
            if rest.all commandNames.contains ∧ rest.length ≤ 1 then some .help else none
          else readCommand? argument rest

end QueryPlanner.Command
