/-!
Where the schema file is, if the user does not say so.
-/

namespace QueryPlanner.Schema

/-- The parts of the surroundings that decide where the schema file is. -/
structure Environment where
  /-- The directory that is set as the user's own. -/
  home? : Option String := none
  /-- The directory that the user's account gives. -/
  accountHome? : Option String := none
  configHome? : Option String := none
  schemaFile? : Option String := none

def isAbsolute (path : String) : Bool :=
  path.toList.head? = some '/'

def joinPath (directory name : String) : String :=
  if directory.isEmpty || directory.toList.getLast? = some '/' then directory ++ name
  else directory ++ "/" ++ name

/-- The user's own directory: the one that is set, or else the one of the account.  An empty path
counts as none. -/
def Environment.ownDirectory? (environment : Environment) : Option String :=
  environment.home?.filter (!·.isEmpty) <|> environment.accountHome?.filter (!·.isEmpty)

/-- The directory for settings: the one that is set, if it is absolute, or else a directory of the
user's own.  A user without a directory of their own has no settings at all. -/
def Environment.configDirectory? (environment : Environment) : Option String :=
  environment.ownDirectory?.map fun own =>
    (environment.configHome?.filter isAbsolute).getD (joinPath own ".config")

/-- The number of the user who runs a process, among the lines that describe the process. -/
def userNumber? (process : String) : Option String :=
  (process.splitOn "\n").findSome? fun line =>
    match line.splitOn "\t" with
    | "Uid:" :: number :: _ => some number
    | _ => none

/-- The directory of a user, among the lines of a list of accounts. -/
def directoryOfUser? (accounts number : String) : Option String :=
  (accounts.splitOn "\n").findSome? fun line =>
    match line.splitOn ":" with
    | _ :: _ :: other :: _ :: _ :: directory :: _ => if other = number then some directory else none
    | _ => none

/-- The path of the schema file: the one that the user gave, the one that is set, or the one among
the settings.  There is none for a user without a directory. -/
def Environment.schemaPath? (environment : Environment) (explicit : Option String) :
    Option String :=
  explicit
    <|> environment.schemaFile?.filter (!·.isEmpty)
    <|> environment.configDirectory?.map fun directory =>
      joinPath (joinPath directory "jsonq") "schema.toml"

end QueryPlanner.Schema
