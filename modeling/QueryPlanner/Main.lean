import QueryPlanner.Command.Run

/-!
The command itself: it looks at the world, runs, and prints.
-/

namespace QueryPlanner.Command

/-- The number and the words of the operating system in an error. -/
def systemError : IO.Error → SystemError
  | .alreadyExists _ number words
  | .inappropriateType _ number words
  | .invalidArgument _ number words
  | .noSuchThing _ number words
  | .permissionDenied _ number words
  | .resourceExhausted _ number words
  | .interrupted _ number words
  | .noFileOrDirectory _ number words
  | .hardwareFault number words
  | .illegalOperation number words
  | .otherError number words
  | .protocolError number words
  | .resourceBusy number words
  | .resourceVanished number words
  | .timeExpired number words
  | .unsatisfiedConstraints number words
  | .unsupportedOperation number words => ⟨number.toNat, words⟩
  | .unexpectedEof => ⟨0, "unexpected end of file"⟩
  | .userError words => ⟨0, words⟩

def attempt (read : IO ByteArray) : IO (Except SystemError ByteArray) := do
  try
    return .ok (← read)
  catch error => return .error (systemError error)

/-- What is at a path of the file system.  What cannot be read may still be there. -/
def lookAt (path : String) : IO FileState := do
  match ← attempt do (← IO.FS.Handle.mk path .read).readBinToEnd with
  | .ok contents => return .found (.ok contents)
  | .error cause =>
      try
        let _ ← IO.FS.realPath path
        return .found (.error cause)
      catch _ => return .unreachable cause

def accountHome? : IO (Option String) := do
  try
    let process ← IO.FS.readFile "/proc/self/status"
    let accounts ← IO.FS.readFile "/etc/passwd"
    return (Schema.userNumber? process).bind (Schema.directoryOfUser? accounts)
  catch _ => return none

def lookAround : IO Schema.Environment := do
  return {
    home? := ← IO.getEnv "HOME"
    accountHome? := ← accountHome?
    configHome? := ← IO.getEnv "XDG_CONFIG_HOME"
    schemaFile? := ← IO.getEnv "JSONQ_SCHEMA" }

/-- The readers that the command is built upon here have nothing to say. -/
def silent : Wording where
  malformedSchema _ := ""
  help _ := ""
  misuse _ := ""

end QueryPlanner.Command

open QueryPlanner.Command in
def main (arguments : List String) : IO UInt32 := do
  let environment ← lookAround
  let invocation := readCommandLine? arguments
  let paths := (invocation.map (Invocation.paths environment)).getD []
  let files ← paths.mapM fun path => return (path, ← lookAt path)
  let input ←
    if (invocation.map Invocation.readsInput).getD false then
      attempt do (← IO.getStdin).readBinToEnd
    else pure (.ok .empty)
  let file (path : String) : FileState :=
    ((files.find? fun entry => entry.1 = path).map Prod.snd).getD
      (.unreachable ⟨2, "No such file or directory"⟩)
  let outcome := run silent ⟨file, input, environment⟩ arguments
  IO.print outcome.output
  IO.eprint outcome.errors
  return outcome.exitCode.toUInt32
