-- The command line tool on an operating system: it reads the files that a request needs, and
-- prints or writes what the request comes to.
import ContractHooks.Command.Tool

namespace ContractHooks

open Command

/-- The fault that an error of the system is. -/
def faultOf (e : IO.Error) : FileFault :=
  match e with
  | .noFileOrDirectory _ _ _ => .missing
  | .alreadyExists _ _ _ => .occupied
  | .inappropriateType _ 21 _ => .isFolder
  | .inappropriateType _ 20 _ => .notFolder
  | e => .other (toString e)

/-- The text of the file at a path. -/
def readText (path : String) : IO (Except FileFault String) := do
  match ← (IO.FS.readBinFile path).toBaseIO with
  | .error e => return .error (faultOf e)
  | .ok bytes =>
    match String.fromUTF8? bytes with
    | some text => return .ok text
    | none => return .error .notText

/-- A way to read files that have been read already. -/
def readerOf (known : List (String × Except FileFault String)) : FileReader := fun path =>
  (known.lookup path).getD (.error .missing)

/-- What a request comes to, with the files read that it needs. -/
def actionOf (r : Request) : IO (Except Error Action) := do
  let project := (r.project, ← readText r.project)
  let interfaces ← (r.abiPaths (readerOf [project])).mapM fun path => do
    return (path, ← readText path)
  return r.action (readerOf (project :: interfaces))

/-- Writes a text to a file and makes the folders that lead to it. -/
def writeText (path text : String) : IO Unit := do
  match Files.parent? path with
  | none => pure ()
  | some above => if above.isEmpty then pure () else IO.FS.createDirAll above
  IO.FS.writeFile path text

/-- Prints or writes. -/
def perform : Action → IO (Except Error Unit)
  | .print text => do
    IO.print text
    return .ok ()
  | .write path text => do
    match ← (writeText path text).toBaseIO with
    | .error e => return .error (.file (faultOf e))
    | .ok () => return .ok ()

/-- Runs a request and tells how it ended. -/
def runRequest (r : Request) : IO UInt32 := do
  let result ← match ← actionOf r with
    | .error e => pure (.error e)
    | .ok action => perform action
  match result with
  | .error e =>
    IO.eprintln (report e)
    return 1
  | .ok () => return 0

/-- Runs the tool with its arguments and gives the exit code. -/
def runTool (arguments : List String) : IO UInt32 := do
  match Invocation.ofArguments arguments Taken.nothing with
  | .usage true =>
    IO.print usageText
    return 0
  | .usage false =>
    IO.eprint usageText
    return 2
  | .version =>
    IO.print versionText
    return 0
  | .generate r => runRequest r

end ContractHooks

/-- The tool. -/
def main (arguments : List String) : IO UInt32 := ContractHooks.runTool arguments
