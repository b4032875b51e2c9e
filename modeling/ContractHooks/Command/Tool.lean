-- The command line tool: its own flags, its one command, and how a run ends. Arguments that
-- are refused end it with the exit code two, and a failure with one, told with its causes.
import ContractHooks.Command.Generate

namespace ContractHooks.Command

/-! ## What is asked -/

/-- What the tool is asked. -/
inductive Invocation
  | usage (success : Bool)
  | version
  | generate (request : Request)
  deriving Repr, DecidableEq

/-- The names that the tool knows in front of its command. -/
def toolNames : Names where
  long := [("verbose", .flag .verbose), ("version", .flag .version), ("help", .flag .help)]
  short := [('v', .flag .verbose), ('V', .flag .version), ('h', .flag .help)]

/-- The names that the command knows when the tool runs it. -/
def commandNames : Names where
  long := ("verbose", .flag .verbose) :: generateNames.long
  short := ('v', .flag .verbose) :: generateNames.short

/-- What a refusal of arguments ends in. -/
def Invocation.ofRefusal : Refusal → Invocation
  | .helpWanted => .usage true
  | .versionWanted => .version
  | _ => .usage false

/-- What the help command is asked: about the tool, or about a command there is. -/
def Invocation.ofHelp : List String → Invocation
  | [] => .usage true
  | [command] => .usage (command == "generate" || command == "help")
  | _ => .usage false

/-- What the command to generate is asked. -/
def Invocation.ofGenerate (arguments : List String) : Invocation :=
  match Request.ofArguments commandNames arguments with
  | .ok r => .generate r
  | .error e => ofRefusal e

/-- What the tool is asked, given what was read in front of its command. -/
def Invocation.ofArguments : List String → Taken → Invocation
  | [], _ => .usage false
  | a :: rest, t =>
    if a == "generate" then ofGenerate rest
    else if a == "help" then ofHelp rest
    else if a == "--" || a == "-" || a.toList.head? != some '-' then .usage false
    else
      match t.next toolNames a with
      | .ok t => ofArguments rest t
      | .error e => ofRefusal e

/-! ## How a run ends -/

/-- The name of the tool and its version. -/
def versionText : String := "hookgen 0.1.0\n"

/-- How the tool is used. -/
def usageText : String :=
  String.intercalate "\n"
    ["Generate react hooks for contract ABIs",
     "",
     "Usage: hookgen [-v] generate [PROJECT] [-o PATH] [--typescript | --javascript] [--dry-run]",
     "       hookgen help [COMMAND]",
     "       hookgen --version",
     ""]

/-- A text with every line but the first moved to the right. -/
def indentLines (indent text : String) : String :=
  String.intercalate ("\n" ++ indent) (text.splitOn "\n")

/-- What is told about an error. A file fault is told as a cause of its own. -/
def report (e : Error) : String :=
  let causes := match e with
    | .file fault =>
      "    0: " ++ indentLines "       " e.message ++ "\n    1: "
        ++ indentLines "       " fault.message
    | _ => "    " ++ indentLines "    " e.message
  "Error: Failed to generate hooks\n\nCaused by:\n" ++ causes

/-- How a run of the tool ends. -/
inductive Ending
  | usage (exitCode : Nat)
  | done (stdout : String)
  | failed (stderr : String)
  deriving Repr, DecidableEq

/-- How an invocation ends in a tree of files, and the tree after it. -/
def Invocation.run (i : Invocation) (tree : Files.Tree) : Ending × Files.Tree :=
  match i with
  | .usage success => (.usage (if success then 0 else 2), tree)
  | .version => (.done versionText, tree)
  | .generate r =>
    let outcome := r.outcome tree
    match outcome.result with
    | .error e => (.failed (report e), outcome.tree)
    | .ok stdout => (.done stdout, outcome.tree)

end ContractHooks.Command
