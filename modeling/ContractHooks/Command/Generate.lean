-- The command that generates the module of a project: what it is asked, and what it does with
-- a way to read files. It prints the module or writes it to one file, and on a failure it does
-- neither.
import ContractHooks.Command.Arguments
import ContractHooks.Files.Tree
import ContractHooks.Project.Load

namespace ContractHooks.Command

/-! ## Requests -/

/-- What the command is asked: the project's file, where the module goes, and in which dialect,
if that is not left to the project, and whether the module is only printed. -/
structure Request where
  project : String
  out : Option String
  dialect : Option Dialect
  dryRun : Bool
  deriving Repr, DecidableEq

/-- The names that the command knows. -/
def generateNames : Names where
  long :=
    [("out", .out), ("typescript", .flag .typescript), ("javascript", .flag .javascript),
     ("dry-run", .flag .dryRun), ("help", .flag .help)]
  short := [('o', .out), ('h', .flag .help)]

/-- The project's file where none is named. -/
def standardProject : String := "hookgen.toml"

/-- The request of what was read. Two dialects contradict each other. -/
def Request.ofTaken (t : Taken) : Except Refusal Request :=
  let typescript := t.flags.contains .typescript
  let javascript := t.flags.contains .javascript
  if typescript && javascript then .error .argumentConflict
  else
    .ok
      { project := t.position.getD standardProject
        out := t.out
        dialect :=
          if typescript then some .typescript else if javascript then some .javascript else none
        dryRun := t.flags.contains .dryRun }

/-- The request of arguments, with the names that are known. -/
def Request.ofArguments (names : Names) (arguments : List String) : Except Refusal Request := do
  let t ← Taken.nothing.readAll names arguments
  Request.ofTaken t

/-! ## Results -/

/-- What the command does in the end. -/
inductive Action
  | print (text : String)
  | write (path text : String)
  deriving Repr, DecidableEq

/-- The project in the dialect that is asked for. -/
def Request.adjust (r : Request) (p : Project) : Project :=
  match r.dialect with
  | some d => { p with dialect := d }
  | none => p

/-- Where the module of a project goes. -/
def Request.outputPath (r : Request) (p : Project) : String :=
  r.out.getD (p.outputPath (Project.baseOf r.project))

/-- What the command does for a request. -/
def Request.action (r : Request) (read : FileReader) : Except Error Action := do
  let project := r.adjust (← Project.load read r.project)
  let output ← project.generate read (Project.baseOf r.project)
  if r.dryRun then return .print (output.moduleText ++ "\n")
  else return .write (r.outputPath project) output.moduleText

/-- The paths of the files that a request needs besides the project's own. -/
def Request.abiPaths (r : Request) (read : FileReader) : List String :=
  match Project.load read r.project with
  | .ok p => p.entries.map fun e => e.abiPath (Project.baseOf r.project)
  | .error _ => []

/-- A module is written to a file, behind the folders that lead to it. -/
def writeModule (tree : Files.Tree) (path text : String) : Files.Tree.Attempt :=
  let folders : Files.Tree.Attempt := match Files.parent? path with
    | none => ⟨none, tree⟩
    | some above => tree.provideFolders above
  folders.followedBy fun tree => tree.step fun tree => tree.write path text

/-- How a request ends: with what is printed, or with an error, and with the tree of files that is
left in either case. -/
structure Outcome where
  result : Except Error String
  tree : Files.Tree

/-- What becomes of a tree of files by an action. -/
def Action.perform (tree : Files.Tree) : Action → Outcome
  | .print text => ⟨.ok text, tree⟩
  | .write path text =>
    let written := writeModule tree path text
    match written.fault? with
    | none => ⟨.ok "", written.tree⟩
    | some fault => ⟨.error (.file fault), written.tree⟩

/-- What becomes of a tree of files by a request. -/
def Request.outcome (r : Request) (tree : Files.Tree) : Outcome :=
  match r.action tree.read with
  | .error e => ⟨.error e, tree⟩
  | .ok action => action.perform tree

end ContractHooks.Command
