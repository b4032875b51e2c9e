-- The arguments of a command: flags, options with a value, and positions. A value may be
-- attached to its option or follow it. Nothing may be given twice, and two dashes end the
-- options.
namespace ContractHooks.Command

/-! ## What a command takes -/

/-- What a flag asks for. -/
inductive Flag
  | help
  | version
  | verbose
  | typescript
  | javascript
  | dryRun
  deriving Repr, DecidableEq

/-- A name that stands behind dashes. -/
inductive Name
  | flag (f : Flag)
  | out
  deriving Repr, DecidableEq

/-- The names that a command knows, long ones behind two dashes and short ones behind one. -/
structure Names where
  long : List (String × Name)
  short : List (Char × Name)

/-- Why arguments are refused, or what is shown in place of a run. -/
inductive Refusal
  | unknownArgument
  | argumentConflict
  | invalidValue
  | tooManyValues
  | helpWanted
  | versionWanted
  deriving Repr, DecidableEq

/-! ## Reading arguments -/

/-- What has been read: the flags, the value of `out`, an `out` that is still open with the
value it has been given so far, the position, and whether two dashes have been seen. An open
option is settled when something else that is known comes, or at the end. -/
structure Taken where
  flags : List Flag
  out : Option String
  openOut : Option (Option String)
  position : Option String
  noMoreNames : Bool
  deriving Repr, DecidableEq

namespace Taken

/-- Nothing has been read. -/
def nothing : Taken := ⟨[], none, none, none, false⟩

/-- The value of `out` is given. -/
def setOut (t : Taken) (value : String) : Except Refusal Taken :=
  if t.out.isSome then .error .argumentConflict
  else .ok { t with out := some value, openOut := none }

/-- Settles an option that is still open: it has to have a value by now. -/
def settle (t : Taken) : Except Refusal Taken :=
  match t.openOut with
  | none => .ok t
  | some none => .error .invalidValue
  | some (some value) => t.setOut value

/-- A flag is given. -/
def setFlag (t : Taken) (f : Flag) : Except Refusal Taken := do
  let t ← t.settle
  match f with
  | .help => .error .helpWanted
  | .version => .error .versionWanted
  | f =>
    if t.flags.contains f then .error .argumentConflict
    else .ok { t with flags := f :: t.flags }

/-- The option `out` is named, with its value if that is attached. -/
def nameOut (t : Taken) (value : Option String) : Except Refusal Taken := do
  let t ← t.settle
  match value with
  | some value => t.setOut value
  | none => .ok { t with openOut := some none }

/-- A position is given. There is only one. -/
def setPosition (t : Taken) (value : String) : Except Refusal Taken :=
  match t.position with
  | some _ => .error .unknownArgument
  | none => do
    let t ← t.settle
    .ok { t with position := some value }

/-- An argument that is no name: the value of an option that waits for one, or a position. -/
def addPlain (t : Taken) (argument : String) : Except Refusal Taken :=
  if t.openOut = some none ∧ t.noMoreNames = false then
    .ok { t with openOut := some (some argument) }
  else t.setPosition argument

/-- Short names behind one dash. The characters behind an option are its value. -/
def addShort (names : Names) : List Char → Taken → Except Refusal Taken
  | [], t => .ok t
  | c :: rest, t =>
    match names.short.lookup c with
    | none => .error .unknownArgument
    | some (.flag f) => do
      let t ← t.setFlag f
      addShort names rest t
    | some .out =>
      match rest with
      | [] => t.nameOut none
      | '=' :: value => t.nameOut (some (String.ofList value))
      | value => t.nameOut (some (String.ofList value))

/-- A long name behind two dashes, perhaps with a value behind an equals sign. -/
def addLong (names : Names) (cs : List Char) (t : Taken) : Except Refusal Taken :=
  let name := cs.takeWhile (· ≠ '=')
  let value := match cs.drop name.length with
    | '=' :: value => some (String.ofList value)
    | _ => none
  match names.long.lookup (String.ofList name) with
  | none => .error .unknownArgument
  | some .out => t.nameOut value
  | some (.flag f) =>
    match value with
    | some _ => .error .tooManyValues
    | none => t.setFlag f

/-- One more argument. -/
def next (names : Names) (t : Taken) (argument : String) : Except Refusal Taken :=
  if t.noMoreNames then t.addPlain argument
  else
    match argument.toList with
    | ['-', '-'] => .ok { t with noMoreNames := true }
    | '-' :: '-' :: cs => t.addLong names cs
    | ['-'] => t.addPlain argument
    | '-' :: cs => addShort names cs t
    | _ => t.addPlain argument

/-- All arguments. -/
def readAll (names : Names) : List String → Taken → Except Refusal Taken
  | [], t => t.settle
  | a :: rest, t => do
    let t ← t.next names a
    readAll names rest t

end Taken

end ContractHooks.Command
