-- Loading a project and the interfaces of its contracts. Files are read by a function from
-- paths, so that the same rules hold for a tree of files and for an operating system.
import ContractHooks.Abi.Reader
import ContractHooks.Module.Generate
import ContractHooks.Project.Reader
import ContractHooks.Toml.Reader

namespace ContractHooks

/-- A way to read the text of the file at a path. -/
abbrev FileReader := String → Except FileFault String

/-- The interface that a file describes. -/
def Abi.load (read : FileReader) (path : String) : Except Error (List Abi.Item) :=
  match read path with
  | .error fault => .error (.file fault)
  | .ok text => Abi.ofText text

namespace Project

/-- The project that a text describes, by the extension of its file. -/
def ofText (path text : String) : Except Error Project :=
  match Files.extension? path with
  | some "toml" =>
    match Toml.ofText? text with
    | none => .error (.projectToml path)
    | some j =>
      match shape.ofTree true j with
      | .error _ => .error (.projectToml path)
      | .ok p => .ok p
  | some "json" =>
    match shape.read text with
    | .error failure => .error (.projectJson path failure)
    | .ok p => .ok p
  | _ => .error .projectFormat

/-- The valid project that a file describes. -/
def load (read : FileReader) (path : String) : Except Error Project :=
  match read path with
  | .error fault => .error (.projectFile path fault)
  | .ok text => do
    let p ← ofText path text
    p.validate
    return p

end Project

/-- The path of an entry's interface, seen from where the project's base folder is. -/
def Entry.abiPath (e : Entry) (base : String) : String := Files.join base e.abi

/-- The contract of an entry with the interface that its file describes. -/
def Entry.load (read : FileReader) (base : String) (e : Entry) : Except Error Contract :=
  match Abi.load read (e.abiPath base) with
  | .error cause => .error (.contractAbi e.name (e.abiPath base) cause)
  | .ok abi => .ok (e.contract abi)

namespace Project

/-- The contracts of a project, in order. -/
def contracts (read : FileReader) (base : String) (p : Project) : Except Error (List Contract) :=
  p.entries.mapM (Entry.load read base)

/-- The module of a project. -/
def generate (read : FileReader) (base : String) (p : Project) : Except Error Output := do
  let contracts ← p.contracts read base
  ContractHooks.generate p.toggles p.dialect contracts

/-- The base folder of a project: the one that its file is in. -/
def baseOf (path : String) : String := (Files.parent? path).getD "."

end Project

end ContractHooks
