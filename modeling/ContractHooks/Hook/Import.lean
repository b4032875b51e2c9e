-- The symbols that generated code takes from other modules. A symbol is kept at its first
-- request and written once; one that only annotations mention is dropped where there are none.
-- While requests come in, the sections of the imports are kept beside all that has been seen.
namespace ContractHooks

/-- A symbol and the library that exports it. -/
structure Symbol where
  library : String
  name : String
  typeOnly : Bool
  deriving Repr, DecidableEq

namespace Symbol

/-- The library and the name of a symbol. -/
def pair (s : Symbol) : String × String := (s.library, s.name)

/-- The library of the hooks that generated ones wrap. -/
def hookLibrary : String := "wagmi"

/-- The library of the types of results. -/
def actionLibrary : String := "wagmi/actions"

/-- A function that is called. -/
def hook (name : String) : Symbol := ⟨hookLibrary, name, false⟩

/-- The type of what a function is called with. -/
def config (name : String) : Symbol := ⟨hookLibrary, name, true⟩

/-- The type of a result or of a mode. -/
def action (name : String) : Symbol := ⟨actionLibrary, name, true⟩

def useContract := hook "useContract"
def useContractConfig := config "UseContractConfig"
def useContractRead := hook "useContractRead"
def useContractReadConfig := config "UseContractReadConfig"
def useContractWrite := hook "useContractWrite"
def useContractWriteConfig := config "UseContractWriteConfig"
def usePrepareContractWrite := hook "usePrepareContractWrite"
def usePrepareContractWriteConfig := config "UsePrepareContractWriteConfig"
def useContractEvent := hook "useContractEvent"
def useContractEventConfig := config "UseContractEventConfig"
def useNetwork := hook "useNetwork"
def readContractResult := action "ReadContractResult"
def writeContractMode := action "WriteContractMode"
def prepareWriteContractResult := action "PrepareWriteContractResult"

/-- Every symbol that generated code may need. -/
def all : List Symbol :=
  [useContract, useContractConfig, useContractRead, useContractReadConfig, useContractWrite,
   useContractWriteConfig, usePrepareContractWrite, usePrepareContractWriteConfig,
   useContractEvent, useContractEventConfig, useNetwork, readContractResult, writeContractMode,
   prepareWriteContractResult]

end Symbol

/-- The imports of a module: the libraries, each with the names taken from it, in the order of
first request. -/
structure Imports where
  sections : List (String × List String)
  deriving Repr, DecidableEq

namespace Imports

/-- The line that imports names of a library. -/
def line (library : String) (names : List String) : String :=
  "import \x7b " ++ String.intercalate ", " names ++ " \x7d from '" ++ library ++ "'"

/-- The text of the imports, a line for each library. -/
def text (i : Imports) : String :=
  String.intercalate "\n" (i.sections.map fun s => line s.1 s.2)

/-! ## Requests -/

/-- Sections with one more name, which stands behind the others of its library or in a section of
its own behind the others. -/
def insertName (library name : String) :
    List (String × List String) → List (String × List String)
  | [] => [(library, [name])]
  | (l, names) :: rest =>
    if l = library then (l, names ++ [name]) :: rest
    else (l, names) :: insertName library name rest

/-- The imports of a module while symbols are requested for it, and each library and name that they
have. Without annotations the symbols that only these mention are not kept. -/
structure Gathering where
  annotated : Bool
  imports : Imports
  seen : List (String × String)
  deriving Repr, DecidableEq

namespace Gathering

/-- What has been gathered before the first request. -/
def start (annotated : Bool) : Gathering := ⟨annotated, ⟨[]⟩, []⟩

/-- The gathering after a request for a symbol. -/
def request (g : Gathering) (s : Symbol) : Gathering :=
  if s.typeOnly && !g.annotated then g
  else if g.seen.contains s.pair then g
  else
    { g with
      imports := ⟨insertName s.library s.name g.imports.sections⟩
      seen := g.seen ++ [s.pair] }

/-- The gathering after requests in order. -/
def requestAll (g : Gathering) (symbols : List Symbol) : Gathering := symbols.foldl request g

/-- How many symbols will be imported. -/
def count (g : Gathering) : Nat := g.seen.length

end Gathering

end Imports

end ContractHooks
