-- A generated module: its imports, its hooks behind them, and the names of the hooks.
import ContractHooks.Hook.Fragment

namespace ContractHooks

/-- What a run gives. -/
structure Output where
  imports : String
  content : String
  hooks : List String
  deriving Repr, DecidableEq

namespace Output

/-- The text of the module. -/
def moduleText (o : Output) : String :=
  if o.imports.isEmpty then o.content ++ "\n" else o.imports ++ "\n\n" ++ o.content ++ "\n"

/-- The imports of hooks, given the symbols that each of them needs. -/
def importsOf (dialect : Dialect) (needs : List (List Symbol)) : Imports :=
  (needs.foldl Imports.Gathering.requestAll (Imports.Gathering.start dialect.annotated)).imports

/-- The module of hooks, with a blank line between two of them. -/
def ofHooks (dialect : Dialect) (hooks : List Hook.Written) : Output where
  imports := (importsOf dialect (hooks.map Hook.Written.symbols)).text
  content := String.intercalate "\n\n" (hooks.map Hook.Written.text)
  hooks := hooks.map Hook.Written.name

end Output

end ContractHooks
