-- A run over contracts: each is resolved to its target, and each of its planned hooks claims
-- its name and is written. The first failure ends the run.
import ContractHooks.Module.Output
import ContractHooks.Module.Plan
import ContractHooks.Hook.Registry

namespace ContractHooks

variable {α : Type}

/-- Claims the names of hooks for a contract and emits them. -/
def claimHooks (emit : Hook → String → Target → α) (contract : String) (target : Target) :
    List Hook → Hook.Registry → Except Error (List α × Hook.Registry)
  | [], registry => .ok ([], registry)
  | hook :: hooks, registry => do
    let name := hook.kind.hookName contract
    let registry ← registry.claim name contract
    let (emitted, registry) ← claimHooks emit contract target hooks registry
    return (emit hook name target :: emitted, registry)

/-- What is emitted for contracts in order, given the names that are taken. -/
def emittedFrom (emit : Hook → String → Target → α) (toggles : Hook.Toggles) :
    List Contract → Hook.Registry → Except Error (List α)
  | [], _ => .ok []
  | contract :: contracts, registry => do
    let target ← contract.target
    let (own, registry) ← claimHooks emit contract.name target (plan toggles contract.abi) registry
    let rest ← emittedFrom emit toggles contracts registry
    return own ++ rest

/-- The hooks of a run as they are written in a dialect. -/
def writtenHooks (toggles : Hook.Toggles) (dialect : Dialect) (contracts : List Contract) :
    Except Error (List Hook.Written) :=
  emittedFrom (Hook.emit dialect) toggles contracts Hook.Registry.empty

/-- The module of a run over contracts. -/
def generate (toggles : Hook.Toggles) (dialect : Dialect) (contracts : List Contract) :
    Except Error Output := do
  let hooks ← writtenHooks toggles dialect contracts
  return Output.ofHooks dialect hooks

end ContractHooks
