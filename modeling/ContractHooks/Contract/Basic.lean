-- A contract to bind: its name, its interface, where it is deployed, and the names of the
-- constants that generated code refers to it by.
import ContractHooks.Abi.Basic
import ContractHooks.Ordered
import ContractHooks.Text.Words

namespace ContractHooks

/-- The addresses of a contract by chain id, in ascending order of the ids. -/
structure Deployments where
  entries : List (UInt64 × String)
  ascending : Ordered.Ascending entries

namespace Deployments

/-- The deployments of pairs in any order; of two for one chain the later one stands. -/
def ofList (pairs : List (UInt64 × String)) : Deployments where
  entries := Ordered.ofList pairs
  ascending := Ordered.ascending_ofList UInt64.lt_trans
    (fun _ _ hlt hne => UInt64.lt_of_le_of_ne (UInt64.not_lt.1 hlt) (Ne.symm hne)) pairs

theorem eq_of_entries : ∀ {a b : Deployments}, a.entries = b.entries → a = b
  | ⟨_, _⟩, ⟨_, _⟩, rfl => rfl

instance : DecidableEq Deployments := fun a b =>
  decidable_of_iff (a.entries = b.entries) ⟨eq_of_entries, fun h => h ▸ rfl⟩

instance : Repr Deployments := ⟨fun d n => reprPrec d.entries n⟩

end Deployments

/-- Where a contract is deployed: at one address on every chain, or at one for each chain. -/
inductive Address
  | single (address : String)
  | deployments (byChain : Deployments)
  deriving Repr, DecidableEq

/-- The names of the constants that stand for a contract in generated code: its interface, its
address, and an object that holds both. -/
structure ConstantNames where
  abi : String
  address : Option String
  config : Option String
  deriving Repr, DecidableEq

/-- The names that a contract has where no others are chosen, made from its own name. -/
def ConstantNames.standard (contract : String) (hasAddress : Bool) : ConstantNames where
  abi := Text.camel contract ++ "Abi"
  address := if hasAddress then some (Text.camel contract ++ "Address") else none
  config := some (Text.camel contract ++ "Config")

/-- A contract. -/
structure Contract where
  name : String
  abi : List Abi.Item
  address : Option Address
  constants : ConstantNames
  deriving Repr

end ContractHooks
