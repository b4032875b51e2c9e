-- Which hooks a contract gets, in order: the one of the contract, the general ones for the
-- kinds of functions and events that it has, and then those of each group, where a group of
-- functions that write has two. Kinds that are not wanted are left out.
import ContractHooks.Hook.Fragment

namespace ContractHooks

/-- The hooks of a group. -/
def Hook.ofGroup : Abi.Group → List Hook
  | .read o => [.read (some o)]
  | .write o => [.prepareWrite (some o), .write (some o)]
  | .event o => [.event (some o)]

/-- The general hooks for functions that read, for functions that write, and for events, each
only where there are some. -/
def Hook.general (groups : List Abi.Group) : List Hook :=
  let has (c : Abi.GroupClass) : Bool := groups.any fun g => g.groupClass == c
  [.contract]
    ++ (if has .read then [.read none] else [])
    ++ (if has .write then [.prepareWrite none, .write none] else [])
    ++ (if has .event then [.event none] else [])

/-- Every hook that an interface gives rise to. -/
def Hook.all (abi : List Abi.Item) : List Hook :=
  let groups := Abi.groups abi
  Hook.general groups ++ groups.flatMap Hook.ofGroup

/-- The hooks that are wanted for an interface. -/
def plan (toggles : Hook.Toggles) (abi : List Abi.Item) : List Hook :=
  (Hook.all abi).filter fun h => toggles.enables h.kind

end ContractHooks
