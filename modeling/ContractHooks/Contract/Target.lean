-- How generated hooks find a contract. The constants that are named have to agree with the
-- address: a name without an address, and an address without a name, are refused.
import ContractHooks.Contract.Basic
import ContractHooks.Error

namespace ContractHooks

/-- How a hook finds the interface and the address of its contract. -/
inductive Target
  | abi (abiName : String)
  | address (abiName addressName : String)
  | deployments (configName : String)
  deriving Repr, DecidableEq

/-- Whether the target knows an address. -/
def Target.hasAddress : Target → Bool
  | .abi _ => false
  | .address _ _ | .deployments _ => true

/-- The target of a contract. -/
def Contract.target (c : Contract) : Except Error Target :=
  match c.address, c.constants.address with
  | some _, none => .error (.metadata c.name .addressWithoutName)
  | none, some _ => .error (.metadata c.name .nameWithoutAddress)
  | none, none => .ok (.abi c.constants.abi)
  | some (.single _), some addressName => .ok (.address c.constants.abi addressName)
  | some (.deployments _), some _ =>
    match c.constants.config with
    | some configName => .ok (.deployments configName)
    | none => .error (.metadata c.name .deploymentsWithoutConfig)

end ContractHooks
