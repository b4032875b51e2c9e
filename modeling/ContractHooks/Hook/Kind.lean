-- The kinds of hooks and the names they get. A name is made of the contract's name and, for a
-- hook of one function or event, of that one's name, both with capitals.
import ContractHooks.Text.Words

namespace ContractHooks.Hook

/-- What a hook is for: the whole contract, its functions or events in general, or the ones of
one name. -/
inductive Kind
  | contract
  | contractRead
  | contractWrite
  | prepareContractWrite
  | contractEvent
  | functionRead (name : String)
  | functionWrite (name : String)
  | prepareFunctionWrite (name : String)
  | itemEvent (name : String)
  deriving Repr, DecidableEq

/-- The name of the hook of a kind for a contract. -/
def Kind.hookName (contract : String) (kind : Kind) : String :=
  let owner := Text.pascal contract
  match kind with
  | .contract => "use" ++ owner
  | .contractRead => "use" ++ owner ++ "Read"
  | .contractWrite => "use" ++ owner ++ "Write"
  | .prepareContractWrite => "usePrepare" ++ owner ++ "Write"
  | .contractEvent => "use" ++ owner ++ "Event"
  | .functionRead name | .functionWrite name => "use" ++ owner ++ Text.pascal name
  | .prepareFunctionWrite name => "usePrepare" ++ owner ++ Text.pascal name
  | .itemEvent name => "use" ++ owner ++ "On" ++ Text.pascal name

/-- Which kinds of hooks are wanted: all of them, unless said otherwise. -/
structure Toggles where
  contract : Bool := true
  contractRead : Bool := true
  functionRead : Bool := true
  contractWrite : Bool := true
  functionWrite : Bool := true
  prepareContractWrite : Bool := true
  prepareFunctionWrite : Bool := true
  contractEvent : Bool := true
  itemEvent : Bool := true
  deriving Repr, DecidableEq

/-- Whether hooks of a kind are wanted. -/
def Toggles.enables (t : Toggles) : Kind → Bool
  | .contract => t.contract
  | .contractRead => t.contractRead
  | .contractWrite => t.contractWrite
  | .prepareContractWrite => t.prepareContractWrite
  | .contractEvent => t.contractEvent
  | .functionRead _ => t.functionRead
  | .functionWrite _ => t.functionWrite
  | .prepareFunctionWrite _ => t.prepareFunctionWrite
  | .itemEvent _ => t.itemEvent

end ContractHooks.Hook
