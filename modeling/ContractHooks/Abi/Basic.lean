-- The interface of a contract: its functions, events and errors in the order they were
-- declared, each with its parameters.
namespace ContractHooks.Abi

/-- How a function touches the state of its contract. -/
inductive Mutability
  | pure
  | view
  | nonpayable
  | payable
  deriving Repr, DecidableEq

namespace Mutability

/-- Whether the function only reads. -/
def isRead : Mutability → Bool
  | .pure | .view => true
  | .nonpayable | .payable => false

/-- The word for a mutability. -/
def word : Mutability → String
  | .pure => "pure"
  | .view => "view"
  | .nonpayable => "nonpayable"
  | .payable => "payable"

/-- The mutability of a word. -/
def ofWord? (s : String) : Option Mutability :=
  if s = "pure" then some .pure
  else if s = "view" then some .view
  else if s = "nonpayable" then some .nonpayable
  else if s = "payable" then some .payable
  else none

theorem ofWord?_word (m : Mutability) : ofWord? m.word = some m := by cases m <;> decide

end Mutability

/-- A parameter. A tuple has components, and a parameter of an event may be indexed. -/
structure Parameter where
  name : String
  type : String
  internalType : Option String
  components : Option (List Parameter)
  indexed : Bool
  deriving Repr

/-- A function. -/
structure Function where
  name : String
  inputs : List Parameter
  outputs : List Parameter
  mutability : Mutability
  deriving Repr

/-- An event. -/
structure Event where
  name : String
  inputs : List Parameter
  anonymous : Bool
  deriving Repr

/-- An error that a function may raise. -/
structure ErrorCase where
  name : String
  inputs : List Parameter
  deriving Repr

/-- What a function is for that callers do not choose by its name. -/
inductive Role
  | constructor
  | fallback
  | receive
  deriving Repr, DecidableEq

/-- The word for a role. -/
def Role.word : Role → String
  | .constructor => "constructor"
  | .fallback => "fallback"
  | .receive => "receive"

/-- An entry of an interface. -/
inductive Item
  | function (f : Function)
  | event (e : Event)
  | error (e : ErrorCase)
  | special (role : Role) (f : Function)
  deriving Repr

end ContractHooks.Abi
