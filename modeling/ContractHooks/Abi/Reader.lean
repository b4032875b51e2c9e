-- Reading an interface from JSON: a list of entries, or a compiler's artifact that has such a
-- list as its `abi`. Entries of a type that is not known are skipped. Of an entry the name is
-- read first, then the inputs, the outputs and the mutability, and the first thing that is
-- wrong is told. A value of the wrong type counts as missing.
import ContractHooks.Abi.Signature
import ContractHooks.Error
import ContractHooks.Json.Reader

namespace ContractHooks.Abi

/-! ## Parameters -/

/-- A parameter. Only one that is read directly from the inputs of an event can be indexed. -/
def Parameter.ofJson (ofEvent : Bool) (j : Json) : Except AbiFault Parameter :=
  match j.textAt? "type" with
  | none => .error .untypedParameter
  | some type =>
    let build (components : Option (List Parameter)) : Parameter :=
      { name := (j.textAt? "name").getD ""
        type
        internalType := j.textAt? "internalType"
        components
        indexed := ofEvent && j.flagAt "indexed" }
    if isTuple type then
      match _h : j.listAt? "components" with
      | none => .ok (build none)
      | some js =>
        match js.attach.mapM fun ⟨c, _⟩ => Parameter.ofJson false c with
        | .error e => .error e
        | .ok ps => .ok (build (some ps))
    else .ok (build none)
termination_by sizeOf j
decreasing_by exact Json.sizeOf_lt_of_listAt? _h (by assumption)

/-- A parameter is read by reading its type, its components, if it is a tuple that has any, and
the rest of it. -/
theorem Parameter.ofJson_eq (ofEvent : Bool) (j : Json) :
    Parameter.ofJson ofEvent j =
      match j.textAt? "type" with
      | none => .error .untypedParameter
      | some type =>
        let build (components : Option (List Parameter)) : Parameter :=
          { name := (j.textAt? "name").getD ""
            type
            internalType := j.textAt? "internalType"
            components
            indexed := ofEvent && j.flagAt "indexed" }
        if isTuple type then
          match j.listAt? "components" with
          | none => .ok (build none)
          | some js =>
            match js.mapM (Parameter.ofJson false) with
            | .error e => .error e
            | .ok ps => .ok (build (some ps))
        else .ok (build none) := by
  rw [Parameter.ofJson]
  cases htype : j.textAt? "type" with
  | none => rfl
  | some type =>
    dsimp only
    split
    · split
      · next hc => rw [hc]
      · next js hc =>
        rw [hc]
        have hm : (js.attach.mapM fun (c : { c // c ∈ js }) => Parameter.ofJson false c.1) =
            js.mapM (Parameter.ofJson false) := by
          rw [List.mapM_subtype (g := Parameter.ofJson false) (fun _ _ => rfl)]
          simp
        rw [hm]
    · rfl

/-- The parameters under a key, none if there is no list. -/
def parametersAt (j : Json) (key : String) (ofEvent : Bool) : Except AbiFault (List Parameter) :=
  match j.listAt? key with
  | none => .ok []
  | some js => js.mapM (Parameter.ofJson ofEvent)

/-! ## Entries -/

/-- The mutability of a function. Where it has none, two older flags tell it. -/
def mutabilityOf (j : Json) : Except AbiFault Mutability :=
  match j.textAt? "stateMutability" with
  | some word =>
    match Mutability.ofWord? word with
    | some m => .ok m
    | none => .error (.unknownMutability word)
  | none =>
    if j.flagAt "constant" then .ok .view
    else if j.flagAt "payable" then .ok .payable
    else .ok .nonpayable

/-- A function with a given name. -/
def functionNamed (name : String) (j : Json) : Except AbiFault Function := do
  let inputs ← parametersAt j "inputs" false
  let outputs ← parametersAt j "outputs" false
  let mutability ← mutabilityOf j
  return { name, inputs, outputs, mutability }

/-- A function, which has to have a name. -/
def Function.ofJson (j : Json) : Except AbiFault Function :=
  match j.textAt? "name" with
  | none => .error .unnamedFunction
  | some name => functionNamed name j

/-- A function that has a role. Without a name it is called by the role. -/
def Role.functionOfJson (role : Role) (j : Json) : Except AbiFault Function :=
  functionNamed ((j.textAt? "name").getD role.word) j

/-- An event. -/
def Event.ofJson (j : Json) : Except AbiFault Event :=
  match j.textAt? "name" with
  | none => .error .unnamedEvent
  | some name => do
    let inputs ← parametersAt j "inputs" true
    return { name, inputs, anonymous := j.flagAt "anonymous" }

/-- An error. -/
def ErrorCase.ofJson (j : Json) : Except AbiFault ErrorCase :=
  match j.textAt? "name" with
  | none => .error .unnamedError
  | some name => do
    let inputs ← parametersAt j "inputs" false
    return { name, inputs }

/-- What an entry is. -/
inductive EntryType
  | function
  | event
  | error
  | special (role : Role)
  | unknown
  deriving DecidableEq

/-- What an entry is by the word for its type: a function, if it has none. -/
def EntryType.ofWord : Option String → EntryType
  | none => .function
  | some s =>
    if s = "function" then .function
    else if s = "event" then .event
    else if s = "error" then .error
    else if s = "constructor" then .special .constructor
    else if s = "fallback" then .special .fallback
    else if s = "receive" then .special .receive
    else .unknown

/-- An entry, nothing if its type is not known. -/
def Item.ofJson? (j : Json) : Except AbiFault (Option Item) :=
  match EntryType.ofWord (j.textAt? "type") with
  | .function => do return some (.function (← Function.ofJson j))
  | .event => do return some (.event (← Event.ofJson j))
  | .error => do return some (.error (← ErrorCase.ofJson j))
  | .special role => do return some (.special role (← role.functionOfJson j))
  | .unknown => .ok none

/-! ## Interfaces -/

/-- The entries of a list, in order. -/
def itemsOfJson : List Json → Except AbiFault (List Item)
  | [] => .ok []
  | j :: js => do
    let item ← Item.ofJson? j
    let items ← itemsOfJson js
    return item.toList ++ items

/-- The list of entries of an interface: the value itself or what it has as its `abi`. -/
def entries? (j : Json) : Option (List Json) := j.list?.or (j.listAt? "abi")

/-- The interface that a value describes. -/
def ofJson (j : Json) : Except AbiFault (List Item) :=
  match entries? j with
  | none => .error .notList
  | some js => itemsOfJson js

/-- The interface that a text describes. -/
def ofText (text : String) : Except Error (List Item) :=
  match Json.ofText text with
  | .error failure => .error (.json failure)
  | .ok j =>
    match ofJson j with
    | .error fault => .error (.abi fault)
    | .ok items => .ok items

end ContractHooks.Abi
