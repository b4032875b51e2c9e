-- Projects and their parts as JSON. Everything but the names of contracts and the paths of
-- their interfaces may be left out.
import ContractHooks.Contract.Reader
import ContractHooks.Project.Basic

namespace ContractHooks

open Json.Shape

/-- The shape of toggles. -/
def Hook.Toggles.shape : Json.Shape Hook.Toggles :=
  record "ReactConfig"
    [field "use_contract" false flag fun b t => { t with contract := b },
     field "use_contract_read" false flag fun b t => { t with contractRead := b },
     field "use_contract_function_read" false flag fun b t => { t with functionRead := b },
     field "use_contract_write" false flag fun b t => { t with contractWrite := b },
     field "use_contract_function_write" false flag fun b t => { t with functionWrite := b },
     field "use_prepare_contract_write" false flag fun b t => { t with prepareContractWrite := b },
     field "use_prepare_contract_function_write" false flag
       fun b t => { t with prepareFunctionWrite := b },
     field "use_contract_event" false flag fun b t => { t with contractEvent := b },
     field "use_contract_item_event" false flag fun b t => { t with itemEvent := b }]
    {}

namespace Entry

/-- The shape of an entry. -/
def shape : Json.Shape Entry :=
  record "ContractSource"
    [field "name" true text fun s e => { e with name := s },
     field "abi" true path fun s e => { e with abi := s },
     field "address" false (optional Address.shape) fun a e => { e with address := a },
     field "abi_name" false (optional text) fun s e => { e with abiName := s },
     field "address_name" false (optional text) fun s e => { e with addressName := s },
     field "config_name" false (optional text) fun s e => { e with configName := s }]
    { name := "", abi := "", address := none, abiName := none, addressName := none,
      configName := none }

/-- The value that writes an entry. -/
def toJson (e : Entry) : Json :=
  let optionalText (s : Option String) : Json := (s.map Json.text).getD .null
  .object
    [("name", .text e.name),
     ("abi", .text e.abi),
     ("address", (e.address.map Address.toJson).getD .null),
     ("abi_name", optionalText e.abiName),
     ("address_name", optionalText e.addressName),
     ("config_name", optionalText e.configName)]

end Entry

/-- The shape of a project. -/
def Project.shape : Json.Shape Project :=
  record "ProjectConfig"
    [field "out" false (optional path) fun s p => { p with out := s },
     field "typescript" false flag fun b p => { p with dialect := Dialect.ofFlag b },
     field "react" false Hook.Toggles.shape fun t p => { p with toggles := t },
     field "contracts" false (listOf Entry.shape) fun es p => { p with entries := es }]
    { out := none, dialect := .typescript, toggles := {}, entries := [] }

end ContractHooks
