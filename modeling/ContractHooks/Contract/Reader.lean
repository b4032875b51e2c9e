-- Addresses and constant names as JSON. An address is a text, or an object whose keys are
-- chain ids: a plus sign may stand before the digits, and the number has to fit in sixty-four
-- bits. Of several spellings of one number the greatest key counts.
import ContractHooks.Contract.Basic
import ContractHooks.Json.Shape

namespace ContractHooks

/-! ## Chain ids -/

/-- The number that decimal digits write, at least one of them. -/
def numberOfDigits? (cs : List Char) : Option Nat :=
  if cs ≠ [] ∧ cs.all Json.isDigit then
    some (cs.foldl (fun n c => 10 * n + (c.toNat - '0'.toNat)) 0)
  else none

/-- The digits of a key behind its plus sign, if it has one. -/
def unsignedDigits : List Char → List Char
  | '+' :: cs => cs
  | cs => cs

/-- The chain id that a key writes. -/
def chainIdOfKey? (key : String) : Option UInt64 :=
  match numberOfDigits? (unsignedDigits key.toList) with
  | some n => if n < UInt64.size then some (UInt64.ofNat n) else none
  | none => none

/-! ## Addresses -/

namespace Address

/-- The addresses by key, if all members are texts. -/
def textMembers? : List (String × Json) → Option (List (String × String))
  | [] => some []
  | (key, .text s) :: rest => (textMembers? rest).map ((key, s) :: ·)
  | _ :: _ => none

/-- The addresses by chain id, or the first key that is none. -/
def chainIds : List (String × String) → Except String (List (UInt64 × String))
  | [] => .ok []
  | (key, address) :: rest =>
    match chainIdOfKey? key with
    | none => .error key
    | some id =>
      match chainIds rest with
      | .error key => .error key
      | .ok pairs => .ok ((id, address) :: pairs)

/-- The address that a value writes. -/
def ofJson (j : Json) : Except Json.Mismatch Address :=
  let neither : Json.Mismatch :=
    .refused "data did not match any variant of untagged enum RawContractAddress"
  match j with
  | .text s => .ok (.single s)
  | .object members =>
    match textMembers? members with
    | none => .error neither
    | some texts =>
      match chainIds (Ordered.ofList texts) with
      | .error key => .error (.refused ("invalid chain id '" ++ key ++ "'"))
      | .ok pairs => .ok (.deployments (Deployments.ofList pairs))
  | _ => .error neither

/-- The shape of an address. -/
def shape : Json.Shape Address := .derived ofJson

/-- The value that writes an address. -/
def toJson : Address → Json
  | .single s => .text s
  | .deployments d => .object (d.entries.map fun p => (toString p.1.toNat, .text p.2))

end Address

/-! ## Constant names -/

open Json.Shape in
/-- The shape of constant names. -/
def ConstantNames.shape : Json.Shape ConstantNames :=
  record "ContractMeta"
    [field "abiName" true text fun s c => { c with abi := s },
     field "addressName" false (optional text) fun s c => { c with address := s },
     field "configName" false (optional text) fun s c => { c with config := s }]
    { abi := "", address := none, config := none }

end ContractHooks
