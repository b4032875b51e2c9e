-- Hexadecimal digits. Writing uses lower case, and reading takes both cases.
namespace ContractHooks.Text

/-- The hexadecimal digit of a number below sixteen. -/
def hexChar (n : Nat) : Char :=
  Char.ofNat (if n < 10 then 0x30 + n else 0x61 + (n - 10))

/-- The value of a hexadecimal digit of either case. -/
def hexValue? (c : Char) : Option Nat :=
  if '0' ≤ c ∧ c ≤ '9' then some (c.toNat - 0x30)
  else if 'a' ≤ c ∧ c ≤ 'f' then some (c.toNat - 0x61 + 10)
  else if 'A' ≤ c ∧ c ≤ 'F' then some (c.toNat - 0x41 + 10)
  else none

/-- Whether the character is a hexadecimal digit. -/
def isHexDigit (c : Char) : Bool := (hexValue? c).isSome

/-- The two digits of a byte. -/
def hexOfByte (b : UInt8) : List Char := [hexChar (b.toNat / 16), hexChar (b.toNat % 16)]

/-- The digits of a sequence of bytes. -/
def hexOfBytes (bs : List UInt8) : String := String.ofList (bs.flatMap hexOfByte)

/-- The bytes that pairs of digits write, if the text is nothing but such pairs. -/
def bytesOfHex? : List Char → Option (List UInt8)
  | [] => some []
  | [_] => none
  | a :: b :: rest => do
    let high ← hexValue? a
    let low ← hexValue? b
    let bs ← bytesOfHex? rest
    some (UInt8.ofNat (16 * high + low) :: bs)

end ContractHooks.Text
