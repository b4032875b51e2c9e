-- A text between quotes, for a reader of messages: quotes, backslashes and every character
-- that would not show are written as escapes.
import ContractHooks.Text.HiddenTable
import ContractHooks.Text.LetterCase

namespace ContractHooks.Text

/-- Whether the character does not show when it stands alone. -/
def isHidden (c : Char) : Bool :=
  decide (c.toNat < 0x20) || c.toNat == 0x7F || inRanges hiddenRanges c

/-- The code point of a character in braces, in hexadecimal. -/
def bracedCode (c : Char) : List Char :=
  ['\\', 'u', '\x7b'] ++ Nat.toDigits 16 c.toNat ++ ['\x7d']

/-- A character as it stands between the quotes of a message. -/
def showChar (c : Char) : List Char :=
  if c = '"' then ['\\', '"']
  else if c = '\\' then ['\\', '\\']
  else if c = '\n' then ['\\', 'n']
  else if c = '\r' then ['\\', 'r']
  else if c = '\t' then ['\\', 't']
  else if c = Char.ofNat 0 then ['\\', '0']
  else if isHidden c then bracedCode c
  else [c]

/-- A text between quotes. -/
def quoted (s : String) : String := String.ofList ('"' :: s.toList.flatMap showChar ++ ['"'])

end ContractHooks.Text
