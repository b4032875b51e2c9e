-- Blank characters, the ones that leave nothing to see: the property `White_Space`. The zero
-- width space is not among them.
import ContractHooks.Text.LetterCase

namespace ContractHooks.Text

/-- The characters that have the property `White_Space`. -/
def blankRanges : List (Nat × Nat) :=
  [(0x9, 0xD), (0x20, 0x20), (0x85, 0x85), (0xA0, 0xA0), (0x1680, 0x1680), (0x2000, 0x200A),
   (0x2028, 0x2029), (0x202F, 0x202F), (0x205F, 0x205F), (0x3000, 0x3000)]

/-- Whether the character is blank. -/
def isBlank (c : Char) : Bool := inRanges blankRanges c

/-- Whether nothing is left of the text when blanks are taken away. -/
def isAllBlank (s : String) : Bool := s.toList.all isBlank

end ContractHooks.Text
