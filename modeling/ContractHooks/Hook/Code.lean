-- Code of a hook in pieces, with the pieces marked that only annotate types. A dialect without
-- annotations writes the other pieces.
namespace ContractHooks.Hook

/-- A piece of code. -/
inductive Piece
  | plain (text : String)
  | typed (text : String)
  deriving Repr, DecidableEq

/-- The text of a piece, nothing for an annotation where there are none. -/
def Piece.text (annotated : Bool) : Piece → String
  | .plain s => s
  | .typed s => if annotated then s else ""

/-- Pieces of code in order. -/
abbrev Code := List Piece

namespace Code

/-- The text of code. -/
def text (annotated : Bool) : Code → String
  | [] => ""
  | p :: ps => p.text annotated ++ text annotated ps

theorem text_append (annotated : Bool) (a b : Code) :
    text annotated (a ++ b) = text annotated a ++ text annotated b := by
  induction a with
  | nil => simp [text]
  | cons p ps ih => simp [text, ih, String.append_assoc]

end Code

end ContractHooks.Hook
