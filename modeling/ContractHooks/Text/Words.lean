-- Cutting a name into words and writing the words together again, each with a capital
-- (`pascal`) or with all but the first (`camel`). A name is cut at hyphens, underscores and
-- spaces, which go away, where a lower case letter meets an upper case one, where a letter
-- meets a digit on either side, and before the last capital of a run that a lower case letter
-- follows: `ERC721Token` is `ERC`, `721`, `Token` and `HTTPServer` is `HTTP`, `Server`.
import ContractHooks.Text.Cluster

namespace ContractHooks.Text

/-! ## Kinds of clusters -/

/-- What a cluster is to the cut. -/
inductive Kind
  | separator
  | upper
  | lower
  | digit
  | other
  deriving Repr, DecidableEq

/-- The kind of a cluster. A cluster is upper case when writing it in upper case changes
nothing while lower case would, and the other way round. -/
def Kind.of (g : List Char) : Kind :=
  if g = ['-'] ∨ g = ['_'] ∨ g = [' '] then .separator
  else if g.all fun c => decide ('0' ≤ c) && decide (c ≤ '9') then .digit
  else if Text.upper g = Text.lower g then .other
  else if g = Text.upper g then .upper
  else if g = Text.lower g then .lower
  else .other

/-- Whether a word starts at a cluster of kind `here`, after one of kind `prev` and before one
of kind `next`. -/
def startsWord (prev here : Kind) (next : Option Kind) : Bool :=
  match prev, here with
  | .lower, .upper => true
  | .upper, .digit => true
  | .lower, .digit => true
  | .digit, .upper => true
  | .digit, .lower => true
  | .upper, .upper => next == some .lower
  | _, _ => false

/-! ## The cut -/

/-- The words of a name whose open word is `current`, its clusters in order, and whose last
cluster before the rest is of kind `prev`. -/
def wordsFrom (current : List (List Char)) (prev : Kind) :
    List (List Char) → List (List (List Char))
  | [] => [current]
  | g :: gs =>
    let here := Kind.of g
    if here = .separator then current :: wordsFrom [] here gs
    else if startsWord prev here (gs.head?.map Kind.of) then current :: wordsFrom [g] here gs
    else wordsFrom (current ++ [g]) here gs

/-- The words of a name, each as its clusters. Empty words are dropped. -/
def words (name : String) : List (List (List Char)) :=
  (wordsFrom [] .separator (clusters name.toList)).filter (· ≠ [])

/-! ## The two spellings -/

/-- A word with its first cluster in upper case and the rest in lower case. -/
def capitalized : List (List Char) → List Char
  | [] => []
  | g :: gs => upper g ++ lower gs.flatten

/-- The words of a name together, each with a capital. -/
def pascal (name : String) : String :=
  String.ofList ((words name).flatMap capitalized)

/-- The words of a name together, the first in lower case and the others with a capital. -/
def camel (name : String) : String :=
  match words name with
  | [] => ""
  | w :: ws => String.ofList (lower w.flatten ++ ws.flatMap capitalized)

end ContractHooks.Text
