-- Reading a TOML document into the JSON value of the same structure. A date or a time becomes
-- an object with one member of its own, which no field is named for.
import ContractHooks.Toml.Number
import ContractHooks.Toml.Table
import ContractHooks.Toml.Text

namespace ContractHooks.Toml

/-! ## Scalars -/

/-- Whether the character may stand in a value without quotes. -/
def isWordChar (c : Char) : Bool :=
  isBareKeyChar c || c == '+' || c == '.' || c == ':'

/-- The key under which the text of a date or a time stands. -/
def momentKey : String := "$__toml_private_datetime"

/-- The value of a date or a time. -/
def moment (cs : List Char) : Json := .object [(momentKey, .text (String.ofList cs))]

/-- A number or a truth value. -/
def word? (cs : List Char) : Option Json :=
  if cs = "true".toList then some (.bool true)
  else if cs = "false".toList then some (.bool false)
  else if isSpecial cs then some (.number (.fraction false 0 0))
  else
    match integer? cs with
    | some n => some (.number (.whole n))
    | none => (fraction? cs).map Json.number

/-- A value without quotes or brackets. Between a date and its time there may be a blank. -/
def bare (cs : List Char) : Taken Json :=
  let word := cs.takeWhile isWordChar
  let rest := cs.drop word.length
  if isMoment word then
    match rest with
    | ' ' :: behind =>
      let time := behind.takeWhile isWordChar
      if isDate word && !time.isEmpty then
        if isZonedTime time then
          some (moment (word ++ ' ' :: time), behind.drop time.length)
        else none
      else some (moment word, rest)
    | _ => some (moment word, rest)
  else (word? word).map (·, rest)

/-! ## Values -/

/-- The rest behind a comment, if one comes next. -/
def passComment : List Char → List Char
  | '#' :: cs => cs.dropWhile isCommentChar
  | cs => cs

/-- The rest behind blanks, line breaks and comments, each comment with its line break. -/
def passLines : Nat → List Char → Option (List Char)
  | 0, cs => some cs
  | fuel + 1, cs =>
    match passBlank cs with
    | '#' :: cs =>
      match passNewline (cs.dropWhile isCommentChar) with
      | some cs => passLines fuel cs
      | none => none
    | cs => some cs

/-- The items of an array behind its opening bracket, with a reader for each. -/
def arrayItems (limit : Nat) (item : List Char → Taken Json) :
    Nat → List Char → Option (List Json × List Char)
  | 0, _ => none
  | fuel + 1, cs => do
    let cs ← passLines limit cs
    match cs with
    | ']' :: cs => some ([], cs)
    | cs =>
      let (j, cs) ← item cs
      let cs ← passLines limit cs
      match cs with
      | ']' :: cs => some ([j], cs)
      | ',' :: cs =>
        let (js, cs) ← arrayItems limit item fuel cs
        some (j :: js, cs)
      | _ => none

/-- The members of an inline table behind its opening brace, added to the ones before. -/
def inlineMembers (item : List Char → Taken Json) :
    Nat → Table → List Char → Option (Table × List Char)
  | 0, _, _ => none
  | fuel + 1, t, cs => do
    let (parts, cs) ← key cs
    let cs ← match cs with
      | '=' :: cs => some cs
      | _ => none
    let (j, cs) ← item (passSpaces cs)
    let t ← t.insert parts.dropLast (parts.getLast?.getD "") j
    match passSpaces cs with
    | ',' :: cs => inlineMembers item fuel t cs
    | '\x7d' :: cs => some (t, cs)
    | _ => none

/-- A value, with a reader for the values inside it. -/
def valueWith (limit : Nat) (inner : Option (List Char → Taken Json)) (cs : List Char) :
    Taken Json :=
  match cs with
  | '[' :: cs =>
    match inner with
    | none => none
    | some item => (arrayItems limit item limit cs).map fun (js, cs) => (.list js, cs)
  | '\x7b' :: cs =>
    match inner with
    | none => none
    | some item =>
      match passSpaces cs with
      | '\x7d' :: cs => some (.object [], cs)
      | cs => (inlineMembers item limit Table.named cs).map fun (t, cs) => (t.toJson, cs)
  | '"' :: _ | '\'' :: _ => (quotedText cs).map fun (s, cs) => (.text s, cs)
  | cs => bare cs

/-- A value with at most `depth` values inside each other around it. -/
def value (limit : Nat) : Nat → List Char → Taken Json
  | 0 => valueWith limit none
  | depth + 1 => valueWith limit (some (value limit depth))

/-! ## Documents -/

/-- The rest behind the end of a line: blanks, perhaps a comment, and a line break or the end
of the text. -/
def passLineEnd (cs : List Char) : Option (List Char) :=
  match passComment (passSpaces cs) with
  | [] => some []
  | cs => passNewline cs

/-- A document as far as it is read: the whole table, and the header that is open. -/
structure Document where
  root : Table
  header : List String
  inList : Bool

/-- The document with a value under a key, in the table of the open header. -/
def Document.insert (d : Document) (parts : List String) (j : Json) : Option Document := do
  let root ← Table.change false
    (Table.insert parts.dropLast (parts.getLast?.getD "") j) d.header d.root
  some { d with root }

/-- The document with a header open: of a table, or of one more table in a list. -/
def Document.openHeader (d : Document) (inList : Bool) (parts : List String) : Option Document := do
  let name := parts.getLast?.getD ""
  let root ← Table.change false
    (if inList then Table.openListItem name else Table.openTable name) parts.dropLast d.root
  some { root, header := parts, inList }

/-- A line of a key and its value. -/
def keyLine (limit : Nat) (d : Document) (cs : List Char) :
    Option (Document × List Char) := do
  let (parts, cs) ← key cs
  let cs ← match cs with
    | '=' :: cs => some cs
    | _ => none
  let (j, cs) ← value limit depthBound (passSpaces cs)
  let cs ← passLineEnd cs
  let d ← d.insert parts j
  some (d, cs)

/-- A line of a header, behind its opening brackets. -/
def headerLine (d : Document) (inList : Bool) (cs : List Char) :
    Option (Document × List Char) := do
  let (parts, cs) ← key cs
  let cs ← match inList, cs with
    | false, ']' :: cs => some cs
    | true, ']' :: ']' :: cs => some cs
    | _, _ => none
  let cs ← passLineEnd cs
  let d ← d.openHeader inList parts
  some (d, cs)

/-- The lines of a document from one on. -/
def lines (limit : Nat) : Nat → Document → List Char → Option Document
  | 0, _, _ => none
  | fuel + 1, d, cs =>
    match passSpaces cs with
    | [] => some d
    | '#' :: _ | '\n' :: _ | '\r' :: _ => do
      let cs ← passLineEnd cs
      lines limit fuel d cs
    | '[' :: '[' :: cs => do
      let (d, cs) ← headerLine d true cs
      lines limit fuel d cs
    | '[' :: cs => do
      let (d, cs) ← headerLine d false cs
      lines limit fuel d cs
    | cs => do
      let (d, cs) ← keyLine limit d cs
      lines limit fuel d cs

/-- The text without the mark that may stand at its start. -/
def withoutMark : List Char → List Char
  | cs@(c :: rest) => if c = Char.ofNat 0xFEFF then rest else cs
  | [] => []

/-- The value that a document writes. -/
def ofText? (text : String) : Option Json :=
  let limit := text.length + 1
  (lines limit limit ⟨Table.named, [], false⟩ (withoutMark text.toList)).map fun d =>
    d.root.toJson

end ContractHooks.Toml
