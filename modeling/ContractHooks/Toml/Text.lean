-- The quoted texts and the keys of TOML. A line break inside a text of several lines is read
-- as a line feed, however it is written.
import ContractHooks.Text.Hex

namespace ContractHooks.Toml

/-- A reader takes a value off the front of a text and leaves the rest, or fails. -/
abbrev Taken (α : Type) := Option (α × List Char)

/-- Whether the character is a blank inside a line. -/
def isSpace (c : Char) : Bool := c == ' ' || c == '\t'

/-- Whether the character may stand in a comment: anything but a control. -/
def isCommentChar (c : Char) : Bool := c == '\t' || (decide (0x20 ≤ c.toNat) && c.toNat != 0x7F)

/-- Whether the character may stand for itself in a text with escapes. -/
def isBasicChar (c : Char) : Bool := isCommentChar c && c != '"' && c != '\\'

/-- Whether the character may stand in a text without escapes. -/
def isLiteralChar (c : Char) : Bool := isCommentChar c && c != '\''

/-- The rest behind a line break. -/
def passNewline : List Char → Option (List Char)
  | '\n' :: cs => some cs
  | '\r' :: '\n' :: cs => some cs
  | _ => none

/-- The rest behind blanks. -/
def passSpaces (cs : List Char) : List Char := cs.dropWhile isSpace

/-- The rest behind blanks and line breaks. -/
def passBlank : List Char → List Char
  | '\r' :: '\n' :: cs => passBlank cs
  | c :: cs => if isSpace c || c == '\n' then passBlank cs else c :: cs
  | [] => []

theorem length_passNewline {cs rest : List Char} (h : passNewline cs = some rest) :
    rest.length < cs.length := by
  unfold passNewline at h
  split at h
  · cases h
    simp
  · cases h
    simp only [List.length_cons]
    omega
  · cases h

theorem length_passBlank (cs : List Char) : (passBlank cs).length ≤ cs.length := by
  fun_induction passBlank cs <;> simp_all <;> omega

theorem length_passSpaces (cs : List Char) : (passSpaces cs).length ≤ cs.length :=
  (List.dropWhile_sublist _).length_le

/-! ## Escapes -/

/-- The character of a code point that some digits write. -/
def codePoint? (digits : List Char) : Option Char := do
  let values ← digits.mapM Text.hexValue?
  let n := values.foldl (fun n d => 16 * n + d) 0
  if n.isValidChar then some (Char.ofNat n) else none

/-- The character of an escape behind its backslash, and how many characters it takes. -/
def escape? (cs : List Char) : Option (Char × Nat) :=
  match cs with
  | [] => none
  | c :: rest =>
    if c == '"' || c == '\\' then some (c, 1)
    else if c == 'b' then some (Char.ofNat 0x08, 1)
    else if c == 'f' then some (Char.ofNat 0x0C, 1)
    else if c == 'n' then some ('\n', 1)
    else if c == 'r' then some ('\r', 1)
    else if c == 't' then some ('\t', 1)
    else if c == 'u' && decide (4 ≤ rest.length) then (codePoint? (rest.take 4)).map (·, 5)
    else if c == 'U' && decide (8 ≤ rest.length) then (codePoint? (rest.take 8)).map (·, 9)
    else none

/-! ## Texts of one line -/

/-- A text with escapes up to its closing quote. -/
def basicText (cs : List Char) : Taken (List Char) :=
  match cs with
  | [] => none
  | c :: rest =>
    if c == '"' then some ([], rest)
    else if c == '\\' then
      match escape? rest with
      | none => none
      | some (d, n) => (basicText (rest.drop n)).map fun (ds, cs) => (d :: ds, cs)
    else if isBasicChar c then (basicText rest).map fun (ds, cs) => (c :: ds, cs)
    else none
termination_by cs.length
decreasing_by
  all_goals simp only [List.length_drop, List.length_cons]
  all_goals omega

/-- A text without escapes up to its closing quote. -/
def literalText (cs : List Char) : Taken (List Char) :=
  match cs.span isLiteralChar with
  | (text, '\'' :: rest) => some (text, rest)
  | _ => none

/-! ## Texts of several lines -/

/-- How the quotes that come next go on: up to two of them belong to the text, three close it,
and up to two more before those three belong to it too. -/
def closingQuotes? (quote : Char) (cs : List Char) : Option (List Char × List Char) :=
  let run := cs.takeWhile (· == quote)
  if run.length < 3 then none
  else
    let extra := min (run.length - 3) 2
    some (run.take extra, cs.drop (extra + 3))

/-- A text of several lines with escapes, up to its closing quotes. A backslash at the end of
a line takes away the line break and all blanks behind it. -/
def basicLines (cs : List Char) : Taken (List Char) :=
  match cs with
  | [] => none
  | c :: rest =>
    if c == '"' then
      match closingQuotes? '"' (c :: rest) with
      | some (text, cs) => some (text, cs)
      | none => (basicLines rest).map fun (ds, cs) => (c :: ds, cs)
    else if c == '\\' then
      match _h : passNewline (passSpaces rest) with
      | some behind => basicLines (passBlank behind)
      | none =>
        match escape? rest with
        | none => none
        | some (d, n) => (basicLines (rest.drop n)).map fun (ds, cs) => (d :: ds, cs)
    else
      match _h : passNewline (c :: rest) with
      | some behind => (basicLines behind).map fun (ds, cs) => ('\n' :: ds, cs)
      | none =>
        if isBasicChar c then (basicLines rest).map fun (ds, cs) => (c :: ds, cs) else none
termination_by cs.length
decreasing_by
  · simp
  · have h1 := length_passNewline _h
    have h2 := length_passBlank behind
    have h3 := length_passSpaces rest
    simp only [List.length_cons]
    omega
  · simp only [List.length_drop, List.length_cons]
    omega
  · exact length_passNewline _h
  · simp

/-- A text of several lines without escapes, up to its closing quotes. -/
def literalLines (cs : List Char) : Taken (List Char) :=
  match cs with
  | [] => none
  | c :: rest =>
    if c == '\'' then
      match closingQuotes? '\'' (c :: rest) with
      | some (text, cs) => some (text, cs)
      | none => (literalLines rest).map fun (ds, cs) => (c :: ds, cs)
    else
      match _h : passNewline (c :: rest) with
      | some behind => (literalLines behind).map fun (ds, cs) => ('\n' :: ds, cs)
      | none =>
        if isLiteralChar c then (literalLines rest).map fun (ds, cs) => (c :: ds, cs) else none
termination_by cs.length
decreasing_by
  · simp
  · exact length_passNewline _h
  · simp

/-- The rest of a text of several lines: a line break right behind the opening quotes is not
part of it. -/
def passFirstNewline (cs : List Char) : List Char := (passNewline cs).getD cs

/-- A quoted text. -/
def quotedText : List Char → Taken String
  | '"' :: '"' :: '"' :: cs =>
    (basicLines (passFirstNewline cs)).map fun (ds, cs) => (String.ofList ds, cs)
  | '"' :: cs => (basicText cs).map fun (ds, cs) => (String.ofList ds, cs)
  | '\'' :: '\'' :: '\'' :: cs =>
    (literalLines (passFirstNewline cs)).map fun (ds, cs) => (String.ofList ds, cs)
  | '\'' :: cs => (literalText cs).map fun (ds, cs) => (String.ofList ds, cs)
  | _ => none

/-! ## Keys -/

/-- Whether the character may stand in a key without quotes. -/
def isBareKeyChar (c : Char) : Bool :=
  (decide (c.toNat < 0x80) && c.isAlphanum) || c == '_' || c == '-'

/-- One part of a key. -/
def keyPart : List Char → Taken String
  | '"' :: cs => (basicText cs).map fun (ds, cs) => (String.ofList ds, cs)
  | '\'' :: cs => (literalText cs).map fun (ds, cs) => (String.ofList ds, cs)
  | cs =>
    let part := cs.takeWhile isBareKeyChar
    if part.isEmpty then none else some (String.ofList part, cs.drop part.length)

/-- The parts of a key with dots between them, at most `fuel` of them. -/
def keyParts : Nat → List Char → Taken (List String)
  | 0, _ => none
  | fuel + 1, cs =>
    match keyPart (passSpaces cs) with
    | none => none
    | some (part, cs) =>
      match passSpaces cs with
      | '.' :: cs => (keyParts fuel cs).map fun (parts, cs) => (part :: parts, cs)
      | cs => some ([part], cs)

/-- The greatest number of parts of a key, and of values inside each other. -/
def depthBound : Nat := 79

/-- A key: its parts with dots between them. -/
def key (cs : List Char) : Taken (List String) := keyParts depthBound cs

end ContractHooks.Toml
