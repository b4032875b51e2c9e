-- Reading JSON text. Lists and objects nest up to 127 deep. The loops over items and members
-- are bounded by `limit`, for which the length of the text is always enough. A value that
-- nothing wants is passed over: its brackets are kept on a stack, so that it may nest to any
-- depth, and a comma behind its last item is found by what is missing after it.
import ContractHooks.Json.Token

namespace ContractHooks.Json

/-! ## Lists -/

/-- Goes on to the next item of a list: the cursor at it, or at the closing bracket. -/
def nextItem (first : Bool) (k : Cursor) : Except Failure (Bool × Cursor) :=
  let k := k.skipGap
  match k.rest with
  | [] => k.refuseHere .endInList
  | c :: _ =>
    if c = ']' then .ok (false, k)
    else if first then .ok (true, k)
    else if c = ',' then
      let k := (k.advance 1).skipGap
      match k.rest with
      | [] => k.refuseHere .endInValue
      | c :: _ => if c = ']' then k.refuse .trailingComma else .ok (true, k)
    else k.refuse .noListComma

/-- The cursor behind the bracket that closes a list. -/
def closeList (k : Cursor) : Except Failure Cursor :=
  let k := k.skipGap
  match k.rest with
  | [] => k.refuseHere .endInList
  | c :: _ =>
    if c = ']' then .ok (k.advance 1)
    else if c = ',' then
      let k := (k.advance 1).skipGap
      if k.isAt ']' then k.refuse .trailingComma else k.refuse .trailingCharacters
    else k.refuse .trailingCharacters

/-- The items of a list up to its closing bracket, with a reader for each. -/
def items {α : Type} (item : Cursor → Read α) : Nat → Bool → Cursor → Read (List α)
  | 0, _, k => k.refuseHere .endInList
  | limit + 1, first, k =>
    match nextItem first k with
    | .error e => .error e
    | .ok (false, k) => .ok ([], k)
    | .ok (true, k) =>
      match item k with
      | .error e => .error e
      | .ok (a, k) =>
        match items item limit false k with
        | .error e => .error e
        | .ok (as, k) => .ok (a :: as, k)

/-! ## Objects -/

/-- Goes on to the next key of an object and reads it, or stops at the closing brace. -/
def nextKey (first : Bool) (k : Cursor) : Read (Option String) :=
  let key (k : Cursor) : Read (Option String) :=
    match k.rest with
    | [] => k.refuseHere .endInValue
    | c :: _ =>
      if c = '"' then
        match readText (k.advance 1) with
        | .error e => .error e
        | .ok (s, k) => .ok (some s, k)
      else if c = '\x7d' then k.refuse .trailingComma
      else k.refuse .keyNotText
  let k := k.skipGap
  match k.rest with
  | [] => k.refuseHere .endInObject
  | c :: _ =>
    if c = '\x7d' then .ok (none, k)
    else if first then key k
    else if c = ',' then key (k.advance 1).skipGap
    else k.refuse .noObjectComma

/-- The cursor behind the colon that follows a key. -/
def passColon (k : Cursor) : Except Failure Cursor :=
  let k := k.skipGap
  match k.rest with
  | [] => k.refuseHere .endInObject
  | c :: _ => if c = ':' then .ok (k.advance 1) else k.refuse .noColon

/-- The cursor behind the brace that closes an object. -/
def closeObject (k : Cursor) : Except Failure Cursor :=
  let k := k.skipGap
  match k.rest with
  | [] => k.refuseHere .endInObject
  | c :: _ =>
    if c = '\x7d' then .ok (k.advance 1)
    else if c = ',' then k.refuse .trailingComma
    else k.refuse .trailingCharacters

/-- The members of an object up to its closing brace, with a reader for each value. -/
def members {α : Type} (value : Cursor → Read α) : Nat → Bool → Cursor → Read (List (String × α))
  | 0, _, k => k.refuseHere .endInObject
  | limit + 1, first, k =>
    match nextKey first k with
    | .error e => .error e
    | .ok (none, k) => .ok ([], k)
    | .ok (some key, k) =>
      match passColon k with
      | .error e => .error e
      | .ok k =>
        match value k with
        | .error e => .error e
        | .ok (v, k) =>
          match members value limit false k with
          | .error e => .error e
          | .ok (rest, k) => .ok ((key, v) :: rest, k)

/-! ## Values -/

/-- A word, a number or a text, at the cursor. -/
def scalar (k : Cursor) : Read Json :=
  let word (letters : String) (j : Json) : Read Json :=
    match readWord letters.toList (k.advance 1) with
    | .error e => .error e
    | .ok k => .ok (j, k)
  let number (negative : Bool) (k : Cursor) : Read Json :=
    match readNumber negative k with
    | .error e => .error e
    | .ok (n, k) => .ok (.number n, k)
  match k.rest with
  | [] => k.refuseHere .endInValue
  | c :: _ =>
    if c = 'n' then word "ull" .null
    else if c = 't' then word "rue" (.bool true)
    else if c = 'f' then word "alse" (.bool false)
    else if c = '-' then number true (k.advance 1)
    else if isDigit c then number false k
    else if c = '"' then
      match readText (k.advance 1) with
      | .error e => .error e
      | .ok (s, k) => .ok (.text s, k)
    else k.refuse .noValue

/-- A value, with a reader for the values inside it. Without one, a value inside would lie too
deep. -/
def valueWith (limit : Nat) (inner : Option (Cursor → Read Json)) (k : Cursor) : Read Json :=
  let k := k.skipGap
  if k.isAt '[' then
    match inner with
    | none => k.refuse .tooDeep
    | some inner =>
      match items inner limit true (k.advance 1) with
      | .error e => .error e
      | .ok (js, k) =>
        match closeList k with
        | .error e => .error e
        | .ok k => .ok (.list js, k)
  else if k.isAt '\x7b' then
    match inner with
    | none => k.refuse .tooDeep
    | some inner =>
      match members inner limit true (k.advance 1) with
      | .error e => .error e
      | .ok (ms, k) =>
        match closeObject k with
        | .error e => .error e
        | .ok k => .ok (.object ms, k)
  else scalar k

/-- A value that nests at most `depth` deep. -/
def value (limit : Nat) : Nat → Cursor → Read Json
  | 0 => valueWith limit none
  | depth + 1 => valueWith limit (some (value limit depth))

/-! ## Values that are passed over -/

/-- Whether a scalar was passed over, or a list or an object was opened. -/
inductive Passed
  | scalar
  | openedList
  | openedObject

/-- Passes over a scalar or an opening bracket. -/
def passHead (k : Cursor) : Except Failure (Passed × Cursor) :=
  let as (p : Passed) (r : Except Failure Cursor) : Except Failure (Passed × Cursor) :=
    match r with
    | .error e => .error e
    | .ok k => .ok (p, k)
  match k.rest with
  | [] => k.refuseHere .endInValue
  | c :: _ =>
    if c = 'n' then as .scalar (readWord ['u', 'l', 'l'] (k.advance 1))
    else if c = 't' then as .scalar (readWord ['r', 'u', 'e'] (k.advance 1))
    else if c = 'f' then as .scalar (readWord ['a', 'l', 's', 'e'] (k.advance 1))
    else if c = '-' then as .scalar (skipNumber (k.advance 1))
    else if isDigit c then as .scalar (skipNumber k)
    else if c = '"' then as .scalar (skipText (k.advance 1))
    else if c = '[' then .ok (.openedList, k.advance 1)
    else if c = '\x7b' then .ok (.openedObject, k.advance 1)
    else k.refuse .noValue

/-- The bracket that an open list or object waits for. -/
inductive Frame
  | list
  | object
  deriving DecidableEq

/-- The closing bracket of a frame. -/
def Frame.closing : Frame → Char
  | .list => ']'
  | .object => '\x7d'

/-- Goes on behind an item of the innermost frame, or behind its opening bracket: closes the
frames that end here and stops at the next item. Nothing is left of the stack when the whole
value is passed. -/
def passBetween : List Frame → Bool → Cursor → Except Failure (List Frame × Cursor)
  | [], _, k => .ok ([], k)
  | f :: fs, opened, k =>
    let k := k.skipGap
    match k.rest with
    | [] => k.refuseHere (match f with | .list => .endInList | .object => .endInObject)
    | c :: _ =>
      if c = f.closing then passBetween fs false (k.advance 1)
      else if opened then .ok (f :: fs, k)
      else if c = ',' then .ok (f :: fs, k.advance 1)
      else k.refuse (match f with | .list => .noListComma | .object => .noObjectComma)

/-- Passes over the key and the colon of a member, if the innermost frame is an object. -/
def passKey : List Frame → Cursor → Except Failure Cursor
  | .object :: _, k =>
    let k := k.skipGap
    match k.rest with
    | [] => k.refuseHere .endInObject
    | c :: _ =>
      if c = '"' then
        match skipText (k.advance 1) with
        | .error e => .error e
        | .ok k => passColon k
      else k.refuse .keyNotText
  | _, k => .ok k

/-- Passes over the value at the cursor and over all that the open frames still hold. -/
def passValue : Nat → List Frame → Cursor → Except Failure Cursor
  | 0, _, k => k.refuseHere .endInValue
  | limit + 1, frames, k =>
    match passHead k.skipGap with
    | .error e => .error e
    | .ok (passed, k) =>
      let (frames, opened) := match passed with
        | .scalar => (frames, false)
        | .openedList => (.list :: frames, true)
        | .openedObject => (.object :: frames, true)
      match passBetween frames opened k with
      | .error e => .error e
      | .ok ([], k) => .ok k
      | .ok (frames, k) =>
        match passKey frames k with
        | .error e => .error e
        | .ok k => passValue limit frames k

/-! ## Whole texts -/

/-- What a reader takes off a whole text, behind which only a gap may stand. -/
def wholeText {α : Type} (read : Cursor → Read α) (text : String) : Except Failure α :=
  match read (Cursor.start text) with
  | .error e => .error e
  | .ok (a, k) =>
    let k := k.skipGap
    if k.rest.isEmpty then .ok a else k.refuse .trailingCharacters

/-- How deep a value may nest. -/
def depthBound : Nat := 127

/-- The bound on loops that is enough for a text. -/
def loopBound (text : String) : Nat := text.length + 1

/-- The value that a text writes. -/
def ofText (text : String) : Except Failure Json :=
  wholeText (value (loopBound text) depthBound) text

end ContractHooks.Json
