-- Where a reader of JSON text stands, and how it fails. A place is a line and the number of
-- bytes read on it, so that the place of a character counts the bytes before it. A failure
-- names its cause and, as soon as that is known, its place.
import ContractHooks.Json.Value

namespace ContractHooks.Json

/-! ## Places -/

/-- A line, counted from one, and the bytes already read on it. -/
structure Place where
  line : Nat
  column : Nat
  deriving Repr, DecidableEq

/-- The place after a character. -/
def Place.after (p : Place) (c : Char) : Place :=
  if c = '\n' then ⟨p.line + 1, 0⟩ else ⟨p.line, p.column + c.utf8Size⟩

/-- The place after some bytes of a text, which may end inside a character. -/
def Place.afterBytes : Nat → Place → List Char → Place
  | _, p, [] => p
  | n, p, c :: cs =>
    if n = 0 then p
    else if c.utf8Size ≤ n then afterBytes (n - c.utf8Size) (p.after c) cs
    else ⟨p.line, p.column + n⟩

/-- The text that is left to read and the place it starts at. -/
structure Cursor where
  rest : List Char
  place : Place
  deriving Repr, DecidableEq

namespace Cursor

/-- The start of a text. -/
def start (text : String) : Cursor := ⟨text.toList, ⟨1, 0⟩⟩

/-- The place just behind the first byte of the next character, or the end of the text. -/
def ahead (k : Cursor) : Place :=
  match k.rest with
  | [] => k.place
  | c :: _ => if c = '\n' then ⟨k.place.line + 1, 0⟩ else ⟨k.place.line, k.place.column + 1⟩

/-- The place behind the last character. -/
def last (k : Cursor) : Place := k.rest.foldl Place.after k.place

/-- The cursor some characters on. -/
def advance (k : Cursor) (n : Nat) : Cursor :=
  ⟨k.rest.drop n, (k.rest.take n).foldl Place.after k.place⟩

/-- Whether JSON lets the character stand between tokens. -/
def isGap (c : Char) : Bool := c == ' ' || c == '\n' || c == '\t' || c == '\r'

/-- The cursor behind the gap that it stands at. -/
def skipGap (k : Cursor) : Cursor := k.advance (k.rest.takeWhile isGap).length

end Cursor

/-! ## Failures -/

/-- What is wrong with a text that is not JSON. -/
inductive Fault
  | endInValue
  | endInText
  | endInList
  | endInObject
  | noColon
  | noListComma
  | noObjectComma
  | wrongWord
  | noValue
  | badEscape
  | badNumber
  | numberTooLarge
  | controlCharacter
  | keyNotText
  | loneSurrogate
  | unfinishedSurrogate
  | trailingComma
  | trailingCharacters
  | tooDeep
  deriving Repr, DecidableEq

/-- The wording of a fault. -/
def Fault.message : Fault → String
  | .endInValue => "EOF while parsing a value"
  | .endInText => "EOF while parsing a string"
  | .endInList => "EOF while parsing a list"
  | .endInObject => "EOF while parsing an object"
  | .noColon => "expected `:`"
  | .noListComma => "expected `,` or `]`"
  | .noObjectComma => "expected `,` or `\x7d`"
  | .wrongWord => "expected ident"
  | .noValue => "expected value"
  | .badEscape => "invalid escape"
  | .badNumber => "invalid number"
  | .numberTooLarge => "number out of range"
  | .controlCharacter => "control character (\\u0000-\\u001F) found while parsing a string"
  | .keyNotText => "key must be a string"
  | .loneSurrogate => "lone leading surrogate in hex escape"
  | .unfinishedSurrogate => "unexpected end of hex escape"
  | .trailingComma => "trailing comma"
  | .trailingCharacters => "trailing characters"
  | .tooDeep => "recursion limit exceeded"

/-- What is wrong with a JSON value that stands where something else is expected. -/
inductive Mismatch
  | wrongType (found expected : String)
  | missingField (name : String)
  | duplicateField (name : String)
  | wrongLength (length : Nat) (expected : String)
  | unknownVariant (found expected : String)
  | refused (reason : String)
  deriving Repr, DecidableEq

/-- The wording of a mismatch. -/
def Mismatch.message : Mismatch → String
  | .wrongType found expected => "invalid type: " ++ found ++ ", expected " ++ expected
  | .missingField name => "missing field `" ++ name ++ "`"
  | .duplicateField name => "duplicate field `" ++ name ++ "`"
  | .wrongLength length expected =>
    "invalid length " ++ toString length ++ ", expected " ++ expected
  | .unknownVariant found expected => "unknown variant `" ++ found ++ "`, expected " ++ expected
  | .refused reason => reason

/-- Why a text could not be read. A mismatch that has no place yet keeps the cursor it was
found at: the reader around it decides which place that is. -/
inductive Failure
  | syntactic (fault : Fault) (place : Place)
  | placed (mismatch : Mismatch) (place : Place)
  | unplaced (mismatch : Mismatch) (cursor : Cursor)
  deriving Repr, DecidableEq

/-- A message with a place behind it. -/
def Place.describe (p : Place) (message : String) : String :=
  message ++ " at line " ++ toString p.line ++ " column " ++ toString p.column

/-- The wording of a failure: a mismatch that nothing gave a place is told without one. -/
def Failure.message : Failure → String
  | .syntactic fault place => place.describe fault.message
  | .placed mismatch place => place.describe mismatch.message
  | .unplaced mismatch _ => mismatch.message

/-- A reader takes a value off a text, or says why it cannot. -/
abbrev Read (α : Type) := Except Failure (α × Cursor)

/-- The failure of a fault just behind the next byte. -/
def Cursor.refuse {α : Type} (k : Cursor) (fault : Fault) : Except Failure α :=
  .error (.syntactic fault k.ahead)

/-- The failure of a fault behind what was read. -/
def Cursor.refuseHere {α : Type} (k : Cursor) (fault : Fault) : Except Failure α :=
  .error (.syntactic fault k.place)

end ContractHooks.Json
