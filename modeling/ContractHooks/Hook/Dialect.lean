-- The two languages a module can be written in. They share every statement; only TypeScript
-- carries type annotations.
import ContractHooks.Json.Shape

namespace ContractHooks

/-- The language of a generated module. -/
inductive Dialect
  | typescript
  | javascript
  deriving Repr, DecidableEq

namespace Dialect

/-- The dialect that a flag for TypeScript chooses. -/
def ofFlag (isTypescript : Bool) : Dialect := if isTypescript then .typescript else .javascript

/-- Whether the dialect has type annotations. -/
def annotated : Dialect → Bool
  | .typescript => true
  | .javascript => false

/-- The extension of a module's file. -/
def fileExtension : Dialect → String
  | .typescript => "ts"
  | .javascript => "js"

/-- The word for a dialect. -/
def word : Dialect → String
  | .typescript => "typescript"
  | .javascript => "javascript"

/-! ## Reading -/

/-- The dialect of a word, told with its place. -/
def ofWord (s : String) (k : Json.Cursor) : Json.Read Dialect :=
  if s = "typescript" then .ok (.typescript, k)
  else if s = "javascript" then .ok (.javascript, k)
  else .error (.placed (.unknownVariant s "`typescript` or `javascript`") k.place)

/-- The word for a dialect, at the cursor. -/
def readWord (k : Json.Cursor) : Json.Read Dialect :=
  let k := k.skipGap
  if k.isAt '"' then
    match Json.readText (k.advance 1) with
    | .error e => .error e
    | .ok (s, k) => ofWord s k
  else Json.wrongAt "variant identifier" k

/-- A dialect: its word, or an object that has the word as its one key and nothing under it. -/
def read (k : Json.Cursor) : Json.Read Dialect :=
  let k := k.skipGap
  if k.rest.isEmpty then k.refuseHere .endInValue
  else if k.isAt '"' then readWord k
  else if k.isAt '\x7b' then
    match readWord (k.advance 1) with
    | .error e => .error e
    | .ok (d, k) =>
      match Json.passColon k with
      | .error e => .error e
      | .ok k =>
        let k := k.skipGap
        if k.isAt 'n' then
          match Json.readWord ['u', 'l', 'l'] (k.advance 1) with
          | .error e => .error e
          | .ok k =>
            let k := k.skipGap
            if k.isAt '\x7d' then .ok (d, k.advance 1)
            else if k.rest.isEmpty then k.refuseHere .endInObject
            else k.refuseHere .noValue
        else Json.wrongAt "unit" k
  else k.refuse .noValue

/-- The dialect that a text names. -/
def ofText (text : String) : Except Json.Failure Dialect := Json.wholeText read text

end Dialect

end ContractHooks
