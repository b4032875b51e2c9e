-- What JSON a type is written as, and how its values are read. A shape reads straight off a
-- text, where a mismatch is told with its place, or off a value that was read before, where it
-- is told without one. A record may be written as an object, whose unknown keys are passed
-- over, or as the list of its fields in order.
import ContractHooks.Json.Printer
import ContractHooks.Json.Reader
import ContractHooks.Ordered
import ContractHooks.Text.Quoted

namespace ContractHooks.Json

/-! ## Mismatches -/

/-- A value as a mismatch names it. -/
def found : Json → String
  | .null => "null"
  | .bool b => "boolean `" ++ (if b then "true" else "false") ++ "`"
  | .number (.whole n) => "integer `" ++ toString n ++ "`"
  | .number n => "floating point `" ++ n.text ++ "`"
  | .text s => "string " ++ Text.quoted s
  | .list _ => "sequence"
  | .object _ => "map"

/-- The mismatch of a value that has the wrong type. -/
def wrong {α : Type} (expected : String) (j : Json) : Except Mismatch α :=
  .error (.wrongType (found j) expected)

/-- The failure of a value of the wrong type at the cursor. A scalar is read to its end. -/
def wrongAt {α : Type} (expected : String) (k : Cursor) : Except Failure α :=
  if k.isAt '[' then .error (.placed (.wrongType "sequence" expected) k.place)
  else if k.isAt '\x7b' then .error (.placed (.wrongType "map" expected) k.place)
  else
    match scalar k with
    | .error e => .error e
    | .ok (j, k) => .error (.placed (.wrongType (found j) expected) k.place)

/-- Where a mismatch inside an object is told: behind the closing brace, if that comes next. -/
def Cursor.placeInObject (k : Cursor) : Place :=
  let k := k.skipGap
  if k.isAt '\x7d' then (k.advance 1).place else k.place

/-- Where a mismatch inside a list is told: behind the closing bracket or a comma, if one of
them comes next. -/
def Cursor.placeInList (k : Cursor) : Place :=
  let k := k.skipGap
  if k.isAt ']' then (k.advance 1).place
  else if k.isAt ',' then (k.advance 1).skipGap.place
  else k.place

/-- Gives a failure a place, if it has none yet. -/
def Failure.settle (place : Cursor → Place) : Failure → Failure
  | .unplaced mismatch k => .placed mismatch (place k)
  | e => e

/-! ## Shapes -/

/-- How the values of a type are read. `ofText` takes one off a text, with a bound on the items
of a list and one on the brackets that may still be opened. `ofTree` takes one off a value;
where it is `lenient`, a list may hold more items than a record has fields. -/
structure Shape (α : Type) where
  ofText : Nat → Nat → Cursor → Read α
  ofTree : Bool → Json → Except Mismatch α

namespace Shape

variable {α σ : Type}

/-- Scalars that a function accepts. -/
def scalars (expected : String) (accept : Json → Option α) : Shape α where
  ofText := fun _ _ k =>
    let k := k.skipGap
    if k.isAt '[' || k.isAt '\x7b' then wrongAt expected k
    else
      match scalar k with
      | .error e => .error e
      | .ok (j, k) =>
        match accept j with
        | some a => .ok (a, k)
        | none => .error (.placed (.wrongType (found j) expected) k.place)
  ofTree := fun _ j =>
    match accept j with
    | some a => .ok a
    | none => wrong expected j

/-- Texts. -/
def text : Shape String := scalars "a string" text?

/-- Texts that name a place in the file tree. -/
def path : Shape String := scalars "path string" text?

/-- Truth values. -/
def flag : Shape Bool := scalars "a boolean" bool?

/-- Values that may be missing, which is written `null`. -/
def optional (inner : Shape α) : Shape (Option α) where
  ofText := fun limit depth k =>
    let k := k.skipGap
    if k.isAt 'n' then
      match readWord ['u', 'l', 'l'] (k.advance 1) with
      | .error e => .error e
      | .ok k => .ok (none, k)
    else
      match inner.ofText limit depth k with
      | .error e => .error e
      | .ok (a, k) => .ok (some a, k)
  ofTree := fun lenient j =>
    match j with
    | .null => .ok none
    | j => (inner.ofTree lenient j).map some

/-- Lists. -/
def listOf (inner : Shape α) : Shape (List α) where
  ofText := fun limit depth k =>
    let k := k.skipGap
    if k.isAt '[' then
      match depth with
      | 0 => k.refuse .tooDeep
      | depth + 1 =>
        match items (inner.ofText limit depth) limit true (k.advance 1) with
        | .error e => .error (e.settle Cursor.placeInList)
        | .ok (as, k) =>
          match closeList k with
          | .error e => .error e
          | .ok k => .ok (as, k)
    else wrongAt "a sequence" k
  ofTree := fun lenient j =>
    match j with
    | .list js => js.mapM (inner.ofTree lenient)
    | j => wrong "a sequence" j

/-- A shape whose values come from a whole JSON value, by a function that may refuse it. What
it refuses has no place of its own. -/
def derived (decode : Json → Except Mismatch α) : Shape α where
  ofText := fun limit depth k =>
    match value limit depth k with
    | .error e => .error e
    | .ok (j, k) =>
      match decode j with
      | .error m => .error (.unplaced m k)
      | .ok a => .ok (a, k)
  ofTree := fun _ j => decode j

/-! ## Records -/

/-- A field of a record: its name, whether it has to be there, and how reading it changes the
record. -/
structure Field (σ : Type) where
  name : String
  required : Bool
  ofText : Nat → Nat → Cursor → Read (σ → σ)
  ofTree : Bool → Json → Except Mismatch (σ → σ)

/-- The field of a name whose values have a shape. -/
def field (name : String) (required : Bool) (shape : Shape α) (set : α → σ → σ) : Field σ where
  name := name
  required := required
  ofText := fun limit depth k =>
    match shape.ofText limit depth k with
    | .error e => .error e
    | .ok (a, k) => .ok (set a, k)
  ofTree := fun lenient j => (shape.ofTree lenient j).map set

/-- The first required field that was not seen. -/
def firstMissing (fields : List (Field σ)) (seen : List String) : Option String :=
  (fields.find? fun f => f.required && !seen.contains f.name).map Field.name

/-- Reads the members of a record up to its closing brace, given the names seen so far. -/
def recordMembers (fields : List (Field σ)) (limit depth : Nat) :
    Nat → Bool → List String → σ → Cursor → Read σ
  | 0, _, _, _, k => k.refuseHere .endInObject
  | fuel + 1, first, seen, record, k =>
    match nextKey first k with
    | .error e => .error e
    | .ok (none, k) =>
      match firstMissing fields seen with
      | some name => .error (.unplaced (.missingField name) k)
      | none => .ok (record, k)
    | .ok (some key, k) =>
      match fields.find? (·.name == key) with
      | none =>
        match passColon k with
        | .error e => .error e
        | .ok k =>
          match passValue limit [] k with
          | .error e => .error e
          | .ok k => recordMembers fields limit depth fuel false seen record k
      | some f =>
        if seen.contains key then .error (.unplaced (.duplicateField key) k)
        else
          match passColon k with
          | .error e => .error e
          | .ok k =>
            match f.ofText limit depth k with
            | .error e => .error e
            | .ok (change, k) =>
              recordMembers fields limit depth fuel false (key :: seen) (change record) k

/-- Reads the fields of a record that is written as a list, the first of them at an index. -/
def recordItems (expected : String) (limit depth : Nat) :
    List (Field σ) → Nat → σ → Cursor → Read σ
  | [], _, record, k => .ok (record, k)
  | f :: fs, index, record, k =>
    match nextItem (index == 0) k with
    | .error e => .error e
    | .ok (false, k) =>
      if f.required then .error (.unplaced (.wrongLength index expected) k)
      else recordItems expected limit depth fs (index + 1) record k
    | .ok (true, k) =>
      match f.ofText limit depth k with
      | .error e => .error e
      | .ok (change, k) => recordItems expected limit depth fs (index + 1) (change record) k

/-- Sets the fields that the members of an object give, in order. -/
def setMembers (fields : List (Field σ)) (lenient : Bool) :
    List (String × Json) → σ → Except Mismatch σ
  | [], record => .ok record
  | (key, j) :: rest, record =>
    match fields.find? (·.name == key) with
    | none => setMembers fields lenient rest record
    | some f =>
      match f.ofTree lenient j with
      | .error m => .error m
      | .ok change => setMembers fields lenient rest (change record)

/-- Sets the fields that a list gives; what is left of the list is given back. -/
def setItems (expected : String) (lenient : Bool) :
    List (Field σ) → Nat → List Json → σ → Except Mismatch (σ × List Json)
  | [], _, js, record => .ok (record, js)
  | f :: fs, index, [], record =>
    if f.required then .error (.wrongLength index expected)
    else setItems expected lenient fs (index + 1) [] record
  | f :: fs, index, j :: js, record =>
    match f.ofTree lenient j with
    | .error m => .error m
    | .ok change => setItems expected lenient fs (index + 1) js (change record)

/-- A record of the given name and fields. The fields that are not there are left as they are
in `start`. -/
def record (name : String) (fields : List (Field σ)) (start : σ) : Shape σ :=
  let expected := "struct " ++ name
  let expectedItems := expected ++ " with " ++ toString fields.length ++ " elements"
  { ofText := fun limit depth k =>
      let k := k.skipGap
      if k.isAt '[' then
        match depth with
        | 0 => k.refuse .tooDeep
        | depth + 1 =>
          match recordItems expectedItems limit depth fields 0 start (k.advance 1) with
          | .error e => .error (e.settle Cursor.placeInList)
          | .ok (a, k) =>
            match closeList k with
            | .error e => .error e
            | .ok k => .ok (a, k)
      else if k.isAt '\x7b' then
        match depth with
        | 0 => k.refuse .tooDeep
        | depth + 1 =>
          match recordMembers fields limit depth limit true [] start (k.advance 1) with
          | .error e => .error (e.settle Cursor.placeInObject)
          | .ok (a, k) =>
            match closeObject k with
            | .error e => .error e
            | .ok k => .ok (a, k)
      else wrongAt expected k
    ofTree := fun lenient j =>
      match j with
      | .list js =>
        match setItems expectedItems lenient fields 0 js start with
        | .error m => .error m
        | .ok (a, rest) =>
          if rest.isEmpty || lenient then .ok a
          else .error (.wrongLength js.length "fewer elements in array")
      | .object ms =>
        match setMembers fields lenient (Ordered.ofList ms) start with
        | .error m => .error m
        | .ok a =>
          match firstMissing fields (ms.map Prod.fst) with
          | some name => .error (.missingField name)
          | none => .ok a
      | j => wrong expected j }

/-- The value of a shape that a whole text writes. -/
def read (shape : Shape α) (text : String) : Except Failure α :=
  wholeText (shape.ofText (loopBound text) depthBound) text

end Shape

end ContractHooks.Json
