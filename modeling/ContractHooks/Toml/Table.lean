-- The tables of a TOML document and how keys and headers may build them. A table is implicit
-- as long as nothing but a longer key or header has named it, and dotted if that was a key. A
-- key may go on into the tables that keys have made, a header may name an implicit table that
-- no key has made, and neither may change what is there.
import ContractHooks.Json.Value

namespace ContractHooks.Toml

mutual

/-- What a key of a table holds: a value, a table, or a list of tables, of which the last one
is still open. -/
inductive Item
  | value (j : Json)
  | table (t : Table)
  | tables (before : List Json) (last : Table)

/-- A table. -/
inductive Table
  | mk (implicit dotted : Bool) (items : List (String × Item))

end

namespace Table

/-- Whether nothing but a longer key or header has named the table. -/
def implicit : Table → Bool
  | mk i _ _ => i

/-- Whether a key with dots has made the table. -/
def dotted : Table → Bool
  | mk _ d _ => d

/-- The keys of a table and what they hold. -/
def items : Table → List (String × Item)
  | mk _ _ is => is

/-- A table that a header or a value has named. -/
def named : Table := mk false false []

/-- The table with what a key holds replaced. -/
def set (t : Table) (key : String) (item : Item) : Table :=
  mk t.implicit t.dotted (t.items.filter (fun p => p.1 ≠ key) ++ [(key, item)])

/-- What a key holds. -/
def item? (t : Table) (key : String) : Option Item := t.items.lookup key

/-! ## Values -/

mutual

/-- The value of what a key holds. -/
def itemValue : Item → Json
  | .value j => j
  | .table t => toJson t
  | .tables before last => .list (before ++ [toJson last])

/-- The value of a table. -/
def toJson : Table → Json
  | .mk _ _ items => .object (memberValues items)

/-- The members of a table. -/
def memberValues : List (String × Item) → List (String × Json)
  | [] => []
  | (key, item) :: rest => (key, itemValue item) :: memberValues rest

end

/-! ## Changes -/

/-- Changes the table that a path leads to, making implicit tables where there are none. The
path of a key may not lead into a table that a header has named. -/
def change (ofKey : Bool) (f : Table → Option Table) : List String → Table → Option Table
  | [], t => f t
  | key :: path, t =>
    match t.item? key with
    | none => do
      let child ← change ofKey f path (mk true ofKey [])
      some (t.set key (.table child))
    | some (.value _) => none
    | some (.table child) =>
      if ofKey && !child.implicit then none
      else do
        let child ← change ofKey f path child
        some (t.set key (.table child))
    | some (.tables before last) => do
      let last ← change ofKey f path last
      some (t.set key (.tables before last))

/-- The table with a value under a key with dots. -/
def insert (path : List String) (key : String) (j : Json) (t : Table) : Option Table :=
  change true (fun t =>
    if t.dotted == path.isEmpty then none
    else
      match t.item? key with
      | some _ => none
      | none => some (t.set key (.value j))) path t

/-- The table with a table under a key, which a header names. -/
def openTable (key : String) (t : Table) : Option Table :=
  match t.item? key with
  | none => some (t.set key (.table named))
  | some (.table child) =>
    if child.implicit && !child.dotted then some (t.set key (.table (mk false false child.items)))
    else none
  | some _ => none

/-- The table with one more table in the list under a key. -/
def openListItem (key : String) (t : Table) : Option Table :=
  match t.item? key with
  | none => some (t.set key (.tables [] named))
  | some (.tables before last) => some (t.set key (.tables (before ++ [toJson last]) named))
  | some _ => none

end Table

end ContractHooks.Toml
