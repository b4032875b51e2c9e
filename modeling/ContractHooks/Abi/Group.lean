-- Overloads: the functions of one name that all read or all write, and the events of one name.
-- A group stands where its first member was declared, and its members keep their order. While an
-- interface is read, the position of each group is kept by the key of its members.
import ContractHooks.Abi.Signature

namespace ContractHooks.Abi

/-- Entries that share a name. -/
structure Overloads (α : Type) where
  name : String
  members : List α
  deriving Repr

/-- Whether the name has more than one member. -/
def Overloads.isOverloaded {α : Type} (o : Overloads α) : Bool := decide (1 < o.members.length)

/-- The overloads with one more member. -/
def Overloads.push {α : Type} (o : Overloads α) (a : α) : Overloads α :=
  { o with members := o.members ++ [a] }

/-- Functions that read, functions that write, or events, of one name. -/
inductive Group
  | read (o : Overloads Function)
  | write (o : Overloads Function)
  | event (o : Overloads Event)
  deriving Repr

/-- What the members of a group are. -/
inductive GroupClass
  | read
  | write
  | event
  deriving Repr, DecidableEq

/-- The class and the name that an entry is grouped by, if it is one that is grouped. -/
def Item.key? : Item → Option (GroupClass × String)
  | .function f => some (if f.mutability.isRead then .read else .write, f.name)
  | .event e => some (.event, e.name)
  | .error _ | .special _ _ => none

namespace Group

/-- The name that the members share. -/
def name : Group → String
  | .read o | .write o => o.name
  | .event o => o.name

/-- What the members are. -/
def groupClass : Group → GroupClass
  | .read _ => .read
  | .write _ => .write
  | .event _ => .event

/-- The group that an entry starts, if it is one that is grouped. -/
def start? : Item → Option Group
  | .function f =>
    some (if f.mutability.isRead then .read ⟨f.name, [f]⟩ else .write ⟨f.name, [f]⟩)
  | .event e => some (.event ⟨e.name, [e]⟩)
  | .error _ | .special _ _ => none

/-- The group with an entry as one more member. Functions are pushed to functions and events to
events; any other entry is dropped. -/
def push : Group → Item → Group
  | .read o, .function f => .read (o.push f)
  | .write o, .function f => .write (o.push f)
  | .event o, .event e => .event (o.push e)
  | g, _ => g

end Group

/-! ## Grouping -/

/-- Groups in order, and the position of the group of each key. -/
structure Grouping where
  groups : List Group
  positions : List ((GroupClass × String) × Nat)
  deriving Repr

namespace Grouping

/-- The grouping of an empty interface. -/
def empty : Grouping := ⟨[], []⟩

/-- The grouping with one more entry, which is pushed to the group at the position of its key or
starts a group behind the others. -/
def add (s : Grouping) (item : Item) : Grouping :=
  match item.key? with
  | none => s
  | some key =>
    match s.positions.lookup key with
    | some i => { s with groups := s.groups.modify i fun g => g.push item }
    | none =>
      { groups := s.groups ++ (Group.start? item).toList
        positions := (key, s.groups.length) :: s.positions }

/-- The grouping of the entries of an interface, one after the other. -/
def ofItems (items : List Item) : Grouping := items.foldl add empty

end Grouping

/-- The groups of an interface. -/
def groups (items : List Item) : List Group := (Grouping.ofItems items).groups

end ContractHooks.Abi
