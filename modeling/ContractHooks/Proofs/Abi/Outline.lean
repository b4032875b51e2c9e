-- What the groups of an interface hang on: of every function and every event its class, its name
-- and its signature, in order. Outputs, the names of parameters and the like are not in a
-- signature, and an interface with all of them left out has the same outline.
import ContractHooks.Proofs.Abi.Group

namespace ContractHooks.Abi

/-! ## Outlines -/

/-- The outline of a function or an event. -/
structure Outline where
  groupClass : GroupClass
  name : String
  signature : String
  deriving Repr, DecidableEq

/-- The class and the name of an outline. -/
def Outline.key (o : Outline) : GroupClass × String := (o.groupClass, o.name)

/-- The outline of a function. -/
def Function.outline (f : Function) : Outline :=
  ⟨if f.mutability.isRead then .read else .write, f.name, f.signature⟩

/-- The outline of an event. -/
def Event.outline (e : Event) : Outline := ⟨.event, e.name, e.signature⟩

/-- The outline of an entry, if it is a function or an event. -/
def Item.outline? : Item → Option Outline
  | .function f => some f.outline
  | .event e => some e.outline
  | .error _ | .special _ _ => none

/-- The outlines of the functions and the events of an interface, in order. -/
def outlines (items : List Item) : List Outline := items.filterMap Item.outline?

theorem outlines_functions (fs : List Function) :
    outlines (fs.map Item.function) = fs.map Function.outline := by
  rw [outlines, List.filterMap_map, ← List.filterMap_eq_map]
  rfl

theorem outlines_events (es : List Event) :
    outlines (es.map Item.event) = es.map Event.outline := by
  rw [outlines, List.filterMap_map, ← List.filterMap_eq_map]
  rfl

theorem map_key_outline? (item : Item) : item.outline?.map Outline.key = item.key? := by
  cases item <;> rfl

/-- The keys of an interface are those of its outlines. -/
theorem keys_eq_outlines (items : List Item) :
    keys items = ((outlines items).map Outline.key).eraseDups := by
  have hkeys : items.filterMap Item.key? = (outlines items).map Outline.key := by
    rw [outlines, List.map_filterMap]
    exact List.filterMap_congr fun i _ => (map_key_outline? i).symm
  rw [keys, hkeys]

theorem keys_of_outlines {a b : List Item} (h : outlines a = outlines b) : keys a = keys b := by
  rw [keys_eq_outlines, keys_eq_outlines, h]

/-- The outlines of a key are those of its entries. -/
theorem outlines_filter (items : List Item) (k : GroupClass × String) :
    outlines (items.filter fun i => i.key? = some k) =
      (outlines items).filter fun o => o.key = k := by
  unfold outlines
  rw [List.filter_filterMap, List.filterMap_filter]
  refine List.filterMap_congr fun i _ => ?_
  rw [← map_key_outline? i]
  cases i.outline? with
  | none => rfl
  | some o => simp [Option.filter]

/-- The outlines of a group are those of its key. -/
theorem outlines_entries {items : List Item} {g : Group} (hg : g ∈ groups items) :
    outlines g.entries = (outlines items).filter fun o => o.key = g.key := by
  rw [entries_groups hg, outlines_filter]

/-! ## Bare interfaces -/

mutual

/-- A parameter with its types and nothing else. -/
def Parameter.bare : Parameter → Parameter
  | ⟨_, type, _, some components, _⟩ => ⟨"", type, none, some (bareParameters components), false⟩
  | ⟨_, type, _, none, _⟩ => ⟨"", type, none, none, false⟩

/-- Parameters with their types and nothing else. -/
def bareParameters : List Parameter → List Parameter
  | [] => []
  | p :: ps => p.bare :: bareParameters ps

end

mutual

/-- The types of a parameter are all that its canonical type tells. -/
theorem Parameter.canonicalType_bare (p : Parameter) : p.bare.canonicalType = p.canonicalType := by
  match p with
  | ⟨_, type, _, none, _⟩ => rfl
  | ⟨_, type, _, some components, _⟩ =>
    rw [Parameter.bare, Parameter.canonicalType, Parameter.canonicalType,
      canonicalTypes_bare components]

theorem canonicalTypes_bare (ps : List Parameter) :
    canonicalTypes (bareParameters ps) = canonicalTypes ps := by
  match ps with
  | [] => rfl
  | p :: ps =>
    rw [bareParameters, canonicalTypes, canonicalTypes, p.canonicalType_bare,
      canonicalTypes_bare ps]

end

/-- The plainest way to read or to write. -/
def Mutability.bare (m : Mutability) : Mutability := if m.isRead then .view else .nonpayable

theorem Mutability.isRead_bare (m : Mutability) : m.bare.isRead = m.isRead := by cases m <;> rfl

/-- A function without outputs and with bare inputs, that reads or writes in the plainest way. -/
def Function.bare (f : Function) : Function where
  name := f.name
  inputs := bareParameters f.inputs
  outputs := []
  mutability := f.mutability.bare

/-- An event with bare inputs. -/
def Event.bare (e : Event) : Event where
  name := e.name
  inputs := bareParameters e.inputs
  anonymous := false

/-- A bare entry, if it is a function or an event. -/
def Item.bare? : Item → Option Item
  | .function f => some (.function f.bare)
  | .event e => some (.event e.bare)
  | .error _ | .special _ _ => none

/-- The functions and events of an interface, bare. -/
def bareItems (items : List Item) : List Item := items.filterMap Item.bare?

theorem signature_bare (name : String) (inputs : List Parameter) :
    signature name (bareParameters inputs) = signature name inputs := by
  rw [signature, signature, canonicalTypes_bare]

theorem outline?_bare (item : Item) : item.bare?.bind Item.outline? = item.outline? := by
  cases item with
  | function f =>
    have hsignature : f.bare.signature = f.signature := signature_bare f.name f.inputs
    have hclass : f.bare.mutability.isRead = f.mutability.isRead := f.mutability.isRead_bare
    have houtline : f.bare.outline = f.outline := by
      unfold Function.outline
      rw [hsignature, hclass]
      rfl
    exact congrArg some houtline
  | event e =>
    have hsignature : e.bare.signature = e.signature := signature_bare e.name e.inputs
    have houtline : e.bare.outline = e.outline := by
      unfold Event.outline
      rw [hsignature]
      rfl
    exact congrArg some houtline
  | error e => rfl
  | special role f => rfl

theorem outlines_bareItems (items : List Item) : outlines (bareItems items) = outlines items := by
  unfold outlines bareItems
  rw [List.filterMap_filterMap]
  exact List.filterMap_congr fun i _ => outline?_bare i

end ContractHooks.Abi
