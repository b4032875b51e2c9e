-- What reading an interface takes no notice of. Of an entry and of a parameter some keys are used,
-- each for a text, a flag or a list; the rest can be left out, and so can a value of another form,
-- and whatever is listed below what is left out. The laws say that a value and what is left of it
-- are read alike, be it as an interface or as the same first error.
import ContractHooks.Proofs.Abi.Grammar

namespace ContractHooks

namespace Json

/-! ## Objects with members left out -/

/-- What a key is used for. -/
inductive Form
  | text
  | flag
  | list
  deriving Repr, DecidableEq

/-- Whether a value has a form. -/
def Form.fits : Form → Json → Bool
  | .text, j => j.text?.isSome
  | .flag, j => j.bool?.isSome
  | .list, j => j.list?.isSome

/-- A value with its items changed, if it is a list. -/
def mapItems (change : Json → Json) : Json → Json
  | .list items => .list (items.map change)
  | j => j

/-- Whether a key is used and holds a value of the form that it is used for. -/
def fitsAt (keys : List (String × Form)) (j : Json) (key : String) : Bool :=
  (keys.lookup key).any fun form => (j.get? key).any form.fits

/-- The object that is left where every other key is removed, with the items of its lists changed.
Of a value that is no object the empty one is left. -/
def only (keys : List (String × Form)) (change : String → Json → Json) : Json → Json
  | .object members =>
    .object ((members.map fun m => (m.1, m.2.mapItems (change m.1))).filter fun m =>
      fitsAt keys (.object members) m.1)
  | _ => .object []

/-- The value without the members of some keys. -/
def without (keys : List String) : Json → Json
  | .object members => .object (members.filter fun m => m.1 ∉ keys)
  | j => j

theorem lookup_filter (keeps : String → Bool) (key : String) (members : List (String × Json)) :
    lookup key (members.filter fun m => keeps m.1) =
      if keeps key then lookup key members else none := by
  induction members with
  | nil => simp
  | cons m rest ih =>
    obtain ⟨k, v⟩ := m
    by_cases hk : k = key
    · subst hk
      cases hkeeps : keeps k <;> simp [hkeeps, ih]
    · cases hkeeps : keeps k <;> simp [hkeeps, ih, hk]

theorem lookup_map (change : String → Json → Json) (key : String)
    (members : List (String × Json)) :
    lookup key (members.map fun m => (m.1, change m.1 m.2)) =
      (lookup key members).map (change key) := by
  induction members with
  | nil => rfl
  | cons m rest ih =>
    obtain ⟨k, v⟩ := m
    rw [List.map_cons, lookup_cons, lookup_cons, ih]
    by_cases hk : k = key
    · subst hk
      cases lookup k rest <;> simp
    · cases lookup key rest <;> simp [hk]

section Only

variable (keys : List (String × Form)) (change : String → Json → Json) (j : Json) {key : String}

theorem get?_only (key : String) :
    (j.only keys change).get? key =
      if fitsAt keys j key then (j.get? key).map (mapItems (change key)) else none := by
  cases j with
  | object members =>
    show lookup key (List.filter _ _) = _
    rw [lookup_filter (fitsAt keys (.object members)),
      lookup_map fun key => mapItems (change key)]
    rfl
  | null | bool b | number n | text s | list items => simp [only, get?, fitsAt]

/-- A key that is used for a text keeps it. -/
theorem textAt?_only (h : keys.lookup key = some .text) :
    (j.only keys change).textAt? key = j.textAt? key := by
  unfold textAt?
  rw [get?_only, fitsAt, h]
  cases j.get? key with
  | none => rfl
  | some v => cases v <;> rfl

/-- A key that is used for a flag keeps it. -/
theorem flagAt_only (h : keys.lookup key = some .flag) :
    (j.only keys change).flagAt key = j.flagAt key := by
  unfold flagAt
  rw [get?_only, fitsAt, h]
  cases j.get? key with
  | none => rfl
  | some v => cases v <;> rfl

/-- A key that is used for a list keeps it, with its items changed. -/
theorem listAt?_only (h : keys.lookup key = some .list) :
    (j.only keys change).listAt? key = (j.listAt? key).map (List.map (change key)) := by
  unfold listAt?
  rw [get?_only, fitsAt, h]
  cases j.get? key with
  | none => rfl
  | some v => cases v <;> rfl

end Only

theorem get?_without (keys : List String) (j : Json) (key : String) :
    (j.without keys).get? key = if key ∈ keys then none else j.get? key := by
  cases j with
  | object members =>
    show lookup key (List.filter _ _) = _
    rw [lookup_filter fun k => decide (k ∉ keys)]
    by_cases h : key ∈ keys <;> simp [h, get?]
  | null | bool b | number n | text s | list items => simp [without, get?]

end Json

namespace Abi

/-! ## Parameters -/

open Json (Form)

/-- The keys that are used of a parameter. A parameter is not indexed unless an event lists it
itself. -/
def parameterKeys (direct : Bool) (j : Json) : List (String × Form) :=
  [("name", .text), ("type", .text), ("internalType", .text)]
    ++ (if (j.textAt? "type").any isTuple then [("components", .list)] else [])
    ++ (if direct then [("indexed", .flag)] else [])

mutual

/-- A parameter with what is used of it, at every depth. -/
def cleanParameter (direct : Bool) : Json → Json
  | .object members =>
    .object ((cleanMembers members).filter fun m =>
      Json.fitsAt (parameterKeys direct (.object members)) (.object members) m.1)
  | _ => .object []

/-- Members with the parameters that they list cleaned. -/
def cleanMembers : List (String × Json) → List (String × Json)
  | [] => []
  | (key, value) :: rest => (key, cleanListed value) :: cleanMembers rest

/-- A value with the parameters that it lists cleaned. -/
def cleanListed : Json → Json
  | .list items => .list (cleanParameters items)
  | j => j

/-- Parameters that are listed as components, cleaned. -/
def cleanParameters : List Json → List Json
  | [] => []
  | j :: js => cleanParameter false j :: cleanParameters js

end

theorem cleanParameters_eq_map (js : List Json) :
    cleanParameters js = js.map (cleanParameter false) := by
  induction js with
  | nil => rfl
  | cons j js ih => rw [cleanParameters, ih, List.map_cons]

theorem cleanMembers_eq_map (members : List (String × Json)) :
    cleanMembers members = members.map fun m => (m.1, m.2.mapItems (cleanParameter false)) := by
  induction members with
  | nil => rfl
  | cons m rest ih =>
    obtain ⟨key, value⟩ := m
    rw [cleanMembers, ih, List.map_cons]
    congr 2
    cases value <;> simp [cleanListed, Json.mapItems, cleanParameters_eq_map]

/-- Of a parameter that is cleaned the keys that are used are left, with its components cleaned. -/
theorem cleanParameter_eq_only (direct : Bool) (j : Json) :
    cleanParameter direct j =
      j.only (parameterKeys direct j) fun _ => cleanParameter false := by
  cases j with
  | object members => rw [cleanParameter, cleanMembers_eq_map, Json.only]
  | null | bool b | number n | text s | list items => rfl

theorem textAt?_cleanParameter (direct : Bool) (j : Json) {key : String}
    (h : (parameterKeys direct j).lookup key = some .text) :
    (cleanParameter direct j).textAt? key = j.textAt? key := by
  rw [cleanParameter_eq_only]
  exact Json.textAt?_only _ _ j h

theorem indexed_cleanParameter (direct : Bool) (j : Json) :
    (direct && (cleanParameter direct j).flagAt "indexed") = (direct && j.flagAt "indexed") := by
  cases direct with
  | false => rfl
  | true =>
    have hkeys : (parameterKeys true j).lookup "indexed" = some .flag := by
      cases h : (j.textAt? "type").any isTuple <;> simp [parameterKeys, h, List.lookup_cons]
    rw [cleanParameter_eq_only, Json.flagAt_only _ _ j hkeys]

/-- Of a tuple the components are left, and each of them is cleaned. -/
theorem components_cleanParameter (direct : Bool) (j : Json) {type : String}
    (htype : j.textAt? "type" = some type) (htuple : isTuple type = true) :
    (cleanParameter direct j).listAt? "components" =
      (j.listAt? "components").map (List.map (cleanParameter false)) := by
  have hkeys : (parameterKeys direct j).lookup "components" = some .list := by
    simp [parameterKeys, htype, htuple, List.lookup_cons]
  rw [cleanParameter_eq_only, Json.listAt?_only _ _ j hkeys]

theorem Parameter.told_cleanParameter (direct : Bool) (j : Json) :
    Parameter.told direct (cleanParameter direct j) = Parameter.told direct j := by
  funext type components
  have hname : (cleanParameter direct j).textAt? "name" = j.textAt? "name" :=
    textAt?_cleanParameter direct j rfl
  have hinternal : (cleanParameter direct j).textAt? "internalType" = j.textAt? "internalType" :=
    textAt?_cleanParameter direct j rfl
  unfold Parameter.told
  rw [hname, hinternal, indexed_cleanParameter]

/-- A parameter is read alike before and after it is cleaned. -/
theorem Parameter.ofJson_cleanParameter (ofEvent : Bool) (j : Json) :
    Parameter.ofJson ofEvent (cleanParameter ofEvent j) = Parameter.ofJson ofEvent j := by
  have htype : (cleanParameter ofEvent j).textAt? "type" = j.textAt? "type" :=
    textAt?_cleanParameter ofEvent j rfl
  have hcomponents (type : String) (h : j.textAt? "type" = some type) :
      componentsOf type (cleanParameter ofEvent j) = componentsOf type j := by
    unfold componentsOf
    split
    · next htuple =>
      rw [components_cleanParameter ofEvent j h htuple]
      cases hlist : j.listAt? "components" with
      | none => rfl
      | some cs =>
        have hcs : (cs.map (cleanParameter false)).mapM (Parameter.ofJson false) =
            cs.mapM (Parameter.ofJson false) := by
          rw [List.mapM_map]
          exact mapM_congr fun c hc => Parameter.ofJson_cleanParameter false c
        dsimp only [Option.map_some]
        rw [hcs]
    · rfl
  rw [Parameter.ofJson_eq_told, Parameter.ofJson_eq_told, htype, Parameter.told_cleanParameter]
  cases h : j.textAt? "type" with
  | none => rfl
  | some type => simp only [hcomponents type h]
termination_by sizeOf j
decreasing_by exact Json.sizeOf_lt_of_listAt? hlist hc

/-! ## Entries -/

/-- The keys that are used of an entry, by the word for what it is. Of an event or an error nothing
is used that only a function has. -/
def entryKeys (word : String) : List (String × Form) :=
  [("type", .text), ("name", .text), ("inputs", .list), ("anonymous", .flag)]
    ++ if word ∈ ["event", "error"] then []
       else [("outputs", .list), ("stateMutability", .text), ("constant", .flag),
         ("payable", .flag)]

/-- An entry with what is used of it. -/
def cleanEntry (j : Json) : Json :=
  j.only (entryKeys (entryWord j)) fun key =>
    cleanParameter (key == "inputs" && entryWord j == "event")

/-- An entry without the two older flags, if it tells its mutability in a word. -/
def dropOldFlags (j : Json) : Json :=
  if (j.textAt? "stateMutability").isSome then j.without ["constant", "payable"] else j

/-- Two values agree in all that is read of an entry. -/
structure AgreeAsEntries (j k : Json) : Prop where
  type : k.textAt? "type" = j.textAt? "type"
  name : k.textAt? "name" = j.textAt? "name"
  anonymous : k.flagAt "anonymous" = j.flagAt "anonymous"
  inputs : parametersAt k "inputs" (entryWord j == "event") =
    parametersAt j "inputs" (entryWord j == "event")
  outputs : entryWord j ∉ ["event", "error"] →
    parametersAt k "outputs" false = parametersAt j "outputs" false
  mutability : entryWord j ∉ ["event", "error"] → mutabilityOf k = mutabilityOf j

/-- Values that agree are read as the same entry, or fail alike. -/
theorem Item.ofJson?_of_agree {j k : Json} (h : AgreeAsEntries j k) :
    Item.ofJson? k = Item.ofJson? j := by
  have hfunction (hword : entryWord j ∉ ["event", "error"]) (name : String) :
      functionNamed name k = functionNamed name j := by
    have hinputs := h.inputs
    have hevent : (entryWord j == "event") = false := by
      simp only [List.mem_cons, not_or] at hword
      simpa using hword.1
    rw [hevent] at hinputs
    rw [functionNamed, functionNamed, hinputs, h.outputs hword, h.mutability hword]
  unfold Item.ofJson?
  rw [h.type]
  rcases entryType_cases j with ⟨hword, htype⟩ | ⟨hword, htype⟩ | ⟨hword, htype⟩ |
      ⟨role, hword, htype⟩ | ⟨hunknown, htype⟩ <;> rw [htype]
  · have hplain : entryWord j ∉ ["event", "error"] := by simp [hword]
    simp only [Function.ofJson, h.name, hfunction hplain]
  · have hinputs := h.inputs
    rw [hword, beq_self_eq_true] at hinputs
    simp only [Event.ofJson, h.name, hinputs, h.anonymous]
  · have hinputs := h.inputs
    have hevent : ("error" == "event") = false := by decide
    rw [hword, hevent] at hinputs
    simp only [ErrorCase.ofJson, h.name, hinputs]
  · have hplain : entryWord j ∉ ["event", "error"] := by
      rw [hword]
      cases role <;> decide
    simp only [Role.functionOfJson, h.name, hfunction hplain]

theorem parametersAt_cleanEntry {j : Json} (key : String)
    (h : (entryKeys (entryWord j)).lookup key = some .list) :
    parametersAt (cleanEntry j) key (key == "inputs" && entryWord j == "event") =
      parametersAt j key (key == "inputs" && entryWord j == "event") := by
  unfold parametersAt
  rw [cleanEntry, Json.listAt?_only _ _ j h]
  cases j.listAt? key with
  | none => rfl
  | some js =>
    show (js.map _).mapM _ = _
    rw [List.mapM_map]
    exact mapM_congr fun p _ => Parameter.ofJson_cleanParameter _ p

/-- An entry that is cleaned agrees with the one before. -/
theorem agree_cleanEntry (j : Json) : AgreeAsEntries j (cleanEntry j) where
  type := Json.textAt?_only _ _ j rfl
  name := Json.textAt?_only _ _ j rfl
  anonymous := Json.flagAt_only _ _ j rfl
  inputs := parametersAt_cleanEntry "inputs" rfl
  outputs hword := by
    apply parametersAt_cleanEntry "outputs"
    simp [entryKeys, hword, List.lookup_cons]
  mutability hword := by
    have hkeys : entryKeys (entryWord j) = [("type", .text), ("name", .text), ("inputs", .list),
        ("anonymous", .flag), ("outputs", .list), ("stateMutability", .text), ("constant", .flag),
        ("payable", .flag)] := by
      rw [entryKeys, if_neg hword]
      rfl
    have htext : (cleanEntry j).textAt? "stateMutability" = j.textAt? "stateMutability" :=
      Json.textAt?_only _ _ j (by rw [hkeys]; rfl)
    have hconstant : (cleanEntry j).flagAt "constant" = j.flagAt "constant" :=
      Json.flagAt_only _ _ j (by rw [hkeys]; rfl)
    have hpayable : (cleanEntry j).flagAt "payable" = j.flagAt "payable" :=
      Json.flagAt_only _ _ j (by rw [hkeys]; rfl)
    rw [mutabilityOf, mutabilityOf, htext, hconstant, hpayable]

/-- An entry without the older flags agrees with the one before. -/
theorem agree_dropOldFlags (j : Json) : AgreeAsEntries j (dropOldFlags j) := by
  unfold dropOldFlags
  split
  · next hword =>
    have hget {key : String} (h : key ∉ ["constant", "payable"]) :
        (j.without ["constant", "payable"]).get? key = j.get? key := by
      rw [Json.get?_without, if_neg h]
    have hlist {key : String} (h : key ∉ ["constant", "payable"]) (ofEvent : Bool) :
        parametersAt (j.without ["constant", "payable"]) key ofEvent =
          parametersAt j key ofEvent := by
      rw [parametersAt, parametersAt, Json.listAt?, Json.listAt?, hget h]
    refine ⟨?_, ?_, ?_, ?_, fun _ => ?_, fun _ => ?_⟩
    · rw [Json.textAt?, Json.textAt?, hget (by decide)]
    · rw [Json.textAt?, Json.textAt?, hget (by decide)]
    · rw [Json.flagAt, Json.flagAt, hget (by decide)]
    · exact hlist (by decide) _
    · exact hlist (by decide) _
    · obtain ⟨word, hword⟩ := Option.isSome_iff_exists.1 hword
      have htext : (j.without ["constant", "payable"]).textAt? "stateMutability" = some word := by
        rw [Json.textAt?, hget (by decide)]
        exact hword
      rw [mutabilityOf, mutabilityOf, htext, hword]
  · exact ⟨rfl, rfl, rfl, rfl, fun _ => rfl, fun _ => rfl⟩

/-! ## Interfaces -/

/-- A value with its entries changed: those that it lists itself or as its `abi`. -/
def mapEntries (change : Json → Json) : Json → Json
  | .list entries => .list (entries.map change)
  | .object members =>
    .object (members.map fun m => (m.1, if m.1 = "abi" then m.2.mapItems change else m.2))
  | j => j

theorem entries?_mapEntries (change : Json → Json) (v : Json) :
    entries? (mapEntries change v) = (entries? v).map (List.map change) := by
  cases v with
  | list entries => rfl
  | object members =>
    show (Json.get? (.object _) "abi").bind Json.list? = _
    rw [Json.get?, Json.lookup_map fun key w => if key = "abi" then w.mapItems change else w]
    show _ = (((Json.lookup "abi" members).bind Json.list?).map (List.map change))
    cases Json.lookup "abi" members with
    | none => rfl
    | some w => cases w <;> rfl
  | null | bool b | number n | text s => rfl

/-- Where each entry is read alike before and after a change, the interface is. -/
theorem ofJson_mapEntries {change : Json → Json}
    (h : ∀ j, Item.ofJson? (change j) = Item.ofJson? j) (v : Json) :
    ofJson (mapEntries change v) = ofJson v := by
  unfold ofJson
  rw [entries?_mapEntries]
  cases entries? v with
  | none => rfl
  | some js =>
    have hjs : js.mapM (Item.ofJson? ∘ change) = js.mapM Item.ofJson? := mapM_congr fun j _ => h j
    show itemsOfJson (js.map change) = itemsOfJson js
    rw [itemsOfJson_eq_mapM, itemsOfJson_eq_mapM, List.mapM_map, hjs]

/-! ## The law -/

/-- A value is read alike, as the same interface or as the same first error, if of its entries and
of their parameters at every depth only that is left which is used: the keys that are known, where
they hold a value of the form that they are used for, and of what is no object the empty object;
components only of a parameter whose type starts with `tuple`, `indexed` only of what an event lists
itself, and outputs and mutability not of events and errors. And where an entry tells its mutability
in a word, the two older flags can be left out. -/
theorem what_is_not_used_can_be_left_out (v : Json) :
    ofJson (mapEntries cleanEntry v) = ofJson v ∧
    ofJson (mapEntries dropOldFlags v) = ofJson v ∧
    ofJson (mapEntries dropOldFlags (mapEntries cleanEntry v)) = ofJson v := by
  have hclean : ofJson (mapEntries cleanEntry v) = ofJson v :=
    ofJson_mapEntries (fun j => Item.ofJson?_of_agree (agree_cleanEntry j)) v
  have hflags (w : Json) : ofJson (mapEntries dropOldFlags w) = ofJson w :=
    ofJson_mapEntries (fun j => Item.ofJson?_of_agree (agree_dropOldFlags j)) w
  exact ⟨hclean, hflags v, (hflags _).trans hclean⟩

-- Of an event no flag of a function is left, and of its inputs neither the components of a plain
-- type nor what is misspelled; where a list should be and is not, nothing is.
example : mapEntries cleanEntry (.list [.null, .object [("type", .text "event"),
      ("payable", .bool true), ("inputs", .list [.object [("type", .text "address"),
        ("components", .list [.null]), ("indexd", .bool true)]])],
      .object [("inputs", .text "none")]]) =
    .list [.object [], .object [("type", .text "event"),
      ("inputs", .list [.object [("type", .text "address")]])], .object []] := by
  rfl

end Abi

end ContractHooks
