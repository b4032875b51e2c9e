-- Which interfaces can be read at all. Only a tuple is read with components, and only what stands
-- directly among the inputs of an event is read as indexed. Nothing else is left out: an interface
-- that keeps to these two rules can be written as a value, and is read back from it.
import ContractHooks.Proofs.Abi.Grammar

namespace ContractHooks.Abi

/-! ## The two rules -/

/-- A parameter lies in another if it is one of its components or lies in one of these. -/
inductive Parameter.LiesIn : Parameter → Parameter → Prop
  | component {p q : Parameter} {cs : List Parameter} :
      q.components = some cs → p ∈ cs → LiesIn p q
  | deeper {p c q : Parameter} {cs : List Parameter} :
      q.components = some cs → c ∈ cs → LiesIn p c → LiesIn p q

/-- At every depth of a parameter only a tuple has components, and no component is indexed. -/
structure Parameter.Regular (q : Parameter) : Prop where
  tuple : ∀ p : Parameter, p = q ∨ p.LiesIn q → p.components ≠ none →
    ∃ suffix, p.type = "tuple" ++ suffix
  unindexed : ∀ p : Parameter, p.LiesIn q → p.indexed = false

/-- The parameters that an entry lists itself. -/
def Item.parameters : Item → List Parameter
  | .function f | .special _ f => f.inputs ++ f.outputs
  | .event e => e.inputs
  | .error e => e.inputs

/-- The parameters of an entry keep to the rules, and only those of an event are indexed. -/
structure Item.Regular (item : Item) : Prop where
  parameters : ∀ p ∈ item.parameters, p.Regular
  indexed : ∀ p ∈ item.parameters, p.indexed = true → ∃ e, item = .event e

/-- A parameter keeps to the rules where its components do and it is a tuple if it has some. -/
theorem Parameter.regular_iff {q : Parameter} :
    q.Regular ↔ ∀ cs, q.components = some cs →
      isTuple q.type = true ∧ ∀ c ∈ cs, c.indexed = false ∧ c.Regular := by
  constructor
  · intro h cs hcs
    refine ⟨isTuple_iff.2 (h.tuple q (.inl rfl) (by simp [hcs])), fun c hc => ?_⟩
    refine ⟨h.unindexed c (.component hcs hc), ⟨fun p hp => ?_, fun p hp => ?_⟩⟩
    · refine h.tuple p (.inr ?_)
      rcases hp with rfl | hp
      · exact .component hcs hc
      · exact .deeper hcs hc hp
    · exact h.unindexed p (.deeper hcs hc hp)
  · intro h
    refine ⟨fun p hp hne => ?_, fun p hp => ?_⟩
    · rcases hp with rfl | hp
      · obtain ⟨cs, hcs⟩ := Option.ne_none_iff_exists'.1 hne
        exact isTuple_iff.1 (h cs hcs).1
      · cases hp with
        | component hcs hp => exact ((h _ hcs).2 p hp).2.tuple p (.inl rfl) hne
        | deeper hcs hc hp => exact ((h _ hcs).2 _ hc).2.tuple p (.inr hp) hne
    · cases hp with
      | component hcs hp => exact ((h _ hcs).2 p hp).1
      | deeper hcs hc hp => exact ((h _ hcs).2 _ hc).2.unindexed p hp

/-! ## What is read -/

/-- A parameter that is read keeps to the rules, and is indexed only if it may be. -/
theorem Parameter.regular_of_ofJson {ofEvent : Bool} {j : Json} {p : Parameter}
    (h : Parameter.ofJson ofEvent j = .ok p) : p.Regular ∧ (p.indexed = true → ofEvent = true) := by
  rw [Parameter.ofJson_eq_told] at h
  split at h
  · cases h
  · next type htype =>
    obtain ⟨components, hread, rfl⟩ := bind_pure_eq_ok.1 h
    refine ⟨Parameter.regular_iff.2 fun cs hcs => ?_, fun hindexed => ?_⟩
    · obtain rfl : components = some cs := hcs
      obtain ⟨htuple, js, hlist, hjs⟩ := componentsOf_eq_some_iff.1 hread
      refine ⟨htuple, fun c hc => ?_⟩
      obtain ⟨i, hi, hread⟩ := exists_of_mem_mapM hjs hc
      obtain ⟨hregular, hindexed⟩ := Parameter.regular_of_ofJson hread
      refine ⟨?_, hregular⟩
      simpa using hindexed
    · have hboth : (ofEvent && j.flagAt "indexed") = true := hindexed
      exact (Bool.and_eq_true_iff.1 hboth).1
termination_by sizeOf j
decreasing_by exact Json.sizeOf_lt_of_listAt? hlist hi

theorem regular_of_parametersAt {j : Json} {key : String} {ofEvent : Bool} {ps : List Parameter}
    (h : parametersAt j key ofEvent = .ok ps) {p : Parameter} (hp : p ∈ ps) :
    p.Regular ∧ (p.indexed = true → ofEvent = true) := by
  unfold parametersAt at h
  split at h
  · cases h
    cases hp
  · obtain ⟨i, -, hread⟩ := exists_of_mem_mapM h hp
    exact Parameter.regular_of_ofJson hread

section Entries

variable {j : Json} {item : Item}

/-- The parameters of a function are read from lists of the value. -/
theorem parameters_of_functionNamed {name : String} {f : Function}
    (h : functionNamed name j = .ok f) :
    ∀ p ∈ f.inputs ++ f.outputs, ∃ key ps, parametersAt j key false = .ok ps ∧ p ∈ ps := by
  obtain ⟨inputs, hinputs, h⟩ := bind_eq_ok.1 h
  obtain ⟨outputs, houtputs, h⟩ := bind_eq_ok.1 h
  obtain ⟨m, -, h⟩ := bind_eq_ok.1 h
  cases h
  intro p hp
  rcases List.mem_append.1 hp with hp | hp
  · exact ⟨"inputs", inputs, hinputs, hp⟩
  · exact ⟨"outputs", outputs, houtputs, hp⟩

/-- The parameters of an entry are read from lists of the value, as those of an event where the
entry is one. -/
theorem parameters_of_ofJson? (h : Item.ofJson? j = .ok (some item)) :
    ∀ p ∈ item.parameters, ∃ key ofEvent ps, parametersAt j key ofEvent = .ok ps ∧ p ∈ ps ∧
      (ofEvent = true → ∃ e, item = .event e) := by
  have hplain {f : Function} (hf : ∀ p ∈ f.inputs ++ f.outputs,
      ∃ key ps, parametersAt j key false = .ok ps ∧ p ∈ ps) {i : Item} :
      ∀ p ∈ f.inputs ++ f.outputs, ∃ key ofEvent ps, parametersAt j key ofEvent = .ok ps ∧
        p ∈ ps ∧ (ofEvent = true → ∃ e, i = .event e) := by
    intro p hp
    obtain ⟨key, ps, hread, hmem⟩ := hf p hp
    exact ⟨key, false, ps, hread, hmem, fun hfalse => by cases hfalse⟩
  unfold Item.ofJson? at h
  split at h
  · obtain ⟨f, hf, heq⟩ := bind_pure_eq_ok.1 h
    cases heq
    unfold Function.ofJson at hf
    split at hf
    · cases hf
    · exact hplain (parameters_of_functionNamed hf)
  · obtain ⟨e, he, heq⟩ := bind_pure_eq_ok.1 h
    cases heq
    unfold Event.ofJson at he
    split at he
    · cases he
    · obtain ⟨inputs, hinputs, rfl⟩ := bind_pure_eq_ok.1 he
      exact fun p hp => ⟨"inputs", true, inputs, hinputs, hp, fun _ => ⟨_, rfl⟩⟩
  · obtain ⟨e, he, heq⟩ := bind_pure_eq_ok.1 h
    cases heq
    unfold ErrorCase.ofJson at he
    split at he
    · cases he
    · obtain ⟨inputs, hinputs, rfl⟩ := bind_pure_eq_ok.1 he
      exact fun p hp => ⟨"inputs", false, inputs, hinputs, hp, fun hfalse => by cases hfalse⟩
  · obtain ⟨f, hf, heq⟩ := bind_pure_eq_ok.1 h
    cases heq
    exact hplain (parameters_of_functionNamed hf)
  · cases h

/-- An entry that is read keeps to the rules. -/
theorem Item.regular_of_ofJson? (h : Item.ofJson? j = .ok (some item)) : item.Regular := by
  refine ⟨fun p hp => ?_, fun p hp hindexed => ?_⟩
  all_goals
    obtain ⟨key, ofEvent, ps, hread, hmem, hevent⟩ := parameters_of_ofJson? h p hp
    obtain ⟨hregular, hallowed⟩ := regular_of_parametersAt hread hmem
  · exact hregular
  · exact hevent (hallowed hindexed)

end Entries

/-! ## What is written -/

/-- The members that tell a parameter, but for its components. -/
def toldMembers (name type : String) (internalType : Option String) (indexed : Bool) :
    List (String × Json) :=
  [("name", .text name), ("type", .text type), ("indexed", .bool indexed)] ++
    (internalType.map fun t => ("internalType", Json.text t)).toList

mutual

/-- A value that tells a parameter. -/
def Parameter.toJson : Parameter → Json
  | ⟨name, type, internalType, some components, indexed⟩ =>
    .object (("components", .list (parametersToJson components)) ::
      toldMembers name type internalType indexed)
  | ⟨name, type, internalType, none, indexed⟩ =>
    .object (toldMembers name type internalType indexed)

/-- Values that tell parameters. -/
def parametersToJson : List Parameter → List Json
  | [] => []
  | p :: ps => p.toJson :: parametersToJson ps

end

/-- A value that tells a function in the word for what it is. -/
def Function.toJson (f : Function) (word : String) : Json :=
  .object [("type", .text word), ("name", .text f.name),
    ("inputs", .list (parametersToJson f.inputs)), ("outputs", .list (parametersToJson f.outputs)),
    ("stateMutability", .text f.mutability.word)]

/-- A value that tells an entry. -/
def Item.toJson : Item → Json
  | .function f => f.toJson "function"
  | .event e =>
    .object [("type", .text "event"), ("name", .text e.name),
      ("inputs", .list (parametersToJson e.inputs)), ("anonymous", .bool e.anonymous)]
  | .error e =>
    .object [("type", .text "error"), ("name", .text e.name),
      ("inputs", .list (parametersToJson e.inputs))]
  | .special role f => f.toJson role.word

/-- A value that tells an interface. -/
def toJson (items : List Item) : Json := .list (items.map Item.toJson)

/-- What stands under the keys of a value that tells a parameter. -/
theorem Parameter.get?_toJson (p : Parameter) :
    p.toJson.get? "name" = some (.text p.name) ∧ p.toJson.get? "type" = some (.text p.type) ∧
      p.toJson.get? "indexed" = some (.bool p.indexed) ∧
      p.toJson.get? "internalType" = p.internalType.map Json.text ∧
      p.toJson.get? "components" = p.components.map fun cs => .list (parametersToJson cs) := by
  obtain ⟨name, type, internalType, components, indexed⟩ := p
  cases components <;> cases internalType <;>
    simp [Parameter.toJson, toldMembers, Json.get?]

/-- What is read under the keys of a value that tells a function. -/
theorem Function.at_toJson (f : Function) (word : String) :
    (f.toJson word).textAt? "type" = some word ∧ (f.toJson word).textAt? "name" = some f.name ∧
      (f.toJson word).listAt? "inputs" = some (parametersToJson f.inputs) ∧
      (f.toJson word).listAt? "outputs" = some (parametersToJson f.outputs) ∧
      (f.toJson word).textAt? "stateMutability" = some f.mutability.word := by
  simp [Function.toJson, Json.textAt?, Json.listAt?, Json.get?, Json.text?, Json.list?]

/-- What is read under the keys of a value that tells an event. -/
theorem Event.at_toJson (e : Event) :
    (Item.event e).toJson.textAt? "type" = some "event" ∧
      (Item.event e).toJson.textAt? "name" = some e.name ∧
      (Item.event e).toJson.listAt? "inputs" = some (parametersToJson e.inputs) ∧
      (Item.event e).toJson.flagAt "anonymous" = e.anonymous := by
  cases h : e.anonymous <;>
    simp [Item.toJson, Json.textAt?, Json.listAt?, Json.flagAt, Json.get?, Json.text?, Json.list?,
      Json.bool?, h]

/-- What is read under the keys of a value that tells an error. -/
theorem ErrorCase.at_toJson (e : ErrorCase) :
    (Item.error e).toJson.textAt? "type" = some "error" ∧
      (Item.error e).toJson.textAt? "name" = some e.name ∧
      (Item.error e).toJson.listAt? "inputs" = some (parametersToJson e.inputs) := by
  simp [Item.toJson, Json.textAt?, Json.listAt?, Json.get?, Json.text?, Json.list?]

theorem Parameter.told_toJson {ofEvent : Bool} {p : Parameter}
    (h : p.indexed = true → ofEvent = true) :
    Parameter.told ofEvent p.toJson p.type p.components = p := by
  obtain ⟨hname, -, hindexed, hinternal, -⟩ := p.get?_toJson
  obtain ⟨name, type, internalType, components, indexed⟩ := p
  have hflag : (ofEvent && indexed) = indexed := by
    cases indexed with
    | false => exact Bool.and_false _
    | true => simpa using h rfl
  unfold Parameter.told Json.textAt? Json.flagAt
  rw [hname, hinternal, hindexed]
  cases internalType <;> cases indexed <;> simp_all [Json.text?, Json.bool?]

mutual

/-- A parameter that keeps to the rules is read back from what tells it. -/
theorem Parameter.ofJson_toJson (p : Parameter) {ofEvent : Bool} (h : p.Regular)
    (hindexed : p.indexed = true → ofEvent = true) : Parameter.ofJson ofEvent p.toJson = .ok p := by
  have htype : p.toJson.textAt? "type" = some p.type := by
    rw [Json.textAt?, p.get?_toJson.2.1]
    rfl
  have hcomponents : componentsOf p.type p.toJson = .ok p.components := by
    have hlist : p.toJson.listAt? "components" = p.components.map parametersToJson := by
      rw [Json.listAt?, p.get?_toJson.2.2.2.2]
      cases p.components <;> rfl
    match p with
    | ⟨_, _, _, none, _⟩ =>
      unfold componentsOf
      rw [hlist]
      split <;> rfl
    | ⟨_, type, _, some cs, _⟩ =>
      obtain ⟨htuple, hcs⟩ := Parameter.regular_iff.1 h cs rfl
      refine componentsOf_eq_some_iff.2 ⟨htuple, parametersToJson cs, hlist, ?_⟩
      exact ofJson_parametersToJson cs fun c hc =>
        ⟨(hcs c hc).2, fun hindexed => by rw [(hcs c hc).1] at hindexed; cases hindexed⟩
  rw [Parameter.ofJson_eq_told, htype]
  dsimp only
  rw [hcomponents]
  exact congrArg Except.ok (Parameter.told_toJson hindexed)

theorem ofJson_parametersToJson (ps : List Parameter) {ofEvent : Bool}
    (h : ∀ p ∈ ps, p.Regular ∧ (p.indexed = true → ofEvent = true)) :
    (parametersToJson ps).mapM (Parameter.ofJson ofEvent) = .ok ps := by
  match ps with
  | [] => rfl
  | p :: ps =>
    obtain ⟨hp, hps⟩ := List.forall_mem_cons.1 h
    rw [parametersToJson, List.mapM_cons, Parameter.ofJson_toJson p hp.1 hp.2,
      ofJson_parametersToJson ps hps]
    rfl

end

section Written

variable {j : Json} {key : String} {ofEvent : Bool} {ps : List Parameter}

theorem parametersAt_of_listed (hlist : j.listAt? key = some (parametersToJson ps))
    (h : ∀ p ∈ ps, p.Regular ∧ (p.indexed = true → ofEvent = true)) :
    parametersAt j key ofEvent = .ok ps := by
  rw [parametersAt, hlist]
  exact ofJson_parametersToJson ps h

/-- A function whose parameters keep to the rules is read back under its name. -/
theorem functionNamed_toJson (f : Function) (word : String)
    (h : ∀ p ∈ f.inputs ++ f.outputs, p.Regular ∧ (p.indexed = true → false = true)) :
    functionNamed f.name (f.toJson word) = .ok f := by
  obtain ⟨-, -, hin, hout, hword⟩ := f.at_toJson word
  have hinputs : parametersAt (f.toJson word) "inputs" false = .ok f.inputs :=
    parametersAt_of_listed hin fun p hp => h p (List.mem_append_left _ hp)
  have houtputs : parametersAt (f.toJson word) "outputs" false = .ok f.outputs :=
    parametersAt_of_listed hout fun p hp => h p (List.mem_append_right _ hp)
  have hmutability : mutabilityOf (f.toJson word) = .ok f.mutability := by
    unfold mutabilityOf
    simp only [hword, Mutability.ofWord?_word]
  rw [functionNamed, hinputs, houtputs, hmutability]
  rfl

/-- An entry that keeps to the rules is read back from what tells it. -/
theorem Item.ofJson?_toJson {item : Item} (h : item.Regular) :
    Item.ofJson? item.toJson = .ok (some item) := by
  have hplain (hno : ¬ ∃ e, item = .event e) :
      ∀ p ∈ item.parameters, p.Regular ∧ (p.indexed = true → false = true) :=
    fun p hp => ⟨h.parameters p hp, fun hindexed => absurd (h.indexed p hp hindexed) hno⟩
  cases item with
  | function f =>
    obtain ⟨htype, hname, -⟩ := f.at_toJson "function"
    have hread := functionNamed_toJson f "function" (hplain (by simp))
    have hfunction : EntryType.ofWord (some "function") = .function := rfl
    unfold Item.toJson Item.ofJson? Function.ofJson
    simp only [htype, hfunction, hname, hread]
    rfl
  | special role f =>
    obtain ⟨htype, hname, -⟩ := f.at_toJson role.word
    have hread := functionNamed_toJson f role.word (hplain (by simp))
    have hrole : EntryType.ofWord (some role.word) = .special role := by
      cases role <;> rfl
    unfold Item.toJson Item.ofJson? Role.functionOfJson
    simp only [htype, hrole, hname, Option.getD_some, hread]
    rfl
  | event e =>
    obtain ⟨htype, hname, hlist, hanonymous⟩ := e.at_toJson
    have hinputs : parametersAt (Item.event e).toJson "inputs" true = .ok e.inputs :=
      parametersAt_of_listed hlist fun p hp => ⟨h.parameters p hp, fun _ => rfl⟩
    have hevent : EntryType.ofWord (some "event") = .event := rfl
    unfold Item.ofJson? Event.ofJson
    simp only [htype, hevent, hname, hinputs, hanonymous]
    rfl
  | error e =>
    obtain ⟨htype, hname, hlist⟩ := e.at_toJson
    have hinputs : parametersAt (Item.error e).toJson "inputs" false = .ok e.inputs :=
      parametersAt_of_listed hlist (hplain (by simp))
    have herror : EntryType.ofWord (some "error") = .error := rfl
    unfold Item.ofJson? ErrorCase.ofJson
    simp only [htype, herror, hname, hinputs]
    rfl

end Written

/-- An interface whose entries keep to the rules is read back from what tells it. -/
theorem ofJson_toJson {items : List Item} (h : ∀ item ∈ items, item.Regular) :
    ofJson (toJson items) = .ok items := by
  induction items with
  | nil => rfl
  | cons item items ih =>
    obtain ⟨hitem, hitems⟩ := List.forall_mem_cons.1 h
    show itemsOfJson (item.toJson :: items.map Item.toJson) = _
    have hrest : itemsOfJson (items.map Item.toJson) = .ok items := ih hitems
    rw [itemsOfJson, Item.ofJson?_toJson hitem, hrest]
    rfl

/-! ## The law -/

/-- The interfaces that are read from values are those whose entries keep to two rules. Of their
parameters, at every depth, only those have components whose type starts with `tuple`; and none is
indexed but those that an event lists itself as its inputs, so that no component is. -/
theorem an_interface_is_read_just_where_it_keeps_the_rules (items : List Item) :
    (∃ v, ofJson v = .ok items) ↔ ∀ item ∈ items,
      (∀ q ∈ item.parameters, ∀ p : Parameter, p = q ∨ p.LiesIn q → p.components ≠ none →
        ∃ suffix, p.type = "tuple" ++ suffix) ∧
      (∀ q ∈ item.parameters, q.indexed = true → ∃ e, item = .event e) ∧
      ∀ q ∈ item.parameters, ∀ p : Parameter, p.LiesIn q → p.indexed = false := by
  have hrules (item : Item) : item.Regular ↔
      (∀ q ∈ item.parameters, ∀ p : Parameter, p = q ∨ p.LiesIn q → p.components ≠ none →
        ∃ suffix, p.type = "tuple" ++ suffix) ∧
      (∀ q ∈ item.parameters, q.indexed = true → ∃ e, item = .event e) ∧
      ∀ q ∈ item.parameters, ∀ p : Parameter, p.LiesIn q → p.indexed = false :=
    ⟨fun h => ⟨fun q hq => (h.parameters q hq).tuple, h.indexed,
        fun q hq => (h.parameters q hq).unindexed⟩,
      fun ⟨htuple, hindexed, hnested⟩ => ⟨fun q hq => ⟨htuple q hq, hnested q hq⟩, hindexed⟩⟩
  simp only [← hrules]
  constructor
  · rintro ⟨v, hv⟩ item hitem
    unfold ofJson at hv
    split at hv
    · cases hv
    · rw [itemsOfJson_eq_mapM] at hv
      obtain ⟨os, hos, rfl⟩ := bind_pure_eq_ok.1 hv
      obtain ⟨j, -, hread⟩ := exists_of_mem_mapM hos (List.reduceOption_mem_iff.1 hitem)
      exact Item.regular_of_ofJson? hread
  · intro h
    exact ⟨toJson items, ofJson_toJson h⟩

end ContractHooks.Abi
