-- Which values describe an interface. A list of entries is read entry by entry: what an entry has to
-- have is told here apart from how it is read, and so is the order in which what is missing is
-- told. Entries of an unknown type may hold anything. The laws say that an interface is read just
-- where every other entry is well formed, and otherwise fails as the first one that is not.
import ContractHooks.Abi.Reader
import ContractHooks.Proofs.Abi.Spelling
import ContractHooks.Proofs.Results
import Mathlib.Data.List.ReduceOption

namespace ContractHooks.Abi

/-! ## Parameters -/

/-- A value that describes a parameter: it has a text as its type and, if that starts with `tuple`,
the components that it lists describe parameters as well. -/
inductive IsParameter : Json → Prop
  | mk {j : Json} {type : String} : j.textAt? "type" = some type →
      (∀ suffix, type = "tuple" ++ suffix → ∀ cs, j.listAt? "components" = some cs →
        ∀ c ∈ cs, IsParameter c) →
      IsParameter j

/-- What is listed under a key, if there is a list, describes parameters. -/
def ListsParameters (j : Json) (key : String) : Prop :=
  ∀ ps, j.listAt? key = some ps → ∀ p ∈ ps, IsParameter p

theorem isTuple_iff {type : String} : isTuple type = true ↔ ∃ suffix, type = "tuple" ++ suffix := by
  unfold isTuple
  rw [Option.isSome_iff_exists]
  refine exists_congr fun suffix => ⟨type_of_tupleSuffix?, ?_⟩
  rintro rfl
  simp [tupleSuffix?]

/-- What is read of the components of a parameter: nothing, unless it is a tuple that lists some. -/
def componentsOf (type : String) (j : Json) : Except AbiFault (Option (List Parameter)) :=
  if isTuple type then
    match j.listAt? "components" with
    | none => .ok none
    | some cs => do return some (← cs.mapM (Parameter.ofJson false))
  else .ok none

/-- A parameter with a type and components, and with the rest as a value tells it. -/
def Parameter.told (ofEvent : Bool) (j : Json) (type : String)
    (components : Option (List Parameter)) : Parameter where
  name := (j.textAt? "name").getD ""
  type := type
  internalType := j.textAt? "internalType"
  components := components
  indexed := ofEvent && j.flagAt "indexed"

/-- Of a parameter the type is read first and then the components, and nothing else can fail. -/
theorem Parameter.ofJson_eq_told (ofEvent : Bool) (j : Json) :
    Parameter.ofJson ofEvent j =
      match j.textAt? "type" with
      | none => .error .untypedParameter
      | some type => do return Parameter.told ofEvent j type (← componentsOf type j) := by
  rw [Parameter.ofJson_eq]
  cases j.textAt? "type" with
  | none => rfl
  | some type =>
    dsimp only
    unfold componentsOf
    split
    · cases j.listAt? "components" with
      | none => rfl
      | some cs => cases hread : cs.mapM (Parameter.ofJson false) <;> simp only [hread] <;> rfl
    · rfl

theorem exists_componentsOf_iff {type : String} {j : Json} :
    (∃ components, componentsOf type j = .ok components) ↔
      (isTuple type = true → ∀ cs, j.listAt? "components" = some cs →
        ∀ c ∈ cs, ∃ p, Parameter.ofJson false c = .ok p) := by
  unfold componentsOf
  split
  · next htuple =>
    cases j.listAt? "components" with
    | none => simp
    | some cs =>
      simp only [bind_pure_eq_ok, htuple, forall_const, Option.some.injEq, forall_eq',
        ← exists_mapM_eq_ok_iff]
      exact ⟨fun ⟨_, ps, hps, _⟩ => ⟨ps, hps⟩, fun ⟨ps, hps⟩ => ⟨_, ps, hps, rfl⟩⟩
  · next htuple => simp [htuple]

theorem componentsOf_eq_some_iff {type : String} {j : Json} {cs : List Parameter} :
    componentsOf type j = .ok (some cs) ↔
      isTuple type = true ∧ ∃ js, j.listAt? "components" = some js ∧
        js.mapM (Parameter.ofJson false) = .ok cs := by
  unfold componentsOf
  split
  · next htuple =>
    cases j.listAt? "components" with
    | none => simp
    | some js =>
      simp only [htuple, bind_pure_eq_ok, Option.some.injEq, exists_eq_right, true_and,
        exists_eq_left']
  · next htuple => simp [htuple]

theorem componentsOf_eq_error {type : String} {j : Json} {e : AbiFault}
    (h : componentsOf type j = .error e) :
    ∃ cs, j.listAt? "components" = some cs ∧ ∃ c ∈ cs, Parameter.ofJson false c = .error e := by
  unfold componentsOf at h
  split at h
  · split at h
    · cases h
    · next cs hlist =>
      obtain ⟨before, c, after, rfl, -, hc⟩ := mapM_eq_error_iff.1 (bind_pure_eq_error.1 h)
      exact ⟨_, hlist, c, List.mem_append_right before List.mem_cons_self, hc⟩
  · cases h

/-- A parameter is read just from what describes one. -/
theorem Parameter.exists_ofJson_iff (ofEvent : Bool) (j : Json) :
    (∃ p, Parameter.ofJson ofEvent j = .ok p) ↔ IsParameter j := by
  have hcomponents : ∀ cs, j.listAt? "components" = some cs →
      ((∀ c ∈ cs, ∃ p, Parameter.ofJson false c = .ok p) ↔ ∀ c ∈ cs, IsParameter c) :=
    fun cs hlist => forall₂_congr fun c hc => Parameter.exists_ofJson_iff false c
  rw [Parameter.ofJson_eq_told]
  constructor
  · rintro ⟨p, hp⟩
    split at hp
    · cases hp
    · next type htype =>
      obtain ⟨components, hread, -⟩ := bind_pure_eq_ok.1 hp
      refine .mk htype fun suffix hsuffix cs hlist => (hcomponents cs hlist).1 ?_
      exact exists_componentsOf_iff.1 ⟨components, hread⟩ (isTuple_iff.2 ⟨suffix, hsuffix⟩) cs hlist
  · rintro ⟨htype, hdescribed⟩
    rw [htype]
    obtain ⟨components, hread⟩ := exists_componentsOf_iff.2 fun htuple cs hlist => by
      obtain ⟨suffix, hsuffix⟩ := isTuple_iff.1 htuple
      exact (hcomponents cs hlist).2 (hdescribed suffix hsuffix cs hlist)
    exact ⟨_, bind_pure_eq_ok.2 ⟨components, hread, rfl⟩⟩
termination_by sizeOf j
decreasing_by exact Json.sizeOf_lt_of_listAt? hlist hc

/-- A parameter without a type is told in the same words at every depth. -/
theorem Parameter.eq_of_ofJson_eq_error {ofEvent : Bool} {j : Json} {e : AbiFault}
    (h : Parameter.ofJson ofEvent j = .error e) : e = .untypedParameter := by
  rw [Parameter.ofJson_eq_told] at h
  split at h
  · exact (Except.error.inj h).symm
  · obtain ⟨cs, hlist, c, hc, herror⟩ := componentsOf_eq_error (bind_pure_eq_error.1 h)
    exact Parameter.eq_of_ofJson_eq_error herror
termination_by sizeOf j
decreasing_by exact Json.sizeOf_lt_of_listAt? hlist hc

/-- The parameters are those that a value lists under a key, in order, each with its name and
type. -/
def ListedAt (j : Json) (key : String) (ps : List Parameter) : Prop :=
  List.Forall₂ (fun c p => c.textAt? "type" = some p.type ∧ p.name = (c.textAt? "name").getD "")
    ((j.listAt? key).getD []) ps

section Lists

variable {j : Json} {key : String} {ofEvent : Bool}

theorem exists_parametersAt_iff :
    (∃ ps, parametersAt j key ofEvent = .ok ps) ↔ ListsParameters j key := by
  unfold parametersAt ListsParameters
  cases hlist : j.listAt? key with
  | none => simp
  | some js => simp [exists_mapM_eq_ok_iff, Parameter.exists_ofJson_iff]

theorem listedAt_of_parametersAt {ps : List Parameter} (h : parametersAt j key ofEvent = .ok ps) :
    ListedAt j key ps := by
  unfold parametersAt at h
  unfold ListedAt
  cases hlist : j.listAt? key with
  | none =>
    rw [hlist] at h
    cases h
    exact .nil
  | some js =>
    rw [hlist] at h
    refine (mapM_eq_ok_iff.1 h).imp fun c p hp => ?_
    rw [Parameter.ofJson_eq_told] at hp
    split at hp
    · cases hp
    · next type htype =>
      obtain ⟨components, -, rfl⟩ := bind_pure_eq_ok.1 hp
      exact ⟨htype, rfl⟩

theorem parametersAt_eq_error {e : AbiFault} (h : parametersAt j key ofEvent = .error e) :
    ¬ ListsParameters j key ∧ e = .untypedParameter := by
  refine ⟨?_, ?_⟩
  · rw [← @exists_parametersAt_iff j key ofEvent, not_exists_eq_ok_iff]
    exact ⟨e, h⟩
  · unfold parametersAt at h
    split at h
    · cases h
    · obtain ⟨-, p, -, -, -, hp⟩ := mapM_eq_error_iff.1 h
      exact Parameter.eq_of_ofJson_eq_error hp

end Lists

/-! ## Entries -/

/-- The word for what an entry is: a function, if it has none. -/
def entryWord (j : Json) : String := (j.textAt? "type").getD "function"

/-- The words for entries that have to have a name, and what is told of one that has none. -/
def namedEntries : List (String × AbiFault) :=
  [("function", .unnamedFunction), ("event", .unnamedEvent), ("error", .unnamedError)]

/-- The words for entries that are functions, be it of a name or of a role. -/
def functionWords : List String := ["function", "constructor", "fallback", "receive"]

/-- The words for how a function touches the state of its contract. -/
def mutabilityWords : List String := ["pure", "view", "nonpayable", "payable"]

/-- The type of the entry is known. -/
def Recognised (j : Json) : Prop := entryWord j ∈ ["event", "error"] ++ functionWords

instance (j : Json) : Decidable (Recognised j) := inferInstanceAs (Decidable (_ ∈ _))

/-- The entry has a name, if it has to have one. -/
def Named (j : Json) : Prop :=
  entryWord j ∈ namedEntries.map Prod.fst → ∃ name, j.textAt? "name" = some name

/-- What an entry of a known type has to have. -/
structure WellFormed (j : Json) : Prop where
  named : Named j
  inputs : ListsParameters j "inputs"
  outputs : entryWord j ∈ functionWords → ListsParameters j "outputs"
  mutability : entryWord j ∈ functionWords →
    ∀ word, j.textAt? "stateMutability" = some word → word ∈ mutabilityWords

/-- What is told of an entry that is not well formed: of its name first, then of its inputs, of its
outputs and of its mutability. -/
inductive Complaint (j : Json) : AbiFault → Prop
  | name {fault : AbiFault} : (entryWord j, fault) ∈ namedEntries → j.textAt? "name" = none →
      Complaint j fault
  | inputs : Named j → ¬ ListsParameters j "inputs" → Complaint j .untypedParameter
  | outputs : Named j → ListsParameters j "inputs" → entryWord j ∈ functionWords →
      ¬ ListsParameters j "outputs" → Complaint j .untypedParameter
  | mutability {word : String} : Named j → ListsParameters j "inputs" →
      entryWord j ∈ functionWords → ListsParameters j "outputs" →
      j.textAt? "stateMutability" = some word → word ∉ mutabilityWords →
      Complaint j (.unknownMutability word)

theorem not_named_of_name {j : Json} {fault : AbiFault} (hword : (entryWord j, fault) ∈ namedEntries)
    (hname : j.textAt? "name" = none) : ¬ Named j := by
  intro h
  obtain ⟨name, hsome⟩ := h (List.mem_map_of_mem hword)
  rw [hname] at hsome
  cases hsome

theorem Complaint.not_wellFormed {j : Json} {e : AbiFault} (h : Complaint j e) :
    ¬ WellFormed j := by
  intro hj
  cases h with
  | name hword hname => exact not_named_of_name hword hname hj.named
  | inputs _ hinputs => exact hinputs hj.inputs
  | outputs _ _ hword houtputs => exact houtputs (hj.outputs hword)
  | mutability _ _ hword _ hsome hunknown => exact hunknown (hj.mutability hword _ hsome)

/-- There is one thing to tell of an entry. -/
theorem Complaint.unique {j : Json} {e e' : AbiFault} (h : Complaint j e) (h' : Complaint j e') :
    e = e' := by
  have hfaults : ∀ p ∈ namedEntries, ∀ q ∈ namedEntries, p.1 = q.1 → p.2 = q.2 := by decide
  cases h with
  | name hword hname =>
    cases h' with
    | name hword' _ => exact hfaults _ hword _ hword' rfl
    | inputs hnamed | outputs hnamed | mutability hnamed =>
      exact absurd hnamed (not_named_of_name hword hname)
  | inputs hnamed hinputs =>
    cases h' with
    | name hword' hname' => exact absurd hnamed (not_named_of_name hword' hname')
    | inputs | outputs => rfl
    | mutability _ hinputs' => exact absurd hinputs' hinputs
  | outputs hnamed hinputs _ houtputs =>
    cases h' with
    | name hword' hname' => exact absurd hnamed (not_named_of_name hword' hname')
    | inputs | outputs => rfl
    | mutability _ _ _ houtputs' => exact absurd houtputs' houtputs
  | mutability hnamed hinputs _ houtputs hsome =>
    cases h' with
    | name hword' hname' => exact absurd hnamed (not_named_of_name hword' hname')
    | inputs _ hinputs' => exact absurd hinputs hinputs'
    | outputs _ _ _ houtputs' => exact absurd houtputs houtputs'
    | mutability _ _ _ _ hsome' =>
      exact congrArg _ (Option.some.inj (hsome.symm.trans hsome'))

/-! ## Reading an entry -/

/-- A function has the inputs and the outputs that a value lists, and its mutability, if it tells
one. -/
structure Function.ReadFrom (f : Function) (j : Json) : Prop where
  inputs : ListedAt j "inputs" f.inputs
  outputs : ListedAt j "outputs" f.outputs
  mutability : ∀ word, j.textAt? "stateMutability" = some word → f.mutability.word = word

/-- An item is the entry that a value tells: of its type, with its name and with what it lists. -/
inductive Item.ReadFrom (j : Json) : Item → Prop
  | function {f : Function} : entryWord j = "function" → j.textAt? "name" = some f.name →
      f.ReadFrom j → ReadFrom j (.function f)
  | event {e : Event} : entryWord j = "event" → j.textAt? "name" = some e.name →
      ListedAt j "inputs" e.inputs → ReadFrom j (.event e)
  | error {e : ErrorCase} : entryWord j = "error" → j.textAt? "name" = some e.name →
      ListedAt j "inputs" e.inputs → ReadFrom j (.error e)
  | special {role : Role} {f : Function} : entryWord j = role.word →
      f.name = (j.textAt? "name").getD role.word → f.ReadFrom j → ReadFrom j (.special role f)

theorem word_of_ofWord? {word : String} {m : Mutability} (h : Mutability.ofWord? word = some m) :
    m.word = word := by
  unfold Mutability.ofWord? at h
  split_ifs at h with hword hword hword hword <;> cases h <;> exact hword.symm

theorem ofWord?_eq_none_iff {word : String} :
    Mutability.ofWord? word = none ↔ word ∉ mutabilityWords := by
  constructor
  · rintro h hword
    revert h
    simp only [mutabilityWords, List.mem_cons, List.not_mem_nil, or_false] at hword
    rcases hword with rfl | rfl | rfl | rfl <;> decide
  · intro h
    cases hm : Mutability.ofWord? word with
    | none => rfl
    | some m =>
      rw [← word_of_ofWord? hm] at h
      exact absurd (by cases m <;> decide) h

section Functions

variable {name : String} {j : Json}

/-- A function that is read has all that an entry has to have. -/
theorem functionNamed_eq_ok {f : Function} (h : functionNamed name j = .ok f) (hnamed : Named j) :
    WellFormed j ∧ f.name = name ∧ f.ReadFrom j := by
  obtain ⟨inputs, hinputs, h⟩ := bind_eq_ok.1 h
  obtain ⟨outputs, houtputs, h⟩ := bind_eq_ok.1 h
  obtain ⟨m, hm, h⟩ := bind_eq_ok.1 h
  cases h
  have hofWord : ∀ word, j.textAt? "stateMutability" = some word →
      Mutability.ofWord? word = some m := by
    intro word hword
    unfold mutabilityOf at hm
    rw [hword] at hm
    dsimp only at hm
    split at hm
    · next hofWord => rw [hofWord, Except.ok.inj hm]
    · cases hm
  refine ⟨⟨hnamed, ?_, ?_, ?_⟩, rfl, ?_, ?_, ?_⟩
  · exact exists_parametersAt_iff.1 ⟨_, hinputs⟩
  · exact fun _ => exists_parametersAt_iff.1 ⟨_, houtputs⟩
  · intro _ word hword
    by_contra hunknown
    rw [← ofWord?_eq_none_iff, hofWord word hword] at hunknown
    cases hunknown
  · exact listedAt_of_parametersAt hinputs
  · exact listedAt_of_parametersAt houtputs
  · exact fun word hword => word_of_ofWord? (hofWord word hword)

/-- A function that is not read has a complaint. -/
theorem functionNamed_eq_error {e : AbiFault} (h : functionNamed name j = .error e)
    (hnamed : Named j) (hword : entryWord j ∈ functionWords) : Complaint j e := by
  rcases bind_eq_error.1 h with h | ⟨inputs, hinputs, h⟩
  · obtain ⟨hlists, rfl⟩ := parametersAt_eq_error h
    exact .inputs hnamed hlists
  · have hlists := exists_parametersAt_iff.1 ⟨_, hinputs⟩
    rcases bind_eq_error.1 h with h | ⟨outputs, houtputs, h⟩
    · obtain ⟨hnotLists, rfl⟩ := parametersAt_eq_error h
      exact .outputs hnamed hlists hword hnotLists
    · have hm := bind_pure_eq_error.1 h
      unfold mutabilityOf at hm
      split at hm
      · next word hsome =>
        split at hm
        · cases hm
        · next hnone =>
          cases hm
          exact .mutability hnamed hlists hword (exists_parametersAt_iff.1 ⟨_, houtputs⟩) hsome
            (ofWord?_eq_none_iff.1 hnone)
      · split at hm
        · cases hm
        · split at hm <;> cases hm

end Functions

/-- What an entry is by its word. -/
theorem entryType_cases (j : Json) :
    (entryWord j = "function" ∧ EntryType.ofWord (j.textAt? "type") = .function) ∨
    (entryWord j = "event" ∧ EntryType.ofWord (j.textAt? "type") = .event) ∨
    (entryWord j = "error" ∧ EntryType.ofWord (j.textAt? "type") = .error) ∨
    (∃ role : Role,
      entryWord j = role.word ∧ EntryType.ofWord (j.textAt? "type") = .special role) ∨
    (¬ Recognised j ∧ EntryType.ofWord (j.textAt? "type") = .unknown) := by
  unfold Recognised entryWord
  cases j.textAt? "type" with
  | none => exact .inl ⟨rfl, rfl⟩
  | some word =>
    dsimp only [Option.getD_some, EntryType.ofWord]
    split_ifs with hfunction hevent herror hconstructor hfallback hreceive
    · exact .inl ⟨hfunction, rfl⟩
    · exact .inr (.inl ⟨hevent, rfl⟩)
    · exact .inr (.inr (.inl ⟨herror, rfl⟩))
    · exact .inr (.inr (.inr (.inl ⟨.constructor, hconstructor, rfl⟩)))
    · exact .inr (.inr (.inr (.inl ⟨.fallback, hfallback, rfl⟩)))
    · exact .inr (.inr (.inr (.inl ⟨.receive, hreceive, rfl⟩)))
    · refine .inr (.inr (.inr (.inr ⟨?_, rfl⟩)))
      simp [functionWords, hfunction, hevent, herror, hconstructor, hfallback, hreceive]

section Entries

variable {j : Json}

theorem named_of_name {name : String} (h : j.textAt? "name" = some name) : Named j :=
  fun _ => ⟨name, h⟩

theorem role_word_mem (role : Role) : role.word ∈ functionWords := by
  cases role <;> decide

/-- An entry that has a role does not have to have a name. -/
theorem named_of_role {role : Role} (h : entryWord j = role.word) : Named j := by
  intro hnames
  rw [h] at hnames
  exact absurd hnames (by cases role <;> decide)

/-- An event or an error has to have no more than a name and inputs. -/
theorem wellFormed_of_inputs {ofEvent : Bool} {inputs : List Parameter}
    (hword : entryWord j ∈ ["event", "error"]) (hnamed : Named j)
    (hinputs : parametersAt j "inputs" ofEvent = .ok inputs) : WellFormed j := by
  have hplain : entryWord j ∉ functionWords := by
    simp only [List.mem_cons, List.not_mem_nil, or_false] at hword
    rcases hword with hword | hword <;> rw [hword] <;> decide
  refine ⟨hnamed, exists_parametersAt_iff.1 ⟨_, hinputs⟩, ?_, ?_⟩
  · exact fun hfunction => absurd hfunction hplain
  · exact fun hfunction => absurd hfunction hplain

/-- An entry that is read is skipped where its type is not known. Otherwise it is well formed, and
the item is read from it. -/
theorem Item.ofJson?_eq_ok {o : Option Item} (h : Item.ofJson? j = .ok o) :
    (¬ Recognised j ∧ o = none) ∨
      ∃ item, o = some item ∧ Recognised j ∧ WellFormed j ∧ item.ReadFrom j := by
  unfold Item.ofJson? at h
  rcases entryType_cases j with ⟨hword, htype⟩ | ⟨hword, htype⟩ | ⟨hword, htype⟩ |
      ⟨role, hword, htype⟩ | ⟨hunknown, htype⟩ <;> rw [htype] at h
  · obtain ⟨f, hf, rfl⟩ := bind_pure_eq_ok.1 h
    unfold Function.ofJson at hf
    split at hf
    · cases hf
    · next name hname =>
      obtain ⟨hwell, rfl, hread⟩ := functionNamed_eq_ok hf (named_of_name hname)
      refine .inr ⟨_, rfl, ?_, hwell, .function hword hname hread⟩
      simp [Recognised, functionWords, hword]
  · obtain ⟨e, he, rfl⟩ := bind_pure_eq_ok.1 h
    unfold Event.ofJson at he
    split at he
    · cases he
    · next name hname =>
      obtain ⟨inputs, hinputs, rfl⟩ := bind_pure_eq_ok.1 he
      have hwell := wellFormed_of_inputs (by simp [hword]) (named_of_name hname) hinputs
      refine .inr ⟨_, rfl, ?_, hwell, .event hword hname (listedAt_of_parametersAt hinputs)⟩
      simp [Recognised, hword]
  · obtain ⟨e, he, rfl⟩ := bind_pure_eq_ok.1 h
    unfold ErrorCase.ofJson at he
    split at he
    · cases he
    · next name hname =>
      obtain ⟨inputs, hinputs, rfl⟩ := bind_pure_eq_ok.1 he
      have hwell := wellFormed_of_inputs (by simp [hword]) (named_of_name hname) hinputs
      refine .inr ⟨_, rfl, ?_, hwell, .error hword hname (listedAt_of_parametersAt hinputs)⟩
      simp [Recognised, hword]
  · obtain ⟨f, hf, rfl⟩ := bind_pure_eq_ok.1 h
    obtain ⟨hwell, hname, hread⟩ := functionNamed_eq_ok hf (named_of_role hword)
    refine .inr ⟨_, rfl, ?_, hwell, .special hword hname hread⟩
    rw [Recognised, hword]
    exact List.mem_append_right _ (role_word_mem role)
  · exact .inl ⟨hunknown, (Except.ok.inj h).symm⟩

/-- An entry that is not read is of a known type, and the error is what there is to tell of it. -/
theorem Item.ofJson?_eq_error {e : AbiFault} (h : Item.ofJson? j = .error e) :
    Recognised j ∧ Complaint j e := by
  unfold Item.ofJson? at h
  rcases entryType_cases j with ⟨hword, htype⟩ | ⟨hword, htype⟩ | ⟨hword, htype⟩ |
      ⟨role, hword, htype⟩ | ⟨hunknown, htype⟩ <;> rw [htype] at h
  · have hf := bind_pure_eq_error.1 h
    have hfunction : entryWord j ∈ functionWords := by simp [hword, functionWords]
    refine ⟨List.mem_append_right _ hfunction, ?_⟩
    unfold Function.ofJson at hf
    split at hf
    · next hname =>
      cases hf
      exact .name (by simp [hword, namedEntries]) hname
    · next name hname => exact functionNamed_eq_error hf (named_of_name hname) hfunction
  · have he := bind_pure_eq_error.1 h
    refine ⟨by simp [Recognised, hword], ?_⟩
    unfold Event.ofJson at he
    split at he
    · next hname =>
      cases he
      exact .name (by simp [hword, namedEntries]) hname
    · next name hname =>
      obtain ⟨hlists, rfl⟩ := parametersAt_eq_error (bind_pure_eq_error.1 he)
      exact .inputs (named_of_name hname) hlists
  · have he := bind_pure_eq_error.1 h
    refine ⟨by simp [Recognised, hword], ?_⟩
    unfold ErrorCase.ofJson at he
    split at he
    · next hname =>
      cases he
      exact .name (by simp [hword, namedEntries]) hname
    · next name hname =>
      obtain ⟨hlists, rfl⟩ := parametersAt_eq_error (bind_pure_eq_error.1 he)
      exact .inputs (named_of_name hname) hlists
  · have hfunction : entryWord j ∈ functionWords := hword ▸ role_word_mem role
    refine ⟨List.mem_append_right _ hfunction, ?_⟩
    exact functionNamed_eq_error (bind_pure_eq_error.1 h) (named_of_role hword) hfunction
  · cases h

/-- An entry is read just where it is well formed or its type is not known. -/
theorem Item.exists_ofJson?_iff :
    (∃ o, Item.ofJson? j = .ok o) ↔ (Recognised j → WellFormed j) := by
  constructor
  · rintro ⟨o, ho⟩ hrecognised
    rcases Item.ofJson?_eq_ok ho with ⟨hunknown, -⟩ | ⟨item, -, -, hwell, -⟩
    · exact absurd hrecognised hunknown
    · exact hwell
  · intro h
    by_contra hnone
    obtain ⟨e, he⟩ := not_exists_eq_ok_iff.1 hnone
    obtain ⟨hrecognised, hcomplaint⟩ := Item.ofJson?_eq_error he
    exact hcomplaint.not_wellFormed (h hrecognised)

theorem Item.ofJson?_eq_error_iff {e : AbiFault} :
    Item.ofJson? j = .error e ↔ Recognised j ∧ Complaint j e := by
  refine ⟨Item.ofJson?_eq_error, fun ⟨hrecognised, hcomplaint⟩ => ?_⟩
  have hnone : ¬ ∃ o, Item.ofJson? j = .ok o := fun h =>
    hcomplaint.not_wellFormed (Item.exists_ofJson?_iff.1 h hrecognised)
  obtain ⟨e', he'⟩ := not_exists_eq_ok_iff.1 hnone
  rw [he', (Item.ofJson?_eq_error he').2.unique hcomplaint]

end Entries

/-! ## Reading an interface -/

/-- The entries of an interface: what a list holds, or what an object lists as its `abi`. -/
inductive EntriesOf : Json → List Json → Prop
  | list (js : List Json) : EntriesOf (.list js) js
  | artifact {members : List (String × Json)} {js : List Json} :
      Json.lookup "abi" members = some (.list js) → EntriesOf (.object members) js

theorem entries?_eq_some_iff {j : Json} {js : List Json} :
    entries? j = some js ↔ EntriesOf j js := by
  constructor
  · intro h
    cases j with
    | list items =>
      obtain rfl : items = js := Option.some.inj h
      exact .list items
    | object members =>
      obtain ⟨v, hv, hlist⟩ := Option.bind_eq_some_iff.1 h
      cases v with
      | list items =>
        cases hlist
        exact .artifact hv
      | null | bool b | number n | text s | object ms => cases hlist
    | null | bool b | number n | text s => cases h
  · intro h
    cases h with
    | list => rfl
    | artifact hv => exact Option.bind_eq_some_iff.2 ⟨_, hv, rfl⟩

theorem itemsOfJson_eq_mapM (js : List Json) :
    itemsOfJson js = do return (← js.mapM Item.ofJson?).reduceOption := by
  induction js with
  | nil => rfl
  | cons j js ih =>
    rw [itemsOfJson, List.mapM_cons, ih]
    cases Item.ofJson? j with
    | error e => rfl
    | ok o =>
      cases js.mapM Item.ofJson? with
      | error e => rfl
      | ok os => cases o <;> rfl

/-- The items are read from the entries of known types, one from each, in order. -/
theorem readFrom_of_mapM {js : List Json} {os : List (Option Item)}
    (h : List.Forall₂ (fun j o => Item.ofJson? j = .ok o) js os) :
    List.Forall₂ (fun j (item : Item) => item.ReadFrom j) (js.filter Recognised)
      os.reduceOption := by
  induction h with
  | nil => exact .nil
  | cons ho _ ih =>
    rcases Item.ofJson?_eq_ok ho with ⟨hunknown, rfl⟩ | ⟨item, rfl, hrecognised, -, hread⟩
    · rw [List.filter_cons_of_neg (by simpa using hunknown), List.reduceOption_cons_of_none]
      exact ih
    · rw [List.filter_cons_of_pos (by simpa using hrecognised), List.reduceOption_cons_of_some]
      exact .cons hread ih

section Interfaces

variable {js : List Json}

theorem exists_itemsOfJson_iff :
    (∃ items, itemsOfJson js = .ok items) ↔ ∀ j ∈ js, Recognised j → WellFormed j := by
  simp only [itemsOfJson_eq_mapM, bind_pure_eq_ok, ← Item.exists_ofJson?_iff,
    ← exists_mapM_eq_ok_iff]
  exact ⟨fun ⟨_, os, hos, _⟩ => ⟨os, hos⟩, fun ⟨os, hos⟩ => ⟨_, os, hos, rfl⟩⟩

theorem itemsOfJson_eq_error_iff {e : AbiFault} :
    itemsOfJson js = .error e ↔
      ∃ before j after, js = before ++ j :: after ∧ (∀ i ∈ before, Recognised i → WellFormed i) ∧
        Recognised j ∧ Complaint j e := by
  simp only [itemsOfJson_eq_mapM, bind_pure_eq_error, mapM_eq_error_iff, Item.exists_ofJson?_iff,
    Item.ofJson?_eq_error_iff]

end Interfaces

/-- A value is read as an interface just where it has a list of entries, itself or as its `abi`, and
every entry of a known type is well formed. The interface then has one item for each entry of a
known type, in order, each read from its own entry, and the other entries are skipped whatever they
hold. A value that has no such list is refused, and otherwise the error is what there is to tell of
the first entry that is not well formed. -/
theorem an_interface_is_read_entry_by_entry (v : Json) :
    ((∃ items, ofJson v = .ok items) ↔
      ∃ js, EntriesOf v js ∧ ∀ j ∈ js, Recognised j → WellFormed j) ∧
    (∀ items, ofJson v = .ok items → ∃ js, EntriesOf v js ∧
      List.Forall₂ (fun j (item : Item) => item.ReadFrom j) (js.filter Recognised) items) ∧
    ∀ e, ofJson v = .error e ↔
      (e = .notList ∧ ¬ ∃ js, EntriesOf v js) ∨
      ∃ before j after, EntriesOf v (before ++ j :: after) ∧
        (∀ i ∈ before, Recognised i → WellFormed i) ∧
        Recognised j ∧ ¬ WellFormed j ∧ Complaint j e := by
  unfold ofJson
  simp only [← entries?_eq_some_iff]
  cases hentries : entries? v with
  | none => simp [eq_comm]
  | some js =>
    refine ⟨?_, ?_, ?_⟩
    · simpa using exists_itemsOfJson_iff
    · intro items h
      dsimp only at h
      rw [itemsOfJson_eq_mapM] at h
      obtain ⟨os, hos, rfl⟩ := bind_pure_eq_ok.1 h
      exact ⟨js, rfl, readFrom_of_mapM (mapM_eq_ok_iff.1 hos)⟩
    · intro e
      rw [itemsOfJson_eq_error_iff]
      constructor
      · rintro ⟨before, j, after, rfl, hbefore, hrecognised, hcomplaint⟩
        exact .inr ⟨before, j, after, rfl, hbefore, hrecognised, hcomplaint.not_wellFormed,
          hcomplaint⟩
      · rintro (⟨-, hnone⟩ | ⟨before, j, after, heq, hbefore, hrecognised, -, hcomplaint⟩)
        · exact absurd ⟨js, rfl⟩ hnone
        · exact ⟨before, j, after, Option.some.inj heq, hbefore, hrecognised, hcomplaint⟩

-- The inputs of a struct are not looked at, and the function has a name, unlike the event.
example : ofJson (.list [.object [("type", .text "struct"), ("inputs", .list [.null])],
    .object [("name", .text "total")], .object [("type", .text "event")]]) =
    .error .unnamedEvent := rfl

end ContractHooks.Abi
