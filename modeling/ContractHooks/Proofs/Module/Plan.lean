-- The names that a run claims, read off the interfaces of its contracts, and how a run ends:
-- with the hooks of those names, or with the error of the earliest step that fails.
import ContractHooks.Proofs.Abi.Group
import ContractHooks.Proofs.Module.Run

namespace ContractHooks

/-! ## The planned names -/

/-- A name, where it is wanted. -/
def wanted (want : Bool) (name : String) : List String := if want then [name] else []

/-- The names that the functions or events of a key get. -/
def plannedFor (t : Hook.Toggles) (owner : String) : Abi.GroupClass × String → List String
  | (.read, name) => wanted t.functionRead ("use" ++ owner ++ Text.pascal name)
  | (.write, name) =>
    wanted t.prepareFunctionWrite ("usePrepare" ++ owner ++ Text.pascal name)
      ++ wanted t.functionWrite ("use" ++ owner ++ Text.pascal name)
  | (.event, name) => wanted t.itemEvent ("use" ++ owner ++ "On" ++ Text.pascal name)

/-- The names that a contract claims: its own, the general ones for the classes of entries that
its interface has, and those of each key, where the key first comes up. -/
def plannedNames (t : Hook.Toggles) (c : Contract) : List String :=
  let owner := Text.pascal c.name
  let has (cls : Abi.GroupClass) : Bool :=
    (c.abi.filterMap Abi.Item.key?).any fun k => k.1 == cls
  wanted t.contract ("use" ++ owner)
    ++ wanted (has .read && t.contractRead) ("use" ++ owner ++ "Read")
    ++ wanted (has .write && t.prepareContractWrite) ("usePrepare" ++ owner ++ "Write")
    ++ wanted (has .write && t.contractWrite) ("use" ++ owner ++ "Write")
    ++ wanted (has .event && t.contractEvent) ("use" ++ owner ++ "Event")
    ++ (Abi.keys c.abi).flatMap (plannedFor t owner)

/-- The names of hooks, those that are wanted. -/
def wantedNames (t : Hook.Toggles) (contract : String) (hooks : List Hook) : List String :=
  (hooks.filter fun h => t.enables h.kind).map fun h => h.kind.hookName contract

theorem wantedNames_append (t : Hook.Toggles) (contract : String) (a b : List Hook) :
    wantedNames t contract (a ++ b) = wantedNames t contract a ++ wantedNames t contract b := by
  unfold wantedNames
  rw [List.filter_append, List.map_append]

theorem wantedNames_singleton (t : Hook.Toggles) (contract : String) (h : Hook) :
    wantedNames t contract [h] = wanted (t.enables h.kind) (h.kind.hookName contract) := by
  unfold wantedNames wanted
  cases he : t.enables h.kind <;> simp [he]

/-- Hooks that there are only on a condition are wanted only on it. -/
theorem wantedNames_if (t : Hook.Toggles) (contract : String) (b : Bool) (h : Hook) :
    wantedNames t contract (if b then [h] else []) =
      wanted (b && t.enables h.kind) (h.kind.hookName contract) := by
  cases b
  · rfl
  · exact wantedNames_singleton t contract h

/-- The names of a group are those of its key. -/
theorem wantedNames_ofGroup (t : Hook.Toggles) (contract : String) (g : Abi.Group) :
    wantedNames t contract (Hook.ofGroup g) = plannedFor t (Text.pascal contract) g.key := by
  cases g with
  | read o => exact wantedNames_singleton t contract _
  | write o =>
    rw [Hook.ofGroup, ← List.singleton_append, wantedNames_append, wantedNames_singleton,
      wantedNames_singleton]
    rfl
  | event o => exact wantedNames_singleton t contract _

theorem wantedNames_flatMap (t : Hook.Toggles) (contract : String) (gs : List Abi.Group) :
    wantedNames t contract (gs.flatMap Hook.ofGroup) =
      (gs.map Abi.Group.key).flatMap (plannedFor t (Text.pascal contract)) := by
  induction gs with
  | nil => rfl
  | cons g gs ih =>
    rw [List.flatMap_cons, wantedNames_append, wantedNames_ofGroup, ih, List.map_cons,
      List.flatMap_cons]

/-- The general hooks have the general names. -/
theorem wantedNames_general (t : Hook.Toggles) (contract : String) (gs : List Abi.Group) :
    wantedNames t contract (Hook.general gs) =
      let owner := Text.pascal contract
      let has (cls : Abi.GroupClass) : Bool := gs.any fun g => g.groupClass == cls
      wanted t.contract ("use" ++ owner)
        ++ wanted (has .read && t.contractRead) ("use" ++ owner ++ "Read")
        ++ wanted (has .write && t.prepareContractWrite) ("usePrepare" ++ owner ++ "Write")
        ++ wanted (has .write && t.contractWrite) ("use" ++ owner ++ "Write")
        ++ wanted (has .event && t.contractEvent) ("use" ++ owner ++ "Event") := by
  have two (b : Bool) (h k : Hook) : (if b then [h, k] else []) =
      (if b then [h] else []) ++ (if b then [k] else []) := by
    cases b <;> rfl
  unfold Hook.general
  simp only [two, wantedNames_append, wantedNames_singleton, wantedNames_if, List.append_assoc]
  rfl

/-- A contract's hooks have the planned names. -/
theorem hookNames_eq_plannedNames (t : Hook.Toggles) (c : Contract) :
    hookNames t c = plannedNames t c := by
  have hall : hookNames t c = wantedNames t c.name (Hook.all c.abi) := rfl
  rw [hall, Hook.all, wantedNames_append, wantedNames_flatMap, Abi.map_key_groups,
    wantedNames_general]
  simp only [Abi.any_groupClass]
  rfl

/-! ## How a run ends -/

theorem generate_eq (toggles : Hook.Toggles) (dialect : Dialect) (contracts : List Contract) :
    generate toggles dialect contracts =
      match firstFault? [] (stepsOf (plannedNames toggles) contracts) with
      | some e => .error e
      | none => .ok (Output.ofFragments dialect (contracts.flatMap (fragmentsOf toggles))) := by
  have hnames : hookNames toggles = plannedNames toggles :=
    funext (hookNames_eq_plannedNames toggles)
  unfold generate
  rw [writtenHooks_eq, hnames, ← ofHooks_eq_ofFragments]
  cases firstFault? [] (stepsOf (plannedNames toggles) contracts)
  · rfl
  · rfl

theorem mem_stepsOf {names : Contract → List String} {contracts : List Contract} {c : Contract} :
    .resolve c ∈ stepsOf names contracts ↔ c ∈ contracts := by
  simp [stepsOf, claimsOf]

/-- No step of a run fails just where every contract is resolved and no name is planned
twice. -/
theorem firstFault?_stepsOf_eq_none_iff (names : Contract → List String)
    (contracts : List Contract) :
    firstFault? [] (stepsOf names contracts) = none ↔
      (∀ c ∈ contracts, ∃ target, c.target = .ok target) ∧ (contracts.flatMap names).Nodup := by
  rw [firstFault?_eq_none_iff_nodup]
  simp only [mem_stepsOf, claimed_stepsOf, List.not_mem_nil, not_false_eq_true, implies_true,
    and_true]

/-- The fragments of contracts that are resolved have the planned names. -/
theorem map_name_fragmentsOf {toggles : Hook.Toggles} {contracts : List Contract}
    (h : ∀ c ∈ contracts, ∃ target, c.target = .ok target) :
    (contracts.flatMap (fragmentsOf toggles)).map Hook.Fragment.name =
      contracts.flatMap (plannedNames toggles) := by
  rw [List.map_flatMap]
  refine List.flatMap_congr fun c hc => ?_
  obtain ⟨target, ht⟩ := h c hc
  rw [← hookNames_eq_plannedNames, fragmentsOf, emittedOf, ht, hookNames, List.map_map]
  rfl

/-- A run gives a module just where every contract is resolved and no name is planned twice,
and the hooks are then those of the planned names, in order. Otherwise it ends in the error of
the earliest step that fails. -/
theorem a_run_follows_its_plan (toggles : Hook.Toggles) (dialect : Dialect)
    (contracts : List Contract) :
    (∀ hooks, (∃ o, generate toggles dialect contracts = .ok o ∧ o.hooks = hooks) ↔
      (∀ c ∈ contracts, ∃ target, c.target = .ok target) ∧
        (contracts.flatMap (plannedNames toggles)).Nodup ∧
        hooks = contracts.flatMap (plannedNames toggles)) ∧
    ∀ e, generate toggles dialect contracts = .error e ↔
      FirstFailure (stepsOf (plannedNames toggles) contracts) e := by
  rw [generate_eq]
  have hnone := firstFault?_stepsOf_eq_none_iff (plannedNames toggles) contracts
  refine ⟨fun hooks => ?_, fun e => ?_⟩
  · cases hf : firstFault? [] (stepsOf (plannedNames toggles) contracts) with
    | none =>
      obtain ⟨hres, hnodup⟩ := hnone.1 hf
      have hhooks := @map_name_fragmentsOf toggles contracts hres
      constructor
      · rintro ⟨o, ho, rfl⟩
        cases ho
        exact ⟨hres, hnodup, hhooks⟩
      · rintro ⟨-, -, rfl⟩
        exact ⟨_, rfl, hhooks⟩
    | some e =>
      constructor
      · rintro ⟨o, ho, -⟩
        cases ho
      · rintro ⟨hres, hnodup, -⟩
        rw [hnone.2 ⟨hres, hnodup⟩] at hf
        cases hf
  · rw [firstFailure_iff]
    cases firstFault? [] (stepsOf (plannedNames toggles) contracts) <;> simp

end ContractHooks
