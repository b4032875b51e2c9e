-- A run as steps: a contract is resolved, then each of its hooks claims a name, then the next
-- contract follows. A run ends in the error of its earliest step that fails, and where none
-- fails it gives what is emitted for all hooks in the order of their claims, in whatever form
-- they are emitted.
import ContractHooks.Module.Generate
import ContractHooks.Proofs.Hook.Registry
import Mathlib.Data.List.Induction
import Mathlib.Data.List.Nodup

namespace ContractHooks

/-! ## Steps -/

/-- A step of a run: a contract is resolved, or a contract claims the name of a hook. -/
inductive Step
  | resolve (contract : Contract)
  | claim (hook contract : String)

/-- The names that steps claim, in order. -/
def claimed : List Step → List String
  | [] => []
  | .resolve _ :: steps => claimed steps
  | .claim hook _ :: steps => hook :: claimed steps

/-- When a step fails, and with what, after the names of `taken` have been claimed: a contract
whose metadata contradict its address, or a name that is taken. -/
inductive Step.Fails (taken : List String) : Step → Error → Prop
  | unresolved {c : Contract} {fault : MetadataFault} :
      c.target = .error (.metadata c.name fault) →
      Fails taken (.resolve c) (.metadata c.name fault)
  | taken {hook contract : String} :
      hook ∈ taken → Fails taken (.claim hook contract) (.duplicateHook hook contract)

/-- Steps of which none fails. -/
def NoneFails (steps : List Step) : Prop :=
  ∀ before s after e, steps = before ++ s :: after → ¬ s.Fails (claimed before) e

/-- The error is that of the earliest step that fails. -/
def FirstFailure (steps : List Step) (e : Error) : Prop :=
  ∃ before s after, steps = before ++ s :: after ∧ NoneFails before ∧ s.Fails (claimed before) e

@[simp] theorem claimed_append (a b : List Step) : claimed (a ++ b) = claimed a ++ claimed b := by
  induction a with
  | nil => rfl
  | cons s a ih => cases s <;> simp [claimed, ih]

/-- The error of a step, if it fails. -/
def Step.fault? (taken : List String) : Step → Option Error
  | .resolve c =>
    match c.target with
    | .ok _ => none
    | .error e => some e
  | .claim hook contract => if hook ∈ taken then some (.duplicateHook hook contract) else none

/-- A contract that is not resolved is told by its name. -/
theorem target_eq_error {c : Contract} {e : Error} (h : c.target = .error e) :
    ∃ fault, e = .metadata c.name fault := by
  unfold Contract.target at h
  split at h
  · exact ⟨_, (Except.error.inj h).symm⟩
  · exact ⟨_, (Except.error.inj h).symm⟩
  · cases h
  · cases h
  · split at h
    · cases h
    · exact ⟨_, (Except.error.inj h).symm⟩

theorem Step.fault?_eq_some_iff {taken : List String} {s : Step} {e : Error} :
    s.fault? taken = some e ↔ s.Fails taken e := by
  constructor
  · intro h
    cases s with
    | resolve c =>
      simp only [fault?] at h
      cases ht : c.target with
      | ok t => simp [ht] at h
      | error e' =>
        obtain ⟨fault, rfl⟩ := target_eq_error ht
        simp only [ht, Option.some.injEq] at h
        exact h ▸ .unresolved ht
    | claim hook contract =>
      simp only [fault?] at h
      split at h
      · cases h
        exact .taken ‹_›
      · cases h
  · intro h
    cases h with
    | unresolved ht => simp [fault?, ht]
    | taken hm => simp [fault?, hm]

/-- The error of the earliest step that fails, if one does. -/
def firstFault? (taken : List String) : List Step → Option Error
  | [] => none
  | s :: steps =>
    match s.fault? taken with
    | some e => some e
    | none => firstFault? (taken ++ claimed [s]) steps

theorem firstFault?_append (taken : List String) (a b : List Step) :
    firstFault? taken (a ++ b) =
      (firstFault? taken a).or (firstFault? (taken ++ claimed a) b) := by
  induction a generalizing taken with
  | nil => simp [firstFault?, claimed]
  | cons s a ih =>
    simp only [List.cons_append, firstFault?]
    cases s.fault? taken with
    | some e => rfl
    | none =>
      simp only [ih, List.append_assoc]
      rw [← claimed_append, List.singleton_append]

theorem firstFault?_eq_none_iff {taken : List String} {steps : List Step} :
    firstFault? taken steps = none ↔
      ∀ before s after e, steps = before ++ s :: after → ¬ s.Fails (taken ++ claimed before) e := by
  constructor
  · rintro h before s after e rfl hf
    rw [firstFault?_append, Option.or_eq_none_iff] at h
    have hs := h.2
    rw [firstFault?, Step.fault?_eq_some_iff.2 hf] at hs
    cases hs
  · intro h
    induction steps generalizing taken with
    | nil => rfl
    | cons s steps ih =>
      have hs : s.fault? taken = none := by
        cases hf : s.fault? taken with
        | none => rfl
        | some e =>
          refine absurd (Step.fault?_eq_some_iff.1 hf) ?_
          simpa [claimed] using h [] s steps e rfl
      rw [firstFault?, hs]
      refine ih fun before t after e heq => ?_
      have := h (s :: before) t after e (by rw [heq]; rfl)
      rwa [← List.singleton_append, claimed_append, ← List.append_assoc] at this

theorem noneFails_iff {steps : List Step} : NoneFails steps ↔ firstFault? [] steps = none := by
  rw [firstFault?_eq_none_iff]
  simp [NoneFails]

theorem firstFailure_iff {steps : List Step} {e : Error} :
    FirstFailure steps e ↔ firstFault? [] steps = some e := by
  constructor
  · rintro ⟨before, s, after, rfl, hnone, hs⟩
    rw [firstFault?_append, noneFails_iff.1 hnone, List.nil_append, Option.none_or, firstFault?,
      Step.fault?_eq_some_iff.2 hs]
  · intro h
    induction steps using List.reverseRecOn with
    | nil => cases h
    | append_singleton steps s ih =>
      rw [firstFault?_append] at h
      cases hf : firstFault? [] steps with
      | some e' =>
        rw [hf, Option.some_or, Option.some.injEq] at h
        obtain ⟨before, t, after, heq, hnone, ht⟩ := ih (h ▸ hf)
        exact ⟨before, t, after ++ [s], by simp [heq], hnone, ht⟩
      | none =>
        rw [hf, Option.none_or, List.nil_append, firstFault?] at h
        refine ⟨steps, s, [], rfl, noneFails_iff.2 hf, Step.fault?_eq_some_iff.1 ?_⟩
        cases hs : s.fault? (claimed steps) with
        | some e' => simpa [hs] using h
        | none => simp [hs, firstFault?] at h

theorem firstFault?_eq_none_iff_nodup {taken : List String} {steps : List Step} :
    firstFault? taken steps = none ↔
      (∀ c, .resolve c ∈ steps → ∃ t, c.target = .ok t) ∧
        (claimed steps).Nodup ∧ ∀ n ∈ claimed steps, n ∉ taken := by
  induction steps generalizing taken with
  | nil => simp [firstFault?, claimed]
  | cons s steps ih =>
    cases s with
    | resolve c =>
      simp only [firstFault?, Step.fault?, claimed, List.append_nil]
      cases ht : c.target with
      | ok t =>
        simp only [ih]
        constructor
        · rintro ⟨hres, hrest⟩
          refine ⟨fun c' hc' => ?_, hrest⟩
          rcases List.mem_cons.1 hc' with hc' | hc'
          · cases hc'
            exact ⟨t, ht⟩
          · exact hres c' hc'
        · rintro ⟨hres, hrest⟩
          exact ⟨fun c' hc' => hres c' (List.mem_cons_of_mem _ hc'), hrest⟩
      | error e =>
        simp only [reduceCtorEq, false_iff]
        rintro ⟨hres, -⟩
        obtain ⟨t, ht'⟩ := hres c List.mem_cons_self
        rw [ht] at ht'
        cases ht'
    | claim hook contract =>
      simp only [firstFault?, Step.fault?, claimed]
      by_cases hm : hook ∈ taken
      · simp [hm]
      · simp only [hm, if_false, ih, List.nodup_cons, List.mem_cons, reduceCtorEq, false_or,
          List.mem_append, List.not_mem_nil, or_false, not_or]
        constructor
        · rintro ⟨hres, hnodup, hfree⟩
          refine ⟨hres, ⟨fun hin => (hfree hook hin).2 rfl, hnodup⟩, ?_⟩
          rintro n (rfl | hn)
          · exact hm
          · exact (hfree n hn).1
        · rintro ⟨hres, ⟨hhook, hnodup⟩, hfree⟩
          exact ⟨hres, hnodup, fun n hn => ⟨hfree n (.inr hn), fun he => hhook (he ▸ hn)⟩⟩

/-! ## The run of a generator -/

namespace Hook.Registry

/-- A claim adds its name to those that are taken. -/
theorem mem_names_of_claim {r : Registry} {taken : List String}
    (hr : ∀ n, n ∈ r.names ↔ n ∈ taken) (hook contract : String) (n : String) :
    n ∈ (⟨(hook, contract) :: r.owners⟩ : Registry).names ↔
      n ∈ taken ++ claimed [.claim hook contract] := by
  have hn := hr n
  simp only [names, List.map_cons, List.mem_cons, claimed, List.mem_append, List.not_mem_nil,
    or_false] at hn ⊢
  rw [hn, or_comm]

end Hook.Registry

/-- The steps in which a contract claims names. -/
def claimsOf (contract : String) (names : List String) : List Step :=
  names.map fun n => .claim n contract

/-- The steps of a run in which each contract is resolved and then claims names. -/
def stepsOf (names : Contract → List String) (contracts : List Contract) : List Step :=
  contracts.flatMap fun c => .resolve c :: claimsOf c.name (names c)

/-- The names of the hooks that a contract gets. -/
def hookNames (toggles : Hook.Toggles) (c : Contract) : List String :=
  (plan toggles c.abi).map fun h => h.kind.hookName c.name

/-- What is emitted for the hooks of a contract, nothing if it is not resolved. -/
def emittedOf {α : Type} (emit : Hook → String → Target → α) (toggles : Hook.Toggles)
    (c : Contract) : List α :=
  match c.target with
  | .ok target => (plan toggles c.abi).map fun h => emit h (h.kind.hookName c.name) target
  | .error _ => []

theorem claimed_claimsOf (contract : String) (names : List String) :
    claimed (claimsOf contract names) = names := by
  induction names with
  | nil => rfl
  | cons n names ih =>
    unfold claimsOf at ih ⊢
    rw [List.map_cons, claimed, ih]

theorem claimed_stepsOf (names : Contract → List String) (contracts : List Contract) :
    claimed (stepsOf names contracts) = contracts.flatMap names := by
  induction contracts with
  | nil => rfl
  | cons c contracts ih =>
    unfold stepsOf at ih ⊢
    rw [List.flatMap_cons, claimed_append, claimed, claimed_claimsOf, ih, List.flatMap_cons]

/-- The hooks of a contract are emitted if none of their claims fails, and then the registry
holds their names besides the ones that it held. -/
theorem claimHooks_eq {α : Type} (emit : Hook → String → Target → α) (contract : String)
    (target : Target) (hooks : List Hook) {r : Hook.Registry} {taken : List String}
    (hr : ∀ n, n ∈ r.names ↔ n ∈ taken) :
    match firstFault? taken (claimsOf contract (hooks.map fun h => h.kind.hookName contract)) with
    | some e => claimHooks emit contract target hooks r = .error e
    | none => ∃ s : Hook.Registry,
        claimHooks emit contract target hooks r =
          .ok (hooks.map fun h => emit h (h.kind.hookName contract) target, s) ∧
        ∀ n, n ∈ s.names ↔ n ∈ taken ++ hooks.map fun h => h.kind.hookName contract := by
  -- The registry and the names that are taken grow alike, the one in front, the others behind.
  induction hooks generalizing r taken with
  | nil => exact ⟨r, rfl, by simpa using hr⟩
  | cons h hooks ih =>
    simp only [List.map_cons, claimsOf, firstFault?, Step.fault?, claimHooks]
    by_cases hm : h.kind.hookName contract ∈ taken
    · simp [hm, Hook.Registry.claim_of_mem _ ((hr _).2 hm), bind, Except.bind]
    · rw [Hook.Registry.claim_of_notMem _ fun hn => hm ((hr _).1 hn)]
      simp only [hm, if_false, bind, Except.bind]
      have step := Hook.Registry.mem_names_of_claim hr (h.kind.hookName contract) contract
      have rest := ih step
      unfold claimsOf at rest
      split
      · next e he =>
        rw [he] at rest
        rw [rest]
      · next he =>
        rw [he] at rest
        obtain ⟨s, hs, hnames⟩ := rest
        refine ⟨s, by rw [hs]; rfl, fun n => ?_⟩
        rw [hnames]
        simp [claimed]

/-- A run is its steps: it ends in the first error of theirs, or gives what is emitted for each
contract in turn. -/
theorem emittedFrom_eq {α : Type} (emit : Hook → String → Target → α) (toggles : Hook.Toggles)
    (contracts : List Contract) {r : Hook.Registry} {taken : List String}
    (hr : ∀ n, n ∈ r.names ↔ n ∈ taken) :
    emittedFrom emit toggles contracts r =
      match firstFault? taken (stepsOf (hookNames toggles) contracts) with
      | some e => .error e
      | none => .ok (contracts.flatMap (emittedOf emit toggles)) := by
  induction contracts generalizing r taken with
  | nil => rfl
  | cons c contracts ih =>
    have hsteps : stepsOf (hookNames toggles) (c :: contracts) =
        .resolve c :: (claimsOf c.name (hookNames toggles c) ++
          stepsOf (hookNames toggles) contracts) := rfl
    rw [hsteps, firstFault?, emittedFrom]
    cases ht : c.target with
    | error e => simp [Step.fault?, ht, bind, Except.bind]
    | ok target =>
      have own := claimHooks_eq emit c.name target (plan toggles c.abi) hr
      rw [← hookNames] at own
      simp only [Step.fault?, ht, claimed, List.append_nil, firstFault?_append, claimed_claimsOf,
        bind, Except.bind]
      split at own
      · next e he => simp [he, own]
      · next he =>
        obtain ⟨s, hs, hnames⟩ := own
        rw [hs, he, Option.none_or]
        simp only [ih hnames, List.flatMap_cons, emittedOf, ht]
        cases firstFault? (taken ++ hookNames toggles c) (stepsOf (hookNames toggles) contracts)
        · rfl
        · rfl

/-! ## Fragments -/

/-- The fragments of a contract, none if it is not resolved. -/
def fragmentsOf (toggles : Hook.Toggles) (c : Contract) : List Hook.Fragment :=
  emittedOf Hook.fragment toggles c

/-- The fragments of a run, which every dialect is written from. -/
def fragments (toggles : Hook.Toggles) (contracts : List Contract) :
    Except Error (List Hook.Fragment) :=
  emittedFrom Hook.fragment toggles contracts Hook.Registry.empty

/-- The module of fragments. -/
def Output.ofFragments (dialect : Dialect) (fragments : List Hook.Fragment) : Output where
  imports := (importsOf dialect (fragments.map Hook.Fragment.symbols)).text
  content := String.intercalate "\n\n" (fragments.map (Hook.Fragment.text dialect))
  hooks := fragments.map Hook.Fragment.name

/-- The fragments of a run, or its error. -/
theorem fragments_eq (toggles : Hook.Toggles) (contracts : List Contract) :
    fragments toggles contracts =
      match firstFault? [] (stepsOf (hookNames toggles) contracts) with
      | some e => .error e
      | none => .ok (contracts.flatMap (fragmentsOf toggles)) :=
  emittedFrom_eq Hook.fragment toggles contracts fun _ => Iff.rfl

/-- The hooks of a run as they are written in a dialect, or its error. -/
theorem writtenHooks_eq (toggles : Hook.Toggles) (dialect : Dialect) (contracts : List Contract) :
    writtenHooks toggles dialect contracts =
      match firstFault? [] (stepsOf (hookNames toggles) contracts) with
      | some e => .error e
      | none => .ok (contracts.flatMap (emittedOf (Hook.emit dialect) toggles)) :=
  emittedFrom_eq (Hook.emit dialect) toggles contracts fun _ => Iff.rfl

/-- What is emitted for a contract is made from its fragments, if it is for each of its hooks. -/
theorem map_emittedOf {α β γ : Type} {emit : Hook → String → Target → α}
    {other : Hook → String → Target → β} {f : α → γ} {g : β → γ}
    (h : ∀ hook name target, f (emit hook name target) = g (other hook name target))
    (toggles : Hook.Toggles) (contracts : List Contract) :
    (contracts.flatMap (emittedOf emit toggles)).map f =
      (contracts.flatMap (emittedOf other toggles)).map g := by
  rw [List.map_flatMap, List.map_flatMap]
  refine List.flatMap_congr fun c _ => ?_
  unfold emittedOf
  cases c.target with
  | error e => rfl
  | ok target =>
    rw [List.map_map, List.map_map]
    exact List.map_congr_left fun hook _ => h hook _ target

/-- A module of written hooks is that of their fragments. -/
theorem ofHooks_eq_ofFragments (toggles : Hook.Toggles) (dialect : Dialect)
    (contracts : List Contract) :
    Output.ofHooks dialect (contracts.flatMap (emittedOf (Hook.emit dialect) toggles)) =
      Output.ofFragments dialect (contracts.flatMap (fragmentsOf toggles)) := by
  have hsame {γ : Type} {f : Hook.Written → γ} {g : Hook.Fragment → γ}
      (h : ∀ hook name target,
        f (Hook.emit dialect hook name target) = g (Hook.fragment hook name target)) :
      (contracts.flatMap (emittedOf (Hook.emit dialect) toggles)).map f =
        (contracts.flatMap (fragmentsOf toggles)).map g :=
    map_emittedOf h toggles contracts
  unfold Output.ofHooks Output.ofFragments
  rw [hsame (g := Hook.Fragment.symbols) fun _ _ _ => rfl,
    hsame (g := Hook.Fragment.text dialect) fun _ _ _ => rfl,
    hsame (g := Hook.Fragment.name) fun _ _ _ => rfl]

end ContractHooks
