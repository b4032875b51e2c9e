-- What a hook is for, seen from the interface: the name that entries of one key share and, where
-- there are several of them, their signatures. What such a text has in it is in the name or in a
-- type of one of these entries.
import ContractHooks.Module.Plan
import ContractHooks.Proofs.Abi.Spelling
import ContractHooks.Proofs.Hook.Wording

namespace ContractHooks

open Abi (Traceable)

/-! ## The constants of a contract -/

/-- The names of the constants of a contract. -/
def Contract.constantNames (c : Contract) : List String :=
  c.constants.abi :: (c.constants.address.toList ++ c.constants.config.toList)

/-- A target has no names but those of constants. -/
theorem targetNames_subset_constantNames {c : Contract} {target : Target}
    (h : c.target = .ok target) : Hook.targetNames target ⊆ c.constantNames := by
  intro n hn
  unfold Contract.target at h
  unfold Contract.constantNames
  split at h
  · cases h
  · cases h
  · cases h
    simp only [Hook.targetNames, List.mem_singleton] at hn
    simp [hn]
  · next haddress =>
    cases h
    simp only [Hook.targetNames, List.mem_cons, List.not_mem_nil, or_false] at hn
    rcases hn with rfl | rfl <;> simp [haddress]
  · split at h
    · next hconfig =>
      cases h
      simp only [Hook.targetNames, List.mem_singleton] at hn
      simp [hconfig, hn]
    · cases h

/-! ## The hooks of an interface -/

/-- What the hooks of a group are for. -/
def Abi.Group.member : Abi.Group → Hook.Member
  | .read o | .write o => Hook.Member.ofFunctions o
  | .event o => Hook.Member.ofEvents o

namespace Hook

/-- The key of the functions or events that a hook is for, if it is for those of one name. -/
def key? : Hook → Option (Abi.GroupClass × String)
  | .read (some o) => some (.read, o.name)
  | .prepareWrite (some o) | .write (some o) => some (.write, o.name)
  | .event (some o) => some (.event, o.name)
  | .contract | .read none | .prepareWrite none | .write none | .event none => none

theorem of_mem_ofGroup {g : Abi.Group} {hook : Hook} (h : hook ∈ ofGroup g) :
    hook.key? = some g.key ∧ hook.member = some g.member := by
  cases g with
  | read o =>
    obtain rfl := List.mem_singleton.1 h
    exact ⟨rfl, rfl⟩
  | write o =>
    simp only [ofGroup, List.mem_cons, List.not_mem_nil, or_false] at h
    rcases h with rfl | rfl <;> exact ⟨rfl, rfl⟩
  | event o =>
    obtain rfl := List.mem_singleton.1 h
    exact ⟨rfl, rfl⟩

theorem of_mem_general {groups : List Abi.Group} {hook : Hook} (h : hook ∈ general groups) :
    hook.key? = none ∧ hook.member = none := by
  simp only [general, List.mem_append, List.mem_singleton] at h
  rcases h with ((rfl | h) | h) | h
  · exact ⟨rfl, rfl⟩
  all_goals
    split at h
    · simp only [List.mem_cons, List.not_mem_nil, or_false] at h
      rcases h with rfl | rfl <;> exact ⟨rfl, rfl⟩
    · cases h

/-- A hook that is for something is one of a group. -/
theorem general_or_group {abi : List Abi.Item} {hook : Hook} (h : hook ∈ Hook.all abi) :
    (hook.key? = none ∧ hook.member = none) ∨
      ∃ g ∈ Abi.groups abi, hook.key? = some g.key ∧ hook.member = some g.member := by
  rcases List.mem_append.1 h with h | h
  · exact .inl (of_mem_general h)
  · obtain ⟨g, hg, h⟩ := List.mem_flatMap.1 h
    exact .inr ⟨g, hg, of_mem_ofGroup h⟩

theorem mem_all_of_mem_plan {toggles : Hook.Toggles} {abi : List Abi.Item} {hook : Hook}
    (h : hook ∈ plan toggles abi) : hook ∈ Hook.all abi :=
  (List.mem_filter.1 h).1

/-- What functions or events of a class are preset as. -/
def memberKey : Abi.GroupClass → Key
  | .read | .write => .functionName
  | .event => .eventName

theorem name_member (g : Abi.Group) : g.member.name = g.key.2 := by
  cases g <;> rfl

theorem key_member (g : Abi.Group) : g.member.key = memberKey g.key.1 := by
  cases g <;> rfl

/-! ## What the texts have in them -/

variable {q : String → Prop}

theorem of_functions (hq : Traceable q) (o : Abi.Overloads Abi.Function) :
    (∃ s ∈ (Member.ofFunctions o).signatures, q s) ↔
      1 < o.members.length ∧ ∃ f ∈ o.members, ∃ t ∈ Abi.Item.texts (.function f), q t := by
  have hfunction (f : Abi.Function) :
      q ("`" ++ f.signature ++ "` (`" ++ f.selector ++ "`)") ↔
        ∃ t ∈ Abi.Item.texts (.function f), q t := by
    have htext : "`" ++ f.signature ++ "` (`" ++ f.selector ++ "`)" =
        Text.weave ["`", "` (`", "`)"] [f.signature, f.selector] := by
      simp only [Text.weave, String.append_assoc]
    have hselector : ¬ q f.selector := hq.selector _
    rw [hq.of_eq _ _ htext (by decide) rfl]
    simp only [List.mem_cons, List.not_mem_nil, or_false, exists_eq_or_imp, exists_eq_left,
      hselector]
    exact hq.signature f.name f.inputs
  simp only [Member.ofFunctions, Abi.Overloads.isOverloaded, decide_eq_true_eq]
  by_cases h : 1 < o.members.length
  · simp [h, hfunction]
  · simp [h]

theorem of_events (hq : Traceable q) (o : Abi.Overloads Abi.Event) :
    (∃ s ∈ (Member.ofEvents o).signatures, q s) ↔
      1 < o.members.length ∧ ∃ e ∈ o.members, ∃ t ∈ Abi.Item.texts (.event e), q t := by
  have hevent (e : Abi.Event) :
      q ("`" ++ e.signature ++ "`") ↔ ∃ t ∈ Abi.Item.texts (.event e), q t := by
    have htext : "`" ++ e.signature ++ "`" = Text.weave ["`", "`"] [e.signature] :=
      String.append_assoc ..
    rw [hq.of_eq _ _ htext (by decide) rfl]
    simp only [List.mem_cons, List.not_mem_nil, or_false, exists_eq_left]
    exact hq.signature e.name e.inputs
  simp only [Member.ofEvents, Abi.Overloads.isOverloaded, decide_eq_true_eq]
  by_cases h : 1 < o.members.length
  · simp [h, hevent]
  · simp [h]

/-- The signatures of a group are only listed where there are several entries, and have only what
the texts of these have. -/
theorem of_signatures (hq : Traceable q) (g : Abi.Group) :
    (∃ s ∈ g.member.signatures, q s) ↔
      1 < g.entries.length ∧ ∃ i ∈ g.entries, ∃ t ∈ i.texts, q t := by
  cases g with
  | read o | write o =>
    simp only [Abi.Group.entries, List.length_map, List.mem_map, exists_exists_and_eq_and]
    exact of_functions hq o
  | event o =>
    simp only [Abi.Group.entries, List.length_map, List.mem_map, exists_exists_and_eq_and]
    exact of_events hq o

/-- The texts that the hooks of an interface bring along have only what the names of constants and
the texts of the interface have. -/
theorem of_givenTexts (hq : Traceable q) {abi : List Abi.Item} {hook : Hook}
    (hhook : hook ∈ Hook.all abi) {target : Target} {u : String}
    (hu : u ∈ givenTexts target hook.member) (h : q u) :
    ∃ t ∈ targetNames target ++ abi.flatMap Abi.Item.texts, q t := by
  have htexts {g : Abi.Group} (hg : g ∈ Abi.groups abi) {i : Abi.Item} (hi : i ∈ g.entries)
      {t : String} (ht : t ∈ i.texts) (hqt : q t) :
      ∃ t ∈ targetNames target ++ abi.flatMap Abi.Item.texts, q t := by
    rw [Abi.entries_groups hg] at hi
    have hmem : i ∈ abi := (List.mem_filter.1 hi).1
    exact ⟨t, List.mem_append_right _ (List.mem_flatMap.2 ⟨i, hmem, ht⟩), hqt⟩
  rcases List.mem_append.1 hu with hu | hu
  · exact ⟨u, List.mem_append_left _ hu, h⟩
  · obtain ⟨m, hm, hu⟩ := List.mem_flatMap.1 hu
    have hm : hook.member = some m := Option.mem_toList.1 hm
    rcases general_or_group hhook with ⟨-, hnone⟩ | ⟨g, hg, -, hmember⟩
    · rw [hnone] at hm
      cases hm
    · obtain rfl : g.member = m := Option.some.inj (hmember.symm.trans hm)
      rcases List.mem_cons.1 hu with rfl | hu
      · obtain ⟨i, hi⟩ := List.exists_mem_of_ne_nil _ (Abi.entries_ne_nil hg)
        have hkey := hi
        rw [Abi.entries_groups hg, List.mem_filter] at hkey
        refine htexts hg hi ?_ h
        rw [name_member]
        exact Abi.name_mem_texts (by simpa using hkey.2)
      · obtain ⟨-, i, hi, t, ht, hqt⟩ := (of_signatures hq g).1 ⟨u, hu, h⟩
        exact htexts hg hi ht hqt

/-- The texts that the hooks of a key tell: the name and, where several entries share it, what their
signatures spell. -/
def toldTexts (abi : List Abi.Item) (key : Abi.GroupClass × String) : List String :=
  let entries := abi.filter fun i => i.key? = some key
  key.2 :: if 1 < entries.length then entries.flatMap Abi.Item.spelled else []

theorem exists_told_iff (hq : Abi.Spellable q) {abi : List Abi.Item} {g : Abi.Group}
    (hg : g ∈ Abi.groups abi) (target : Target) :
    (∃ t ∈ givenTexts target (some g.member), q t) ↔
      ∃ t ∈ targetNames target ++ toldTexts abi g.key, q t := by
  have hsignatures : (∃ s ∈ g.member.signatures, q s) ↔
      1 < g.entries.length ∧ ∃ i ∈ g.entries, ∃ t ∈ i.spelled, q t := by
    simp only [of_signatures hq.toTraceable, hq.texts]
  have hmember : (∃ t ∈ g.member.name :: g.member.signatures, q t) ↔
      ∃ t ∈ toldTexts abi g.key, q t := by
    unfold toldTexts
    rw [← Abi.entries_groups hg]
    simp only [List.mem_cons, or_and_right, exists_or, exists_eq_left, hsignatures, name_member]
    refine or_congr_right ?_
    by_cases hlen : 1 < g.entries.length
    · simp only [hlen, true_and, if_true, List.mem_flatMap]
      tauto
    · simp [hlen]
  unfold givenTexts
  simp only [Option.toList_some, List.flatMap_cons, List.flatMap_nil, List.append_nil,
    List.mem_append, or_and_right, exists_or, hmember]

end Hook

end ContractHooks
