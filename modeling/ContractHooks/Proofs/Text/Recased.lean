-- Names in other cases. A name that is cut into words and written with capitals has no line end
-- unless it had one before: no character but the line end itself has it as its upper or lower case.
import ContractHooks.Hook.Kind
import ContractHooks.Proofs.Text.Lines

namespace ContractHooks.Text

/-! ## One character -/

theorem eq_ten_of_ofNat {n : Nat} (h : Char.ofNat n = '\n') : n = 10 := by
  unfold Char.ofNat at h
  by_cases hn : n.isValidChar
  · rw [dif_pos hn] at h
    exact congrArg Char.toNat h
  · rw [dif_neg hn] at h
    exact absurd h (by decide)

/-- The case of a character comes from an expansion or from a run, or is the character itself. -/
theorem mapCase_cases (runs : List CaseRun) (expansions : List (Nat × List Nat)) (c : Char) :
    (∃ e ∈ expansions, mapCase runs expansions c = e.2.map Char.ofNat) ∨
    (∃ run ∈ runs, ∃ n, run.first ≤ n ∧ n ≤ run.last ∧
      mapCase runs expansions c = [Char.ofNat (Int.toNat (n + run.offset))]) ∨
    mapCase runs expansions c = [c] := by
  unfold mapCase
  split
  · next codes hfind => exact .inl ⟨_, List.mem_of_find?_eq_some hfind, rfl⟩
  · split
    · next n hfind =>
      obtain ⟨run, hrun, himage⟩ := List.exists_of_findSome?_eq_some hfind
      unfold CaseRun.image? at himage
      split at himage
      · next hin =>
        cases himage
        exact .inr (.inl ⟨run, hrun, c.toNat, hin.1, hin.2.1, rfl⟩)
      · cases himage
    · exact .inr (.inr rfl)

/-- No table entry leads to the line end. -/
theorem newline_notMem_mapCase {runs : List CaseRun} {expansions : List (Nat × List Nat)}
    (hruns : ∀ run ∈ runs, 10 < run.first + run.offset) (hexpansions : ∀ e ∈ expansions, 10 ∉ e.2)
    {c : Char} (hc : c ≠ '\n') : '\n' ∉ mapCase runs expansions c := by
  intro hm
  rcases mapCase_cases runs expansions c with ⟨e, he, h⟩ | ⟨run, hrun, n, hfirst, -, h⟩ | h <;>
    rw [h] at hm
  · obtain ⟨n, hn, heq⟩ := List.mem_map.1 hm
    exact hexpansions e he (eq_ten_of_ofNat heq ▸ hn)
  · have hten := eq_ten_of_ofNat (List.mem_singleton.1 hm).symm
    have hbound := hruns run hrun
    omega
  · exact hc (List.mem_singleton.1 hm).symm

/-- What can be checked for each code point below 128 holds of every ASCII character. -/
theorem ascii_forall {p : Char → Prop} (h : ∀ n < 128, p (Char.ofNat n)) {c : Char}
    (hc : c.toNat < 128) : p c := by
  have hcode := h c.toNat hc
  rwa [Char.ofNat_toNat] at hcode

theorem toUpper_ne_newline {c : Char} (h : c.toNat < 128) (hc : c ≠ '\n') :
    c.toUpper ≠ '\n' ∧ c.toLower ≠ '\n' :=
  ascii_forall (p := fun c => c ≠ '\n' → c.toUpper ≠ '\n' ∧ c.toLower ≠ '\n') (by decide) h hc

theorem newline_notMem_upperChar {c : Char} (hc : c ≠ '\n') : '\n' ∉ upperChar c := by
  unfold upperChar
  split
  · next h =>
    intro hm
    exact (toUpper_ne_newline h hc).1 (List.mem_singleton.1 hm).symm
  · exact newline_notMem_mapCase (by decide +kernel) (by decide +kernel) hc

theorem newline_notMem_lowerChar {c : Char} (hc : c ≠ '\n') : '\n' ∉ lowerChar c := by
  unfold lowerChar
  split
  · next h =>
    intro hm
    exact (toUpper_ne_newline h hc).2 (List.mem_singleton.1 hm).symm
  · exact newline_notMem_mapCase (by decide +kernel) (by decide +kernel) hc

/-! ## Texts -/

theorem newline_notMem_upper {cs : List Char} (h : '\n' ∉ cs) : '\n' ∉ upper cs := by
  intro hm
  obtain ⟨c, hc, hm⟩ := List.mem_flatMap.1 hm
  refine newline_notMem_upperChar ?_ hm
  rintro rfl
  exact h hc

theorem newline_notMem_lowerAfter {cs : List Char} (h : '\n' ∉ cs) (before : List Char) :
    '\n' ∉ lowerAfter before cs := by
  induction cs generalizing before with
  | nil => exact List.not_mem_nil
  | cons c cs ih =>
    have hc : c ≠ '\n' := fun e => h (e ▸ List.mem_cons_self)
    have hcs := ih (fun hm => h (List.mem_cons_of_mem c hm)) (c :: before)
    unfold lowerAfter
    rw [List.mem_append, not_or]
    refine ⟨?_, hcs⟩
    split
    · split <;> decide
    · exact newline_notMem_lowerChar hc

/-- The words of a name have no clusters but those of the name. -/
theorem mem_wordsFrom {gs current : List (List Char)} {prev : Kind} {w : List (List Char)}
    (hw : w ∈ wordsFrom current prev gs) {g : List Char} (hg : g ∈ w) : g ∈ current ++ gs := by
  induction gs generalizing current prev with
  | nil =>
    obtain rfl := List.mem_singleton.1 hw
    exact List.mem_append_left _ hg
  | cons h gs ih =>
    simp only [wordsFrom] at hw
    simp only [List.mem_append, List.mem_cons] at ih ⊢
    split at hw
    · rcases List.mem_cons.1 hw with rfl | hw
      · exact .inl hg
      · rcases ih hw with hg | hg
        · cases hg
        · exact .inr (.inr hg)
    · split at hw
      · rcases List.mem_cons.1 hw with rfl | hw
        · exact .inl hg
        · rcases ih hw with hg | hg
          · exact .inr (.inl (List.mem_singleton.1 hg))
          · exact .inr (.inr hg)
      · rcases ih hw with hg | hg
        · rcases List.mem_append.1 hg with hg | hg
          · exact .inl hg
          · exact .inr (.inl (List.mem_singleton.1 hg))
        · exact .inr (.inr hg)

theorem mem_of_mem_words {name : String} {w : List (List Char)} (hw : w ∈ words name)
    {g : List Char} (hg : g ∈ w) {c : Char} (hc : c ∈ g) : c ∈ name.toList := by
  have hcluster := mem_wordsFrom (List.mem_filter.1 hw).1 hg
  rw [List.nil_append] at hcluster
  rw [← flatten_clusters name.toList]
  exact List.mem_flatten.2 ⟨g, hcluster, hc⟩

theorem newline_notMem_capitalized {w : List (List Char)} (h : ∀ g ∈ w, '\n' ∉ g) :
    '\n' ∉ capitalized w := by
  cases w with
  | nil => exact List.not_mem_nil
  | cons g gs =>
    unfold capitalized
    rw [List.mem_append, not_or]
    refine ⟨newline_notMem_upper (h g List.mem_cons_self), newline_notMem_lowerAfter ?_ []⟩
    intro hm
    obtain ⟨k, hk, hm⟩ := List.mem_flatten.1 hm
    exact h k (List.mem_cons_of_mem g hk) hm

theorem oneLine_pascal {name : String} (h : OneLine name) : OneLine (pascal name) := by
  unfold OneLine pascal
  rw [String.toList_ofList]
  intro hm
  obtain ⟨w, hw, hm⟩ := List.mem_flatMap.1 hm
  refine newline_notMem_capitalized (fun g hg hc => ?_) hm
  exact h (mem_of_mem_words hw hg hc)

end ContractHooks.Text

namespace ContractHooks.Hook

/-- The name of a function or event that a kind brings along. -/
def Kind.base? : Kind → Option String
  | .functionRead name | .functionWrite name | .prepareFunctionWrite name | .itemEvent name =>
    some name
  | .contract | .contractRead | .contractWrite | .prepareContractWrite | .contractEvent => none

/-- The name of a hook has no line end unless the names that it is made of have one. -/
theorem oneLine_hookName {contract : String} {kind : Kind} (hcontract : Text.OneLine contract)
    (hbase : ∀ name ∈ kind.base?, Text.OneLine name) : Text.OneLine (kind.hookName contract) := by
  have howner := Text.oneLine_pascal hcontract
  have hfixed : ∀ t ∈ ["use", "usePrepare", "Read", "Write", "Event", "On"], Text.OneLine t := by
    simp [Text.OneLine]
  simp only [List.mem_cons, List.not_mem_nil, or_false, forall_eq_or_imp, forall_eq] at hfixed
  cases kind with
  | functionRead name | functionWrite name | prepareFunctionWrite name | itemEvent name =>
    have hname := Text.oneLine_pascal (hbase name rfl)
    simp [Kind.hookName, hfixed, howner, hname]
  | contract | contractRead | contractWrite | prepareContractWrite | contractEvent =>
    simp [Kind.hookName, hfixed, howner]

end ContractHooks.Hook
