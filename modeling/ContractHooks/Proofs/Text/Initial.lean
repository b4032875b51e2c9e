-- How names with capitals start. The first cluster of a word is written in upper case, the upper
-- case of a character is never nothing, and no character has a small letter at the start of its
-- upper case. So a name with capitals does not start with a small letter, whatever it was made of.
import ContractHooks.Proofs.Text.Recased

namespace ContractHooks.Text

/-- The text does not start with a small letter. -/
def StartsTall (cs : List Char) : Prop := ∀ c ∈ cs.head?, c.isLower = false

instance (cs : List Char) : Decidable (StartsTall cs) :=
  decidable_of_iff (cs.head?.all (fun c => !c.isLower) = true) (by simp [StartsTall, Option.all_eq_true])

theorem startsTall_cons {c : Char} (h : c.isLower = false) (cs : List Char) :
    StartsTall (c :: cs) := by
  rintro d ⟨⟩
  exact h

theorem StartsTall.append {a : List Char} (h : StartsTall a) (hne : a ≠ []) (b : List Char) :
    StartsTall (a ++ b) := by
  unfold StartsTall at h ⊢
  rwa [List.head?_append_of_ne_nil a hne]

/-! ## One character -/

theorem isLower_eq_false {c : Char} (h : c.toNat < 97 ∨ 122 < c.toNat) : c.isLower = false := by
  have hiff : c.isLower = true ↔ 97 ≤ c.toNat ∧ c.toNat ≤ 122 := by
    change (decide (97 ≤ c.val) && decide (c.val ≤ 122)) = true ↔ _
    simp [UInt32.le_iff_toNat_le]
  rw [Bool.eq_false_iff, Ne, hiff]
  omega

/-- A code point that is not that of a small letter stands for none, not even if it is invalid. -/
theorem isLower_ofNat {n : Nat} (h : n < 97 ∨ 122 < n) : (Char.ofNat n).isLower = false := by
  by_cases hn : n.isValidChar
  · apply isLower_eq_false
    rw [Char.ofNat, dif_pos hn]
    exact h
  · rw [Char.ofNat, dif_neg hn]
    decide

theorem toUpper_isLower {c : Char} (h : c.toNat < 128) : c.toUpper.isLower = false :=
  ascii_forall (p := fun c => c.toUpper.isLower = false) (by decide) h

/-- No table entry leads to a small letter or to nothing. -/
theorem startsTall_mapCase {c : Char} (hc : 128 ≤ c.toNat) :
    mapCase upperRuns upperExpansions c ≠ [] ∧
      StartsTall (mapCase upperRuns upperExpansions c) := by
  have hruns : ∀ run ∈ upperRuns, run.last + run.offset < 97 ∨ 122 < run.first + run.offset := by
    decide +kernel
  have hexpansions : ∀ e ∈ upperExpansions, ∃ n ∈ e.2.head?, n < 97 ∨ 122 < n := by
    decide +kernel
  rcases mapCase_cases upperRuns upperExpansions c with
    ⟨e, he, h⟩ | ⟨run, hrun, n, hfirst, hlast, h⟩ | h <;> rw [h]
  · obtain ⟨n, hn, hbound⟩ := hexpansions e he
    obtain ⟨ns, hns⟩ := List.head?_eq_some_iff.1 hn
    rw [hns]
    exact ⟨List.cons_ne_nil _ _, startsTall_cons (isLower_ofNat hbound) _⟩
  · have hbound := hruns run hrun
    exact ⟨List.cons_ne_nil _ _, startsTall_cons (isLower_ofNat (by omega)) _⟩
  · exact ⟨List.cons_ne_nil _ _, startsTall_cons (isLower_eq_false (by omega)) _⟩

theorem startsTall_upperChar (c : Char) : upperChar c ≠ [] ∧ StartsTall (upperChar c) := by
  unfold upperChar
  split
  · next h =>
    exact ⟨List.cons_ne_nil _ _, startsTall_cons (toUpper_isLower h) _⟩
  · next h => exact startsTall_mapCase (Nat.le_of_not_lt h)

/-! ## Texts -/

theorem startsTall_upper {cs : List Char} (h : cs ≠ []) : upper cs ≠ [] ∧ StartsTall (upper cs) := by
  cases cs with
  | nil => exact absurd rfl h
  | cons c cs =>
    obtain ⟨hne, htall⟩ := startsTall_upperChar c
    rw [upper, List.flatMap_cons]
    exact ⟨List.append_ne_nil_of_left_ne_nil hne _, htall.append hne _⟩

theorem clustersFrom_ne_nil {current cs : List Char} (h : current ≠ []) :
    ∀ g ∈ clustersFrom current cs, g ≠ [] := by
  induction cs generalizing current with
  | nil => simpa [clustersFrom] using h
  | cons c cs ih =>
    rw [clustersFrom]
    split
    · exact ih (List.cons_ne_nil c current)
    · rw [List.forall_mem_cons]
      exact ⟨by simpa using h, ih (List.cons_ne_nil c [])⟩

theorem clusters_ne_nil (cs : List Char) : ∀ g ∈ clusters cs, g ≠ [] := by
  cases cs with
  | nil => exact List.forall_mem_nil _
  | cons c cs => exact clustersFrom_ne_nil (List.cons_ne_nil c [])

/-- A name with capitals does not start with a small letter. -/
theorem startsTall_pascal (name : String) : StartsTall (pascal name).toList := by
  unfold pascal
  rw [String.toList_ofList]
  cases hwords : words name with
  | nil => exact fun c hc => nomatch hc
  | cons w ws =>
    have hw : w ∈ words name := hwords ▸ List.mem_cons_self
    obtain ⟨hcut, hne⟩ := List.mem_filter.1 hw
    cases w with
    | nil => simp at hne
    | cons g gs =>
      have hg : g ∈ clusters name.toList := by
        simpa using mem_wordsFrom hcut List.mem_cons_self
      obtain ⟨hupper, htall⟩ := startsTall_upper (clusters_ne_nil _ g hg)
      rw [List.flatMap_cons, capitalized, List.append_assoc]
      exact htall.append hupper _

end ContractHooks.Text
