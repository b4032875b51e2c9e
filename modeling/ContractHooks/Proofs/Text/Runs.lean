-- The maximal runs of characters of a class in a text, such as the identifiers in code. A run
-- is a part of the text with no character of the class right before or right after it.
import Mathlib.Data.List.Basic

namespace ContractHooks.Text

variable {p : Char → Bool}

/-- The maximal runs of characters of a class, in order. -/
def runs (p : Char → Bool) (cs : List Char) : List (List Char) :=
  (cs.splitOnP fun c => !p c).filter (· ≠ [])

/-- Whether the text is empty or ends with a character outside the class. -/
def EndsOutside (p : Char → Bool) (cs : List Char) : Prop := ∀ c ∈ cs.getLast?, p c = false

/-- Whether the text is empty or starts with a character outside the class. -/
def StartsOutside (p : Char → Bool) (cs : List Char) : Prop := ∀ c ∈ cs.head?, p c = false

instance (p : Char → Bool) (cs : List Char) : Decidable (EndsOutside p cs) :=
  decidable_of_iff (cs.getLast?.all (fun c => !p c) = true) (by simp [EndsOutside, Option.all_eq_true])

instance (p : Char → Bool) (cs : List Char) : Decidable (StartsOutside p cs) :=
  decidable_of_iff (cs.head?.all (fun c => !p c) = true) (by simp [StartsOutside, Option.all_eq_true])

/-- The word stands in the text, with no character of the class right before or after it. -/
def StandsIn (p : Char → Bool) (w cs : List Char) : Prop :=
  ∃ before after, cs = before ++ w ++ after ∧ EndsOutside p before ∧ StartsOutside p after

/-! ## Cutting -/

@[simp] theorem runs_nil : runs p [] = [] := by simp [runs]

/-- A text is cut at each character outside the class. -/
theorem runs_append_cons {c : Char} (hc : p c = false) (a b : List Char) :
    runs p (a ++ c :: b) = runs p a ++ runs p b := by
  unfold runs
  rw [List.splitOnP_append_cons a b (by simp [hc]), List.filter_append]

theorem runs_cons {c : Char} (hc : p c = false) (b : List Char) : runs p (c :: b) = runs p b := by
  simpa using runs_append_cons hc [] b

theorem runs_concat {c : Char} (hc : p c = false) (a : List Char) :
    runs p (a ++ [c]) = runs p a := by
  simpa using runs_append_cons hc a []

/-- Two texts have their runs apart if the first ends, or the second starts, outside the
class. -/
theorem runs_append {a b : List Char} (h : EndsOutside p a ∨ StartsOutside p b) :
    runs p (a ++ b) = runs p a ++ runs p b := by
  rcases h with h | h
  · rcases List.eq_nil_or_concat a with rfl | ⟨a, c, rfl⟩
    · simp
    · have hc : p c = false := h c (by simp)
      rw [List.concat_eq_append, runs_concat hc, List.append_assoc, List.singleton_append,
        runs_append_cons hc]
  · cases b with
    | nil => simp
    | cons c b =>
      have hc : p c = false := h c rfl
      rw [runs_append_cons hc, runs_cons hc]

/-- A text all of the class is one run. -/
theorem runs_of_forall {w : List Char} (h : ∀ c ∈ w, p c = true) (hne : w ≠ []) :
    runs p w = [w] := by
  rw [runs, List.splitOnP_eq_singleton fun c hc => by simp [h c hc]]
  simp [hne]

/-- Classes that agree on a text have the same runs in it. -/
theorem runs_congr {q : Char → Bool} {cs : List Char} (h : ∀ c ∈ cs, p c = q c) :
    runs p cs = runs q cs := by
  unfold runs
  congr 1
  induction cs with
  | nil => rfl
  | cons c cs ih =>
    rw [List.splitOnP_cons_eq_if_modifyHead, List.splitOnP_cons_eq_if_modifyHead,
      h c List.mem_cons_self, ih fun d hd => h d (List.mem_cons_of_mem c hd)]

/-! ## What stands in a text -/

theorem StandsIn.append_left {w b : List Char} (h : StandsIn p w b) {a : List Char}
    (ha : EndsOutside p a) : StandsIn p w (a ++ b) := by
  obtain ⟨before, after, rfl, hbefore, hafter⟩ := h
  refine ⟨a ++ before, after, by simp, ?_, hafter⟩
  intro c hc
  rw [List.getLast?_append] at hc
  cases hl : before.getLast? with
  | none => exact ha c (by simpa [hl] using hc)
  | some d => exact hbefore c (by simpa [hl] using hc)

theorem StandsIn.append_right {w a : List Char} (h : StandsIn p w a) {b : List Char}
    (hb : StartsOutside p b) : StandsIn p w (a ++ b) := by
  obtain ⟨before, after, rfl, hbefore, hafter⟩ := h
  refine ⟨before, after ++ b, by simp, hbefore, ?_⟩
  intro c hc
  rw [List.head?_append] at hc
  cases hh : after.head? with
  | none => exact hb c (by simpa [hh] using hc)
  | some d => exact hafter c (by simpa [hh] using hc)

/-- A run of a text stands in it. The text is cut at any character outside the class, and both
parts are shorter. -/
theorem standsIn_of_mem_runs {w cs : List Char} (h : w ∈ runs p cs) : StandsIn p w cs := by
  by_cases hall : ∀ c ∈ cs, p c = true
  · by_cases hne : cs = []
    · simp [hne] at h
    · rw [runs_of_forall hall hne, List.mem_singleton] at h
      exact ⟨[], [], by simp [h], fun c hc => by simp at hc, fun c hc => by simp at hc⟩
  · simp only [not_forall, Bool.not_eq_true] at hall
    obtain ⟨c, hmem, hc⟩ := hall
    obtain ⟨a, b, heq⟩ := List.append_of_mem hmem
    have hlen : cs.length = a.length + b.length + 1 := by
      rw [heq, List.length_append, List.length_cons]
      omega
    rw [heq, runs_append_cons hc, List.mem_append] at h
    rw [heq]
    rcases h with h | h
    · refine (standsIn_of_mem_runs h).append_right fun d hd => ?_
      cases hd
      exact hc
    · rw [← List.singleton_append, ← List.append_assoc]
      refine (standsIn_of_mem_runs h).append_left fun d hd => ?_
      simp at hd
      exact hd ▸ hc
termination_by cs.length
decreasing_by
  · omega
  · omega

/-- The runs of a text are the words of the class that stand in it. -/
theorem mem_runs_iff {w cs : List Char} (hw : ∀ c ∈ w, p c = true) (hne : w ≠ []) :
    w ∈ runs p cs ↔ StandsIn p w cs := by
  constructor
  · exact standsIn_of_mem_runs
  · rintro ⟨before, after, rfl, hbefore, hafter⟩
    rw [List.append_assoc, runs_append (.inl hbefore), runs_append (.inr hafter),
      runs_of_forall hw hne]
    simp

end ContractHooks.Text
