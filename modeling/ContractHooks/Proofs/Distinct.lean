-- Lists with each element kept at its first place: what one more element changes, and that
-- nothing is left twice. Among such elements one is picked out at most once.
import Mathlib.Data.List.Induction
import Mathlib.Data.List.Nodup

namespace ContractHooks

variable {α : Type} [BEq α] [LawfulBEq α]

theorem eraseDups_append_singleton (l : List α) (a : α) :
    (l ++ [a]).eraseDups = l.eraseDups ++ (if a ∈ l then [] else [a]) := by
  rw [List.eraseDups_append]
  by_cases h : a ∈ l <;> simp [List.removeAll, h, List.eraseDups_cons]

theorem nodup_eraseDups (l : List α) : l.eraseDups.Nodup := by
  induction l using List.reverseRecOn with
  | nil => exact List.nodup_nil
  | append_singleton l a ih =>
    rw [eraseDups_append_singleton]
    by_cases h : a ∈ l
    · simpa [h] using ih
    · rw [if_neg h, List.nodup_append]
      refine ⟨ih, List.nodup_singleton a, ?_⟩
      rintro b hb c hc rfl
      rw [List.mem_eraseDups] at hb
      exact h (List.mem_singleton.1 hc ▸ hb)

theorem eraseDups_sublist (l : List α) : l.eraseDups.Sublist l := by
  induction l using List.reverseRecOn with
  | nil => exact List.Sublist.slnil
  | append_singleton l a ih =>
    rw [eraseDups_append_singleton]
    refine ih.append ?_
    split
    · exact List.nil_sublist _
    · exact List.Sublist.refl _

theorem eraseDups_eq_self_iff {l : List α} : l.eraseDups = l ↔ l.Nodup := by
  refine ⟨fun h => h ▸ nodup_eraseDups l, fun h => ?_⟩
  induction l using List.reverseRecOn with
  | nil => rfl
  | append_singleton l a ih =>
    obtain ⟨hl, -, hdisjoint⟩ := List.nodup_append.1 h
    have ha : a ∉ l := fun ha => hdisjoint a ha a List.mem_cons_self rfl
    rw [eraseDups_append_singleton, ih hl, if_neg ha]

theorem eraseDups_filter (p : α → Bool) (l : List α) :
    (l.filter p).eraseDups = l.eraseDups.filter p := by
  induction l using List.reverseRecOn with
  | nil => rfl
  | append_singleton l a ih =>
    rw [eraseDups_append_singleton, List.filter_append, List.filter_append, ← ih]
    by_cases hp : p a = true
    · by_cases h : a ∈ l <;>
        simp [hp, eraseDups_append_singleton, List.mem_filter, h]
    · by_cases h : a ∈ l <;> simp [hp, h]

/-- Among distinct elements one is picked out at most once. -/
theorem flatMap_ite_eq {β : Type} [DecidableEq α] {l : List α} (h : l.Nodup) (a : α)
    (picked : List β) :
    (l.flatMap fun b => if b = a then picked else []) = if a ∈ l then picked else [] := by
  induction l with
  | nil => rfl
  | cons b l ih =>
    obtain ⟨hb, hrest⟩ := List.nodup_cons.1 h
    rw [List.flatMap_cons, ih hrest]
    by_cases he : b = a
    · subst he
      simp [hb]
    · simp [he, Ne.symm he]

end ContractHooks
