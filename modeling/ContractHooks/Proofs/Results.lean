-- Results of stages, each of which can fail: the last one counts only where those before it have
-- not failed, and the first failure is the failure of all. The same holds of one stage that is gone
-- through for each element of a list.
import Mathlib.Data.List.Forall2

namespace ContractHooks

variable {ε α β : Type} {x : Except ε α} {f : α → Except ε β}

/-- Two stages succeed when both do. -/
theorem bind_eq_ok {b : β} : x >>= f = .ok b ↔ ∃ a, x = .ok a ∧ f a = .ok b := by
  cases x with
  | error e => simp [bind, Except.bind]
  | ok a => simp [bind, Except.bind]

/-- Two stages fail when the first one does or the second one behind it. -/
theorem bind_eq_error {e : ε} :
    x >>= f = .error e ↔ x = .error e ∨ ∃ a, x = .ok a ∧ f a = .error e := by
  cases x with
  | error e' => simp [bind, Except.bind]
  | ok a => simp [bind, Except.bind]

/-- A result that is only put into another form succeeds when it does. -/
theorem bind_pure_eq_ok {g : α → β} {b : β} :
    (x >>= fun a => pure (g a)) = .ok b ↔ ∃ a, x = .ok a ∧ g a = b := by
  rw [bind_eq_ok]
  simp [pure, Except.pure]

/-- A result that is only put into another form fails when it does. -/
theorem bind_pure_eq_error {g : α → β} {e : ε} :
    (x >>= fun a => pure (g a)) = .error e ↔ x = .error e := by
  rw [bind_eq_error]
  simp [pure, Except.pure]

/-- What does not succeed fails. -/
theorem not_exists_eq_ok_iff : (¬ ∃ a, x = .ok a) ↔ ∃ e, x = .error e := by
  cases x <;> simp

/-- A stage succeeds on a list when it does on each element, with one result for each. -/
theorem mapM_eq_ok_iff {l : List α} {bs : List β} :
    l.mapM f = .ok bs ↔ List.Forall₂ (fun a b => f a = .ok b) l bs := by
  induction l generalizing bs with
  | nil =>
    rw [List.mapM_nil, List.forall₂_nil_left_iff]
    exact ⟨fun h => (Except.ok.inj h).symm, fun h => congrArg _ h.symm⟩
  | cons a l ih =>
    rw [List.mapM_cons, bind_eq_ok, List.forall₂_cons_left_iff]
    constructor
    · rintro ⟨b, hb, hrest⟩
      obtain ⟨rest, hrest, h⟩ := bind_eq_ok.1 hrest
      exact ⟨b, rest, hb, ih.1 hrest, (Except.ok.inj h).symm⟩
    · rintro ⟨b, rest, hb, hrest, rfl⟩
      exact ⟨b, hb, bind_eq_ok.2 ⟨rest, ih.2 hrest, rfl⟩⟩

/-- A result of a stage on a list is that of an element. -/
theorem exists_of_mem_mapM {l : List α} {bs : List β} (h : l.mapM f = .ok bs) {b : β}
    (hb : b ∈ bs) : ∃ a ∈ l, f a = .ok b := by
  have hresults := mapM_eq_ok_iff.1 h
  clear h
  induction hresults with
  | nil => cases hb
  | cons hab _ ih =>
    rcases List.mem_cons.1 hb with rfl | hb
    · exact ⟨_, List.mem_cons_self, hab⟩
    · obtain ⟨a, ha, hresult⟩ := ih hb
      exact ⟨a, List.mem_cons_of_mem _ ha, hresult⟩

/-- Two stages that agree on each element of a list agree on the list. -/
theorem mapM_congr {g : α → Except ε β} {l : List α} (h : ∀ a ∈ l, f a = g a) :
    l.mapM f = l.mapM g := by
  induction l with
  | nil => rfl
  | cons a l ih =>
    obtain ⟨ha, hrest⟩ := List.forall_mem_cons.1 h
    rw [List.mapM_cons, List.mapM_cons, ha, ih hrest]

/-- A stage succeeds on a list just where it does on each element. -/
theorem exists_mapM_eq_ok_iff {l : List α} :
    (∃ bs, l.mapM f = .ok bs) ↔ ∀ a ∈ l, ∃ b, f a = .ok b := by
  simp only [mapM_eq_ok_iff]
  induction l with
  | nil => simp
  | cons a l ih => simp [List.forall₂_cons_left_iff, ← ih]

/-- A stage fails on a list as it does on the first element that it fails on. -/
theorem mapM_eq_error_iff {l : List α} {e : ε} :
    l.mapM f = .error e ↔
      ∃ before a after, l = before ++ a :: after ∧ (∀ b ∈ before, ∃ c, f b = .ok c) ∧
        f a = .error e := by
  induction l with
  | nil => simp [pure, Except.pure]
  | cons a l ih =>
    rw [List.mapM_cons, bind_eq_error]
    constructor
    · rintro (ha | ⟨b, hb, hrest⟩)
      · exact ⟨[], a, l, rfl, List.forall_mem_nil _, ha⟩
      · obtain ⟨before, c, after, rfl, hbefore, hc⟩ : ∃ before c after, l = before ++ c :: after ∧
            (∀ b ∈ before, ∃ c, f b = .ok c) ∧ f c = .error e := by
          rcases bind_eq_error.1 hrest with hrest | ⟨rest, -, h⟩
          · exact ih.1 hrest
          · cases h
        refine ⟨a :: before, c, after, rfl, ?_, hc⟩
        rw [List.forall_mem_cons]
        exact ⟨⟨b, hb⟩, hbefore⟩
    · rintro ⟨before, c, after, heq, hbefore, hc⟩
      cases before with
      | nil =>
        obtain ⟨rfl, rfl⟩ := List.cons.inj heq
        exact .inl hc
      | cons d before =>
        obtain ⟨rfl, rfl⟩ := List.cons.inj heq
        obtain ⟨⟨b, hb⟩, hbefore⟩ := List.forall_mem_cons.1 hbefore
        exact .inr ⟨b, hb, bind_eq_error.2 (.inl (ih.2 ⟨before, c, after, rfl, hbefore, hc⟩))⟩

/-! ## Checks -/

section Checks

variable {check : α → Except ε Unit} {checkAll : List α → Except ε Unit}

/-- A check of each element of a list in turn succeeds just where it does on each. -/
theorem checkAll_eq_ok_iff (hnil : checkAll [] = .ok ())
    (hcons : ∀ a l, checkAll (a :: l) = check a >>= fun _ => checkAll l) {l : List α} :
    checkAll l = .ok () ↔ ∀ a ∈ l, check a = .ok () := by
  induction l with
  | nil => simp [hnil]
  | cons a l ih =>
    rw [hcons, bind_eq_ok, List.forall_mem_cons, ih]
    exact ⟨fun ⟨_, ha, hl⟩ => ⟨ha, hl⟩, fun ⟨ha, hl⟩ => ⟨(), ha, hl⟩⟩

/-- It fails as it does on the first element that it fails on. -/
theorem checkAll_eq_error_iff (hnil : checkAll [] = .ok ())
    (hcons : ∀ a l, checkAll (a :: l) = check a >>= fun _ => checkAll l) {l : List α} {e : ε} :
    checkAll l = .error e ↔
      ∃ before a after, l = before ++ a :: after ∧ (∀ b ∈ before, check b = .ok ()) ∧
        check a = .error e := by
  have hmapM : ∀ l, checkAll l = .error e ↔ l.mapM check = .error e := by
    intro l
    induction l with
    | nil => simp [hnil, pure, Except.pure]
    | cons a l ih =>
      rw [hcons, List.mapM_cons, bind_eq_error, bind_eq_error]
      simp only [bind_pure_eq_error, ih]
  rw [hmapM, mapM_eq_error_iff]
  simp only [Unique.exists_iff]

end Checks

end ContractHooks
