-- Finite maps as lists of pairs in ascending order of their keys. Inserting a key that is
-- there already replaces its value, so that of two values for one key the later one stands.
namespace ContractHooks.Ordered

variable {κ α : Type} [LT κ] [DecidableRel (α := κ) (· < ·)] [DecidableEq κ]

/-- The map with a key set to a value. -/
def insert (key : κ) (a : α) : List (κ × α) → List (κ × α)
  | [] => [(key, a)]
  | (k, b) :: rest =>
    if key = k then (key, a) :: rest
    else if key < k then (key, a) :: (k, b) :: rest
    else (k, b) :: insert key a rest

/-- The map of pairs given in any order, later ones replacing earlier ones. -/
def ofList (pairs : List (κ × α)) : List (κ × α) :=
  pairs.foldl (fun acc p => insert p.1 p.2 acc) []

/-- The value of a key. -/
def get? (key : κ) : List (κ × α) → Option α
  | [] => none
  | (k, a) :: rest => if key = k then some a else get? key rest

theorem get?_insert (key k : κ) (a : α) (m : List (κ × α)) :
    get? k (insert key a m) = if k = key then some a else get? k m := by
  induction m with
  | nil => simp [insert, get?]
  | cons p rest ih =>
    obtain ⟨q, b⟩ := p
    simp only [insert]
    split
    · next h =>
      subst h
      simp only [get?]
      split <;> rfl
    · split
      · simp only [get?]
      · simp only [get?, ih]
        grind

/-! ## Order -/

/-- Every key is below the ones behind it. -/
def Ascending (m : List (κ × α)) : Prop := m.Pairwise fun p q => p.1 < q.1

theorem mem_insert {key : κ} {a : α} {m : List (κ × α)} {p : κ × α} (h : p ∈ insert key a m) :
    p = (key, a) ∨ p ∈ m := by
  induction m with
  | nil => simpa [insert] using h
  | cons q rest ih =>
    obtain ⟨k, b⟩ := q
    simp only [insert] at h
    grind

theorem ascending_insert (trans : ∀ {a b c : κ}, a < b → b < c → a < c)
    (connected : ∀ a b : κ, ¬ a < b → a ≠ b → b < a) (key : κ) (a : α) {m : List (κ × α)}
    (h : Ascending m) : Ascending (insert key a m) := by
  induction m with
  | nil => simp [insert, Ascending]
  | cons q rest ih =>
    obtain ⟨k, b⟩ := q
    obtain ⟨below, hrest⟩ := List.pairwise_cons.1 h
    simp only [insert]
    split
    · next hk =>
      subst hk
      exact List.pairwise_cons.2 ⟨below, hrest⟩
    · next hk =>
      split
      · next hlt =>
        refine List.pairwise_cons.2 ⟨fun p hp => ?_, h⟩
        rcases List.mem_cons.1 hp with rfl | hp
        · exact hlt
        · exact trans hlt (below p hp)
      · next hlt =>
        refine List.pairwise_cons.2 ⟨fun p hp => ?_, ih hrest⟩
        rcases mem_insert hp with rfl | hp
        · exact connected _ _ hlt hk
        · exact below p hp

theorem ascending_ofList (trans : ∀ {a b c : κ}, a < b → b < c → a < c)
    (connected : ∀ a b : κ, ¬ a < b → a ≠ b → b < a) (pairs : List (κ × α)) :
    Ascending (ofList pairs) := by
  have step : ∀ (ps m : List (κ × α)), Ascending m →
      Ascending (ps.foldl (fun acc p => insert p.1 p.2 acc) m) := by
    intro ps
    induction ps with
    | nil => intro m h; exact h
    | cons p ps ih => intro m h; exact ih _ (ascending_insert trans connected p.1 p.2 h)
  exact step pairs [] List.Pairwise.nil

end ContractHooks.Ordered
