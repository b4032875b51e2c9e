-- What an ordered map of pairs holds: for each key the value of the last pair with it, and nothing
-- else.
import ContractHooks.Ordered
import Mathlib.Data.List.Induction
import Mathlib.Data.List.Sort

namespace ContractHooks.Ordered

/-- What the order of the keys of a map has to keep to. -/
structure LawfulKeys (κ : Type) [LT κ] : Prop where
  irrefl : ∀ a : κ, ¬ a < a
  trans : ∀ {a b c : κ}, a < b → b < c → a < c
  connected : ∀ a b : κ, ¬ a < b → a ≠ b → b < a

variable {κ α : Type}

section

variable [LT κ]

/-- Of the values in order, the first one of which something does not hold is the one with the least
key. -/
theorem first_iff_least (laws : LawfulKeys κ) {m : List (κ × α)} (h : Ascending m) {P : α → Prop}
    {a : α} :
    (∃ before after, m.map Prod.snd = before ++ a :: after ∧ (∀ b ∈ before, P b) ∧ ¬ P a) ↔
      ∃ key, (key, a) ∈ m ∧ ¬ P a ∧ ∀ q ∈ m, ¬ P q.2 → ¬ q.1 < key := by
  constructor
  · rintro ⟨before, after, hm, hbefore, ha⟩
    obtain ⟨front, back, rfl, rfl, hback⟩ := List.map_eq_append_iff.1 hm
    obtain ⟨⟨key, a'⟩, back, rfl, rfl, -⟩ := List.map_eq_cons_iff.1 hback
    obtain ⟨-, hascending, -⟩ := List.pairwise_append.1 h
    refine ⟨key, List.mem_append_right _ List.mem_cons_self, ha, fun q hq hbad => ?_⟩
    rcases List.mem_append.1 hq with hq | hq
    · exact absurd (hbefore _ (List.mem_map_of_mem hq)) hbad
    · rcases List.mem_cons.1 hq with rfl | hq
      · exact laws.irrefl _
      · exact fun hlt => laws.irrefl _ (laws.trans hlt ((List.pairwise_cons.1 hascending).1 q hq))
  · rintro ⟨key, hmem, ha, hleast⟩
    obtain ⟨front, back, rfl⟩ := List.append_of_mem hmem
    obtain ⟨-, -, hbelow⟩ := List.pairwise_append.1 h
    refine ⟨front.map Prod.snd, back.map Prod.snd, by simp, fun b hb => ?_, ha⟩
    obtain ⟨q, hq, rfl⟩ := List.mem_map.1 hb
    by_contra hbad
    exact hleast q (List.mem_append_left _ hq) hbad (hbelow q hq _ List.mem_cons_self)

/-- Two ordered maps that hold the same values are the same. -/
theorem eq_of_mem_iff (laws : LawfulKeys κ) {m m' : List (κ × α)} (h : Ascending m)
    (h' : Ascending m') (hmem : ∀ key a, (key, a) ∈ m ↔ (key, a) ∈ m') : m = m' := by
  have hirrefl : Std.Irrefl fun p q : κ × α => p.1 < q.1 := ⟨fun p => laws.irrefl p.1⟩
  have hantisymm : Std.Antisymm fun p q : κ × α => p.1 < q.1 :=
    ⟨fun p _ hpq hqp => absurd (laws.trans hpq hqp) (laws.irrefl p.1)⟩
  exact List.Pairwise.eq_of_mem_iff h h' fun p => hmem p.1 p.2

end

variable [DecidableEq κ]

/-- Where no key is repeated, a key has the value of its one pair. -/
theorem lookup_reverse_iff {pairs : List (κ × α)} (hdistinct : (pairs.map Prod.fst).Nodup)
    {key : κ} {a : α} : pairs.reverse.lookup key = some a ↔ (key, a) ∈ pairs := by
  rw [List.lookup_eq_some_iff, ← List.mem_reverse]
  constructor
  · rintro ⟨before, after, hpairs, -⟩
    rw [hpairs]
    exact List.mem_append_right _ List.mem_cons_self
  · intro hmem
    obtain ⟨before, after, hpairs⟩ := List.append_of_mem hmem
    refine ⟨before, after, hpairs, fun p hp => bne_iff_ne.2 fun hkey => ?_⟩
    rw [← List.nodup_reverse, ← List.map_reverse, hpairs, List.map_append] at hdistinct
    exact (List.nodup_append.1 hdistinct).2.2 p.1 (List.mem_map_of_mem hp) key
      List.mem_cons_self hkey.symm

theorem get?_eq_none {key : κ} {m : List (κ × α)} (h : ∀ p ∈ m, key ≠ p.1) :
    get? key m = none := by
  induction m with
  | nil => rfl
  | cons p rest ih =>
    obtain ⟨hp, hrest⟩ := List.forall_mem_cons.1 h
    rw [get?, if_neg hp, ih hrest]

variable [LT κ]

/-- In an ordered map a key has one value. -/
theorem mem_iff_get? (laws : LawfulKeys κ) {m : List (κ × α)} (h : Ascending m) {key : κ} {a : α} :
    (key, a) ∈ m ↔ get? key m = some a := by
  induction m with
  | nil => simp [get?]
  | cons p rest ih =>
    obtain ⟨k, b⟩ := p
    obtain ⟨habove, hrest⟩ := List.pairwise_cons.1 h
    rw [List.mem_cons, ih hrest, get?]
    by_cases hk : key = k
    · subst hk
      have hnone : get? key rest = none :=
        get?_eq_none fun p hp he => laws.irrefl key (he ▸ habove p hp)
      simp [hnone, eq_comm]
    · simp [hk]

variable [DecidableRel (α := κ) (· < ·)]

theorem ofList_concat (pairs : List (κ × α)) (p : κ × α) :
    ofList (pairs ++ [p]) = insert p.1 p.2 (ofList pairs) := by
  simp [ofList, List.foldl_append]

/-- The value of a key is that of the last pair with it. -/
theorem get?_ofList (pairs : List (κ × α)) (key : κ) :
    get? key (ofList pairs) = pairs.reverse.lookup key := by
  induction pairs using List.reverseRecOn with
  | nil => rfl
  | append_singleton pairs p ih =>
    rw [ofList_concat, get?_insert, ih, List.reverse_append, List.reverse_singleton,
      List.singleton_append, List.lookup_cons]
    by_cases h : key = p.1
    · simp [h]
    · rw [if_neg h, beq_false_of_ne h]

theorem LawfulKeys.ascending_ofList (laws : LawfulKeys κ) (pairs : List (κ × α)) :
    Ascending (ofList pairs) :=
  Ordered.ascending_ofList laws.trans laws.connected pairs

/-- The pairs of the map are, for each key, the last pair with it. -/
theorem mem_ofList_iff (laws : LawfulKeys κ) {pairs : List (κ × α)} {key : κ} {a : α} :
    (key, a) ∈ ofList pairs ↔ pairs.reverse.lookup key = some a := by
  rw [mem_iff_get? laws (laws.ascending_ofList pairs), get?_ofList]

/-- The keys of the map are those of the pairs. -/
theorem exists_mem_ofList_iff (laws : LawfulKeys κ) {pairs : List (κ × α)} {key : κ} :
    (∃ a, (key, a) ∈ ofList pairs) ↔ ∃ p ∈ pairs, p.1 = key := by
  simp only [mem_ofList_iff laws]
  rw [← Option.isSome_iff_exists, List.lookup_isSome_iff]
  simp only [List.mem_reverse, beq_iff_eq, eq_comm (b := key)]

/-- What holds of all keys of the map holds of all keys of the pairs. -/
theorem forall_key_ofList_iff (laws : LawfulKeys κ) {pairs : List (κ × α)} {P : κ → Prop} :
    (∀ p ∈ ofList pairs, P p.1) ↔ ∀ p ∈ pairs, P p.1 := by
  constructor
  · intro h p hp
    obtain ⟨a, hmem⟩ := (exists_mem_ofList_iff laws).2 ⟨p, hp, rfl⟩
    exact h (p.1, a) hmem
  · rintro h ⟨key, a⟩ hmem
    obtain ⟨p, hp, rfl⟩ := (exists_mem_ofList_iff laws).1 ⟨a, hmem⟩
    exact h p hp

/-- A key of the map of which something holds is a key of the pairs of which it holds. -/
theorem exists_key_ofList_iff (laws : LawfulKeys κ) {pairs : List (κ × α)} {P : κ → Prop} :
    (∃ p ∈ ofList pairs, P p.1) ↔ ∃ p ∈ pairs, P p.1 := by
  constructor
  · rintro ⟨⟨key, a⟩, hmem, hkey⟩
    obtain ⟨p, hp, rfl⟩ := (exists_mem_ofList_iff laws).1 ⟨a, hmem⟩
    exact ⟨p, hp, hkey⟩
  · rintro ⟨p, hp, hkey⟩
    obtain ⟨a, hmem⟩ := (exists_mem_ofList_iff laws).2 ⟨p, hp, rfl⟩
    exact ⟨_, hmem, hkey⟩

end ContractHooks.Ordered
