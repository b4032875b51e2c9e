-- The groups of an interface, seen by their keys: each key of an entry has one group, and the
-- groups stand in the order in which their keys first come up. A group has the entries of its key,
-- in the order of the interface. While entries are added, a key leads to the position of its group,
-- so that a group is only ever pushed entries of its own key, and these it takes.
import ContractHooks.Abi.Group
import ContractHooks.Proofs.Distinct

namespace ContractHooks.Abi

/-- The keys of an interface, each at its first entry. -/
def keys (items : List Item) : List (GroupClass × String) :=
  (items.filterMap Item.key?).eraseDups

/-- The texts of a function: its name and the types of its inputs. -/
def Function.texts (f : Function) : List String := f.name :: f.inputs.map Parameter.canonicalType

/-- The texts of an event: its name and the types of its inputs. -/
def Event.texts (e : Event) : List String := e.name :: e.inputs.map Parameter.canonicalType

/-- The texts of an entry that is grouped. -/
def Item.texts : Item → List String
  | .function f => f.texts
  | .event e => e.texts
  | .error _ | .special _ _ => []

/-- The texts of an entry have the name that it is grouped by. -/
theorem name_mem_texts {item : Item} {k : GroupClass × String} (h : item.key? = some k) :
    k.2 ∈ item.texts := by
  cases item with
  | function f =>
    cases h
    exact List.mem_cons_self
  | event e =>
    cases h
    exact List.mem_cons_self
  | error e => cases h
  | special role f => cases h

namespace Group

/-- The entries that the members stand for. -/
def entries : Group → List Item
  | .read o | .write o => o.members.map Item.function
  | .event o => o.members.map Item.event

/-- The class and the name of the members. -/
def key (g : Group) : GroupClass × String := (g.groupClass, g.name)

/-! ## One entry -/

/-- A group keeps its key whatever is pushed to it. -/
theorem key_push (g : Group) (item : Item) : (g.push item).key = g.key := by
  cases g <;> cases item <;> rfl

/-- A group takes an entry of its key behind the others. -/
theorem entries_push {g : Group} {item : Item} (h : item.key? = some g.key) :
    (g.push item).entries = g.entries ++ [item] := by
  have hclass : item.key?.map Prod.fst = some g.groupClass := by rw [h]; rfl
  cases g with
  | read o | write o =>
    cases item with
    | function f => simp [push, entries, Overloads.push]
    | event e => cases hclass
    | error e => cases hclass
    | special role f => cases hclass
  | event o =>
    cases item with
    | function f => cases hr : f.mutability.isRead <;> simp [Item.key?, groupClass, hr] at hclass
    | event e => simp [push, entries, Overloads.push]
    | error e => cases hclass
    | special role f => cases hclass

theorem map_key_start? (item : Item) : (start? item).map key = item.key? := by
  cases item with
  | function f =>
    simp only [start?, Item.key?, Option.map_some]
    split <;> rfl
  | event e => rfl
  | error e => rfl
  | special role f => rfl

/-- A group that an entry starts has just that entry. -/
theorem entries_of_start? {item : Item} {g : Group} (h : start? item = some g) :
    g.entries = [item] ∧ item.key? = some g.key := by
  refine ⟨?_, by rw [← map_key_start?, h, Option.map_some]⟩
  cases item with
  | function f =>
    simp only [start?, Option.some.injEq] at h
    subst h
    split <;> rfl
  | event e =>
    cases h
    rfl
  | error e => cases h
  | special role f => cases h

end Group

/-! ## All entries -/

section Keys

variable {items : List Item} {item : Item} {k : GroupClass × String}

theorem mem_keys_iff : k ∈ keys items ↔ ∃ i ∈ items, i.key? = some k := by
  rw [keys, List.mem_eraseDups, List.mem_filterMap]

theorem nodup_keys (items : List Item) : (keys items).Nodup := nodup_eraseDups _

theorem keys_concat_of_none (h : item.key? = none) : keys (items ++ [item]) = keys items := by
  simp [keys, List.filterMap_append, h]

theorem keys_concat_of_some (h : item.key? = some k) :
    keys (items ++ [item]) = keys items ++ if k ∈ keys items then [] else [k] := by
  have hlast : [item].filterMap Item.key? = [k] := by simp [h]
  unfold keys
  rw [List.filterMap_append, hlast, eraseDups_append_singleton]
  simp only [List.mem_eraseDups]

end Keys

theorem getElem?_concat_eq_some_iff {α : Type} {l : List α} {a b : α} {i : Nat} :
    (l ++ [a])[i]? = some b ↔ l[i]? = some b ∨ i = l.length ∧ b = a := by
  rw [List.getElem?_append]
  split
  · next hlt => simp [Nat.ne_of_lt hlt]
  · next hge =>
    rw [List.getElem?_eq_none (Nat.not_lt.1 hge), List.getElem?_singleton]
    split
    · next hi => simp [eq_comm, show i = l.length by omega]
    · next hi => simp [show i ≠ l.length by omega]

namespace Grouping

/-- What a grouping holds of the entries that were added to it: a group for each key, in the order
in which the keys first come up, with the entries of the key, and the position of each group. -/
structure Holds (s : Grouping) (items : List Item) : Prop where
  map_key : s.groups.map Group.key = keys items
  entries : ∀ g ∈ s.groups, g.entries = items.filter fun i => i.key? = some g.key
  lookup_iff : ∀ k i, s.positions.lookup k = some i ↔ (keys items)[i]? = some k

variable {s : Grouping} {items : List Item}

theorem holds_empty : empty.Holds [] where
  map_key := rfl
  entries := fun g hg => by cases hg
  lookup_iff := fun k i => by simp [empty, keys]

theorem Holds.lookup_eq_none_iff (h : s.Holds items) (k : GroupClass × String) :
    s.positions.lookup k = none ↔ k ∉ keys items := by
  rw [List.mem_iff_getElem?, not_exists, Option.eq_none_iff_forall_ne_some]
  exact forall_congr' fun i => not_congr (h.lookup_iff k i)

/-- A key leads to its own group. -/
theorem Holds.exists_of_lookup (h : s.Holds items) {k : GroupClass × String} {i : Nat}
    (hi : s.positions.lookup k = some i) : ∃ g, s.groups[i]? = some g ∧ g.key = k := by
  have hk : (s.groups.map Group.key)[i]? = some k := by
    rw [h.map_key]
    exact (h.lookup_iff k i).1 hi
  rw [List.getElem?_map, Option.map_eq_some_iff] at hk
  exact hk

theorem Holds.skip (h : s.Holds items) {item : Item} (hkey : item.key? = none) :
    s.Holds (items ++ [item]) where
  map_key := by rw [keys_concat_of_none hkey, h.map_key]
  entries := fun g hg => by simp [hkey, h.entries g hg]
  lookup_iff := fun k i => by rw [keys_concat_of_none hkey, h.lookup_iff]

theorem Holds.push (h : s.Holds items) {item : Item} {k : GroupClass × String}
    (hkey : item.key? = some k) {i : Nat} (hi : s.positions.lookup k = some i) :
    Holds { s with groups := s.groups.modify i fun g => g.push item } (items ++ [item]) := by
  have hat : (keys items)[i]? = some k := (h.lookup_iff k i).1 hi
  have hkeys : keys (items ++ [item]) = keys items := by
    simp [keys_concat_of_some hkey, List.mem_of_getElem? hat]
  refine ⟨?_, ?_, ?_⟩
  · rw [hkeys, ← h.map_key]
    apply List.ext_getElem?
    intro j
    rw [List.getElem?_map, List.getElem?_map, List.getElem?_modify]
    cases s.groups[j]? with
    | none => rfl
    | some g => by_cases hij : i = j <;> simp [hij, Group.key_push]
  · intro g hg
    obtain ⟨j, hj⟩ := List.mem_iff_getElem?.1 hg
    rw [List.getElem?_modify, Option.map_eq_map, Option.map_eq_some_iff] at hj
    obtain ⟨old, hold, rfl⟩ := hj
    have hentries := h.entries old (List.mem_of_getElem? hold)
    have holdkey : (keys items)[j]? = some old.key := by
      rw [← h.map_key, List.getElem?_map, hold, Option.map_some]
    by_cases hij : i = j
    · subst hij
      have hk : old.key = k := Option.some.inj (holdkey.symm.trans hat)
      simp [Group.key_push, Group.entries_push (hk ▸ hkey), hentries, hkey, hk]
    · -- Another group has another key, so that the entry is none of its own.
      have hne : k ≠ old.key := by
        rintro rfl
        have hlt : i < (keys items).length := (List.getElem?_eq_some_iff.1 hat).1
        exact hij ((List.getElem?_inj hlt (nodup_keys items)).1 (hat.trans holdkey.symm))
      simp [hij, hentries, hkey, hne]
  · intro k' i'
    rw [hkeys, h.lookup_iff]

theorem Holds.start (h : s.Holds items) {item : Item} {k : GroupClass × String}
    (hkey : item.key? = some k) (hnone : s.positions.lookup k = none) :
    Holds { groups := s.groups ++ (Group.start? item).toList
            positions := (k, s.groups.length) :: s.positions } (items ++ [item]) := by
  have hk : k ∉ keys items := (h.lookup_eq_none_iff k).1 hnone
  have hkeys : keys (items ++ [item]) = keys items ++ [k] := by simp [keys_concat_of_some hkey, hk]
  have hlength : s.groups.length = (keys items).length := by rw [← h.map_key, List.length_map]
  obtain ⟨g, hg, hgkey⟩ : ∃ g, Group.start? item = some g ∧ g.key = k := by
    rwa [← Group.map_key_start?, Option.map_eq_some_iff] at hkey
  refine ⟨?_, ?_, ?_⟩
  · simp [hkeys, hg, hgkey, h.map_key]
  · intro g' hg'
    rw [hg, Option.toList_some, List.mem_append, List.mem_singleton] at hg'
    rcases hg' with hold | rfl
    · have hne : k ≠ g'.key := by
        rintro rfl
        exact hk (h.map_key ▸ List.mem_map_of_mem hold)
      simp [h.entries g' hold, hkey, hne]
    · have hfirst : items.filter (fun i => i.key? = some k) = [] := by
        rw [List.filter_eq_nil_iff]
        intro i hi hik
        exact hk (mem_keys_iff.2 ⟨i, hi, by simpa using hik⟩)
      simp [(Group.entries_of_start? hg).1, hgkey, hkey, hfirst]
  · intro k' i
    rw [hkeys, getElem?_concat_eq_some_iff, List.lookup_cons, hlength]
    by_cases hk' : k' = k
    · subst hk'
      have hat : (keys items)[i]? ≠ some k' := fun hat => hk (List.mem_of_getElem? hat)
      simp [hat, eq_comm]
    · have hb : (k' == k) = false := by simpa using hk'
      simp [hb, h.lookup_iff, hk']

theorem Holds.add (h : s.Holds items) (item : Item) : (s.add item).Holds (items ++ [item]) := by
  unfold Grouping.add
  cases hkey : item.key? with
  | none => exact h.skip hkey
  | some k =>
    dsimp only
    cases hi : s.positions.lookup k with
    | some i => exact h.push hkey hi
    | none => exact h.start hkey hi

/-- A grouping holds the entries that it was made of. -/
theorem holds_ofItems (items : List Item) : (ofItems items).Holds items := by
  induction items using List.reverseRecOn with
  | nil => exact holds_empty
  | append_singleton items item ih =>
    rw [ofItems, List.foldl_concat]
    exact ih.add item

end Grouping

theorem map_key_groups (items : List Item) : (groups items).map Group.key = keys items :=
  (Grouping.holds_ofItems items).map_key

/-- A group has the entries of its key, in order. -/
theorem entries_groups {items : List Item} {g : Group} (hg : g ∈ groups items) :
    g.entries = items.filter fun i => i.key? = some g.key :=
  (Grouping.holds_ofItems items).entries g hg

/-- A group has an entry. -/
theorem entries_ne_nil {items : List Item} {g : Group} (hg : g ∈ groups items) :
    g.entries ≠ [] := by
  have hkey : g.key ∈ keys items := by
    rw [← map_key_groups]
    exact List.mem_map_of_mem hg
  rw [keys, List.mem_eraseDups, List.mem_filterMap] at hkey
  obtain ⟨i, hi, hkey⟩ := hkey
  rw [entries_groups hg]
  exact List.ne_nil_of_mem (List.mem_filter.2 ⟨hi, by simpa using hkey⟩)

/-- A class has a group just where it has a key. -/
theorem any_groupClass_eq_keys (items : List Item) (c : GroupClass) :
    ((groups items).any fun g => g.groupClass == c) = (keys items).any fun k => k.1 == c := by
  rw [← map_key_groups, List.any_map]
  rfl

/-- A class has a group just where it has an entry. -/
theorem any_groupClass (items : List Item) (c : GroupClass) :
    ((groups items).any fun g => g.groupClass == c) =
      (items.filterMap Item.key?).any fun k => k.1 == c := by
  rw [any_groupClass_eq_keys, Bool.eq_iff_iff, List.any_eq_true, List.any_eq_true]
  simp only [keys, List.mem_eraseDups]

end ContractHooks.Abi
