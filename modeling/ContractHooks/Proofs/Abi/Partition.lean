-- The groups of an interface part its functions and events by their keys: a group stands where its
-- key first comes up, and every entry of the interface that has a key is in one group, once. While
-- the groups are made, the position that is kept for a key is that of its own group, so that no
-- entry is dropped when it is pushed.
import ContractHooks.Proofs.Abi.Group
import Mathlib.Data.List.Perm.Basic

namespace ContractHooks.Abi

/-! ## Places -/

/-- The place in an interface at which a key first comes up, the end if it does not. -/
def firstAt (items : List Item) (k : GroupClass × String) : Nat :=
  items.findIdx fun i => i.key? = some k

theorem firstAt_lt {items : List Item} {k : GroupClass × String} (h : k ∈ keys items) :
    firstAt items k < items.length := by
  obtain ⟨i, hi, hk⟩ := mem_keys_iff.1 h
  exact List.findIdx_lt_length_of_exists ⟨i, hi, by simpa⟩

/-- A key that has come up keeps its place. -/
theorem firstAt_concat_of_mem {items : List Item} {k : GroupClass × String} (h : k ∈ keys items)
    (item : Item) : firstAt (items ++ [item]) k = firstAt items k := by
  have hlt := firstAt_lt h
  unfold firstAt at hlt ⊢
  rw [List.findIdx_append, if_pos hlt]

/-- A key that has not come up gets the last place. -/
theorem firstAt_concat_of_notMem {items : List Item} {k : GroupClass × String}
    (h : k ∉ keys items) {item : Item} (hk : item.key? = some k) :
    firstAt (items ++ [item]) k = items.length := by
  have hnone : ∀ i ∈ items, ¬ (decide (i.key? = some k)) = true := fun i hi hik =>
    h (mem_keys_iff.2 ⟨i, hi, by simpa using hik⟩)
  have hlength : items.findIdx (fun i => i.key? = some k) = items.length :=
    List.findIdx_eq_length_of_false (by simpa using hnone)
  unfold firstAt
  rw [List.findIdx_append, hlength]
  simp [hk]

/-- The keys of an interface stand in the order of the places at which they first come up. -/
theorem pairwise_firstAt (items : List Item) :
    (keys items).Pairwise fun j k => firstAt items j < firstAt items k := by
  induction items using List.reverseRecOn with
  | nil => exact List.Pairwise.nil
  | append_singleton items item ih =>
    have hkept : (keys items).Pairwise fun j k =>
        firstAt (items ++ [item]) j < firstAt (items ++ [item]) k := by
      refine ih.imp_of_mem fun hj hk hlt => ?_
      rwa [firstAt_concat_of_mem hj, firstAt_concat_of_mem hk]
    cases hkey : item.key? with
    | none => rwa [keys_concat_of_none hkey]
    | some k =>
      rw [keys_concat_of_some hkey]
      split
      · rwa [List.append_nil]
      · next hk =>
        rw [List.pairwise_append]
        refine ⟨hkept, List.pairwise_singleton _ k, fun j hj k' hk' => ?_⟩
        obtain rfl := List.mem_singleton.1 hk'
        rw [firstAt_concat_of_mem hj, firstAt_concat_of_notMem hk hkey]
        exact firstAt_lt hj

/-! ## Parts -/

/-- The parts of a list by some keys hold together what has one of these keys. -/
theorem flatMap_filter_perm {α κ : Type} [DecidableEq κ] (f : α → Option κ) (l : List α)
    {ks : List κ} (h : ks.Nodup) :
    (ks.flatMap fun k => l.filter fun a => f a = some k).Perm
      (l.filter fun a => decide (∃ k ∈ ks, f a = some k)) := by
  induction ks with
  | nil => simp
  | cons k ks ih =>
    obtain ⟨hk, hrest⟩ := List.nodup_cons.1 h
    have hown : (l.filter fun a => decide (∃ j ∈ k :: ks, f a = some j)).filter
        (fun a => f a = some k) = l.filter fun a => f a = some k := by
      rw [List.filter_filter]
      refine List.filter_congr fun a _ => ?_
      by_cases ha : f a = some k <;> simp [ha]
    have hothers : (l.filter fun a => decide (∃ j ∈ k :: ks, f a = some j)).filter
        (fun a => !decide (f a = some k)) = l.filter fun a => decide (∃ j ∈ ks, f a = some j) := by
      rw [List.filter_filter]
      refine List.filter_congr fun a _ => ?_
      by_cases ha : f a = some k
      · simp [ha, hk]
      · simp [ha]
    have hparts := List.filter_append_perm (fun a => decide (f a = some k))
      (l.filter fun a => decide (∃ j ∈ k :: ks, f a = some j))
    rw [hown, hothers] at hparts
    rw [List.flatMap_cons]
    exact ((ih hrest).append_left _).trans hparts

/-- Every function and every event is in one group, once. -/
theorem flatMap_entries_perm (items : List Item) :
    ((groups items).flatMap Group.entries).Perm (items.filter fun i => i.key?.isSome) := by
  have hentries : (groups items).flatMap Group.entries =
      (keys items).flatMap fun k => items.filter fun i => i.key? = some k := by
    rw [← map_key_groups, List.flatMap_map]
    exact List.flatMap_congr fun g hg => entries_groups hg
  have hkeyed : (items.filter fun i => decide (∃ k ∈ keys items, i.key? = some k)) =
      items.filter fun i => i.key?.isSome := by
    refine List.filter_congr fun i hi => ?_
    cases hk : i.key? with
    | none => simp
    | some k => simp [mem_keys_iff.2 ⟨i, hi, hk⟩]
  rw [hentries, ← hkeyed]
  exact flatMap_filter_perm Item.key? items (nodup_keys items)

/-! ## The law -/

/-- The groups of an interface stand in the order in which their keys first come up, one for each
key of a function or an event. A group is not empty and has the entries of its key in the order of
the interface, and each function and each event is in one group, once. When an entry is added whose
key has come up before, the position that is kept for the key is that of the group of this key, and
the group takes the entry. -/
theorem an_interface_is_parted_by_its_keys (items : List Item) :
    ((groups items).Pairwise fun g h => firstAt items g.key < firstAt items h.key) ∧
    (∀ k, (∃ g ∈ groups items, g.key = k) ↔ ∃ i ∈ items, i.key? = some k) ∧
    (∀ g ∈ groups items,
      g.entries ≠ [] ∧ g.entries = items.filter fun i => i.key? = some g.key) ∧
    ((groups items).flatMap Group.entries).Perm (items.filter fun i => i.key?.isSome) ∧
    ∀ before item after, items = before ++ item :: after → ∀ k, item.key? = some k →
      let made := Grouping.ofItems before
      (made.positions.lookup k = none ↔ ∀ i ∈ before, i.key? ≠ some k) ∧
      ∀ position, made.positions.lookup k = some position →
        ∃ g, made.groups[position]? = some g ∧ g.key = k ∧
          (g.push item).entries = g.entries ++ [item] := by
  refine ⟨?_, fun k => ?_, fun g hg => ⟨entries_ne_nil hg, entries_groups hg⟩,
    flatMap_entries_perm items, ?_⟩
  · have hplaces := pairwise_firstAt items
    rwa [← map_key_groups, List.pairwise_map] at hplaces
  · rw [← mem_keys_iff, ← map_key_groups, List.mem_map]
  · intro before item after _ k hk
    have hmade := Grouping.holds_ofItems before
    refine ⟨?_, fun position hposition => ?_⟩
    · rw [hmade.lookup_eq_none_iff, mem_keys_iff]
      simp
    · obtain ⟨g, hg, hgk⟩ := hmade.exists_of_lookup hposition
      exact ⟨g, hg, hgk, Group.entries_push (by rw [hk, hgk])⟩

/-- A function of a token that writes, with inputs of the given types. -/
def tokenFunction (name : String) (types : List String) : Item :=
  .function ⟨name, types.map fun type => ⟨"", type, none, none, false⟩, [], .nonpayable⟩

/-- The second function of a name goes to the group that the first one started, which stands
behind the group of an event. -/
theorem the_transfers_of_a_token_are_grouped :
    let transfer := tokenFunction "transfer" ["address"]
    let safely := tokenFunction "transfer" ["address", "bytes"]
    let before : List Item := [.event ⟨"Transfer", [], false⟩, transfer, .error ⟨"transfer", []⟩]
    ∃ g, (Grouping.ofItems before).groups[1]? = some g ∧ g.key = (.write, "transfer") ∧
      (g.push safely).entries = g.entries ++ [safely] := by
  intro transfer safely before
  obtain ⟨-, -, -, -, hadded⟩ :=
    an_interface_is_parted_by_its_keys (before ++ safely :: [tokenFunction "burn" []])
  exact (hadded before safely _ rfl (.write, "transfer") rfl).2 1 rfl

end ContractHooks.Abi
