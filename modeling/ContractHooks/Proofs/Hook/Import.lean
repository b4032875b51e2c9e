-- What the imports of a module come to: each pair of a library and a name once, gathered by
-- library, in the order of first requests. The text of an import section is read back to the
-- pairs that it was written from.
import ContractHooks.Hook.Import
import ContractHooks.Proofs.Distinct
import ContractHooks.Proofs.Text.Runs

namespace ContractHooks

/-- Whether a dialect with or without annotations imports the symbol. -/
def Symbol.isKept (annotated : Bool) (s : Symbol) : Bool := !s.typeOnly || annotated

namespace Imports

/-! ## Gathering -/

/-- Names gathered by library, the libraries in the order in which they first come up. -/
def gathered (ps : List (String × String)) : List (String × List String) :=
  (ps.map Prod.fst).eraseDups.map fun l => (l, (ps.filter fun p => p.1 == l).map Prod.snd)

/-- The pairs of requested symbols that are kept, each at its first request. -/
def requested (annotated : Bool) (symbols : List Symbol) : List (String × String) :=
  ((symbols.filter (Symbol.isKept annotated)).map Symbol.pair).eraseDups

theorem map_fst_gathered (ps : List (String × String)) :
    (gathered ps).map Prod.fst = (ps.map Prod.fst).eraseDups := by
  unfold gathered
  rw [List.map_map]
  exact List.map_id _

/-- A name joins the section of its library, or starts one behind the others. -/
theorem insertName_map (library name : String) (names : String → List String)
    {libraries : List String} (h : libraries.Nodup) :
    insertName library name (libraries.map fun l => (l, names l)) =
      (libraries.map fun l => (l, if l = library then names l ++ [name] else names l)) ++
      if library ∈ libraries then [] else [(library, [name])] := by
  induction libraries with
  | nil => rfl
  | cons l libraries ih =>
    obtain ⟨hl, hrest⟩ := List.nodup_cons.1 h
    simp only [List.map_cons, insertName]
    by_cases he : l = library
    · subst he
      have hsame : (libraries.map fun k => (k, if k = l then names k ++ [name] else names k)) =
          libraries.map fun k => (k, names k) := by
        refine List.map_congr_left fun k hk => ?_
        have hne : k ≠ l := fun e => hl (e ▸ hk)
        simp [hne]
      simp [hsame]
    · rw [if_neg he, ih hrest]
      have hne : library ≠ l := Ne.symm he
      simp [he, hne]

theorem mem_namesOf_iff {ps : List (String × String)} {library name : String} :
    name ∈ (ps.filter fun p => p.1 == library).map Prod.snd ↔ (library, name) ∈ ps := by
  simp

/-- A new pair is gathered behind the others of its library. -/
theorem insertName_gathered (ps : List (String × String)) (p : String × String) :
    insertName p.1 p.2 (gathered ps) = gathered (ps ++ [p]) := by
  obtain ⟨library, name⟩ := p
  unfold gathered
  rw [insertName_map library name _ (nodup_eraseDups _), List.map_append, List.map_singleton,
    eraseDups_append_singleton, List.map_append]
  congr 1
  · refine List.map_congr_left fun l _ => ?_
    by_cases he : l = library
    · subst he
      simp
    · have hne : library ≠ l := Ne.symm he
      simp [he, hne]
  · by_cases hl : library ∈ ps.map Prod.fst
    · rw [if_pos (List.mem_eraseDups.2 hl), if_pos hl, List.map_nil]
    · rw [if_neg fun h => hl (List.mem_eraseDups.1 h), if_neg hl]
      have hnone : (ps.filter fun p => p.1 == library) = [] := by
        rw [List.filter_eq_nil_iff]
        intro q hq heq
        exact hl (List.mem_map.2 ⟨q, hq, by simpa using heq⟩)
      simp [List.filter_append, hnone]

/-! ## All requests -/

/-- One more request adds its pair, unless it is dropped or has been kept before. -/
theorem requested_concat (annotated : Bool) (symbols : List Symbol) (s : Symbol) :
    requested annotated (symbols ++ [s]) = requested annotated symbols ++
      if s.isKept annotated = true ∧ s.pair ∉ requested annotated symbols then [s.pair]
      else [] := by
  unfold requested
  rw [List.filter_append, List.map_append, List.filter_singleton]
  cases s.isKept annotated with
  | false => simp
  | true =>
    simp only [cond_true, List.map_singleton, eraseDups_append_singleton, List.mem_eraseDups,
      true_and, ite_not]

namespace Gathering

/-- The gathering of pairs of a library and a name, each of which has been kept once. -/
def ofPairs (annotated : Bool) (ps : List (String × String)) : Gathering :=
  ⟨annotated, ⟨gathered ps⟩, ps⟩

/-- A request is dropped, or is for a pair that has been seen, or adds its pair to the sections and
to what has been seen alike. -/
theorem request_ofPairs (annotated : Bool) (ps : List (String × String)) (s : Symbol) :
    (ofPairs annotated ps).request s = ofPairs annotated
      (ps ++ if s.isKept annotated = true ∧ s.pair ∉ ps then [s.pair] else []) := by
  have hdropped : (s.typeOnly && !annotated) = !s.isKept annotated := by
    unfold Symbol.isKept
    cases s.typeOnly <;> cases annotated <;> rfl
  unfold request ofPairs
  dsimp only
  rw [hdropped]
  cases s.isKept annotated with
  | false => simp
  | true =>
    by_cases hseen : s.pair ∈ ps
    · simp [hseen]
    · have hsections : insertName s.library s.name (gathered ps) = gathered (ps ++ [s.pair]) :=
        insertName_gathered ps s.pair
      simp [hseen, hsections]

/-- Requests come to the pairs of the symbols that are kept. -/
theorem requestAll_start (annotated : Bool) (symbols : List Symbol) :
    (start annotated).requestAll symbols = ofPairs annotated (requested annotated symbols) := by
  induction symbols using List.reverseRecOn with
  | nil => rfl
  | append_singleton symbols s ih =>
    rw [requestAll, List.foldl_concat]
    show ((start annotated).requestAll symbols).request s = _
    rw [ih, request_ofPairs, requested_concat]

end Gathering

/-- The imports that requests come to. -/
def ofRequests (annotated : Bool) (symbols : List Symbol) : Imports :=
  ((Gathering.start annotated).requestAll symbols).imports

/-- Requests come to the pairs of the symbols that are kept, gathered by library. -/
theorem sections_ofRequests (annotated : Bool) (symbols : List Symbol) :
    (ofRequests annotated symbols).sections = gathered (requested annotated symbols) := by
  rw [ofRequests, Gathering.requestAll_start]
  rfl

/-- The pairs of a library and a name that are imported, in the order in which they are
written. -/
def pairs (i : Imports) : List (String × String) :=
  i.sections.flatMap fun s => s.2.map fun n => (s.1, n)

theorem pairs_gathered (ps : List (String × String)) :
    pairs ⟨gathered ps⟩ =
      (ps.map Prod.fst).eraseDups.flatMap fun l => ps.filter fun p => p.1 == l := by
  unfold pairs gathered
  rw [List.flatMap_map]
  refine List.flatMap_congr fun l _ => ?_
  rw [List.map_map]
  have hid : ∀ p ∈ ps.filter fun p => p.1 == l, ((fun n => (l, n)) ∘ Prod.snd) p = id p := by
    intro p hp
    have hl : p.1 = l := by simpa using (List.mem_filter.1 hp).2
    exact hl ▸ rfl
  rw [List.map_congr_left hid, List.map_id]

theorem mem_pairs_gathered {ps : List (String × String)} {p : String × String} :
    p ∈ pairs ⟨gathered ps⟩ ↔ p ∈ ps := by
  rw [pairs_gathered, List.mem_flatMap]
  constructor
  · rintro ⟨l, -, hp⟩
    exact (List.mem_filter.1 hp).1
  · intro hp
    refine ⟨p.1, List.mem_eraseDups.2 (List.mem_map.2 ⟨p, hp, rfl⟩), ?_⟩
    exact List.mem_filter.2 ⟨hp, by simp⟩

theorem nodup_pairs_gathered {ps : List (String × String)} (h : ps.Nodup) :
    (pairs ⟨gathered ps⟩).Nodup := by
  rw [pairs_gathered, List.nodup_flatMap]
  refine ⟨fun l _ => h.filter _, (nodup_eraseDups _).imp fun {l k} hne => ?_⟩
  intro p hl hk
  have e1 : p.1 = l := by simpa using (List.mem_filter.1 hl).2
  have e2 : p.1 = k := by simpa using (List.mem_filter.1 hk).2
  exact hne (e1 ▸ e2)

/-- What is gathered is nothing but the pairs, in another order. -/
theorem pairs_gathered_perm {ps : List (String × String)} (h : ps.Nodup) :
    (pairs ⟨gathered ps⟩).Perm ps :=
  (List.perm_ext_iff_of_nodup (nodup_pairs_gathered h) h).2 fun _ => mem_pairs_gathered

/-- As many names are written as there are pairs. -/
theorem length_names (i : Imports) : (i.sections.flatMap Prod.snd).length = i.pairs.length := by
  simp [pairs, List.length_flatMap]

/-- Pairs of one library keep their order when they are gathered with others. -/
theorem filter_pairs_gathered {ps : List (String × String)} {q : String × String → Bool}
    {library : String} (h : ∀ p ∈ ps, q p = true → p.1 = library) :
    (pairs ⟨gathered ps⟩).filter q = ps.filter q := by
  have part : ∀ l, (ps.filter fun p => p.1 == l).filter q =
      if l = library then ps.filter q else [] := by
    intro l
    rw [List.filter_filter]
    by_cases he : l = library
    · subst he
      rw [if_pos rfl]
      refine List.filter_congr fun p hp => ?_
      cases hq : q p with
      | false => rfl
      | true => simp [h p hp hq]
    · rw [if_neg he, List.filter_eq_nil_iff]
      intro p hp hq
      rw [Bool.and_eq_true, beq_iff_eq] at hq
      exact he (hq.2 ▸ h p hp hq.1)
  rw [pairs_gathered, List.filter_flatMap]
  simp only [part]
  rw [flatMap_ite_eq (nodup_eraseDups _)]
  by_cases hl : library ∈ (ps.map Prod.fst).eraseDups
  · rw [if_pos hl]
  · rw [if_neg hl, eq_comm, List.filter_eq_nil_iff]
    intro p hp hq
    exact hl (List.mem_eraseDups.2 (List.mem_map.2 ⟨p, hp, h p hp hq⟩))

end Imports

end ContractHooks
