-- The imports of two lists of requests in a row. The sections of the first stay as they are, each
-- with the names behind it that only the second asks for; libraries that only the second asks for
-- stand behind them all. Sections are read off the text of the imports.
import ContractHooks.Proofs.Hook.ImportText

namespace ContractHooks.Imports

/-! ## Sections -/

/-- The names that sections list for a library. -/
def namesIn (sections : List (String × List String)) (library : String) : List String :=
  (sections.filter fun s => s.1 == library).flatMap Prod.snd

/-- Sections with what only other sections have, library by library. -/
def extend (a b : List (String × List String)) : List (String × List String) :=
  (a.map fun s => (s.1, s.2 ++ (namesIn b s.1).filter fun n => decide (n ∉ s.2))) ++
    b.filter fun s => decide (s.1 ∉ a.map Prod.fst)

/-- The pairs of a second list that a first one lacks. -/
def fresh (ps qs : List (String × String)) : List (String × String) :=
  qs.filter fun q => decide (q ∉ ps)

theorem namesIn_gathered (ps : List (String × String)) (library : String) :
    namesIn (gathered ps) library = (ps.filter fun p => p.1 == library).map Prod.snd := by
  unfold namesIn gathered
  rw [List.filter_map, List.flatMap_map]
  have hfilter : ((ps.map Prod.fst).eraseDups.filter
      ((fun s : String × List String => s.1 == library) ∘
        fun l => (l, (ps.filter fun p => p.1 == l).map Prod.snd))) =
      (ps.map Prod.fst).eraseDups.filter (· == library) := rfl
  rw [hfilter, List.filter_beq, (nodup_eraseDups _).count]
  by_cases hl : library ∈ (ps.map Prod.fst).eraseDups
  · simp [if_pos hl]
  · rw [if_neg hl]
    have hnone : (ps.filter fun p => p.1 == library) = [] := by
      rw [List.filter_eq_nil_iff]
      intro p hp heq
      apply hl
      exact List.mem_eraseDups.2 (List.mem_map.2 ⟨p, hp, by simpa using heq⟩)
    simp [hnone]

/-- The names of a library that are fresh are those that its section lacks. -/
theorem names_fresh (ps qs : List (String × String)) (library : String) :
    ((fresh ps qs).filter fun q => q.1 == library).map Prod.snd =
      (namesIn (gathered qs) library).filter fun n =>
        decide (n ∉ (ps.filter fun p => p.1 == library).map Prod.snd) := by
  unfold fresh
  rw [namesIn_gathered, List.filter_map, List.filter_filter, List.filter_filter]
  congr 1
  apply List.filter_congr
  intro q _
  obtain ⟨l, n⟩ := q
  by_cases hl : l = library
  · subst hl
    simp [mem_namesOf_iff]
  · have hne : (l == library) = false := by simpa using hl
    simp [hne]

/-- The libraries of fresh pairs are new unless the first list has them. -/
theorem libraries_fresh (ps qs : List (String × String)) :
    ((ps ++ fresh ps qs).map Prod.fst).eraseDups =
      (ps.map Prod.fst).eraseDups ++
        (qs.map Prod.fst).eraseDups.filter fun l => decide (l ∉ ps.map Prod.fst) := by
  rw [List.map_append, List.eraseDups_append, ← eraseDups_filter]
  congr 2
  unfold fresh List.removeAll
  rw [List.filter_map, List.filter_map, List.filter_filter]
  congr 1
  apply List.filter_congr
  intro q _
  by_cases hl : q.1 ∈ ps.map Prod.fst
  · simp [hl]
  · have hq : q ∉ ps := fun h => hl (List.mem_map_of_mem h)
    simp [hl, hq]

/-- Pairs that are gathered with fresh ones have their sections extended. -/
theorem gathered_append (ps qs : List (String × String)) :
    gathered (ps ++ fresh ps qs) = extend (gathered ps) (gathered qs) := by
  unfold extend
  rw [map_fst_gathered]
  show ((ps ++ fresh ps qs).map Prod.fst).eraseDups.map _ = _
  rw [libraries_fresh, List.map_append]
  congr 1
  · -- A library of the first list has its own names and the fresh ones.
    unfold gathered
    rw [List.map_map]
    apply List.map_congr_left
    intro l _
    show (l, _) = (l, _)
    rw [List.filter_append, List.map_append, names_fresh]
    rfl
  · -- A library that the first list lacks has all its names from the second.
    unfold gathered
    rw [List.filter_map]
    have hfilter : ((qs.map Prod.fst).eraseDups.filter
        ((fun s : String × List String => decide (s.1 ∉ (ps.map Prod.fst).eraseDups)) ∘
          fun l => (l, (qs.filter fun q => q.1 == l).map Prod.snd))) =
        (qs.map Prod.fst).eraseDups.filter fun l => decide (l ∉ ps.map Prod.fst) := by
      apply List.filter_congr
      intro l _
      simp
    rw [hfilter]
    apply List.map_congr_left
    intro l hl
    have hl : l ∉ ps.map Prod.fst := by simpa using (List.mem_filter.1 hl).2
    have hnone : (ps.filter fun p => p.1 == l) = [] := by
      rw [List.filter_eq_nil_iff]
      intro p hp heq
      exact hl (List.mem_map.2 ⟨p, hp, by simpa using heq⟩)
    rw [List.filter_append, hnone, List.nil_append, names_fresh, namesIn_gathered, hnone]
    simp

/-- Requests in a row are kept at their first place: those of the first list, and the fresh ones
of the second. -/
theorem requested_append (annotated : Bool) (a b : List Symbol) :
    requested annotated (a ++ b) =
      requested annotated a ++ fresh (requested annotated a) (requested annotated b) := by
  unfold requested fresh
  rw [List.filter_append, List.map_append, List.eraseDups_append, ← eraseDups_filter]
  congr 2
  unfold List.removeAll
  apply List.filter_congr
  intro p _
  simp only [List.mem_eraseDups, List.elem_eq_mem, decide_not]

/-- Requests in a row extend the sections of the first by those of the second. -/
theorem sections_append (annotated : Bool) (a b : List Symbol) :
    (ofRequests annotated (a ++ b)).sections =
      extend (ofRequests annotated a).sections (ofRequests annotated b).sections := by
  rw [sections_ofRequests, sections_ofRequests, sections_ofRequests, requested_append,
    gathered_append]

/-! ## Reading -/

/-- The sections that the text of imports lists, line by line. -/
def sectionsIn (text : String) : List (String × List String) :=
  ((text.toList.splitOn '\n').filter (· ≠ [])).map fun line => (lineLibrary line, lineNames line)

/-- Imports of plain names are read back to their sections. -/
theorem sectionsIn_text {i : Imports}
    (h : ∀ s ∈ i.sections, IsPlain s.1 ∧ ∀ n ∈ s.2, IsPlain n) :
    sectionsIn i.text = i.sections := by
  unfold sectionsIn
  by_cases hne : i.sections = []
  · unfold text
    rw [hne]
    rfl
  · have hfull : ∀ l ∈ i.sections.map fun s => (line s.1 s.2).toList, decide (l ≠ []) = true := by
      intro l hl
      obtain ⟨s, -, rfl⟩ := List.mem_map.1 hl
      simp [line]
    rw [splitOn_text h hne, List.filter_eq_self.2 hfull, List.map_map]
    have hread : ∀ s ∈ i.sections, ((fun l => (lineLibrary l, lineNames l)) ∘
        fun s : String × List String => (line s.1 s.2).toList) s = id s := by
      intro s hs
      obtain ⟨hl, hnames⟩ := h s hs
      show (lineLibrary _, lineNames _) = s
      rw [lineNames_line s.1 hnames, lineLibrary_line hl hnames]
    rw [List.map_congr_left hread, List.map_id]

end ContractHooks.Imports
