-- Reading an import section: each line lists the names between its braces and the library
-- between its quotes. What was written is read back.
import ContractHooks.Proofs.Hook.Import

namespace ContractHooks.Imports

/-! ## Reading -/

/-- Whether a character can be part of a name between braces. -/
def isNamePart (c : Char) : Bool := c != ' ' && c != ',' && c != '\x7b'

/-- The names between the braces of a line. -/
def lineNames (line : List Char) : List String :=
  (Text.runs isNamePart ((line.dropWhile (· != '\x7b')).takeWhile (· != '\x7d'))).map String.ofList

/-- The library between the quotes of a line. -/
def lineLibrary (line : List Char) : String :=
  String.ofList (((line.dropWhile (· != '\x27')).drop 1).takeWhile (· != '\x27'))

/-- The pairs of a library and a name that an import section lists, line by line. -/
def listed (text : String) : List (String × String) :=
  (text.toList.splitOn '\n').flatMap fun line => (lineNames line).map fun n => (lineLibrary line, n)

/-! ## What was written -/

/-- A name or library without the characters that an import section is laid out with. -/
def IsPlain (s : String) : Prop :=
  s.toList ≠ [] ∧ ∀ c ∈ s.toList, c ∉ [' ', ',', '\x7b', '\x7d', '\x27', '\n']

instance (s : String) : Decidable (IsPlain s) :=
  decidable_of_iff (s.toList ≠ [] ∧
    (s.toList.all fun c => decide (c ∉ [' ', ',', '\x7b', '\x7d', '\x27', '\n'])) = true)
    (by simp only [IsPlain, List.all_eq_true, decide_eq_true_eq])

/-- Names in a series are its runs, whatever comes behind them. -/
theorem runs_names {names : List String} (h : ∀ n ∈ names, IsPlain n) {rest : List Char}
    (hrest : Text.StartsOutside isNamePart rest) :
    Text.runs isNamePart ((String.intercalate ", " names).toList ++ rest) =
      names.map String.toList ++ Text.runs isNamePart rest := by
  induction names with
  | nil => simp
  | cons n names ih =>
    have hn : ∀ c ∈ n.toList, isNamePart c = true := by
      intro c hc
      have hc := (h n List.mem_cons_self).2 c hc
      simp only [List.mem_cons, List.not_mem_nil, or_false, not_or] at hc
      simp [isNamePart, hc]
    have hone := Text.runs_of_forall hn (h n List.mem_cons_self).1
    cases names with
    | nil =>
      rw [String.intercalate_singleton, Text.runs_append (.inr hrest), hone]
      rfl
    | cons m names =>
      have hcomma : Text.StartsOutside isNamePart
          (", ".toList ++ ((String.intercalate ", " (m :: names)).toList ++ rest)) := by
        intro c hc
        cases hc
        rfl
      rw [String.intercalate_cons_cons, String.toList_append, String.toList_append,
        List.append_assoc, List.append_assoc, Text.runs_append (.inr hcomma), hone,
        Text.runs_append (.inl (by decide)), ih fun k hk => h k (List.mem_cons_of_mem n hk)]
      rfl

theorem mem_names {names : List String} {c : Char}
    (h : c ∈ (String.intercalate ", " names).toList) :
    c ∈ [',', ' '] ∨ ∃ n ∈ names, c ∈ n.toList := by
  induction names with
  | nil => simp at h
  | cons n names ih =>
    cases names with
    | nil =>
      rw [String.intercalate_singleton] at h
      exact .inr ⟨n, List.mem_cons_self, h⟩
    | cons m names =>
      rw [String.intercalate_cons_cons, String.toList_append, String.toList_append,
        List.mem_append, List.mem_append] at h
      rcases h with (h | h) | h
      · exact .inr ⟨n, List.mem_cons_self, h⟩
      · exact .inl h
      · rcases ih h with h | ⟨k, hk, hc⟩
        · exact .inl h
        · exact .inr ⟨k, List.mem_cons_of_mem n hk, hc⟩

/-- A series of plain names has no character that ends it. -/
theorem ne_of_mem_names {names : List String} (h : ∀ n ∈ names, IsPlain n) {c : Char}
    (hc : c ∈ (String.intercalate ", " names).toList) : c ∉ ['\x7d', '\x27', '\n'] := by
  rcases mem_names hc with hc | ⟨n, hn, hc⟩
  · simp only [List.mem_cons, List.not_mem_nil, or_false] at hc
    rcases hc with rfl | rfl
    · decide
    · decide
  · intro hbad
    refine (h n hn).2 c hc ?_
    simp only [List.mem_cons, List.not_mem_nil, or_false] at hbad ⊢
    exact .inr (.inr (.inr hbad))

theorem toList_line (library : String) (names : List String) :
    (line library names).toList =
      "import ".toList ++ '\x7b' :: ' ' :: (String.intercalate ", " names).toList ++ [' '] ++
        '\x7d' :: " from ".toList ++ '\x27' :: library.toList ++ ['\x27'] := by
  simp [line]

theorem lineNames_line (library : String) {names : List String} (h : ∀ n ∈ names, IsPlain n) :
    lineNames (line library names).toList = names := by
  have hdrop : (line library names).toList.dropWhile (· != '\x7b') =
      ('\x7b' :: ' ' :: (String.intercalate ", " names).toList ++ [' ']) ++
        '\x7d' :: (" from ".toList ++ '\x27' :: library.toList ++ ['\x27']) := by
    rw [toList_line]
    simp
  have htake : ∀ c ∈ '\x7b' :: ' ' :: (String.intercalate ", " names).toList ++ [' '],
      (c != '\x7d') = true := by
    intro c hc
    simp only [List.cons_append, List.mem_cons, List.mem_append, List.not_mem_nil, or_false] at hc
    rcases hc with rfl | rfl | hc | rfl
    · rfl
    · rfl
    · rw [bne_iff_ne]
      rintro rfl
      exact ne_of_mem_names h hc (by decide)
    · rfl
  unfold lineNames
  rw [hdrop, List.takeWhile_append_of_pos htake, List.takeWhile_cons_of_neg (by decide),
    List.append_nil, List.cons_append, Text.runs_cons rfl, List.cons_append, Text.runs_cons rfl,
    runs_names h (by decide)]
  simp [Text.runs_cons (p := isNamePart) (c := ' ') rfl, Function.comp_def]

theorem lineLibrary_line {library : String} (hl : IsPlain library) {names : List String}
    (h : ∀ n ∈ names, IsPlain n) : lineLibrary (line library names).toList = library := by
  have hquote : ∀ c ∈ "import ".toList ++ '\x7b' :: ' ' :: (String.intercalate ", " names).toList ++
      [' '] ++ '\x7d' :: " from ".toList, (c != '\x27') = true := by
    intro c hc
    rw [bne_iff_ne]
    rintro rfl
    simp only [List.mem_append, List.mem_cons] at hc
    rcases hc with ((hc | hc | hc | hc) | hc) | hc | hc
    · exact absurd hc (by decide)
    · exact absurd hc (by decide)
    · exact absurd hc (by decide)
    · exact ne_of_mem_names h hc (by decide)
    · exact absurd hc (by decide)
    · exact absurd hc (by decide)
    · exact absurd hc (by decide)
  have hlibrary : ∀ c ∈ library.toList, (c != '\x27') = true := by
    intro c hc
    rw [bne_iff_ne]
    rintro rfl
    exact hl.2 _ hc (by decide)
  have hsplit : (line library names).toList =
      ("import ".toList ++ '\x7b' :: ' ' :: (String.intercalate ", " names).toList ++ [' '] ++
        '\x7d' :: " from ".toList) ++ '\x27' :: (library.toList ++ ['\x27']) := by
    rw [toList_line]
    simp
  unfold lineLibrary
  rw [hsplit, List.dropWhile_append_of_pos hquote, List.dropWhile_cons_of_neg (by decide),
    List.drop_one, List.tail_cons, List.takeWhile_append_of_pos hlibrary,
    List.takeWhile_cons_of_neg (by decide), List.append_nil, String.ofList_toList]

theorem newline_notMem_line {library : String} (hl : IsPlain library) {names : List String}
    (h : ∀ n ∈ names, IsPlain n) : '\n' ∉ (line library names).toList := by
  intro hc
  rw [toList_line] at hc
  simp only [List.mem_append, List.mem_cons] at hc
  rcases hc with ((((hc | hc | hc | hc) | hc) | hc | hc) | hc | hc) | hc
  · exact absurd hc (by decide)
  · exact absurd hc (by decide)
  · exact absurd hc (by decide)
  · exact ne_of_mem_names h hc (by decide)
  · exact absurd hc (by decide)
  · exact absurd hc (by decide)
  · exact absurd hc (by decide)
  · exact absurd hc (by decide)
  · exact hl.2 _ hc (by decide)
  · exact absurd hc (by decide)

/-- The lines of an import section are those of its libraries. -/
theorem splitOn_text {i : Imports}
    (h : ∀ s ∈ i.sections, IsPlain s.1 ∧ ∀ n ∈ s.2, IsPlain n) (hne : i.sections ≠ []) :
    i.text.toList.splitOn '\n' = i.sections.map fun s => (line s.1 s.2).toList := by
  have hlines : ∀ l ∈ (i.sections.map fun s => line s.1 s.2).map String.toList, '\n' ∉ l := by
    intro l hl
    simp only [List.mem_map] at hl
    obtain ⟨_, ⟨s, hs, rfl⟩, rfl⟩ := hl
    exact newline_notMem_line (h s hs).1 (h s hs).2
  unfold text
  rw [String.toList_intercalate, show "\n".toList = ['\n'] from rfl,
    List.splitOn_intercalate '\n' hlines (by simpa using hne), List.map_map]
  rfl

/-- An import section is read back to what it was written from. -/
theorem listed_text {i : Imports}
    (h : ∀ s ∈ i.sections, IsPlain s.1 ∧ ∀ n ∈ s.2, IsPlain n) : listed i.text = i.pairs := by
  unfold listed pairs
  by_cases hne : i.sections = []
  · unfold text
    rw [hne]
    rfl
  · rw [splitOn_text h hne, List.flatMap_map]
    apply List.flatMap_congr
    intro s hs
    obtain ⟨hl, hnames⟩ := h s hs
    rw [lineNames_line s.1 hnames, lineLibrary_line hl hnames]

/-- The sections of requests for plain symbols have plain libraries and names. -/
theorem isPlain_sections {annotated : Bool} {symbols : List Symbol}
    (h : ∀ s ∈ symbols, IsPlain s.library ∧ IsPlain s.name) :
    ∀ s ∈ (ofRequests annotated symbols).sections, IsPlain s.1 ∧ ∀ n ∈ s.2, IsPlain n := by
  have hplain : ∀ p ∈ requested annotated symbols, IsPlain p.1 ∧ IsPlain p.2 := by
    intro p hp
    obtain ⟨s, hs, rfl⟩ := List.mem_map.1 (List.mem_eraseDups.1 hp)
    exact h s (List.mem_filter.1 hs).1
  intro s hs
  rw [sections_ofRequests] at hs
  obtain ⟨l, hl, rfl⟩ := List.mem_map.1 hs
  obtain ⟨p, hp, rfl⟩ := List.mem_map.1 (List.mem_eraseDups.1 hl)
  exact ⟨(hplain p hp).1, fun n hn => (hplain _ (mem_namesOf_iff.1 hn)).2⟩

/-- The section of requested symbols is read back to their pairs, gathered by library. -/
theorem listed_ofRequests (annotated : Bool) {symbols : List Symbol}
    (h : ∀ s ∈ symbols, IsPlain s.library ∧ IsPlain s.name) :
    listed (ofRequests annotated symbols).text =
      pairs ⟨gathered (requested annotated symbols)⟩ := by
  rw [listed_text (isPlain_sections h), ← sections_ofRequests]

end ContractHooks.Imports
