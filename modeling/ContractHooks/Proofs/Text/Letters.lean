-- What becomes of the letters of a name. Cutting a name into words takes its separators away and
-- nothing else, and writing the words together again changes no more than the case of letters. Both
-- spellings of an ASCII name have the same words, so that each can be told from the other.
import ContractHooks.Proofs.Text.Initial

namespace ContractHooks.Text

/-! ## ASCII characters -/

theorem toLower_toUpper {c : Char} (h : c.toNat < 128) : c.toUpper.toLower = c.toLower :=
  ascii_forall (p := fun c => c.toUpper.toLower = c.toLower) (by decide) h

theorem toUpper_toLower {c : Char} (h : c.toNat < 128) : c.toLower.toUpper = c.toUpper :=
  ascii_forall (p := fun c => c.toLower.toUpper = c.toUpper) (by decide) h

theorem toLower_toLower {c : Char} (h : c.toNat < 128) : c.toLower.toLower = c.toLower :=
  ascii_forall (p := fun c => c.toLower.toLower = c.toLower) (by decide) h

/-- Two ASCII characters are one letter in upper case just where they are one in lower case. -/
theorem toUpper_eq_iff {c d : Char} (hc : c.toNat < 128) (hd : d.toNat < 128) :
    c.toUpper = d.toUpper ↔ c.toLower = d.toLower := by
  constructor
  · intro h
    rw [← toLower_toUpper hc, h, toLower_toUpper hd]
  · intro h
    rw [← toUpper_toLower hc, h, toUpper_toLower hd]

/-! ## What a cut takes away -/

/-- Whether a character parts words and goes away. -/
def isSeparator (c : Char) : Bool := c == '-' || c == '_' || c == ' '

/-- A text without its separators. -/
def squeezed (text : String) : String := String.ofList (text.toList.filter fun c => !isSeparator c)

theorem of_singleton_eq_separator_iff (c : Char) :
    Kind.of [c] = .separator ↔ isSeparator c = true := by
  constructor
  · intro h
    by_contra hc
    simp only [isSeparator, Bool.or_eq_true, beq_iff_eq, not_or] at hc
    have hplain : ¬ ([c] = ['-'] ∨ [c] = ['_'] ∨ [c] = [' ']) := by simp [hc]
    rw [Kind.of, if_neg hplain] at h
    split at h
    · cases h
    · split at h
      · cases h
      · split at h
        · cases h
        · split at h <;> cases h
  · intro h
    simp only [isSeparator, Bool.or_eq_true, beq_iff_eq] at h
    rw [Kind.of, if_pos (by simpa [or_assoc] using h)]

/-- The words have the clusters of the name, in order, but for the separators. -/
theorem flatten_wordsFrom (current : List (List Char)) (prev : Kind) (gs : List (List Char)) :
    (wordsFrom current prev gs).flatten =
      current ++ gs.filter fun g => decide (Kind.of g ≠ .separator) := by
  induction gs generalizing current prev with
  | nil => simp [wordsFrom]
  | cons g gs ih =>
    simp only [wordsFrom]
    split
    · next h => rw [List.flatten_cons, ih, List.filter_cons_of_neg (by simp [h]), List.nil_append]
    · next h =>
      rw [List.filter_cons_of_pos (by simpa using h)]
      split
      · rw [List.flatten_cons, ih, List.singleton_append]
      · rw [ih, List.append_assoc, List.singleton_append]

theorem flatten_filter_ne_nil {α : Type} [DecidableEq α] (ls : List (List α)) :
    (ls.filter (· ≠ [])).flatten = ls.flatten := by
  induction ls with
  | nil => rfl
  | cons l ls ih =>
    by_cases h : l = []
    · simpa [h] using ih
    · simpa [h] using ih

theorem flatten_words (name : String) :
    (words name).flatten =
      (clusters name.toList).filter fun g => decide (Kind.of g ≠ .separator) := by
  rw [words, flatten_filter_ne_nil, flatten_wordsFrom, List.nil_append]

/-- The letters of a name, which are the characters of its words. -/
def letters (name : String) : List Char := (words name).flatten.flatten

/-- ASCII names on one line have their characters as letters, but for the separators. -/
theorem letters_eq_squeezed {name : String} (h : IsAscii name.toList) (hn : '\n' ∉ name.toList) :
    letters name = (squeezed name).toList := by
  rw [letters, flatten_words, clusters_ascii h hn, squeezed, String.toList_ofList]
  clear h hn
  induction name.toList with
  | nil => rfl
  | cons c cs ih =>
    have hc := of_singleton_eq_separator_iff c
    rw [List.map_cons]
    cases hs : isSeparator c with
    | true =>
      rw [List.filter_cons_of_neg (by simp [hc.2 hs]), List.filter_cons_of_neg (by simp [hs]), ih]
    | false =>
      rw [List.filter_cons_of_pos (by simp [hc, hs]), List.filter_cons_of_pos (by simp [hs]),
        List.flatten_cons, ih, List.singleton_append]

theorem isAscii_of_mem_words {name : String} (h : IsAscii name.toList) {w : List (List Char)}
    (hw : w ∈ words name) : IsAscii w.flatten := by
  intro c hc
  obtain ⟨g, hg, hc⟩ := List.mem_flatten.1 hc
  exact h c (mem_of_mem_words hw hg hc)

/-! ## Capitals -/

theorem capitalized_ascii {g : List Char} {gs : List (List Char)}
    (h : IsAscii (g :: gs).flatten) :
    capitalized (g :: gs) = g.map Char.toUpper ++ gs.flatten.map Char.toLower := by
  rw [List.flatten_cons] at h
  rw [capitalized, upper_ascii fun c hc => h c (List.mem_append_left _ hc),
    lower_ascii fun c hc => h c (List.mem_append_right _ hc)]

/-- A word with a capital is the word itself but for the case of its letters. -/
theorem map_toLower_capitalized {w : List (List Char)} (h : IsAscii w.flatten) :
    (capitalized w).map Char.toLower = w.flatten.map Char.toLower := by
  cases w with
  | nil => rfl
  | cons g gs =>
    rw [capitalized_ascii h, List.flatten_cons, List.map_append, List.map_append, List.map_map,
      List.map_map]
    congr 1
    · refine List.map_congr_left fun c hc => toLower_toUpper (h c ?_)
      exact List.mem_append_left _ hc
    · refine List.map_congr_left fun c hc => toLower_toLower (h c ?_)
      exact List.mem_append_right _ hc

theorem mem_capitalized {w : List (List Char)} (h : IsAscii w.flatten) {c : Char}
    (hc : c ∈ capitalized w) : ∃ d ∈ w.flatten, c = d.toUpper ∨ c = d.toLower := by
  cases w with
  | nil => cases hc
  | cons g gs =>
    rw [capitalized_ascii h, List.mem_append] at hc
    rcases hc with hc | hc
    · obtain ⟨d, hd, rfl⟩ := List.mem_map.1 hc
      exact ⟨d, List.mem_append_left _ hd, .inl rfl⟩
    · obtain ⟨d, hd, rfl⟩ := List.mem_map.1 hc
      exact ⟨d, List.mem_append_right _ hd, .inr rfl⟩

theorem toList_pascal (name : String) : (pascal name).toList = (words name).flatMap capitalized := by
  rw [pascal, String.toList_ofList]

/-- A name with capitals has the letters of the name, but for their case. -/
theorem map_toLower_pascal {name : String} (h : IsAscii name.toList) :
    (pascal name).toList.map Char.toLower = (letters name).map Char.toLower := by
  have hwords : ∀ w ∈ words name, IsAscii w.flatten := fun w hw => isAscii_of_mem_words h hw
  rw [toList_pascal, letters]
  generalize words name = ws at hwords
  induction ws with
  | nil => rfl
  | cons w ws ih =>
    obtain ⟨hw, hws⟩ := List.forall_mem_cons.1 hwords
    rw [List.flatMap_cons, List.flatten_cons, List.flatten_append, List.map_append,
      List.map_append, map_toLower_capitalized hw, ih hws]

theorem mem_pascal {name : String} (h : IsAscii name.toList) {c : Char}
    (hc : c ∈ (pascal name).toList) : ∃ d ∈ letters name, c = d.toUpper ∨ c = d.toLower := by
  rw [toList_pascal] at hc
  obtain ⟨w, hw, hc⟩ := List.mem_flatMap.1 hc
  obtain ⟨d, hd, hcase⟩ := mem_capitalized (isAscii_of_mem_words h hw) hc
  obtain ⟨g, hg, hd⟩ := List.mem_flatten.1 hd
  exact ⟨d, List.mem_flatten.2 ⟨g, List.mem_flatten.2 ⟨w, hw, hg⟩, hd⟩, hcase⟩

/-! ## The two spellings -/

/-- An ASCII character joins a cluster of ASCII characters only as the line feed of a line end. -/
theorem tail_clustersFrom {current cs : List Char} (hne : current ≠ [])
    (hcurrent : IsAscii current) (h : IsAscii cs) (htail : ∀ c ∈ current.reverse.tail, c = '\n') :
    ∀ g ∈ clustersFrom current cs, ∀ c ∈ g.tail, c = '\n' := by
  induction cs generalizing current with
  | nil =>
    rw [clustersFrom, List.forall_mem_singleton]
    exact htail
  | cons d cs ih =>
    obtain ⟨hd, hcs⟩ := List.forall_mem_cons.1 h
    rw [clustersFrom]
    split
    · next hjoins =>
      have hfeed : d = '\n' := by
        cases current with
        | nil => exact absurd rfl hne
        | cons e current =>
          have he : e.toNat < 128 := hcurrent e List.mem_cons_self
          simp only [attaches, he, hd, and_self, if_true, Bool.and_eq_true, beq_iff_eq] at hjoins
          exact hjoins.2
      refine ih (List.cons_ne_nil d current) (List.forall_mem_cons.2 ⟨hd, hcurrent⟩) hcs ?_
      rw [List.reverse_cons, List.tail_append_of_ne_nil (by simpa using hne)]
      intro c hc
      rcases List.mem_append.1 hc with hc | hc
      · exact htail c hc
      · exact (List.mem_singleton.1 hc).trans hfeed
    · rw [List.forall_mem_cons]
      refine ⟨htail, ih (List.cons_ne_nil d []) ?_ hcs (List.forall_mem_nil _)⟩
      exact List.forall_mem_singleton.2 hd

theorem tail_clusters {cs : List Char} (h : IsAscii cs) :
    ∀ g ∈ clusters cs, ∀ c ∈ g.tail, c = '\n' := by
  cases cs with
  | nil => exact List.forall_mem_nil _
  | cons c cs =>
    obtain ⟨hc, hcs⟩ := List.forall_mem_cons.1 h
    exact tail_clustersFrom (List.cons_ne_nil c []) (List.forall_mem_singleton.2 hc) hcs
      (List.forall_mem_nil _)

/-- A text of line feeds has no case. -/
theorem map_of_newlines {f : Char → Char} (hf : f '\n' = '\n') {cs : List Char}
    (h : ∀ c ∈ cs, c = '\n') : cs.map f = cs := by
  refine (List.map_congr_left fun c hc => ?_).trans (List.map_id cs)
  rw [h c hc, hf, id]

/-- The two spellings of an ASCII name are one text but for the case of its first letter. -/
theorem spellings_cases {name : String} (h : IsAscii name.toList) :
    (pascal name).toList = [] ∧ (camel name).toList = [] ∨
    ∃ (c : Char) (rest : List Char), c.toNat < 128 ∧ (pascal name).toList = c.toUpper :: rest ∧
      (camel name).toList = c.toLower :: rest := by
  rw [toList_pascal]
  unfold camel
  cases hwords : words name with
  | nil => exact .inl ⟨rfl, rfl⟩
  | cons w ws =>
    have hw : w ∈ words name := hwords ▸ List.mem_cons_self
    obtain ⟨hcut, hne⟩ := List.mem_filter.1 hw
    cases w with
    | nil => simp at hne
    | cons g gs =>
      have hg : g ∈ clusters name.toList := by
        simpa using mem_wordsFrom hcut List.mem_cons_self
      have hascii := isAscii_of_mem_words h hw
      cases g with
      | nil => exact absurd rfl (clusters_ne_nil _ _ hg)
      | cons c cs =>
        have hfeeds : ∀ d ∈ cs, d = '\n' := tail_clusters h (c :: cs) hg
        have hupper : cs.map Char.toUpper = cs := map_of_newlines (by decide) hfeeds
        have hlower : cs.map Char.toLower = cs := map_of_newlines (by decide) hfeeds
        refine .inr ⟨c, cs ++ gs.flatten.map Char.toLower ++ ws.flatMap capitalized, ?_, ?_, ?_⟩
        · exact hascii c List.mem_cons_self
        · rw [List.flatMap_cons, capitalized_ascii hascii, List.map_cons, hupper]
          rfl
        · rw [String.toList_ofList, lower_ascii hascii, List.flatten_cons, List.map_append,
            List.map_cons, hlower]
          rfl

/-- Two ASCII names are spelled alike with all capitals just where they are without the first. -/
theorem camel_eq_iff {a b : String} (ha : IsAscii a.toList) (hb : IsAscii b.toList) :
    camel a = camel b ↔ pascal a = pascal b := by
  rw [← @String.toList_inj (camel a), ← @String.toList_inj (pascal a)]
  rcases spellings_cases ha with ⟨hp, hc⟩ | ⟨c, rest, hlt, hp, hc⟩ <;>
    rcases spellings_cases hb with ⟨hq, hd⟩ | ⟨d, rest', hlt', hq, hd⟩ <;>
    rw [hp, hc, hq, hd]
  · exact iff_of_false (List.cons_ne_nil _ _).symm (List.cons_ne_nil _ _).symm
  · exact iff_of_false (List.cons_ne_nil _ _) (List.cons_ne_nil _ _)
  · rw [List.cons.injEq, List.cons.injEq, toUpper_eq_iff hlt hlt']

end ContractHooks.Text
