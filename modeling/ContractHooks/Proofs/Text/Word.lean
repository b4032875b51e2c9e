-- The words of a text, where a word is a maximal run of characters of identifiers. A text is
-- often woven of literals and other texts. Literals without such a character where they meet
-- another text keep its words as they are, and add their own.
import ContractHooks.Proofs.Text.Runs

namespace ContractHooks.Text

/-! ## Identifiers -/

/-- Whether a character below 128 can be part of an identifier. -/
def isAsciiPart (c : Char) : Bool := c.isAlphanum || c == '_' || c == '$'

/-- The characters of identifiers. Which ones there are from 128 on is left open. -/
structure IdentifierClass where
  holds : Char → Bool
  ascii : ∀ c : Char, c.toNat < 128 → holds c = isAsciiPart c

/-- The class without characters from 128 on. -/
def IdentifierClass.plain : IdentifierClass := ⟨isAsciiPart, fun _ _ => rfl⟩

/-- The word is one of the words of the text. -/
def HasWord (k : IdentifierClass) (text word : String) : Prop :=
  word.toList ∈ runs k.holds text.toList

instance (k : IdentifierClass) (text word : String) : Decidable (HasWord k text word) :=
  inferInstanceAs (Decidable (_ ∈ _))

variable {k : IdentifierClass}

/-- Whether the text is a word: not empty, and all of characters of identifiers below 128. -/
def isWord (text : String) : Bool :=
  !text.toList.isEmpty && text.toList.all fun c => decide (c.toNat < 128) && isAsciiPart c

theorem hasWord_iff {word : String} (h : isWord word = true) (text : String) :
    HasWord k text word ↔ StandsIn k.holds word.toList text.toList := by
  simp only [isWord, Bool.and_eq_true, Bool.not_eq_true', List.all_eq_true, decide_eq_true_eq] at h
  refine mem_runs_iff (fun c hc => ?_) fun hnil => ?_
  · exact (k.ascii c (h.2 c hc).1).trans (h.2 c hc).2
  · rw [hnil] at h
    cases h.1

/-- A word has no characters but those of its text. -/
theorem HasWord.subset {text word : String} (h : HasWord k text word) :
    word.toList ⊆ text.toList := by
  obtain ⟨before, after, heq, -, -⟩ := standsIn_of_mem_runs h
  intro c hc
  rw [heq]
  simp [hc]

theorem not_hasWord_empty {word : String} : ¬ HasWord k "" word := by
  intro h
  cases h

/-! ## Texts side by side -/

/-- Two texts have their words apart if the first ends, or the second starts, outside the
class. -/
theorem hasWord_append {a b word : String}
    (h : EndsOutside k.holds a.toList ∨ StartsOutside k.holds b.toList) :
    HasWord k (a ++ b) word ↔ HasWord k a word ∨ HasWord k b word := by
  unfold HasWord
  rw [String.toList_append, runs_append h, List.mem_append]

theorem hasWord_join {ts : List String} {word : String}
    (h : ∀ t ∈ ts, EndsOutside k.holds t.toList) :
    HasWord k (String.join ts) word ↔ ∃ t ∈ ts, HasWord k t word := by
  induction ts with
  | nil => simp [not_hasWord_empty]
  | cons t ts ih =>
    rw [String.join_cons, hasWord_append (.inl (h t List.mem_cons_self)),
      ih fun u hu => h u (List.mem_cons_of_mem t hu)]
    simp

/-! ## Literals -/

/-- Whether no character of the text is from 128 on. -/
def isAscii (text : String) : Bool := text.toList.all fun c => c.toNat < 128

theorem runs_of_isAscii {text : String} (h : isAscii text = true) :
    runs k.holds text.toList = runs isAsciiPart text.toList := by
  refine runs_congr fun c hc => k.ascii c ?_
  simpa using List.all_eq_true.1 h c hc

theorem endsOutside_of_isAscii {text : String} (h : isAscii text = true)
    (hends : EndsOutside isAsciiPart text.toList) : EndsOutside k.holds text.toList := by
  intro c hc
  have hlt : c.toNat < 128 := by simpa using List.all_eq_true.1 h c (List.mem_of_getLast? hc)
  rw [k.ascii c hlt]
  exact hends c hc

theorem startsOutside_of_isAscii {text : String} (h : isAscii text = true)
    (hstarts : StartsOutside isAsciiPart text.toList) : StartsOutside k.holds text.toList := by
  intro c hc
  have hlt : c.toNat < 128 := by simpa using List.all_eq_true.1 h c (List.mem_of_head? hc)
  rw [k.ascii c hlt]
  exact hstarts c hc

theorem endsOutside_append {a text : String} (hne : text.toList ≠ [])
    (hends : EndsOutside isAsciiPart text.toList) (h : isAscii text = true) :
    EndsOutside k.holds (a ++ text).toList := by
  intro c hc
  rw [String.toList_append, List.getLast?_append_of_ne_nil _ hne] at hc
  exact endsOutside_of_isAscii h hends c hc

/-! ## Woven texts -/

/-- Literals with other texts between them. -/
def weave : List String → List String → String
  | l :: ls, v :: vs => l ++ (v ++ weave ls vs)
  | l :: _, [] => l
  | [], _ => ""

/-- Whether each literal that is followed by another text ends, and each that follows one starts, so
that it keeps that text apart. -/
def fences (ends starts : String → Bool) : List String → Bool
  | [] => true
  | [_] => true
  | l :: m :: ls => ends l && starts m && (m != "" || ls.isEmpty) && fences ends starts (m :: ls)

/-- If a text in two parts that are kept apart has a property just where one of the parts has it,
then what is woven has it just where a literal or a text between them has it. -/
theorem weave_iff (q : String → Prop) {ends starts : String → Bool}
    (happend : ∀ a b, ends a = true ∨ starts b = true → (q (a ++ b) ↔ q a ∨ q b))
    (hstarts : ∀ a b, a ≠ "" → starts a = true → starts (a ++ b) = true) {ls vs : List String}
    (h : fences ends starts ls = true) (hlen : ls.length = vs.length + 1) :
    q (weave ls vs) ↔ (∃ l ∈ ls, q l) ∨ ∃ v ∈ vs, q v := by
  -- Each text in between takes the literal before it along; the last literal is left.
  induction vs generalizing ls with
  | nil =>
    obtain ⟨l, rfl⟩ := List.length_eq_one_iff.1 hlen
    simp [weave]
  | cons v vs ih =>
    match ls, hlen with
    | l :: m :: ls, hlen =>
      simp only [fences, Bool.and_eq_true, Bool.or_eq_true, bne_iff_ne, List.isEmpty_iff] at h
      obtain ⟨⟨⟨hl, hm⟩, hne⟩, hrest⟩ := h
      have hweave : starts (weave (m :: ls) vs) = true := by
        cases vs with
        | nil => exact hm
        | cons w vs =>
          refine hstarts m _ (hne.resolve_right fun hnil => ?_) hm
          subst hnil
          cases hlen
      rw [weave, happend _ _ (.inl hl), happend _ _ (.inr hweave),
        ih hrest (by simpa using hlen)]
      simp only [List.mem_cons, exists_eq_or_imp, or_assoc, or_left_comm]

/-- Whether literals keep the words of what is between them as they are. -/
def isFence : List String → Bool
  | [] => true
  | [l] => isAscii l
  | l :: m :: ls =>
    isAscii l && decide (EndsOutside isAsciiPart l.toList)
      && decide (StartsOutside isAsciiPart m.toList) && (m != "" || ls.isEmpty)
      && isFence (m :: ls)

theorem isAscii_of_isFence {l : String} {ls : List String} (h : isFence (l :: ls) = true) :
    isAscii l = true := by
  cases ls with
  | nil => exact h
  | cons m ls =>
    simp only [isFence, Bool.and_eq_true] at h
    exact h.1.1.1.1

theorem fences_of_isFence {ls : List String} (h : isFence ls = true) :
    fences (fun s => decide (EndsOutside k.holds s.toList))
      (fun s => decide (StartsOutside k.holds s.toList)) ls = true := by
  induction ls with
  | nil => rfl
  | cons l ls ih =>
    cases ls with
    | nil => rfl
    | cons m ls =>
      simp only [isFence, Bool.and_eq_true, decide_eq_true_eq] at h
      obtain ⟨⟨⟨⟨hl, hends⟩, hstarts⟩, hne⟩, hrest⟩ := h
      simp only [fences, Bool.and_eq_true, decide_eq_true_eq]
      exact ⟨⟨⟨endsOutside_of_isAscii hl hends,
        startsOutside_of_isAscii (isAscii_of_isFence hrest) hstarts⟩, hne⟩, ih hrest⟩

/-- The words of what is woven are those of the literals and those of what is between them. -/
theorem hasWord_weave {ls vs : List String} {word : String} (h : isFence ls = true)
    (hlen : ls.length = vs.length + 1) :
    HasWord k (weave ls vs) word ↔ (∃ l ∈ ls, HasWord k l word) ∨ ∃ v ∈ vs, HasWord k v word := by
  have hfences := fences_of_isFence (k := k) h
  refine weave_iff (fun text => HasWord k text word) (fun a b hapart => ?_)
    (fun a b hne hstarts => ?_) hfences hlen
  · simp only [decide_eq_true_eq] at hapart
    exact hasWord_append hapart
  · have hne : a.toList ≠ [] := by simpa using hne
    simp only [decide_eq_true_eq] at hstarts ⊢
    rw [String.toList_append]
    unfold StartsOutside
    rwa [List.head?_append_of_ne_nil _ hne]

/-- The words of literals that are in a pool. -/
def wordsOf (pool ls : List String) : List String :=
  ((ls.flatMap fun l => runs isAsciiPart l.toList).map String.ofList).filter fun w =>
    pool.contains w

/-- Whether literals keep the words of what is between them as they are, and add just the given
ones of a pool. -/
def isFrame (pool words ls : List String) : Bool := isFence ls && wordsOf pool ls == words

theorem isAscii_of_mem_isFence {ls : List String} (h : isFence ls = true) {l : String}
    (hl : l ∈ ls) : isAscii l = true := by
  induction ls with
  | nil => cases hl
  | cons m ls ih =>
    rcases List.mem_cons.1 hl with rfl | hl
    · exact isAscii_of_isFence h
    · cases ls with
      | nil => cases hl
      | cons n ls =>
        simp only [isFence, Bool.and_eq_true] at h
        exact ih h.2 hl

theorem mem_wordsOf_iff {pool ls : List String} (h : isFence ls = true) {word : String}
    (hword : word ∈ pool) : word ∈ wordsOf pool ls ↔ ∃ l ∈ ls, HasWord k l word := by
  unfold wordsOf
  rw [List.mem_filter, List.contains_iff_mem, and_iff_left hword, List.mem_map]
  constructor
  · rintro ⟨run, hrun, rfl⟩
    obtain ⟨l, hl, hrun⟩ := List.mem_flatMap.1 hrun
    refine ⟨l, hl, ?_⟩
    rwa [HasWord, runs_of_isAscii (isAscii_of_mem_isFence h hl), String.toList_ofList]
  · rintro ⟨l, hl, hrun⟩
    rw [HasWord, runs_of_isAscii (isAscii_of_mem_isFence h hl)] at hrun
    exact ⟨word.toList, List.mem_flatMap.2 ⟨l, hl, hrun⟩, String.ofList_toList⟩

/-- A text in a frame has the words of the pool that the frame adds and those of what is in
it. -/
theorem hasWord_of_frame {pool : List String} {word : String} (hword : word ∈ pool)
    {text : String} (words ls vs : List String) (htext : text = weave ls vs)
    (hlen : ls.length = vs.length + 1) (h : isFrame pool words ls = true) :
    HasWord k text word ↔ word ∈ words ∨ ∃ v ∈ vs, HasWord k v word := by
  rw [isFrame, Bool.and_eq_true, beq_iff_eq] at h
  obtain ⟨hfence, rfl⟩ := h
  rw [htext, hasWord_weave hfence hlen, mem_wordsOf_iff hfence hword]

theorem hasWord_literal {pool : List String} {word : String} (hword : word ∈ pool)
    {text : String} (words : List String) (h : isFrame pool words [text] = true) :
    HasWord k text word ↔ word ∈ words := by
  have htext : text = weave [text] [] := rfl
  rw [hasWord_of_frame hword words _ _ htext rfl h]
  simp

end ContractHooks.Text
