-- The lines of a text and its paragraphs, which a blank line divides. In a text that flows every
-- line end is followed by a character of a class. Texts that flow can be put together, and where
-- the class has no line end in it they have no blank line and do not end in a line end.
import ContractHooks.Proofs.Text.Frame

namespace ContractHooks.Text

/-! ## Line ends -/

/-- The text has no line end. -/
def OneLine (text : String) : Prop := '\n' ∉ text.toList

instance (text : String) : Decidable (OneLine text) := inferInstanceAs (Decidable (_ ∉ _))

@[simp] theorem oneLine_append {a b : String} : OneLine (a ++ b) ↔ OneLine a ∧ OneLine b := by
  simp [OneLine, not_or]

theorem oneLine_join {ts : List String} (h : ∀ t ∈ ts, OneLine t) : OneLine (String.join ts) := by
  induction ts with
  | nil => decide
  | cons t ts ih =>
    rw [String.join_cons, oneLine_append]
    exact ⟨h t List.mem_cons_self, ih fun u hu => h u (List.mem_cons_of_mem t hu)⟩

theorem oneLine_weave_iff {ls vs : List String} (hls : ∀ l ∈ ls, OneLine l)
    (hlen : ls.length = vs.length + 1) : OneLine (weave ls vs) ↔ ∀ v ∈ vs, OneLine v := by
  induction ls generalizing vs with
  | nil => cases hlen
  | cons l ls ih =>
    have hl := hls l List.mem_cons_self
    cases vs with
    | nil => simp [weave, hl]
    | cons v vs =>
      have hlen : ls.length = vs.length + 1 := by simpa using hlen
      have hrest := ih (fun m hm => hls m (List.mem_cons_of_mem l hm)) hlen
      simp [weave, hl, hrest]

/-- A line end is seen through frames in one line. -/
theorem through_lineEnd {frames : List (List String)} (h : ∀ ls ∈ frames, ∀ l ∈ ls, OneLine l) :
    Through frames fun text => ¬ OneLine text where
  empty := not_not_intro (by decide)
  frame ls hls vs hlen := by
    rw [oneLine_weave_iff (h ls hls) hlen]
    simp only [not_forall, exists_prop]

/-- Whether every line end is followed by a character of the class. -/
def flows (p : Char → Bool) : List Char → Bool
  | [] => true
  | c :: cs => (c != '\n' || cs.head?.any p) && flows p cs

/-- Every line end of the text is followed by a character of the class. -/
def Flows (p : Char → Bool) (text : String) : Prop := flows p text.toList = true

instance (p : Char → Bool) (text : String) : Decidable (Flows p text) :=
  inferInstanceAs (Decidable (_ = true))

/-- The text starts with a character of the class. -/
def Opens (p : Char → Bool) (text : String) : Prop := text.toList.head?.any p = true

instance (p : Char → Bool) (text : String) : Decidable (Opens p text) :=
  inferInstanceAs (Decidable (_ = true))

variable {p : Char → Bool}

theorem Opens.append {a : String} (h : Opens p a) (b : String) : Opens p (a ++ b) := by
  unfold Opens at h ⊢
  rw [String.toList_append]
  cases ha : a.toList with
  | nil =>
    rw [ha] at h
    cases h
  | cons c cs =>
    rw [ha] at h
    exact h

theorem flows_of_notMem {cs : List Char} (h : '\n' ∉ cs) : flows p cs = true := by
  induction cs with
  | nil => rfl
  | cons c cs ih =>
    have hc : c ≠ '\n' := fun e => h (e ▸ List.mem_cons_self)
    have hcs : '\n' ∉ cs := fun hm => h (List.mem_cons_of_mem c hm)
    simp [flows, hc, ih hcs]

theorem flows_append {a b : List Char} (ha : flows p a = true) (hb : flows p b = true) :
    flows p (a ++ b) = true := by
  induction a with
  | nil => exact hb
  | cons c a ih =>
    simp only [flows, Bool.and_eq_true, Bool.or_eq_true] at ha
    obtain ⟨hc, ha⟩ := ha
    simp only [List.cons_append, flows, ih ha, Bool.and_true, Bool.or_eq_true]
    refine hc.imp_right fun hany => ?_
    cases a with
    | nil => cases hany
    | cons d a => exact hany

theorem Flows.append {a b : String} (ha : Flows p a) (hb : Flows p b) : Flows p (a ++ b) := by
  unfold Flows
  rw [String.toList_append]
  exact flows_append ha hb

theorem flows_mono {r : Char → Bool} (hpr : ∀ c, p c = true → r c = true) {cs : List Char}
    (h : flows p cs = true) : flows r cs = true := by
  induction cs with
  | nil => rfl
  | cons c cs ih =>
    simp only [flows, Bool.and_eq_true, Bool.or_eq_true, Option.any_eq_true] at h ⊢
    obtain ⟨hc, hcs⟩ := h
    refine ⟨hc.imp_right ?_, ih hcs⟩
    rintro ⟨d, hd, hp⟩
    exact ⟨d, hd, hpr d hp⟩

theorem Flows.mono {r : Char → Bool} (hpr : ∀ c, p c = true → r c = true) {text : String}
    (h : Flows p text) : Flows r text := flows_mono hpr h

theorem OneLine.flows {text : String} (h : OneLine text) : Flows p text := flows_of_notMem h

/-- A line end may stand before a text that starts with a character of the class. -/
theorem Flows.lineEnd {text : String} (h : Flows p text) (hopens : Opens p text) :
    Flows p ("\n" ++ text) := by
  unfold Flows
  rw [String.toList_append]
  have hhead : text.toList.head?.any p = true := hopens
  have htext : Text.flows p text.toList = true := h
  show Text.flows p ('\n' :: text.toList) = true
  simp only [Text.flows, hhead, htext, Bool.or_true, Bool.and_true]

/-- A text flows if the literals and the texts that it is woven of flow. -/
theorem flows_of_weave {text : String} (ls vs : List String) (htext : text = weave ls vs)
    (hls : ∀ l ∈ ls, Flows p l) (hvs : ∀ v ∈ vs, Flows p v) : Flows p text := by
  subst htext
  induction ls generalizing vs with
  | nil => exact rfl
  | cons l ls ih =>
    have hl := hls l List.mem_cons_self
    cases vs with
    | nil => exact hl
    | cons v vs =>
      have hrest := ih vs (fun m hm => hls m (List.mem_cons_of_mem l hm))
        fun w hw => hvs w (List.mem_cons_of_mem v hw)
      exact hl.append ((hvs v List.mem_cons_self).append hrest)

/-- Texts with line ends between them flow if each starts with a character of the class. -/
theorem flows_intercalate {ts : List String} (h : ∀ t ∈ ts, Flows p t ∧ Opens p t) :
    Flows p (String.intercalate "\n" ts) ∧ (ts ≠ [] → Opens p (String.intercalate "\n" ts)) := by
  induction ts with
  | nil => exact ⟨rfl, fun hne => absurd rfl hne⟩
  | cons t ts ih =>
    obtain ⟨hflows, hopens⟩ := h t List.mem_cons_self
    obtain ⟨hrest, hstart⟩ := ih fun u hu => h u (List.mem_cons_of_mem t hu)
    cases ts with
    | nil =>
      rw [String.intercalate_singleton]
      exact ⟨hflows, fun _ => hopens⟩
    | cons u ts =>
      rw [String.intercalate_cons_cons, String.append_assoc]
      refine ⟨hflows.append (hrest.lineEnd (hstart (List.cons_ne_nil u ts))), fun _ => ?_⟩
      exact hopens.append _

/-! ## Lines -/

/-- The lines of a text. -/
def lines (text : String) : List String := (text.toList.splitOn '\n').map String.ofList

theorem lines_append_lineEnd (a b : String) : lines (a ++ "\n" ++ b) = lines a ++ lines b := by
  unfold lines
  have hcut : (a ++ "\n" ++ b).toList = a.toList ++ '\n' :: b.toList := by simp
  rw [hcut, List.splitOn_eq_splitOnP, List.splitOn_eq_splitOnP, List.splitOn_eq_splitOnP,
    List.splitOnP_append_cons _ _ (by simp), List.map_append]

/-- The first line takes what stands before it along. -/
theorem splitOn_append_of_notMem {a : List Char} (h : '\n' ∉ a) (b : List Char) :
    (a ++ b).splitOn '\n' = (b.splitOn '\n').modifyHead (a ++ ·) := by
  induction a with
  | nil =>
    show b.splitOn '\n' = _
    cases b.splitOn '\n' <;> rfl
  | cons c a ih =>
    have hc : (c == '\n') = false := by
      rw [beq_eq_false_iff_ne]
      rintro rfl
      exact h List.mem_cons_self
    have ih := ih fun hm => h (List.mem_cons_of_mem c hm)
    rw [List.splitOn_eq_splitOnP] at ih ⊢
    rw [List.cons_append, List.splitOnP_cons_eq_if_modifyHead, if_neg (by simp [hc]), ih]
    cases b.splitOn '\n' <;> rfl

/-- The first line of a text starts as the text does, unless that is a line end. -/
theorem exists_splitOn (cs : List Char) (hp : p '\n' = false) :
    ∃ first rest, cs.splitOn '\n' = first :: rest ∧
      (cs.head?.any p = true → first.head?.any p = true) := by
  cases cs with
  | nil => exact ⟨[], [], rfl, fun h => h⟩
  | cons c cs =>
    by_cases hc : c = '\n'
    · refine ⟨[], cs.splitOn '\n', ?_, fun h => ?_⟩
      · subst hc
        rw [List.splitOn_eq_splitOnP, List.splitOnP_cons_eq_if_modifyHead]
        rfl
      · subst hc
        have hnot : p '\n' = true := h
        rw [hp] at hnot
        cases hnot
    · have hone : '\n' ∉ [c] := by
        intro hm
        exact hc (List.mem_singleton.1 hm).symm
      rw [← List.singleton_append, splitOn_append_of_notMem hone]
      cases hs : cs.splitOn '\n' with
      | nil => exact absurd hs (List.splitOn_ne_nil _ _)
      | cons first rest => exact ⟨[c] ++ first, rest, rfl, fun h => h⟩

/-- Each line but the first starts with a character of the class. -/
theorem head?_of_mem_tail_splitOn (hp : p '\n' = false) {cs : List Char}
    (h : flows p cs = true) {line : List Char} (hline : line ∈ (cs.splitOn '\n').tail) :
    line.head?.any p = true := by
  induction cs with
  | nil => cases hline
  | cons c cs ih =>
    simp only [flows, Bool.and_eq_true, Bool.or_eq_true, bne_iff_ne] at h
    obtain ⟨hc, h⟩ := h
    obtain ⟨first, rest, hs, hfirst⟩ := exists_splitOn cs hp
    rw [hs] at ih
    rw [List.splitOn_eq_splitOnP, List.splitOnP_cons_eq_if_modifyHead,
      ← List.splitOn_eq_splitOnP, hs] at hline
    by_cases he : c = '\n'
    · rw [if_pos (by simp [he])] at hline
      rcases List.mem_cons.1 hline with rfl | hline
      · exact hfirst (hc.resolve_left fun hne => hne he)
      · exact ih h hline
    · rw [if_neg (by simp [he])] at hline
      exact ih h hline

/-- Each line starts with a character of the class, if the text does. -/
theorem opens_of_mem_lines (hp : p '\n' = false) {text : String} (h : Flows p text)
    (hopens : Opens p text) {line : String} (hline : line ∈ lines text) : Opens p line := by
  obtain ⟨cs, hcs, rfl⟩ := List.mem_map.1 hline
  unfold Opens
  rw [String.toList_ofList]
  obtain ⟨first, rest, hs, hfirst⟩ := exists_splitOn text.toList hp
  rw [hs] at hcs
  rcases List.mem_cons.1 hcs with rfl | hcs
  · exact hfirst hopens
  · exact head?_of_mem_tail_splitOn hp h (by rwa [hs])

/-- A text in one line stands in the first line of what it is put before. The lines behind start
with a character of the class if all line ends behind it are followed by one. -/
theorem lines_append_of_oneLine (hp : p '\n' = false) {a b : String} (ha : OneLine a)
    (hb : Flows p b) {r : Char → Bool} (hr : r '\n' = false) (hopens : Opens r b) :
    ∃ rest behind, lines (a ++ b) = (a ++ rest) :: behind ∧ Opens r rest ∧
      ∀ line ∈ behind, Opens p line := by
  obtain ⟨first, others, hs, hfirst⟩ := exists_splitOn b.toList hr
  refine ⟨String.ofList first, others.map String.ofList, ?_, ?_, ?_⟩
  · unfold lines
    rw [String.toList_append, splitOn_append_of_notMem ha, hs]
    simp
  · unfold Opens
    rw [String.toList_ofList]
    exact hfirst hopens
  · intro line hline
    obtain ⟨cs, hcs, rfl⟩ := List.mem_map.1 hline
    unfold Opens
    rw [String.toList_ofList]
    exact head?_of_mem_tail_splitOn hp hb (by rwa [hs])

/-! ## Paragraphs -/

/-- The parts of a text between its blank lines, a blank line being two line ends in a row. -/
def cutAtBlank : List Char → List (List Char)
  | [] => [[]]
  | [c] => [[c]]
  | c :: d :: cs =>
    if c = '\n' ∧ d = '\n' then [] :: cutAtBlank cs
    else (cutAtBlank (d :: cs)).modifyHead (c :: ·)

/-- The paragraphs of a text. -/
def paragraphs (text : String) : List String := (cutAtBlank text.toList).map String.ofList

theorem cutAtBlank_of_flows (hp : p '\n' = false) {cs : List Char} (h : flows p cs = true) :
    cutAtBlank cs = [cs] := by
  induction cs with
  | nil => rfl
  | cons c cs ih =>
    simp only [flows, Bool.and_eq_true, Bool.or_eq_true, bne_iff_ne] at h
    cases cs with
    | nil => rfl
    | cons d cs =>
      have hblank : ¬ (c = '\n' ∧ d = '\n') := by
        rintro ⟨rfl, rfl⟩
        have hnot : p '\n' = true := h.1.resolve_left fun hne => hne rfl
        rw [hp] at hnot
        cases hnot
      rw [cutAtBlank, if_neg hblank, ih h.2]
      rfl

/-- A text that flows is cut off at the first blank line behind it. -/
theorem cutAtBlank_append (hp : p '\n' = false) {a : List Char} (h : flows p a = true)
    (b : List Char) : cutAtBlank (a ++ '\n' :: '\n' :: b) = a :: cutAtBlank b := by
  induction a with
  | nil => simp [cutAtBlank]
  | cons c a ih =>
    simp only [flows, Bool.and_eq_true, Bool.or_eq_true, bne_iff_ne] at h
    have ih := ih h.2
    cases a with
    | nil =>
      have hc : c ≠ '\n' := h.1.resolve_right fun hany => by cases hany
      rw [List.nil_append] at ih
      rw [List.singleton_append, cutAtBlank, if_neg fun hb => hc hb.1, ih]
      rfl
    | cons d a =>
      have hblank : ¬ (c = '\n' ∧ d = '\n') := by
        rintro ⟨rfl, rfl⟩
        have hnot : p '\n' = true := h.1.resolve_left fun hne => hne rfl
        rw [hp] at hnot
        cases hnot
      rw [List.cons_append, List.cons_append, cutAtBlank, if_neg hblank, ← List.cons_append, ih]
      rfl

/-- Texts that flow, with blank lines between them, are the paragraphs of the whole. -/
theorem paragraphs_intercalate {ts : List String} (hne : ts ≠ [])
    (h : ∀ t ∈ ts, ∃ p : Char → Bool, p '\n' = false ∧ Flows p t) :
    paragraphs (String.intercalate "\n\n" ts) = ts := by
  induction ts with
  | nil => exact absurd rfl hne
  | cons t ts ih =>
    obtain ⟨p, hp, ht⟩ := h t List.mem_cons_self
    unfold paragraphs
    cases ts with
    | nil =>
      rw [String.intercalate_singleton, cutAtBlank_of_flows hp ht, List.map_singleton,
        String.ofList_toList]
    | cons u ts =>
      have ih := ih (List.cons_ne_nil u ts) fun v hv => h v (List.mem_cons_of_mem t hv)
      have hcut : (String.intercalate "\n\n" (t :: u :: ts)).toList =
          t.toList ++ '\n' :: '\n' :: (String.intercalate "\n\n" (u :: ts)).toList := by
        rw [String.intercalate_cons_cons]
        simp
      rw [hcut, cutAtBlank_append hp ht, List.map_cons, String.ofList_toList]
      exact congrArg (t :: ·) ih

end ContractHooks.Text
