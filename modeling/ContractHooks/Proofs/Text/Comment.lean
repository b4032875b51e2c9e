-- Where a block comment ends: at the first `*/` behind its start. Texts that are put into a comment
-- leave its end where it is as long as none of them has these two characters in a row, and as long
-- as the literals around them cannot lend one of the two.
import ContractHooks.Proofs.Text.Frame

namespace ContractHooks.Text

/-! ## Texts that end a comment -/

/-- What stands behind the first `*/`, if there is one. -/
def behindClose : List Char → Option (List Char)
  | [] => none
  | [_] => none
  | c :: d :: cs => if c = '*' ∧ d = '/' then some cs else behindClose (d :: cs)

/-- The text would end a comment that it is put into. -/
def Closes (text : String) : Prop := (behindClose text.toList).isSome = true

instance (text : String) : Decidable (Closes text) := inferInstanceAs (Decidable (_ = true))

/-- What closes a comment closes it whatever comes behind. -/
theorem behindClose_append {a rest : List Char} (h : behindClose a = some rest) (b : List Char) :
    behindClose (a ++ b) = some (rest ++ b) := by
  induction a with
  | nil => cases h
  | cons c a ih =>
    cases a with
    | nil => cases h
    | cons d a =>
      unfold behindClose at h
      rw [List.cons_append, List.cons_append, behindClose]
      split at h
      · next hclose =>
        cases h
        rw [if_pos hclose]
      · next hclose =>
        rw [if_neg hclose, ← List.cons_append]
        exact ih h

/-- Texts that do not close a comment close it together only if the one ends and the other starts
with a character of the close. -/
theorem behindClose_append_of_none {a : List Char} (h : behindClose a = none) (b : List Char)
    (hmeet : a.getLast? ≠ some '*' ∨ b.head? ≠ some '/') :
    behindClose (a ++ b) = behindClose b := by
  induction a with
  | nil => rfl
  | cons c a ih =>
    cases a with
    | nil =>
      cases b with
      | nil => rfl
      | cons d b =>
        have hclose : ¬ (c = '*' ∧ d = '/') := by
          rintro ⟨rfl, rfl⟩
          rcases hmeet with hmeet | hmeet <;> exact hmeet rfl
        show behindClose (c :: d :: b) = _
        rw [behindClose, if_neg hclose]
    | cons d a =>
      unfold behindClose at h
      split at h
      · cases h
      · next hclose =>
        rw [List.cons_append, List.cons_append, behindClose, if_neg hclose, ← List.cons_append]
        refine ih h ?_
        rwa [List.getLast?_cons_cons] at hmeet

theorem closes_append {a b : String}
    (hmeet : a.toList.getLast? ≠ some '*' ∨ b.toList.head? ≠ some '/') :
    Closes (a ++ b) ↔ Closes a ∨ Closes b := by
  unfold Closes
  rw [String.toList_append]
  cases ha : behindClose a.toList with
  | some rest => simp [behindClose_append ha]
  | none => simp [behindClose_append_of_none ha _ hmeet]

theorem closes_join {ts : List String} (h : ∀ t ∈ ts, t.toList.getLast? ≠ some '*') :
    Closes (String.join ts) ↔ ∃ t ∈ ts, Closes t := by
  induction ts with
  | nil => simp [Closes, behindClose]
  | cons t ts ih =>
    rw [String.join_cons, closes_append (.inl (h t List.mem_cons_self)),
      ih fun u hu => h u (List.mem_cons_of_mem t hu)]
    simp

/-- Before its end a comment is left open just where nothing before it closes it. -/
theorem behindClose_eq_iff (a : String) (b : List Char) :
    behindClose (a.toList ++ '*' :: '/' :: b) = some b ↔ ¬ Closes a := by
  unfold Closes
  cases ha : behindClose a.toList with
  | none =>
    rw [behindClose_append_of_none ha _ (.inr (by simp)), behindClose, if_pos ⟨rfl, rfl⟩]
    simp
  | some rest =>
    rw [behindClose_append ha]
    simp only [Option.some.injEq, Option.isSome_some, not_true_eq_false, iff_false]
    intro heq
    have hlen := congrArg List.length heq
    simp only [List.length_append, List.length_cons] at hlen
    omega

theorem star_mem_of_behindClose {cs : List Char} (h : (behindClose cs).isSome = true) :
    '*' ∈ cs := by
  induction cs with
  | nil => cases h
  | cons c cs ih =>
    cases cs with
    | nil => cases h
    | cons d cs =>
      unfold behindClose at h
      split at h
      · next hclose =>
        rw [hclose.1]
        exact List.mem_cons_self
      · exact List.mem_cons_of_mem c (ih h)

/-! ## Frames -/

/-- Whether literals neither close a comment nor lend a text between them a character of the
close. -/
def isGuard (ls : List String) : Bool :=
  ls.all (fun l => decide (¬ Closes l)) &&
    fences (fun s => s.toList.getLast? != some '*') (fun s => s.toList.head? != some '/') ls

theorem closes_weave {ls vs : List String} (h : isGuard ls = true)
    (hlen : ls.length = vs.length + 1) : Closes (weave ls vs) ↔ ∃ v ∈ vs, Closes v := by
  simp only [isGuard, Bool.and_eq_true, List.all_eq_true, decide_eq_true_eq] at h
  obtain ⟨hls, hfences⟩ := h
  rw [weave_iff Closes (fun a b hapart => ?_) (fun a b hne hstarts => ?_) hfences hlen]
  · refine or_iff_right ?_
    rintro ⟨l, hl, hcloses⟩
    exact hls l hl hcloses
  · simp only [bne_iff_ne] at hapart
    exact closes_append hapart
  · have hne : a.toList ≠ [] := by simpa using hne
    rwa [String.toList_append, List.head?_append_of_ne_nil _ hne]

/-- The end of a comment is seen through frames that are guards. -/
theorem through_close {frames : List (List String)} (h : ∀ ls ∈ frames, isGuard ls = true) :
    Through frames Closes where
  empty := by decide
  frame ls hls vs hlen := closes_weave (h ls hls) hlen

end ContractHooks.Text
