-- Frames: the literals that a text is put together from, with other texts between them. Of some
-- properties, such as to have a certain word or a line end in it, a frame can neither have nor
-- bring about any. What is put in it then has the property just where a text between has it.
import ContractHooks.Proofs.Text.Word

namespace ContractHooks.Text

/-- A property that what is put in one of the frames has just where a text between the literals
has it. -/
structure Through (frames : List (List String)) (q : String → Prop) : Prop where
  empty : ¬ q ""
  frame : ∀ ls ∈ frames, ∀ vs : List String, ls.length = vs.length + 1 →
    (q (weave ls vs) ↔ ∃ v ∈ vs, q v)

variable {frames : List (List String)} {q : String → Prop}

theorem Through.of_eq (h : Through frames q) {text : String} (ls vs : List String)
    (htext : text = weave ls vs) (hls : ls ∈ frames) (hlen : ls.length = vs.length + 1) :
    q text ↔ ∃ v ∈ vs, q v := by
  subst htext
  exact h.frame ls hls vs hlen

theorem Through.literal (h : Through frames q) (text : String) (hls : [text] ∈ frames) :
    ¬ q text := by
  intro hq
  obtain ⟨v, hv, -⟩ := (h.frame [text] hls [] rfl).1 hq
  cases hv

theorem Through.intercalate (h : Through frames q) {sep : String} (hls : ["", sep, ""] ∈ frames)
    (ts : List String) : q (String.intercalate sep ts) ↔ ∃ t ∈ ts, q t := by
  induction ts with
  | nil => simpa using h.empty
  | cons t ts ih =>
    cases ts with
    | nil => simp
    | cons u ts =>
      have htext : String.intercalate sep (t :: u :: ts) =
          weave ["", sep, ""] [t, String.intercalate sep (u :: ts)] := by
        simp [weave, String.intercalate_cons_cons, String.append_assoc]
      rw [h.of_eq _ _ htext hls rfl]
      simp [ih]

/-- A word of a pool is seen through frames that add no words of the pool. -/
theorem through_hasWord {k : IdentifierClass} {pool : List String} {word : String}
    (hword : word ∈ pool) (h : ∀ ls ∈ frames, isFrame pool [] ls = true) :
    Through frames fun text => HasWord k text word where
  empty := not_hasWord_empty
  frame ls hls vs hlen := by
    rw [hasWord_of_frame hword [] ls vs rfl hlen (h ls hls)]
    simp

end ContractHooks.Text
