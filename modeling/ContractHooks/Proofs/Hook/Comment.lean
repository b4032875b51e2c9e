-- The comment of a hook, and where it ends. It ends with its last line, unless a text that it tells
-- closes it before.
import ContractHooks.Proofs.Hook.Function
import ContractHooks.Proofs.Hook.Given
import ContractHooks.Proofs.Text.Comment

namespace ContractHooks.Hook

open Text (Closes behindClose)

/-- A close in a signature is one of its name or of a type. -/
theorem spellable_close : Abi.Spellable Closes where
  toThrough := Text.through_close (by decide)
  selector signature hcloses := by
    have hdigit : ∀ n : Fin 16, '*' ≠ Text.hexChar n.val := by decide
    rcases Abi.mem_selector (Text.star_mem_of_behindClose hcloses) with hx | ⟨n, hn⟩
    · exact absurd hx (by decide)
    · exact hdigit n hn
  tuple suffix := by
    have htuple : ¬ Closes "tuple" := by decide
    rw [Text.closes_append (.inl (by decide))]
    exact or_iff_right htuple

theorem closes_overloadList (signatures : List String) :
    Closes (overloadList signatures) ↔ ∃ s ∈ signatures, Closes s := by
  have hline (s : String) : Closes (overloadLine s) ↔ Closes s := by
    have hthrough : Text.Through [[" * - ", "\n"]] Closes := Text.through_close (by decide)
    have htext : overloadLine s = Text.weave [" * - ", "\n"] [s] := String.append_assoc ..
    rw [hthrough.of_eq _ _ htext List.mem_cons_self rfl]
    simp
  have hends : ∀ t ∈ signatures.map overloadLine, t.toList.getLast? ≠ some '*' := by
    intro t ht
    obtain ⟨s, -, rfl⟩ := List.mem_map.1 ht
    unfold overloadLine
    rw [String.toList_append, List.getLast?_append_of_ne_nil _ (by decide)]
    decide
  unfold overloadList
  by_cases hnone : signatures = []
  · have hempty : ¬ Closes "" := by decide
    simp [hnone, hempty]
  · have hhead : ¬ Closes " *\n * Overloads:\n" := by decide
    rw [if_neg (by simpa using hnone), Text.closes_append (.inl (by decide)), or_iff_right hhead,
      Text.closes_join hends]
    simp [hline]

theorem map_name_mentions (target : Target) (member : Option Member) :
    (mentions target member).map Mention.name =
      targetNames target ++ (member.map Member.name).toList := by
  cases target <;> cases member <;> rfl

/-- Before its end a comment is closed just where a text that it tells closes it. -/
theorem closes_commentBody (l : Layout) (target : Target) (member : Option Member) :
    Closes (commentBody l.primitive target member) ↔ ∃ t ∈ givenTexts target member, Closes t := by
  have hwording : Text.Through wordingFrames Closes := Text.through_close (by decide)
  have hcomment : Text.Through [["/**\n * Wraps ", " with ", ".\n", ""]] Closes :=
    Text.through_close (by decide)
  have hprimitive : ¬ Closes (Mention.link l.primitive) := by
    cases l <;> decide
  have hmentions : Closes (series ((mentions target member).map Mention.text)) ↔
      ∃ n ∈ targetNames target ++ (member.map Member.name).toList, Closes n := by
    rw [series_iff hwording, ← map_name_mentions]
    simp [mention_iff hwording]
  have htext : commentBody l.primitive target member =
      Text.weave ["/**\n * Wraps ", " with ", ".\n", ""]
        [Mention.link l.primitive, series ((mentions target member).map Mention.text),
          overloadList ((member.map Member.signatures).getD [])] := by
    unfold commentBody
    simp only [Text.weave, String.append_assoc, String.append_empty]
  rw [hcomment.of_eq _ _ htext List.mem_cons_self rfl]
  simp only [List.mem_cons, List.not_mem_nil, or_false, exists_eq_or_imp, exists_eq_left,
    hprimitive, false_or, hmentions, closes_overloadList]
  cases member with
  | none => simp [givenTexts]
  | some m => simp [givenTexts, or_and_right, exists_or, or_assoc]

/-- The text of a hook is its comment, the end of it, and the function on the next lines. -/
theorem text_eq_comment (hook : Hook) (name : String) (target : Target) (dialect : Dialect) :
    (hook.fragment name target).text dialect =
      commentBody hook.layout.primitive target hook.member ++ " " ++ "*/"
        ++ ("\n" ++ (hook.parts name target).function dialect) := by
  have hend : " */\n" = " " ++ "*/" ++ "\n" := by decide
  rw [text_eq_function, docComment_eq, hend]
  simp only [String.append_assoc]

/-- The comment of a hook ends where its own end is written just where no text that it tells closes
it before. -/
theorem behindClose_text (hook : Hook) (name : String) (target : Target) (dialect : Dialect) :
    behindClose ((hook.fragment name target).text dialect).toList =
        some ("\n" ++ (hook.parts name target).function dialect).toList ↔
      ∀ t ∈ givenTexts target hook.member, ¬ Closes t := by
  have hspace : ¬ Closes " " := by decide
  have hbody := closes_commentBody hook.layout target hook.member
  have hclose : (("*/" : String) ++ ("\n" ++ (hook.parts name target).function dialect)).toList =
      '*' :: '/' :: ("\n" ++ (hook.parts name target).function dialect).toList := by
    rw [String.toList_append]
    rfl
  rw [text_eq_comment, String.append_assoc, String.toList_append, hclose,
    Text.behindClose_eq_iff, Text.closes_append (.inr (by decide)), or_iff_left hspace, hbody]
  simp only [not_exists, not_and]

end ContractHooks.Hook
