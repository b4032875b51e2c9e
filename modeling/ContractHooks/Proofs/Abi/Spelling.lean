-- The names and types that signatures are spelled with. The canonical type of a tuple spells out
-- the types of its components, so that what a signature has in it, such as a line end, can be
-- traced to a name or to a type that the interface was declared with.
import ContractHooks.Proofs.Abi.Group
import ContractHooks.Proofs.Text.Frame

namespace ContractHooks.Abi

/-! ## Spelled texts -/

mutual

/-- The types that the canonical type of a parameter spells: its own, and for a tuple those of its
components. -/
def Parameter.spelledTypes : Parameter → List String
  | ⟨_, type, _, some components, _⟩ =>
    if isTuple type then type :: spelledTypes components else [type]
  | ⟨_, type, _, none, _⟩ => [type]

/-- The types that the canonical types of parameters spell. -/
def spelledTypes : List Parameter → List String
  | [] => []
  | p :: ps => p.spelledTypes ++ spelledTypes ps

end

/-- The name and the types that the signature of an entry spells, if it is one that is grouped. -/
def Item.spelled : Item → List String
  | .function f => f.name :: spelledTypes f.inputs
  | .event e => e.name :: spelledTypes e.inputs
  | .error _ | .special _ _ => []

theorem type_of_tupleSuffix? {type suffix : String} (h : tupleSuffix? type = some suffix) :
    type = "tuple" ++ suffix := by
  unfold tupleSuffix? at h
  split at h
  · next htuple =>
    cases h
    obtain ⟨rest, hrest⟩ := List.isPrefixOf_iff_prefix.1 htuple
    have hcut : type.toList.drop 5 = rest := by
      rw [← hrest]
      rfl
    rw [← String.toList_inj, String.toList_append, hcut, ← hrest]
    exact congrArg _ String.toList_ofList.symm
  · cases h

/-- A selector has no characters but digits and the sign that these are of base sixteen. -/
theorem mem_selector {signature : String} {c : Char} (h : c ∈ (selector signature).toList) :
    c = 'x' ∨ ∃ n : Fin 16, c = Text.hexChar n.val := by
  rw [selector, String.toList_append, List.mem_append] at h
  rcases h with h | h
  · have hsign : "0x".toList = ['0', 'x'] := rfl
    rw [hsign, List.mem_cons, List.mem_singleton] at h
    rcases h with rfl | rfl
    · exact .inr ⟨0, by decide⟩
    · exact .inl rfl
  · rw [Text.hexOfBytes, String.toList_ofList, List.mem_flatMap] at h
    obtain ⟨b, -, h⟩ := h
    have hb : b.toNat < 256 := b.toNat_lt
    simp only [Text.hexOfByte, List.mem_cons, List.not_mem_nil, or_false] at h
    rcases h with rfl | rfl
    · exact .inr ⟨⟨b.toNat / 16, by omega⟩, rfl⟩
    · exact .inr ⟨⟨b.toNat % 16, by omega⟩, rfl⟩

/-! ## Traces -/

/-- The literals that tuples, signatures and lists of signatures are woven with. -/
def signatureFrames : List (List String) :=
  [["", ",", ""], ["(", ")", ""], ["", "(", ")"], ["`", "`"], ["`", "` (`", "`)"]]

/-- What a text can have in it that signatures neither have of their own nor bring about, such as
a line end. -/
structure Traceable (q : String → Prop) : Prop extends Text.Through signatureFrames q where
  selector : ∀ signature, ¬ q (selector signature)

/-- What moreover the word for tuples neither has nor brings about. -/
structure Spellable (q : String → Prop) : Prop extends Traceable q where
  tuple : ∀ suffix, q ("tuple" ++ suffix) ↔ q suffix

variable {q : String → Prop}

theorem Traceable.bracketed (h : Traceable q) (ts : List String) (suffix : String) :
    q ("(" ++ String.intercalate "," ts ++ ")" ++ suffix) ↔ (∃ t ∈ ts, q t) ∨ q suffix := by
  have htypes : q (String.intercalate "," ts) ↔ ∃ t ∈ ts, q t := h.intercalate (by decide) ts
  have htext : "(" ++ String.intercalate "," ts ++ ")" ++ suffix =
      Text.weave ["(", ")", ""] [String.intercalate "," ts, suffix] := by
    simp only [Text.weave, String.append_assoc, String.append_empty]
  rw [h.of_eq _ _ htext (by decide) rfl]
  simp [htypes]

/-- A signature has only what its name or one of its types has. -/
theorem Traceable.signature (h : Traceable q) (name : String) (inputs : List Parameter) :
    q (Abi.signature name inputs) ↔ ∃ t ∈ name :: inputs.map Parameter.canonicalType, q t := by
  have htypes : q (String.intercalate "," (canonicalTypes inputs)) ↔
      ∃ t ∈ canonicalTypes inputs, q t := h.intercalate (by decide) _
  have htext : Abi.signature name inputs = Text.weave ["", "(", ")"]
      [name, String.intercalate "," (canonicalTypes inputs)] := by
    simp only [Abi.signature, Text.weave, String.append_assoc, String.empty_append]
  rw [h.of_eq _ _ htext (by decide) rfl, ← canonicalTypes_eq_map]
  simp [htypes]

mutual

/-- A canonical type has only what a type that it spells has. -/
theorem Spellable.canonicalType (h : Spellable q) (p : Parameter) :
    q p.canonicalType ↔ ∃ t ∈ p.spelledTypes, q t := by
  match p with
  | ⟨_, type, _, none, _⟩ => simp [Parameter.canonicalType, Parameter.spelledTypes]
  | ⟨_, type, _, some components, _⟩ =>
    have hcomponents := h.canonicalTypes components
    unfold Parameter.canonicalType Parameter.spelledTypes isTuple
    cases hs : tupleSuffix? type with
    | none => simp
    | some suffix =>
      rw [type_of_tupleSuffix? hs]
      simp [h.bracketed, h.tuple, hcomponents, or_comm]

theorem Spellable.canonicalTypes (h : Spellable q) (ps : List Parameter) :
    (∃ t ∈ canonicalTypes ps, q t) ↔ ∃ t ∈ spelledTypes ps, q t := by
  match ps with
  | [] => simp [Abi.canonicalTypes, Abi.spelledTypes]
  | p :: ps =>
    have hp := h.canonicalType p
    have hps := h.canonicalTypes ps
    simp only [Abi.canonicalTypes, Abi.spelledTypes, List.mem_cons, List.mem_append,
      or_and_right, exists_or, exists_eq_left, hp, hps]

end

/-- The texts of an entry have only what its name or a type that it spells has. -/
theorem Spellable.texts (h : Spellable q) (item : Item) :
    (∃ t ∈ item.texts, q t) ↔ ∃ t ∈ item.spelled, q t := by
  have hspelled (name : String) (inputs : List Parameter) :
      (∃ t ∈ name :: inputs.map Parameter.canonicalType, q t) ↔
        ∃ t ∈ name :: spelledTypes inputs, q t := by
    have htypes := h.canonicalTypes inputs
    rw [canonicalTypes_eq_map] at htypes
    simp only [List.mem_cons, or_and_right, exists_or, exists_eq_left, htypes]
  cases item with
  | function f => exact hspelled f.name f.inputs
  | event e => exact hspelled e.name e.inputs
  | error e => exact Iff.rfl
  | special role f => exact Iff.rfl

end ContractHooks.Abi
